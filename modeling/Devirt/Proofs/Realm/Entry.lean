import Devirt.Proofs.Realm.Evaluation

/-
  How the code of a function is entered, and how it loops.

  Main declarations:
    * `Declares`, `Closure.Takes`, the names of a function
    * `gives_enterClosure`, `gives_enterArguments`
    * `Added`, `gives_makeClosure`, `gives_evaluateAs`
    * `gives_closure`
    * `Loops`, `Loops.gives`
-/

namespace Devirt

namespace Realm

open Script (Tree)

variable {w : World}
variable {env : Env}

------------------------------------------------------------
-- Scopes
------------------------------------------------------------

/- The frames with a scope for names, if there are any. -/
def inScope (xs : List String) (n : Nat) (frames : List Frame) :
    List Frame :=
  if xs.isEmpty then frames else .names (xs.zipIdx n) :: frames

theorem plain_inScope
    (xs : List String)
    (n : Nat)
    {frames : List Frame}
    (hPlain : Plain frames) :
    Plain (inScope xs n frames) := by
  unfold inScope
  split
  · exact hPlain
  · intro f hMember
    rcases List.mem_cons.mp hMember with rfl | hRest
    · exact ⟨_, rfl⟩
    · exact hPlain f hRest

theorem gives_makeCells
    (cells : List (String × Cell))
    (w : World) :
    (makeCells cells).Gives w fun bindings w' =>
      bindings = (cells.map (·.1)).zipIdx w.cells.size ∧
        w' = w.extend (cells.map (·.2)) := by
  unfold makeCells
  induction cells generalizing w with
  | nil => exact ⟨rfl, by simp [World.extend]⟩
  | cons cell cells ih =>
      rw [List.mapM_cons]
      refine Run.Gives.bind
        (Q := fun b w' =>
          b = (cell.1, w.cells.size) ∧ w' = w.extend [cell.2])
        ⟨rfl, by simp [World.extend]⟩ ?_
      rintro _ _ ⟨rfl, rfl⟩
      refine (ih (w.extend [cell.2])).bind ?_
      rintro _ _ ⟨rfl, rfl⟩
      refine ⟨?_, extend_extend w _ _⟩
      simp [World.extend]

theorem gives_enterScope
    (env : Env)
    (cells : List (String × Cell))
    (w : World) :
    (enterScope env cells).Gives w fun env' w' =>
      env' =
          { env with
            frames :=
              inScope (cells.map (·.1)) w.cells.size env.frames } ∧
        w' = w.extend (cells.map (·.2)) := by
  unfold enterScope inScope
  cases cells with
  | nil => exact ⟨rfl, by simp [World.extend]⟩
  | cons cell cells =>
      refine (gives_makeCells (cell :: cells) w).bind ?_
      rintro _ _ ⟨rfl, rfl⟩
      exact ⟨rfl, rfl⟩

theorem cellIn?_inScope_of_mem
    {xs : List String}
    {i : Nat}
    {x : String}
    (n : Nat)
    (frames : List Frame)
    (hDistinct : xs.Nodup)
    (hPlace : xs[i]? = some x) :
    cellIn? x (inScope xs n frames) = some (n + i) := by
  have hFound :
      (xs.zipIdx n).find? (fun b => b.1 == x) = some (x, n + i) := by
    induction xs generalizing n i with
    | nil => cases hPlace
    | cons y xs ih =>
        rcases List.nodup_cons.mp hDistinct with ⟨hFirst, hRest⟩
        cases i with
        | zero =>
            cases hPlace
            simp
        | succ i =>
            have hMember : x ∈ xs := List.mem_of_getElem? hPlace
            have hOther : (y == x) = false := by
              rw [beq_eq_false_iff_ne]
              rintro rfl
              exact hFirst hMember
            simp only [List.zipIdx_cons, List.find?_cons, hOther]
            rw [ih (n + 1) hRest hPlace]
            congr 2
            omega
  unfold inScope
  cases xs with
  | nil => cases hPlace
  | cons y xs =>
      change cellIn? x (.names ((y :: xs).zipIdx n) :: frames) = _
      unfold cellIn?
      rw [hFound]

theorem cellIn?_inScope_of_not_mem
    {xs : List String}
    {x : String}
    (n : Nat)
    (frames : List Frame)
    (hOther : x ∉ xs) :
    cellIn? x (inScope xs n frames) = cellIn? x frames := by
  have hNone :
      (xs.zipIdx n).find? (fun b => b.1 == x) = none := by
    rw [List.find?_eq_none]
    rintro ⟨y, k⟩ hMember
    have hName := List.fst_mem_of_mem_zipIdx hMember
    simp only [beq_iff_eq]
    rintro rfl
    exact hOther hName
  unfold inScope
  split
  · rfl
  · rw [cellIn?, hNone]

------------------------------------------------------------
-- Parameters
------------------------------------------------------------

/- The values of parameters. -/
def paramValues : List String → List Value → List Value
  | [], _ => []
  | _ :: ps, arguments =>
    arguments.headD .undefined :: paramValues ps (arguments.drop 1)

theorem length_paramValues
    (ps : List String)
    (arguments : List Value) :
    (paramValues ps arguments).length = ps.length := by
  induction ps generalizing arguments with
  | nil => rfl
  | cons p ps ih =>
      rw [paramValues, List.length_cons, List.length_cons, ih]

theorem gives_bindFirst
    {x : String}
    {i : Nat}
    {cs : List Cell}
    {old : Option Value}
    (hName : cellIn? x env.frames = some (w.cells.size + i))
    (hCell : cs[i]? = some { value := old })
    (v : Value) :
    (bindFirst env x v).Gives (w.extend cs) fun _ w' =>
      w' = w.extend (cs.set i { value := some v }) := by
  unfold bindFirst
  rw [hName]
  refine (reads_getCell (c := { value := old }) ?_).bind ?_
  · rw [extend_cell, hCell]
  · exact extend_set w cs i { value := some v }

theorem gives_bindParams
    {ps : List String}
    (m : Machine)
    (pre : List Cell)
    (arguments : List Value)
    (hNames :
      ∀ i x, ps[i]? = some x →
        cellIn? x env.frames =
          some (w.cells.size + (pre.length + i))) :
    (bindParams m env (ps.map Tree.name) arguments).Gives
      (w.extend (pre ++ ps.map fun _ => { value := none }))
      fun _ w' =>
        w' =
          w.extend
            (pre ++ (paramValues ps arguments).map fun v =>
              { value := some v }) := by
  induction ps generalizing pre arguments with
  | nil => rfl
  | cons p ps ih =>
      have hFirst :
          (pre ++ (p :: ps).map fun _ => ({ value := none } : Cell))[
              pre.length + 0]? =
            some { value := none } := by
        rw [List.getElem?_append_right (Nat.le_add_right _ _)]
        simp
      refine
        (gives_bindFirst (hNames 0 p rfl) hFirst
          (arguments.headD .undefined)).bind ?_
      rintro _ _ rfl
      have hSet :
          (pre ++ (p :: ps).map fun _ => ({ value := none } : Cell)).set
              (pre.length + 0)
              { value := some (arguments.headD .undefined) } =
            (pre ++ [{ value := some (arguments.headD .undefined) }]) ++
              ps.map fun _ => { value := none } := by
        simp
      rw [hSet]
      refine (ih _ _ ?_).mono ?_
      · intro i x hPlace
        rw [hNames (i + 1) x hPlace, List.length_append]
        congr 1
        simp
        omega
      · rintro _ _ rfl
        simp [paramValues]

------------------------------------------------------------
-- Bodies
------------------------------------------------------------

/- The names that a body declares, none of them a parameter. -/
structure Declares
    (body : List Tree)
    (params hoisted : List String) :
    Prop where
  functions : Tree.declaredFunctions body = []
  locals : Tree.localNames body = []
  names : (Tree.hoistedNamesOf body).eraseDups = hoisted
  apart : ∀ x ∈ hoisted, x ∉ params

variable {body : List Tree}
variable {params hoisted : List String}

theorem gives_firstValues
    {xs : List String}
    (hApart : ∀ x ∈ xs, x ∉ params)
    (w : World) :
    (xs.mapM fun x => do
        return (x,
          ({ value := some (← firstValue env params x) } : Cell)) :
      Run (List (String × Cell))).Reads w
        (xs.map fun x => (x, { value := some .undefined })) := by
  induction xs with
  | nil => exact ⟨rfl, rfl⟩
  | cons x xs ih =>
      have hFirst :
          (firstValue env params x).Reads w .undefined := by
        unfold firstValue
        rw [if_neg (by simpa using hApart x List.mem_cons_self)]
        exact ⟨rfl, rfl⟩
      rw [List.mapM_cons]
      refine Run.Reads.bind
        (a := (x, ({ value := some .undefined } : Cell)))
        (hFirst.bind ⟨rfl, rfl⟩) ?_
      refine Run.Reads.bind (ih fun y hMember =>
        hApart y (List.mem_cons_of_mem _ hMember)) ⟨rfl, rfl⟩

theorem gives_enterBody
    (hDeclares : Declares body params hoisted)
    (env : Env)
    (w : World) :
    (enterBody env false params body).Gives w fun env' w' =>
      env' =
          { env with
            frames := inScope hoisted w.cells.size env.frames } ∧
        w' = w.enter (hoisted.map fun _ => .undefined) := by
  unfold enterBody localCells
  simp only [hDeclares.functions, hDeclares.locals, List.map_nil,
    List.append_nil, hDeclares.names, Bool.false_eq_true, if_false]
  have hFresh :
      (hoisted.filter fun x => !params.contains x) = hoisted := by
    rw [List.filter_eq_self]
    intro x hMember
    simpa using hDeclares.apart x hMember
  rw [hFresh]
  refine (gives_firstValues hDeclares.apart w).bind ?_
  refine (gives_enterScope env _ w).bind ?_
  rintro _ _ ⟨rfl, rfl⟩
  refine ⟨?_, ?_⟩
  · simp [Function.comp_def]
  · simp [World.enter, Function.comp_def]

theorem eraseDups_of_nodup
    {xs : List String}
    (hDistinct : xs.Nodup) :
    xs.eraseDups = xs := by
  induction xs with
  | nil => rfl
  | cons x xs ih =>
      rcases List.nodup_cons.mp hDistinct with ⟨hFirst, hRest⟩
      have hOthers : (xs.filter fun y => !y == x) = xs := by
        rw [List.filter_eq_self]
        rintro y hMember
        have hOther : y ≠ x := by
          rintro rfl
          exact hFirst hMember
        simpa using hOther
      rw [List.eraseDups_cons, hOthers, ih hRest]

/- The parameters of a function are names. -/
structure Closure.Takes (c : Closure) (ps : List String) : Prop where
  params : c.params = ps.map Tree.name
  bound : Tree.boundNamesOf c.params = ps
  simple : Tree.anyHoldsExpression c.params = false
  distinct : ps.Nodup

/- The surroundings in which the code of a function is run. -/
def Closure.inside
    (c : Closure)
    (callee : Ref)
    (thisCell : Nat)
    (frames : List Frame) :
    Env :=
  { frames
    thisCell
    callee := some callee
    newTarget := .undefined
    home := c.home
    isStrict := c.info.isStrict
    awaitsResult := false }

theorem gives_enterClosure
    {c : Closure}
    {ps hs : List String}
    (hPlain : c.IsPlain)
    (hKind : c.info.kind = .normal)
    (hUses : c.info.usesArguments = false)
    (hTakes : c.Takes ps)
    (hDeclares : Declares c.body ps hs)
    (m : Machine)
    (r : Ref)
    (n : Nat)
    (arguments : List Value)
    (w : World) :
    (enterClosure m c r n .undefined arguments).Gives w
      fun env w' =>
        env =
            c.inside r n
              (inScope hs (w.cells.size + ps.length)
                (inScope ps w.cells.size c.env.frames)) ∧
          w' =
            w.enter
              (paramValues ps arguments ++
                hs.map fun _ => .undefined) := by
  have hNormal : (c.info.kind == Script.FunctionKind.arrow) = false := by
    rw [hKind]
    rfl
  unfold enterClosure
  simp only [hNormal, hUses, hPlain.isAsync, hTakes.bound,
    eraseDups_of_nodup hTakes.distinct, hTakes.simple,
    Bool.false_and, Bool.false_eq_true, if_false]
  refine (gives_enterScope _ _ w).bind ?_
  rintro _ _ ⟨rfl, rfl⟩
  have hCells :
      ((ps.map fun x => (x, ({ value := none } : Cell))).map (·.1)) =
        ps := by
    simp [Function.comp_def]
  rw [hCells, hTakes.params, List.map_map]
  refine (gives_bindParams (w := w) m [] arguments ?_).bind ?_
  · intro i x hPlace
    rw [List.length_nil, Nat.zero_add]
    exact
      cellIn?_inScope_of_mem w.cells.size c.env.frames
        hTakes.distinct hPlace
  · rintro _ _ rfl
    refine (gives_enterBody hDeclares _ _).mono ?_
    rintro _ _ ⟨rfl, rfl⟩
    refine ⟨?_, ?_⟩
    · rw [extend_size, List.nil_append, List.length_map,
        length_paramValues]
      rfl
    · rw [List.nil_append, World.enter, World.enter,
        extend_extend, List.map_append]

------------------------------------------------------------
-- Arguments
------------------------------------------------------------

/- What is done with an object that has just been made. -/
theorem gives_updateNew
    (w : World)
    (o : Object)
    (f : Object → Object) :
    (updateObject w.objects.size f).Gives
      { w with objects := w.objects.push o } fun _ w' =>
        w' = { w with objects := w.objects.push (f o) } := by
  have hModify :
      (w.objects.push o).modify w.objects.size f =
        w.objects.push (f o) := by
    apply Array.ext
    · simp
    · intro i hFirst hSecond
      rw [Array.getElem_modify]
      by_cases hLast : w.objects.size = i
      · subst hLast
        simp
      · have hOld : i < w.objects.size := by
          rw [Array.size_push] at hSecond
          omega
        rw [if_neg hLast, Array.getElem_push_lt hOld,
          Array.getElem_push_lt hOld]
  refine (Run.gives_modify _ _).mono ?_
  rintro _ _ rfl
  exact congrArg (fun objects => { w with objects }) hModify

/- The object of the arguments, with its own members. -/
def argumentsWith (arguments : List Value) (values callee : Property) :
    Object :=
  (((({ proto := some Intrinsic.objectProto.ref
        kind := .arguments #[]
        items := (arguments.map some).toArray } : Object).put
      Key.length (.hidden (.ofNat arguments.length))).put
      WellKnown.iterator.key values).put
      (Key.ofString "callee") callee)

theorem put_fresh
    {o : Object}
    {k : Key}
    (p : Property)
    (hName : ∀ n, k ≠ .index n)
    (hFresh : ∀ q ∈ o.properties, q.1 ≠ k) :
    o.put k p = { o with properties := o.properties.push (k, p) } := by
  have hNone :
      o.properties.findIdx? (fun q => q.1 == k) = none := by
    rw [Array.findIdx?_eq_none_iff]
    intro q hMember
    simpa using hFresh q hMember
  cases k with
  | index n => exact absurd rfl (hName n)
  | text s | symbol id | secret id =>
      simp only [Object.put, Object.putNamed, hNone]

theorem argumentsWith_spec
    (arguments : List Value)
    (values callee : Property) :
    (argumentsWith arguments values callee).kind = .arguments #[] ∧
      (argumentsWith arguments values callee).items =
          (arguments.map some).toArray ∧
        (argumentsWith arguments values callee).named? Key.length =
          some (.hidden (.ofNat arguments.length)) := by
  have hKeys :
      Key.length = .text (Units.ofString "length") ∧
        Key.ofString "callee" = .text (Units.ofString "callee") ∧
          Units.ofString "length" ≠ Units.ofString "callee" := by
    decide +kernel
  rcases hKeys with ⟨hLength, hCallee, hOther⟩
  unfold argumentsWith
  rw [hLength, hCallee,
    put_fresh (.hidden (.ofNat arguments.length)) (by simp)
      (by simp),
    put_fresh values (by simp [WellKnown.key])
      (by simp [WellKnown.key]),
    put_fresh callee (by simp) (by simp [WellKnown.key, hOther])]
  refine ⟨rfl, rfl, ?_⟩
  simp [Object.named?]

theorem gives_makeArguments
    (callee : Ref)
    (arguments : List Value)
    (w : World) :
    (makeArguments callee true arguments).Gives w fun r w' =>
      r = w.objects.size ∧
        ∃ values owner,
          w' =
            { w with
              objects :=
                w.objects.push
                  (argumentsWith arguments values owner) } := by
  unfold makeArguments
  refine Run.Gives.bind
    (Q := fun r w' => r = w.objects.size ∧ w' = _) ⟨rfl, rfl⟩ ?_
  rintro _ _ ⟨rfl, rfl⟩
  refine (gives_updateNew w _ _).bind ?_
  rintro _ _ rfl
  refine (reads_lookup _ _ _).bind ?_
  refine (gives_updateNew w _ _).bind ?_
  rintro _ _ rfl
  rw [if_pos rfl]
  refine (gives_updateNew w _ _).bind ?_
  rintro _ _ rfl
  exact ⟨rfl, _, _, rfl⟩

/- Nothing is shared with parameters that there are none of. -/
theorem gives_linkArguments
    (env : Env)
    (arguments : List Value)
    (values callee : Property)
    (cs : List Cell)
    (w : World) :
    (linkArguments w.objects.size env [] arguments.length).Gives
      (World.extend
        { w with
          objects :=
            w.objects.push (argumentsWith arguments values callee) }
        cs)
      fun _ w' =>
        w' =
          World.extend
            { w with
              objects :=
                w.objects.push
                  (argumentsWith arguments values callee) }
            cs := by
  have hSame :
      ({ argumentsWith arguments values callee with
          kind := .arguments #[] } : Object) =
        argumentsWith arguments values callee := by
    have hKind := (argumentsWith_spec arguments values callee).1
    rw [← hKind]
  unfold linkArguments
  refine
    (gives_updateNew
      (w.extend cs) (argumentsWith arguments values callee) _).bind
      ?_
  rintro _ _ rfl
  simp only [paramCells, List.take_nil, List.zipIdx_nil,
    List.forIn_nil]
  exact
    congrArg
      (fun o =>
        World.extend { w with objects := w.objects.push o } cs)
      hSame

theorem gives_enterArguments
    {c : Closure}
    {hs : List String}
    (hPlain : c.IsPlain)
    (hKind : c.info.kind = .normal)
    (hStrict : c.info.isStrict = false)
    (hUses : c.info.usesArguments = true)
    (hParams : c.params = [])
    (hDeclares : Declares c.body ["arguments"] hs)
    (m : Machine)
    (r : Ref)
    (n : Nat)
    (arguments : List Value)
    (w : World) :
    (enterClosure m c r n .undefined arguments).Gives w
      fun env w' =>
        env =
            c.inside r n
              (inScope hs (w.cells.size + 1)
                (inScope ["arguments"] w.cells.size c.env.frames)) ∧
          ∃ values callee,
            w' =
              World.enter
                { w with
                  objects :=
                    w.objects.push
                      (argumentsWith arguments values callee) }
                (.object w.objects.size ::
                  hs.map fun _ => .undefined) := by
  have hNormal : (c.info.kind == Script.FunctionKind.arrow) = false := by
    rw [hKind]
    rfl
  unfold enterClosure
  simp only [hNormal, hUses, hStrict, hPlain.isAsync, hParams]
  refine (gives_makeArguments r arguments w).bind ?_
  rintro _ _ ⟨rfl, values, callee, rfl⟩
  refine (gives_enterScope _ _ _).bind ?_
  rintro _ _ ⟨rfl, rfl⟩
  refine (gives_linkArguments _ _ _ _ _ w).bind ?_
  rintro _ _ rfl
  refine (gives_enterBody hDeclares _ _).mono ?_
  rintro _ _ ⟨rfl, rfl⟩
  refine ⟨?_, values, callee, ?_⟩
  · rw [extend_size]
    simp only [Closure.inside, hStrict]
    rfl
  · rw [World.enter, extend_extend]
    rfl

------------------------------------------------------------
-- Making Functions
------------------------------------------------------------

/- An object of a kind that was not there before. -/
structure Added (w : World) (r : Ref) (k : Kind) (w' : World) :
    Prop where
  grows : w.Grows w'
  isNew : w.objects.size ≤ r
  kind : ∃ o, w'.objects[r]? = some o ∧ o.kind = k

theorem putNamed_kind
    (o : Object)
    (k : Key)
    (p : Property) :
    (o.putNamed k p).kind = o.kind := by
  unfold Object.putNamed
  split <;> rfl

theorem put_kind
    (o : Object)
    (k : Key)
    (p : Property) :
    (o.put k p).kind = o.kind := by
  have hItem : ∀ n v, (o.putItem n v).kind = o.kind := by
    intro n v
    unfold Object.putItem
    split
    · rfl
    · split
      · rfl
      · exact putNamed_kind o _ _
  unfold Object.put
  split
  · split
    · exact putNamed_kind o _ _
    · exact hItem _ _
  · split
    · exact putNamed_kind o.spill _ _
    · exact putNamed_kind o _ _
  · exact putNamed_kind o _ _

namespace Added

variable {w' : World}
variable {r n : Ref}
variable {k : Kind}

theorem gives_allocate
    (hAdded : Added w r k w')
    (o : Object) :
    (allocate o).Gives w' fun n w'' =>
      w.objects.size ≤ n ∧ Added w r k w'' := by
  rcases hAdded.kind with ⟨p, hThere, hKind⟩
  have hMore := World.Grows.push w' o
  exact
    ⟨hAdded.grows.size_le, hAdded.grows.trans hMore, hAdded.isNew,
      p, hMore.objects r p hThere, hKind⟩

/- What is done to something new changes nothing old. -/
theorem gives_update
    {f : Object → Object}
    (hAdded : Added w r k w')
    (hNew : w.objects.size ≤ n)
    (hKeeps : ∀ o, (f o).kind = o.kind) :
    (updateObject n f).Gives w' fun _ w'' => Added w r k w'' := by
  refine (Run.gives_modify _ w').mono ?_
  rintro _ _ rfl
  refine ⟨⟨?_, hAdded.grows.cells, hAdded.grows.symbols,
    hAdded.grows.lexicals, hAdded.grows.converting⟩,
    hAdded.isNew, ?_⟩
  · intro i o hOld
    have hLess := (Array.getElem?_eq_some_iff.mp hOld).1
    rw [Array.getElem?_modify, if_neg (by omega)]
    exact hAdded.grows.objects i o hOld
  · rcases hAdded.kind with ⟨o, hThere, hKind⟩
    rw [Array.getElem?_modify, hThere]
    split
    · exact ⟨_, rfl, (hKeeps o).trans hKind⟩
    · exact ⟨o, rfl, hKind⟩

end Added

theorem gives_makeClosure
    (env : Env)
    (info : Script.FunctionInfo)
    (params body : List Tree)
    (name : Units)
    (home : Option Ref)
    (w : World) :
    (makeClosure env info params body name home).Gives w
      fun r w' =>
        Added w r (.closure { info, params, body, env, home }) w' := by
  unfold makeClosure describeFunction
  refine Run.Gives.bind
    (Q := fun r w' =>
      Added w r (.closure { info, params, body, env, home }) w')
    ⟨.push w _, Nat.le_refl _, _, Array.getElem?_push_size, rfl⟩ ?_
  intro r w' hAdded
  have hPut :
      ∀ (key : Key) (p : Property) (o : Object),
        (o.put key p).kind = o.kind :=
    fun key p o => put_kind o key p
  refine
    (hAdded.gives_update hAdded.isNew fun o => by
      rw [put_kind, put_kind]).bind fun _ w' hAdded => ?_
  split
  · refine (hAdded.gives_allocate _).bind ?_
    rintro proto w' ⟨hNew, hAdded⟩
    refine
      (hAdded.gives_update hNew (hPut _ _)).bind
        fun _ w' hAdded => ?_
    exact
      (hAdded.gives_update hAdded.isNew (hPut _ _)).bind
        fun _ w' hAdded => hAdded
  · split
    · refine (hAdded.gives_allocate _).bind ?_
      rintro proto w' ⟨hNew, hAdded⟩
      exact
        (hAdded.gives_update hAdded.isNew (hPut _ _)).bind
          fun _ w' hAdded => hAdded
    · exact hAdded

/- A function without a name gets one, if it is kept under one. -/
theorem gives_evaluateAs
    {k : Kind}
    {m : Machine}
    (name : Units)
    (t : Tree)
    (hValue :
      (m.evaluate env t).Gives w fun v w' =>
        ∃ r, v = .object r ∧ Added w r k w') :
    (evaluateAs m env name t).Gives w fun v w' =>
      ∃ r, v = .object r ∧ Added w r k w' := by
  unfold evaluateAs
  refine hValue.bind ?_
  rintro _ w' ⟨r, rfl, hAdded⟩
  have hNamed :
      ∀ w', Added w r k w' →
        (updateObject r fun o =>
            o.put Key.name (.readOnly (.string name))).Gives w'
          fun _ w'' => Added w r k w'' :=
    fun w' hAdded =>
      hAdded.gives_update hAdded.isNew fun o => put_kind o _ _
  split
  · refine Run.Gives.bind (Q := fun _ w'' => Added w r k w'') ?_
      fun _ w'' hAdded => ⟨r, rfl, hAdded⟩
    unfold nameValue
    rcases hAdded.kind with ⟨o, hThere, -⟩
    refine (reads_getObject hThere).bind ?_
    split
    · split
      · exact hNamed w' hAdded
      · exact hAdded
    · exact hNamed w' hAdded
    · exact hAdded
  · exact ⟨r, rfl, hAdded⟩

------------------------------------------------------------
-- Calls
------------------------------------------------------------

/- What a body gives back is what its function gives. -/
theorem gives_executeBody
    {Q : Value → Prop}
    (hReturns : Returns w env body Q)
    (n : Nat) :
    (executeBody (Machine.within n) env body).Gives w fun v _ =>
      Q v := by
  refine (hReturns w (.refl w) n none).bind ?_
  rintro _ w' ⟨v, rfl, hValue⟩
  exact hValue

/- A function gives what its body gives back. -/
theorem gives_closure
    {P : World → Value → Prop}
    {Q : Value → Prop}
    {r : Ref}
    {o : Object}
    {c : Closure}
    {this : Value}
    {arguments : List Value}
    (hObject : w.objects[r]? = some o)
    (hKind : o.kind = .closure c)
    (hPlain : c.IsPlain)
    (hStrict : c.info.isStrict = false)
    (hReceived : Received w this P)
    (hBody :
      ∀ w' v, w.Grows w' → P w' v → ∀ m,
        (enterClosure m c r w'.cells.size .undefined arguments).Gives
          (w'.enter [v]) fun env w'' => Returns w'' env c.body Q)
    (n : Nat) :
    (callValue (Machine.within n) (.object r) this arguments).Gives w
      fun v _ => Q v := by
  refine (reads_getObject hObject).bind ?_
  rw [hKind]
  refine (reads_checkDepth w).bind ?_
  rw [callClosure_plain hPlain, hStrict]
  refine gives_inCall ?_
  have hGrows :
      w.Grows { w with depth := w.depth + 1, rounds := 0 } :=
    (World.Grows.refl w).counting (w.depth + 1) 0
  refine (hReceived _ hGrows).bind ?_
  rintro v w' ⟨hMore, hValue⟩
  refine Run.Gives.bind
    (Q := fun cell w'' => cell = w'.cells.size ∧ w'' = w'.enter [v])
    ⟨rfl, by simp [World.enter, World.extend]⟩ ?_
  rintro _ _ ⟨rfl, rfl⟩
  refine (hBody w' v (hGrows.trans hMore) hValue _).bind ?_
  intro env w'' hReturns
  exact gives_executeBody hReturns n

------------------------------------------------------------
-- Loops
------------------------------------------------------------

/- What every round keeps holds when a repetition ends. -/
theorem gives_repeatUpTo
    {α β : Type}
    {step : α → Run (α ⊕ β)}
    {P : α → World → Prop}
    {R : β → World → Prop}
    (hStep :
      ∀ a w, P a w →
        (step a).Gives w fun next w' =>
          match next with
          | .inl a => P a w'
          | .inr b => R b w')
    (n : Nat)
    {a : α}
    (hStart : P a w) :
    (repeatUpTo step n a).Gives w R := by
  induction n generalizing a w with
  | zero => exact Run.gives_throw _
  | succ n ih =>
      refine (hStep a w hStart).bind ?_
      intro next w' hNext
      cases next with
      | inl a => exact ih hNext
      | inr b => exact hNext

theorem gives_countRound
    (w : World) :
    countRound.Gives w fun _ w' =>
      w' = { w with rounds := w.rounds + 1 } := by
  refine (Run.reads_get w).bind ?_
  split
  · exact Run.gives_throw _
  · exact Run.gives_set _ _

/- What a loop does with the worlds before and behind its rounds. -/
structure Loops
    (env : Env)
    (test next body : Tree)
    (Before After R : World → Prop) :
    Prop where
  hasTest : isPresent test = true
  hasNext : isPresent next = true
  tested :
    ∀ w, Before w →
      ∃ b, Finds w env test (.bool b) ∧
        ∀ w', w.Grows w' → (b = false → R w') ∧
          (b = true → ∀ n,
            ((Machine.within n).execute env body).Gives w'
              fun c w'' => (∃ u, c = .normal u) ∧ After w'')
  continued :
    ∀ w, After w → ∀ n,
      ((Machine.within n).evaluate env next).Gives
        { w with rounds := w.rounds + 1 } fun _ w' => Before w'

variable {test next body : Tree}
variable {Before After R : World → Prop}

/- The test of a round decides whether the body is executed. -/
theorem Loops.round
    {α : Type}
    {k : Bool → Run α}
    {j : Completion → Run α}
    {P : α → World → Prop}
    (hLoops : Loops env test next body Before After R)
    (hBefore : Before w)
    (n : Nat)
    (hTrue : k true = (Machine.within n).execute env body >>= j)
    (hEnds : ∀ w, R w → (k false).Gives w P)
    (hGoes : ∀ u w, After w → (j (.normal u)).Gives w P) :
    (testHolds (Machine.within n) env test >>= k).Gives w P := by
  rcases hLoops.tested w hBefore with ⟨b, hFinds, hTested⟩
  have hTest :
      (testHolds (Machine.within n) env test).Yields w b := by
    unfold testHolds
    rw [if_pos hLoops.hasTest]
    exact (hFinds.yields n).bind fun w' _ => ⟨rfl, .refl w'⟩
  refine hTest.gives fun w' hGrows => ?_
  rcases hTested w' hGrows with ⟨hLast, hMore⟩
  cases b with
  | false => exact hEnds w' (hLast rfl)
  | true =>
      rw [hTrue]
      refine (hMore rfl n).bind ?_
      rintro _ w'' ⟨⟨u, rfl⟩, hAfter⟩
      exact hGoes u w'' hAfter

/- A loop that is not left from inside ends when its test fails. -/
theorem Loops.gives
    {ds : List Tree}
    (hLoops : Loops env test next body Before After R)
    (hFirst :
      ∀ n,
        (ds.forM (executeDeclarator (Machine.within n) env .hoisted)).Gives
          w fun _ w' => Before w')
    (n : Nat) :
    ((Machine.within n).execute env
        (.node .forLoop
          [.node (.declare .hoisted) ds, test, next, body])).Gives w
      fun c w' => (∃ u, c = .normal u) ∧ R w' := by
  refine gives_execute (fun m assign => ?_) n
  refine Run.Gives.bind
    (Q := fun c w' => (∃ u, c = .normal u) ∧ R w') ?_ ?_
  · change
      (executeFor (Machine.within m) env []
        (.node (.declare .hoisted) ds) test next body).Gives w _
    refine Run.Reads.bind (a := env) ⟨rfl, rfl⟩ ?_
    refine (hFirst m).bind fun _ w' hBefore => ?_
    refine Run.Reads.bind (a := env) ⟨rfl, rfl⟩ ?_
    refine gives_repeatUpTo
      (P := fun state w =>
        state.1 = env ∧
          (if state.2.2 then Before w else After w)) ?_ _
      ⟨rfl, hBefore⟩
    rintro ⟨env', v, isFirst⟩ w ⟨hEnv, hInv⟩
    obtain rfl : env' = env := hEnv
    have hLeave :
        ∀ w, R w →
          (∃ u, Completion.normal v = .normal u) ∧ R w :=
      fun w hLast => ⟨⟨v, rfl⟩, hLast⟩
    cases isFirst with
    | true =>
        exact
          hLoops.round hInv m rfl hLeave fun u w hAfter =>
            ⟨rfl, hAfter⟩
    | false =>
        refine (gives_countRound w).bind ?_
        rintro _ _ rfl
        rw [if_pos hLoops.hasNext]
        refine (hLoops.continued w hInv m).bind fun _ w' hBefore => ?_
        exact
          hLoops.round hBefore m rfl hLeave fun u w hAfter =>
            ⟨rfl, hAfter⟩
  · rintro c w' ⟨⟨u, rfl⟩, hRest⟩
    exact ⟨⟨u, rfl⟩, hRest⟩

end Realm

end Devirt
