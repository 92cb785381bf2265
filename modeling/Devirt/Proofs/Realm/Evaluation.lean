import Devirt.Proofs.Realm.Steady

/-
  What code is worth while the world only grows, and what it
  gives back while only its own variables change.

  Main declarations:
    * `Binds`, `Worldwide`, `Finds`
    * `finds_name`, `finds_select`, `finds_binary`, `finds_call`
    * `World.enter`, `Local`
    * `Returns`, `returns_declare`, `returns_check`, `returns_give`
    * `gives_addTo`, `gives_increment`
    * `Raises.never`
-/

namespace Devirt

namespace Realm

open Script (Tree BinaryOp)

variable {w w' : World}
variable {env : Env}
variable {x : String}
variable {v : Value}

------------------------------------------------------------
-- Names
------------------------------------------------------------

/- No frame is an object. -/
def Plain (frames : List Frame) : Prop :=
  ∀ f ∈ frames, ∃ bindings, f = .names bindings

theorem resolveIn_plain
    (m : Machine)
    (x : String)
    {frames : List Frame}
    (hPlain : Plain frames) :
    resolveIn m x frames =
      pure ((cellIn? x frames).map Place.cell) := by
  induction frames with
  | nil => rfl
  | cons f rest ih =>
      obtain ⟨bindings, rfl⟩ := hPlain f List.mem_cons_self
      have hRest := ih fun g hMember =>
        hPlain g (List.mem_cons_of_mem _ hMember)
      unfold resolveIn cellIn?
      cases bindings.find? fun b => b.1 == x with
      | none => exact hRest
      | some b => rfl

/- A name stands for a variable that has a value. -/
structure Binds (w : World) (env : Env) (x : String) (v : Value) :
    Prop where
  plain : Plain env.frames
  cell :
    ∃ n c, cellIn? x env.frames = some n ∧
      w.cells[n]? = some c ∧ c.value = some v

/- A name stands for a member of the global object. -/
structure Worldwide (w : World) (env : Env) (x : String) (v : Value) :
    Prop where
  plain : Plain env.frames
  free : cellIn? x env.frames = none
  undeclared : (w.lexicals.find? fun b => b.1 == x) = none
  member : Has w Intrinsic.global.ref (Key.ofString x) v

theorem Binds.later
    (hBinds : Binds w env x v)
    (hGrows : w.Grows w') :
    Binds w' env x v := by
  rcases hBinds.cell with ⟨n, c, hName, hCell, hValue⟩
  exact ⟨hBinds.plain, n, c, hName, hGrows.cells n c hCell, hValue⟩

theorem Worldwide.later
    (hGlobal : Worldwide w env x v)
    (hGrows : w.Grows w') :
    Worldwide w' env x v where
  plain := hGlobal.plain
  free := hGlobal.free
  undeclared := by rw [hGrows.lexicals, hGlobal.undeclared]
  member := hGlobal.member.later hGrows

theorem reads_resolve
    {n : Nat}
    (m : Machine)
    (w : World)
    (hPlain : Plain env.frames)
    (hName : cellIn? x env.frames = some n) :
    (resolve m env x).Reads w (.cell n) := by
  unfold resolve
  rw [resolveIn_plain m x hPlain, hName]
  exact ⟨rfl, rfl⟩

theorem Worldwide.reads_resolve
    (hGlobal : Worldwide w env x v)
    (m : Machine) :
    (resolve m env x).Reads w (.member Intrinsic.global.ref) := by
  unfold resolve
  rw [resolveIn_plain m x hGlobal.plain, hGlobal.free]
  refine Run.Reads.bind (a := none) ⟨rfl, rfl⟩ ?_
  refine (Run.reads_get w).bind ?_
  rw [hGlobal.undeclared]
  refine Run.Reads.bind (a := true) ?_ ⟨rfl, rfl⟩
  rcases hGlobal.member with ⟨p, b, hFound, -⟩
  refine (reads_lookup _ _ w).bind ?_
  rw [hFound]
  exact ⟨rfl, rfl⟩

theorem Binds.reads
    (hBinds : Binds w env x v)
    (m : Machine) :
    (readName m env x).Reads w v := by
  rcases hBinds.cell with ⟨n, c, hName, hCell, hValue⟩
  refine (Realm.reads_resolve m w hBinds.plain hName).bind ?_
  refine (reads_getCell hCell).bind ?_
  rw [hValue]
  exact ⟨rfl, rfl⟩

theorem Worldwide.reads
    (hGlobal : Worldwide w env x v)
    (m : Machine) :
    (readName m env x).Reads w v :=
  (hGlobal.reads_resolve m).bind (hGlobal.member.reads m)

------------------------------------------------------------
-- Expressions
------------------------------------------------------------

/- An expression always has the same value from now on. -/
def Finds (w : World) (env : Env) (t : Tree) (v : Value) : Prop :=
  Steady w (fun m => m.evaluate env t) v

/- What is evaluated is evaluated one level down. -/
theorem finds_of_tree
    {t : Tree}
    (hTree : Steady w (fun m => evaluateTree m env t) v) :
    Finds w env t v := by
  intro w' hGrows n
  cases n with
  | zero => exact Run.gives_throw _
  | succ n => exact hTree w' hGrows n

theorem Finds.later
    {t : Tree}
    (hFinds : Finds w env t v)
    (hGrows : w.Grows w') :
    Finds w' env t v :=
  Steady.later hFinds hGrows

theorem finds_name
    (hBinds : Binds w env x v) :
    Finds w env (.name x) v :=
  finds_of_tree
    (.of_reads fun _ hGrows _ => (hBinds.later hGrows).reads _)

theorem finds_global
    (hGlobal : Worldwide w env x v) :
    Finds w env (.name x) v :=
  finds_of_tree
    (.of_reads fun _ hGrows _ => (hGlobal.later hGrows).reads _)

theorem finds_number
    (y : Float) :
    Finds w env (.number y) (.number y) :=
  finds_of_tree (.of_reads fun _ _ _ => ⟨rfl, rfl⟩)

/- The code works on a value. -/
def WorksOn (w : World) (env : Env) (v : Value) : Prop :=
  ∃ c, w.cells[env.thisCell]? = some c ∧ c.value = some v

theorem finds_this
    (hThis : WorksOn w env v) :
    Finds w env (.node .this []) v := by
  rcases hThis with ⟨c, hCell, hValue⟩
  refine finds_of_tree (.of_reads fun w' hGrows n => ?_)
  refine (reads_getCell (hGrows.cells _ c hCell)).bind ?_
  rw [hValue]
  exact ⟨rfl, rfl⟩

section Operators

variable {a b c : Tree}
variable {u z : Value}
variable {y y' : Float}

theorem finds_select
    (hBase : Finds w env a u)
    (hMember :
      Steady w (fun m => getMember m u (Key.ofString x)) v) :
    Finds w env (.select a x) v :=
  finds_of_tree (hBase.bind hMember)

theorem finds_binary
    {op : BinaryOp}
    (hLeft : Finds w env a u)
    (hRight : Finds w env b z)
    (hApply : Steady w (fun m => applyBinary m op u z) v) :
    Finds w env (.binary op a b) v :=
  finds_of_tree (hLeft.bind (hRight.bind hApply))

theorem finds_or
    (hLeft : Finds w env a u)
    (hRight : u.toBool = false → Finds w env b z)
    (hValue : v = if u.toBool then u else z) :
    Finds w env (.logical .or a b) v := by
  refine finds_of_tree (hLeft.bind ?_)
  subst hValue
  cases hTrue : u.toBool with
  | true =>
      simp only [asksForMore, hTrue]
      exact .pure u
  | false =>
      simp only [asksForMore, hTrue]
      exact hRight hTrue

theorem finds_conditional
    (hTest : Finds w env a u)
    (hYes : u.toBool = true → Finds w env b v)
    (hNo : u.toBool = false → Finds w env c v) :
    Finds w env (.conditional a b c) v := by
  refine finds_of_tree (hTest.bind ?_)
  cases hTrue : u.toBool with
  | true => exact hYes hTrue
  | false => exact hNo hTrue

/- An element of a list of values. -/
theorem finds_index
    {r : Ref}
    {i : Nat}
    (hBase : Finds w env a (.object r))
    (hPlace : Finds w env b (.number y))
    (hIndex : indexOfFloat? y = some i)
    (hHas : Has w r (.index i) v) :
    Finds w env (.index a b) v := by
  refine finds_of_tree (hBase.bind (hPlace.bind ?_))
  intro w' hGrows n
  refine Run.Reads.bind (a := Key.index i) ?_ (hHas.steady w' hGrows n)
  simp only [toKey, hIndex]
  exact ⟨rfl, rfl⟩

/- Numbers are multiplied and compared. -/
theorem steady_mul
    (w : World)
    (y y' : Float) :
    Steady w (fun m => applyBinary m .mul (.number y) (.number y'))
      (.number (y * y')) :=
  .of_reads fun _ _ _ => ⟨rfl, rfl⟩

theorem steady_greater
    (w : World)
    (y y' : Float) :
    Steady w
      (fun m => applyBinary m .greater (.number y) (.number y'))
      (.bool (compareFloats y y' == .greater)) :=
  .of_reads fun _ _ _ => ⟨rfl, rfl⟩

theorem steady_less
    (w : World)
    (y y' : Float) :
    Steady w
      (fun m => applyBinary m .less (.number y) (.number y'))
      (.bool (compareFloats y y' == .less)) :=
  .of_reads fun _ _ _ => ⟨rfl, rfl⟩

theorem steady_same_undefined
    (w : World)
    (u : Value) :
    Steady w (fun m => applyBinary m .same u .undefined)
      (.bool u.isUndefined) := by
  refine .of_reads fun _ _ _ => ⟨?_, rfl⟩
  cases u <;> rfl

end Operators

------------------------------------------------------------
-- Calls
------------------------------------------------------------

section Calls

variable {f t : Tree}
variable {ts : List Tree}
variable {g this : Value}
variable {vs : List Value}

/- The values of expressions, which are no spread ones. -/
inductive FindsAll (w : World) (env : Env) :
    List Tree → List Value → Prop where
  | nil : FindsAll w env [] []
  | cons
      {t : Tree}
      {ts : List Tree}
      {v : Value}
      {vs : List Value}
      (hPlain : ∀ e, t ≠ .spread e)
      (hFirst : Finds w env t v)
      (hRest : FindsAll w env ts vs) :
      FindsAll w env (t :: ts) (v :: vs)

theorem FindsAll.steady
    (hAll : FindsAll w env ts vs) :
    Steady w (fun m => evaluateItems m env ts) vs := by
  induction hAll with
  | nil => exact .pure []
  | @cons t ts v vs hPlain hFirst _ ih =>
      have hSteps :
          (fun m => evaluateItems m env (t :: ts)) =
            fun m => do
              return (← m.evaluate env t) ::
                (← evaluateItems m env ts) := by
        funext m
        rw [evaluateItems]
        exact hPlain
      rw [hSteps]
      exact hFirst.bind (ih.bind (.pure _))

theorem finds_call
    (hCallee :
      Steady w (fun m => evaluateCallee m env f) (g, this))
    (hArguments : FindsAll w env ts vs)
    (hCall : Steady w (fun m => callValue m g this vs) v) :
    Finds w env (.call f ts) v :=
  finds_of_tree
    (hCallee.bind (hArguments.steady.bind (steady_call hCall)))

theorem callee_name
    (hBinds : Binds w env x g) :
    Steady w (fun m => evaluateCallee m env (.name x))
      (g, .undefined) := by
  refine .of_reads fun w' hGrows n => ?_
  rcases (hBinds.later hGrows).cell with
    ⟨k, c, hName, hCell, hValue⟩
  refine (reads_resolve _ w' hBinds.plain hName).bind ?_
  refine Run.Reads.bind (a := g) ?_ ⟨rfl, rfl⟩
  refine (reads_getCell hCell).bind ?_
  rw [hValue]
  exact ⟨rfl, rfl⟩

theorem callee_global
    (hGlobal : Worldwide w env x g) :
    Steady w (fun m => evaluateCallee m env (.name x))
      (g, .undefined) := by
  refine .of_reads fun w' hGrows n => ?_
  have hLater := hGlobal.later hGrows
  refine (hLater.reads_resolve _).bind ?_
  exact (hLater.member.reads _).bind ⟨rfl, rfl⟩

theorem callee_select
    (hBase : Finds w env t this)
    (hMember :
      Steady w (fun m => getMember m this (Key.ofString x)) g) :
    Steady w (fun m => evaluateCallee m env (.select t x))
      (g, this) :=
  hBase.bind (hMember.bind (.pure _))

end Calls

end Realm

end Devirt

namespace Devirt

namespace Realm

open Script (Tree)

variable {w w' : World}
variable {env : Env}
variable {x : String}
variable {v : Value}

------------------------------------------------------------
-- Local Variables
------------------------------------------------------------

/- The world with some more variables. -/
def World.extend (w : World) (cs : List Cell) : World :=
  { w with cells := w.cells ++ cs.toArray }

/- The world with some more variables that have values. -/
def World.enter (w : World) (vs : List Value) : World :=
  w.extend (vs.map fun v => { value := some v })

/- A name stands for one of these variables. -/
structure Local
    (w : World)
    (env : Env)
    (x : String)
    (i : Nat) :
    Prop where
  plain : Plain env.frames
  name : cellIn? x env.frames = some (w.cells.size + i)

theorem extend_cell
    (w : World)
    (cs : List Cell)
    (i : Nat) :
    (w.extend cs).cells[w.cells.size + i]? = cs[i]? := by
  simp only [World.extend]
  rw [Array.getElem?_append_right (Nat.le_add_right _ _),
    Nat.add_sub_cancel_left, List.getElem?_toArray]

theorem extend_size
    (w : World)
    (cs : List Cell) :
    (w.extend cs).cells.size = w.cells.size + cs.length := by
  simp only [World.extend, Array.size_append, List.size_toArray]

theorem extend_extend
    (w : World)
    (cs ds : List Cell) :
    (w.extend cs).extend ds = w.extend (cs ++ ds) := by
  simp only [World.extend, Array.append_assoc,
    List.append_toArray]

theorem extend_grows
    (w : World)
    (cs : List Cell) :
    w.Grows (w.extend cs) where
  objects := fun _ _ hObject => hObject
  cells := by
    intro n c hCell
    have hOld := (Array.getElem?_eq_some_iff.mp hCell).1
    simp only [World.extend]
    rw [Array.getElem?_append_left hOld]
    exact hCell
  symbols := rfl
  lexicals := rfl
  converting := rfl

theorem enter_grows
    (w : World)
    (vs : List Value) :
    w.Grows (w.enter vs) :=
  extend_grows w _

theorem extend_set
    (w : World)
    (cs : List Cell)
    (i : Nat)
    (c : Cell) :
    { w.extend cs with
        cells :=
          (w.extend cs).cells.setIfInBounds (w.cells.size + i) c } =
      w.extend (cs.set i c) := by
  simp only [World.extend, World.mk.injEq, and_true, true_and]
  rw [Array.setIfInBounds_append_right (Nat.le_add_right _ _),
    Nat.add_sub_cancel_left, List.setIfInBounds_toArray]

theorem enter_cell
    (w : World)
    (vs : List Value)
    (i : Nat) :
    (w.enter vs).cells[w.cells.size + i]? =
      vs[i]?.map fun v => { value := some v } := by
  rw [World.enter, extend_cell, List.getElem?_map]

theorem Local.binds
    {vs : List Value}
    {i : Nat}
    (hLocal : Local w env x i)
    (hValue : vs[i]? = some v) :
    Binds (w.enter vs) env x v := by
  refine
    ⟨hLocal.plain, _, { value := some v }, hLocal.name, ?_, rfl⟩
  rw [enter_cell, hValue]
  rfl

/- A variable that is there may get a value of its own. -/
theorem World.Grows.setCell
    {n : Nat}
    (hGrows : w.Grows w')
    (hOld : n < w.cells.size)
    (c : Cell) :
    World.Grows { w with cells := w.cells.setIfInBounds n c }
      { w' with cells := w'.cells.setIfInBounds n c } where
  objects := hGrows.objects
  cells := by
    intro k d hCell
    have hThere :=
      hGrows.cells n _ (Array.getElem?_eq_getElem hOld)
    have hNew := (Array.getElem?_eq_some_iff.mp hThere).1
    simp only [Array.getElem?_setIfInBounds] at hCell ⊢
    by_cases hSame : n = k
    · subst hSame
      rw [if_pos rfl, if_pos hOld] at hCell
      rw [if_pos rfl, if_pos hNew]
      exact hCell
    · rw [if_neg hSame] at hCell ⊢
      exact hGrows.cells k d hCell
  symbols := hGrows.symbols
  lexicals := hGrows.lexicals
  converting := hGrows.converting

/- What is assigned to a variable of the code. -/
theorem gives_assign
    {vs : List Value}
    {i : Nat}
    {old : Value}
    (m : Machine)
    (hGrows : (w.enter vs).Grows w')
    (hOld : vs[i]? = some old)
    (v : Value) :
    (assignPlace m env x (.cell (w.cells.size + i)) v).Gives w'
      fun _ w'' => (w.enter (vs.set i v)).Grows w'' := by
  have hCell :
      (w.enter vs).cells[w.cells.size + i]? =
        some { value := some old } := by
    rw [enter_cell, hOld]
    rfl
  refine (reads_getCell (hGrows.cells _ _ hCell)).bind ?_
  have hSet :
      w.enter (vs.set i v) =
        { w.enter vs with
          cells :=
            (w.enter vs).cells.setIfInBounds (w.cells.size + i)
              { value := some v } } := by
    rw [World.enter, List.map_set]
    exact (extend_set w _ i { value := some v }).symm
  have hPlace := (Array.getElem?_eq_some_iff.mp hCell).1
  rw [hSet]
  exact hGrows.setCell hPlace { value := some v }

------------------------------------------------------------
-- Statements
------------------------------------------------------------

section Statements

variable {t e f : Tree}
variable {ts : List Tree}
variable {Q : Value → Prop}
variable {R : Completion → World → Prop}

/- What is executed is executed one level down. -/
theorem gives_execute
    (hTree :
      ∀ m assign,
        (executeTree (Machine.within m) assign env t).Gives w R)
    (n : Nat) :
    ((Machine.within n).execute env t).Gives w R := by
  cases n with
  | zero => exact Run.gives_throw _
  | succ n => exact hTree n _

/- Statements give back what is said, if they come to an end. -/
def Returns (w : World) (env : Env) (ts : List Tree)
    (Q : Value → Prop) : Prop :=
  ∀ w', w.Grows w' → ∀ n old,
    (executeList (Machine.within n) env ts old).Gives w'
      fun c _ => ∃ v, c = .returned v ∧ Q v

theorem Returns.later
    (hReturns : Returns w env ts Q)
    (hGrows : w.Grows w') :
    Returns w' env ts Q :=
  fun w'' hMore => hReturns w'' (hGrows.trans hMore)

/- The first statement comes before the others. -/
theorem returns_cons
    (hFirst :
      ∀ w', w.Grows w' → ∀ n,
        ((Machine.within n).execute env t).Gives w' fun c w'' =>
          (∃ u, c = .normal u) ∧ Returns w'' env ts Q) :
    Returns w env (t :: ts) Q := by
  intro w' hGrows n old
  refine (hFirst w' hGrows n).bind ?_
  rintro _ w'' ⟨⟨u, rfl⟩, hRest⟩
  exact hRest w'' (.refl w'') n _

/- The value of an expression is given back. -/
theorem returns_give
    (hFinds : Finds w env e v)
    (hPresent : isPresent e = true)
    (hAwaits : env.awaitsResult = false)
    (hValue : Q v) :
    Returns w env (.node .giveBack [e] :: ts) Q := by
  intro w' hGrows n old
  refine Run.Gives.bind (Q := fun c _ => c = .returned v) ?_ ?_
  · refine gives_execute (fun m assign => ?_) n
    refine Run.Gives.bind (Q := fun c _ => c = .returned v) ?_ ?_
    · change
        (if isPresent e then _ else _ : Run Completion).Gives w' _
      rw [if_pos hPresent]
      refine (hFinds w' hGrows m).gives fun w'' _ => ?_
      rw [hAwaits]
      exact rfl
    · rintro _ w'' rfl
      exact rfl
  · rintro _ w'' rfl
    exact ⟨v, rfl, hValue⟩

/- What fails if a test holds goes on if it does not. -/
theorem returns_check
    {b : Bool}
    (hTest : Finds w env t (.bool b))
    (hFails :
      ∀ w', w.Grows w' → ∀ n,
        ((Machine.within n).execute env f).Gives w'
          fun _ _ => False)
    (hRest : b = false → Returns w env ts Q) :
    Returns w env (.node .ifElse [t, f, .absent] :: ts) Q := by
  refine returns_cons fun w' hGrows n => ?_
  refine gives_execute (fun m assign => ?_) n
  refine Run.Gives.bind
    (Q := fun c w'' =>
      c = .normal (some .undefined) ∧ Returns w'' env ts Q) ?_ ?_
  · refine (hTest w' hGrows m).gives fun w'' hMore => ?_
    cases b with
    | true => exact (hFails w'' (hGrows.trans hMore) m).never
    | false => exact ⟨rfl, (hRest rfl).later (hGrows.trans hMore)⟩
  · rintro _ w'' ⟨rfl, hReturns⟩
    exact ⟨⟨_, rfl⟩, hReturns⟩

/- A variable is declared with the value of an expression. -/
theorem gives_declarator
    {vs : List Value}
    {i : Nat}
    {old : Value}
    (n : Nat)
    (hLocal : Local w env x i)
    (hOld : vs[i]? = some old)
    (hFinds : Finds (w.enter vs) env e v)
    (hPresent : isPresent e = true)
    (hNamed : isAnonymous e = false)
    (hGrows : (w.enter vs).Grows w') :
    (executeDeclarator (Machine.within n) env .hoisted
        (.declarator (.name x) e)).Gives
      w' fun _ w'' => (w.enter (vs.set i v)).Grows w'' := by
  have hSteps :
      executeDeclarator (Machine.within n) env .hoisted
          (.declarator (.name x) e) =
        (do
          let put ← hoistedSink (Machine.within n) env (.name x)
          put (← evaluateAs (Machine.within n) env (.ofString x) e)) := by
    unfold executeDeclarator
    dsimp only
    split
    · cases hPresent
    · rename_i hSame _
      cases hSame
      rfl
    · rename_i hOther
      exact absurd rfl (hOther x)
  rw [hSteps]
  refine Run.Reads.bind
    (a := fun u => assignPlace (Machine.within n) env x
      (.cell (w.cells.size + i)) u) ?_ ?_
  · exact
      (reads_resolve _ _ hLocal.plain hLocal.name).bind ⟨rfl, rfl⟩
  · have hValue :
        (evaluateAs (Machine.within n) env (.ofString x) e).Yields w'
          v := by
      refine (hFinds w' hGrows n).bind fun w'' _ => ?_
      rw [hNamed]
      exact ⟨rfl, .refl w''⟩
    refine hValue.gives fun w'' hMore => ?_
    exact gives_assign _ (hGrows.trans hMore) hOld v

theorem returns_declare
    {vs : List Value}
    {i : Nat}
    {old : Value}
    (hLocal : Local w env x i)
    (hOld : vs[i]? = some old)
    (hFinds : Finds (w.enter vs) env e v)
    (hPresent : isPresent e = true)
    (hNamed : isAnonymous e = false)
    (hRest : Returns (w.enter (vs.set i v)) env ts Q) :
    Returns (w.enter vs) env
      (.node (.declare .hoisted) [.declarator (.name x) e] :: ts)
      Q := by
  refine returns_cons fun w' hGrows n => ?_
  refine gives_execute (fun m assign => ?_) n
  refine Run.Gives.bind
    (Q := fun c w'' => c = .normal none ∧ Returns w'' env ts Q)
    ?_ ?_
  · refine Run.Gives.bind
      (Q := fun _ w'' => Returns w'' env ts Q) ?_ ?_
    · refine
        (gives_declarator m hLocal hOld hFinds hPresent hNamed
          hGrows).bind ?_
      intro _ w'' hMore
      exact hRest.later hMore
    · intro _ w'' hReturns
      exact ⟨rfl, hReturns⟩
  · rintro _ w'' ⟨rfl, hReturns⟩
    exact ⟨⟨_, rfl⟩, hReturns⟩

end Statements

------------------------------------------------------------
-- Updates
------------------------------------------------------------

section Updates

variable {e : Tree}
variable {vs : List Value}
variable {i : Nat}
variable {y y' : Float}

theorem Local.reads_target
    (hLocal : Local w env x i)
    (m : Machine)
    (w' : World) :
    (evaluateTarget m env (.name x)).Reads w'
      (.name x (.cell (w.cells.size + i))) :=
  (reads_resolve m w' hLocal.plain hLocal.name).bind ⟨rfl, rfl⟩

theorem reads_local
    (m : Machine)
    (env : Env)
    (x : String)
    (hOld : vs[i]? = some v)
    (hGrows : (w.enter vs).Grows w') :
    (readTarget m env (.name x (.cell (w.cells.size + i)))).Reads
      w' v := by
  refine (reads_getCell (c := { value := some v }) ?_).bind ⟨rfl, rfl⟩
  refine hGrows.cells _ _ ?_
  rw [enter_cell, hOld]
  rfl

/- A number is added to what a variable stands for. -/
theorem gives_addTo
    (hLocal : Local w env x i)
    (hOld : vs[i]? = some (.number y))
    (hFinds : Finds (w.enter vs) env e (.number y'))
    (hGrows : (w.enter vs).Grows w')
    (n : Nat) :
    ((Machine.within n).execute env
        (.node .expression
          [.assign (.compute .add) (.name x) e])).Gives w'
      fun c w'' =>
        (∃ u, c = .normal u) ∧
          (w.enter (vs.set i (.number (y + y')))).Grows w'' := by
  refine gives_execute (fun m assign => ?_) n
  refine Run.Gives.bind
    (Q := fun c w'' =>
      (∃ u, c = .normal u) ∧
        (w.enter (vs.set i (.number (y + y')))).Grows w'') ?_ ?_
  · refine Run.Gives.bind
      (Q := fun _ w'' =>
        (w.enter (vs.set i (.number (y + y')))).Grows w'')
      ?_ ?_
    · cases m with
      | zero => exact Run.gives_throw _
      | succ m =>
          refine (hLocal.reads_target _ w').bind ?_
          refine (reads_local _ _ _ hOld hGrows).bind ?_
          refine (hFinds w' hGrows m).gives fun w'' hMore => ?_
          refine Run.Reads.bind (a := Value.number (y + y'))
            ⟨rfl, rfl⟩ ?_
          refine
            (gives_assign (Machine.within m) (hGrows.trans hMore)
              hOld _).bind ?_
          exact fun _ _ hLast => hLast
    · exact fun _ _ hLast => ⟨⟨_, rfl⟩, hLast⟩
  · rintro _ _ ⟨⟨u, rfl⟩, hLast⟩
    exact ⟨⟨_, rfl⟩, hLast⟩

/- A variable goes up by one. -/
theorem gives_increment
    (hLocal : Local w env x i)
    (hOld : vs[i]? = some (.number y))
    (hGrows : (w.enter vs).Grows w')
    (n : Nat) :
    ((Machine.within n).evaluate env
        (.update true false (.name x))).Gives w'
      fun _ w'' =>
        (w.enter (vs.set i (.number (y + 1)))).Grows w'' := by
  cases n with
  | zero => exact Run.gives_throw _
  | succ n =>
      refine (hLocal.reads_target _ w').bind ?_
      refine (reads_local _ _ _ hOld hGrows).bind ?_
      refine Run.Reads.bind (a := Value.number y) ⟨rfl, rfl⟩ ?_
      refine
        (gives_assign (Machine.within n) hGrows hOld _).bind ?_
      exact fun _ _ hLast => hLast

end Updates

------------------------------------------------------------
-- Functions that Fail
------------------------------------------------------------

/- A function of a script that is just run when it is called. -/
structure Closure.IsPlain (c : Closure) : Prop where
  isClass : c.isClass = false
  isGenerator : c.info.isGenerator = false
  isAsync : c.info.isAsync = false

theorem callClosure_plain
    {c : Closure}
    (hPlain : c.IsPlain)
    (m : Machine)
    (r : Ref)
    (this : Value)
    (arguments : List Value) :
    callClosure m c r this arguments =
      inCall (do
        let v ← thisFor c.info.isStrict this
        let cell ← allocateCell { value := some v }
        executeBody m
          (← enterClosure m c r cell .undefined arguments) c.body) := by
  unfold callClosure
  simp only [hPlain.isClass, hPlain.isGenerator, hPlain.isAsync]
  rfl

/- An object is a function that does nothing but throw. -/
def Raises (w : World) (r : Ref) : Prop :=
  ∃ o c e, w.objects[r]? = some o ∧ o.kind = .closure c ∧
    c.IsPlain ∧ c.body = [.node .raise [e]]

theorem Raises.later
    {r : Ref}
    (hRaises : Raises w r)
    (hGrows : w.Grows w') :
    Raises w' r := by
  rcases hRaises with ⟨o, c, e, hObject, hRest⟩
  exact ⟨o, c, e, hGrows.objects r o hObject, hRest⟩

theorem never_executeBody
    (n : Nat)
    (env : Env)
    (e : Tree)
    (w : World) :
    (executeBody (Machine.within n) env [.node .raise [e]]).Gives w
      fun _ _ => False := by
  refine Run.Gives.never (Run.Gives.never ?_)
  refine gives_execute (fun m assign => ?_) n
  refine Run.Gives.never ?_
  exact (Run.gives_any _ w).bind fun _ _ _ => gives_throwValue _

/- What such a function is called with does not matter. -/
theorem Raises.never
    {r : Ref}
    {this : Value}
    {arguments : List Value}
    (hRaises : Raises w r)
    (n : Nat) :
    (callValue (Machine.within n) (.object r) this arguments).Gives w
      fun _ _ => False := by
  rcases hRaises with ⟨o, c, e, hObject, hKind, hPlain, hBody⟩
  refine (reads_getObject hObject).bind ?_
  rw [hKind]
  refine (reads_checkDepth w).bind ?_
  rw [callClosure_plain hPlain, hBody]
  refine gives_inCall (Q := fun _ => False) ?_
  refine (Run.gives_any _ _).bind fun _ _ _ => ?_
  refine (Run.gives_any _ _).bind fun _ _ _ => ?_
  exact
    (Run.gives_any _ _).bind fun _ _ _ => never_executeBody _ _ _ _

/- A statement fails that calls such a function. -/
theorem never_call
    {r : Ref}
    (hBinds : Binds w env x (.object r))
    (hRaises : Raises w r)
    (n : Nat) :
    ((Machine.within n).execute env
        (.node .expression [.call (.name x) []])).Gives w
      fun _ _ => False := by
  refine gives_execute (fun m assign => ?_) n
  refine Run.Gives.never (Run.Gives.never ?_)
  cases m with
  | zero => exact Run.gives_throw _
  | succ m =>
      refine ((callee_name hBinds).yields m).gives fun w' hGrows => ?_
      refine Run.Reads.bind (a := []) ⟨rfl, rfl⟩ ?_
      cases m with
      | zero => exact Run.gives_throw _
      | succ m => exact (hRaises.later hGrows).never m

end Realm

end Devirt
