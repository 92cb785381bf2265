import Devirt.Proofs.Realm.Guards

/-
  How long the texts are that guarded functions give.

  A guard asks for the texts and numbers that it needs, and the
  function behind it asks again.  Where both get the same
  answers, a repeated text and texts one after the other keep
  to the limit, and a padded text is no longer than the limit
  or than it was.  The elements of a list are not counted, only
  the separators between them; so the text of a list is longer
  than the limit by the lengths of its elements, at most.

  Main declarations:
    * `Guard.Made`, `Guard.Runs`, `runs_inside`
    * `Guard.Runs.returns_repeated`, `Guard.Runs.returns_concat`
    * `Guard.Runs.returns_padded`, `Guard.Runs.returns_join`
    * `Guarded`, `gives_guarded`
    * `Consistent`, `Consistent.of_text`
    * `guardedCalls_bounded`
    * `singleElement_tooLong`
-/

namespace Devirt

namespace Realm

open Script (Tree)

------------------------------------------------------------
-- The Code of a Call
------------------------------------------------------------

/- A function of a script that is a guard. -/
structure Guard.Made (g : Guard) (c : Closure) : Prop where
  isClass : c.isClass = false
  info : ∃ source, c.info = g.info source
  params : c.params = g.params.map Tree.name
  body : c.body = g.body

def Guard.closure (g : Guard) (source : String) (env : Env) : Closure :=
  { info := g.info source
    params := g.params.map Tree.name
    body := g.body
    env
    home := none }

theorem Guard.made_closure
    (g : Guard)
    (source : String)
    (env : Env) :
    g.Made (g.closure source env) :=
  ⟨rfl, ⟨source, rfl⟩, rfl, rfl⟩

/- The surroundings of the code of a guard, while it is called. -/
structure Guard.Runs
    (g : Guard)
    (w : World)
    (env : Env)
    (limit : Nat)
    (this : Value) :
    Prop where
  sees : Sees w env limit
  works : WorksOn w env this
  names :
    ∀ (i : Nat) (x : String),
      (g.bound ++ g.hoisted)[i]? = some x → Local w env x i
  awaits : env.awaitsResult = false

section Calls

open Guard

variable {g : Guard}
variable {c : Closure}
variable {w : World}
variable {env : Env}
variable {limit : Nat}
variable {this v : Value}
variable {vs : List Value}

namespace Guard.Made

theorem isPlain
    (hMade : g.Made c) :
    c.IsPlain := by
  rcases hMade.info with ⟨source, hInfo⟩
  exact
    ⟨hMade.isClass, by rw [hInfo]; rfl, by rw [hInfo]; rfl⟩

theorem isStrict
    (hMade : g.Made c) :
    c.info.isStrict = false := by
  rcases hMade.info with ⟨source, hInfo⟩
  rw [hInfo]
  rfl

theorem kind
    (hMade : g.Made c) :
    c.info.kind = .normal := by
  rcases hMade.info with ⟨source, hInfo⟩
  rw [hInfo]
  rfl

theorem usesArguments
    (hMade : g.Made c) :
    c.info.usesArguments = g.takesAll := by
  rcases hMade.info with ⟨source, hInfo⟩
  rw [hInfo]
  rfl

theorem takes
    (hMade : g.Made c) :
    c.Takes g.params where
  params := hMade.params
  bound := by
    rw [hMade.params]
    cases g <;> rfl
  simple := by
    rw [hMade.params]
    cases g <;> rfl
  distinct := by cases g <;> decide

theorem declares
    (hMade : g.Made c) :
    Declares c.body g.bound g.hoisted where
  functions := by
    rw [hMade.body]
    cases g <;> rfl
  locals := by
    rw [hMade.body]
    cases g <;> rfl
  names := by
    rw [hMade.body]
    cases g <;> decide +kernel
  apart := by cases g <;> decide

end Guard.Made

theorem names_apart
    (g : Guard) :
    (∀ x ∈ seenNames, x ∉ g.bound ∧ x ∉ g.hoisted) ∧
      g.bound.Nodup ∧ g.hoisted.Nodup ∧
        ∀ x ∈ g.bound, x ∉ g.hoisted := by
  cases g <;> decide

/- The names of a call stand for its own variables. -/
theorem runs_inside
    {n : Nat}
    (r : Ref)
    (hSees : Sees w c.env limit)
    (hThis :
      ∃ cell, w.cells[n]? = some cell ∧ cell.value = some this) :
    g.Runs w
      (c.inside r n
        (inScope g.hoisted (w.cells.size + g.bound.length)
          (inScope g.bound w.cells.size c.env.frames)))
      limit this := by
  rcases names_apart g with
    ⟨hApart, hBound, hHoisted, hOther⟩
  have hPlain :
      Plain
        (inScope g.hoisted (w.cells.size + g.bound.length)
          (inScope g.bound w.cells.size c.env.frames)) :=
    plain_inScope _ _ (plain_inScope _ _ hSees.length.plain)
  refine ⟨?_, hThis, ?_, rfl⟩
  · refine hSees.inside hPlain fun x hSeen => ?_
    rcases hApart x hSeen with ⟨hNotBound, hNotHoisted⟩
    exact
      (cellIn?_inScope_of_not_mem _ _ hNotHoisted).trans
        (cellIn?_inScope_of_not_mem _ _ hNotBound)
  · intro i x hPlace
    refine ⟨hPlain, ?_⟩
    rcases Nat.lt_or_ge i g.bound.length with hFirst | hSecond
    · rw [List.getElem?_append_left hFirst] at hPlace
      have hMember := List.mem_of_getElem? hPlace
      exact
        (cellIn?_inScope_of_not_mem _ _ (hOther x hMember)).trans
          (cellIn?_inScope_of_mem _ _ hBound hPlace)
    · rw [List.getElem?_append_right hSecond] at hPlace
      have hCell :=
        cellIn?_inScope_of_mem (w.cells.size + g.bound.length)
          (inScope g.bound w.cells.size c.env.frames) hHoisted hPlace
      refine hCell.trans ?_
      congr 1
      omega

/- A text is given whose length has a bound. -/
def GivesText (most : Nat) (v : Value) : Prop :=
  ∃ s, v = .string s ∧ s.size ≤ most

namespace Guard.Runs

theorem sees_enter
    (hRuns : g.Runs w env limit this)
    (vs : List Value) :
    Sees (w.enter vs) env limit :=
  hRuns.sees.later (extend_grows w _)

theorem finds_self
    (hRuns : g.Runs w env limit this)
    (vs : List Value) :
    Finds (w.enter vs) env self this := by
  rcases hRuns.works with ⟨cell, hCell, hValue⟩
  exact
    finds_this
      ⟨cell, (extend_grows w _).cells _ cell hCell, hValue⟩

theorem finds_local
    {i : Nat}
    {x : String}
    (hRuns : g.Runs w env limit this)
    (hName : (g.bound ++ g.hoisted)[i]? = some x)
    (hValue : vs[i]? = some v) :
    Finds (w.enter vs) env (.name x) v :=
  finds_name ((hRuns.names i x hName).binds hValue)

variable {s t sep : Units}
variable {u : Value}
variable {x : Float}

theorem returns_repeated
    (hRuns : Guard.repeated.Runs w env limit this)
    (hThis : TextOf w this s)
    (hCount : NumberOf w v x) :
    Returns (w.enter [v, .undefined]) env (body .repeated)
      (GivesText limit) := by
  have hDeclared := hRuns.sees_enter [v, .undefined]
  refine returns_declare (v := .string s)
    (hRuns.names 1 "text" rfl) rfl ?_ rfl rfl ?_
  · exact
      hDeclared.finds_asText (by simp [self]) (hRuns.finds_self _)
        (hThis.later (enter_grows w _))
  · have hSees := hRuns.sees_enter [v, .string s]
    have hText :
        Finds (w.enter [v, .string s]) env (.name "text")
          (.string s) :=
      hRuns.finds_local (i := 1) rfl rfl
    have hNumber :
        Finds (w.enter [v, .string s]) env (.name "count") v :=
      hRuns.finds_local (i := 0) rfl rfl
    have hLater := hCount.later (enter_grows w [v, .string s])
    have hTest :=
      finds_exceeds
        (finds_binary (finds_sizeOf hText)
          (hSees.finds_asNumber (by simp) hNumber hLater)
          (steady_mul _ _ _))
        hSees.length
    refine hSees.returns_refuseIf hTest fun hFits => ?_
    refine hSees.returns_handOn (.string (repeatedText s x))
      hRuns.awaits
      (.cons (by simp) hText (.cons (by simp) hNumber .nil)) ?_ ?_
    · intro r hNative
      exact steady_applied hNative (steady_repeated hLater.number)
    · exact ⟨_, rfl, size_repeatedText_le (by simpa using hFits)⟩

/- Both guards of padding work alike. -/
theorem returns_padded
    {padding : Units}
    (hRuns : g.Runs w env limit this)
    (hNames : g.bound ++ g.hoisted = ["length", "fill"])
    (hCaller : g.caller = .call)
    (hThis : TextOf w this s)
    (hLength : NumberOf w v x)
    (hBuild :
      Steady (w.enter [v, u])
        (fun m => callNative m g.native (.string s) [v, u])
        (.string padding))
    (hSize : padding.size = (padded s t x).size + s.size) :
    Returns (w.enter [v, u]) env
      [ refuseIf (exceeds (asNumber (.name "length")) "maxLength")
      , handOn g (asText self) [.name "length", .name "fill"] ]
      (GivesText (max limit s.size)) := by
  have hSees := hRuns.sees_enter [v, u]
  have hNumber : Finds (w.enter [v, u]) env (.name "length") v :=
    hRuns.finds_local (i := 0) (by rw [hNames]; rfl) rfl
  have hFill : Finds (w.enter [v, u]) env (.name "fill") u :=
    hRuns.finds_local (i := 1) (by rw [hNames]; rfl) rfl
  have hText : Finds (w.enter [v, u]) env (asText self) (.string s) :=
    hSees.finds_asText (by simp [self]) (hRuns.finds_self _)
      (hThis.later (enter_grows w _))
  have hTest :=
    finds_exceeds
      (hSees.finds_asNumber (by simp) hNumber
        (hLength.later (enter_grows w _)))
      hSees.length
  refine hSees.returns_refuseIf hTest fun hFits => ?_
  refine hSees.returns_handOn (.string padding) hRuns.awaits
    (.cons (by simp [asText]) hText
      (.cons (by simp) hNumber (.cons (by simp) hFill .nil)))
    ?_ ?_
  · intro r hNative
    rw [hCaller]
    exact steady_applied hNative hBuild
  · refine ⟨_, rfl, ?_⟩
    rw [hSize]
    exact size_padded_le (by simpa using hFits)

theorem returns_padStart
    (hRuns : Guard.padStart.Runs w env limit this)
    (hThis : TextOf w this s)
    (hLength : NumberOf w v x)
    (hFill : TextOr w " " u t) :
    Returns (w.enter [v, u]) env (body .padStart)
      (GivesText (max limit s.size)) :=
  returns_padded hRuns rfl rfl hThis hLength
    (steady_padStart (hLength.later (enter_grows w _)).number
      (hFill.later (enter_grows w _)))
    (Units.size_append _ _)

theorem returns_padEnd
    (hRuns : Guard.padEnd.Runs w env limit this)
    (hThis : TextOf w this s)
    (hLength : NumberOf w v x)
    (hFill : TextOr w " " u t) :
    Returns (w.enter [v, u]) env (body .padEnd)
      (GivesText (max limit s.size)) :=
  returns_padded hRuns rfl rfl hThis hLength
    (steady_padEnd (hLength.later (enter_grows w _)).number
      (hFill.later (enter_grows w _)))
    ((Units.size_append _ _).trans (Nat.add_comm _ _))

/- The guard of lists has a comma for a separator that is not given. -/
theorem finds_width
    (hRuns : Guard.join.Runs w env limit this)
    (hSeparator : TextOr w "," u sep)
    (vs : List Value) :
    Finds (w.enter (u :: vs)) env
      (.conditional
        (.binary .same (.name "separator") (.name "undefined"))
        (.number (Decimal.ofNat 1))
        (sizeOf (asText (.name "separator"))))
      (.number (Decimal.ofNat sep.size)) := by
  have hSees := hRuns.sees_enter (u :: vs)
  have hGiven :
      Finds (w.enter (u :: vs)) env (.name "separator") u :=
    hRuns.finds_local (i := 0) rfl rfl
  refine finds_conditional
    (finds_binary hGiven (finds_global hSees.nothing)
      (steady_same_undefined _ u))
    (fun hAbsent => ?_) (fun hThere => ?_)
  · have hComma : sep.size = 1 := by
      rw [hSeparator.absent hAbsent]
      rfl
    rw [hComma]
    exact finds_number _
  · exact
      finds_sizeOf
        (hSees.finds_asText (by simp) hGiven
          ((hSeparator.given hThere).later (enter_grows w _)))

/- The separators fit into the limit, but nobody asks for the elements. -/
theorem returns_joined
    {items : List Units}
    (hRuns : Guard.join.Runs w env limit this)
    (hThis : ListOf w this items)
    (hSeparator : TextOr w "," u sep)
    (hLimit : limit < 2 ^ 53)
    (hCount : (items.length : Int) ≤ clampedWhole x) :
    Returns
      (w.enter [u, .number x, .number (Decimal.ofNat sep.size)]) env
      [ refuseIf
          (.logical .or (exceeds (.name "count") "maxElements")
            (exceeds (.binary .mul (.name "count") (.name "width"))
              "maxLength"))
      , handOn .join self [.name "separator"] ]
      (GivesText (limit + (items.map Units.size).sum)) := by
  have hSees :=
    hRuns.sees_enter
      [u, .number x, .number (Decimal.ofNat sep.size)]
  have hRows :
      Finds
        (w.enter [u, .number x, .number (Decimal.ofNat sep.size)])
        env (.name "count") (.number x) :=
    hRuns.finds_local (i := 1) rfl rfl
  have hWidth :
      Finds
        (w.enter [u, .number x, .number (Decimal.ofNat sep.size)])
        env (.name "width") (.number (Decimal.ofNat sep.size)) :=
    hRuns.finds_local (i := 2) rfl rfl
  have hGiven :
      Finds
        (w.enter [u, .number x, .number (Decimal.ofNat sep.size)])
        env (.name "separator") u :=
    hRuns.finds_local (i := 0) rfl rfl
  rcases hSees.elements with ⟨y, hElements⟩
  have hGrows :=
    enter_grows w [u, .number x, .number (Decimal.ofNat sep.size)]
  refine hSees.returns_refuseIf
    (b := (compareFloats x y == .greater) ||
      (compareFloats (x * Decimal.ofNat sep.size)
        (Decimal.ofNat limit) == .greater))
    (finds_or (finds_exceeds hRows hElements)
      (fun _ =>
        finds_exceeds
          (finds_binary hRows hWidth (steady_mul _ _ _))
          hSees.length)
      ?_)
    fun hFits => ?_
  · cases compareFloats x y == .greater <;> rfl
  · rcases (hThis.later hGrows).object with
      ⟨r, hObject, hSize, hItems⟩
    subst hObject
    refine hSees.returns_handOn
      (.string (Units.intercalate sep items)) hRuns.awaits
      (.cons (by simp [self]) (hRuns.finds_self _)
        (.cons (by simp) hGiven .nil)) ?_ ?_
    · intro r' hNative
      exact
        steady_applied hNative
          (steady_join hSize hItems (hSeparator.later hGrows))
    · refine ⟨_, rfl, ?_⟩
      have hGuard :
          items.length * sep.size ≤ limit :=
        mul_le_of_guard hCount (Decimal.counts_ofNat _) hLimit
          (by simpa using (Bool.or_eq_false_iff.mp hFits).2)
      rw [Units.size_intercalate]
      have hFewer :
          (items.length - 1) * sep.size ≤
            items.length * sep.size :=
        Nat.mul_le_mul_right _ (Nat.sub_le _ _)
      omega

theorem returns_join
    {items : List Units}
    (hRuns : Guard.join.Runs w env limit this)
    (hThis : ListOf w this items)
    (hSeparator : TextOr w "," u sep)
    (hLimit : limit < 2 ^ 53) :
    Returns (w.enter [u, .undefined, .undefined]) env (body .join)
      (GivesText (limit + (items.map Units.size).sum)) := by
  rcases hThis.measured with ⟨l, x, hLength, hNumber, hCount⟩
  refine returns_declare (v := .number x)
    (hRuns.names 1 "count" rfl) rfl ?_ rfl rfl ?_
  · have hSees := hRuns.sees_enter [u, .undefined, .undefined]
    exact
      hSees.finds_asNumber (by simp [sizeOf])
        (finds_select (hRuns.finds_self _)
          (hLength.later (enter_grows w _)))
        (hNumber.later (enter_grows w _))
  refine returns_declare (v := .number (Decimal.ofNat sep.size))
    (hRuns.names 2 "width" rfl) rfl
    (hRuns.finds_width hSeparator _) rfl rfl ?_
  exact hRuns.returns_joined hThis hSeparator hLimit hCount

/- The lengths of some texts together are no more than a double. -/
def Adds (s : Units) (ts : List Units) (y : Float) : Prop :=
  NoLess (s.size + (ts.map Units.size).sum) y

theorem Adds.next
    {ts : List Units}
    {j : Nat}
    {y : Float}
    (hAdds : Adds s (ts.take j) y)
    (hNext : ts[j]? = some t) :
    Adds s (ts.take (j + 1)) (y + Decimal.ofNat t.size) := by
  unfold Adds at hAdds ⊢
  rw [List.take_add_one, hNext, Option.toList_some, List.map_append,
    List.sum_append, ← Nat.add_assoc]
  exact hAdds.add (noLess_ofNat t.size)

/- The variables of the loop, when so many texts have been added. -/
def Counted
    (w : World)
    (r : Ref)
    (s : Units)
    (ts : List Units)
    (added passed : Nat)
    (w' : World) :
    Prop :=
  ∃ y z, Adds s (ts.take added) y ∧
    Double.Counts passed z.toModel.unpack ∧
      (w.enter [.object r, .number y, .number z]).Grows w'

/- The variables stand for themselves while texts are added. -/
theorem finds_counters
    {r : Ref}
    (hRuns : Guard.concat.Runs w env limit this)
    (y z : Float) :
    Finds (w.enter [.object r, .number y, .number z]) env
        (.name "arguments") (.object r) ∧
      Finds (w.enter [.object r, .number y, .number z]) env
          (.name "total") (.number y) ∧
        Finds (w.enter [.object r, .number y, .number z]) env
          (.name "k") (.number z) :=
  ⟨hRuns.finds_local (i := 0) rfl rfl,
    hRuns.finds_local (i := 1) rfl rfl,
    hRuns.finds_local (i := 2) rfl rfl⟩

theorem finds_more
    {r : Ref}
    {y z : Float}
    {j : Nat}
    (hRuns : Guard.concat.Runs w env limit this)
    (hArguments : ArgumentsOf w r vs)
    (hFew : vs.length ≤ Key.indexBound)
    (hMost : j ≤ vs.length)
    (hCounts : Double.Counts j z.toModel.unpack) :
    Finds (w.enter [.object r, .number y, .number z]) env
      (.binary .less (.name "k") (sizeOf (.name "arguments")))
      (.bool (decide (j < vs.length))) := by
  have hBound : Key.indexBound = 4294967295 := rfl
  rcases hRuns.finds_counters (r := r) y z with ⟨hList, -, hIndex⟩
  have hHas := hArguments.length.later (enter_grows w
    [.object r, .number y, .number z])
  have hTest :=
    finds_binary hIndex (finds_select hList hHas.steady)
      (steady_less _ z (Decimal.ofNat vs.length))
  rw [compareFloats_less_iff hCounts (Decimal.counts_ofNat _)
    (by omega)] at hTest
  exact hTest

theorem finds_added
    {r : Ref}
    {y z : Float}
    {j : Nat}
    (hRuns : Guard.concat.Runs w env limit this)
    (hArguments : ArgumentsOf w r vs)
    (hFew : vs.length ≤ Key.indexBound)
    (hCounts : Double.Counts j z.toModel.unpack)
    (hThere : vs[j]? = some v)
    (hText : TextOf w v t) :
    Finds (w.enter [.object r, .number y, .number z]) env
      (sizeOf (asText (.index (.name "arguments") (.name "k"))))
      (.number (Decimal.ofNat t.size)) := by
  have hBound : Key.indexBound = 4294967295 := rfl
  have hLess := (List.getElem?_eq_some_iff.mp hThere).1
  rcases hRuns.finds_counters (r := r) y z with ⟨hList, -, hIndex⟩
  have hItem : Has w r (.index j) v := by
    have hOwn := hArguments.item hThere (by omega)
    unfold Key.ofNat at hOwn
    rwa [if_pos (by omega)] at hOwn
  have hElement :=
    finds_index hList hIndex
      (indexOfFloat?_of_counts hCounts (by omega))
      (hItem.later (enter_grows w _))
  exact
    finds_sizeOf
      ((hRuns.sees_enter _).finds_asText (by simp) hElement
        (hText.later (enter_grows w _)))

theorem loops_adding
    {r : Ref}
    {ts : List Units}
    (s : Units)
    (hRuns : Guard.concat.Runs w env limit this)
    (hArguments : ArgumentsOf w r vs)
    (hTexts : List.Forall₂ (TextOf w) vs ts)
    (hFew : vs.length ≤ Key.indexBound) :
    Loops env (.binary .less (.name "k") (sizeOf (.name "arguments")))
      (.update true false (.name "k"))
      (.node .expression
        [ .assign (.compute .add) (.name "total")
            (sizeOf
              (asText (.index (.name "arguments") (.name "k")))) ])
      (fun w' => ∃ j, j ≤ ts.length ∧ Counted w r s ts j j w')
      (fun w' => ∃ j, j < ts.length ∧ Counted w r s ts (j + 1) j w')
      (fun w' => ∃ j, Counted w r s ts ts.length j w') where
  hasTest := rfl
  hasNext := rfl
  tested := by
    rintro w' ⟨j, hMost, y, z, hAdds, hCounts, hGrows⟩
    have hLength := hTexts.length_eq
    have hTest :=
      hRuns.finds_more (y := y) hArguments hFew (by omega) hCounts
    refine ⟨_, hTest.later hGrows, fun w'' hMore => ⟨?_, ?_⟩⟩
    · intro hLast
      have hAll : j = ts.length := by
        have hNone := of_decide_eq_false hLast
        omega
      subst hAll
      exact ⟨_, y, z, hAdds, hCounts, hGrows.trans hMore⟩
    · intro hOne n
      have hFirst : j < vs.length := of_decide_eq_true hOne
      have hSecond : j < ts.length := by omega
      have hTerm :=
        hRuns.finds_added (y := y) hArguments hFew hCounts
          (List.getElem?_eq_getElem hFirst)
          ((List.forall₂_iff_get.mp hTexts).2 j hFirst hSecond)
      refine
        (gives_addTo (hRuns.names 1 "total" rfl) rfl hTerm
          (hGrows.trans hMore) n).mono ?_
      rintro c last ⟨hNormal, hLast⟩
      exact
        ⟨hNormal, j, hSecond, _, z,
          hAdds.next (List.getElem?_eq_getElem hSecond), hCounts,
          hLast⟩
  continued := by
    rintro w' ⟨j, hLess, y, z, hAdds, hCounts, hGrows⟩ n
    have hBound : Key.indexBound = 4294967295 := rfl
    have hLength := hTexts.length_eq
    refine
      (gives_increment (hRuns.names 2 "k" rfl) rfl
        (hGrows.counting _ _) n).mono ?_
    intro _ w'' hLast
    exact
      ⟨j + 1, hLess, y, z + 1, hAdds,
        hCounts.add_one (by omega), hLast⟩

theorem returns_concat
    {r : Ref}
    {ts : List Units}
    (hRuns : Guard.concat.Runs w env limit this)
    (hThis : TextOf w this s)
    (hArguments : ArgumentsOf w r vs)
    (hTexts : List.Forall₂ (TextOf w) vs ts)
    (hFew : vs.length ≤ Key.indexBound)
    (hLimit : limit < 2 ^ 53) :
    Returns (w.enter [.object r, .undefined, .undefined]) env
      (body .concat) (GivesText limit) := by
  refine returns_declare (v := .number (Decimal.ofNat s.size))
    (hRuns.names 1 "total" rfl) rfl ?_ rfl rfl ?_
  · have hSees :=
      hRuns.sees_enter [.object r, .undefined, .undefined]
    exact
      finds_sizeOf
        (hSees.finds_asText (by simp [self]) (hRuns.finds_self _)
          (hThis.later (enter_grows w _)))
  refine returns_cons fun w' hGrows n => ?_
  refine
    ((loops_adding s hRuns hArguments hTexts hFew).gives ?_ n).mono ?_
  · intro m
    refine Run.Gives.bind
      (gives_declarator (v := .number (Decimal.ofNat 0)) m
        (hRuns.names 2 "k" rfl) rfl (finds_number _) rfl rfl hGrows)
      ?_
    intro _ w'' hMore
    refine
      ⟨0, Nat.zero_le _, Decimal.ofNat s.size, Decimal.ofNat 0, ?_,
        Decimal.counts_ofNat 0, hMore⟩
    exact noLess_ofNat s.size
  · rintro c w'' ⟨hNormal, j, y, z, hAdds, -, hMore⟩
    refine ⟨hNormal, Returns.later ?_ hMore⟩
    have hSees := hRuns.sees_enter [.object r, .number y, .number z]
    have hLater := enter_grows w [.object r, .number y, .number z]
    rcases hRuns.finds_counters (r := r) y z with
      ⟨hList, hTotal, -⟩
    have hText :
        Finds (w.enter [.object r, .number y, .number z]) env
          (asText self) (.string s) :=
      hSees.finds_asText (by simp [self]) (hRuns.finds_self _)
        (hThis.later hLater)
    refine hSees.returns_refuseIf (finds_exceeds hTotal hSees.length)
      fun hFits => ?_
    refine hSees.returns_handOn (.string (ts.foldl (· ++ ·) s))
      hRuns.awaits
      (.cons (by simp [asText]) hText (.cons (by simp) hList .nil))
      ?_ ?_
    · intro r' hNative
      refine steady_spread hNative
        ((hArguments.steady hFew).later hLater) ?_
      exact
        steady_concat
          (hTexts.imp fun _ _ hOne => hOne.later hLater)
    · refine ⟨_, rfl, ?_⟩
      rw [Units.size_foldl_append]
      unfold Adds at hAdds
      rw [List.take_length] at hAdds
      exact hAdds.le_of_guard hLimit (by simpa using hFits)

end Guard.Runs

/- An object is the guard of a function, for a limit. -/
structure Guarded (w : World) (g : Guard) (r : Ref) (limit : Nat) :
    Prop where
  made :
    ∃ o c, w.objects[r]? = some o ∧ o.kind = .closure c ∧ g.Made c ∧
      Sees w c.env limit

/- The function of a guard is one wherever the limit is seen. -/
theorem gives_guarded
    (g : Guard)
    (source : String)
    (name : Units)
    (hSees : Sees w env limit)
    (n : Nat) :
    (evaluateAs (Machine.within n) env name (g.function source)).Gives
      w fun v w' => ∃ r, v = .object r ∧ Guarded w' g r limit := by
  refine
    (gives_evaluateAs (k := .closure (g.closure source env)) name
      (g.function source) ?_).mono ?_
  · cases n with
    | zero => exact Run.gives_throw _
    | succ n =>
        exact
          (gives_makeClosure env (g.info source) _ g.body .empty none
            w).bind fun r _ hAdded => ⟨r, rfl, hAdded⟩
  · rintro _ w' ⟨r, rfl, hAdded⟩
    rcases hAdded.kind with ⟨o, hThere, hKind⟩
    exact
      ⟨r, rfl, o, _, hThere, hKind, made_closure g source env,
        hSees.later hAdded.grows⟩

section Guarded

variable {arguments : List Value}
variable {P : World → Value → Prop}
variable {Q : Value → Prop}

/- The cell of a call holds what it works on. -/
theorem works_enter
    (w : World)
    (v : Value) :
    ∃ cell, (w.enter [v]).cells[w.cells.size]? = some cell ∧
      cell.value = some v :=
  ⟨{ value := some v }, enter_cell w [v] 0, rfl⟩

/- What the code of a guard gives back is what a call of it gives. -/
theorem Guarded.gives
    {r : Ref}
    (hGuarded : Guarded w g r limit)
    (hOwn : g.takesAll = false)
    (hReceived : Received w this P)
    (hBody :
      ∀ w' base v env, w.Grows w' → P w' v → w'.Grows base →
        g.Runs base env limit v →
          Returns
            (base.enter
              (paramValues g.params arguments ++
                g.hoisted.map fun _ => .undefined))
            env g.body Q)
    (n : Nat) :
    (callValue (Machine.within n) (.object r) this arguments).Gives w
      fun v _ => Q v := by
  rcases hGuarded.made with ⟨o, c, hObject, hKind, hMade, hSees⟩
  have hBound : g.bound = g.params := by
    unfold Guard.bound
    rw [hOwn]
    rfl
  refine gives_closure hObject hKind hMade.isPlain hMade.isStrict
    hReceived ?_ n
  intro w' v hGrows hValue m
  have hUses : c.info.usesArguments = false := by
    rw [hMade.usesArguments, hOwn]
  have hDeclares := hMade.declares
  rw [hBound] at hDeclares
  refine
    (gives_enterClosure hMade.isPlain hMade.kind hUses hMade.takes
      hDeclares m r w'.cells.size arguments (w'.enter [v])).mono ?_
  rintro _ _ ⟨rfl, rfl⟩
  rw [hMade.body]
  have hMore := enter_grows w' [v]
  refine hBody w' (w'.enter [v]) v _ hGrows hValue hMore ?_
  rw [← hBound]
  exact
    runs_inside r (hSees.later (hGrows.trans hMore))
      (works_enter w' v)

/- The same with all arguments in an object. -/
theorem Guarded.gives_all
    {r : Ref}
    (hGuarded : Guarded w g r limit)
    (hAll : g.takesAll = true)
    (hNone : g.params = [])
    (hReceived : Received w this P)
    (hBody :
      ∀ w' base v env r, w.Grows w' → P w' v → w'.Grows base →
        g.Runs base env limit v → ArgumentsOf base r arguments →
          Returns
            (base.enter
              (.object r :: g.hoisted.map fun _ => .undefined))
            env g.body Q)
    (n : Nat) :
    (callValue (Machine.within n) (.object r) this arguments).Gives w
      fun v _ => Q v := by
  rcases hGuarded.made with ⟨o, c, hObject, hKind, hMade, hSees⟩
  have hBound : g.bound = ["arguments"] := by
    unfold Guard.bound
    rw [hAll]
    rfl
  refine gives_closure hObject hKind hMade.isPlain hMade.isStrict
    hReceived ?_ n
  intro w' v hGrows hValue m
  have hUses : c.info.usesArguments = true := by
    rw [hMade.usesArguments, hAll]
  have hParams : c.params = [] := by
    rw [hMade.params, hNone]
    rfl
  have hDeclares := hMade.declares
  rw [hBound] at hDeclares
  refine
    (gives_enterArguments hMade.isPlain hMade.kind hMade.isStrict
      hUses hParams hDeclares m r w'.cells.size arguments
      (w'.enter [v])).mono ?_
  rintro _ _ ⟨rfl, values, callee, rfl⟩
  rw [hMade.body]
  have hMore :=
    (enter_grows w' [v]).trans
      (.push (w'.enter [v]) (argumentsWith arguments values callee))
  refine hBody w' _ v _ _ hGrows hValue hMore ?_ ?_
  · have hRuns :=
      runs_inside (g := g) r (hSees.later (hGrows.trans hMore))
        (works_enter w' v)
    rw [hBound] at hRuns
    exact hRuns
  · rcases argumentsWith_spec arguments values callee with
      ⟨hKind, hItems, hNamed⟩
    exact
      ⟨_, Array.getElem?_push_size, hKind, hItems, hNamed⟩

end Guarded

/-
  A call whose values are converted to the same again and again,
  with the greatest length that its result can have.
-/
inductive Consistent (w : World) (limit : Nat) :
    Guard → Value → List Value → Nat → Prop where
  | repeated
      {this : Value}
      {arguments : List Value}
      {s : Units}
      {x : Float}
      (hThis : Received w this fun w' v => TextOf w' v s)
      (hCount : NumberOf w (arguments.headD .undefined) x) :
      Consistent w limit .repeated this arguments limit
  | padStart
      {this : Value}
      {arguments : List Value}
      {s t : Units}
      {x : Float}
      (hThis : Received w this fun w' v => TextOf w' v s)
      (hLength : NumberOf w (arguments.headD .undefined) x)
      (hFill :
        TextOr w " " ((arguments.drop 1).headD .undefined) t) :
      Consistent w limit .padStart this arguments
        (max limit s.size)
  | padEnd
      {this : Value}
      {arguments : List Value}
      {s t : Units}
      {x : Float}
      (hThis : Received w this fun w' v => TextOf w' v s)
      (hLength : NumberOf w (arguments.headD .undefined) x)
      (hFill :
        TextOr w " " ((arguments.drop 1).headD .undefined) t) :
      Consistent w limit .padEnd this arguments
        (max limit s.size)
  | concat
      {this : Value}
      {arguments : List Value}
      {s : Units}
      {ts : List Units}
      (hThis : Received w this fun w' v => TextOf w' v s)
      (hTexts : List.Forall₂ (TextOf w) arguments ts)
      (hFew : arguments.length ≤ Key.indexBound) :
      Consistent w limit .concat this arguments limit
  | join
      {this : Value}
      {arguments : List Value}
      {items : List Units}
      {sep : Units}
      (hThis : Received w this fun w' v => ListOf w' v items)
      (hSeparator : TextOr w "," (arguments.headD .undefined) sep) :
      Consistent w limit .join this arguments
        (limit + (items.map Units.size).sum)

theorem exists_texts
    (w : World)
    {vs : List Value}
    (hPrimitive : ∀ v ∈ vs, v.isObject = false) :
    ∃ ts, List.Forall₂ (TextOf w) vs ts := by
  induction vs with
  | nil => exact ⟨[], .nil⟩
  | cons v vs ih =>
      rcases textOf_primitive w (hPrimitive v List.mem_cons_self) with
        ⟨t, hText⟩
      rcases ih fun u hMember =>
          hPrimitive u (List.mem_cons_of_mem v hMember) with
        ⟨ts, hTexts⟩
      exact ⟨t :: ts, .cons hText hTexts⟩

/- Texts and what is no object cannot answer differently. -/
theorem Consistent.of_text
    (hKeeps : KeepsTexts w)
    (s : Units)
    {arguments : List Value}
    (hPrimitive : ∀ v ∈ arguments, v.isObject = false)
    (hFew : arguments.length ≤ Key.indexBound)
    (hText : g ≠ .join) :
    ∃ most ≤ max limit s.size,
      Consistent w limit g (.string s) arguments most := by
  have hThis := received_text hKeeps s
  have hFirst : (arguments.headD .undefined).isObject = false := by
    cases arguments with
    | nil => rfl
    | cons v vs => exact hPrimitive v List.mem_cons_self
  have hSecond :
      ((arguments.drop 1).headD .undefined).isObject = false := by
    rcases arguments with _ | ⟨v, _ | ⟨u, us⟩⟩
    · rfl
    · rfl
    · exact hPrimitive u (by simp)
  rcases numberOf_primitive w hFirst with ⟨x, hNumber⟩
  cases g with
  | join => exact absurd rfl hText
  | repeated =>
      exact ⟨_, Nat.le_max_left _ _, .repeated hThis hNumber⟩
  | padStart =>
      rcases textOr_primitive w " " hSecond with ⟨t, hFill⟩
      exact ⟨_, Nat.le_refl _, .padStart hThis hNumber hFill⟩
  | padEnd =>
      rcases textOr_primitive w " " hSecond with ⟨t, hFill⟩
      exact ⟨_, Nat.le_refl _, .padEnd hThis hNumber hFill⟩
  | concat =>
      rcases exists_texts w hPrimitive with ⟨ts, hTexts⟩
      exact ⟨_, Nat.le_max_left _ _, .concat hThis hTexts hFew⟩

theorem guardedCalls_bounded
    {r : Ref}
    {arguments : List Value}
    {most : Nat}
    (hLimit : limit < 2 ^ 53)
    (hGuarded : Guarded w g r limit)
    (hConsistent : Consistent w limit g this arguments most)
    (n : Nat) :
    (callValue (Machine.within n) (.object r) this arguments).Gives w
      fun v _ => GivesText most v := by
  cases hConsistent with
  | repeated hThis hCount =>
      refine hGuarded.gives rfl hThis ?_ n
      intro w' base v env hGrows hText hMore hRuns
      exact
        hRuns.returns_repeated (hText.later hMore)
          (hCount.later (hGrows.trans hMore))
  | padStart hThis hLength hFill =>
      refine hGuarded.gives rfl hThis ?_ n
      intro w' base v env hGrows hText hMore hRuns
      have hLater := hGrows.trans hMore
      exact
        hRuns.returns_padStart (hText.later hMore)
          (hLength.later hLater) (hFill.later hLater)
  | padEnd hThis hLength hFill =>
      refine hGuarded.gives rfl hThis ?_ n
      intro w' base v env hGrows hText hMore hRuns
      have hLater := hGrows.trans hMore
      exact
        hRuns.returns_padEnd (hText.later hMore)
          (hLength.later hLater) (hFill.later hLater)
  | concat hThis hTexts hFew =>
      refine hGuarded.gives_all rfl rfl hThis ?_ n
      intro w' base v env r hGrows hText hMore hRuns hArguments
      have hLater := hGrows.trans hMore
      exact
        hRuns.returns_concat (hText.later hMore) hArguments
          (hTexts.imp fun _ _ hOne => hOne.later hLater) hFew hLimit
  | join hThis hSeparator =>
      refine hGuarded.gives rfl hThis ?_ n
      intro w' base v env hGrows hList hMore hRuns
      exact
        hRuns.returns_join (hList.later hMore)
          (hSeparator.later (hGrows.trans hMore)) hLimit

end Calls

/- The text that a step gives. -/
def Step.text? : Step Value → Option Units
  | .ok (.string s) _ => some s
  | _ => none

theorem Step.eq_ok_of_text?
    {p : Step Value}
    {s : Units}
    (hText : p.text? = some s) :
    ∃ w, p = .ok (.string s) w := by
  unfold Step.text? at hText
  split at hText <;> cases hText
  exact ⟨_, rfl⟩

------------------------------------------------------------
-- A Small World
------------------------------------------------------------

namespace Workshop

def guards : List Guard :=
  [.repeated, .padStart, .padEnd, .concat, .join]

def inheriting (parent : Intrinsic) (kind : Kind) : Object :=
  { proto := some parent.ref, kind }

/- The names that the code of the guards sees, and their values. -/
def names : List String :=
  ["toStr", "tooLong", "maxLength", "maxElements"] ++
    guards.map Guard.name

def env : Env :=
  { frames := [.names (names.zipIdx 1)]
    thisCell := 0
    callee := none
    newTarget := .undefined
    home := none
    isStrict := false }

def refusal : Closure :=
  { info := Guard.info .repeated ""
    params := []
    body := [.node .raise [.new (.name "RangeError") []]]
    env
    home := none }

def objects : List Object :=
  [ { proto := some Intrinsic.objectProto.ref
      properties :=
        #[ (Key.ofString "Number", .hidden (.object 6))
         , (Key.ofString "undefined", .fixed .undefined) ] }
  , { proto := none }
  , { inheriting .objectProto (.native .nothing) with
      properties :=
        #[ (Key.ofString "call", .hidden (.object 7))
         , (Key.ofString "apply", .hidden (.object 8)) ] }
  , inheriting .objectProto (.array 0 true)
  , inheriting .objectProto (.wrapper (.string .empty))
  , inheriting .functionProto (.native (.make .string))
  , inheriting .functionProto (.native (.make .number))
  , inheriting .functionProto (.native (.function .call))
  , inheriting .functionProto (.native (.function .apply))
  , inheriting .functionProto (.native (Guard.native .repeated))
  , inheriting .functionProto (.native (Guard.native .padStart))
  , inheriting .functionProto (.native (Guard.native .padEnd))
  , inheriting .functionProto (.native (Guard.native .concat))
  , inheriting .functionProto (.native (Guard.native .join))
  , inheriting .functionProto (.closure refusal)
  , inheriting .functionProto (.closure (Guard.join.closure "" env))
  , { inheriting .arrayProto (.array 1 true) with
      items := #[some (.ofString "x")] } ]

/- A world for the strictest limit. -/
def world : World :=
  { objects := objects.toArray
    cells :=
      ([ .object 0, .object 5, .object 14, .ofNat 0, .ofNat 1
       , .object 9, .object 10, .object 11, .object 12, .object 13 ].map
        fun v => ({ value := some v } : Cell)).toArray
    symbols := #[]
    registry := []
    lexicals := []
    limits := ⟨100, 100, 100, 0, .deny⟩
    depth := 1
    rounds := 0
    converting := []
    templates := []
    patience := 0 }

theorem plain_env :
    Plain env.frames := by
  intro f hMember
  rw [List.mem_singleton.mp hMember]
  exact ⟨_, rfl⟩

theorem sees :
    Sees world env 0 where
  texts :=
    ⟨5, ⟨plain_env, 1, _, by decide +kernel, rfl, rfl⟩, _, rfl, rfl⟩
  numbers :=
    ⟨6,
      ⟨plain_env, by decide +kernel, rfl, .hidden (.object 6), true,
        by decide +kernel, rfl⟩,
      _, rfl, rfl⟩
  nothing :=
    ⟨plain_env, by decide +kernel, rfl, .fixed .undefined, false,
      by decide +kernel, rfl⟩
  refusal :=
    ⟨14, ⟨plain_env, 2, _, by decide +kernel, rfl, rfl⟩, _, refusal,
      _, rfl, rfl, ⟨rfl, rfl, rfl⟩, rfl⟩
  length := ⟨plain_env, 3, _, by decide +kernel, rfl, rfl⟩
  elements := ⟨_, plain_env, 4, _, by decide +kernel, rfl, rfl⟩
  kept := by
    intro g
    refine
      ⟨9 + g.ctorIdx, if g.takesAll then 8 else 7,
        ⟨plain_env, 5 + g.ctorIdx,
          { value := some (.object (9 + g.ctorIdx)) }, ?_, ?_, rfl⟩,
        ?_,
        ⟨.hidden (.object (if g.takesAll then 8 else 7)), true, ?_,
          rfl⟩,
        ?_⟩
    · cases g <;> decide +kernel
    · cases g <;> rfl
    · cases g <;> exact ⟨_, rfl, rfl⟩
    · cases g <;> decide +kernel
    · cases g <;> exact ⟨_, rfl, rfl⟩

theorem guarded :
    Guarded world .join 15 0 :=
  ⟨_, _, rfl, rfl, Guard.join.made_closure "" env, sees⟩

theorem listOf_items :
    ListOf world (.object 16) [Units.ofString "x"] := by
  refine listOf_array (b := true) rfl rfl ?_ (by decide)
  intro i s hPlace
  cases i with
  | zero =>
      cases hPlace
      exact
        ⟨_, rfl, fun _ => textOf_string _ _, by simp [Value.ofString, Value.isNullish]⟩
  | succ i => cases hPlace

theorem consistent :
    Consistent world 0 .join (.object 16) [.string .empty] 1 := by
  have hList :
      Received world (.object 16) fun w' v =>
        ListOf w' v [Units.ofString "x"] :=
    received_object fun w' hGrows => listOf_items.later hGrows
  exact .join hList ⟨fun _ => textOf_string _ _, nofun⟩

end Workshop

open Workshop

/- One element without a separator is as long as it is. -/
theorem singleElement_bounded :
    ((0 < 2 ^ 53 ∧ Guarded world .join 15 0) ∧
        Consistent world 0 .join (.object 16) [.string .empty] 1) ∧
      ∀ n,
        (callValue (Machine.within n) (.object 15) (.object 16)
            [.string .empty]).Gives world fun v _ =>
          GivesText 1 v :=
  ⟨⟨⟨by decide, guarded⟩, consistent⟩,
    guardedCalls_bounded (by decide) guarded consistent⟩

/- The element is given, although the limit allows no unit at all. -/
theorem singleElement_tooLong :
    Guarded world .join 15 0 ∧
      ∃ w s,
        callValue (Machine.within 9) (.object 15) (.object 16)
            [.string .empty] world =
          .ok (.string s) w ∧ 0 < s.size := by
  have hSize :
      (callValue (Machine.within 9) (.object 15) (.object 16)
          [.string .empty] world).text?.map Units.size =
        some 1 := by
    decide +kernel
  rcases Option.map_eq_some_iff.mp hSize with ⟨s, hText, hOne⟩
  rcases Step.eq_ok_of_text? hText with ⟨w, hStep⟩
  exact ⟨guarded, w, s, hStep, by omega⟩

end Realm

end Devirt
