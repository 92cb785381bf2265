import Devirt.Pattern.Basic
import Mathlib.Data.List.Basic

/-
  What the matches of a pattern look like.

  A pattern leads from one place to another along characters
  of its classes.  The matcher only ever gives places that the
  pattern leads to, and its places lie on the text that is
  searched.  A search finds the leftmost match.

  Main declarations:
    * `Pattern.Passes`, `Pattern.Leads`
    * `Pattern.matchThen_leads`
    * `Pattern.Place.OnText`, `Pattern.Leads.onText`
    * `Pattern.Located`, `Pattern.all_located`
    * `Pattern.Finds`, `Pattern.search_eq_some`,
      `Pattern.all_finds`
-/

------------------------------------------------------------
-- Leading from Place to Place
------------------------------------------------------------

namespace Devirt

namespace Pattern

/-
  So many characters of a class lead from one place to another.
-/
inductive Passes (p : Char → Bool) :
    Place → Place → Nat → Prop where
  | done
      (here : Place) :
      Passes p here here 0
  | next
      {offset n : Nat}
      {before : Option Char}
      {c : Char}
      {cs : List Char}
      {there : Place}
      (hClass : p c = true)
      (hRest : Passes p ⟨offset + 1, some c, cs⟩ there n) :
      Passes p ⟨offset, before, c :: cs⟩ there (n + 1)

/-
  A pattern leads from one place to another, and remembers
  parts on the way.
-/
def Leads :
    Pattern → Place → Groups → Place → Groups → Prop
  | empty, here, groups, there, found =>
    there = here ∧ found = groups
  | one p, here, groups, there, found =>
    ∃ c cs,
      here.rest = c :: cs ∧ p c = true ∧
        there = ⟨here.offset + 1, some c, cs⟩ ∧
          found = groups
  | many p least most, here, groups, there, found =>
    ∃ n,
      Passes p here there n ∧ least ≤ n ∧
        (∀ bound ∈ most, n ≤ bound) ∧ found = groups
  | seq a b, here, groups, there, found =>
    ∃ between seen,
      Leads a here groups between seen ∧
        Leads b between seen there found
  | alt a b, here, groups, there, found =>
    Leads a here groups there found ∨
      Leads b here groups there found
  | group n a, here, groups, there, found =>
    ∃ seen,
      Leads a here groups there seen ∧
        found = (n, here.offset, there.offset) :: seen
  | start, here, groups, there, found =>
    here.before = none ∧ there = here ∧ found = groups
  | stop, here, groups, there, found =>
    here.rest = [] ∧ there = here ∧ found = groups
  | edge, here, groups, there, found =>
    isEdge here = true ∧ there = here ∧ found = groups

------------------------------------------------------------
-- The Matcher
------------------------------------------------------------

theorem mem_reach
    {p : Char → Bool}
    {most : Option Nat}
    {here there : Place}
    {shorter : List Place}
    {cs : List Char}
    (hRest : here.rest = cs)
    (hMember : there ∈ reach p most here shorter cs) :
    there ∈ shorter ∨
      ∃ n,
        Passes p here there n ∧
          ∀ bound ∈ most, n ≤ bound := by
  have hHere :
      ∀ {most : Option Nat} {here : Place}
        {shorter : List Place},
        there ∈ here :: shorter →
          there ∈ shorter ∨
            ∃ n,
              Passes p here there n ∧
                ∀ bound ∈ most, n ≤ bound := by
    intro most here shorter hMember
    rcases List.mem_cons.mp hMember with rfl | hShorter
    · exact Or.inr ⟨0, .done _, fun _ _ => Nat.zero_le _⟩
    · exact Or.inl hShorter
  fun_induction reach p most here shorter cs with
  | case1 here shorter cs => exact hHere hMember
  | case2 most here shorter hMost => exact hHere hMember
  | case3 most here shorter c cs hMost hClass ih =>
      rcases ih rfl hMember with
        hShorter | ⟨n, hPasses, hBound⟩
      · exact hHere hShorter
      · refine Or.inr ⟨n + 1, ?_, ?_⟩
        · rcases here with ⟨offset, before, rest⟩
          subst hRest
          exact .next hClass hPasses
        · intro bound hMember
          have hPositive : bound ≠ 0 := by
            rintro rfl
            exact hMost hMember
          have hLess := hBound (bound - 1) (by simp_all)
          omega
  | case4 most here shorter c cs hMost hClass =>
      exact hHere hMember

theorem Passes.offset_eq
    {p : Char → Bool}
    {here there : Place}
    {n : Nat}
    (hPasses : Passes p here there n) :
    there.offset = here.offset + n := by
  induction hPasses with
  | done here => rfl
  | next hClass hRest ih =>
      dsimp only at ih ⊢
      omega

/- The matcher goes on from places that the pattern leads to. -/
theorem matchThen_leads
    {α : Type}
    (p : Pattern)
    {here : Place}
    {groups : Groups}
    {next : Place → Groups → Option α}
    {r : α}
    (hMatch : matchThen p here groups next = some r) :
    ∃ there found,
      Leads p here groups there found ∧
        next there found = some r := by
  induction p generalizing here groups next with
  | empty => exact ⟨here, groups, ⟨rfl, rfl⟩, hMatch⟩
  | one p =>
      simp only [matchThen] at hMatch
      split at hMatch
      · next c cs hRest =>
          split_ifs at hMatch with hClass
          exact
            ⟨_, groups, ⟨c, cs, hRest, hClass, rfl, rfl⟩,
              hMatch⟩
      · simp at hMatch
  | many p least most =>
      simp only [matchThen] at hMatch
      rcases List.exists_of_findSome?_eq_some hMatch with
        ⟨there, hMember, hNext⟩
      rcases List.mem_filter.mp hMember with
        ⟨hReach, hLeast⟩
      rcases mem_reach rfl hReach with
        hNone | ⟨n, hPasses, hMost⟩
      · simp at hNone
      · have hOffset := hPasses.offset_eq
        have hEnough : here.offset + least ≤ there.offset :=
          of_decide_eq_true hLeast
        exact
          ⟨there, groups, ⟨n, hPasses, by omega, hMost, rfl⟩,
            hNext⟩
  | seq a b ihA ihB =>
      rcases ihA hMatch with
        ⟨between, seen, hFirst, hRest⟩
      rcases ihB hRest with ⟨there, found, hSecond, hNext⟩
      exact
        ⟨there, found, ⟨between, seen, hFirst, hSecond⟩,
          hNext⟩
  | alt a b ihA ihB =>
      simp only [matchThen] at hMatch
      split at hMatch
      · next hFirst =>
          rcases ihA (hFirst.trans hMatch) with
            ⟨there, found, hLeads, hNext⟩
          exact ⟨there, found, Or.inl hLeads, hNext⟩
      · rcases ihB hMatch with
          ⟨there, found, hLeads, hNext⟩
        exact ⟨there, found, Or.inr hLeads, hNext⟩
  | group n a ih =>
      rcases ih hMatch with ⟨there, seen, hLeads, hNext⟩
      exact ⟨there, _, ⟨seen, hLeads, rfl⟩, hNext⟩
  | start =>
      simp only [matchThen] at hMatch
      split_ifs at hMatch with hHere
      exact
        ⟨here, groups,
          ⟨Option.isNone_iff_eq_none.mp hHere, rfl, rfl⟩,
          hMatch⟩
  | stop =>
      simp only [matchThen] at hMatch
      split_ifs at hMatch with hHere
      exact
        ⟨here, groups,
          ⟨List.isEmpty_iff.mp hHere, rfl, rfl⟩, hMatch⟩
  | edge =>
      simp only [matchThen] at hMatch
      split_ifs at hMatch with hHere
      exact ⟨here, groups, ⟨hHere, rfl, rfl⟩, hMatch⟩

end Pattern

end Devirt

------------------------------------------------------------
-- Places on a Text
------------------------------------------------------------

namespace Devirt

namespace Pattern

/-
  A place is one of a text: what is before and after it can be
  read off the text at its offset.
-/
structure Place.OnText
    (text : List Char)
    (here : Place) : Prop where
  inside : here.offset ≤ text.length
  before_eq : here.before = (text.take here.offset).getLast?
  rest_eq : here.rest = text.drop here.offset

namespace Place.OnText

variable {text : List Char}
variable {here : Place}

theorem beginning
    (text : List Char) :
    (Pattern.beginning text).OnText text :=
  ⟨Nat.zero_le _, rfl, rfl⟩

theorem head?_rest
    (hText : here.OnText text) :
    here.rest.head? = text[here.offset]? := by
  rw [hText.rest_eq, List.head?_drop]

/- The place behind the next character is one of the text. -/
theorem next
    {offset : Nat}
    {before : Option Char}
    {c : Char}
    {cs : List Char}
    (hText :
      (⟨offset, before, c :: cs⟩ : Place).OnText text) :
    (⟨offset + 1, some c, cs⟩ : Place).OnText text := by
  have hHere : text[offset]? = some c :=
    hText.head?_rest.symm
  rcases List.getElem?_eq_some_iff.mp hHere with
    ⟨hInside, rfl⟩
  refine ⟨hInside, ?_, ?_⟩
  · rw [List.take_succ_eq_append_getElem hInside,
      List.getLast?_concat]
  · have hRest := hText.rest_eq
    rw [List.drop_eq_getElem_cons hInside] at hRest
    exact List.tail_eq_of_cons_eq hRest

/- The character before a place stands right before it. -/
theorem getElem?_of_before
    {c : Char}
    (hText : here.OnText text)
    (hBefore : here.before = some c) :
    0 < here.offset ∧ text[here.offset - 1]? = some c := by
  have hLast := hText.before_eq.symm.trans hBefore
  have hInside := hText.inside
  cases hOffset : here.offset with
  | zero => simp [hOffset] at hLast
  | succ offset =>
      rw [hOffset] at hLast hInside
      rw [List.take_succ_eq_append_getElem hInside,
        List.getLast?_concat] at hLast
      refine ⟨Nat.succ_pos _, ?_⟩
      rw [Nat.add_sub_cancel, List.getElem?_eq_getElem hInside]
      exact hLast

/- Nothing stands before the beginning of a text alone. -/
theorem offset_eq_zero
    (hText : here.OnText text)
    (hBefore : here.before = none) :
    here.offset = 0 := by
  have hLast := hText.before_eq.symm.trans hBefore
  have hInside := hText.inside
  rw [List.getLast?_eq_none_iff, List.take_eq_nil_iff] at hLast
  rcases hLast with hZero | hEmpty
  · exact hZero
  · simpa [hEmpty] using hInside

/- Nothing follows the end of a text alone. -/
theorem offset_eq_length
    (hText : here.OnText text)
    (hRest : here.rest = []) :
    here.offset = text.length := by
  have hBehind := hText.rest_eq.symm.trans hRest
  rw [List.drop_eq_nil_iff] at hBehind
  exact Nat.le_antisymm hText.inside hBehind

end Place.OnText

/- A place of a text is known by its offset. -/
theorem Place.OnText.eq_of_offset
    {text : List Char}
    {here there : Place}
    (hHere : here.OnText text)
    (hThere : there.OnText text)
    (hOffset : here.offset = there.offset) :
    here = there := by
  rcases here with ⟨offset, before, rest⟩
  rcases there with ⟨offset', before', rest'⟩
  have hSame : offset = offset' := hOffset
  subst offset'
  have hBefore : before = before' :=
    hHere.before_eq.trans hThere.before_eq.symm
  have hRest : rest = rest' :=
    hHere.rest_eq.trans hThere.rest_eq.symm
  rw [hBefore, hRest]

/- Before a word there is an edge if none goes on. -/
theorem isEdge_iff_of_word
    {here : Place}
    {c : Char}
    (hHead : here.rest.head? = some c)
    (hWord : Text.isWord c = true) :
    isEdge here = true ↔
      ∀ d ∈ here.before, Text.isWord d = false := by
  simp only [isEdge, hHead, Option.map_some, Option.getD_some,
    hWord, bne_iff_ne, ne_eq, Bool.not_eq_true]
  cases here.before with
  | none => simp
  | some d => simp

theorem Passes.onText
    {text : List Char}
    {p : Char → Bool}
    {here there : Place}
    {n : Nat}
    (hPasses : Passes p here there n)
    (hText : here.OnText text) :
    there.OnText text := by
  induction hPasses with
  | done here => exact hText
  | next hClass hRest ih => exact ih hText.next

/- Patterns lead from places of a text to places of it. -/
theorem Leads.onText
    {text : List Char}
    {p : Pattern}
    {here there : Place}
    {groups found : Groups}
    (hLeads : Leads p here groups there found)
    (hText : here.OnText text) :
    there.OnText text := by
  induction p generalizing here there groups found with
  | empty => exact hLeads.1 ▸ hText
  | one p =>
      rcases hLeads with ⟨c, cs, hRest, -, rfl, -⟩
      rcases here with ⟨offset, before, rest⟩
      subst hRest
      exact hText.next
  | many p least most =>
      rcases hLeads with ⟨n, hPasses, -⟩
      exact hPasses.onText hText
  | seq a b ihA ihB =>
      rcases hLeads with ⟨between, seen, hFirst, hSecond⟩
      exact ihB hSecond (ihA hFirst hText)
  | alt a b ihA ihB =>
      rcases hLeads with hFirst | hSecond
      · exact ihA hFirst hText
      · exact ihB hSecond hText
  | group n a ih =>
      rcases hLeads with ⟨seen, hInner, -⟩
      exact ih hInner hText
  | start => exact hLeads.2.1 ▸ hText
  | stop => exact hLeads.2.1 ▸ hText
  | edge => exact hLeads.2.1 ▸ hText

------------------------------------------------------------
-- Matches in a Text
------------------------------------------------------------

/-
  A match lies on a text, between two places of it that the
  pattern leads between.
-/
structure Located
    (p : Pattern)
    (text : List Char)
    (m : Match)
    (here there : Place) : Prop where
  onText : here.OnText text
  leads : Leads p here [] there m.groups
  start_eq : m.start = here.offset
  stop_eq : m.stop = there.offset

theorem matchFrom_located
    {p : Pattern}
    {text : List Char}
    {here there : Place}
    {m : Match}
    (hText : here.OnText text)
    (hMatch : matchFrom p here = some (m, there)) :
    Located p text m here there := by
  rcases matchThen_leads p hMatch with
    ⟨last, found, hLeads, hResult⟩
  rcases Prod.mk.inj (Option.some.inj hResult) with
    ⟨rfl, rfl⟩
  exact ⟨hText, hLeads, rfl, rfl⟩

/- The preferred match at a place of a text. -/
structure Finds
    (p : Pattern)
    (text : List Char)
    (m : Match)
    (here there : Place) : Prop where
  onText : here.OnText text
  matches_eq : matchFrom p here = some (m, there)

theorem Finds.located
    {p : Pattern}
    {text : List Char}
    {m : Match}
    {here there : Place}
    (hFinds : Finds p text m here there) :
    Located p text m here there :=
  matchFrom_located hFinds.onText hFinds.matches_eq

/- A search finds the leftmost match. -/
theorem search_eq_some
    {p : Pattern}
    {text : List Char}
    {here there : Place}
    {m : Match}
    {cs : List Char}
    (hText : here.OnText text)
    (hRest : here.rest = cs)
    (hSearch : search p here cs = some (m, there)) :
    ∃ place,
      here.offset ≤ place.offset ∧
        Finds p text m place there ∧
          ∀ earlier, earlier.OnText text →
            here.offset ≤ earlier.offset →
              earlier.offset < place.offset →
                matchFrom p earlier = none := by
  fun_induction search p here cs with
  | case1 here =>
      refine ⟨here, Nat.le_refl _, ⟨hText, hSearch⟩, ?_⟩
      intro earlier _ hAfter hBefore
      omega
  | case2 here c cs r hMatch =>
      refine
        ⟨here, Nat.le_refl _, ⟨hText, hMatch.trans hSearch⟩, ?_⟩
      intro earlier _ hAfter hBefore
      omega
  | case3 here c cs hMatch ih =>
      rcases here with ⟨offset, before, rest⟩
      subst hRest
      rcases ih hText.next rfl hSearch with
        ⟨place, hAfter, hFinds, hNone⟩
      refine ⟨place, Nat.le_of_succ_le hAfter, hFinds, ?_⟩
      intro earlier hEarlier hFirst hBefore
      rcases Nat.eq_or_lt_of_le hFirst with hSame | hLater
      · rw [hEarlier.eq_of_offset hText hSame.symm]
        exact hMatch
      · exact hNone earlier hEarlier hLater hBefore

/- A search finds nothing before the place it begins at. -/
theorem search_located
    {p : Pattern}
    {text : List Char}
    {here there : Place}
    {m : Match}
    (hText : here.OnText text)
    (hSearch : search p here here.rest = some (m, there)) :
    ∃ place,
      here.offset ≤ place.offset ∧
        Located p text m place there := by
  rcases search_eq_some hText rfl hSearch with
    ⟨place, hAfter, hFinds, -⟩
  exact ⟨place, hAfter, hFinds.located⟩

theorem allFrom_finds
    {p : Pattern}
    {text : List Char}
    {fuel : Nat}
    {here : Place}
    {m : Match}
    (hText : here.OnText text)
    (hMember : m ∈ allFrom p fuel here) :
    ∃ place there, Finds p text m place there := by
  fun_induction allFrom p fuel here with
  | case1 => simp at hMember
  | case2 => simp at hMember
  | case3 fuel here first there hSearch hLonger ih =>
      rcases search_eq_some hText rfl hSearch with
        ⟨place, -, hFirst, -⟩
      rcases List.mem_cons.mp hMember with rfl | hLater
      · exact ⟨place, there, hFirst⟩
      · have hLocated := hFirst.located
        exact
          ih (hLocated.leads.onText hLocated.onText) hLater
  | case4 fuel here first there hSearch hEmpty hRest =>
      rcases search_eq_some hText rfl hSearch with
        ⟨place, -, hFirst, -⟩
      rw [List.mem_singleton.mp hMember]
      exact ⟨place, there, hFirst⟩
  | case5 fuel here first there hSearch hEmpty c cs hRest ih =>
      rcases search_eq_some hText rfl hSearch with
        ⟨place, -, hFirst, -⟩
      rcases List.mem_cons.mp hMember with rfl | hLater
      · exact ⟨place, there, hFirst⟩
      · have hLocated := hFirst.located
        have hThere := hLocated.leads.onText hLocated.onText
        rcases there with ⟨offset, before, rest⟩
        subst hRest
        exact ih hThere.next hLater

/- The matches of a text are found at its places. -/
theorem all_finds
    {p : Pattern}
    {text : List Char}
    {m : Match}
    (hMember : m ∈ p.all text) :
    ∃ here there, Finds p text m here there :=
  allFrom_finds (.beginning text) hMember

/- Every match in a text lies on it. -/
theorem all_located
    {p : Pattern}
    {text : List Char}
    {m : Match}
    (hMember : m ∈ p.all text) :
    ∃ here there, Located p text m here there := by
  rcases all_finds hMember with ⟨here, there, hFinds⟩
  exact ⟨here, there, hFinds.located⟩

end Pattern

end Devirt
