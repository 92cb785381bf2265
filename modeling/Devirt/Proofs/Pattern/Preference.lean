import Devirt.Proofs.Pattern.Passages

/-
  No match is missed.

  Where a pattern leads to a place from which the matcher can
  go on, the matcher goes on from some place; where it leads to
  one place only, from that one.  A repetition goes on from the
  farthest place if it can.  Searches go on behind each match,
  so every place at which a pattern matches is the beginning of
  a match in the text, or lies inside of one.

  Main declarations:
    * `Pattern.Leads.matchThen_isSome`,
      `Pattern.Leads.matchThen_eq`, `Pattern.matchThen_alt`
    * `Pattern.exists_farthest`, `Pattern.matchThen_farthest`
    * `Pattern.search_eq_none`, `Pattern.Finds.mem_all`
-/

------------------------------------------------------------
-- The Matcher
------------------------------------------------------------

namespace Devirt

namespace Pattern

theorem mem_reach_of_mem
    {p : Char → Bool}
    {most : Option Nat}
    {here there : Place}
    {shorter : List Place}
    {cs : List Char}
    (hMember : there ∈ here :: shorter) :
    there ∈ reach p most here shorter cs := by
  fun_induction reach p most here shorter cs with
  | case1 here shorter cs => exact hMember
  | case2 most here shorter hMost => exact hMember
  | case3 most here shorter c cs hMost hClass ih =>
      exact ih (List.mem_cons_of_mem _ hMember)
  | case4 most here shorter c cs hMost hClass => exact hMember

/- A repetition reaches every place that it leads to. -/
theorem Passes.mem_reach
    {p : Char → Bool}
    {most : Option Nat}
    {here there : Place}
    {n : Nat}
    (shorter : List Place)
    (hPasses : Passes p here there n)
    (hMost : ∀ bound ∈ most, n ≤ bound) :
    there ∈ reach p most here shorter here.rest := by
  induction hPasses generalizing most shorter with
  | done here => exact mem_reach_of_mem List.mem_cons_self
  | @next offset n before c cs there hClass hRest ih =>
      have hSome : most ≠ some 0 := by
        rintro rfl
        exact absurd (hMost 0 rfl) (Nat.not_succ_le_zero n)
      rw [reach]
      · rw [if_pos hClass]
        apply ih
        intro bound hBound
        rcases Option.map_eq_some_iff.mp hBound with
          ⟨larger, hLarger, rfl⟩
        exact Nat.le_sub_one_of_lt (hMost larger hLarger)
      · exact hSome

/-
  The matcher goes on from some place if it could go on from
  one that the pattern leads to.
-/
theorem Leads.matchThen_isSome
    {α : Type}
    {p : Pattern}
    {here there : Place}
    {groups found : Groups}
    {next : Place → Groups → Option α}
    (hLeads : Leads p here groups there found)
    (hNext : (next there found).isSome = true) :
    (matchThen p here groups next).isSome = true := by
  induction p generalizing here there groups found next with
  | empty =>
      rcases hLeads with ⟨rfl, rfl⟩
      exact hNext
  | one p =>
      rcases hLeads with ⟨c, cs, hRest, hClass, rfl, rfl⟩
      simpa [matchThen, hRest, hClass] using hNext
  | many p least most =>
      rcases hLeads with ⟨n, hPasses, hLeast, hMost, rfl⟩
      have hOffset := hPasses.offset_eq
      simp only [matchThen]
      rw [List.findSome?_isSome_iff]
      refine ⟨there, List.mem_filter.mpr ⟨?_, ?_⟩, hNext⟩
      · exact hPasses.mem_reach [] hMost
      · exact decide_eq_true (by omega)
  | seq a b ihA ihB =>
      rcases hLeads with ⟨between, seen, hFirst, hSecond⟩
      exact ihA hFirst (ihB hSecond hNext)
  | alt a b ihA ihB =>
      simp only [matchThen]
      split
      · rfl
      · next hNone =>
          rcases hLeads with hFirst | hSecond
          · have hSome := ihA hFirst hNext
            rw [hNone] at hSome
            cases hSome
          · exact ihB hSecond hNext
  | group n a ih =>
      rcases hLeads with ⟨seen, hInner, rfl⟩
      exact ih hInner hNext
  | start =>
      rcases hLeads with ⟨hNone, rfl, rfl⟩
      simpa [matchThen, hNone] using hNext
  | stop =>
      rcases hLeads with ⟨hEmpty, rfl, rfl⟩
      simpa [matchThen, hEmpty] using hNext
  | edge =>
      rcases hLeads with ⟨hEdge, rfl, rfl⟩
      simpa [matchThen, hEdge] using hNext

/- Where a pattern leads to one place, the matcher goes on from it. -/
theorem Leads.matchThen_eq
    {α : Type}
    {p : Pattern}
    {here there : Place}
    {groups found : Groups}
    (next : Place → Groups → Option α)
    (hLeads : Leads p here groups there found)
    (hOnly :
      ∀ other seen, Leads p here groups other seen →
        other = there ∧ seen = found) :
    matchThen p here groups next = next there found := by
  cases hMatch : matchThen p here groups next with
  | none =>
      cases hNext : next there found with
      | none => rfl
      | some r =>
          have hSome :
              (matchThen p here groups next).isSome = true :=
            hLeads.matchThen_isSome (by simp [hNext])
          rw [hMatch] at hSome
          cases hSome
  | some r =>
      rcases matchThen_leads p hMatch with
        ⟨other, seen, hOther, hNext⟩
      rcases hOnly other seen hOther with ⟨rfl, rfl⟩
      exact hNext.symm

/- A pattern that leads nowhere does not match. -/
theorem matchThen_eq_none
    {α : Type}
    {p : Pattern}
    {here : Place}
    {groups : Groups}
    (next : Place → Groups → Option α)
    (hNowhere :
      ∀ there found, ¬ Leads p here groups there found) :
    matchThen p here groups next = none := by
  cases hMatch : matchThen p here groups next with
  | none => rfl
  | some r =>
      rcases matchThen_leads p hMatch with
        ⟨there, found, hLeads, -⟩
      exact absurd hLeads (hNowhere there found)

/- The second of two patterns is tried if the first fails. -/
theorem matchThen_alt
    {α : Type}
    (a b : Pattern)
    (here : Place)
    (groups : Groups)
    (next : Place → Groups → Option α) :
    matchThen (alt a b) here groups next =
      (matchThen a here groups next).or
        (matchThen b here groups next) := by
  simp only [matchThen]
  cases matchThen a here groups next <;> rfl

/- What may be left out stops no matcher. -/
theorem isSome_matchThen_optional
    {α : Type}
    {p : Pattern}
    {here : Place}
    {groups : Groups}
    {next : Place → Groups → Option α}
    (hNext : (next here groups).isSome = true) :
    (matchThen (optional p) here groups next).isSome = true := by
  rw [optional, matchThen_alt, Option.isSome_or]
  exact Bool.or_eq_true_iff.mpr (Or.inr hNext)

------------------------------------------------------------
-- Repetitions
------------------------------------------------------------

/- The first place that a repetition reaches is the farthest. -/
theorem reach_eq_cons
    (p : Char → Bool)
    (here : Place)
    (shorter : List Place) :
    ∃ there nearer,
      reach p none here shorter here.rest = there :: nearer ∧
        Passes p here there (here.rest.takeWhile p).length ∧
          there.rest = here.rest.dropWhile p := by
  rcases here with ⟨offset, before, rest⟩
  induction rest generalizing offset before shorter with
  | nil => exact ⟨_, shorter, rfl, .done _, rfl⟩
  | cons c cs ih =>
      by_cases hClass : p c = true
      · rcases ih (⟨offset, before, c :: cs⟩ :: shorter)
            (offset + 1) (some c) with
          ⟨there, nearer, hReach, hPasses, hRest⟩
        refine ⟨there, nearer, ?_, ?_, ?_⟩
        · simpa [reach, hClass] using hReach
        · simpa [hClass] using Passes.next hClass hPasses
        · simpa [hClass] using hRest
      · refine
          ⟨⟨offset, before, c :: cs⟩, shorter, ?_, ?_, ?_⟩
        · simp [reach, hClass]
        · simpa [hClass] using Passes.done _
        · simp [hClass]

/- A class can be passed to its end. -/
theorem exists_farthest
    (p : Char → Bool)
    (here : Place) :
    ∃ there,
      Passes p here there (here.rest.takeWhile p).length ∧
        there.rest = here.rest.dropWhile p := by
  rcases reach_eq_cons p here [] with
    ⟨there, -, -, hPasses, hRest⟩
  exact ⟨there, hPasses, hRest⟩

/-
  A repetition goes on from the farthest place, if that is a
  place to go on from.
-/
theorem matchThen_farthest
    {α : Type}
    (p : Char → Bool)
    (here : Place)
    (groups : Groups)
    {next : Place → Groups → Option α}
    (hNext : ∀ there, (next there groups).isSome = true) :
    ∃ there,
      Passes p here there (here.rest.takeWhile p).length ∧
        there.rest = here.rest.dropWhile p ∧
          matchThen (many p 0 none) here groups next =
            next there groups := by
  rcases reach_eq_cons p here [] with
    ⟨there, nearer, hReach, hPasses, hRest⟩
  refine ⟨there, hPasses, hRest, ?_⟩
  have hOffset := hPasses.offset_eq
  have hFirst : here.offset ≤ there.offset := by omega
  rcases Option.isSome_iff_exists.mp (hNext there) with
    ⟨r, hSome⟩
  simp [matchThen, hReach, hFirst, hSome]

/- What has been passed to the end of a class. -/
theorem Passes.rest_eq
    {p : Char → Bool}
    {here there : Place}
    {n : Nat}
    (hPasses : Passes p here there n)
    (hEnd : ∀ c ∈ there.rest.head?, p c = false) :
    there.rest = here.rest.dropWhile p := by
  induction hPasses with
  | done here =>
      cases hRest : here.rest with
      | nil => rfl
      | cons c cs =>
          have hClass := hEnd c (by rw [hRest]; rfl)
          simp [hClass]
  | next hClass hRest ih => simpa [hClass] using ih hEnd

end Pattern

end Devirt

------------------------------------------------------------
-- Searches
------------------------------------------------------------

namespace Devirt

namespace Pattern

/- A place of a text is known by what follows it. -/
theorem Place.OnText.eq_of_rest
    {text : List Char}
    {here there : Place}
    (hHere : here.OnText text)
    (hThere : there.OnText text)
    (hRest : here.rest = there.rest) :
    here = there := by
  apply hHere.eq_of_offset hThere
  have hLength := congrArg List.length hRest
  rw [hHere.rest_eq, hThere.rest_eq, List.length_drop,
    List.length_drop] at hLength
  have hInside := hHere.inside
  have hInside' := hThere.inside
  omega

/- A text has a place at each of its offsets. -/
theorem exists_place
    {text : List Char}
    {offset : Nat}
    (hInside : offset ≤ text.length) :
    ∃ here : Place, here.OnText text ∧ here.offset = offset :=
  ⟨⟨offset, (text.take offset).getLast?, text.drop offset⟩,
    ⟨hInside, rfl, rfl⟩, rfl⟩

theorem search_eq_none
    {p : Pattern}
    {text : List Char}
    {here place : Place}
    {cs : List Char}
    (hText : here.OnText text)
    (hRest : here.rest = cs)
    (hSearch : search p here cs = none)
    (hPlace : place.OnText text)
    (hAfter : here.offset ≤ place.offset) :
    matchFrom p place = none := by
  fun_induction search p here cs with
  | case1 here =>
      have hEnd := hText.rest_eq.symm.trans hRest
      rw [List.drop_eq_nil_iff] at hEnd
      have hInside := hPlace.inside
      rw [hPlace.eq_of_offset hText (by omega)]
      exact hSearch
  | case2 => cases hSearch
  | case3 here c cs hMatch ih =>
      rcases Nat.eq_or_lt_of_le hAfter with hSame | hLater
      · rw [hPlace.eq_of_offset hText hSame.symm]
        exact hMatch
      · rcases here with ⟨offset, before, rest⟩
        subst hRest
        exact ih hText.next rfl hSearch hLater

/-
  Every match at a place is among the matches of the text, if
  the place does not lie inside another one of these.
-/
theorem mem_allFrom
    {p : Pattern}
    {text : List Char}
    {fuel : Nat}
    {here place there : Place}
    {m : Match}
    (hText : here.OnText text)
    (hFuel : text.length < here.offset + fuel)
    (hAfter : here.offset ≤ place.offset)
    (hFinds : Finds p text m place there) :
    m ∈ allFrom p fuel here ∨
      ∃ other ∈ allFrom p fuel here,
        other.start < place.offset ∧
          place.offset < other.stop := by
  have hMatch := hFinds.matches_eq
  have hInside := hFinds.onText.inside
  fun_induction allFrom p fuel here with
  | case1 here => omega
  | case2 fuel here hSearch =>
      have hNone :=
        search_eq_none hText rfl hSearch hFinds.onText hAfter
      rw [hMatch] at hNone
      cases hNone
  | case3 fuel here first last hSearch hLonger ih =>
      rcases search_eq_some hText rfl hSearch with
        ⟨spot, hSpot, hFirst, hNone⟩
      have hLocated := hFirst.located
      have hStart := hLocated.start_eq
      have hStop := hLocated.stop_eq
      rcases Nat.lt_trichotomy place.offset spot.offset with
        hBefore | hSame | hBehind
      · rw [hNone place hFinds.onText hAfter hBefore] at hMatch
        cases hMatch
      · rw [hFinds.onText.eq_of_offset hFirst.onText hSame,
          hFirst.matches_eq] at hMatch
        cases hMatch
        exact Or.inl List.mem_cons_self
      · by_cases hOver : place.offset < first.stop
        · exact
            Or.inr
              ⟨first, List.mem_cons_self, by omega, hOver⟩
        · rcases ih (hLocated.leads.onText hLocated.onText)
              (by omega) (by omega) with
            hLater | ⟨other, hOther, hCovers⟩
          · exact Or.inl (List.mem_cons_of_mem _ hLater)
          · exact
              Or.inr
                ⟨other, List.mem_cons_of_mem _ hOther, hCovers⟩
  | case4 fuel here first last hSearch hEmpty hRest =>
      -- an empty match at the end of the text
      rcases search_eq_some hText rfl hSearch with
        ⟨spot, hSpot, hFirst, hNone⟩
      have hLocated := hFirst.located
      have hLast := hLocated.leads.onText hLocated.onText
      have hEnd := hLast.rest_eq.symm.trans hRest
      rw [List.drop_eq_nil_iff] at hEnd
      have hStart := hLocated.start_eq
      have hStop := hLocated.stop_eq
      rcases Nat.lt_or_ge place.offset spot.offset with
        hBefore | hBehind
      · rw [hNone place hFinds.onText hAfter hBefore] at hMatch
        cases hMatch
      · have hSame : place.offset = spot.offset := by omega
        rw [hFinds.onText.eq_of_offset hFirst.onText hSame,
          hFirst.matches_eq] at hMatch
        cases hMatch
        exact Or.inl List.mem_cons_self
  | case5 fuel here first last hSearch hEmpty c cs hRest ih =>
      rcases search_eq_some hText rfl hSearch with
        ⟨spot, hSpot, hFirst, hNone⟩
      have hLocated := hFirst.located
      have hLast := hLocated.leads.onText hLocated.onText
      have hStart := hLocated.start_eq
      have hStop := hLocated.stop_eq
      have hOrder := hLocated.start_le_stop
      rcases Nat.lt_trichotomy place.offset spot.offset with
        hBefore | hSame | hBehind
      · rw [hNone place hFinds.onText hAfter hBefore] at hMatch
        cases hMatch
      · rw [hFinds.onText.eq_of_offset hFirst.onText hSame,
          hFirst.matches_eq] at hMatch
        cases hMatch
        exact Or.inl List.mem_cons_self
      · rcases last with ⟨offset, before, rest⟩
        subst hRest
        dsimp only at hStop ih
        rcases ih hLast.next (by omega) (by omega) with
          hLater | ⟨other, hOther, hCovers⟩
        · exact Or.inl (List.mem_cons_of_mem _ hLater)
        · exact
            Or.inr
              ⟨other, List.mem_cons_of_mem _ hOther, hCovers⟩

theorem Finds.mem_all
    {p : Pattern}
    {text : List Char}
    {m : Match}
    {place there : Place}
    (hFinds : Finds p text m place there) :
    m ∈ p.all text ∨
      ∃ other ∈ p.all text,
        other.start < place.offset ∧
          place.offset < other.stop :=
  mem_allFrom (.beginning text)
    (show text.length < 0 + (text.length + 1) by omega)
    (Nat.zero_le _) hFinds

end Pattern

end Devirt
