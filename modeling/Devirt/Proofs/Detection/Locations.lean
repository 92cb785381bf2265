import Devirt.Proofs.Detection.Agreement
import Devirt.Proofs.Source.Keywords
import Devirt.Proofs.Source.Lines
import Devirt.Proofs.Source.Utf8
import Mathlib.Data.Set.Card

/-
  Where the interpreter of a script is said to stand.

  The tree of a script gives the number of the chosen switch
  statement among all of them, and its location is looked up by
  this number among the words that stand in the code.  Both
  count the same things only up to the first word that begins
  no statement, such as the name of a member.

  Main declarations:
    * `numbersBefore`, `getElem?_eq_some_iff_before`
    * `KeywordsOf`, `Locates` and `detect_locates`
    * `misleadingMachine_mislocated`
-/

------------------------------------------------------------
-- Places in Ascending Lists
------------------------------------------------------------

namespace Devirt

/- The numbers of a list that come before a given one. -/
def numbersBefore (numbers : List Nat) (bound : Nat) : List Nat :=
  numbers.filter (· < bound)

theorem mem_numbersBefore
    {numbers : List Nat}
    {bound number : Nat} :
    number ∈ numbersBefore numbers bound ↔
      number ∈ numbers ∧ number < bound := by
  simp [numbersBefore]

/-
  The place of a number in an ascending list is how many
  numbers come before it.
-/
theorem getElem?_eq_some_iff_before
    {numbers : List Nat}
    (hAscending : numbers.Pairwise (· < ·))
    (place number : Nat) :
    numbers[place]? = some number ↔
      number ∈ numbers ∧
        (numbersBefore numbers number).length = place := by
  induction numbers generalizing place with
  | nil => simp
  | cons first rest ih =>
      rcases List.pairwise_cons.mp hAscending with
        ⟨hFirst, hRest⟩
      have hNone : numbersBefore (first :: rest) first = [] := by
        apply List.filter_eq_nil_iff.mpr
        intro number hMember
        rcases List.mem_cons.mp hMember with rfl | hLater
        · simp
        · simpa using (hFirst number hLater).le
      have hLater :
          ∀ later ∈ rest,
            (numbersBefore (first :: rest) later).length =
              (numbersBefore rest later).length + 1 := by
        intro later hMember
        unfold numbersBefore
        rw [List.filter_cons_of_pos
          (by simpa using hFirst later hMember)]
        rfl
      constructor
      · intro hPlace
        cases place with
        | zero =>
            rw [List.getElem?_cons_zero] at hPlace
            cases hPlace
            rw [hNone]
            exact ⟨List.mem_cons_self, rfl⟩
        | succ place =>
            rw [List.getElem?_cons_succ, ih hRest] at hPlace
            refine ⟨List.mem_cons_of_mem _ hPlace.1, ?_⟩
            rw [hLater number hPlace.1, hPlace.2]
      · rintro ⟨hMember, hLength⟩
        rcases List.mem_cons.mp hMember with rfl | hMember
        · rw [hNone] at hLength
          subst place
          rfl
        · rw [hLater number hMember] at hLength
          subst place
          rw [List.getElem?_cons_succ, ih hRest]
          exact ⟨hMember, rfl⟩

/- Fewer numbers, but equally many up to one of them. -/
theorem length_numbersBefore_eq_iff
    {part whole : List Nat}
    (hPart : part.Pairwise (· < ·))
    (hWhole : whole.Pairwise (· < ·))
    (hSubset : part ⊆ whole)
    (bound : Nat) :
    (numbersBefore whole bound).length =
        (numbersBefore part bound).length ↔
      ∀ number ∈ whole, number < bound → number ∈ part := by
  have hPartNodup : (numbersBefore part bound).Nodup :=
    (hPart.imp Nat.ne_of_lt).filter _
  have hWholeNodup : (numbersBefore whole bound).Nodup :=
    (hWhole.imp Nat.ne_of_lt).filter _
  have hBefore :
      numbersBefore part bound ⊆ numbersBefore whole bound := by
    intro number hMember
    rcases mem_numbersBefore.mp hMember with ⟨hHere, hLess⟩
    exact mem_numbersBefore.mpr ⟨hSubset hHere, hLess⟩
  constructor
  · intro hLength number hMember hLess
    have hSame :=
      (List.subperm_of_subset hPartNodup hBefore).perm_of_length_le
        hLength.le
    exact
      (mem_numbersBefore.mp
        (hSame.mem_iff.mpr
          (mem_numbersBefore.mpr ⟨hMember, hLess⟩))).1
  · intro hKept
    refine List.Perm.length_eq ?_
    rw [List.perm_ext_iff_of_nodup hWholeNodup hPartNodup]
    intro number
    rw [mem_numbersBefore, mem_numbersBefore]
    constructor
    · rintro ⟨hMember, hLess⟩
      exact ⟨hKept number hMember hLess, hLess⟩
    · rintro ⟨hMember, hLess⟩
      exact ⟨hSubset hMember, hLess⟩

/- Among more numbers, a place holds no greater number. -/
theorem exists_le_of_subset
    {part whole : List Nat}
    {place number : Nat}
    (hPart : part.Pairwise (· < ·))
    (hWhole : whole.Pairwise (· < ·))
    (hSubset : part ⊆ whole)
    (hPlace : part[place]? = some number) :
    ∃ found, whole[place]? = some found ∧ found ≤ number := by
  rcases (getElem?_eq_some_iff_before hPart place number).mp
      hPlace with ⟨hMember, rfl⟩
  have hNumber :=
    (getElem?_eq_some_iff_before hWhole _ number).mpr
      ⟨hSubset hMember, rfl⟩
  have hLe :
      (numbersBefore part number).length ≤
        (numbersBefore whole number).length := by
    refine (List.subperm_of_subset ?_ ?_).length_le
    · exact (hPart.imp Nat.ne_of_lt).filter _
    · intro other hOther
      rcases mem_numbersBefore.mp hOther with ⟨hHere, hLess⟩
      exact mem_numbersBefore.mpr ⟨hSubset hHere, hLess⟩
  rcases List.getElem?_eq_some_iff.mp hNumber with
    ⟨hInside, hValue⟩
  refine
    ⟨_, List.getElem?_eq_getElem (Nat.lt_of_le_of_lt hLe hInside),
      ?_⟩
  rcases Nat.eq_or_lt_of_le hLe with hSame | hLess
  · simp only [hSame, hValue, Nat.le_refl]
  · have hOrder :=
      List.pairwise_iff_getElem.mp hWhole _ _
        (Nat.lt_trans hLess hInside) hInside hLess
    rw [hValue] at hOrder
    exact hOrder.le

end Devirt

------------------------------------------------------------
-- Locations of Switch Statements
------------------------------------------------------------

namespace Devirt

open Scanner CodeMap

/-
  Offsets that can be those of the keywords of the switch
  statements of a script, which are met in this order.
-/
structure KeywordsOf
    (code : String)
    (t : Script.Tree)
    (keywords : List Nat) : Prop where
  length_eq : keywords.length = (Syntactic.switches t).length
  ascending : keywords.Pairwise (· < ·)
  stands :
    ∀ keyword ∈ keywords, (ofText code).Stands "switch" keyword

/-
  The location of a machine whose switch statement is the one
  with a number.  It is that of the word with this number, and
  so never behind the keyword of the statement; it is that of
  the keyword just if all words before the keyword are keywords
  of statements, too.
-/
structure Locates
    (code : String)
    (t : Script.Tree)
    (features : Features)
    (place : Nat) : Prop where
  chosen :
    FirstGreatest ((Syntactic.switches t).map List.length)
      place features.instructionCount
  location_iff :
    ∀ location,
      features.location = some location ↔
        ∃ offset,
          (ofText code).Stands "switch" offset ∧
            {earlier |
              earlier < offset ∧
                (ofText code).Stands "switch" earlier}.ncard =
              place ∧
            location = Location.ofOffset (bytesOf code) offset
  keyword_iff :
    ∀ keywords,
      KeywordsOf code t keywords →
        ∃ keyword found,
          keywords[place]? = some keyword ∧
            found ≤ keyword ∧
            (ofText code).Stands "switch" found ∧
            features.location =
              some (Location.ofOffset (bytesOf code) found) ∧
            (features.location =
                some
                  (Location.ofOffset (bytesOf code) keyword) ↔
              ∀ earlier < keyword,
                (ofText code).Stands "switch" earlier →
                  earlier ∈ keywords)

theorem mem_switchOffsets_iff
    (code : String)
    (offset : Nat) :
    offset ∈ (ofText code).keywordOffsets "switch" ↔
      (ofText code).Stands "switch" offset :=
  mem_keywordOffsets_iff _
    (isIdentifierWord_words _ List.mem_cons_self) offset

/- A word that is found begins within the script. -/
theorem le_of_mem_keywordOffsets
    {code word : String}
    {offset : Nat}
    (hMember : offset ∈ (ofText code).keywordOffsets word) :
    offset ≤ (bytesOf code).length := by
  have hInside := (mem_keywordOffsets hMember).2.1
  rw [bytes_ofText] at hInside
  exact hInside.le

/- The words before an offset, counted. -/
theorem ncard_standing_before
    (code : String)
    (offset : Nat) :
    {earlier |
      earlier < offset ∧
        (ofText code).Stands "switch" earlier}.ncard =
      (numbersBefore ((ofText code).keywordOffsets "switch")
        offset).length := by
  let words := (ofText code).keywordOffsets "switch"
  have hNodup : (numbersBefore words offset).Nodup :=
    (((ofText code).keywordOffsets_ascending "switch").imp
      Nat.ne_of_lt).filter _
  have hSet :
      {earlier |
        earlier < offset ∧
          (ofText code).Stands "switch" earlier} =
        ((numbersBefore words offset).toFinset : Set Nat) := by
    ext earlier
    rw [Set.mem_ofPred_eq, Finset.mem_coe, List.mem_toFinset,
      mem_numbersBefore, mem_switchOffsets_iff, and_comm]
  rw [hSet, Set.ncard_coe_finset,
    List.toFinset_card_of_nodup hNodup]

theorem switchLocation?_eq_some_iff
    (code : String)
    (place : Nat)
    (location : Location) :
    switchLocation? code place = some location ↔
      ∃ offset,
        ((ofText code).keywordOffsets "switch")[place]? =
            some offset ∧
          location =
            Location.ofOffset (bytesOf code) offset := by
  unfold switchLocation?
  rw [Option.map_eq_some_iff]
  simp only [eq_comm]

/- The location of a word is given for that word alone. -/
theorem switchLocation?_eq_ofOffset_iff
    {code : String}
    {place offset : Nat}
    (hInside : offset ≤ (bytesOf code).length) :
    switchLocation? code place =
        some (Location.ofOffset (bytesOf code) offset) ↔
      ((ofText code).keywordOffsets "switch")[place]? =
        some offset := by
  rw [switchLocation?_eq_some_iff]
  constructor
  · rintro ⟨found, hFound, hSame⟩
    have hFoundInside :=
      le_of_mem_keywordOffsets (List.mem_of_getElem? hFound)
    rwa [Location.ofOffset_injOn (bytesOf code) hInside
      hFoundInside hSame]
  · intro hOffset
    exact ⟨offset, hOffset, rfl⟩

/- A machine is located by the number of its statement. -/
theorem detect_location_eq
    {code : String}
    {t : Script.Tree}
    {settings : DetectorSettings}
    {features : Features}
    (hParse : Script.Tree.parse? code = some t)
    (hDetect :
      detect .syntactic code settings = some features) :
    ∃ place,
      FirstGreatest ((Syntactic.switches t).map List.length)
          place features.instructionCount ∧
        features.location = switchLocation? code place := by
  have hSignals :
      signals .syntactic code settings =
        Syntactic.signals t settings := by
    simp [signals, Analysis.tree?, hParse]
  unfold detect Features.ofSignals at hDetect
  rw [hSignals] at hDetect
  split at hDetect
  · rename_i hMachine
    cases hDetect
    simp only [Signals.isMachine, Bool.and_eq_true] at hMachine
    rcases (Syntactic.signals_records t settings).dispatch
        hMachine.1.1 with ⟨-, place, hPlace, hFirst⟩
    refine ⟨place, hFirst, ?_⟩
    simp [hPlace]
  · cases hDetect

/-
  For every script that can be parsed, the location of a machine
  is that of the word whose number among all words that stand
  in the code is the number of the chosen statement.
-/
theorem detect_locates
    {code : String}
    {t : Script.Tree}
    {settings : DetectorSettings}
    {features : Features}
    (hParse : Script.Tree.parse? code = some t)
    (hDetect :
      detect .syntactic code settings = some features) :
    ∃ place, Locates code t features place := by
  rcases detect_location_eq hParse hDetect with
    ⟨place, hFirst, hLocation⟩
  have hAscending :=
    (ofText code).keywordOffsets_ascending "switch"
  refine ⟨place, hFirst, ?_, ?_⟩
  · intro location
    rw [hLocation, switchLocation?_eq_some_iff]
    simp only [getElem?_eq_some_iff_before hAscending,
      mem_switchOffsets_iff, ncard_standing_before, and_assoc]
  · intro keywords hKeywords
    have hSubset :
        keywords ⊆ (ofText code).keywordOffsets "switch" := by
      intro keyword hMember
      exact
        (mem_switchOffsets_iff code keyword).mpr
          (hKeywords.stands keyword hMember)
    have hInside : place < keywords.length := by
      rw [hKeywords.length_eq]
      simpa using
        (List.getElem?_eq_some_iff.mp hFirst.at_place).1
    have hKeyword := List.getElem?_eq_getElem hInside
    generalize keywords[place] = keyword at hKeyword
    have hMember := List.mem_of_getElem? hKeyword
    have hPlace :=
      ((getElem?_eq_some_iff_before hKeywords.ascending place
        keyword).mp hKeyword).2
    rcases exists_le_of_subset hKeywords.ascending hAscending
        hSubset hKeyword with ⟨found, hFound, hLe⟩
    refine
      ⟨keyword, found, hKeyword, hLe,
        (mem_switchOffsets_iff code found).mp
          (List.mem_of_getElem? hFound), ?_, ?_⟩
    · rw [hLocation, switchLocation?_eq_some_iff]
      exact ⟨found, hFound, rfl⟩
    · rw [hLocation,
        switchLocation?_eq_ofOffset_iff
          (le_of_mem_keywordOffsets (hSubset hMember)),
        getElem?_eq_some_iff_before hAscending, ← hPlace,
        length_numbersBefore_eq_iff hKeywords.ascending
          hAscending hSubset]
      simp only [hSubset hMember, true_and,
        mem_switchOffsets_iff]
      exact forall_congr' fun earlier => forall_comm

theorem smallestMachine_locates :
    ∃ t features,
      Script.Tree.parse? smallestMachine = some t ∧
        detect .syntactic smallestMachine
            eagerSettings.detector = some features ∧
        ∃ place, Locates smallestMachine t features place := by
  have hParsed :
      (Script.Tree.parse? smallestMachine).isSome = true := by
    decide +kernel
  have hDetected :
      (detect .syntactic smallestMachine
        eagerSettings.detector).isSome = true := by
    decide +kernel
  rcases Option.isSome_iff_exists.mp hParsed with ⟨t, hTree⟩
  rcases Option.isSome_iff_exists.mp hDetected with
    ⟨features, hFeatures⟩
  exact
    ⟨t, features, hTree, hFeatures,
      detect_locates hTree hFeatures⟩

------------------------------------------------------------
-- Names of Members
------------------------------------------------------------

/- A statement that names a member, but is no switch. -/
def namedMember : String := "a.switch;"

/- A machine with one instruction. -/
def countingMachine : String :=
  "for(;;)switch(i++)\x7bcase 0:\x7d"

/-
  The numbers of cases of the switch statements of a script
  that can be parsed.
-/
def caseCounts? (code : String) : Option (List Nat) :=
  (Script.Tree.parse? code).map fun t =>
    (Syntactic.switches t).map List.length

/- A member is named before the machine runs. -/
def misleadingMachine : String :=
  namedMember ++ countingMachine

/-
  The only switch statement, and so its keyword, is in the part
  behind the name, but the location is that of the name.
-/
theorem misleadingMachine_mislocated :
    caseCounts? namedMember = some [] ∧
      caseCounts? countingMachine = some [1] ∧
      (ofText countingMachine).keywordOffsets "switch" = [7] ∧
      ∃ t features,
        Script.Tree.parse? misleadingMachine = some t ∧
          detect .syntactic misleadingMachine
              eagerSettings.detector = some features ∧
          KeywordsOf misleadingMachine t
            [(bytesOf namedMember).length + 7] ∧
          FirstGreatest
            ((Syntactic.switches t).map List.length)
            0 features.instructionCount ∧
          Location.ofOffset (bytesOf misleadingMachine)
              ((bytesOf namedMember).length + 7) = ⟨1, 17⟩ ∧
          features.location = some ⟨1, 3⟩ := by
  have hCounts : caseCounts? misleadingMachine = some [1] := by
    decide +kernel
  have hWords :
      (ofText misleadingMachine).keywordOffsets "switch" =
        [2, 16] := by
    decide +kernel
  have hFeatures :
      (detect .syntactic misleadingMachine
            eagerSettings.detector).map
          (fun f => (f.instructionCount, f.location)) =
        some (1, some ⟨1, 3⟩) := by
    decide +kernel
  have hOffset : (bytesOf namedMember).length + 7 = 16 := by
    decide +kernel
  rcases Option.map_eq_some_iff.mp hCounts with
    ⟨t, hTree, hCases⟩
  rcases Option.map_eq_some_iff.mp hFeatures with
    ⟨features, hDetect, hFound⟩
  rcases Prod.mk.inj hFound with ⟨hCount, hLocation⟩
  have hLength : (Syntactic.switches t).length = 1 := by
    simpa using congrArg List.length hCases
  have hStands :
      (ofText misleadingMachine).Stands "switch" 16 := by
    rw [← mem_switchOffsets_iff, hWords]
    decide
  have hKeywords :
      KeywordsOf misleadingMachine t
        [(bytesOf namedMember).length + 7] :=
    { length_eq := by simp [hLength]
      ascending := List.pairwise_singleton _ _
      stands := by simpa [hOffset] using hStands }
  have hChosen :
      FirstGreatest ((Syntactic.switches t).map List.length)
        0 features.instructionCount := by
    rw [hCases, hCount]
    exact ⟨rfl, by simp, by simp⟩
  refine
    ⟨by decide +kernel, by decide +kernel, by decide +kernel, t,
      features, hTree, hDetect, hKeywords, hChosen,
      by decide +kernel, hLocation⟩

end Devirt
