import Devirt.Proofs.Restoration.Assistance
import Devirt.Proofs.Restoration.Cleanup
import Mathlib.Logic.Function.Iterate

/-
  The clean-up of a custom script settles.

  One clean-up need not be enough: truth values are folded in
  so many rounds only, what is left of a branch may be a branch
  that does nothing, and two choices cannot share the comma
  between them.  But every change takes away a mark, which no
  change ever writes: an exclamation mark, a question mark, an
  opening brace or, where stops for debuggers are dropped, a
  letter of theirs.  So a script is cleaned up for good after
  as many times as it has marks.

  Main declarations:
    * `Rule.Lightens`, `Rule.Cautious.apply_lowers`
    * `Cleanup.marks`, `Cleanup.Lowers`, `Cleanup.lowers_run`
    * `cleanedOnce`, `cleanedOnce_eq_self_iff`,
      `cleanedOnce_lowers`
    * `cleanedOnce_settles`
    * `longNegation_unsettled`
-/

------------------------------------------------------------
-- Marks
------------------------------------------------------------

namespace Devirt

open Scanner Pattern

/- How many bytes of a script are marks. -/
def marksIn (marks : List Char) (bytes : List UInt8) : Nat :=
  bytes.countP (marks.map byte).contains

theorem marksIn_append
    (marks : List Char)
    (left right : List UInt8) :
    marksIn marks (left ++ right) =
      marksIn marks left + marksIn marks right :=
  List.countP_append

/- The marks among ASCII characters are those of their bytes. -/
theorem marksIn_chars
    {marks cs : List Char}
    (hMarks : ∀ c ∈ marks, c.toNat < 128)
    (hChars : ∀ c ∈ cs, c.toNat < 128) :
    marksIn marks (cs.map byte) = cs.countP marks.contains := by
  unfold marksIn
  rw [List.countP_map]
  apply List.countP_congr
  intro c hMember
  simp only [Function.comp_apply, List.contains_eq_mem,
    decide_eq_true_eq]
  constructor
  · intro hByte
    rcases List.mem_map.mp hByte with ⟨mark, hMark, hSame⟩
    rwa [← byte_injective (hMarks mark hMark)
      (hChars c hMember) hSame]
  · exact List.mem_map_of_mem

/- Edits that each take marks away leave so many fewer. -/
theorem CodeMap.marksIn_editedFrom
    (marks : List Char)
    (bytes : List UInt8)
    {edits : List Edit}
    {offset : Nat}
    (hOrder : inOrder offset edits = true)
    (hLight :
      ∀ e ∈ edits,
        marksIn marks (bytesOf e.replacement) <
          marksIn marks
            ((bytes.drop e.start).take (e.stop - e.start))) :
    marksIn marks (editedFrom offset (bytes.drop offset) edits) +
        edits.length ≤
      marksIn marks (bytes.drop offset) := by
  induction edits generalizing offset with
  | nil => exact Nat.le_refl _
  | cons e rest ih =>
      simp only [inOrder, Bool.and_eq_true, decide_eq_true_eq]
        at hOrder
      rcases hOrder with ⟨⟨hStart, hStop⟩, hLater⟩
      rcases List.forall_mem_cons.mp hLight with
        ⟨hFirst, hRest⟩
      have hBehind := ih hLater hRest
      have hSkip : offset + (e.stop - offset) = e.stop := by
        omega
      have hWhole :=
        congrArg (marksIn marks)
          (Rule.drop_eq_parts bytes hStart hStop)
      simp only [marksIn_append] at hWhole
      rw [editedFrom, List.drop_drop, hSkip]
      simp only [marksIn_append, List.length_cons]
      omega

end Devirt

------------------------------------------------------------
-- Rules that Take Marks Away
------------------------------------------------------------

namespace Devirt

open Scanner Pattern

namespace Rule

/- Every replacement that a rule makes has fewer marks. -/
def Lightens (marks : List Char) (r : Rule) : Prop :=
  ∀ {text : List Char} {found : Match} {here there : Place}
    {replacement : List Char},
    (∀ c ∈ text, c.toNat < 128) →
      Located r.pattern text found here there →
        r.replace text found = some replacement →
          replacement.countP marks.contains <
            (part text found.start found.stop).countP
              marks.contains

/- A match that takes a mark, replaced by none. -/
theorem lightens_of_whole
    {marks : List Char}
    {r : Rule}
    (hTakes : r.pattern.takes marks = true)
    (hReplace :
      ∀ text found replacement,
        r.replace text found = some replacement →
          replacement.countP marks.contains = 0) :
    r.Lightens marks := by
  intro text found here there replacement hText hLocated hSome
  rcases hLocated.leads.passage with ⟨passed, hPassage⟩
  have hRest : ∀ c ∈ here.rest, c.toNat < 128 := by
    intro c hMember
    rw [hLocated.onText.rest_eq] at hMember
    exact hText c (List.mem_of_mem_drop hMember)
  rcases hLocated.leads.exists_mark hRest hTakes with
    ⟨same, hSame, c, hMember, hMark⟩
  have hPassed : passed = same :=
    List.append_cancel_right (hPassage.rest_eq.symm.trans hSame)
  rw [hReplace text found replacement hSome, hLocated.start_eq,
    hLocated.stop_eq, hPassage.part_eq hLocated.onText, hPassed]
  exact
    List.countP_pos_iff.mpr ⟨c, hMember, by simpa using hMark⟩

/- The edits of such a rule, each with fewer marks. -/
theorem Cautious.apply_lowers
    {marks : List Char}
    {r : Rule}
    {code : String}
    (hMarks : ∀ c ∈ marks, c.toNat < 128)
    (hRule : r.Cautious)
    (hLight : r.Lightens marks)
    (hAscii : IsAscii (bytesOf code)) :
    marksIn marks (bytesOf (r.edited code)) +
        (r.edits (CodeMap.ofText code)).length ≤
      marksIn marks (bytesOf code) := by
  have hOrder := (hRule.edits_recode hAscii).inOrder
  have hFewer :=
    CodeMap.marksIn_editedFrom marks (bytesOf code) hOrder ?_
  · rw [(hRule.edited_recodes hAscii).1]
    simpa using hFewer
  · intro e hEdit
    rcases mem_edits hEdit with
      ⟨found, here, there, replacement, hLocated, hCode, hReplace,
        rfl⟩
    have hMasked :
        ∀ c ∈ (CodeMap.ofText code).masked, c.toNat < 128 :=
      CodeMap.masked_ascii hAscii
    have hNew := (hRule hMasked hLocated hReplace).ascii hMasked
    have hOld :
        ((bytesOf code).drop found.start).take
            (found.stop - found.start) =
          (part (CodeMap.ofText code).masked found.start
            found.stop).map byte :=
      CodeMap.bytesBetween_eq_part hAscii hCode
    rw [hOld, marksIn_chars hMarks (part_ascii _ _ hMasked),
      bytesOf_ofList hNew, marksIn_chars hMarks hNew]
    exact hLight hMasked hLocated hReplace

end Rule

namespace Cleanup

theorem constant_lightens
    {marks : List Char}
    (pattern : Pattern)
    (replacement : String)
    (hTakes : pattern.takes marks = true)
    (hNone : replacement.toList.countP marks.contains = 0) :
    (Rule.constant pattern replacement).Lightens marks := by
  apply Rule.lightens_of_whole hTakes
  intro text found cs hSome
  cases hSome
  exact hNone

theorem emptyBranch_lightens
    {marks : List Char}
    (hTakes : emptyBranch.pattern.takes marks = true) :
    emptyBranch.Lightens marks := by
  apply Rule.lightens_of_whole hTakes
  intro text found cs hSome
  simp only [emptyBranch] at hSome
  split_ifs at hSome
  cases hSome
  rfl

/- Only the digit goes, with its exclamation mark. -/
theorem negatedDigit_lightens
    {marks : List Char}
    (digit value : String)
    (hDigit : 0 < digit.toList.countP marks.contains)
    (hNone : value.toList.countP marks.contains = 0) :
    (negatedDigit digit value).Lightens marks := by
  intro text found here there replacement hText hLocated hSome
  rcases negatedDigit_parts hLocated with ⟨lead, tail, hParts⟩
  simp only [negatedDigit, hParts.lead_eq, hParts.tail_eq]
    at hSome
  cases hSome
  rw [hParts.part_eq]
  simp only [List.countP_append]
  omega

/- The value that stays was there, the question mark goes. -/
theorem settledChoice_lightens
    {marks : List Char}
    (hMark : '?' ∈ marks) :
    settledChoice.Lightens marks := by
  intro text found here there replacement hText hLocated hSome
  rcases settledChoice_parts hText hLocated with
    ⟨lead, inner, tail, hParts⟩
  rcases settledChoice_value hSome with ⟨n, hValue, rfl⟩
  rcases hParts.value_within n hValue with
    ⟨before, after, rfl, hMember⟩
  have hPositive : 0 < before.countP marks.contains :=
    List.countP_pos_iff.mpr ⟨'?', hMember, by simpa using hMark⟩
  rw [hParts.part_eq, hParts.lead_eq, hParts.tail_eq]
  simp only [List.countP_append]
  omega

end Cleanup

end Devirt

------------------------------------------------------------
-- Passes that Take Marks Away
------------------------------------------------------------

namespace Devirt

open Scanner

namespace Cleanup

/-
  What every change of a clean-up has one of, and no value that
  it puts in has.
-/
def marks (aggressive : Bool) : List Char :=
  ['!', '?', '{'] ++ if aggressive then ['g'] else []

/-
  A pass completes on every ASCII script, takes a mark away for
  each change that it counts, and makes no other changes.
-/
def Lowers
    (marks : List Char)
    (pass : String → Except Fault (String × Nat)) : Prop :=
  ∀ code,
    IsAscii (bytesOf code) →
      ∃ next count,
        pass code = .ok (next, count) ∧
          IsAscii (bytesOf next) ∧
            marksIn marks (bytesOf next) + count ≤
                marksIn marks (bytesOf code) ∧
              (count = 0 → next = code)

theorem lowers_pause
    (marks : List Char) :
    Lowers marks fun code => .ok (code, 0) := by
  intro code hAscii
  exact ⟨code, 0, rfl, hAscii, Nat.le_refl _, fun _ => rfl⟩

/-
  One pass after another, whose total is nothing only if
  neither counts anything.
-/
theorem Lowers.andThen
    {marks : List Char}
    {first second : String → Except Fault (String × Nat)}
    (total : Nat → Nat → Nat)
    (hTotal : ∀ m n, total m n ≤ m + n)
    (hNone : ∀ m n, total m n = 0 → m = 0 ∧ n = 0)
    (hFirst : Lowers marks first)
    (hSecond : Lowers marks second) :
    Lowers marks fun code => do
      let (next, count) ← first code
      let (last, more) ← second next
      return (last, total count more) := by
  intro code hAscii
  rcases hFirst code hAscii with
    ⟨next, count, hNext, hNextAscii, hFewer, hSame⟩
  rcases hSecond next hNextAscii with
    ⟨last, more, hLast, hLastAscii, hFewest, hLastSame⟩
  refine ⟨last, total count more, ?_, hLastAscii, ?_, ?_⟩
  · simp only [hNext, hLast, bind, Except.bind]
    rfl
  · have hBound := hTotal count more
    omega
  · intro hZero
    rcases hNone count more hZero with ⟨hCount, hMore⟩
    rw [hLastSame hMore, hSame hCount]

theorem lowers_rule
    {marks : List Char}
    {r : Rule}
    (hMarks : ∀ c ∈ marks, c.toNat < 128)
    (hRule : r.Cautious)
    (hLight : r.Lightens marks) :
    Lowers marks r.apply := by
  intro code hAscii
  refine
    ⟨_, _, hRule.apply_eq hAscii,
      (hRule.edited_recodes hAscii).2.1,
      hRule.apply_lowers hMarks hLight hAscii, ?_⟩
  intro hZero
  unfold Rule.edited
  rw [List.eq_nil_of_length_eq_zero hZero, CodeMap.bytes_ofText]
  exact CodeMap.textOf_bytesOf code

theorem lowers_applyAll
    {marks : List Char}
    {rules : List Rule}
    (hMarks : ∀ c ∈ marks, c.toNat < 128)
    (hRules : ∀ r ∈ rules, r.Cautious ∧ r.Lightens marks) :
    Lowers marks (applyAll rules) := by
  induction rules with
  | nil => exact lowers_pause marks
  | cons r rest ih =>
      rcases List.forall_mem_cons.mp hRules with
        ⟨hFirst, hRest⟩
      have hRule := lowers_rule hMarks hFirst.1 hFirst.2
      exact
        hRule.andThen (· + ·) (fun m n => by omega)
          (fun m n => by omega) (ih hRest)

theorem marks_ascii
    (aggressive : Bool) :
    ∀ c ∈ marks aggressive, c.toNat < 128 := by
  cases aggressive <;> simp [marks]

theorem booleanRules_lighten
    (aggressive : Bool) :
    ∀ r ∈ booleanRules, r.Lightens (marks aggressive) := by
  simp only [booleanRules, List.forall_mem_cons,
    List.not_mem_nil, false_imp_iff, implies_true, and_true]
  cases aggressive
  all_goals
    refine ⟨?_, ?_, ?_, ?_, ?_, ?_⟩
    · apply constant_lightens <;> decide
    · apply constant_lightens <;> decide
    · apply negatedDigit_lightens <;> decide
    · apply negatedDigit_lightens <;> decide
    · apply constant_lightens <;> decide
    · apply constant_lightens <;> decide

theorem lowers_foldRounds
    (aggressive : Bool)
    (rounds : Nat) :
    Lowers (marks aggressive) (foldRounds rounds) := by
  induction rounds with
  | zero => exact lowers_pause _
  | succ rounds ih =>
      intro code hAscii
      have hRules :
          ∀ r ∈ booleanRules,
            r.Cautious ∧ r.Lightens (marks aggressive) :=
        fun r hRule =>
          ⟨booleanRules_cautious r hRule,
            booleanRules_lighten aggressive r hRule⟩
      rcases lowers_applyAll (marks_ascii aggressive) hRules code
          hAscii with
        ⟨next, count, hNext, hNextAscii, hFewer, hSame⟩
      by_cases hDone : count = 0
      · refine
          ⟨next, 0, ?_, hNextAscii, by omega, fun _ =>
            hSame hDone⟩
        simp [foldRounds, hNext, hDone, bind, Except.bind,
          pure, Except.pure]
      · rcases ih next hNextAscii with
          ⟨last, more, hLast, hLastAscii, hFewest, -⟩
        refine
          ⟨last, count + more, ?_, hLastAscii, by omega,
            fun hZero => absurd hZero (by omega)⟩
        simp [foldRounds, hNext, hLast, hDone, bind,
          Except.bind, pure, Except.pure]

theorem lowers_takeSteps
    {marks : List Char}
    {steps : List (String → Except Fault (String × Nat))}
    (hSteps : ∀ step ∈ steps, Lowers marks step) :
    Lowers marks (takeSteps steps) := by
  induction steps with
  | nil => exact lowers_pause marks
  | cons step rest ih =>
      rcases List.forall_mem_cons.mp hSteps with
        ⟨hFirst, hRest⟩
      apply
        hFirst.andThen
          (fun count more =>
            (if count > 0 then 1 else 0) + more) ?_ ?_ (ih hRest)
      · intro m n
        split_ifs <;> omega
      · intro m n
        split_ifs <;> omega

theorem lowers_run
    (aggressive : Bool) :
    Lowers (marks aggressive) (run aggressive) := by
  have hMarks := marks_ascii aggressive
  have hFold := lowers_foldRounds aggressive mostRounds
  have hBranch : Lowers (marks aggressive) dropEmptyBranches := by
    refine lowers_rule hMarks emptyBranch_cautious ?_
    apply emptyBranch_lightens
    cases aggressive <;> decide
  have hChoice : Lowers (marks aggressive) dropSettledChoices :=
    lowers_rule hMarks settledChoice_cautious
      (settledChoice_lightens (by simp [marks]))
  apply lowers_takeSteps
  cases aggressive with
  | false => simpa [steps] using ⟨hFold, hBranch, hChoice⟩
  | true =>
      have hStop : Lowers (marks true) dropDebuggerStops := by
        refine lowers_rule hMarks debuggerStop_cautious ?_
        apply constant_lightens <;> decide
      simpa [steps] using ⟨hFold, hBranch, hChoice, hStop⟩

end Cleanup

end Devirt

------------------------------------------------------------
-- Cleaning Up Again and Again
------------------------------------------------------------

namespace Devirt

open Scanner

variable {σ : Type}

/- What is left of a script that is restored as a custom one. -/
def cleanedOnce
    (tools : Tools σ)
    (settings : DetectorSettings)
    (memory : σ)
    (code : String) :
    String :=
  ((restoreAs (tools.asking none) settings .custom code).run
    memory).1.code

/- How often a clean-up can change a script, at the most. -/
def marksLeft (tools : Tools σ) (code : String) : Nat :=
  marksIn (Cleanup.marks tools.options.aggressive) (bytesOf code)

section Settling

variable (tools : Tools σ)
variable (settings : DetectorSettings)
variable (memory : σ)
variable {code : String}

theorem cleanedOnce_of_run
    {clean : String}
    {steps : Nat}
    (hRun :
      Cleanup.run tools.options.aggressive code =
        .ok (clean, steps)) :
    cleanedOnce tools settings memory code =
      if Text.isBlankText clean then code else clean := by
  unfold cleanedOnce
  rw [restoreAs_custom_of_clean none settings memory hRun]
  have hCode :
      ((consult (tools.asking none) code
          (detect .syntactic code settings)
          (cleanedResult clean steps
            (detect .syntactic code settings))).run
        memory).1.code = clean :=
    consult_code _ _ _ _ memory
  split_ifs with hBlank
  · exact keepUnlessBlank_of_blank code (hCode ▸ hBlank)
  · have hText := Bool.eq_false_iff.mpr hBlank
    rw [keepUnlessBlank_of_text code (hCode ▸ hText), hCode]

/- What keeps a script as it is, and nothing else does. -/
theorem cleanedOnce_eq_self_iff
    (hAscii : IsAscii (bytesOf code)) :
    cleanedOnce tools settings memory code = code ↔
      ∃ clean steps,
        Cleanup.run tools.options.aggressive code =
            .ok (clean, steps) ∧
          (steps = 0 ∨ Text.isBlankText clean = true) := by
  rcases Cleanup.lowers_run tools.options.aggressive code
      hAscii with
    ⟨clean, steps, hRun, hClean, hFewer, hSame⟩
  rw [cleanedOnce_of_run tools settings memory hRun]
  constructor
  · intro hUnchanged
    refine ⟨clean, steps, hRun, ?_⟩
    split_ifs at hUnchanged with hBlank
    · exact Or.inr hBlank
    · rw [hUnchanged] at hFewer
      exact Or.inl (by omega)
  · rintro ⟨clean', steps', hRun', hKept⟩
    rw [hRun] at hRun'
    cases hRun'
    rcases hKept with hNone | hBlank
    · rw [hSame hNone, ite_self]
    · rw [if_pos hBlank]

/- A script that changes has fewer marks than before. -/
theorem cleanedOnce_lowers
    (hAscii : IsAscii (bytesOf code)) :
    let next := cleanedOnce tools settings memory code
    IsAscii (bytesOf next) ∧
      (next = code ∨ marksLeft tools next < marksLeft tools code) := by
  intro next
  rcases Cleanup.lowers_run tools.options.aggressive code
      hAscii with
    ⟨clean, steps, hRun, hClean, hFewer, hSame⟩
  have hFewer :
      marksLeft tools clean + steps ≤ marksLeft tools code :=
    hFewer
  have hNext : next = if Text.isBlankText clean then code else clean :=
    cleanedOnce_of_run tools settings memory hRun
  split_ifs at hNext with hBlank
  · rw [hNext]
    exact ⟨hAscii, Or.inl rfl⟩
  · rw [hNext]
    refine ⟨hClean, ?_⟩
    by_cases hNone : steps = 0
    · exact Or.inl (hSame hNone)
    · exact Or.inr (by omega)

/-
  A clean-up that is not idle takes a mark away, so after some
  of them either all later ones are idle or so many marks are
  gone.
-/
theorem cleanedOnce_iterate
    (n : Nat)
    (hAscii : IsAscii (bytesOf code)) :
    let once := cleanedOnce tools settings memory
    IsAscii (bytesOf (once^[n] code)) ∧
      (once (once^[n] code) = once^[n] code ∨
        marksLeft tools (once^[n] code) + n ≤
          marksLeft tools code) := by
  intro once
  induction n with
  | zero => exact ⟨hAscii, Or.inr (Nat.le_refl _)⟩
  | succ n ih =>
      rw [Function.iterate_succ_apply']
      rcases ih with ⟨hTextAscii, hSettled | hFewer⟩
      · rw [hSettled]
        exact ⟨hTextAscii, Or.inl hSettled⟩
      · rcases cleanedOnce_lowers tools settings memory
            hTextAscii with ⟨hNextAscii, hNext⟩
        refine ⟨hNextAscii, ?_⟩
        rcases hNext with hSame | hLess
        · exact Or.inl (congrArg once hSame)
        · refine Or.inr (Nat.le_trans ?_ hFewer)
          rw [Nat.add_comm n 1, ← Nat.add_assoc]
          exact Nat.add_le_add_right hLess n

end Settling

/-
  Cleaning up an ASCII script changes it exactly if some step
  finds something to change and leaves more than blanks.  Each
  change takes marks away, so a script settles after as many
  times as it has marks, whatever is remembered in between.
-/
theorem cleanedOnce_settles
    (tools : Tools σ)
    (settings : DetectorSettings)
    (memory : σ)
    (code : String)
    (hAscii : IsAscii (bytesOf code)) :
    let once := cleanedOnce tools settings memory
    (once code = code ↔
        ∃ clean steps,
          Cleanup.run tools.options.aggressive code =
              .ok (clean, steps) ∧
            (steps = 0 ∨ Text.isBlankText clean = true)) ∧
      (once code = code ∨
        marksLeft tools (once code) < marksLeft tools code) ∧
        ∀ n, marksLeft tools code ≤ n →
          ∀ other,
            cleanedOnce tools settings other (once^[n] code) =
              once^[n] code := by
  intro once
  refine
    ⟨cleanedOnce_eq_self_iff tools settings memory hAscii,
      (cleanedOnce_lowers tools settings memory hAscii).2, ?_⟩
  intro n hEnough other
  rcases cleanedOnce_iterate tools settings memory n hAscii with
    ⟨hTextAscii, hIterate⟩
  have hKept : once (once^[n] code) = once^[n] code := by
    rcases hIterate with hSettled | hFewer
    · exact hSettled
    · rcases cleanedOnce_lowers tools settings memory
          hTextAscii with ⟨-, hSame | hLess⟩
      · exact hSame
      · omega
  exact
    (cleanedOnce_eq_self_iff tools settings other hTextAscii).mpr
      ((cleanedOnce_eq_self_iff tools settings memory
        hTextAscii).mp hKept)

/- Two choices that share the comma between them. -/
def sharedComma : String := "f(a?b:b,c?d:d)"

theorem sharedComma_settles :
    marksLeft idleTools sharedComma = 2 ∧
      ∀ n, 2 ≤ n →
        let once := cleanedOnce idleTools {} ()
        once (once^[n] sharedComma) = once^[n] sharedComma := by
  have hAscii : IsAscii (bytesOf sharedComma) := by
    decide +kernel
  have hMarks : marksLeft idleTools sharedComma = 2 := by
    decide +kernel
  rcases cleanedOnce_settles idleTools {} () sharedComma
      hAscii with ⟨-, -, hSettles⟩
  refine ⟨hMarks, ?_⟩
  intro n hEnough once
  exact hSettles n (hMarks ▸ hEnough) ()

/- More negations than are folded in all rounds. -/
def longNegation : String := "!!!!!!!!!!![]"

/- What one clean-up leaves is no end to the next. -/
theorem longNegation_unsettled :
    let once := cleanedOnce idleTools {} ()
    IsAscii (bytesOf longNegation) ∧
      once longNegation = "!true" ∧
        once (once longNegation) ≠ once longNegation := by
  refine ⟨?_, ?_, ?_⟩
  · decide +kernel
  · decide +kernel
  · decide +kernel

end Devirt
