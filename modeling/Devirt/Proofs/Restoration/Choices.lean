import Devirt.Proofs.Restoration.Branches
import Devirt.Proofs.Restoration.Cleanup

/-
  Which choices are settled.

  The rule for choices reads the condition as a chain of
  members and what leads to it as one mark or keyword.  So the
  chain is the whole condition if an operand begins with it.
  That depends on two things that the rule does not look at:
  whether the last sign of an assignment is the end of a
  comparison, and whether the keyword is a word of its own.

  Main declarations:
    * `Cleanup.Choice.value?`, `Cleanup.SettlesChoice`,
      `Cleanup.settles_of_mem_edits`
    * `Cleanup.BeginsOperand`, `Cleanup.Choice.Compares`,
      `Cleanup.Choice.Fuses`
    * `dropSettledChoices_settles`
    * `conditions_cut`
-/

------------------------------------------------------------
-- Settled Choices
------------------------------------------------------------

namespace Devirt

open Scanner Pattern CodeMap

namespace Cleanup

/- What comes in place of a choice, if it is settled. -/
def Choice.value? (c : Choice) : Option (List Char) :=
  if c.condition == "true".toList then some c.first
  else if c.condition == "false".toList then some c.second
  else if c.first == c.second then some c.first
  else none

/-
  An edit settles a choice, which is all code, and keeps what
  leads to it and what ends it.
-/
structure SettlesChoice
    (m : CodeMap)
    (e : Edit)
    (c : Choice) : Prop where
  spans : c.Spans m.masked e.start e.stop
  isCode : m.isCodeBetween e.start e.stop = true
  replacement_eq :
    c.value?.map
        (fun value =>
          String.ofList (c.lead ++ c.gap ++ value ++ c.tail)) =
      some e.replacement

/- The rule replaces a choice by what its parts say. -/
theorem Choice.Remembered.replace_eq
    {c : Choice}
    {text : List Char}
    {found : Match}
    (hRemembered : c.Remembered text found) :
    settledChoice.replace text found =
      c.value?.map fun value =>
        c.lead ++ c.gap ++ value ++ c.tail := by
  simp only [settledChoice, Choice.value?, hRemembered.lead_eq,
    hRemembered.gap_eq, hRemembered.condition_eq,
    hRemembered.first_eq, hRemembered.second_eq,
    hRemembered.tail_eq]

theorem settles_of_mem_edits
    {m : CodeMap}
    {e : Edit}
    (hEdit : e ∈ settledChoice.edits m) :
    ∃ c, SettlesChoice m e c := by
  rcases Rule.mem_edits hEdit with
    ⟨found, here, there, replacement, hLocated, hCode, hReplace,
      rfl⟩
  rcases settledChoice_reads hLocated with
    ⟨c, hSpans, hRemembered⟩
  refine ⟨c, hSpans, hCode, ?_⟩
  rw [hRemembered.replace_eq] at hReplace
  rcases Option.map_eq_some_iff.mp hReplace with
    ⟨value, hValue, rfl⟩
  rw [hValue]
  rfl

/- The mark that ends a choice stands right before its end. -/
theorem Choice.Spans.getElem?_tail
    {c : Choice}
    {text blanks : List Char}
    {start stop : Nat}
    {mark : Char}
    (hSpans : c.Spans text start stop)
    (hTail : c.tail = blanks ++ [mark]) :
    ∃ last, stop = last + 1 ∧ text[last]? = some mark := by
  let before := c.lead ++ (c.gap ++ (c.inner ++ blanks))
  have hPart :
      part text start stop = before ++ ([mark] ++ []) := by
    rw [hSpans.part_eq, hTail]
    simp [before]
  have hLength := congrArg List.length hPart
  have hInside := hSpans.inside
  simp only [part, List.length_take, List.length_drop,
    List.length_append, List.length_singleton, List.length_nil]
    at hLength
  refine ⟨start + before.length, by omega, ?_⟩
  exact getElem?_of_part hPart List.getElem?_cons_zero

/- A choice begins and ends where the script can be cut. -/
theorem SettlesChoice.isWhole
    {code : String}
    {e : Edit}
    {c : Choice}
    (hSettles : SettlesChoice (ofText code) e c) :
    (ofText code).isWhole e = true := by
  have hSpans := hSettles.spans
  have hFirst :
      ∀ d lead, c.lead = d :: lead →
        (ofText code).masked[e.start]? = some d := by
    intro d lead hLead
    have hPart := hSpans.part_eq
    rw [hLead] at hPart
    exact
      getElem?_of_part (hPart.trans (List.nil_append _).symm)
        List.getElem?_cons_zero
  have hStart : (ofText code).isBoundary e.start = true := by
    rcases hSpans.lead_cases with
      ⟨-, hZero⟩ | ⟨mark, hMark, hLead⟩ | ⟨hLead, -⟩
    · rw [hZero]
      exact isBoundary_zero (cuttable_ofText code)
    · refine (isBoundary_of_shown (hFirst mark [] hLead) ?_).1
      rintro rfl
      revert hMark
      decide
    · exact
        (isBoundary_of_shown (hFirst 'r' _ hLead) (by decide)).1
  have hStop : (ofText code).isBoundary e.stop = true := by
    rcases hSpans.tail_cases with
      ⟨blanks, -, ⟨mark, hMark, hTail⟩ | ⟨-, hEnd⟩⟩
    · rcases hSpans.getElem?_tail hTail with
        ⟨last, hLast, hShown⟩
      rw [hLast]
      refine (isBoundary_of_shown hShown ?_).2
      rintro rfl
      revert hMark
      decide
    · rw [hEnd, length_masked]
      exact isBoundary_size _
  exact Bool.and_eq_true_iff.mpr ⟨hStart, hStop⟩

end Cleanup

end Devirt

------------------------------------------------------------
-- Whole Conditions
------------------------------------------------------------

namespace Devirt

open Scanner Pattern CodeMap

namespace Cleanup

/-
  Whether the sign of an assignment ends a comparison with the
  text before it, which is given from its end on.
-/
def endsComparison : List Char → Bool
  | '=' :: _ => true
  | '!' :: _ => true
  | '<' :: cs => cs.head? != some '<'
  | '>' :: cs => cs.head? != some '>'
  | _ => false

/-
  Whether an operand may follow a text that does not end with a
  blank and is given from its end on.
-/
def opensOperand : List Char → Bool
  | [] => true
  | '=' :: cs => !endsComparison cs
  | c :: cs =>
    Choice.leadMarks.contains c ||
      wordBefore (c :: cs) == "return"

/-
  An operand begins at an offset: no name goes on there, and
  what stands before it does not take it as the second half of
  something else.
-/
structure BeginsOperand
    (m : CodeMap)
    (offset : Nat) : Prop where
  apart :
    ((m.masked.take offset).getLast?.any isName &&
      m.masked[offset]?.any isName) = false
  opened :
    opensOperand
      ((m.masked.take offset).reverse.dropWhile Text.isBlank) =
        true

theorem beginsOperand_iff
    {m : CodeMap}
    {offset : Nat} :
    BeginsOperand m offset ↔
      ((m.masked.take offset).getLast?.any isName &&
          m.masked[offset]?.any isName) = false ∧
        opensOperand
          ((m.masked.take offset).reverse.dropWhile
            Text.isBlank) = true :=
  ⟨fun h => ⟨h.apart, h.opened⟩, fun h => ⟨h.1, h.2⟩⟩

instance (m : CodeMap) (offset : Nat) :
    Decidable (BeginsOperand m offset) :=
  decidable_of_iff _ beginsOperand_iff.symm

namespace Choice

/- Where the condition of a choice begins that an edit settles. -/
def conditionAt (c : Choice) (e : Edit) : Nat :=
  e.start + (c.lead ++ c.gap).length

/- What leads to a choice is the end of a comparison. -/
def Compares (c : Choice) (m : CodeMap) (e : Edit) : Prop :=
  c.lead = ['='] ∧
    endsComparison (m.masked.take e.start).reverse = true

/-
  The keyword that leads to a choice is a part of a longer
  name.
-/
def Fuses (c : Choice) (m : CodeMap) (e : Edit) : Prop :=
  c.lead = "return".toList ∧
    ((m.masked.take e.start).getLast?.any isName = true ∨
      (c.gap = [] ∧ c.condition.head?.any isName = true))

end Choice

/- Before a condition stand its lead and blanks. -/
theorem SettlesChoice.before_condition
    {m : CodeMap}
    {e : Edit}
    {c : Choice}
    (hSettles : SettlesChoice m e c) :
    m.masked.take (c.conditionAt e) =
        m.masked.take e.start ++ c.lead ++ c.gap ∧
      m.masked[c.conditionAt e]? = c.condition.head? := by
  have hSpans := hSettles.spans
  have hPart :
      part m.masked e.start e.stop =
        (c.lead ++ c.gap) ++ (c.inner ++ c.tail) := by
    rw [hSpans.part_eq, List.append_assoc]
  refine ⟨?_, ?_⟩
  · rw [Choice.conditionAt, take_of_part hPart,
      List.append_assoc]
  · rcases hSpans.chains_class c.condition
        List.mem_cons_self with ⟨hNotEmpty, -⟩
    rcases List.exists_cons_of_ne_nil hNotEmpty with
      ⟨first, rest, hCondition⟩
    have hInner : c.inner[0]? = some first := by
      simp [Choice.inner, hCondition]
    rw [hCondition]
    exact getElem?_of_part hPart hInner

/- A blank of a gap is no part of a name. -/
theorem SettlesChoice.isName_of_gap
    {m : CodeMap}
    {e : Edit}
    {c : Choice}
    {d : Char}
    (hSettles : SettlesChoice m e c)
    (hMember : d ∈ c.gap) :
    isName d = false := by
  have hShown : d ∈ m.masked.take (c.conditionAt e) := by
    rw [hSettles.before_condition.1]
    exact List.mem_append_right _ hMember
  have hAscii := small_masked m d (List.mem_of_mem_take hShown)
  rw [Bool.eq_false_iff]
  intro hName
  have hChain : isChain d = true := by simp [isChain, hName]
  have hBlank := hSettles.spans.gap_class d hMember
  rw [(isChain_ascii hAscii hChain).1] at hBlank
  cases hBlank

/- Names are kept apart by a gap, or by what leads to a choice. -/
theorem SettlesChoice.apart_iff
    {m : CodeMap}
    {e : Edit}
    {c : Choice}
    (hSettles : SettlesChoice m e c) :
    ((m.masked.take (c.conditionAt e)).getLast?.any isName &&
        m.masked[c.conditionAt e]?.any isName) = false ↔
      (c.gap = [] →
        ((m.masked.take e.start ++ c.lead).getLast?.any isName &&
          c.condition.head?.any isName) = false) := by
  rcases hSettles.before_condition with ⟨hBefore, hHead⟩
  rw [hBefore, hHead, List.getLast?_append]
  cases hLast : c.gap.getLast? with
  | none =>
      have hEmpty := List.getLast?_eq_none_iff.mp hLast
      simp [hEmpty]
  | some last =>
      have hMember := List.mem_of_getLast? hLast
      have hNotEmpty := List.ne_nil_of_mem hMember
      simp [hNotEmpty, hSettles.isName_of_gap hMember]

/- Without the gap, the text before ends with the lead. -/
theorem SettlesChoice.dropWhile_before
    {m : CodeMap}
    {e : Edit}
    {c : Choice}
    (hSettles : SettlesChoice m e c) :
    (m.masked.take (c.conditionAt e)).reverse.dropWhile
        Text.isBlank =
      (c.lead.reverse ++ (m.masked.take e.start).reverse).dropWhile
        Text.isBlank := by
  rw [hSettles.before_condition.1, List.reverse_append,
    List.reverse_append]
  apply List.dropWhile_append_of_pos
  intro d hMember
  exact
    hSettles.spans.gap_class d (List.mem_reverse.mp hMember)

/- A keyword is the last word of a text if none goes on to it. -/
theorem wordBefore_return_iff
    (text : List Char) :
    wordBefore ("return".toList.reverse ++ text.reverse) =
        "return" ↔
      text.getLast?.any isName = false := by
  have hWord : ∀ d ∈ "return".toList.reverse, isName d = true :=
    List.all_eq_true.mp rfl
  rw [wordBefore, List.takeWhile_append_of_pos hWord,
    List.reverse_append, List.reverse_reverse,
    ← String.toList_inj, String.toList_ofList,
    List.append_left_eq_self, List.reverse_eq_nil_iff,
    ← List.head?_reverse]
  cases text.reverse with
  | nil => simp
  | cons d rest => cases hName : isName d <;> simp [hName]

theorem opensOperand_cons
    {c : Char}
    {cs : List Char}
    (hOther : c ≠ '=') :
    opensOperand (c :: cs) =
      (Choice.leadMarks.contains c ||
        wordBefore (c :: cs) == "return") := by
  unfold opensOperand
  split
  · contradiction
  · next heq => cases heq; contradiction
  · next heq => cases heq; rfl

/- What leads to a choice is no blank and no part of a name. -/
theorem leadMarks_apart :
    ∀ mark ∈ Choice.leadMarks,
      Text.isBlank mark = false ∧ isName mark = false := by
  intro mark hMark
  simp only [Choice.leadMarks, List.mem_cons, List.not_mem_nil,
    or_false] at hMark
  rcases hMark with rfl | rfl | rfl | rfl | rfl | rfl | rfl <;>
    exact ⟨rfl, rfl⟩

/-
  The chain that the rule reads is an operand unless its lead
  ends a comparison or is a part of a longer name.
-/
theorem SettlesChoice.beginsOperand_iff
    {m : CodeMap}
    {e : Edit}
    {c : Choice}
    (hSettles : SettlesChoice m e c) :
    BeginsOperand m (c.conditionAt e) ↔
      ¬ c.Compares m e ∧ ¬ c.Fuses m e := by
  rw [Cleanup.beginsOperand_iff, hSettles.apart_iff,
    hSettles.dropWhile_before, Choice.Compares, Choice.Fuses]
  rcases hSettles.spans.lead_cases with
    ⟨hLead, hStart⟩ | ⟨mark, hMark, hLead⟩ | ⟨hLead, -⟩
  · simp [hLead, hStart, opensOperand]
  · rcases leadMarks_apart mark hMark with ⟨hBlank, hName⟩
    have hNoWord : [mark] ≠ "return".toList := by simp
    by_cases hEquals : mark = '='
    · subst hEquals
      simp [hLead, hBlank, hName, opensOperand]
    · simp [hLead, hBlank, hName, opensOperand_cons hEquals, hMark, hEquals]
  · have hKeyword :
        opensOperand
            (("return".toList.reverse ++
              (m.masked.take e.start).reverse).dropWhile
                Text.isBlank) =
          true ↔
          (m.masked.take e.start).getLast?.any isName =
            false := by
      rw [← wordBefore_return_iff]
      exact
        (beq_iff_eq :
          (wordBefore
            ("return".toList.reverse ++
              (m.masked.take e.start).reverse) == "return") =
            true ↔ _)
    have hLast :
        (m.masked.take e.start ++ "return".toList).getLast? =
          some 'n' := by
      rw [List.getLast?_append]
      rfl
    have hName : isName 'n' = true := rfl
    rw [hLead, hKeyword, hLast, and_comm]
    simp [hName]

end Cleanup

/-
  The pass over choices completes on every script.  Each edit
  settles a choice, and the chain that was read is the whole
  condition just if its lead neither ends a comparison nor is a
  part of a longer name.
-/
theorem dropSettledChoices_settles
    (code : String) :
    Cleanup.dropSettledChoices code =
        .ok
          (Cleanup.settledChoice.edited code,
            (Cleanup.settledChoice.edits
              (ofText code)).length) ∧
      ∀ e ∈ Cleanup.settledChoice.edits (ofText code),
        ∃ c,
          Cleanup.SettlesChoice (ofText code) e c ∧
            (Cleanup.BeginsOperand (ofText code)
                (c.conditionAt e) ↔
              ¬ c.Compares (ofText code) e ∧
                ¬ c.Fuses (ofText code) e) := by
  refine ⟨?_, ?_⟩
  · apply Rule.apply_of_isWhole
    intro e hEdit
    rcases Cleanup.settles_of_mem_edits hEdit with ⟨c, hSettles⟩
    exact hSettles.isWhole
  · intro e hEdit
    rcases Cleanup.settles_of_mem_edits hEdit with ⟨c, hSettles⟩
    exact ⟨c, hSettles, hSettles.beginsOperand_iff⟩

end Devirt

------------------------------------------------------------
-- Cut Conditions
------------------------------------------------------------

namespace Devirt

open CodeMap Pattern

namespace Cleanup

/-
  A script has a choice settled though the condition that its
  match remembers, which is the third part, is no operand.
-/
def CutsCondition (code next : String) : Prop :=
  dropSettledChoices code = .ok (next, 1) ∧
    ∃ found ∈ settledChoice.pattern.all (ofText code).masked,
      (settledChoice.edit? (ofText code) found).isSome = true ∧
        ∃ range ∈ found.group? 3,
          ¬ BeginsOperand (ofText code) range.1

instance (code next : String) :
    Decidable (CutsCondition code next) :=
  inferInstanceAs (Decidable (_ ∧ _))

end Cleanup

/-
  Choices whose conditions are a comparison and a name that
  begins like the keyword.
-/
def choiceBehindComparison : String := "x = a == c ? d : d;"

def choiceOnLongName : String := "f()\nreturnValue ? d : d;"

/-
  The value becomes the other side of the comparison, or a part
  of the name.
-/
theorem conditions_cut :
    Cleanup.CutsCondition choiceBehindComparison "x = a == d;" ∧
      Cleanup.CutsCondition choiceOnLongName
        "f()\nreturnd;" := by
  refine ⟨?_, ?_⟩ <;> decide +kernel

end Devirt
