import Devirt.Proofs.Restoration.Keeping
import Devirt.Proofs.Source.Edits
import Mathlib.Logic.Relation

/-
  The clean-up of custom scripts keeps their literals.

  Every rule of the clean-up is cautious, so each pass recodes
  the text that the pass before has left.  A row of recodings
  keeps all literals and comments as long as no slash is code.
  With such slashes it may not: what stands before a slash says
  whether it begins a regular expression, and a pass can remove
  just that.

  Main declarations:
    * `Rule.cautious_of_whole`, `Cleanup.negatedDigit_cautious`
    * `Cleanup.Choice.Spans`, `Cleanup.settledChoice_reads`,
      `Cleanup.settledChoice_cautious`
    * `Cleanup.Recasts`, `Cleanup.recasts_run`
    * `Recodings.literalsOf_eq`
    * `restoreCustom_keepsLiterals`
    * `quoteBehindBranch_losesLiteral`
-/

------------------------------------------------------------
-- The Rules
------------------------------------------------------------

namespace Devirt

open Scanner Pattern

/-
  A rule that replaces whole matches is cautious if its
  pattern takes no marks of literals.
-/
theorem Rule.cautious_of_whole
    {r : Rule}
    (hAvoids : r.pattern.avoids literalMarks = true)
    (hBegins :
      r.pattern.beginsOutside ('\n' :: literalMarks) = true)
    (hReplace :
      ∀ text found replacement,
        r.replace text found = some replacement →
          IsHarmless replacement) :
    r.Cautious := by
  intro text found here there replacement hText hLocated hSome
  rcases hLocated.leads.passage with ⟨passed, hPassage⟩
  have hOutside := hPassage.outside _ hAvoids
  rcases hPassage.first_outside _ hBegins with
    ⟨first, hHead, hFirst⟩
  rcases List.head?_eq_some_iff.mp hHead with ⟨old, rfl⟩
  refine ⟨[], first, old, replacement, [], ?_, by simp, hFirst,
    ?_, hReplace text found replacement hSome⟩
  · rw [hLocated.start_eq, hLocated.stop_eq,
      hPassage.part_eq hLocated.onText]
    simp
  · intro c hMember
    exact hOutside c (List.mem_cons_of_mem _ hMember)

namespace Cleanup

theorem constant_cautious
    (pattern : Pattern)
    (replacement : String)
    (hAvoids : pattern.avoids literalMarks = true)
    (hBegins :
      pattern.beginsOutside ('\n' :: literalMarks) = true)
    (hReplacement : IsHarmless replacement.toList) :
    (Rule.constant pattern replacement).Cautious := by
  apply Rule.cautious_of_whole hAvoids hBegins
  intro text found cs hSome
  cases hSome
  exact hReplacement

theorem emptyBranch_cautious : emptyBranch.Cautious := by
  apply Rule.cautious_of_whole
  · decide
  · decide
  · intro text found cs hSome
    simp only [emptyBranch] at hSome
    split_ifs at hSome
    cases hSome
    decide

theorem debuggerStop_cautious : debuggerStop.Cautious := by
  apply constant_cautious
  · decide
  · decide
  · decide

/-
  A place next to a negated digit: an end of the text or one
  character, which neither continues a name nor selects a
  member.
-/
def Separates
    (offset bound : Nat)
    (passed : List Char) : Prop :=
  (passed = [] ∧ offset = bound) ∨
    ∃ c, passed = [c] ∧ isSeparator c = true

theorem separates_lead
    {text passed : List Char}
    {here there : Place}
    {groups found : Groups}
    (hHere : here.OnText text)
    (hLeads :
      Leads (alt start (one isSeparator)) here groups there found)
    (hPassed : here.rest = passed ++ there.rest) :
    Separates here.offset 0 passed := by
  rcases hLeads with
    ⟨hNone, rfl, -⟩ | ⟨c, cs, hRest, hClass, rfl, -⟩
  · exact
      Or.inl ⟨by simpa using hPassed, hHere.offset_eq_zero hNone⟩
  · rw [hRest] at hPassed
    have hOne : [c] = passed :=
      List.append_cancel_right (by simpa using hPassed)
    exact Or.inr ⟨c, hOne.symm, hClass⟩

theorem separates_tail
    {text passed : List Char}
    {here there : Place}
    {groups found : Groups}
    (hThere : there.OnText text)
    (hLeads :
      Leads (alt (one isSeparator) stop) here groups there found)
    (hPassed : here.rest = passed ++ there.rest) :
    Separates there.offset text.length passed := by
  rcases hLeads with
    ⟨c, cs, hRest, hClass, rfl, -⟩ | ⟨hEmpty, rfl, -⟩
  · rw [hRest] at hPassed
    have hOne : [c] = passed :=
      List.append_cancel_right (by simpa using hPassed)
    exact Or.inr ⟨c, hOne.symm, hClass⟩
  · exact
      Or.inl
        ⟨by simpa using hPassed, hThere.offset_eq_length hEmpty⟩

/- The parts of a match of a negated digit. -/
structure DigitParts
    (digit : String)
    (text : List Char)
    (found : Match)
    (lead tail : List Char) : Prop where
  part_eq :
    part text found.start found.stop =
      lead ++ (digit.toList ++ tail)
  lead_eq : found.groupText text 1 = lead
  tail_eq : found.groupText text 2 = tail
  lead_separates : Separates found.start 0 lead
  tail_separates : Separates found.stop text.length tail

theorem negatedDigit_parts
    {digit value : String}
    {text : List Char}
    {found : Match}
    {here there : Place}
    (hLocated :
      Located (negatedDigit digit value).pattern text found here
        there) :
    ∃ lead tail, DigitParts digit text found lead tail := by
  rcases hLocated.leads with
    ⟨first, _, ⟨seen, hLead, rfl⟩, second, _, hDigit, ⟨_, hTail,
      hFound⟩⟩
  rcases hDigit.literal with ⟨hDigits, rfl⟩
  rw [hTail.found_eq rfl] at hFound
  have hHere := hLocated.onText
  have hFirst := hLead.onText hHere
  have hSecond := hDigit.onText hFirst
  have hThere := hTail.onText hSecond
  rcases hLead.passage with ⟨lead, hLeadPassage⟩
  rcases hTail.passage with ⟨tail, hTailPassage⟩
  have hPart :=
    (hLeadPassage.seq (hDigits.seq hTailPassage)).part_eq hHere
  refine ⟨lead, tail, ?_, ?_, ?_, ?_, ?_⟩
  · rw [hLocated.start_eq, hLocated.stop_eq, hPart]
  · exact
      hLeadPassage.groupText_eq hHere
        (by simp [Match.group?, hFound])
  · exact
      hTailPassage.groupText_eq hSecond
        (by simp [Match.group?, hFound])
  · rw [hLocated.start_eq]
    exact separates_lead hHere hLead hLeadPassage.rest_eq
  · rw [hLocated.stop_eq]
    exact separates_tail hThere hTail hTailPassage.rest_eq

/- The digit changes, the characters around it stay. -/
theorem negatedDigit_cautious
    (digit value : String)
    (hDigit :
      digit.toList ≠ [] ∧
        ∀ c ∈ digit.toList, c ∉ '\n' :: literalMarks)
    (hValue : IsHarmless value.toList) :
    (negatedDigit digit value).Cautious := by
  intro text found here there replacement hText hLocated hSome
  rcases negatedDigit_parts hLocated with ⟨lead, tail, hParts⟩
  rcases List.exists_cons_of_ne_nil hDigit.1 with
    ⟨first, old, hDigits⟩
  have hMarks := hDigit.2
  have hPart := hParts.part_eq
  rw [hDigits] at hMarks hPart
  rcases List.forall_mem_cons.mp hMarks with ⟨hFirst, hOld⟩
  refine ⟨lead, first, old, value.toList, tail, hPart, ?_, hFirst,
    ?_, hValue⟩
  · simp only [negatedDigit, hParts.lead_eq, hParts.tail_eq]
      at hSome
    cases hSome
    simp
  · intro c hMember hMark
    exact hOld c hMember (List.mem_cons_of_mem _ hMark)

/- What comes in place of a settled choice is a value of it. -/
theorem settledChoice_value
    {text : List Char}
    {found : Match}
    {replacement : List Char}
    (hSome :
      settledChoice.replace text found = some replacement) :
    ∃ n,
      (n = 4 ∨ n = 5) ∧
        replacement =
          found.groupText text 1 ++ found.groupText text 2 ++
            found.groupText text n ++
              found.groupText text 6 := by
  rcases Option.map_eq_some_iff.mp hSome with
    ⟨value, hValue, rfl⟩
  split_ifs at hValue <;> cases hValue
  · exact ⟨4, Or.inl rfl, rfl⟩
  · exact ⟨5, Or.inr rfl, rfl⟩
  · exact ⟨4, Or.inl rfl, rfl⟩

/-
  The parts of a choice: what leads to it, its condition and
  its values, what ends it, and the blanks in between.
-/
structure Choice where
  lead : List Char
  gap : List Char
  condition : List Char
  gap₁ : List Char
  gap₂ : List Char
  first : List Char
  gap₃ : List Char
  gap₄ : List Char
  second : List Char
  tail : List Char

namespace Choice

/- A choice from its condition to its last value. -/
def inner (c : Choice) : List Char :=
  c.condition ++ (c.gap₁ ++ ('?' :: (c.gap₂ ++ (c.first ++
    (c.gap₃ ++ (':' :: (c.gap₄ ++ c.second)))))))

/- The marks that may lead to a choice. -/
def leadMarks : List Char := ['=', '(', ',', ';', '{', '}', '[']

/- The marks that may end a choice. -/
def tailMarks : List Char := [';', ',', ')', ']', '}']

/-
  A text has a choice between two offsets.  It begins with the
  text, a mark or a keyword that no word goes on to, and ends
  with a mark or the text.
-/
structure Spans
    (c : Choice)
    (text : List Char)
    (start stop : Nat) : Prop where
  part_eq :
    part text start stop =
      c.lead ++ (c.gap ++ (c.inner ++ c.tail))
  inside : stop ≤ text.length
  lead_cases :
    (c.lead = [] ∧ start = 0) ∨
      (∃ mark ∈ leadMarks, c.lead = [mark]) ∨
        (c.lead = "return".toList ∧
          ∀ d ∈ (text.take start).getLast?,
            Text.isWord d = false)
  gap_class : ∀ d ∈ c.gap, Text.isBlank d = true
  gaps_class :
    ∀ cs ∈ [c.gap₁, c.gap₂, c.gap₃, c.gap₄],
      ∀ d ∈ cs, Text.isBlank d = true
  chains_class :
    ∀ cs ∈ [c.condition, c.first, c.second],
      cs ≠ [] ∧ ∀ d ∈ cs, isChain d = true
  tail_cases :
    ∃ blanks,
      (∀ d ∈ blanks, Text.isBlank d = true) ∧
        ((∃ mark ∈ tailMarks, c.tail = blanks ++ [mark]) ∨
          (c.tail = blanks ∧ stop = text.length))

/- A match remembers the parts of a choice. -/
structure Remembered
    (c : Choice)
    (text : List Char)
    (found : Match) : Prop where
  lead_eq : found.groupText text 1 = c.lead
  gap_eq : found.groupText text 2 = c.gap
  condition_eq : found.groupText text 3 = c.condition
  first_eq : found.groupText text 4 = c.first
  second_eq : found.groupText text 5 = c.second
  tail_eq : found.groupText text 6 = c.tail

end Choice

theorem choice_lead
    {text passed : List Char}
    {here there : Place}
    {groups found : Groups}
    (hText : here.OnText text)
    (hLeads :
      Leads
        (choice
          [ start, one (oneOf Choice.leadMarks)
          , seq edge (literal "return") ])
        here groups there found)
    (hPassed : here.rest = passed ++ there.rest) :
    (passed = [] ∧ here.offset = 0) ∨
      (∃ mark ∈ Choice.leadMarks, passed = [mark]) ∨
        (passed = "return".toList ∧
          ∀ d ∈ (text.take here.offset).getLast?,
            Text.isWord d = false) := by
  rcases hLeads with
    ⟨hNone, rfl, -⟩ | ⟨mark, cs, hRest, hMark, rfl, -⟩ |
      ⟨_, _, ⟨hEdge, hSame, -⟩, hReturn⟩
  · exact
      Or.inl ⟨by simpa using hPassed, hText.offset_eq_zero hNone⟩
  · rw [hRest] at hPassed
    have hOne : [mark] = passed :=
      List.append_cancel_right (by simpa using hPassed)
    exact
      Or.inr
        (Or.inl
          ⟨mark, List.contains_iff_mem.mp hMark, hOne.symm⟩)
  · have hRest := hReturn.literal.1.rest_eq
    rw [hSame] at hRest
    have hHead : here.rest.head? = some 'r' := by
      rw [hRest]
      rfl
    refine Or.inr (Or.inr ⟨?_, ?_⟩)
    · exact List.append_cancel_right (hPassed.symm.trans hRest)
    · rw [← hText.before_eq]
      exact (isEdge_iff_of_word hHead rfl).mp hEdge

theorem choice_tail
    {text passed : List Char}
    {here there : Place}
    {groups found : Groups}
    (hThere : there.OnText text)
    (hLeads :
      Leads
        (seq blanks
          (alt (one (oneOf Choice.tailMarks)) stop))
        here groups there found)
    (hPassed : here.rest = passed ++ there.rest) :
    ∃ blanks,
      (∀ d ∈ blanks, Text.isBlank d = true) ∧
        ((∃ mark ∈ Choice.tailMarks, passed = blanks ++ [mark]) ∨
          (passed = blanks ∧ there.offset = text.length)) := by
  rcases hLeads with ⟨between, _, hBlanks, hEnd⟩
  rcases hBlanks.many with ⟨gap, hGap, -, hClass⟩
  rw [hGap.rest_eq] at hPassed
  refine ⟨gap, hClass, ?_⟩
  rcases hEnd with
    ⟨mark, cs, hRest, hMark, rfl, -⟩ | ⟨hEmpty, rfl, -⟩
  · refine
      Or.inl ⟨mark, List.contains_iff_mem.mp hMark, ?_⟩
    apply List.append_cancel_right
    rw [← hPassed, hRest]
    simp
  · exact
      Or.inr
        ⟨(List.append_cancel_right hPassed).symm,
          hThere.offset_eq_length hEmpty⟩

/- A match of the rule is a choice, and remembers its parts. -/
theorem settledChoice_reads
    {text : List Char}
    {found : Match}
    {here there : Place}
    (hLocated :
      Located settledChoice.pattern text found here there) :
    ∃ c : Choice,
      c.Spans text found.start found.stop ∧
        c.Remembered text found := by
  rcases hLocated.leads with
    ⟨p₁, _, ⟨seen, h₁, rfl⟩, p₂, _, ⟨_, h₂, rfl⟩, p₃, _,
      ⟨_, h₃, rfl⟩, p₄, _, h₄, p₅, _, h₅, p₆, _, h₆, p₇, _,
      ⟨_, h₇, rfl⟩, p₈, _, h₈, p₉, _, h₉, p₁₀, _, h₁₀, p₁₁, _,
      ⟨_, h₁₁, rfl⟩, ⟨_, h₁₂, hFound⟩⟩
  rw [h₁₂.found_eq rfl, h₁₁.found_eq rfl, h₁₀.found_eq rfl,
    h₉.found_eq rfl, h₈.found_eq rfl, h₇.found_eq rfl,
    h₆.found_eq rfl, h₅.found_eq rfl, h₄.found_eq rfl,
    h₃.found_eq rfl, h₂.found_eq rfl] at hFound
  have hPlace := hLocated.onText
  have hPlace₁ := h₁.onText hPlace
  have hPlace₂ := h₂.onText hPlace₁
  have hPlace₆ :=
    h₆.onText (h₅.onText (h₄.onText (h₃.onText hPlace₂)))
  have hPlace₁₀ :=
    h₁₀.onText (h₉.onText (h₈.onText (h₇.onText hPlace₆)))
  have hPlace₁₁ := h₁₁.onText hPlace₁₀
  rcases h₁.passage with ⟨lead, hLead⟩
  rcases h₂.many with ⟨gap, hGap, -, hGapClass⟩
  rcases h₃.many with
    ⟨condition, hCondition, hConditionLength, hConditionClass⟩
  rcases h₄.many with ⟨gap₁, hGap₁, -, hGapClass₁⟩
  rcases (show Leads (literal "?") _ _ _ _ from h₅).literal with
    ⟨hMark, -⟩
  rcases h₆.many with ⟨gap₂, hGap₂, -, hGapClass₂⟩
  rcases h₇.many with ⟨first, hFirst, hFirstLength, hFirstClass⟩
  rcases h₈.many with ⟨gap₃, hGap₃, -, hGapClass₃⟩
  rcases (show Leads (literal ":") _ _ _ _ from h₉).literal with
    ⟨hColon, -⟩
  rcases h₁₀.many with ⟨gap₄, hGap₄, -, hGapClass₄⟩
  rcases h₁₁.many with
    ⟨second, hSecond, hSecondLength, hSecondClass⟩
  rcases h₁₂.passage with ⟨tail, hTail⟩
  have hInner :=
    hCondition.seq (hGap₁.seq (hMark.seq (hGap₂.seq (hFirst.seq
      (hGap₃.seq (hColon.seq (hGap₄.seq hSecond)))))))
  have hPart :=
    (hLead.seq (hGap.seq (hInner.seq hTail))).part_eq hPlace
  refine
    ⟨⟨lead, gap, condition, gap₁, gap₂, first, gap₃, gap₄, second,
      tail⟩, ?_, ?_⟩
  · rw [hLocated.start_eq, hLocated.stop_eq]
    have hThere := h₁₂.onText hPlace₁₁
    refine ⟨hPart, hThere.inside, ?_, hGapClass, ?_, ?_, ?_⟩
    · exact choice_lead hPlace h₁ hLead.rest_eq
    · simp only [List.forall_mem_cons, List.not_mem_nil,
        false_imp_iff, implies_true, and_true]
      exact ⟨hGapClass₁, hGapClass₂, hGapClass₃, hGapClass₄⟩
    · simp only [List.forall_mem_cons, List.not_mem_nil,
        false_imp_iff, implies_true, and_true]
      exact
        ⟨⟨List.ne_nil_of_length_pos hConditionLength,
            hConditionClass⟩,
          ⟨List.ne_nil_of_length_pos hFirstLength, hFirstClass⟩,
          ⟨List.ne_nil_of_length_pos hSecondLength,
            hSecondClass⟩⟩
    · exact choice_tail hThere h₁₂ hTail.rest_eq
  · exact
      { lead_eq :=
          hLead.groupText_eq hPlace
            (by simp [Match.group?, hFound])
        gap_eq :=
          hGap.groupText_eq hPlace₁
            (by simp [Match.group?, hFound])
        condition_eq :=
          hCondition.groupText_eq hPlace₂
            (by simp [Match.group?, hFound])
        first_eq :=
          hFirst.groupText_eq hPlace₆
            (by simp [Match.group?, hFound])
        second_eq :=
          hSecond.groupText_eq hPlace₁₀
            (by simp [Match.group?, hFound])
        tail_eq :=
          hTail.groupText_eq hPlace₁₁
            (by simp [Match.group?, hFound]) }

/-
  The parts of a choice: its ends are remembered, and so are
  its values, which are harmless like all that is in between.
-/
structure ChoiceParts
    (text : List Char)
    (found : Match)
    (lead inner tail : List Char) : Prop where
  part_eq :
    part text found.start found.stop = lead ++ (inner ++ tail)
  lead_eq :
    found.groupText text 1 ++ found.groupText text 2 = lead
  tail_eq : found.groupText text 6 = tail
  inner_first :
    ∃ mark old,
      inner = mark :: old ∧ mark ∉ '\n' :: literalMarks
  inner_harmless : IsHarmless inner
  value_within :
    ∀ n, n = 4 ∨ n = 5 →
      ∃ before after,
        inner = before ++ (found.groupText text n ++ after) ∧
          '?' ∈ before

/- The values of a choice are as harmless as all of it. -/
theorem ChoiceParts.value_harmless
    {text : List Char}
    {found : Match}
    {lead inner tail : List Char}
    {n : Nat}
    (hParts : ChoiceParts text found lead inner tail)
    (hValue : n = 4 ∨ n = 5) :
    IsHarmless (found.groupText text n) := by
  rcases hParts.value_within n hValue with
    ⟨before, after, hInner, -⟩
  intro c hMember
  apply hParts.inner_harmless
  rw [hInner]
  exact
    List.mem_append_right _ (List.mem_append_left _ hMember)

theorem isChain_outside
    {d : Char}
    (hChain : isChain d = true) :
    d ∉ '\n' :: literalMarks :=
  not_mem_of_class (by decide) hChain

/- A choice has no marks of literals inside. -/
theorem Choice.Spans.inner_outside
    {c : Choice}
    {text : List Char}
    {start stop : Nat}
    {d : Char}
    (hSpans : c.Spans text start stop)
    (hMember : d ∈ c.inner) :
    d ∉ literalMarks := by
  have hGaps := hSpans.gaps_class
  have hChains := hSpans.chains_class
  simp only [List.forall_mem_cons, List.not_mem_nil,
    false_imp_iff, implies_true, and_true] at hGaps hChains
  have hBlank : Text.isBlank d = true → d ∉ literalMarks :=
    not_mem_of_class (by decide)
  have hChain : isChain d = true → d ∉ literalMarks :=
    fun hHere hMark =>
      isChain_outside hHere (List.mem_cons_of_mem _ hMark)
  simp only [Choice.inner, List.mem_append, List.mem_cons]
    at hMember
  rcases hMember with h | h | rfl | h | h | h | rfl | h | h
  · exact hChain (hChains.1.2 d h)
  · exact hBlank (hGaps.1 d h)
  · decide
  · exact hBlank (hGaps.2.1 d h)
  · exact hChain (hChains.2.1.2 d h)
  · exact hBlank (hGaps.2.2.1 d h)
  · decide
  · exact hBlank (hGaps.2.2.2 d h)
  · exact hChain (hChains.2.2.2 d h)

theorem settledChoice_parts
    {text : List Char}
    {found : Match}
    {here there : Place}
    (hText : ∀ c ∈ text, c.toNat < 128)
    (hLocated :
      Located settledChoice.pattern text found here there) :
    ∃ lead inner tail,
      ChoiceParts text found lead inner tail := by
  rcases settledChoice_reads hLocated with
    ⟨c, hSpans, hRemembered⟩
  have hPart := hSpans.part_eq
  refine
    ⟨c.lead ++ c.gap, c.inner, c.tail, ?_, ?_,
      hRemembered.tail_eq, ?_, ?_, ?_⟩
  · rw [hPart, List.append_assoc]
  · rw [hRemembered.lead_eq, hRemembered.gap_eq]
  · rcases hSpans.chains_class c.condition List.mem_cons_self with
      ⟨hNotEmpty, hClass⟩
    rcases List.exists_cons_of_ne_nil hNotEmpty with
      ⟨mark, old, hCondition⟩
    refine
      ⟨mark, old ++ _, congrArg (· ++ _) hCondition,
        isChain_outside (hClass mark ?_)⟩
    rw [hCondition]
    exact List.mem_cons_self
  · intro d hMember
    refine ⟨?_, hSpans.inner_outside hMember⟩
    apply Rule.part_ascii found.start found.stop hText
    rw [hPart]
    simp [hMember]
  · rintro n (rfl | rfl)
    · rw [hRemembered.first_eq]
      exact
        ⟨c.condition ++ (c.gap₁ ++ ('?' :: c.gap₂)),
          c.gap₃ ++ (':' :: (c.gap₄ ++ c.second)),
          by simp [Choice.inner], by simp⟩
    · rw [hRemembered.second_eq]
      exact
        ⟨c.condition ++ (c.gap₁ ++ ('?' :: (c.gap₂ ++ (c.first ++
          (c.gap₃ ++ (':' :: c.gap₄)))))), [],
          by simp [Choice.inner], by simp⟩

/- A choice becomes one of its values, its ends stay. -/
theorem settledChoice_cautious : settledChoice.Cautious := by
  intro text found here there replacement hText hLocated hSome
  rcases settledChoice_parts hText hLocated with
    ⟨lead, inner, tail, hParts⟩
  rcases hParts.inner_first with ⟨mark, old, rfl, hMark⟩
  rcases settledChoice_value hSome with ⟨n, hValue, rfl⟩
  refine
    ⟨lead, mark, old, found.groupText text n, tail,
      hParts.part_eq, ?_, hMark, ?_,
      hParts.value_harmless hValue⟩
  · rw [hParts.lead_eq, hParts.tail_eq, List.append_assoc]
  · intro c hMember
    exact
      (hParts.inner_harmless c
        (List.mem_cons_of_mem _ hMember)).2

end Cleanup

end Devirt

------------------------------------------------------------
-- Passes
------------------------------------------------------------

namespace Devirt

open Scanner

/- A script results from another by recodings in a row. -/
def Recodings : String → String → Prop :=
  Relation.ReflTransGen Recoding

namespace Cleanup

/-
  A pass completes on every ASCII script and recodes it, as
  often as it likes.
-/
def Recasts
    (pass : String → Except Fault (String × Nat)) : Prop :=
  ∀ code,
    IsAscii (bytesOf code) →
      ∃ next count,
        pass code = .ok (next, count) ∧
          IsAscii (bytesOf next) ∧ Recodings code next

theorem recasts_pause :
    Recasts fun code => .ok (code, 0) := by
  intro code hAscii
  exact ⟨code, 0, rfl, hAscii, .refl⟩

/- One pass after another, whatever they count. -/
theorem Recasts.andThen
    {first second : String → Except Fault (String × Nat)}
    (total : Nat → Nat → Nat)
    (hFirst : Recasts first)
    (hSecond : Recasts second) :
    Recasts fun code => do
      let (next, count) ← first code
      let (last, more) ← second next
      return (last, total count more) := by
  intro code hAscii
  rcases hFirst code hAscii with
    ⟨next, count, hNext, hNextAscii, hNextCode⟩
  rcases hSecond next hNextAscii with
    ⟨last, more, hLast, hLastAscii, hLastCode⟩
  refine
    ⟨last, total count more, ?_, hLastAscii,
      hNextCode.trans hLastCode⟩
  simp only [hNext, hLast, bind, Except.bind]
  rfl

theorem recasts_rule
    {r : Rule}
    (hRule : r.Cautious) :
    Recasts r.apply := by
  intro code hAscii
  rcases hRule.apply_recodes hAscii with
    ⟨next, count, hApply, hNext, hCode⟩
  exact ⟨next, count, hApply, hNext, .single hCode⟩

theorem recasts_applyAll
    {rules : List Rule}
    (hRules : ∀ r ∈ rules, r.Cautious) :
    Recasts (applyAll rules) := by
  induction rules with
  | nil => exact recasts_pause
  | cons r rest ih =>
      rcases List.forall_mem_cons.mp hRules with
        ⟨hFirst, hRest⟩
      exact (recasts_rule hFirst).andThen (· + ·) (ih hRest)

theorem booleanRules_cautious :
    ∀ r ∈ booleanRules, r.Cautious := by
  simp only [booleanRules, List.forall_mem_cons,
    List.not_mem_nil, false_imp_iff, implies_true, and_true]
  refine ⟨?_, ?_, ?_, ?_, ?_, ?_⟩
  · apply constant_cautious <;> decide
  · apply constant_cautious <;> decide
  · exact
      negatedDigit_cautious _ _ (by simp [literalMarks])
        (by decide)
  · exact
      negatedDigit_cautious _ _ (by simp [literalMarks])
        (by decide)
  · apply constant_cautious <;> decide
  · apply constant_cautious <;> decide

/- Truth values are folded in rounds until none changes. -/
theorem recasts_foldRounds
    (rounds : Nat) :
    Recasts (foldRounds rounds) := by
  induction rounds with
  | zero => exact recasts_pause
  | succ rounds ih =>
      intro code hAscii
      rcases recasts_applyAll booleanRules_cautious code
          hAscii with ⟨next, count, hNext, hNextAscii, hCode⟩
      by_cases hDone : count = 0
      · refine ⟨next, 0, ?_, hNextAscii, hCode⟩
        simp [foldRounds, hNext, hDone, bind, Except.bind,
          pure, Except.pure]
      · rcases ih next hNextAscii with
          ⟨last, more, hLast, hLastAscii, hLater⟩
        refine
          ⟨last, count + more, ?_, hLastAscii,
            hCode.trans hLater⟩
        simp [foldRounds, hNext, hLast, hDone, bind,
          Except.bind, pure, Except.pure]

theorem recasts_takeSteps
    {steps : List (String → Except Fault (String × Nat))}
    (hSteps : ∀ step ∈ steps, Recasts step) :
    Recasts (takeSteps steps) := by
  induction steps with
  | nil => exact recasts_pause
  | cons step rest ih =>
      rcases List.forall_mem_cons.mp hSteps with
        ⟨hFirst, hRest⟩
      exact
        hFirst.andThen
          (fun count more => (if count > 0 then 1 else 0) + more)
          (ih hRest)

theorem recasts_run
    (aggressive : Bool) :
    Recasts (run aggressive) := by
  apply recasts_takeSteps
  intro step hMember
  have hCases :
      step = foldBooleans ∨ step = dropEmptyBranches ∨
        step = dropSettledChoices ∨
          step = dropDebuggerStops := by
    cases aggressive <;> simp [steps] at hMember <;> tauto
  rcases hCases with rfl | rfl | rfl | rfl
  · exact recasts_foldRounds mostRounds
  · exact recasts_rule emptyBranch_cautious
  · exact recasts_rule settledChoice_cautious
  · exact recasts_rule debuggerStop_cautious

end Cleanup

end Devirt

------------------------------------------------------------
-- Literals
------------------------------------------------------------

namespace Devirt

open Scanner CodeMap

variable {σ : Type}

/- The bytes of the literals and comments of a script. -/
def literalsOf (code : String) : List UInt8 :=
  literalBytes (ofText code).cells.toList

/- No slash of a script is code. -/
def HasNoSlash (code : String) : Prop :=
  Undivided (ofText code).cells.toList

/-
  Recodings in a row keep the literals of a script without
  slashes, since each leaves a script of the kind.
-/
theorem Recodings.literalsOf_eq
    {code last : String}
    (hRecodings : Recodings code last)
    (hSlash : HasNoSlash code) :
    literalsOf last = literalsOf code ∧ HasNoSlash last := by
  induction hRecodings with
  | refl => exact ⟨rfl, hSlash⟩
  | tail _ hStep ih =>
      rcases ih with ⟨hSame, hNone⟩
      have hNext := Recodes.literalBytes_eq hStep hNone
      exact ⟨hNext.1.trans hSame, hNext.2⟩

/- An assistant adds findings, and changes no script. -/
theorem consult_code
    (tools : Tools σ)
    (code : String)
    (features : Option Features)
    (r : Restoration)
    (memory : σ) :
    ((consult tools code features r).run memory).1.code =
      r.code := by
  unfold consult
  cases tools.assistant with
  | none => rfl
  | some ask =>
      simp only [answer_bind]
      split <;> rfl

/-
  The strategy for custom scripts completes on every ASCII
  script and only recodes it.  The literals and comments stay,
  byte for byte, if no slash of the script is code.
-/
theorem restoreCustom_keepsLiterals
    (tools : Tools σ)
    (code : String)
    (features : Option Features)
    (memory : σ)
    (hAscii : IsAscii (bytesOf code)) :
    ∃ r,
      ((restoreCustom tools code features).run memory).1 =
          .ok r ∧
        Recodings code r.code ∧
          (HasNoSlash code →
            literalsOf r.code = literalsOf code) := by
  rcases Cleanup.recasts_run tools.options.aggressive code
      hAscii with ⟨clean, steps, hRun, -, hRecodings⟩
  let result :=
    (Restoration.ofCode clean
      (Custom.confidence steps)).addUnresolved
        (bytecodePart features)
  let r := ((consult tools code features result).run memory).1
  have hCode : r.code = clean :=
    consult_code tools code features result memory
  have hResult :
      ((restoreCustom tools code features).run memory).1 =
        .ok r := by
    simp only [restoreCustom, hRun, answer_bind]
    rfl
  rw [← hCode] at hRecodings
  exact
    ⟨r, hResult, hRecodings, fun hSlash =>
      (hRecodings.literalsOf_eq hSlash).1⟩

/- Tools that nobody asks. -/
def idleTools : Tools Unit where
  evaluate _ _ := pure (.failed "")
  assistant := none
  settings := {}
  options := {}

/- A truth value stands in the code, a string and a comment. -/
def spelledTruth : String := "s='!0';t=!0;//!0"

theorem spelledTruth_keepsLiterals :
    IsAscii (bytesOf spelledTruth) ∧
      HasNoSlash spelledTruth ∧
        ∃ r,
          ((restoreCustom idleTools spelledTruth none).run
              ()).1 = .ok r ∧
            literalsOf r.code = literalsOf spelledTruth := by
  have hAscii : IsAscii (bytesOf spelledTruth) := by
    decide +kernel
  have hSlash : HasNoSlash spelledTruth := by
    unfold HasNoSlash
    decide +kernel
  rcases restoreCustom_keepsLiterals idleTools spelledTruth
      none () hAscii with ⟨r, hResult, -, hKeeps⟩
  exact ⟨hAscii, hSlash, r, hResult, hKeeps hSlash⟩

/-
  A script whose regular expression follows a branch that does
  nothing.
-/
def quoteBehindBranch : String :=
  "f(a)\nif(b)\x7b\x7d /'/.test(c); s = '(c?d:d)'"

/-
  Without the branch, a bracket stands before the slash, which
  counts as a division from then on.  The quote behind it opens
  a string for the next pass, so the string at the end is code
  to it, and changes.
-/
theorem quoteBehindBranch_losesLiteral :
    let next := "f(a)\n/'/.test(c); s = '(d)'"
    IsAscii (bytesOf quoteBehindBranch) ∧
      (((restoreCustom idleTools quoteBehindBranch none).run
          ()).1.toOption.map (·.code)) = some next ∧
        literalsOf next ≠ literalsOf quoteBehindBranch := by
  refine ⟨?_, ?_, ?_⟩
  · decide +kernel
  · decide +kernel
  · decide +kernel

end Devirt
