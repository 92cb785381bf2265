import Devirt.Proofs.Restoration.Folding
import Devirt.Proofs.Restoration.Numerals
import Devirt.Proofs.Source.Cutting
import Devirt.Proofs.Source.Showing

/-
  What rules read where they replace something.

  A rule reads the masked text, which shows blanks for the
  bytes of characters that are not ASCII.  What it replaces is
  all code, so it has read the script just where that is ASCII.
  Rules that allow a blank at the ends of a match alone never
  read anything else.  Rules that allow blanks in between do:
  they take the last letter of a name for a blank, and remove
  it.

  What a rule writes is read in its turn.  No ASCII character
  of a word follows a numeral that is written in decimal, and
  what follows it begins in the result as it did in the script.
  So the numeral is read as before, unless a dot follows: a
  hexadecimal numeral has ended there, a decimal one takes the
  dot for its own.

  Main declarations:
    * `tightRules`, `showsScript_of_tight`
    * `edits_read_shown`
    * `accentedNames_misread`
    * `HexNumeral.ReadsAlike`, `HexNumeral.readsAlike_iff`
    * `HexNumeral.Collapse.old_eq`, `Rewrites.head?_eq`
    * `collapseHexNumerals_reads`
    * `memberOfNumeral_broken`
-/

------------------------------------------------------------
-- Tight Rules
------------------------------------------------------------

namespace Devirt

open Scanner CodeMap Pattern

/- Rules that have no blanks between what they read. -/
def tightRules : List Rule :=
  Cleanup.booleanRules ++ [hexNumeral]

namespace Cleanup

theorem Separates.length_le
    {offset bound : Nat}
    {passed : List Char}
    (hSeparates : Separates offset bound passed) :
    passed.length ≤ 1 := by
  rcases hSeparates with ⟨rfl, -⟩ | ⟨c, rfl, -⟩
  · exact Nat.zero_le _
  · exact Nat.le_refl _

/- A folded operand without blanks is one of the script. -/
theorem Folds.showsScript
    {code : String}
    {e : Edit}
    {operand value : String}
    (hFolds : Folds (ofText code) e operand value [] [])
    (hWhole : (ofText code).isWhole e = true)
    (hOperand : operand.toList ≠ [])
    (hNotBlank : ' ' ∉ operand.toList) :
    (ofText code).ShowsScript e.start e.stop :=
  showsScript_of_parts hWhole hFolds.isCode hFolds.shows
    (Nat.zero_le _) (Nat.zero_le _) hOperand hNotBlank

theorem negatedDigit_showsScript
    {code digit value : String}
    {e : Edit}
    (hEdit :
      e ∈ (negatedDigit digit value).edits (ofText code))
    (hWhole : (ofText code).isWhole e = true)
    (hDigit : digit.toList ≠ [])
    (hNotBlank : ' ' ∉ digit.toList) :
    (ofText code).ShowsScript e.start e.stop := by
  rcases Rule.mem_edits hEdit with
    ⟨found, here, there, replacement, hLocated, hCode, -, rfl⟩
  rcases negatedDigit_parts hLocated with ⟨lead, tail, hParts⟩
  exact
    showsScript_of_parts hWhole hCode hParts.part_eq
      hParts.lead_separates.length_le
      hParts.tail_separates.length_le hDigit hNotBlank

end Cleanup

/- A numeral follows one character at most. -/
theorem hexNumeral_parts
    {text : List Char}
    {found : Match}
    {here there : Place}
    (hLocated : Located hexNumeral.pattern text found here there) :
    ∃ lead numeral,
      part text found.start found.stop = lead ++ (numeral ++ []) ∧
        lead.length ≤ 1 ∧ numeral ≠ [] ∧ ' ' ∉ numeral := by
  rcases hLocated.leads with ⟨between, _, ⟨_, hLead, -⟩, hNumeral⟩
  rcases hLead.passage with ⟨lead, hBefore⟩
  rcases hNumeral.passage with ⟨numeral, hBehind⟩
  have hPart := (hBefore.seq hBehind).part_eq hLocated.onText
  rcases hBehind.first_outside [' '] (by decide) with
    ⟨first, hFirst, -⟩
  refine ⟨lead, numeral, ?_, ?_, ?_, ?_⟩
  · rw [hLocated.start_eq, hLocated.stop_eq, hPart,
      List.append_nil]
  · exact
      (Cleanup.separates_lead hLocated.onText hLead
        hBefore.rest_eq).length_le
  · rintro rfl
    cases hFirst
  · intro hBlank
    exact
      hBehind.outside [' '] (by decide) ' ' hBlank
        (List.mem_singleton.mpr rfl)

theorem hexNumeral_showsScript
    {code : String}
    {e : Edit}
    (hEdit : e ∈ hexNumeral.edits (ofText code))
    (hWhole : (ofText code).isWhole e = true) :
    (ofText code).ShowsScript e.start e.stop := by
  rcases Rule.mem_edits hEdit with
    ⟨found, here, there, replacement, hLocated, hCode, -, rfl⟩
  rcases hexNumeral_parts hLocated with
    ⟨lead, numeral, hPart, hLead, hNumeral, hNotBlank⟩
  exact
    showsScript_of_parts hWhole hCode hPart hLead
      (Nat.zero_le _) hNumeral hNotBlank

/- What a tight rule replaces it has read as it is. -/
theorem showsScript_of_tight
    {r : Rule}
    {code : String}
    {e : Edit}
    (hTight : r ∈ tightRules)
    (hEdit : e ∈ r.edits (ofText code))
    (hWhole : (ofText code).isWhole e = true) :
    (ofText code).ShowsScript e.start e.stop := by
  simp only [tightRules, Cleanup.booleanRules, List.cons_append,
    List.nil_append, List.mem_cons, List.not_mem_nil,
    or_false] at hTight
  rcases hTight with rfl | rfl | rfl | rfl | rfl | rfl | rfl
  · have hFolds := Cleanup.folds_of_literal (by decide) hEdit
    exact hFolds.showsScript hWhole (by decide) (by decide)
  · have hFolds := Cleanup.folds_of_literal (by decide) hEdit
    exact hFolds.showsScript hWhole (by decide) (by decide)
  · exact
      Cleanup.negatedDigit_showsScript hEdit hWhole (by decide)
        (by decide)
  · exact
      Cleanup.negatedDigit_showsScript hEdit hWhole (by decide)
        (by decide)
  · have hFolds :=
      (Cleanup.folds_of_word 4 'e' (by decide) (by decide)
        (by decide) (by decide)
        (plain_of_char (by decide) (by decide)) hEdit).1
    exact hFolds.showsScript hWhole (by decide) (by decide)
  · have hFolds :=
      (Cleanup.folds_of_word 5 'e' (by decide) (by decide)
        (by decide) (by decide)
        (plain_of_char (by decide) (by decide)) hEdit).1
    exact hFolds.showsScript hWhole (by decide) (by decide)
  · exact hexNumeral_showsScript hEdit hWhole

end Devirt

------------------------------------------------------------
-- All Rules
------------------------------------------------------------

namespace Devirt

open Scanner CodeMap Cleanup

/-
  Whatever a rule replaces in a script is code, and the rule
  has read its ASCII bytes as they are and all others as
  blanks.  So it has read the script just where this is ASCII,
  and if the rule is tight and its edits are made, everywhere.
-/
theorem edits_read_shown
    (r : Rule)
    (code : String) :
    let m := ofText code
    (∀ e ∈ r.edits m,
        (∀ offset b,
          e.start ≤ offset → offset < e.stop →
            m.byte? offset = some b →
              m.HasCode offset b ∧
                m.masked[offset]? = some (shownAs b)) ∧
          (m.ShowsScript e.start e.stop ↔
            IsAscii
              ((m.bytes.drop e.start).take
                (e.stop - e.start)))) ∧
      (r ∈ tightRules →
        ∀ result, r.apply code = .ok result →
          ∀ e ∈ r.edits m, m.ShowsScript e.start e.stop) := by
  intro m
  refine ⟨?_, ?_⟩
  · intro e hEdit
    rcases Rule.mem_edits hEdit with
      ⟨found, here, there, replacement, -, hCode, -, rfl⟩
    exact
      ⟨fun offset b hFrom hTo hByte =>
          masked_of_code hCode hFrom hTo hByte,
        showsScript_iff_isAscii hCode⟩
  · intro hTight result hApply e hEdit
    exact
      showsScript_of_tight hTight hEdit
        (Rule.isWhole_of_apply hApply e hEdit)

/-
  Names that end with a letter that is not ASCII: what is left
  of them is a truth value, nothing, a keyword and the name of
  a table.
-/
def accentedTruth : String := "x = true\u00e9 ? a : b;"

def accentedCall : String := "if (a) \x7b\x7d\u00e9();"

def accentedKeyword : String := "debugger\u00e9();"

def accentedTable : String := "f(_0x1\u00e9[0]);"

/- A rule replaces something that the script does not say. -/
def Misreads
    (r : Rule)
    (code next : String) : Prop :=
  r.apply code = .ok (next, 1) ∧
    ∃ e ∈ r.edits (ofText code),
      ¬ (ofText code).ShowsScript e.start e.stop

instance (r : Rule) (code next : String) :
    Decidable (Misreads r code next) :=
  inferInstanceAs (Decidable (_ ∧ _))

/-
  The letter is read as a blank by each rule that allows blanks
  there, and it goes away with what the rule replaces.
-/
theorem accentedNames_misread :
    Misreads settledChoice accentedTruth "x = a;" ∧
      Misreads emptyBranch accentedCall "();" ∧
        Misreads debuggerStop accentedKeyword "();" ∧
          Misreads (StringTable.inlining "_0x1" [.text "k"])
            accentedTable "f(\"k\");" := by
  refine ⟨?_, ?_, ?_, ?_⟩ <;> decide +kernel

end Devirt

------------------------------------------------------------
-- Tokens
------------------------------------------------------------

namespace Devirt

open Scanner CodeMap Pattern

namespace HexNumeral

open Script.Lexer

/-
  A numeral and its decimal, with a text behind each, are the
  same token and leave these texts, or none of them is read.
-/
def ReadsAlike
    (n : HexNumeral)
    (behind behind' : List Char) : Prop :=
  (∃ token,
      number? (n.text ++ behind) = some (token, behind) ∧
        number? (n.decimal ++ behind') = some (token, behind')) ∨
    number? (n.text ++ behind) = none ∧
      number? (n.decimal ++ behind') = none

theorem natOfDigits_decimal
    (n : HexNumeral) :
    Decimal.natOfDigits n.decimal = n.value :=
  Nat.ofDigitChars_ten_toDigits

theorem number?_text
    {behind : List Char}
    (n : HexNumeral)
    (hBehind : NoWordAhead behind) :
    number? (n.text ++ behind) =
      closeNumber (.number (Decimal.ofNat n.value) false)
        behind :=
  number?_hex n.mark_mem n.digits_hex n.digits_ne_nil hBehind

theorem number?_decimal
    {behind : List Char}
    (n : HexNumeral)
    (hBehind : NoWordAhead behind) :
    number? (n.decimal ++ behind) =
      afterWhole n.decimal false behind := by
  apply number?_plain
  · intro c hMember
    simpa [isDigit, Char.isDigit, Char.le_def] using
      n.decimal_isDigit c hMember
  · rcases Nat.eq_zero_or_pos n.value with hZero | hPositive
    · exact Or.inl (by rw [decimal, hZero]; rfl)
    · exact Or.inr (Json.exists_toDigits_cons hPositive)
  · exact hBehind

theorem endsNumber_congr
    {behind behind' : List Char}
    (hSame : behind'.head? = behind.head?) :
    endsNumber behind' = endsNumber behind := by
  cases behind with
  | nil => rw [List.head?_eq_none_iff.mp hSame]
  | cons c cs =>
      rcases List.head?_eq_some_iff.mp hSame with ⟨cs', rfl⟩
      rfl

/- Only a dot tells a numeral from its decimal. -/
theorem readsAlike_iff
    {behind behind' : List Char}
    (n : HexNumeral)
    (hBehind : NoWordAhead behind)
    (hSame : behind'.head? = behind.head?) :
    n.ReadsAlike behind behind' ↔ behind.head? ≠ some '.' := by
  have hBehind' : NoWordAhead behind' := by
    unfold NoWordAhead
    rw [hSame]
    exact hBehind
  unfold ReadsAlike
  rw [n.number?_text hBehind, n.number?_decimal hBehind']
  constructor
  · intro hAlike hDot
    rcases List.head?_eq_some_iff.mp hDot with ⟨cs, rfl⟩
    rcases List.head?_eq_some_iff.mp hSame with ⟨cs', rfl⟩
    rcases hAlike with ⟨token, -, hDecimal⟩ | ⟨hNone, -⟩
    · have hShorter := length_afterWhole hDecimal
      omega
    · have hEnds : endsNumber ('.' :: cs) = true := by
        simp only [endsNumber]
        decide
      rw [closeNumber, if_pos hEnds] at hNone
      cases hNone
  · intro hDot
    rw [afterWhole_end false hBehind' (hSame ▸ hDot),
      n.natOfDigits_decimal, closeNumber, closeNumber,
      endsNumber_congr hSame]
    by_cases hEnds : endsNumber behind = true
    · rw [if_pos hEnds, if_pos hEnds]
      exact Or.inl ⟨_, rfl, rfl⟩
    · rw [if_neg hEnds, if_neg hEnds]
      exact Or.inr ⟨rfl, rfl⟩

end HexNumeral

end Devirt

------------------------------------------------------------
-- Texts around Numerals
------------------------------------------------------------

namespace Devirt

open Scanner CodeMap Pattern

namespace HexNumeral.Collapse

variable {code : String}
variable {e : Edit}
variable {lead : List Char}
variable {n : HexNumeral}

/- An edit ends between characters. -/
theorem isBoundary_stop
    (hCollapse : Collapse (ofText code) e lead n) :
    (ofText code).isBoundary e.stop = true := by
  rcases hCollapse.last_shown with
    ⟨offset, c, hStop, hShown, -, hNotBlank⟩
  rw [← hStop]
  exact (isBoundary_of_shown hShown hNotBlank).2

/- What an edit replaces is the numeral behind its lead. -/
theorem old_eq
    {old : String}
    {rest : List UInt8}
    (hCollapse : Collapse (ofText code) e lead n)
    (hWhole : (ofText code).isWhole e = true)
    (hDrop : (bytesOf code).drop e.start = bytesOf old ++ rest)
    (hLength : e.start + (bytesOf old).length = e.stop) :
    old = String.ofList (lead ++ n.text) := by
  have hShows :=
    hexNumeral_showsScript
      (mem_edits_hexNumeral.mpr ⟨lead, n, hCollapse⟩) hWhole
  rw [ShowsScript, hCollapse.shown.part_eq, bytes_ofText, hDrop,
    ← hLength, Nat.add_sub_cancel_left, List.take_left' rfl]
    at hShows
  apply bytesOf_injective
  rw [bytesOf_ofList, hShows]
  exact
    List.forall_mem_append.mpr
      ⟨hCollapse.shown.lead_small (small_masked _), n.text_ascii⟩

theorem noWordAhead
    {behind : String}
    (hCollapse : Collapse (ofText code) e lead n)
    (hBehind : bytesOf behind = (bytesOf code).drop e.stop) :
    Script.Lexer.NoWordAhead behind.toList := by
  intro c hHead hAscii
  rcases List.head?_eq_some_iff.mp hHead with ⟨cs, hCons⟩
  rw [bytesOf_eq_flatMap, hCons, List.flatMap_cons,
    utf8EncodeChar_ascii hAscii] at hBehind
  have hByte : (ofText code).byte? e.stop = some (byte c) := by
    rw [byte?_eq_getElem?, bytes_ofText, ← List.head?_drop,
      ← hBehind]
    rfl
  rw [isWord_eq_continuesWord hAscii]
  exact hCollapse.ends hByte

end HexNumeral.Collapse

/- What follows a numeral begins as it did before. -/
theorem Rewrites.head?_eq
    {code source result : String}
    {edits : List Edit}
    {offset : Nat}
    (hRewrites : Rewrites offset edits source result)
    (hOffset : 0 < offset)
    (hSource : bytesOf source = (bytesOf code).drop offset)
    (hEdits :
      ∀ e ∈ edits,
        (ofText code).isWhole e = true ∧
          ∃ lead n, HexNumeral.Collapse (ofText code) e lead n) :
    result.toList.head? = source.toList.head? := by
  cases hRewrites with
  | done => rfl
  | @edit _ e later source result kept old hKept hOld hRest =>
      rcases hEdits e List.mem_cons_self with
        ⟨hWhole, lead, n, hCollapse⟩
      rw [String.toList_append, String.toList_append,
        String.toList_append, String.toList_append]
      cases hFirst : kept.toList with
      | cons c cs => rfl
      | nil =>
          have hEmpty : bytesOf kept = [] := by
            rw [bytesOf_eq_flatMap, hFirst, List.flatMap_nil]
          rw [hEmpty, List.length_nil, Nat.add_zero] at hKept
          rw [bytesOf_append, bytesOf_append, hEmpty,
            List.nil_append, hKept] at hSource
          have hOldText :=
            hCollapse.old_eq hWhole hSource.symm hOld
          rcases hCollapse.shown.lead_separates with
            ⟨-, hZero⟩ | ⟨c, hLead, -⟩
          · omega
          · rw [hOldText, hCollapse.writes, hLead,
              String.toList_ofList, String.toList_ofList]
            rfl

/- What a numeral becomes in the text of the result. -/
theorem HexNumeral.Collapse.exists_texts
    {code : String}
    {e : Edit}
    {lead : List Char}
    {n : HexNumeral}
    (hWhole :
      ∀ e ∈ hexNumeral.edits (ofText code),
        (ofText code).isWhole e = true)
    (hEdit : e ∈ hexNumeral.edits (ofText code))
    (hCollapse : Collapse (ofText code) e lead n) :
    ∃ before behind before' behind' : String,
      code.toList =
          before.toList ++ (lead ++ (n.text ++ behind.toList)) ∧
        (hexNumeral.edited code).toList =
            before'.toList ++
              (lead ++ (n.decimal ++ behind'.toList)) ∧
          (bytesOf before).length = e.start ∧
            Script.Lexer.NoWordAhead behind.toList ∧
              behind'.toList.head? = behind.toList.head? := by
  have hRewrites := Rule.rewrites hWhole
  rcases hRewrites.exists_parts hEdit with
    ⟨before, old, behind, before', behind', later, hCode, hNext,
      hStart, hOld, hBehind, hLater⟩
  rw [Nat.zero_add] at hStart
  have hBytes :
      bytesOf code =
        bytesOf before ++ (bytesOf old ++ bytesOf behind) := by
    rw [hCode, bytesOf_append, bytesOf_append]
  have hDrop :
      (bytesOf code).drop e.start =
        bytesOf old ++ bytesOf behind := by
    rw [hBytes, List.drop_left' hStart]
  have hDropStop :
      bytesOf behind = (bytesOf code).drop e.stop := by
    rw [← hOld, ← List.drop_drop, hDrop, List.drop_left' rfl]
  have hOldText :=
    hCollapse.old_eq (hWhole e hEdit) hDrop hOld
  have hStop := hCollapse.shown.stop_eq
  have hLength := n.text_length_pos
  refine ⟨before, behind, before', behind', ?_, ?_, hStart, ?_, ?_⟩
  · rw [hCode, hOldText]
    simp [String.toList_append]
  · rw [hNext, hCollapse.writes]
    simp [String.toList_append]
  · exact hCollapse.noWordAhead hDropStop
  · refine hBehind.head?_eq (by omega) hDropStop ?_
    intro e' hMember
    exact
      ⟨hWhole e' (hLater hMember),
        mem_edits_hexNumeral.mp (hLater hMember)⟩

/-
  Numerals are written in decimal unless an edit begins inside
  a character.  Then each of them is the same token as before,
  apart from those before a dot.
-/
theorem collapseHexNumerals_reads
    (code : String) :
    (collapseHexNumerals code = .error .splitCharacter ∧
        ∃ e ∈ hexNumeral.edits (ofText code),
          (ofText code).isBoundary e.start = false) ∨
      ∃ next,
        collapseHexNumerals code =
            .ok (next, (hexNumeral.edits (ofText code)).length) ∧
          ∀ e ∈ hexNumeral.edits (ofText code),
            ∃ (lead : List Char) (n : HexNumeral)
              (before behind before' behind' : String),
              code.toList =
                  before.toList ++
                    (lead ++ (n.text ++ behind.toList)) ∧
                next.toList =
                    before'.toList ++
                      (lead ++ (n.decimal ++ behind'.toList)) ∧
                  (bytesOf before).length = e.start ∧
                    Cleanup.Separates e.start 0 lead ∧
                      Script.Lexer.NoWordAhead behind.toList ∧
                        (n.ReadsAlike behind.toList
                            behind'.toList ↔
                          behind.toList.head? ≠ some '.') := by
  by_cases hWhole :
      ∀ e ∈ hexNumeral.edits (ofText code),
        (ofText code).isWhole e = true
  · refine Or.inr ⟨_, Rule.apply_of_isWhole hWhole, ?_⟩
    intro e hEdit
    rcases mem_edits_hexNumeral.mp hEdit with
      ⟨lead, n, hCollapse⟩
    rcases hCollapse.exists_texts hWhole hEdit with
      ⟨before, behind, before', behind', hCode, hNext, hStart,
        hWord, hHead⟩
    exact
      ⟨lead, n, before, behind, before', behind', hCode, hNext,
        hStart, hCollapse.shown.lead_separates, hWord,
        n.readsAlike_iff hWord hHead⟩
  · refine Or.inl ⟨Rule.apply_of_not_isWhole hWhole, ?_⟩
    push Not at hWhole
    rcases hWhole with ⟨e, hEdit, hSplit⟩
    rcases mem_edits_hexNumeral.mp hEdit with
      ⟨lead, n, hCollapse⟩
    refine ⟨e, hEdit, ?_⟩
    rw [Bool.eq_false_iff]
    intro hStart
    exact
      hSplit
        (Bool.and_eq_true_iff.mpr
          ⟨hStart, hCollapse.isBoundary_stop⟩)

/- A numeral whose member is selected. -/
def memberOfNumeral : String := "0xff.toString()"

/- The dot goes to the decimal numeral, which is then broken. -/
theorem memberOfNumeral_broken :
    collapseHexNumerals memberOfNumeral =
        .ok ("255.toString()", 1) ∧
      (hexNumeral.edits (ofText memberOfNumeral)).map (·.stop) =
          [4] ∧
        (ofText memberOfNumeral).byte? 4 = some (byte '.') ∧
          (Script.Lexer.number? memberOfNumeral.toList).map
              (·.2) = some ".toString()".toList ∧
            (Script.Lexer.number?
              "255.toString()".toList).isNone = true := by
  refine ⟨?_, ?_, ?_, ?_, ?_⟩ <;> decide +kernel

end Devirt
