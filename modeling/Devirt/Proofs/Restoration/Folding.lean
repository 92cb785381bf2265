import Devirt.Proofs.Restoration.Cleanup
import Devirt.Proofs.Restoration.Faultless
import Mathlib.Algebra.GroupWithZero.Nat

/-
  What is folded to a truth value, and what stands next to it.

  Truth values are folded by rules that take turns for some
  rounds, each on the text that the one before has left.  Every
  edit of a turn replaces one of six operands by its value.
  Negated digits are folded only where they stand apart from
  names and members on both sides, negated words only where no
  word goes on behind them.  Negated brackets are folded
  wherever they stand, so their values can run into a word
  before them, and can take over an access behind them.

  Main declarations:
    * `Cleanup.Turn`, `Cleanup.foldTurns`,
      `Cleanup.foldRounds_count`
    * `StandsApart`, `EndsWord`, `Cleanup.Folds`,
      `Cleanup.Guarded`
    * `Cleanup.foldBooleans_guards`
    * `Cleanup.brackets_unguarded`
-/

------------------------------------------------------------
-- Turns
------------------------------------------------------------

namespace Devirt

namespace Cleanup

/- A rule, and the text that it is applied to. -/
structure Turn where
  rule : Rule
  text : String

def Turn.edits (turn : Turn) : List Edit :=
  turn.rule.edits (CodeMap.ofText turn.text)

/- The turns of rules, each on what the one before has left. -/
def turns : List Rule → String → List Turn
  | [], _ => []
  | r :: rest, code =>
    ⟨r, code⟩ ::
      match r.apply code with
      | .ok (next, _) => turns rest next
      | .error _ => []

/- The turns of all rounds in which truth values are folded. -/
def foldTurns : Nat → String → List Turn
  | 0, _ => []
  | rounds + 1, code =>
    turns booleanRules code ++
      match applyAll booleanRules code with
      | .ok (next, count) =>
        if count == 0 then [] else foldTurns rounds next
      | .error _ => []

/- How many edits are made in all turns. -/
def editCount (turns : List Turn) : Nat :=
  (turns.map (·.edits.length)).sum

theorem apply_count
    {r : Rule}
    {code next : String}
    {count : Nat}
    (hApply : r.apply code = .ok (next, count)) :
    count = (r.edits (CodeMap.ofText code)).length := by
  rcases ok_of_bind_ok hApply with ⟨text, -, hResult⟩
  cases hResult
  rfl

theorem applyAll_count
    {rules : List Rule}
    {code last : String}
    {count : Nat}
    (hApply : applyAll rules code = .ok (last, count)) :
    count = editCount (turns rules code) := by
  induction rules generalizing code count with
  | nil =>
      cases hApply
      rfl
  | cons r rest ih =>
      rcases ok_of_bind_ok hApply with
        ⟨⟨next, here⟩, hNext, hLater⟩
      rcases ok_of_bind_ok hLater with
        ⟨⟨text, more⟩, hRest, hResult⟩
      cases hResult
      have hHere := apply_count hNext
      have hMore := ih hRest
      simp only [turns, hNext, editCount, List.map_cons,
        List.sum_cons] at hMore ⊢
      rw [hHere, hMore]
      rfl

theorem foldRounds_count
    {rounds : Nat}
    {code last : String}
    {count : Nat}
    (hFold : foldRounds rounds code = .ok (last, count)) :
    count = editCount (foldTurns rounds code) := by
  induction rounds generalizing code count with
  | zero =>
      cases hFold
      rfl
  | succ rounds ih =>
      rcases ok_of_bind_ok hFold with
        ⟨⟨next, here⟩, hNext, hLater⟩
      have hHere := applyAll_count hNext
      unfold editCount at hHere ih ⊢
      simp only [foldTurns, hNext, List.map_append,
        List.sum_append, ← hHere]
      dsimp only at hLater
      split_ifs at hLater ⊢ with hNone
      · cases hLater
        simpa using (beq_iff_eq.mp hNone).symm
      · rcases ok_of_bind_ok hLater with
          ⟨⟨text, more⟩, hRest, hResult⟩
        cases hResult
        rw [ih hRest]

theorem rule_of_mem_turns
    {rules : List Rule}
    {code : String}
    {turn : Turn}
    (hTurn : turn ∈ turns rules code) :
    turn.rule ∈ rules := by
  induction rules generalizing code with
  | nil => cases hTurn
  | cons r rest ih =>
      rcases List.mem_cons.mp hTurn with rfl | hLater
      · exact List.mem_cons_self
      · split at hLater
        · exact List.mem_cons_of_mem _ (ih hLater)
        · cases hLater

theorem rule_of_mem_foldTurns
    {rounds : Nat}
    {code : String}
    {turn : Turn}
    (hTurn : turn ∈ foldTurns rounds code) :
    turn.rule ∈ booleanRules := by
  induction rounds generalizing code with
  | zero => cases hTurn
  | succ rounds ih =>
      rcases List.mem_append.mp hTurn with hHere | hLater
      · exact rule_of_mem_turns hHere
      · split at hLater
        · split_ifs at hLater
          · cases hLater
          · exact ih hLater
        · cases hLater

end Cleanup

end Devirt

------------------------------------------------------------
-- Bytes and What Shows Them
------------------------------------------------------------

namespace Devirt

open Scanner CodeMap Pattern

/- What the bytes of identifiers are like. -/
structure IsNameByte (b : UInt8) : Prop where
  ascii : b < 128
  name : isName (Char.ofNat b.toNat) = true
  word : Text.isWord (Char.ofNat b.toNat) = true ∨ b = byte '$'
  plain : IsPlain b

theorem isNameByte_of_isIdentifier
    {b : UInt8}
    (hIdentifier : isIdentifier b = true) :
    IsNameByte b := by
  have hAll :
      ∀ n : Fin 256,
        isIdentifier (UInt8.ofNat n) = true →
          UInt8.ofNat n < 128 ∧
            isName (Char.ofNat n) = true ∧
              (Text.isWord (Char.ofNat n) = true ∨
                UInt8.ofNat n = byte '$') ∧
                isQuote (UInt8.ofNat n) = false ∧
                  UInt8.ofNat n ≠ slash ∧
                    UInt8.ofNat n ≠ lineFeed := by
    decide +kernel
  have hByte := hAll ⟨b.toNat, b.toNat_lt⟩
  simp only [UInt8.ofNat_toNat] at hByte
  rcases hByte hIdentifier with
    ⟨hAscii, hName, hWord, hQuote, hSlash, hFeed⟩
  exact ⟨hAscii, hName, hWord, ⟨hQuote, hSlash, hFeed⟩⟩

/- The masked text shows ASCII bytes of code as they are. -/
theorem CodeMap.HasCode.masked_eq
    {m : CodeMap}
    {offset : Nat}
    {b : UInt8}
    (hCode : m.HasCode offset b)
    (hAscii : b < 128) :
    m.masked[offset]? = some (Char.ofNat b.toNat) := by
  unfold HasCode at hCode
  simp [masked, Array.getElem?_toList, hCode, Cell.mask, hAscii]

/- No byte that continues a name or selects a member. -/
def StandsApart (m : CodeMap) (offset : Nat) : Prop :=
  ∀ b, m.byte? offset = some b →
    isIdentifier b = false ∧ b ≠ byte '.'

/- No byte that continues a word. -/
def EndsWord (m : CodeMap) (offset : Nat) : Prop :=
  ∀ b, m.byte? offset = some b →
    isIdentifier b = false ∨ b = byte '$'

/- A separator is shown only for bytes that stand apart. -/
theorem standsApart_of_masked
    {m : CodeMap}
    {offset : Nat}
    {c : Char}
    (hShown : m.masked[offset]? = some c)
    (hSeparates : Cleanup.isSeparator c = true)
    (hCode : m.isCode offset = true) :
    StandsApart m offset := by
  intro b hByte
  have hHere : m.HasCode offset b := by
    unfold byte? at hByte
    unfold isCode at hCode
    rcases Option.map_eq_some_iff.mp hByte with
      ⟨⟨b', isCode⟩, hCell, rfl⟩
    rw [hCell] at hCode
    have hCode : isCode = true := hCode
    rw [HasCode, hCell, hCode]
  have hClass :
      b < 128 →
        isName (Char.ofNat b.toNat) = false ∧
          Char.ofNat b.toNat ≠ '.' := by
    intro hAscii
    have hSame := hHere.masked_eq hAscii
    rw [hShown] at hSame
    rw [← Option.some.inj hSame]
    simpa [Cleanup.isSeparator] using hSeparates
  refine ⟨?_, ?_⟩
  · rw [Bool.eq_false_iff]
    intro hIdentifier
    have hName := isNameByte_of_isIdentifier hIdentifier
    exact
      Bool.false_ne_true
        ((hClass hName.ascii).1.symm.trans hName.name)
  · rintro rfl
    exact (hClass (by decide)).2 (by decide)

/-
  A word that is code and ends in the masked text ends in the
  script: behind it the scanner is at the top level, where
  bytes of identifiers are shown.
-/
theorem endsWord_of_masked
    {bytes : List UInt8}
    {offset : Nat}
    {last : UInt8}
    (hLast : (ofBytes bytes).HasCode offset last)
    (hPlain : IsPlain last)
    (hShown :
      ∀ c, (ofBytes bytes).masked[offset + 1]? = some c →
        Text.isWord c = false) :
    EndsWord (ofBytes bytes) (offset + 1) := by
  intro b hByte
  cases hIdentifier : isIdentifier b with
  | false => exact Or.inl rfl
  | true =>
      have hName := isNameByte_of_isIdentifier hIdentifier
      have hTop := topAt_succ_of_hasCode hLast hPlain
      rw [byte?_eq_getElem?, bytes_ofBytes] at hByte
      have hCode :=
        (hasCode_iff_topAt hByte hName.plain).mpr hTop
      have hNoWord := hShown _ (hCode.masked_eq hName.ascii)
      rcases hName.word with hWord | hDollar
      · rw [hNoWord] at hWord
        cases hWord
      · exact Or.inr hDollar

end Devirt

------------------------------------------------------------
-- Edits of the Rules
------------------------------------------------------------

namespace Devirt

open Scanner CodeMap Pattern

namespace Cleanup

/- What is folded, and the value that comes in its place. -/
def operands : List (String × String) :=
  [ ("!![]", "true"), ("![]", "false"), ("!0", "true")
  , ("!1", "false"), ("!true", "false"), ("!false", "true") ]

/-
  An edit folds an operand that is code from the first byte to
  the last, and keeps what the masked text shows around it.
-/
structure Folds
    (m : CodeMap)
    (e : Edit)
    (operand value : String)
    (lead tail : List Char) : Prop where
  reads :
    ∀ i c, operand.toList[i]? = some c →
      m.HasCode (e.start + lead.length + i) (byte c)
  shows :
    part m.masked e.start e.stop =
      lead ++ (operand.toList ++ tail)
  isCode : m.isCodeBetween e.start e.stop = true
  writes :
    e.replacement =
      String.ofList (lead ++ (value.toList ++ tail))

/- What is shown of a part that is all code is code. -/
theorem isCode_of_part
    {m : CodeMap}
    {before chars after : List Char}
    {start stop i : Nat}
    {c : Char}
    (hCode : m.isCodeBetween start stop = true)
    (hPart :
      part m.masked start stop = before ++ (chars ++ after))
    (hChar : chars[i]? = some c) :
    m.isCode (start + before.length + i) = true := by
  have hShown := getElem?_of_part hPart hChar
  have hInside : before.length + i < stop - start := by
    have hLength := congrArg List.length hPart
    have hIndex := (List.getElem?_eq_some_iff.mp hChar).1
    simp only [part, List.length_take, List.length_append]
      at hLength
    omega
  rw [masked, List.getElem?_map] at hShown
  rcases Option.map_eq_some_iff.mp hShown with ⟨cell, hCell, -⟩
  rw [isCodeBetween, ← Array.all_toList, Array.toList_extract,
    List.all_eq_true] at hCode
  have hFlag : cell.isCode = true := by
    apply hCode
    apply List.mem_of_getElem? (i := before.length + i)
    rw [List.getElem?_take_of_lt hInside, List.getElem?_drop,
      ← Nat.add_assoc, hCell]
  rw [Array.getElem?_toList] at hCell
  simp only [isCode, hCell, hFlag]

theorem folds_of_shows
    {m : CodeMap}
    {e : Edit}
    {operand value : String}
    {lead tail : List Char}
    (hNotBlank : ' ' ∉ operand.toList)
    (hShows :
      part m.masked e.start e.stop =
        lead ++ (operand.toList ++ tail))
    (hCode : m.isCodeBetween e.start e.stop = true)
    (hWrites :
      e.replacement =
        String.ofList (lead ++ (value.toList ++ tail))) :
    Folds m e operand value lead tail := by
  refine ⟨?_, hShows, hCode, hWrites⟩
  intro i c hChar
  refine
    (hasCode_of_masked (getElem?_of_part hShows hChar) ?_).1
  rintro rfl
  exact hNotBlank (List.mem_of_getElem? hChar)

/-
  A rule with a fixed value folds the text that its pattern
  begins with, if tests are all that follows.
-/
theorem folds_of_constant
    {m : CodeMap}
    {e : Edit}
    {pattern : Pattern}
    {operand value : String}
    (hNotBlank : ' ' ∉ operand.toList)
    (hPassage :
      ∀ {here there groups found},
        Leads pattern here groups there found →
          here.rest = operand.toList ++ there.rest)
    (hEdit : e ∈ (Rule.constant pattern value).edits m) :
    Folds m e operand value [] [] := by
  rcases Rule.mem_edits hEdit with
    ⟨found, here, there, replacement, hLocated, hCode, hReplace,
      rfl⟩
  have hRest := hPassage hLocated.leads
  rcases hLocated.leads.passage with ⟨passed, hPassed⟩
  have hSame : passed = operand.toList :=
    List.append_cancel_right (hPassed.rest_eq.symm.trans hRest)
  cases hReplace
  apply folds_of_shows hNotBlank
  · simp only [List.append_nil, List.nil_append]
    rw [hLocated.start_eq, hLocated.stop_eq,
      hPassed.part_eq hLocated.onText, hSame]
  · exact hCode
  · simp

/- A negated bracket is folded wherever it stands. -/
theorem folds_of_literal
    {m : CodeMap}
    {e : Edit}
    {operand value : String}
    (hNotBlank : ' ' ∉ operand.toList)
    (hEdit :
      e ∈ (Rule.constant (literal operand) value).edits m) :
    Folds m e operand value [] [] := by
  refine folds_of_constant hNotBlank ?_ hEdit
  intro here there groups found hLeads
  exact hLeads.literal.1.rest_eq

/- A negated word is folded only where it ends. -/
theorem folds_of_word
    {bytes : List UInt8}
    {e : Edit}
    {operand value : String}
    (n : Nat)
    (last : Char)
    (hNotBlank : ' ' ∉ operand.toList)
    (hLength : operand.toList.length = n + 1)
    (hLast : operand.toList[n]? = some last)
    (hWord : Text.isWord last = true)
    (hPlain : IsPlain (byte last))
    (hEdit :
      e ∈ (Rule.constant (seq (literal operand) edge)
        value).edits (ofBytes bytes)) :
    Folds (ofBytes bytes) e operand value [] [] ∧
      EndsWord (ofBytes bytes) (e.start + (n + 1)) := by
  have hFolds :
      Folds (ofBytes bytes) e operand value [] [] := by
    refine folds_of_constant hNotBlank ?_ hEdit
    rintro here there groups found
      ⟨between, seen, hLiteral, -, rfl, -⟩
    exact hLiteral.literal.1.rest_eq
  refine ⟨hFolds, ?_⟩
  have hShown := getElem?_of_part hFolds.shows hLast
  have hCode := hFolds.reads n last hLast
  simp only [List.length_nil, Nat.add_zero] at hShown hCode
  apply endsWord_of_masked hCode hPlain
  intro c hChar
  rcases Rule.mem_edits hEdit with
    ⟨found, here, there, replacement, hLocated, -, -, rfl⟩
  rcases hLocated.leads with
    ⟨between, seen, hLiteral, hEdge, rfl, -⟩
  have hOffset : there.offset = found.start + (n + 1) := by
    rw [hLiteral.literal.1.offset_eq, hLocated.start_eq, hLength]
  have hThere := hLiteral.onText hLocated.onText
  have hBefore : there.before = some last := by
    rw [hThere.before_eq, hOffset, List.getLast?_take]
    simp [hShown]
  have hNext : there.rest.head? = some c := by
    rw [hThere.head?_rest, hOffset]
    exact hChar
  simpa [isEdge, hBefore, hNext, hWord] using hEdge

/- A negated digit is folded only where it stands apart. -/
theorem folds_of_digit
    {m : CodeMap}
    {e : Edit}
    {digit value : String}
    (hNotBlank : ' ' ∉ digit.toList)
    (hEdit : e ∈ (negatedDigit digit value).edits m) :
    ∃ lead tail,
      Folds m e digit value lead tail ∧
        (0 < e.start + lead.length →
          StandsApart m (e.start + lead.length - 1)) ∧
          StandsApart m
            (e.start + lead.length + digit.toList.length) := by
  rcases Rule.mem_edits hEdit with
    ⟨found, here, there, replacement, hLocated, hCode, hReplace,
      rfl⟩
  rcases negatedDigit_parts hLocated with ⟨lead, tail, hParts⟩
  have hFolds :
      Folds m ⟨found.start, found.stop, String.ofList replacement⟩
        digit value lead tail := by
    refine folds_of_shows hNotBlank hParts.part_eq hCode ?_
    simp only [negatedDigit, hParts.lead_eq, hParts.tail_eq]
      at hReplace
    cases hReplace
    simp
  refine ⟨lead, tail, hFolds, ?_, ?_⟩
  · intro hPositive
    rcases hParts.lead_separates with
      ⟨rfl, hStart⟩ | ⟨c, rfl, hSeparates⟩
    · simp [hStart] at hPositive
    · have hShows :
          part m.masked found.start found.stop =
            [] ++ ([c] ++ (digit.toList ++ tail)) :=
        hParts.part_eq
      have hShown := getElem?_of_part (i := 0) hShows rfl
      have hLead := isCode_of_part (i := 0) hCode hShows rfl
      exact standsApart_of_masked hShown hSeparates hLead
  · rcases hParts.tail_separates with
      ⟨rfl, hStop⟩ | ⟨c, rfl, hSeparates⟩
    · intro b hByte
      have hInside := lt_size_of_byte? hByte
      have hLength := congrArg List.length hParts.part_eq
      have hOrder := hLocated.start_le_stop
      have hSize : m.masked.length = m.size := by
        simp [masked, size]
      simp only [part, List.length_take, List.length_drop,
        List.length_append, List.length_nil] at hLength
      dsimp only at hInside
      omega
    · have hShows :
          part m.masked found.start found.stop =
            (lead ++ digit.toList) ++ ([c] ++ []) := by
        rw [hParts.part_eq]
        simp
      have hOffset :
          found.start + (lead ++ digit.toList).length + 0 =
            found.start + lead.length + digit.toList.length := by
        rw [List.length_append]
        omega
      have hShown := getElem?_of_part (i := 0) hShows rfl
      have hTail := isCode_of_part (i := 0) hCode hShows rfl
      rw [hOffset] at hShown hTail
      exact standsApart_of_masked hShown hSeparates hTail

/-
  What the rules make sure of around an operand: the sides of a
  negated digit and the end of a negated word.
-/
structure Guarded
    (m : CodeMap)
    (operand : String)
    (start : Nat) : Prop where
  digit_before :
    operand ∈ ["!0", "!1"] → 0 < start →
      StandsApart m (start - 1)
  digit_after :
    operand ∈ ["!0", "!1"] →
      StandsApart m (start + operand.toList.length)
  word_after :
    operand ∈ ["!true", "!false"] →
      EndsWord m (start + operand.toList.length)

/- Each edit of a rule folds one of the operands. -/
theorem booleanRules_guard
    {r : Rule}
    {bytes : List UInt8}
    {e : Edit}
    (hRule : r ∈ booleanRules)
    (hEdit : e ∈ r.edits (ofBytes bytes)) :
    ∃ operand value lead tail,
      (operand, value) ∈ operands ∧
        Folds (ofBytes bytes) e operand value lead tail ∧
          Guarded (ofBytes bytes) operand
            (e.start + lead.length) := by
  simp only [booleanRules, List.mem_cons, List.not_mem_nil,
    or_false] at hRule
  rcases hRule with rfl | rfl | rfl | rfl | rfl | rfl
  · refine
      ⟨"!![]", "true", [], [], by decide,
        folds_of_literal (by decide) hEdit, ?_⟩
    constructor <;> simp
  · refine
      ⟨"![]", "false", [], [], by decide,
        folds_of_literal (by decide) hEdit, ?_⟩
    constructor <;> simp
  · rcases folds_of_digit (by decide) hEdit with
      ⟨lead, tail, hFolds, hBefore, hAfter⟩
    exact
      ⟨"!0", "true", lead, tail, by decide, hFolds,
        fun _ => hBefore, fun _ => hAfter, by simp⟩
  · rcases folds_of_digit (by decide) hEdit with
      ⟨lead, tail, hFolds, hBefore, hAfter⟩
    exact
      ⟨"!1", "false", lead, tail, by decide, hFolds,
        fun _ => hBefore, fun _ => hAfter, by simp⟩
  · rcases folds_of_word 4 'e' (by decide)
        (by decide) (by decide) (by decide)
        (plain_of_char (by decide) (by decide)) hEdit with
      ⟨hFolds, hAfter⟩
    exact
      ⟨"!true", "false", [], [], by decide, hFolds, by simp,
        by simp, fun _ => hAfter⟩
  · rcases folds_of_word 5 'e' (by decide)
        (by decide) (by decide) (by decide)
        (plain_of_char (by decide) (by decide)) hEdit with
      ⟨hFolds, hAfter⟩
    exact
      ⟨"!false", "true", [], [], by decide, hFolds, by simp,
        by simp, fun _ => hAfter⟩

/-
  Folding truth values makes as many edits as it counts, one
  turn after another, and each folds an operand in the text of
  its turn.  Only digits and words are guarded.
-/
theorem foldBooleans_guards
    (code : String) :
    let all := foldTurns mostRounds code
    (∀ last count,
        foldBooleans code = .ok (last, count) →
          count = editCount all) ∧
      ∀ turn ∈ all, ∀ e ∈ turn.edits,
        let m := CodeMap.ofText turn.text
        ∃ operand value lead tail,
          (operand, value) ∈ operands ∧
            Folds m e operand value lead tail ∧
              Guarded m operand (e.start + lead.length) := by
  intro all
  refine ⟨fun last count hFold => foldRounds_count hFold, ?_⟩
  intro turn hTurn e hEdit
  exact booleanRules_guard (rule_of_mem_foldTurns hTurn) hEdit

/-
  A bracket right behind a word, and one whose element is
  negated.
-/
def returnedBracket : String :=
  "function f()\x7breturn!![]\x7d"

def negatedElement : String := "a=![][0]"

/-
  Nothing guards a negated bracket: its value runs into the
  word before it, and takes over the access behind it.
-/
theorem brackets_unguarded :
    (foldBooleans returnedBracket =
          .ok ("function f()\x7breturntrue\x7d", 1) ∧
        (∃ turn ∈ foldTurns mostRounds returnedBracket,
          turn.text = returnedBracket ∧
            turn.edits = [⟨19, 23, "true"⟩]) ∧
          (ofText returnedBracket).byte? 18 = some (byte 'n')) ∧
      foldBooleans negatedElement = .ok ("a=false[0]", 1) ∧
        (∃ turn ∈ foldTurns mostRounds negatedElement,
          turn.text = negatedElement ∧
            turn.edits = [⟨2, 5, "false"⟩]) ∧
          (ofText negatedElement).byte? 5 = some (byte '[') := by
  refine ⟨⟨?_, ?_, ?_⟩, ?_, ?_, ?_⟩
  · decide +kernel
  · exact ⟨⟨_, _⟩, List.mem_cons_self, rfl, by decide +kernel⟩
  · decide +kernel
  · decide +kernel
  · decide +kernel
  · decide +kernel

end Cleanup

end Devirt
