import Devirt.Proofs.Yaml.Documents
import Devirt.Settings.Formats

/-
  Every value is read back from the form in which it is written.

  The form of a text is chosen so that it is read as the same
  text and never as nothing.  Whole numbers and finite doubles
  are written plainly, by digits that are read as numbers again.

  Main declarations:
    * `Yaml.scalar_plain`, `Yaml.scalar_text`
    * `Yaml.scalar_natural`, `Yaml.natural?_toString`
    * `Yaml.scalar_real`, `Yaml.real?_writeReal`
-/

------------------------------------------------------------
-- Texts
------------------------------------------------------------

namespace Devirt

namespace Yaml

theorem getLast?_any_isBreak
    {cs : List Char}
    (hNoBreak : ∀ c ∈ cs, isBreak c = false) :
    cs.getLast?.any isBreak = false := by
  cases hLast : cs.getLast? with
  | none => rfl
  | some c =>
      exact hNoBreak c (List.mem_of_getLast? hLast)

/- A plain text with the end of its line. -/
theorem scalar_plain
    {cs : List Char}
    (hWords : Words cs)
    (hStarts :
      ∀ rest, startsPlain false (cs ++ '\n' :: rest) = true)
    (hMark :
      ∀ mark ∈ ['-', '?'], ∀ rest line column,
        Place.atIndicator mark ⟨cs ++ '\n' :: rest, line, column⟩ =
          false)
    (hPrintable : ∀ c ∈ cs, isPrintable c = true) :
    Scalar (cs ++ ['\n']) .plain (String.ofList cs) := by
  refine ⟨⟨?_, ?_⟩, ?_, ?_⟩
  · rcases hWords.begins with ⟨c, more, rfl, hSolid, -⟩
    refine ⟨c, more ++ ['\n'], rfl, hSolid, ?_⟩
    intro d hMember
    apply (starts_other (hStarts [])).2
    simp only [List.mem_cons, List.not_mem_nil, or_false]
      at hMember
    rcases hMember with rfl | rfl | rfl <;> simp
  · intro mark hMember rest line column
    rw [List.append_assoc]
    exact hMark mark hMember rest line column
  · intro fuel rest line column hAhead hColumn
    refine ⟨nextPlace (line + 1) rest, true, line + 1, ?_,
      hAhead.skipGap_nextPlace _⟩
    have hRead :=
      readPlain_words line hWords hAhead (by decide) hColumn
    have hDash := hMark '-' (by simp) rest line column
    have hStart := hStarts rest
    rw [List.append_assoc, List.singleton_append]
    rcases hWords.begins with ⟨c, more, rfl, -⟩
    exact
      inlineNode_plain 3 fuel (atEnd_behind _ _ (by omega)) hDash
        hStart hRead
  · intro c hMember
    rcases List.mem_append.mp hMember with hText | hEnd
    · exact hPrintable c hText
    · rw [List.mem_singleton.mp hEnd]
      rfl

/- A text that is quoted, with the end of its line. -/
theorem scalar_quoted
    {c : Char}
    {cs : List Char}
    {value : String}
    (hQuote : c = '\'' ∨ c = '"')
    (hRead :
      ∀ fuel rest line column,
        3 ≤ column →
          ∃ l k,
            (inlineNode 3 fuel {}).run
                ⟨⟨c :: (cs ++ '\n' :: rest), line, column⟩, false,
                  [], []⟩ =
              some
                (.scalar .quoted none value,
                  ⟨⟨'\n' :: rest, l, k⟩, false, [], []⟩))
    (hPrintable : ∀ d ∈ c :: cs, isPrintable d = true) :
    Scalar (c :: (cs ++ ['\n'])) .quoted value := by
  refine ⟨⟨⟨c, cs ++ ['\n'], rfl, ?_, ?_⟩, ?_⟩, ?_, ?_⟩
  · rcases hQuote with rfl | rfl <;> rfl
  · rcases hQuote with rfl | rfl <;> simp
  · intro mark hMember rest line column
    simp only [List.mem_cons, List.not_mem_nil, or_false]
      at hMember
    rcases hQuote with rfl | rfl <;>
      rcases hMember with rfl | rfl <;> rfl
  · intro fuel rest line column hAhead hColumn
    rcases hRead fuel rest line column hColumn with
      ⟨l, k, hNode⟩
    refine
      ⟨_, _, l + 1, ?_, hAhead.skipGap_break false l k⟩
    rw [List.cons_append, List.append_assoc,
      List.singleton_append]
    exact hNode
  · intro d hMember
    rw [← List.cons_append] at hMember
    rcases List.mem_append.mp hMember with hText | hEnd
    · exact hPrintable d hText
    · rw [List.mem_singleton.mp hEnd]
      rfl

theorem scalar_single
    {cs : List Char}
    (hText : Quotable cs) :
    Scalar (writeSingle 4 cs ++ ['\n']) .quoted
      (String.ofList cs) := by
  have hWritten := writeSingle_eq 4 cs
  rw [hWritten]
  apply scalar_quoted (Or.inl rfl)
  · intro fuel rest line column hColumn
    rcases readSingle_text rest line column hText
        (show 0 < 4 by decide) with ⟨l, k, hRead⟩
    rw [hWritten] at hRead
    exact
      ⟨l, k, inlineNode_single 3 fuel (by omega) hRead⟩
  · intro d hMember
    simp only [List.mem_cons, List.mem_append,
      List.not_mem_nil, or_false] at hMember
    rcases hMember with rfl | hMember | rfl
    · rfl
    · rcases mem_singleText hMember with hOwn | rfl | rfl
      · exact hText.printable d hOwn
      · rfl
      · rfl
    · rfl

theorem scalar_double
    (cs : List Char) :
    Scalar (writeDouble cs ++ ['\n']) .quoted
      (String.ofList cs) := by
  have hWritten :
      writeDouble cs = '"' :: (cs.flatMap escapeChar ++ ['"']) :=
    rfl
  rw [hWritten]
  apply scalar_quoted (Or.inr rfl)
  · intro fuel rest line column hColumn
    rcases readDouble_text cs ('\n' :: rest) line column with
      ⟨k, hRead⟩
    rw [hWritten] at hRead
    exact
      ⟨line, k, inlineNode_double 3 fuel (by omega) hRead⟩
  · intro d hMember
    simp only [List.mem_cons, List.mem_append, List.mem_flatMap,
      List.not_mem_nil, or_false] at hMember
    rcases hMember with rfl | ⟨b, -, hEscape⟩ | rfl
    · rfl
    · exact printable_escapeChar hEscape
    · rfl

theorem printable_hintsOf
    {cs : List Char}
    {d : Char}
    (hMember : d ∈ hintsOf 2 cs) :
    isPrintable d = true := by
  have hDigits : Nat.toDigits 10 2 = ['2'] := rfl
  unfold hintsOf at hMember
  dsimp only at hMember
  rw [hDigits] at hMember
  split_ifs at hMember <;> simp at hMember
  all_goals (rcases hMember with rfl | rfl) <;> rfl

theorem scalar_literal
    {cs : List Char}
    (hSome : cs ≠ [])
    (hPrintable : ∀ c ∈ cs, isPrintable c = true) :
    Scalar
      ('|' :: (hintsOf 2 cs ++ '\n' :: moved 4 true (closed cs)))
      .literal (String.ofList cs) := by
  have hTab : cs.head? ≠ some '\t' := by
    intro hFirst
    have hOther := hPrintable '\t' (List.mem_of_head? hFirst)
    exact absurd hOther (by decide)
  refine ⟨⟨⟨'|', _, rfl, rfl, by simp⟩, ?_⟩, ?_, ?_⟩
  · intro mark hMember rest line column
    simp only [List.mem_cons, List.not_mem_nil, or_false]
      at hMember
    rcases hMember with rfl | rfl <;> rfl
  · intro fuel rest line column hAhead hColumn
    rcases readBlock_text line column hSome hTab hAhead with
      ⟨l, hRead⟩
    refine ⟨nextPlace l rest, true, l, ?_,
      hAhead.skipGap_nextPlace l⟩
    rw [List.cons_append, List.append_assoc, List.cons_append]
    exact inlineNode_literal 3 fuel hRead
  · intro d hMember
    simp only [List.mem_cons, List.mem_append] at hMember
    rcases hMember with rfl | hHint | rfl | hMoved
    · rfl
    · exact printable_hintsOf hHint
    · rfl
    · rcases mem_moved hMoved with hClosed | rfl
      · rcases mem_closed hClosed with hOwn | rfl
        · exact hPrintable d hOwn
        · rfl
      · rfl

theorem not_gapAhead
    {cs : List Char}
    (rest : List Char)
    (hSolid : gapAhead cs = false) :
    gapAhead (cs ++ rest) = false := by
  cases cs with
  | nil => cases hSolid
  | cons c cs => exact hSolid

/- The signs that may begin a plain text are not alone. -/
theorem startsPlain_of_body
    {c : Char}
    {cs : List Char}
    (hSolid : isGap c = false)
    (hIndicator : beginsWithIndicator (c :: cs) = false)
    (hColon : c = ':' → gapAhead cs = false)
    (hDash : c ≠ '-')
    (rest : List Char) :
    startsPlain false (c :: (cs ++ rest)) = true := by
  by_cases hPlain : isIndicator c = true
  · have hAsk : c = '?' ∨ c = ':' := by
      simp only [beginsWithIndicator, Bool.or_eq_false_iff,
        List.contains_eq_mem, decide_eq_false_iff_not,
        List.mem_cons, List.not_mem_nil, or_false, not_or]
        at hIndicator
      simp only [isIndicator, isFlowIndicator, Bool.or_eq_true,
        List.contains_eq_mem, List.mem_cons, List.not_mem_nil,
        or_false, decide_eq_true_eq] at hPlain
      grind
    have hNext : gapAhead cs = false := by
      rcases hAsk with rfl | rfl
      · simp [beginsWithIndicator] at hIndicator
        exact hIndicator
      · exact hColon rfl
    have hMark : (c == '?' || c == ':') = true := by
      simpa using hAsk
    simp [startsPlain, hMark, not_gapAhead rest hNext]
  · simp [startsPlain, hSolid, hPlain]

/- A plain text begins like one. -/
theorem startsPlain_text
    {cs : List Char}
    (hClear : isAmbiguous cs = false)
    (hPlain : isPlainText cs = true)
    (rest : List Char) :
    startsPlain false (cs ++ '\n' :: rest) = true ∧
      ∀ mark ∈ ['-', '?'], ∀ line column,
        Place.atIndicator mark ⟨cs ++ '\n' :: rest, line, column⟩ =
          false := by
  cases cs with
  | nil => exact absurd hClear (by decide)
  | cons c cs =>
      have hBody := plainBody_of_isPlainText (by simp) hPlain
      have hIndicator : beginsWithIndicator (c :: cs) = false := by
        simp only [isPlainText, Bool.and_eq_true,
          Bool.not_eq_true'] at hPlain
        exact hPlain.1.2
      have hDash : c ≠ '-' := by
        rintro rfl
        simp [isAmbiguous] at hClear
      have hSolid : isGap c = false := by
        by_contra hGap
        rw [Bool.not_eq_false] at hGap
        exact
          (hBody.head c (by simp)).1 (hBody.blank c (by simp) hGap)
      refine ⟨?_, ?_⟩
      · apply startsPlain_of_body hSolid hIndicator _ hDash
        rintro rfl
        cases cs with
        | nil => exact absurd rfl hBody.lastColon
        | cons d cs =>
            exact hasPair_inside [] hBody.colon rfl
      · intro mark hMember line column
        simp only [List.mem_cons, List.not_mem_nil, or_false]
          at hMember
        rcases hMember with rfl | rfl
        · simp [Place.atIndicator, hDash]
        · by_cases hAsk : c = '?'
          · subst hAsk
            have hNext : gapAhead cs = false := by
              simpa [beginsWithIndicator] using hIndicator
            simp [Place.atIndicator, not_gapAhead _ hNext]
          · simp [Place.atIndicator, hAsk]

theorem not_isNull
    {s : String}
    (hClear : isAmbiguous s.toList = false) :
    s.isEmpty = false ∧ isNull s = false := by
  refine ⟨?_, ?_⟩
  · by_contra hEmpty
    rw [Bool.not_eq_false, String.isEmpty_iff] at hEmpty
    subst hEmpty
    exact absurd hClear (by decide)
  · by_contra hNull
    simp only [isNull, Bool.not_eq_false, List.contains_eq_mem,
      List.mem_cons, List.not_mem_nil, or_false,
      decide_eq_true_eq] at hNull
    rcases hNull with rfl | rfl | rfl | rfl <;>
      exact absurd hClear (by decide)

/- What each form needs is what it is chosen for. -/
theorem formOf_spec
    (cs : List Char) :
    match formOf cs with
    | .plain => isAmbiguous cs = false ∧ isPlainText cs = true
    | .single => Quotable cs
    | .double => True
    | .literal => cs ≠ [] ∧ ∀ c ∈ cs, isPrintable c = true := by
  unfold formOf
  dsimp only
  split_ifs with hFeed hLiteral hPlain hSingle
  · simp only [Bool.and_eq_true, List.all_eq_true] at hLiteral
    refine ⟨?_, hLiteral.1.1⟩
    rintro rfl
    simp at hFeed
  · trivial
  · simpa using hPlain
  · simp only [Bool.and_eq_true, List.all_eq_true,
      Bool.not_eq_true'] at hSingle
    exact
      ⟨hSingle.1.1, by simpa using hFeed, hSingle.1.2, hSingle.2⟩
  · trivial

theorem getLast?_quoted
    (cs : List Char)
    {c : Char}
    (hQuote : isBreak c = false) :
    (cs ++ [c]).getLast?.any isBreak = false := by
  simp [hQuote]

/- The written lines end where the text ends. -/
theorem closed_literal
    {cs : List Char}
    (hSome : cs ≠ []) :
    (if (writeLiteral 2 4 cs).getLast?.any isBreak then
      writeLiteral 2 4 cs
    else
      writeLiteral 2 4 cs ++ ['\n']) =
      '|' :: (hintsOf 2 cs ++
        '\n' :: moved 4 true (closed cs)) := by
  have hWritten :
      writeLiteral 2 4 cs =
        ('|' :: (hintsOf 2 cs ++ ['\n'])) ++ moved 4 true cs := by
    simp [writeLiteral, moved]
  have hEnd :
      (writeLiteral 2 4 cs).getLast? = cs.getLast? := by
    rw [hWritten,
      List.getLast?_append_of_ne_nil _ (moved_ne_nil 4 true hSome),
      getLast?_moved 4 true hSome]
  rw [hEnd, closed]
  split_ifs
  · simp [hWritten]
  · rw [moved_append_break 4 true cs rfl, hWritten]
    simp

/-
  Every text is read back, and a text that is written plainly
  does not stand for nothing.
-/
theorem scalar_text
    (s : String) :
    ∃ style,
      Scalar (writeText 1 s).toList style s ∧
        (style = .plain → s.isEmpty = false ∧ isNull s = false) := by
  have hForm := formOf_spec s.toList
  unfold writeText
  dsimp only
  rw [String.toList_ofList]
  cases hChosen : formOf s.toList with
  | plain =>
      rw [hChosen] at hForm
      rcases hForm with ⟨hClear, hPlain⟩
      have hNull := not_isNull hClear
      have hBody :=
        plainBody_of_isPlainText
          (by simpa using String.isEmpty_eq_false_iff.mp hNull.1)
          hPlain
      have hAll :
          ∀ c ∈ s.toList,
            isPrintable c = true ∧ isBreak c = false := by
        simp only [isPlainText, Bool.and_eq_true,
          List.all_eq_true, Bool.not_eq_true'] at hPlain
        exact hPlain.1.1.1.1
      refine ⟨.plain, ?_, fun _ => hNull⟩
      have hScalar :=
        scalar_plain hBody.words
          (fun rest => (startsPlain_text hClear hPlain rest).1)
          (fun mark hMember rest =>
            (startsPlain_text hClear hPlain rest).2 mark hMember)
          (fun c hMember => (hAll c hMember).1)
      rw [String.ofList_toList] at hScalar
      dsimp only
      rw [getLast?_any_isBreak (fun c hMember => (hAll c hMember).2)]
      exact hScalar
  | single =>
      rw [hChosen] at hForm
      have hScalar := scalar_single hForm
      rw [String.ofList_toList] at hScalar
      refine ⟨.quoted, ?_, by simp⟩
      have hEnd :
          (writeSingle 4 s.toList).getLast?.any isBreak = false := by
        rw [writeSingle_eq, ← List.cons_append]
        exact getLast?_quoted _ rfl
      dsimp only
      have hColumn : indentStep * (1 + 1) = 4 := rfl
      rw [hColumn, hEnd]
      exact hScalar
  | double =>
      have hScalar := scalar_double s.toList
      rw [String.ofList_toList] at hScalar
      refine ⟨.quoted, ?_, by simp⟩
      have hEnd :
          (writeDouble s.toList).getLast?.any isBreak = false :=
        getLast?_quoted _ rfl
      dsimp only
      rw [hEnd]
      exact hScalar
  | literal =>
      rw [hChosen] at hForm
      have hScalar := scalar_literal hForm.1 hForm.2
      rw [String.ofList_toList, ← closed_literal hForm.1] at hScalar
      exact ⟨.literal, hScalar, by simp⟩

end Yaml

end Devirt

------------------------------------------------------------
-- Numbers
------------------------------------------------------------

namespace Devirt

namespace Yaml

open Decimal (Numeral Digits natOfDigits takeWhile_run)

/- The characters of numerals. -/
def isNumeral (c : Char) : Bool :=
  c.isDigit || ['.', 'e', '+', '-'].contains c

theorem isDigit_ne
    {c d : Char}
    (hDigit : c.isDigit = true)
    (hOther : d.isDigit = false) :
    c ≠ d := by
  rintro rfl
  simp [hDigit] at hOther

theorem isGap_of_isDigit
    {c : Char}
    (hDigit : c.isDigit = true) :
    isGap c = false := by
  have hBlank : c ≠ ' ' := isDigit_ne hDigit rfl
  have hTab : c ≠ '\t' := isDigit_ne hDigit rfl
  have hFeed : c ≠ '\n' := isDigit_ne hDigit rfl
  have hLine : c ≠ '\u2028' := isDigit_ne hDigit rfl
  have hPart : c ≠ '\u2029' := isDigit_ne hDigit rfl
  simp [isGap, isSpace, isBreak, hBlank, hTab, hFeed, hLine, hPart]

theorem isIndicator_of_isDigit
    {c : Char}
    (hDigit : c.isDigit = true) :
    isIndicator c = false := by
  by_contra hIndicator
  simp only [isIndicator, isFlowIndicator, Bool.not_eq_false,
    Bool.or_eq_true, List.contains_eq_mem, List.mem_cons,
    List.not_mem_nil, or_false, decide_eq_true_eq] at hIndicator
  rcases hIndicator with
    (rfl | rfl | rfl | rfl | rfl) |
      (rfl | rfl | rfl | rfl | rfl | rfl | rfl | rfl | rfl | rfl |
        rfl | rfl | rfl | rfl) <;>
    exact absurd hDigit (by decide)

theorem isPrintable_of_isDigit
    {c : Char}
    (hDigit : c.isDigit = true) :
    isPrintable c = true := by
  simp only [Char.isDigit, Bool.and_eq_true, decide_eq_true_eq,
    UInt32.le_iff_toNat_le] at hDigit
  have hLow : 48 ≤ c.toNat := hDigit.1
  have hHigh : c.toNat ≤ 57 := hDigit.2
  exact isPrintable_ascii (by omega) (by omega)

theorem isNumeral_spec
    {c : Char}
    (hNumeral : isNumeral c = true) :
    isGap c = false ∧ isPrintable c = true ∧ c ≠ ':' ∧
      c ≠ '#' := by
  simp only [isNumeral, Bool.or_eq_true, List.contains_eq_mem,
    List.mem_cons, List.not_mem_nil, or_false,
    decide_eq_true_eq] at hNumeral
  rcases hNumeral with hDigit | rfl | rfl | rfl | rfl
  · exact
      ⟨isGap_of_isDigit hDigit, isPrintable_of_isDigit hDigit,
        isDigit_ne hDigit rfl, isDigit_ne hDigit rfl⟩
  · decide
  · decide
  · decide
  · decide

/- A numeral is a plain text of one word. -/
theorem scalar_numeral
    (minus : Bool)
    {c : Char}
    {cs : List Char}
    (hDigit : c.isDigit = true)
    (hAll : ∀ d ∈ cs, isNumeral d = true) :
    Scalar
      ((if minus then ['-'] else []) ++ c :: cs ++ ['\n']) .plain
      (String.ofList ((if minus then ['-'] else []) ++ c :: cs)) := by
  have hMembers :
      ∀ d ∈ (if minus then ['-'] else []) ++ c :: cs,
        isNumeral d = true := by
    intro d hMember
    rcases List.mem_append.mp hMember with hSign | hRest
    · cases minus with
      | true => exact List.mem_singleton.mp hSign ▸ rfl
      | false => cases hSign
    · rcases List.mem_cons.mp hRest with rfl | hOther
      · simp [isNumeral, hDigit]
      · exact hAll d hOther
  have hWord :
      Word ((if minus then ['-'] else []) ++ c :: cs) := by
    refine
      ⟨by simp, fun d hMember => (isNumeral_spec
        (hMembers d hMember)).1, ?_, ?_⟩
    · intro hHash
      exact
        (isNumeral_spec (hMembers _
          (List.mem_of_head? hHash))).2.2.2 rfl
    · intro hColon
      exact
        (isNumeral_spec (hMembers _
          (List.mem_of_getLast? hColon))).2.2.1 rfl
  have hSolid := isGap_of_isDigit hDigit
  have hSpace := (not_isGap hSolid).2.1
  have hDash : c ≠ '-' := isDigit_ne hDigit rfl
  have hAsk : c ≠ '?' := isDigit_ne hDigit rfl
  apply scalar_plain (Words.last hWord)
  · intro rest
    cases minus with
    | true => simp [startsPlain, hSpace]
    | false =>
        simp [startsPlain, hSolid, isIndicator_of_isDigit hDigit]
  · intro mark hMember rest line column
    simp only [List.mem_cons, List.not_mem_nil, or_false]
      at hMember
    cases minus with
    | true =>
        rcases hMember with rfl | rfl <;>
          simp [Place.atIndicator, gapAhead, hSolid]
    | false =>
        rcases hMember with rfl | rfl <;>
          simp [Place.atIndicator, hDash, hAsk]
  · intro d hMember
    exact (isNumeral_spec (hMembers d hMember)).2.1

theorem isNumeral_of_isDigit
    {c : Char}
    (hDigit : c.isDigit = true) :
    isNumeral c = true := by
  simp [isNumeral, hDigit]

theorem scalar_natural
    (n : Nat) :
    Scalar (toString n ++ "\n").toList .plain (toString n) := by
  have hText : (toString n).toList = Nat.toDigits 10 n :=
    Nat.toList_repr
  have hDigits : ∀ c ∈ Nat.toDigits 10 n, c.isDigit = true :=
    fun c hMember => Json.isDigit_toDigits hMember
  rcases Json.exists_toDigits_isDigit n with ⟨d, ds, hCons, hDigit⟩
  rw [hCons] at hDigits
  have hRest : ∀ c ∈ ds, isNumeral c = true :=
    fun c hMember =>
      isNumeral_of_isDigit (hDigits c (by simp [hMember]))
  have hScalar := scalar_numeral false hDigit hRest
  rw [String.toList_append, hText]
  simp only [Bool.false_eq_true, if_false, List.nil_append]
    at hScalar
  rw [← hCons, ← hText, String.ofList_toList] at hScalar
  rw [← hText]
  exact hScalar

theorem decimal_digit
    {c : Char}
    (hDigit : c.isDigit = true) :
    (Literal.hexValue? c).filter (· < 10) =
      some (c.toNat - '0'.toNat) := by
  have hRange : ('0' ≤ c && c ≤ '9') = true := hDigit
  have hHigh : c.toNat ≤ 57 := by
    simp only [Char.isDigit, Bool.and_eq_true, decide_eq_true_eq,
      UInt32.le_iff_toNat_le] at hDigit
    exact hDigit.2
  have hZero : '0'.toNat = 48 := rfl
  simp only [Literal.hexValue?, hRange, if_true,
    Option.filter_some, decide_eq_true_eq]
  rw [if_pos (by omega)]

/- Digits are added up from the first to the last. -/
theorem foldl_digits
    {ds : List Char}
    (start : Nat)
    (hDigits : ∀ c ∈ ds, c.isDigit = true) :
    ds.foldl
        (fun (acc : Option Nat) c => do
          let n ← acc
          let d ← (Literal.hexValue? c).filter (· < 10)
          pure (10 * n + d))
        (some start) =
      some (Nat.ofDigitChars 10 ds start) := by
  induction ds generalizing start with
  | nil => rfl
  | cons d ds ih =>
      have hFirst := decimal_digit (hDigits d (by simp))
      have hRest :=
        ih (10 * start + (d.toNat - '0'.toNat))
          (fun c hMember => hDigits c (by simp [hMember]))
      rw [List.foldl_cons, Nat.ofDigitChars_cons, ← hRest]
      simp [hFirst]

/- A number below the bound of words is read back. -/
theorem natural?_toString
    {n : Nat}
    (hFits : n < 2 ^ 64) :
    natural? (toString n) = some n := by
  have hText : (toString n).toList = Nat.toDigits 10 n :=
    Nat.toList_repr
  have hDigits : ∀ c ∈ Nat.toDigits 10 n, c.isDigit = true :=
    fun c hMember => Json.isDigit_toDigits hMember
  have hRead : inBase? 10 (Nat.toDigits 10 n) = some n := by
    have hWord : n < Literal.wordBound := hFits
    have hSome : (Nat.toDigits 10 n).isEmpty = false := by
      simp [Nat.toDigits_ne_nil]
    simp only [inBase?, Literal.wordOfDigits?, hSome,
      foldl_digits 0 hDigits, Nat.ofDigitChars_ten_toDigits, hWord]
    rfl
  unfold natural?
  rw [hText]
  rcases Nat.eq_zero_or_pos n with rfl | hPositive
  · rfl
  · rcases Json.exists_toDigits_cons hPositive with
      ⟨d, ds, hCons, hLead⟩
    rw [hCons] at hDigits hRead ⊢
    have hPlus : d ≠ '+' := isDigit_ne (hDigits d (by simp)) rfl
    have hPlain :
        Literal.withoutPlus (d :: ds) = d :: ds := by
      unfold Literal.withoutPlus
      split <;> simp_all
    have hNeedless : hasNeedlessZero (d :: ds) = false := by
      unfold hasNeedlessZero
      split <;> simp_all
    rw [hPlain]
    split
    · simp_all
    · simp_all
    · simp_all
    · rw [hNeedless]
      exact hRead

section Reals

variable {n : Numeral}
variable {d : Digits}

theorem isNumeral_text
    (hWrites : n.Writes d) :
    ∀ c ∈ n.text, isNumeral c = true := by
  intro c hMember
  simp only [Numeral.text, List.mem_append] at hMember
  rcases hMember with hWhole | hPoint | hPower
  · exact isNumeral_of_isDigit (hWrites.wholeDigits c hWhole)
  · unfold Numeral.pointText at hPoint
    split_ifs at hPoint
    · cases hPoint
    · rcases List.mem_cons.mp hPoint with rfl | hFraction
      · rfl
      · exact
          isNumeral_of_isDigit (hWrites.fractionDigits c hFraction)
  · unfold Numeral.powerText at hPower
    split at hPower
    · cases hPower
    · next mark e hSome =>
        have hMark := hWrites.mark _ hSome
        simp only [List.mem_cons, List.mem_append] at hPower
        rcases hPower with rfl | hSign | hDigit
        · rfl
        · rcases hMark with rfl | rfl | rfl
          · exact List.mem_singleton.mp hSign ▸ rfl
          · exact List.mem_singleton.mp hSign ▸ rfl
          · cases hSign
        · exact isNumeral_of_isDigit (Json.isDigit_toDigits hDigit)

theorem exponent?_power
    (hWrites : n.Writes d) :
    exponent? n.powerText = some n.powerValue := by
  unfold Numeral.powerText Numeral.powerValue
  split
  · rfl
  · next mark e hSome =>
      have hValue : natOfDigits (Nat.toDigits 10 e) = e :=
        Nat.ofDigitChars_ten_toDigits
      have hNotEmpty : (Nat.toDigits 10 e).isEmpty = false := by
        simp [Nat.toDigits_ne_nil]
      have hAll :
          (Nat.toDigits 10 e).all Literal.isDigit = true :=
        List.all_eq_true.mpr fun c hMember =>
          Json.isDigit_toDigits hMember
      rcases hWrites.mark _ hSome with hMark | hMark | hMark
      · dsimp only at hMark
        subst hMark
        simp [exponent?, takeSign, hNotEmpty, hAll, hValue]
      · dsimp only at hMark
        subst hMark
        simp [exponent?, takeSign, hNotEmpty, hAll, hValue]
      · dsimp only at hMark
        subst hMark
        have hSign :
            takeSign (Nat.toDigits 10 e) =
              (false, Nat.toDigits 10 e) := by
          rcases Json.exists_toDigits_isDigit e with
            ⟨c, cs, hCons, hDigit⟩
          rw [hCons]
          unfold takeSign
          split
          · simp_all
            exact absurd hDigit (by decide)
          · simp_all
            exact absurd hDigit (by decide)
          · rfl
        simp [exponent?, hSign, hNotEmpty, hAll, hValue]

/- A numeral in reach is read as a double. -/
theorem numeral?_text
    (hWrites : n.Writes d)
    (hFinite : d.Finite) :
    ∃ x, numeral? n.text = some x := by
  have hFollows :
      ∀ c ∈ (n.pointText ++ n.powerText).head?,
        Literal.isDigit c = false := by
    rcases hWrites.follows [] with ⟨c, cs, hFirst, hMark⟩
    rw [List.append_nil] at hFirst
    rw [hFirst]
    rcases hMark with rfl | rfl <;> simp [Literal.isDigit]
  rcases takeWhile_run (p := Literal.isDigit) hWrites.wholeDigits
      hFollows with ⟨hWhole, hRest⟩
  have hSome : n.whole.isEmpty = false := by
    rcases hWrites.lead with hZero | ⟨c, cs, hCons, -⟩
    · rw [hZero]
      rfl
    · rw [hCons]
      rfl
  have hInf :
      (Decimal.ofNumeral n.whole n.fraction n.powerValue).isInf =
        false := by
    apply Decimal.isInf_ofScaled hWrites.small
    change (n.significand : ℚ) * 10 ^ n.exponent < Double.overflow
    rw [hWrites.value]
    exact hFinite.below
  have hPower := exponent?_power hWrites
  refine
    ⟨Decimal.ofNumeral n.whole n.fraction n.powerValue, ?_⟩
  unfold numeral? Numeral.text
  rw [hWhole, hRest]
  by_cases hNone : n.fraction = []
  · have hPoint : n.pointText = [] := by
      simp [Numeral.pointText, hNone]
    rcases hWrites.follows [] with ⟨c, cs, hFirst, hMark⟩
    rw [hPoint, List.nil_append, List.append_nil] at hFirst
    have hOther : c ≠ '.' := by
      rintro rfl
      unfold Numeral.powerText at hFirst
      split at hFirst <;> simp at hFirst
    rw [hNone] at hInf ⊢
    rw [hFirst] at hPower
    simp [hPoint, hFirst, hOther, hPower, hSome, hInf]
  · have hPoint : n.pointText = '.' :: n.fraction := by
      simp [Numeral.pointText, hNone]
    have hStops :
        ∀ c ∈ n.powerText.head?, Literal.isDigit c = false := by
      unfold Numeral.powerText
      split <;> simp [Literal.isDigit]
    rcases takeWhile_run (p := Literal.isDigit)
        hWrites.fractionDigits hStops with ⟨hTake, hDrop⟩
    simp [hPoint, hTake, hDrop, hPower, hSome, hInf]

end Reals

theorem realStyle_isReal : realStyle.IsReal :=
  ⟨rfl, Int.le_refl _⟩

theorem scalar_real
    {x : Float}
    (hNumber : x.isNaN = false)
    (hFinite : x.isInf = false) :
    Scalar (writeReal x ++ "\n").toList .plain (writeReal x) := by
  rcases Decimal.Style.write_parts realStyle_isReal hNumber
      hFinite with ⟨minus, n, d, hText, hWrites, -⟩
  change (writeReal x).toList = _ at hText
  have hAll := isNumeral_text hWrites
  rcases hWrites.begins with ⟨c, cs, hBegins, hDigit⟩
  rw [hBegins] at hText hAll
  have hRest : ∀ d ∈ cs, isNumeral d = true :=
    fun d hMember => hAll d (by simp [hMember])
  have hScalar := scalar_numeral minus hDigit hRest
  rw [← hText, String.ofList_toList] at hScalar
  rw [String.toList_append]
  exact hScalar

/- A finite double is read as some double. -/
theorem real?_writeReal
    {x : Float}
    (hNumber : x.isNaN = false)
    (hFinite : x.isInf = false) :
    ∃ y, real? (writeReal x) = some y := by
  rcases Decimal.Style.write_parts realStyle_isReal hNumber
      hFinite with ⟨minus, n, d, hText, hWrites, hDigits⟩
  change (writeReal x).toList = _ at hText
  rcases numeral?_text hWrites hDigits with ⟨y, hRead⟩
  rcases hWrites.begins with ⟨c, cs, hBegins, hDigit⟩
  have hSign :
      takeSign (writeReal x).toList = (minus, n.text) := by
    rw [hText]
    cases minus with
    | true => rfl
    | false =>
        have hPlus : c ≠ '+' := isDigit_ne hDigit rfl
        have hMinus : c ≠ '-' := isDigit_ne hDigit rfl
        simp [hBegins, takeSign, hPlus, hMinus]
  have hOther :
      ∀ names : List String,
        (∀ s ∈ names, (takeSign s.toList).2.head? = some '.') →
          names.contains (writeReal x) = false := by
    intro names hPoint
    simp only [List.contains_eq_mem, decide_eq_false_iff_not]
    intro hMember
    have hFirst := hPoint _ hMember
    rw [hSign, hBegins] at hFirst
    cases hFirst
    exact absurd hDigit (by decide)
  refine ⟨if minus then -y else y, ?_⟩
  unfold real?
  rw [hOther _ (by decide), hOther _ (by decide),
    hOther _ (by decide)]
  simp [hSign, hRead]

/- The word for nothing. -/
theorem scalar_null :
    Scalar "null\n".toList .plain "null" := by
  have hWord : Word ['n', 'u', 'l', 'l'] :=
    ⟨by simp, by simp [isGap, isSpace, isBreak], by simp,
      by simp⟩
  refine
    scalar_plain (Words.last hWord) (fun rest => rfl) ?_
      (by simp [isPrintable])
  intro mark hMember rest line column
  simp only [List.mem_cons, List.not_mem_nil, or_false]
    at hMember
  rcases hMember with rfl | rfl <;> rfl

end Yaml

end Devirt
