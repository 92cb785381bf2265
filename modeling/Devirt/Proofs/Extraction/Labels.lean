import Devirt.Proofs.Json.Scalars
import Devirt.Proofs.Script.Literals
import Devirt.Script.Render

/-
  The labels of cases, and the texts that they show as.

  A label is a literal, or stands for the default case.  Digits
  that are read as a number mean the same number to a script,
  octal ones excepted.  Any label that is no string shows as its
  number or as it is written, and such a title belongs to one
  label alone, except that the default case shows as its place.

  Main declarations:
    * `Literal.number?_agrees`
    * `CaseLabel`, `CaseLabel.ofText?`
    * `CaseLabel.ofText?_string`, `CaseLabel.ofText?_numeral`
    * `Script.Tree.writeUnits_inj`
    * `CaseLabel.Titled`, `CaseLabel.Titled.cases_same`
-/

------------------------------------------------------------
-- Two Readers of Numerals
------------------------------------------------------------

namespace Devirt

open Pattern Script Script.Lexer

namespace Script.Lexer

/- Octal digits behind a zero, as numerals were once written. -/
def isOctal : List Char → Bool
  | '0' :: ds => !ds.isEmpty && ds.all fun c => (octalValue? c).isSome
  | _ => false

theorem noWordAhead_point
    (fraction : List Char) :
    NoWordAhead ('.' :: fraction) := by
  rintro c hHead -
  cases hHead
  decide

theorem afterWhole_fraction
    {fraction : List Char}
    (whole : List Char)
    (isLegacy : Bool)
    (hFraction : ∀ c ∈ fraction, isDigit c = true) :
    afterWhole whole isLegacy ('.' :: fraction) =
      some
        (.number (Decimal.ofNumeral whole fraction 0) isLegacy,
          []) := by
  have hEnd : NoWordAhead [] := by
    intro c hHead
    cases hHead
  have hRun := digitRun_isDigit hFraction hEnd
  rw [List.append_nil] at hRun
  simp [afterWhole, hRun, exponentPart, closeNumber, endsNumber]

/- Digits with a point among them are one number, if not octal. -/
theorem number?_point
    {whole fraction : List Char}
    {token : Token}
    (hWhole : ∀ c ∈ whole, isDigit c = true)
    (hFraction : ∀ c ∈ fraction, isDigit c = true)
    (hRead : number? (whole ++ '.' :: fraction) = some (token, [])) :
    ∃ isLegacy,
      token =
        .number (Decimal.ofNumeral whole fraction 0) isLegacy := by
  have hNext := noWordAhead_point fraction
  have hPlain :
      (whole = [] ∨
          whole = ['0'] ∨ ∃ d ds, whole = d :: ds ∧ d ≠ '0') →
        number? (whole ++ '.' :: fraction) =
          afterWhole whole false ('.' :: fraction) := by
    rintro (rfl | hLead)
    · rfl
    · exact number?_plain hWhole hLead hNext
  by_cases hLegacy : ∃ ds, whole = '0' :: ds ∧ ds ≠ []
  · obtain ⟨ds, rfl, hSome⟩ := hLegacy
    rw [List.cons_append,
      number?_legacy
        (fun c hMember => hWhole c (List.mem_cons_of_mem _ hMember))
        hSome hNext] at hRead
    split_ifs at hRead
    · unfold closeNumber at hRead
      split_ifs at hRead
      cases hRead
    · rw [afterWhole_fraction ds true hFraction] at hRead
      cases hRead
      refine ⟨true, ?_⟩
      simp only [Decimal.ofNumeral, List.cons_append,
        StringTable.Index.natOfDigits_zero]
  · rw [hPlain, afterWhole_fraction whole false hFraction] at hRead
    · cases hRead
      exact ⟨false, rfl⟩
    · cases whole with
      | nil => exact Or.inl rfl
      | cons d ds =>
          right
          by_cases hZero : d = '0'
          · subst hZero
            left
            by_contra hMore
            exact hLegacy ⟨ds, rfl, fun hNil => hMore (by rw [hNil])⟩
          · exact Or.inr ⟨d, ds, rfl, hZero⟩

theorem index_not_octal
    {index : StringTable.Index}
    (hDecimal : isOctal index.text = false) :
    index.isOctal = false := by
  cases index with
  | hex => rfl
  | decimal digits digits_decimal digits_ne_nil =>
      cases digits with
      | nil => exact absurd rfl digits_ne_nil
      | cons d ds =>
          by_cases hZero : d = '0'
          · subst hZero
            cases ds with
            | nil => rfl
            | cons e ds =>
                simp only [StringTable.Index.text, isOctal,
                  List.isEmpty_cons, Bool.not_false, Bool.true_and]
                  at hDecimal
                simp only [StringTable.Index.isOctal,
                  List.all_cons, hDecimal, Bool.and_false]
          · simp [StringTable.Index.isOctal,
              StringTable.Index.isLegacy, hZero]

end Script.Lexer

namespace Literal

theorem isHex_of_hexValue?
    {c : Char}
    {d : Nat}
    (hValue : hexValue? c = some d) :
    isHex c = true := by
  unfold hexValue? at hValue
  split_ifs at hValue with hDigit hSmall hLarge
  · simp [isHex, hDigit]
  · simp [isHex, hSmall]
  · simp [isHex, hLarge]

/- What is added up has a value for each of its digits. -/
theorem isHex_of_foldl
    {ds : List Char}
    {start : Option Nat}
    {n : Nat}
    (hSum :
      ds.foldl
          (fun (acc : Option Nat) c => do
            let n ← acc
            let d ← hexValue? c
            pure (16 * n + d))
          start =
        some n) :
    start.isSome = true ∧ ∀ d ∈ ds, isHex d = true := by
  induction ds generalizing start with
  | nil =>
      rw [List.foldl_nil] at hSum
      rw [hSum]
      exact ⟨rfl, fun d hMember => absurd hMember List.not_mem_nil⟩
  | cons c ds ih =>
      obtain ⟨hStart, hLater⟩ := ih hSum
      cases start with
      | none => cases hStart
      | some m =>
          cases hValue : hexValue? c with
          | none => simp [hValue] at hStart
          | some d =>
              refine ⟨rfl, List.forall_mem_cons.mpr ⟨?_, hLater⟩⟩
              exact isHex_of_hexValue? hValue

theorem isHex_of_hexWord?
    {ds : List Char}
    {n : Nat}
    (hWord : hexWord? ds = some n) :
    withoutPlus ds ≠ [] ∧ ∀ d ∈ withoutPlus ds, isHex d = true := by
  unfold hexWord? wordOfDigits? at hWord
  split_ifs at hWord with hEmpty
  dsimp only at hWord
  split at hWord
  · next hSum =>
      exact ⟨by simpa using hEmpty, (isHex_of_foldl hSum).2⟩
  · cases hWord

/- The number of an index, read of a trimmed text. -/
theorem number?_index
    {s : String}
    {index : StringTable.Index}
    {y : Float}
    (hTrim : (Text.trim s).toList = index.text)
    (hRead : number? s = some y) :
    y = Decimal.ofNat index.value := by
  have hSame : number? s = number? (String.ofList index.text) := by
    unfold number?
    rw [hTrim, Text.trim_ofList, String.toList_ofList]
    intro c hMember
    obtain ⟨hAscii, hWord⟩ := index.text_word c hMember
    exact StringTable.Index.not_isBlank_of_word hAscii hWord
  rw [hSame] at hRead
  rcases index.literal_number?_text with hNumber | ⟨hNone, -⟩
  · rw [hNumber] at hRead
    exact (Option.some.inj hRead).symm
  · rw [hNone] at hRead
    cases hRead

/- A script reads an index as the same number, if not octal. -/
theorem number?_agrees_index
    {s : String}
    {y : Float}
    {token : Token}
    (index : StringTable.Index)
    (hTrim : (Text.trim s).toList = index.text)
    (hRead : number? s = some y)
    (hToken : Lexer.number? index.text = some (token, []))
    (hDecimal : isOctal index.text = false) :
    ∃ isLegacy, token = .number y isLegacy := by
  have hValue : index.scriptValue = index.value := by
    simp [StringTable.Index.scriptValue, index_not_octal hDecimal]
  rw [index.number?_text, hValue,
    ← number?_index hTrim hRead] at hToken
  cases hToken
  exact ⟨_, rfl⟩

/- A decimal numeral is an index, or it has a point. -/
theorem decimal?_cases
    {u : List Char}
    {y : Float}
    (hRead : decimal? u = some y) :
    (u ≠ [] ∧ ∀ c ∈ u, Lexer.isDigit c = true) ∨
      ∃ whole fraction,
        u = whole ++ '.' :: fraction ∧
          (∀ c ∈ whole, Lexer.isDigit c = true) ∧
            (∀ c ∈ fraction, Lexer.isDigit c = true) ∧
              y = Decimal.ofNumeral whole fraction 0 := by
  have hWhole : ∀ c ∈ u.takeWhile isDigit, Lexer.isDigit c = true :=
    fun c hMember => List.mem_takeWhile_imp hMember
  have hParts := List.takeWhile_append_dropWhile (p := isDigit) (l := u)
  unfold decimal? at hRead
  dsimp only at hRead
  split at hRead
  · next hEnd =>
      rw [hEnd, List.append_nil] at hParts
      rw [hParts] at hRead hWhole
      split_ifs at hRead with hEmpty
      exact Or.inl ⟨by simpa using hEmpty, hWhole⟩
  · next fraction hEnd =>
      split_ifs at hRead with hFraction
      rw [hEnd] at hParts
      have hDigits : ∀ c ∈ fraction, Lexer.isDigit c = true :=
        List.all_eq_true.mp (Bool.and_eq_true_iff.mp hFraction).1
      exact
        Or.inr
          ⟨_, fraction, hParts.symm, hWhole, hDigits,
            (Option.some.inj hRead).symm⟩
  · cases hRead

theorem number?_agrees
    {s : String}
    {u : List Char}
    {y : Float}
    {token : Token}
    (hTrim : (Text.trim s).toList = u)
    (hRead : number? s = some y)
    (hToken : Lexer.number? u = some (token, []))
    (hDecimal : isOctal u = false)
    (hFirst : u.head? ≠ some '-') :
    ∃ isLegacy, token = .number y isLegacy := by
  have hHex :
      ∀ {mark : Char} {ds : List Char} {n : Nat},
        mark ∈ ['x', 'X'] →
          u = '0' :: mark :: ds →
            hexWord? ds = some n →
              ∃ isLegacy, token = .number y isLegacy := by
    rintro mark ds n hMark rfl hWord
    obtain ⟨hSome, hDigits⟩ := isHex_of_hexWord? hWord
    have hPlain : withoutPlus ds = ds := by
      unfold withoutPlus
      split
      · next ds =>
          have hNone :
              Lexer.number? ('0' :: mark :: '+' :: ds) = none := by
            rcases List.mem_pair.mp hMark with rfl | rfl <;> rfl
          rw [hNone] at hToken
          cases hToken
      · rfl
    rw [hPlain] at hSome hDigits
    exact
      number?_agrees_index (.hex mark ds hMark hDigits hSome) hTrim
        hRead hToken hDecimal
  have hOriginal := hRead
  unfold number? at hRead
  rw [hTrim] at hRead
  split at hRead
  · obtain ⟨n, hWord, -⟩ := Option.map_eq_some_iff.mp hRead
    exact hHex (by simp) rfl hWord
  · obtain ⟨n, hWord, -⟩ := Option.map_eq_some_iff.mp hRead
    exact hHex (by simp) rfl hWord
  · have hDrop : u.dropWhile (· == '-') = u := by
      cases u with
      | nil => rfl
      | cons c cs =>
          apply List.dropWhile_cons_of_neg
          simpa using hFirst
    dsimp only at hRead
    rw [hDrop] at hRead
    cases hNumber : decimal? u with
    | none =>
        rw [hNumber] at hRead
        cases hRead
    | some x =>
        have hMinus : ¬ (u.head? == some '-') = true := by
          simpa using hFirst
        simp only [hNumber, if_neg hMinus] at hRead
        cases hRead
        rcases decimal?_cases hNumber with
          ⟨hSome, hDigits⟩ |
            ⟨whole, fraction, rfl, hWhole, hFraction, rfl⟩
        · exact
            number?_agrees_index (.decimal u hDigits hSome) hTrim
              hOriginal hToken hDecimal
        · exact number?_point hWhole hFraction hToken

end Literal

------------------------------------------------------------
-- Labels
------------------------------------------------------------

theorem Text.trim_trim
    (s : String) :
    Text.trim (Text.trim s) = Text.trim s := by
  have hEnd :
      ∀ cs : List Char,
        dropEnd isBlank (dropEnd isBlank cs) = dropEnd isBlank cs := by
    intro cs
    rw [dropEnd, dropEnd, List.reverse_reverse,
      List.dropWhile_idempotent]
  have hStart :
      ∀ cs : List Char,
        (dropEnd isBlank (cs.dropWhile isBlank)).dropWhile isBlank =
          dropEnd isBlank (cs.dropWhile isBlank) := by
    intro cs
    obtain ⟨rest, hRest⟩ :
        dropEnd isBlank (cs.dropWhile isBlank) <+:
          cs.dropWhile isBlank := by
      unfold dropEnd
      rw [← List.reverse_suffix, List.reverse_reverse]
      exact List.dropWhile_suffix _
    cases hKept : dropEnd isBlank (cs.dropWhile isBlank) with
    | nil => rfl
    | cons c kept =>
        apply List.dropWhile_cons_of_neg
        rw [hKept] at hRest
        have hFirst := List.head?_dropWhile_not isBlank cs
        rw [← hRest] at hFirst
        simpa using hFirst
  unfold trim
  rw [String.toList_ofList, hStart, hEnd]

/- The label of a case: a literal, or that of the default case. -/
inductive CaseLabel where
  | default
  | number (x : Float) (hNumeral : Decimal.IsNumeral x)
  | bigint (n : Nat)
  | string (s : Units)
  | bool (b : Bool)
  | null
  deriving DecidableEq

namespace CaseLabel

def isString : CaseLabel → Bool
  | string _ => true
  | _ => false

theorem eq_string
    {l : CaseLabel}
    (hString : l.isString = true) :
    ∃ s, l = string s := by
  cases l with
  | string s => exact ⟨s, rfl⟩
  | _ => cases hString

def ofToken? : Token → Option CaseLabel
  | .number x _ =>
    if h : Decimal.IsNumeral x then some (number x h) else none
  | .bigint n => some (bigint n)
  | .string s _ _ => some (string s)
  | _ => none

/- The literal that a text is, from its first character to its last. -/
def ofText? (u : List Char) : Option CaseLabel :=
  if u = "true".toList then some (bool true)
  else if u = "false".toList then some (bool false)
  else if u = "null".toList then some null
  else
    match Lexer.token? u with
    | some (t, []) => ofToken? t
    | _ => none

end CaseLabel

namespace Script.Lexer

theorem token?_numerical
    {u rest : List Char}
    {token : Token}
    (hRead : token? u = some (token, rest))
    (hKind : IsNumerical token) :
    number? u = some (token, rest) ∧ u.head? ≠ some '-' := by
  unfold token? at hRead
  split at hRead
  · cases hRead
    cases hKind
  · obtain ⟨_, _, _, rfl⟩ := stringFrom_token hRead
    cases hKind
  · obtain ⟨_, _, _, rfl⟩ := stringFrom_token hRead
    cases hKind
  · obtain ⟨_, _, rfl⟩ := templateFrom_token hRead
    cases hKind
  · obtain ⟨_, -, hToken⟩ := Option.map_eq_some_iff.mp hRead
    cases hToken
    cases hKind
  · next c cs _ _ _ _ =>
    split_ifs at hRead with hFirst
    · refine ⟨hRead, ?_⟩
      rintro hHead
      cases hHead
      simp [isDigit] at hFirst
    · obtain ⟨_, -, hToken⟩ := Option.map_eq_some_iff.mp hRead
      cases hToken
      cases hKind
    · obtain ⟨_, rfl⟩ := mark?_token hRead
      cases hKind

end Script.Lexer

namespace CaseLabel

variable {u : List Char}
variable {l : CaseLabel}

theorem ofText?_cases
    (hLabel : ofText? u = some l) :
    (∃ b,
        l = bool b ∧ u = (if b then "true" else "false").toList) ∨
      l = null ∧ u = "null".toList ∨
        ∃ t, token? u = some (t, []) ∧ ofToken? t = some l := by
  unfold ofText? at hLabel
  split_ifs at hLabel with hTrue hFalse hNull
  · cases hLabel
    exact Or.inl ⟨true, rfl, hTrue⟩
  · cases hLabel
    exact Or.inl ⟨false, rfl, hFalse⟩
  · cases hLabel
    exact Or.inr (Or.inl ⟨rfl, hNull⟩)
  · split at hLabel
    · next t hToken => exact Or.inr (Or.inr ⟨t, hToken, hLabel⟩)
    · cases hLabel

/- A string stands between its quotes. -/
theorem ofText?_string
    {s : Units}
    (hLabel : ofText? u = some (string s)) :
    ∃ q body units,
      IsQuote q ∧
        u = q :: (body ++ [q]) ∧
          Contents body units ∧ s = ⟨units.toArray⟩ := by
  rcases ofText?_cases hLabel with
    ⟨_, hBool, -⟩ | ⟨hNull, -⟩ | ⟨t, hToken, hKind⟩
  · cases hBool
  · cases hNull
  · unfold ofToken? at hKind
    split at hKind
    · split_ifs at hKind
      cases hKind
    · cases hKind
    · cases hKind
      exact token?_string hToken
    · cases hKind

/-
  What is read as a number is the number that a script reads,
  and no other literal.
-/
theorem ofText?_numeral
    {s : String}
    {y : Float}
    (hTrim : (Text.trim s).toList = u)
    (hRead : Literal.number? s = some y)
    (hLabel : ofText? u = some l)
    (hDecimal : isOctal u = false)
    (hString : l.isString = false) :
    ∃ hNumeral, l = number y hNumeral := by
  have hWord : ∀ w ∈ ["true", "false", "null"], u ≠ w.toList := by
    rintro w hWord rfl
    have hNone : Literal.number? s = none := by
      unfold Literal.number?
      rw [hTrim]
      simp only [List.mem_cons, List.not_mem_nil, or_false] at hWord
      rcases hWord with rfl | rfl | rfl <;> decide
    rw [hNone] at hRead
    cases hRead
  rcases ofText?_cases hLabel with
    ⟨b, -, hBool⟩ | ⟨-, hNull⟩ | ⟨t, hToken, hKind⟩
  · cases b
    · exact absurd hBool (hWord "false" (by simp))
    · exact absurd hBool (hWord "true" (by simp))
  · exact absurd hNull (hWord "null" (by simp))
  · have hNumerical : IsNumerical t := by
      unfold ofToken? at hKind
      split at hKind
      · split_ifs at hKind with hNumeral
        exact hNumeral
      · trivial
      · cases hKind
        cases hString
      · cases hKind
    obtain ⟨hNumber, hFirst⟩ := token?_numerical hToken hNumerical
    obtain ⟨isLegacy, rfl⟩ :=
      Literal.number?_agrees hTrim hRead hNumber hDecimal hFirst
    simp only [ofToken?] at hKind
    split_ifs at hKind with hNumeral
    cases hKind
    exact ⟨hNumeral, rfl⟩

end CaseLabel

------------------------------------------------------------
-- Labels Written and Read
------------------------------------------------------------

namespace Script.Lexer

/- Digits and the letter behind them are a large integer. -/
theorem token?_bigint
    (n : Nat) :
    token? (Nat.toDigits 10 n ++ ['n']) = some (.bigint n, []) := by
  rcases Nat.eq_zero_or_pos n with rfl | hPositive
  · rfl
  · rcases Json.exists_toDigits_cons hPositive with
      ⟨d, ds, hDigits, hFirst⟩
    have hAll : ∀ c ∈ d :: ds, isDigit c = true := by
      intro c hMember
      rw [← hDigits] at hMember
      exact (Literal.isDigit_eq c).trans (Json.isDigit_toDigits hMember)
    have hValue : Decimal.natOfDigits (d :: ds) = n := by
      rw [← hDigits]
      exact Nat.ofDigitChars_ten_toDigits
    have hRun :
        digitRun isDigit [] ((d :: ds) ++ ['n']) =
          some (d :: ds, ['n']) := by
      apply digitRun_append []
      · intro c hMember
        refine ⟨hAll c hMember, ?_⟩
        rintro rfl
        exact absurd (hAll '_' hMember) (by decide)
      · rintro c hHead
        cases hHead
        decide
    have hOther : ∀ c, isDigit c = false → d ≠ c := by
      rintro c hNone rfl
      rw [hAll d List.mem_cons_self] at hNone
      cases hNone
    have hNumber :
        number? ((d :: ds) ++ ['n']) = some (.bigint n, []) := by
      rw [List.cons_append] at hRun ⊢
      rw [number?, hRun]
      · simp [closeNumber, endsNumber, hValue]
      · exact fun _ _ hSame => hFirst (List.cons.inj hSame).1
      · exact fun _ hSame =>
          hOther '.' (by decide) (List.cons.inj hSame).1
    rw [hDigits, List.cons_append, token?, if_pos,
      ← List.cons_append, hNumber]
    · simp [hAll d List.mem_cons_self]
    all_goals exact hOther _ (by decide)

end Script.Lexer

namespace Literal

section LargeIntegers

variable (n : Nat)

theorem bigint_member
    {c : Char}
    (hMember : c ∈ Nat.toDigits 10 n ++ ['n']) :
    isDigit c = true ∨ c = 'n' := by
  rcases List.mem_append.mp hMember with hDigit | hLast
  · exact Or.inl ((isDigit_eq c).trans (Json.isDigit_toDigits hDigit))
  · exact Or.inr (List.mem_singleton.mp hLast)

theorem trim_bigint :
    Text.trim (String.ofList (Nat.toDigits 10 n ++ ['n'])) =
      String.ofList (Nat.toDigits 10 n ++ ['n']) := by
  apply Text.trim_ofList
  intro c hMember
  rcases bigint_member n hMember with hDigit | rfl
  · rw [isDigit_eq] at hDigit
    exact not_isBlank_of_numeral (Or.inl hDigit)
  · decide

theorem number?_bigint :
    number? (String.ofList (Nat.toDigits 10 n ++ ['n'])) = none := by
  have hOther :
      ∀ c ∈ Nat.toDigits 10 n ++ ['n'],
        ∀ other,
          isDigit other = false → other ≠ 'n' → c ≠ other := by
    rintro c hHere other hDigit hLast rfl
    rcases bigint_member n hHere with hSame | hSame
    · rw [hDigit] at hSame
      cases hSame
    · exact hLast hSame
  have hRun :
      (Nat.toDigits 10 n ++ ['n']).takeWhile isDigit =
          Nat.toDigits 10 n ∧
        (Nat.toDigits 10 n ++ ['n']).dropWhile isDigit = ['n'] := by
    apply Decimal.takeWhile_run
    · intro c hMember
      exact (isDigit_eq c).trans (Json.isDigit_toDigits hMember)
    · rintro c hHead
      cases hHead
      decide
  have hMinus :
      (Nat.toDigits 10 n ++ ['n']).dropWhile (· == '-') =
        Nat.toDigits 10 n ++ ['n'] := by
    cases hText : Nat.toDigits 10 n ++ ['n'] with
    | nil => rfl
    | cons c cs =>
        have hHere := hOther c (by rw [hText]; exact List.mem_cons_self)
        apply List.dropWhile_cons_of_neg
        simpa using hHere '-' (by decide) (by decide)
  unfold number?
  rw [trim_bigint, String.toList_ofList]
  split
  · next ds hText =>
      have hHere := hOther 'x' (by rw [hText]; simp)
      exact absurd rfl (hHere 'x' (by decide) (by decide))
  · next ds hText =>
      have hHere := hOther 'X' (by rw [hText]; simp)
      exact absurd rfl (hHere 'X' (by decide) (by decide))
  · simp only [hMinus, decimal?, hRun.1, hRun.2]
    rfl

end LargeIntegers

/- Nothing is trimmed off quotes. -/
theorem trim_quoted
    {q : Char}
    (hQuote : IsQuote q)
    (body : List Char) :
    Text.trim (String.ofList (q :: (body ++ [q]))) =
      String.ofList (q :: (body ++ [q])) := by
  have hBlank : ¬ Text.isBlank q = true := by
    rcases hQuote with rfl | rfl <;> decide
  have hReverse :
      (q :: (body ++ [q])).reverse = q :: (q :: body).reverse := by
    simp
  rw [Text.trim, String.toList_ofList,
    List.dropWhile_cons_of_neg hBlank, Text.dropEnd, hReverse,
    List.dropWhile_cons_of_neg hBlank, ← hReverse,
    List.reverse_reverse]

/- A text between quotes is no numeral, and loses its quotes. -/
theorem ofLabel_quoted
    {s : String}
    {q : Char}
    {body : List Char}
    (hTrim : (Text.trim s).toList = q :: (body ++ [q]))
    (hQuote : IsQuote q) :
    ofLabel s = .text (String.ofList body) := by
  have hNone : number? s = none := by
    unfold number?
    rw [hTrim]
    rcases hQuote with rfl | rfl <;> simp [decimal?, isDigit]
  have hUnquote : unquote (q :: (body ++ [q])) = body := by
    rcases hQuote with rfl | rfl <;> simp [unquote]
  rw [ofLabel, hNone, hTrim, hUnquote]

/- What begins with no quote keeps its characters. -/
theorem unquote_eq
    {cs : List Char}
    (hFirst : ∀ c ∈ cs.head?, ¬ IsQuote c) :
    unquote cs = cs := by
  cases cs with
  | nil => rfl
  | cons c cs =>
      have hNeither : ¬ (c = '"' ∨ c = '\'') := hFirst c rfl
      rw [unquote, if_neg]
      simp only [Bool.and_eq_true, Bool.or_eq_true, beq_iff_eq]
      exact fun hQuoted => hNeither hQuoted.1.1

theorem number?_trim
    (s : String) :
    number? (Text.trim s) = number? s := by
  unfold number?
  rw [Text.trim_trim]

/- A label without quotes shows as its number, or as it is. -/
theorem describe_ofLabel
    {s : String}
    (hFirst : ∀ c ∈ (Text.trim s).toList.head?, ¬ IsQuote c) :
    (ofLabel s).describe =
      match number? (Text.trim s) with
      | some x => Decimal.describe x
      | none => Text.trim s := by
  rw [ofLabel, unquote_eq hFirst, number?_trim, String.ofList_toList]
  cases number? s <;> rfl

end Literal

namespace CaseLabel

theorem ofText?_unquoted
    {u : List Char}
    {l : CaseLabel}
    (hLabel : ofText? u = some l)
    (hString : l.isString = false) :
    ∀ c ∈ u.head?, ¬ IsQuote c := by
  intro c hHead hQuote
  obtain ⟨cs, rfl⟩ := List.head?_eq_some_iff.mp hHead
  rcases ofText?_cases hLabel with
    ⟨b, -, hText⟩ | ⟨-, hText⟩ | ⟨t, hToken, hKind⟩
  · cases b <;> cases hText <;>
      rcases hQuote with hSame | hSame <;> cases hSame
  · cases hText
    rcases hQuote with hSame | hSame <;> cases hSame
  · have hQuoted :
        token? (c :: cs) =
          stringFrom c (cs.length + 1) false true #[] cs := by
      rcases hQuote with rfl | rfl <;> rfl
    rw [hQuoted] at hToken
    obtain ⟨_, _, _, rfl⟩ := stringFrom_token hToken
    cases hKind
    cases hString

end CaseLabel

------------------------------------------------------------
-- Halves of Pairs
------------------------------------------------------------

namespace Units

/- Every half of a pair stands next to the other one. -/
def IsPaired (s : Units) : Prop :=
  ∀ n ∈ s.codePoints, ¬ (0xD800 ≤ n ∧ n < 0xE000)

instance (s : Units) : Decidable s.IsPaired :=
  inferInstanceAs (Decidable (∀ n ∈ s.codePoints, _))

theorem ofCodePoint_toNat
    (u : UInt16) :
    ofCodePoint u.toNat = [u] := by
  have hBound := u.toNat_lt
  unfold ofCodePoint
  rw [if_pos (by omega), Nat.toUInt16_eq, UInt16.ofNat_toNat]

section Pairs

variable {u v : UInt16}

theorem joinHalves_lt
    (hHigh : isHighHalf u = true)
    (hLow : isLowHalf v = true) :
    joinHalves u v < 0x110000 := by
  simp [isHighHalf, isLowHalf, UInt16.le_iff_toNat_le,
    UInt16.lt_iff_toNat_lt] at hHigh hLow
  unfold joinHalves
  omega

theorem ofCodePoint_joinHalves
    (hHigh : isHighHalf u = true)
    (hLow : isLowHalf v = true) :
    ofCodePoint (joinHalves u v) = [u, v] := by
  simp [isHighHalf, isLowHalf, UInt16.le_iff_toNat_le,
    UInt16.lt_iff_toNat_lt] at hHigh hLow
  unfold ofCodePoint joinHalves
  rw [if_neg (by omega)]
  have hUpper :
      0xD800 +
          (0x10000 + (u.toNat - 0xD800) * 0x400 + (v.toNat - 0xDC00) -
              0x10000) / 0x400 =
        u.toNat := by
    omega
  have hLower :
      0xDC00 +
          (0x10000 + (u.toNat - 0xD800) * 0x400 + (v.toNat - 0xDC00) -
              0x10000) % 0x400 =
        v.toNat := by
    omega
  rw [hUpper, hLower, Nat.toUInt16_eq, Nat.toUInt16_eq,
    UInt16.ofNat_toNat, UInt16.ofNat_toNat]

end Pairs

theorem codePointsOf_lt
    (us : List UInt16) :
    ∀ n ∈ codePointsOf us, n < 0x110000 := by
  have hUnit : ∀ u : UInt16, u.toNat < 0x110000 := by
    intro u
    have hBound := u.toNat_lt
    omega
  fun_induction codePointsOf us with
  | case1 => simp
  | case2 u => simpa using hUnit u
  | case3 u v rest hPair ih =>
      rw [Bool.and_eq_true] at hPair
      exact
        List.forall_mem_cons.mpr
          ⟨joinHalves_lt hPair.1 hPair.2, ih⟩
  | case4 u v rest hPair ih =>
      exact List.forall_mem_cons.mpr ⟨hUnit u, ih⟩

/- The units are those of the code points. -/
theorem flatMap_codePointsOf
    (us : List UInt16) :
    (codePointsOf us).flatMap ofCodePoint = us := by
  fun_induction codePointsOf us with
  | case1 => rfl
  | case2 u => simp [ofCodePoint_toNat]
  | case3 u v rest hPair ih =>
      rw [Bool.and_eq_true] at hPair
      rw [List.flatMap_cons, ih, ofCodePoint_joinHalves hPair.1 hPair.2]
      rfl
  | case4 u v rest hPair ih =>
      rw [List.flatMap_cons, ih, ofCodePoint_toNat]
      rfl

theorem codePoints_inj
    {s t : Units}
    (hSame : s.codePoints = t.codePoints) :
    s = t := by
  have hUnits := congrArg (List.flatMap ofCodePoint) hSame
  simp only [codePoints, flatMap_codePointsOf] at hUnits
  cases s
  cases t
  simpa using hUnits

end Units

namespace Script.Tree

/- A text without single halves is written as it is. -/
theorem map_writeUnits
    {s : Units}
    (hPaired : s.IsPaired) :
    (writeUnits s).toList.map Char.toNat = s.codePoints := by
  have hEach :
      ∀ n ∈ s.codePoints,
        (writeCodePoint n).toList.map Char.toNat = [n] := by
    intro n hMember
    have hWhole := hPaired n hMember
    have hBound := Units.codePointsOf_lt _ n hMember
    have hValid : n.isValidChar := by
      unfold Nat.isValidChar
      omega
    have hSingle : ¬ (0xD800 ≤ n && n < 0xE000) = true := by
      simpa using hWhole
    rw [writeCodePoint, if_neg hSingle, String.toList_singleton,
      List.map_singleton, Char.toNat_ofNat, if_pos hValid]
  rw [writeUnits, String.toList_join, List.flatMap_map,
    List.map_flatMap]
  generalize s.codePoints = ns at hEach
  induction ns with
  | nil => rfl
  | cons n ns ih =>
      rcases List.forall_mem_cons.mp hEach with ⟨hHere, hLater⟩
      rw [List.flatMap_cons, hHere, ih hLater]
      rfl

theorem writeUnits_inj
    {s t : Units}
    (hLeft : s.IsPaired)
    (hRight : t.IsPaired)
    (hSame : writeUnits s = writeUnits t) :
    s = t := by
  apply Units.codePoints_inj
  rw [← map_writeUnits hLeft, hSame, map_writeUnits hRight]

end Script.Tree

------------------------------------------------------------
-- Titles
------------------------------------------------------------

namespace CaseLabel

open Decimal

/-
  How the labels that are no strings show in names, the place
  of the default case among the others being given.
-/
inductive Titled (place : Nat) : CaseLabel → String → Prop where
  | default
      {title : String}
      (hTitle : title = describe (ofNat place)) :
      Titled place .default title
  | number
      {x : Float}
      {title : String}
      (hNumeral : IsNumeral x)
      (hTitle : title = describe x) :
      Titled place (.number x hNumeral) title
  | written
      {l : CaseLabel}
      {title : String}
      (hNumber : Literal.number? title = none)
      (hText : ofText? title.toList = some l) :
      Titled place l title

theorem describe_not_written
    {x : Float}
    {l : CaseLabel}
    {title : String}
    (hNumeral : IsNumeral x)
    (hTitle : title = describe x)
    (hNumber : Literal.number? title = none)
    (hText : ofText? title.toList = some l) :
    False := by
  subst hTitle
  rcases hNumeral.cases with hMagnitude | rfl
  · rw [Literal.number?_describe hMagnitude] at hNumber
    cases hNumber
  · have hWord : ofText? "inf".toList = none := by
      decide +kernel
    rw [describe_infinity, hWord] at hText
    cases hText

/-
  Different labels with the same title are the default case and
  the number of its place.
-/
theorem Titled.cases_same
    {i j : Nat}
    {l l' : CaseLabel}
    {title : String}
    (hLeft : Titled i l title)
    (hRight : Titled j l' title) :
    l = l' ∨
      (∃ hNumeral, l = .default ∧ l' = .number (ofNat i) hNumeral) ∨
        ∃ hNumeral, l' = .default ∧ l = .number (ofNat j) hNumeral := by
  have hPlace : ∀ n, IsNumeral (ofNat n) :=
    fun n => isNumeral_ofScaled n 0
  cases hLeft with
  | default hTitle =>
      cases hRight with
      | default => exact Or.inl rfl
      | number hNumeral hOther =>
          obtain rfl :=
            (hPlace i).describe_inj hNumeral (hTitle.symm.trans hOther)
          exact Or.inr (Or.inl ⟨hNumeral, rfl, rfl⟩)
      | written hNumber hText =>
          exact (describe_not_written (hPlace i) hTitle hNumber hText).elim
  | number hNumeral hTitle =>
      cases hRight with
      | default hOther =>
          obtain rfl :=
            (hPlace j).describe_inj hNumeral (hOther.symm.trans hTitle)
          exact Or.inr (Or.inr ⟨hNumeral, rfl, rfl⟩)
      | number hNumeral' hOther =>
          obtain rfl :=
            hNumeral.describe_inj hNumeral' (hTitle.symm.trans hOther)
          exact Or.inl rfl
      | written hNumber hText =>
          exact (describe_not_written hNumeral hTitle hNumber hText).elim
  | written hNumber hText =>
      cases hRight with
      | default hTitle =>
          exact (describe_not_written (hPlace j) hTitle hNumber hText).elim
      | number hNumeral hTitle =>
          exact (describe_not_written hNumeral hTitle hNumber hText).elim
      | written _ hOther =>
          rw [hText] at hOther
          exact Or.inl (Option.some.inj hOther)

end CaseLabel

end Devirt
