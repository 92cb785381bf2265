import Devirt.Proofs.Source.Stretches
import Devirt.Proofs.Source.Cutting
import Devirt.Script.Token

/-
  String literals, and which of them the scanner tells from
  code.

  A string literal is a row of characters, escapes and
  continued lines between two quotes.  The scanner goes on
  through a body as long as it finds the quote and the line
  feed behind backslashes only.  A backslash takes one
  character along, so the literals that the scanner does not
  read to their end are those that continue a line over a
  carriage return and a line feed: the line feed ends them.

  Main declarations:
    * `Scanner.staysOpen`, `Scanner.reads_body`,
      `Scanner.reads_delimited`
    * `StringLiteral`
    * `CodeMap.Spans`, `strings_delimited`,
      `continuedString_marked`, `brokenString_unmarked`
-/

------------------------------------------------------------
-- Characters
------------------------------------------------------------

namespace Devirt

namespace Scanner

open CodeMap

/- The bytes of some characters. -/
def encode (cs : List Char) : List UInt8 :=
  cs.flatMap String.utf8EncodeChar

@[simp]
theorem encode_nil : encode [] = [] :=
  rfl

theorem encode_cons
    (c : Char)
    (cs : List Char) :
    encode (c :: cs) = String.utf8EncodeChar c ++ encode cs :=
  List.flatMap_cons

theorem encode_append
    (left right : List Char) :
    encode (left ++ right) = encode left ++ encode right :=
  List.flatMap_append

theorem bytesOf_eq_encode
    (s : String) :
    bytesOf s = encode s.toList :=
  bytesOf_eq_flatMap s

theorem encode_cons_ascii
    {c : Char}
    (cs : List Char)
    (hAscii : c.toNat < 128) :
    encode (c :: cs) = byte c :: encode cs := by
  rw [encode_cons, utf8EncodeChar_ascii hAscii]
  rfl

theorem length_encode_pos
    {cs : List Char}
    (hSome : cs ≠ []) :
    0 < (encode cs).length := by
  cases cs with
  | nil => exact absurd rfl hSome
  | cons c cs =>
      rw [encode_cons, List.length_append]
      rcases utf8EncodeChar_cases c with
        ⟨b, hBytes, -⟩ | ⟨b, rest, hBytes, -, -⟩ <;>
          · rw [hBytes, List.length_cons]
            omega

/- A character begins behind the bytes of those before it. -/
theorem getElem?_char
    {code : String}
    {left right : List Char}
    {c : Char}
    {b : UInt8}
    {bytes : List UInt8}
    (hCode : code.toList = left ++ c :: right)
    (hBytes : String.utf8EncodeChar c = b :: bytes) :
    (bytesOf code)[(encode left).length]? = some b := by
  rw [bytesOf_eq_encode, hCode, encode_append, encode_cons,
    hBytes, List.getElem?_append_right (Nat.le_refl _),
    Nat.sub_self]
  rfl

/- The bytes of the other characters are no ASCII bytes. -/
theorem utf8EncodeChar_high
    {c : Char}
    (hHigh : 128 ≤ c.toNat) :
    ∀ b ∈ String.utf8EncodeChar c, 128 ≤ b := by
  change 128 ≤ c.val.toNat at hHigh
  unfold String.utf8EncodeChar
  generalize c.val.toNat = value at hHigh
  dsimp only
  split
  · omega
  · split
    · simp [UInt8.le_iff_toNat_le]
      omega
    · split <;>
        · simp [UInt8.le_iff_toNat_le]
          omega

/- A character does not begin like an ASCII one. -/
theorem exists_first_byte
    {c mark : Char}
    (hMark : mark.toNat < 128)
    (hOther : c ≠ mark) :
    ∃ b rest,
      String.utf8EncodeChar c = b :: rest ∧ b ≠ byte mark := by
  by_cases hAscii : c.toNat < 128
  · refine ⟨byte c, [], utf8EncodeChar_ascii hAscii, ?_⟩
    exact mt (byte_injective hAscii hMark) hOther
  · have hHigh := utf8EncodeChar_high (Nat.not_lt.mp hAscii)
    have hFirst :
        ∀ b rest,
          String.utf8EncodeChar c = b :: rest →
            b ≠ byte mark := by
      rintro b rest hBytes rfl
      rw [hBytes] at hHigh
      exact
        UInt8.not_lt.mpr (hHigh (byte mark) List.mem_cons_self)
          (byte_ascii hMark)
    rcases utf8EncodeChar_cases c with
      ⟨b, hBytes, -⟩ | ⟨b, rest, hBytes, -, -⟩
    · exact ⟨b, [], hBytes, hFirst b [] hBytes⟩
    · exact ⟨b, rest, hBytes, hFirst b rest hBytes⟩

------------------------------------------------------------
-- Bodies
------------------------------------------------------------

/- The quotes, each of which closes what it has opened. -/
def quotes : List Char :=
  ['"', '\'', '`']

theorem mem_quotes_iff
    (c : Char) :
    c ∈ quotes ↔ c = '"' ∨ c = '\'' ∨ c = '`' := by
  simp [quotes]

/-
  The characters that end a literal: its quote, and a line feed
  if it is no template.
-/
def closes (quote c : Char) : Bool :=
  c == quote || c == '\n' && quote != '`'

/-
  Whether something that ends with certain characters is still
  open behind some others.  A backslash takes the character
  behind it along.
-/
def staysOpen (ends : Char → Bool) : List Char → Bool
  | [] => true
  | ['\\'] => false
  | '\\' :: _ :: rest => staysOpen ends rest
  | c :: rest => !ends c && staysOpen ends rest

theorem staysOpen_escape
    (ends : Char → Bool)
    (c : Char)
    (rest : List Char) :
    staysOpen ends ('\\' :: c :: rest) = staysOpen ends rest :=
  rfl

theorem staysOpen_cons
    {c : Char}
    (ends : Char → Bool)
    (rest : List Char)
    (hPlain : c ≠ '\\') :
    staysOpen ends (c :: rest) =
      (!ends c && staysOpen ends rest) := by
  rw [staysOpen]
  · rintro rfl
    exact absurd rfl hPlain
  · rintro _ _ rfl
    exact absurd rfl hPlain

/- Characters by the backslashes that take others along. -/
theorem escapes_induction
    {motive : List Char → Prop}
    (cs : List Char)
    (hNil : motive [])
    (hAlone : motive ['\\'])
    (hEscape :
      ∀ c rest, motive rest → motive ('\\' :: c :: rest))
    (hPlain :
      ∀ c rest, c ≠ '\\' → motive rest → motive (c :: rest)) :
    motive cs := by
  fun_induction staysOpen (fun _ => false) cs with
  | case1 => exact hNil
  | case2 => exact hAlone
  | case3 c rest ih => exact hEscape c rest ih
  | case4 c rest hOne hTwo ih =>
      refine hPlain c rest ?_ ih
      rintro rfl
      cases rest with
      | nil => exact hOne rfl rfl
      | cons d rest => exact hTwo d rest rfl rfl

/- No backslash is left without the character behind it. -/
def IsPaired (cs : List Char) : Prop :=
  staysOpen (fun _ => false) cs = true

theorem staysOpen_append
    {left : List Char}
    (ends : Char → Bool)
    (right : List Char)
    (hPaired : IsPaired left) :
    staysOpen ends (left ++ right) =
      (staysOpen ends left && staysOpen ends right) := by
  unfold IsPaired at hPaired
  induction left using escapes_induction with
  | hNil => rfl
  | hAlone => cases hPaired
  | hEscape c rest ih => exact ih hPaired
  | hPlain c rest hPlain ih =>
      rw [staysOpen_cons _ _ hPlain, Bool.not_false,
        Bool.true_and] at hPaired
      rw [List.cons_append, staysOpen_cons _ _ hPlain,
        staysOpen_cons _ _ hPlain, ih hPaired, Bool.and_assoc]

/- What is open ends with no backslash. -/
theorem isPaired_of_staysOpen
    {ends : Char → Bool}
    {cs : List Char}
    (hOpen : staysOpen ends cs = true) :
    IsPaired cs := by
  unfold IsPaired
  induction cs using escapes_induction with
  | hNil => rfl
  | hAlone => cases hOpen
  | hEscape c rest ih => exact ih hOpen
  | hPlain c rest hPlain ih =>
      rw [staysOpen_cons _ _ hPlain] at hOpen ⊢
      exact ih (Bool.and_eq_true_iff.mp hOpen).2

------------------------------------------------------------
-- Reading Bodies
------------------------------------------------------------

variable {quote : Char}
variable {last : Option (List UInt8)}
variable {before ahead : List UInt8}

theorem quotes_ascii
    (hQuote : quote ∈ quotes) :
    quote.toNat < 128 ∧ isQuote (byte quote) = true := by
  rcases (mem_quotes_iff quote).mp hQuote with
    rfl | rfl | rfl <;> decide

theorem closes_ascii
    {c : Char}
    (hQuote : quote ∈ quotes)
    (hClose : closes quote c = true) :
    c.toNat < 128 := by
  rw [closes, Bool.or_eq_true_iff, Bool.and_eq_true_iff] at hClose
  rcases hClose with hSame | ⟨hFeed, -⟩
  · rw [eq_of_beq hSame]
    exact (quotes_ascii hQuote).1
  · rw [eq_of_beq hFeed]
    decide

/- Bytes that are not ASCII belong to the body. -/
theorem reads_high
    {bytes : List UInt8}
    (hQuote : quote ∈ quotes)
    (hHigh : ∀ b ∈ bytes, 128 ≤ b) :
    Reads ⟨.quoted (byte quote), last⟩ before bytes ahead
      (literalCells bytes) ⟨.quoted (byte quote), last⟩ := by
  induction bytes generalizing before with
  | nil => exact .nil _ _ _
  | cons b bytes ih =>
      rcases List.forall_mem_cons.mp hHigh with ⟨hHere, hRest⟩
      have hOther : ∀ mark : UInt8, mark < 128 → b ≠ mark := by
        rintro mark hMark rfl
        exact UInt8.not_lt.mpr hHere hMark
      have hClose :=
        hOther (byte quote) (byte_ascii (quotes_ascii hQuote).1)
      have hSlash := hOther backslash (by decide)
      have hFeed := hOther lineFeed (by decide)
      refine .cons ?_ (ih hRest)
      simp [step, hClose, hSlash, hFeed]

/- So does a character that closes nothing. -/
theorem reads_char
    {c : Char}
    (hQuote : quote ∈ quotes)
    (hPlain : c ≠ '\\')
    (hOpen : closes quote c = false) :
    Reads ⟨.quoted (byte quote), last⟩ before
      (String.utf8EncodeChar c) ahead
      (literalCells (String.utf8EncodeChar c))
      ⟨.quoted (byte quote), last⟩ := by
  by_cases hAscii : c.toNat < 128
  · have hOther :
        ∀ mark : Char,
          mark.toNat < 128 → c ≠ mark → byte c ≠ byte mark :=
      fun mark hMark => mt (byte_injective hAscii hMark)
    have hSlash := hOther '\\' (by decide) hPlain
    rw [closes, Bool.or_eq_false_iff, beq_eq_false_iff_ne]
      at hOpen
    have hClose :=
      hOther quote (quotes_ascii hQuote).1 hOpen.1
    have hFeed :
        (byte c == lineFeed && byte quote != backtick) =
          false := by
      rw [Bool.and_eq_false_iff] at hOpen ⊢
      refine hOpen.2.imp ?_ ?_
      · intro hFeed
        exact
          beq_eq_false_iff_ne.mpr
            (hOther '\n' (by decide) (beq_eq_false_iff_ne.mp hFeed))
      · intro hTemplate
        have hSame : quote = '`' := by simpa using hTemplate
        subst hSame
        decide
    rw [utf8EncodeChar_ascii hAscii]
    apply Reads.one
    change byte c ≠ backslash at hSlash
    simp [step, hClose, hSlash, hFeed]
  · apply reads_high hQuote
    exact utf8EncodeChar_high (Nat.not_lt.mp hAscii)

/- A backslash takes any character along. -/
theorem reads_escape
    (hQuote : quote ∈ quotes)
    (c : Char) :
    Reads ⟨.quoted (byte quote), last⟩ before
      (backslash :: String.utf8EncodeChar c) ahead
      (literalCells (backslash :: String.utf8EncodeChar c))
      ⟨.quoted (byte quote), last⟩ := by
  have hClose : backslash ≠ byte quote := by
    rcases (mem_quotes_iff quote).mp hQuote with
      rfl | rfl | rfl <;> decide
  have hTail :
      ∃ first rest,
        String.utf8EncodeChar c = first :: rest ∧
          ∀ b ∈ rest, 128 ≤ b := by
    rcases utf8EncodeChar_cases c with
      ⟨b, hBytes, -⟩ | ⟨first, rest, hBytes, -, hRest⟩
    · exact ⟨b, [], hBytes, by simp⟩
    · exact ⟨first, rest, hBytes, hRest⟩
  rcases hTail with ⟨first, rest, hBytes, hRest⟩
  have hMark :
      step ⟨.quoted (byte quote), last⟩ before backslash
          (first :: rest ++ ahead) =
        (false, ⟨.escaped (byte quote), last⟩) := by
    simp [step, hClose]
  rw [hBytes]
  exact .cons hMark (.cons rfl (reads_high hQuote hRest))

/-
  What leaves a literal open is read as its body, and the
  scanner is in the literal still.
-/
theorem reads_body
    {cs : List Char}
    (hQuote : quote ∈ quotes)
    (hOpen : staysOpen (closes quote) cs = true) :
    Reads ⟨.quoted (byte quote), last⟩ before (encode cs) ahead
      (literalCells (encode cs))
      ⟨.quoted (byte quote), last⟩ := by
  induction cs using escapes_induction generalizing before with
  | hNil => exact .nil _ _ _
  | hAlone => cases hOpen
  | hEscape c rest ih =>
      rw [encode_cons_ascii _ (by decide), encode_cons,
        ← List.cons_append, literalCells_append]
      exact (reads_escape hQuote c).append (ih hOpen)
  | hPlain c rest hPlain ih =>
      rw [staysOpen_cons _ _ hPlain, Bool.and_eq_true_iff]
        at hOpen
      have hChar : closes quote c = false := by
        simpa using hOpen.1
      rw [encode_cons, literalCells_append]
      exact (reads_char hQuote hPlain hChar).append (ih hOpen.2)

/- The character that closes a literal is code. -/
theorem step_closes
    {c : Char}
    (hQuote : quote ∈ quotes)
    (hClose : closes quote c = true) :
    step ⟨.quoted (byte quote), last⟩ before (byte c) ahead =
      (true, ⟨.top, some (byte c :: before)⟩) := by
  rw [closes, Bool.or_eq_true_iff, Bool.and_eq_true_iff] at hClose
  rcases hClose with hSame | ⟨hFeed, hString⟩
  · rw [eq_of_beq hSame]
    simp [step]
  · rw [eq_of_beq hFeed]
    have hParts :
        byte '\n' ≠ byte quote ∧ byte quote ≠ backtick := by
      rcases (mem_quotes_iff quote).mp hQuote with
        rfl | rfl | rfl
      · decide
      · decide
      · cases hString
    rcases hParts with ⟨hOther, hTemplate⟩
    have hEscape : byte '\n' ≠ backslash := by decide
    have hLine : byte '\n' = lineFeed := by decide
    simp only [step, beq_eq_false_iff_ne.mpr hOther,
      beq_eq_false_iff_ne.mpr hEscape]
    simp [hLine, hTemplate]

/-
  At the top level a quote opens a literal, which goes on to
  the first character that closes it.
-/
theorem reads_delimited
    {cs : List Char}
    {c : Char}
    (hQuote : quote ∈ quotes)
    (hOpen : staysOpen (closes quote) cs = true)
    (hClose : closes quote c = true) :
    Reads ⟨.top, last⟩ before
      (byte quote :: (encode cs ++ [byte c])) ahead
      (⟨byte quote, true⟩ ::
        (literalCells (encode cs) ++ [⟨byte c, true⟩]))
      ⟨.top,
        some (byte c :: ((encode cs).reverse ++
          (byte quote :: before)))⟩ := by
  have hOpening :
      step ⟨.top, last⟩ before (byte quote)
          (encode cs ++ [byte c] ++ ahead) =
        (true, ⟨.quoted (byte quote), last⟩) := by
    simp [step, stepTop, (quotes_ascii hQuote).2]
  refine .cons hOpening ((reads_body hQuote hOpen).append ?_)
  exact .one (step_closes hQuote hClose)

end Scanner

end Devirt

------------------------------------------------------------
-- String Literals
------------------------------------------------------------

namespace Devirt

open Scanner Script.Lexer

def isHexDigit (c : Char) : Bool :=
  (Literal.hexValue? c).isSome

/-
  What may follow a backslash on its line.  The digits of an
  octal escape behind its first one count as characters.
-/
inductive IsEscape : List Char → Prop where
  | character
      {c : Char}
      (hDigit : isDigit c = false)
      (hLetter : c ≠ 'x' ∧ c ≠ 'u')
      (hLine : isLineEnd c = false) :
      IsEscape [c]
  | digit
      {c : Char}
      (hDigit : isDigit c = true) :
      IsEscape [c]
  | hexadecimal
      {a b : Char}
      (hFirst : isHexDigit a = true)
      (hSecond : isHexDigit b = true) :
      IsEscape ['x', a, b]
  | unicode
      {ds : List Char}
      (hLength : ds.length = 4)
      (hDigits : ∀ d ∈ ds, isHexDigit d = true) :
      IsEscape ('u' :: ds)
  | codePoint
      {ds : List Char}
      (hSome : ds ≠ [])
      (hDigits : ∀ d ∈ ds, isHexDigit d = true)
      (hRange : natOfHex ds ≤ 0x10FFFF) :
      IsEscape ('u' :: '{' :: (ds ++ ['}']))

/- What ends a line of a script. -/
inductive LineEnd where
  | lineFeed
  | carriageReturn
  | carriageReturnLineFeed
  | lineSeparator
  | paragraphSeparator
  deriving DecidableEq

def LineEnd.text : LineEnd → List Char
  | .lineFeed => ['\n']
  | .carriageReturn => ['\r']
  | .carriageReturnLineFeed => ['\r', '\n']
  | .lineSeparator => ['\u2028']
  | .paragraphSeparator => ['\u2029']

inductive StringPart where
  | char (c : Char)
  | escape (cs : List Char)
  /- a backslash at the end of a line -/
  | continuation (ending : LineEnd)
  deriving DecidableEq

namespace StringPart

def text : StringPart → List Char
  | char c => [c]
  | escape cs => '\\' :: cs
  | continuation ending => '\\' :: ending.text

/- What may stand in a literal with the given quotes. -/
def Fits (quote : Char) : StringPart → Prop
  | char c => c ≠ quote ∧ c ≠ '\\' ∧ c ≠ '\n' ∧ c ≠ '\r'
  | escape cs => IsEscape cs
  | continuation _ => True

/- The only part that the scanner does not read to its end. -/
def broken : StringPart :=
  continuation .carriageReturnLineFeed

end StringPart

structure StringLiteral where
  quote : Char
  parts : List StringPart
  isQuote : quote = '"' ∨ quote = '\''
  fits : ∀ p ∈ parts, p.Fits quote

namespace StringLiteral

def body (l : StringLiteral) : List Char :=
  l.parts.flatMap StringPart.text

def text (l : StringLiteral) : String :=
  String.ofList (l.quote :: (l.body ++ [l.quote]))

/- The bytes of a literal, which begins at an offset, end here. -/
def stop (l : StringLiteral) (start : Nat) : Nat :=
  start + (bytesOf l.text).length

theorem quote_mem
    (l : StringLiteral) :
    l.quote ∈ quotes := by
  rcases l.isQuote with hDouble | hSingle
  · simp [hDouble, quotes]
  · simp [hSingle, quotes]

theorem closes_quote
    (l : StringLiteral) :
    closes l.quote l.quote = true := by
  simp [closes]

/- No string is a template, so line feeds close it. -/
theorem closes_lineFeed
    (l : StringLiteral) :
    closes l.quote '\n' = true := by
  rcases l.isQuote with hDouble | hSingle
  · simp [hDouble, closes]
  · simp [hSingle, closes]

end StringLiteral

------------------------------------------------------------
-- Parts
------------------------------------------------------------

/- Behind its first character an escape has none that closes. -/
theorem IsEscape.eq_cons
    {cs : List Char}
    (hEscape : IsEscape cs) :
    ∃ c rest,
      cs = c :: rest ∧
        ∀ d ∈ rest, isHexDigit d = true ∨ d = '{' ∨ d = '}' := by
  cases hEscape with
  | @character c => exact ⟨c, [], rfl, by simp⟩
  | @digit c => exact ⟨c, [], rfl, by simp⟩
  | @hexadecimal a b hFirst hSecond =>
      exact ⟨'x', [a, b], rfl, by simp [hFirst, hSecond]⟩
  | @unicode ds hLength hDigits =>
      exact ⟨'u', ds, rfl, fun d hd => Or.inl (hDigits d hd)⟩
  | @codePoint ds hSome hDigits =>
      refine ⟨'u', '{' :: (ds ++ ['}']), rfl, ?_⟩
      intro d hd
      rcases List.mem_cons.mp hd with rfl | hd
      · simp
      · rcases List.mem_append.mp hd with hd | hd
        · exact Or.inl (hDigits d hd)
        · exact Or.inr (Or.inr (List.mem_singleton.mp hd))

/- Hexadecimal digits and braces leave a literal open. -/
theorem staysOpen_digits
    {quote : Char}
    {cs : List Char}
    (hQuote : quote ∈ quotes)
    (hDigits :
      ∀ d ∈ cs, isHexDigit d = true ∨ d = '{' ∨ d = '}') :
    staysOpen (closes quote) cs = true := by
  induction cs with
  | nil => rfl
  | cons d cs ih =>
      rcases List.forall_mem_cons.mp hDigits with ⟨hHere, hRest⟩
      have hOther :
          ∀ mark ∈ '\\' :: '\n' :: quotes, d ≠ mark := by
        rintro mark hMark rfl
        have hNone :
            isHexDigit d = false ∧ d ≠ '{' ∧ d ≠ '}' := by
          simp only [List.mem_cons, mem_quotes_iff] at hMark
          rcases hMark with rfl | rfl | rfl | rfl | rfl <;> decide
        rcases hNone with ⟨hHex, hOpening, hClosing⟩
        rcases hHere with hDigit | hBrace | hBrace
        · exact Bool.false_ne_true (hHex.symm.trans hDigit)
        · exact hOpening hBrace
        · exact hClosing hBrace
      have hQuoted := hOther quote (by simp [hQuote])
      rw [staysOpen_cons _ _ (hOther '\\' (by simp)), ih hRest]
      simp [closes, hQuoted, hOther '\n' (by simp)]

/- Every part but one leaves a literal open. -/
theorem StringPart.staysOpen_text
    {quote : Char}
    {p : StringPart}
    (hQuote : quote ∈ quotes)
    (hFits : p.Fits quote)
    (hWhole : p ≠ broken) :
    staysOpen (closes quote) p.text = true := by
  cases p with
  | char c =>
      rcases hFits with ⟨hClose, hEscape, hFeed, -⟩
      rw [text, staysOpen_cons _ _ hEscape]
      simp [closes, hClose, hFeed, staysOpen]
  | escape cs =>
      rcases hFits.eq_cons with ⟨c, rest, rfl, hRest⟩
      rw [text, staysOpen_escape]
      exact staysOpen_digits hQuote hRest
  | continuation ending =>
      cases ending with
      | carriageReturnLineFeed => exact absurd rfl hWhole
      | _ => rfl

theorem staysOpen_parts
    {quote : Char}
    {parts : List StringPart}
    (hQuote : quote ∈ quotes)
    (hFits : ∀ p ∈ parts, p.Fits quote)
    (hWhole : StringPart.broken ∉ parts) :
    staysOpen (closes quote)
        (parts.flatMap StringPart.text) =
      true := by
  induction parts with
  | nil => rfl
  | cons p parts ih =>
      rcases List.forall_mem_cons.mp hFits with ⟨hHere, hRest⟩
      rw [List.mem_cons, not_or] at hWhole
      have hFirst :=
        StringPart.staysOpen_text hQuote hHere
          (Ne.symm hWhole.1)
      rw [List.flatMap_cons,
        staysOpen_append _ _ (isPaired_of_staysOpen hFirst),
        hFirst, ih hRest hWhole.2]
      rfl

end Devirt

------------------------------------------------------------
-- Marks
------------------------------------------------------------

namespace Devirt

open Scanner

namespace CodeMap

/-
  A literal that is opened at an offset is marked up to the
  offset behind the character that closes it: that character
  and the quote are code, nothing between them is, and the
  scanner is at the top level again.
-/
structure Spans
    (code : String)
    (quote : Char)
    (start : Nat)
    (close : Char)
    (stop : Nat) :
    Prop where
  order : start + 2 ≤ stop
  opening : (ofText code).HasCode start (byte quote)
  body : (ofText code).IsLiteral (start + 1) (stop - 1)
  closing : (ofText code).HasCode (stop - 1) (byte close)
  top : TopAt (bytesOf code) stop

/- The first byte of code behind the quote closes a literal. -/
theorem Spans.stop_le
    {code : String}
    {quote close other : Char}
    {start stop later : Nat}
    (hSpans : Spans code quote start close stop)
    (hOther : Spans code quote start other later) :
    stop ≤ later := by
  by_contra hBefore
  have hOrder := hOther.order
  have hLiteral :=
    hSpans.body (later - 1) (by omega) (by omega)
  rw [hOther.closing.isCode_eq] at hLiteral
  cases hLiteral

theorem Spans.stop_eq
    {code : String}
    {quote close other : Char}
    {start stop later : Nat}
    (hSpans : Spans code quote start close stop)
    (hOther : Spans code quote start other later) :
    stop = later :=
  Nat.le_antisymm (hSpans.stop_le hOther)
    (hOther.stop_le hSpans)

/- A literal that has been read is marked. -/
theorem spans_of_reads
    {code : String}
    {quote close : Char}
    {before body ahead : List UInt8}
    {last : Option (List UInt8)}
    (hBytes :
      bytesOf code =
        before ++ (byte quote :: (body ++ [byte close]) ++ ahead))
    (hReads :
      ReadsIn before (byte quote :: (body ++ [byte close])) ahead
        (⟨byte quote, true⟩ ::
          (literalCells body ++ [⟨byte close, true⟩]))
        ⟨.top, last⟩) :
    Spans code quote before.length close
      (before.length + (body.length + 2)) := by
  have hState := hReads.stateAt_eq
  have hOpening :=
    @hasCode_part _ _ _ _ [] _ (byte quote) hReads
  have hBody :=
    @isLiteral_part _ _ _ _ [⟨byte quote, true⟩] _ body hReads
  have hClosing :=
    @hasCode_part _ _ _ _
      (⟨byte quote, true⟩ :: literalCells body) [] (byte close)
      hReads
  rw [← hBytes] at hState hOpening hBody hClosing
  have hLength : (literalCells body).length = body.length :=
    List.length_map _
  rw [List.length_cons, hLength] at hClosing
  rw [List.length_singleton] at hBody
  rw [List.length_cons, List.length_append,
    List.length_singleton] at hState
  refine ⟨by omega, hOpening, ?_, hClosing, ?_⟩
  · intro offset hStart hStop
    exact hBody offset hStart (by omega)
  · exact congrArg State.mode hState

/-
  A literal begins at the top level, and is marked up to the
  first character that closes it.
-/
theorem spans_of_staysOpen
    {code : String}
    {before body ahead : List Char}
    {quote close : Char}
    (hQuote : quote ∈ quotes)
    (hOpen : staysOpen (closes quote) body = true)
    (hClose : closes quote close = true)
    (hCode :
      code.toList =
        before ++ (quote :: (body ++ [close]) ++ ahead))
    (hTop : TopAt (bytesOf code) (encode before).length) :
    Spans code quote (encode before).length close
      ((encode before).length +
        ((encode body).length + 2)) := by
  have hBytes :
      bytesOf code =
        encode before ++
          (byte quote :: (encode body ++ [byte close]) ++
            encode ahead) := by
    have hText :
        encode (quote :: (body ++ [close])) =
          byte quote :: (encode body ++ [byte close]) := by
      rw [encode_cons_ascii _ (quotes_ascii hQuote).1,
        encode_append,
        encode_cons_ascii _ (closes_ascii hQuote hClose),
        encode_nil]
    rw [bytesOf_eq_encode, hCode, encode_append, encode_append,
      hText]
  rcases hTop.exists_eq with ⟨last, hState⟩
  apply spans_of_reads hBytes
  unfold ReadsIn
  rw [← hBytes, hState]
  exact reads_delimited hQuote hOpen hClose

end CodeMap

------------------------------------------------------------
-- Marked Strings
------------------------------------------------------------

open CodeMap

namespace StringLiteral

/-
  A literal between two texts is marked as what it is: both
  quotes are code, nothing between them is, and the scanner is
  at the top level right behind it.
-/
def IsMarked
    (l : StringLiteral)
    (before after : String) :
    Prop :=
  Spans (before ++ l.text ++ after) l.quote
    (bytesOf before).length l.quote
    ((bytesOf before).length + (bytesOf l.text).length)

/- A literal up to the first line feed that it continues over. -/
def upToBreak (l : StringLiteral) (front : List StringPart) :
    List Char :=
  l.quote :: (front.flatMap StringPart.text ++ ['\\', '\r', '\n'])

variable {l : StringLiteral}
variable {before after : String}

/- A literal that continues over no such line end is marked. -/
theorem isMarked_of_whole
    (hTop :
      TopAt (bytesOf (before ++ l.text ++ after))
        (bytesOf before).length)
    (hWhole : StringPart.broken ∉ l.parts) :
    l.IsMarked before after := by
  have hOpen := staysOpen_parts l.quote_mem l.fits hWhole
  have hCode :
      (before ++ l.text ++ after).toList =
        before.toList ++
          (l.quote :: (l.body ++ [l.quote]) ++ after.toList) := by
    simp [text]
  have hLength :
      (bytesOf l.text).length = (encode l.body).length + 2 := by
    have hQuote := (quotes_ascii l.quote_mem).1
    rw [bytesOf_eq_encode, text, String.toList_ofList,
      encode_cons_ascii _ hQuote, encode_append,
      encode_cons_ascii _ hQuote]
    simp
  rw [bytesOf_eq_encode before] at hTop
  unfold IsMarked
  rw [hLength, bytesOf_eq_encode before]
  exact
    spans_of_staysOpen l.quote_mem hOpen l.closes_quote hCode hTop

/- The others end for the scanner within themselves. -/
theorem spans_upToBreak
    {front rest : List StringPart}
    (hTop :
      TopAt (bytesOf (before ++ l.text ++ after))
        (bytesOf before).length)
    (hParts : l.parts = front ++ StringPart.broken :: rest)
    (hFront : StringPart.broken ∉ front) :
    Spans (before ++ l.text ++ after) l.quote
      (bytesOf before).length '\n'
      ((bytesOf before).length +
        (encode (l.upToBreak front)).length) := by
  have hFits : ∀ p ∈ front, p.Fits l.quote := by
    intro p hPart
    apply l.fits
    rw [hParts]
    exact List.mem_append_left _ hPart
  have hOpen :
      staysOpen (closes l.quote)
          (front.flatMap StringPart.text ++ ['\\', '\r']) =
        true := by
    have hParts := staysOpen_parts l.quote_mem hFits hFront
    rw [staysOpen_append _ _ (isPaired_of_staysOpen hParts),
      hParts]
    rfl
  have hCode :
      (before ++ l.text ++ after).toList =
        before.toList ++
          (l.quote ::
              ((front.flatMap StringPart.text ++ ['\\', '\r']) ++
                ['\n']) ++
            (rest.flatMap StringPart.text ++
              l.quote :: after.toList)) := by
    simp [text, body, hParts, StringPart.broken, StringPart.text,
      LineEnd.text]
  have hLength :
      (encode (l.upToBreak front)).length =
        (encode (front.flatMap StringPart.text ++
          ['\\', '\r'])).length + 2 := by
    rw [upToBreak, encode_cons_ascii _
      (quotes_ascii l.quote_mem).1, encode_append, encode_append,
      List.length_cons, List.length_append, List.length_append]
    rfl
  rw [bytesOf_eq_encode before] at hTop ⊢
  rw [hLength]
  exact
    spans_of_staysOpen l.quote_mem hOpen l.closes_lineFeed hCode
      hTop

end StringLiteral

/-
  At the top level a string literal is marked exactly if it
  continues no line over a carriage return and a line feed.
  Where it does, it ends with the first such line feed for the
  scanner.
-/
theorem strings_delimited
    {before after : String}
    {l : StringLiteral}
    (hTop :
      TopAt (bytesOf (before ++ l.text ++ after))
        (bytesOf before).length) :
    (l.IsMarked before after ↔ StringPart.broken ∉ l.parts) ∧
      ∀ front rest,
        l.parts = front ++ StringPart.broken :: rest →
          StringPart.broken ∉ front →
            Spans (before ++ l.text ++ after) l.quote
              (bytesOf before).length '\n'
              ((bytesOf before).length +
                (encode (l.upToBreak front)).length) := by
  refine
    ⟨⟨?_, StringLiteral.isMarked_of_whole hTop⟩,
      fun _ _ => StringLiteral.spans_upToBreak hTop⟩
  rintro hMarked hBroken
  rcases List.eq_append_cons_of_mem hBroken with
    ⟨front, rest, hParts, hFront⟩
  have hBreak := StringLiteral.spans_upToBreak hTop hParts hFront
  have hClosing := hMarked.closing
  rw [hMarked.stop_eq hBreak] at hClosing
  have hSame :=
    Option.some.inj
      (hClosing.byte?_eq.symm.trans hBreak.closing.byte?_eq)
  have hOther : l.quote ≠ '\n' := by
    rcases l.isQuote with hDouble | hSingle
    · simp [hDouble]
    · simp [hSingle]
  exact
    hOther
      (byte_injective (quotes_ascii l.quote_mem).1 (by decide)
        hSame)

/- A string that is continued over a line feed. -/
def continuedString : StringLiteral where
  quote := '\''
  parts := [.char '"', .continuation .lineFeed]
  isQuote := Or.inr rfl
  fits := by simp [StringPart.Fits]

theorem continuedString_marked :
    TopAt (bytesOf ("x = " ++ continuedString.text ++ ";"))
        (bytesOf "x = ").length ∧
      StringPart.broken ∉ continuedString.parts ∧
        continuedString.IsMarked "x = " ";" := by
  have hTop :
      TopAt (bytesOf ("x = " ++ continuedString.text ++ ";"))
        (bytesOf "x = ").length := by
    unfold TopAt
    decide +kernel
  have hWhole :
      StringPart.broken ∉ continuedString.parts := by
    decide
  exact
    ⟨hTop, hWhole, (strings_delimited hTop).1.mpr hWhole⟩

/- One that is continued over a return and a line feed. -/
def brokenString : StringLiteral where
  quote := '\''
  parts := [.broken]
  isQuote := Or.inr rfl
  fits := by simp [StringPart.Fits, StringPart.broken]

theorem brokenString_unmarked :
    TopAt (bytesOf ("" ++ brokenString.text ++ ""))
        (bytesOf "").length ∧
      (ofText ("" ++ brokenString.text ++ "")).HasCode 3
          lineFeed ∧
        ¬ brokenString.IsMarked "" "" := by
  have hFeed :
      (ofText ("" ++ brokenString.text ++ "")).HasCode 3
        lineFeed := by
    unfold HasCode
    decide +kernel
  have hTop :
      TopAt (bytesOf ("" ++ brokenString.text ++ ""))
        (bytesOf "").length := by
    unfold TopAt
    decide +kernel
  refine ⟨hTop, hFeed, ?_⟩
  intro hMarked
  have hLiteral :=
    hMarked.body 3 (by decide +kernel) (by decide +kernel)
  rw [hFeed.isCode_eq] at hLiteral
  cases hLiteral

end Devirt
