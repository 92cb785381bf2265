import Devirt.Decimal.Style
import Devirt.Script.Tree
import Devirt.Source.Literal
import Devirt.Text.Blank
import Devirt.Text.Classes

/-
  The tokens of a script.

  What a character means depends on what came before it: a slash begins a regular
  expression where an operand is due, and a closing brace may continue a template.  So
  tokens are read one at a time, from what is left of the script, and the reader of the
  grammar asks for a token to be read again where it expects one of the special kinds.

  Key definitions include:
    * `Token`, `Lexeme`
    * `Lexeme.next?`, the next token
    * `Lexeme.regexp?`, `Lexeme.templateAfter?`
-/

namespace Devirt

namespace Script

inductive Token where
  /- a name or keyword, with whether escapes were used to write it -/
  | word (text : String) (isEscaped : Bool)
  | secret (text : String)
  | mark (text : String)
  /- `isLegacy` tells numerals and escapes that strict code does not know -/
  | number (x : Float) (isLegacy : Bool)
  | bigint (n : Nat)
  /- `isPlain` says that no escapes were used -/
  | string (s : Units) (isLegacy isPlain : Bool)
  | template (chunk : Chunk) (isLast : Bool)
  | regexp (source flags : String)
  | stop
  deriving Inhabited

namespace Lexer

------------------------------------------------------------
-- Blanks and Comments
------------------------------------------------------------

def isLineEnd (c : Char) : Bool :=
  let n := c.toNat
  n == 10 || n == 13 || n == 0x2028 || n == 0x2029

def isSpace (c : Char) : Bool :=
  let n := c.toNat
  n == 9 || n == 11 || n == 12 || n == 0x20 || n == 0xA0 || n == 0xFEFF || n == 0x1680
    || (0x2000 ≤ n && n ≤ 0x200A) || n == 0x202F || n == 0x205F || n == 0x3000

/-
  Where the search for the next token stands: between tokens or in a comment.
-/
inductive Gap where
  | open
  | line
  | block
  deriving DecidableEq

/-
  Passes over blanks and comments, noting whether a line has ended.  A comment that is
  never closed is an error.
-/
def skip : Gap → Bool → List Char → Option (Bool × List Char)
  | .block, _, [] => none
  | _, newline, [] => some (newline, [])
  | .open, newline, '/' :: '/' :: cs => skip .line newline cs
  | .open, newline, '/' :: '*' :: cs => skip .block newline cs
  | .open, newline, c :: cs =>
    if isLineEnd c then skip .open true cs
    else if isSpace c then skip .open newline cs
    else some (newline, c :: cs)
  | .line, newline, c :: cs =>
    if isLineEnd c then skip .open true cs else skip .line newline cs
  | .block, newline, '*' :: '/' :: cs => skip .open newline cs
  | .block, newline, c :: cs => skip .block (newline || isLineEnd c) cs

/-
  A script without a first line that names its interpreter.
-/
def dropInterpreterLine : List Char → List Char
  | '#' :: '!' :: cs => cs.dropWhile fun c => !isLineEnd c
  | cs => cs

------------------------------------------------------------
-- Escapes
------------------------------------------------------------

/-
  The value of exactly so many hexadecimal digits.
-/
def hexDigits : Nat → Nat → List Char → Option (Nat × List Char)
  | 0, value, cs => some (value, cs)
  | _ + 1, _, [] => none
  | n + 1, value, c :: cs =>
    match Literal.hexValue? c with
    | some d => hexDigits n (16 * value + d) cs
    | none => none

def natOfHex (ds : List Char) : Nat :=
  ds.foldl (fun n c => 16 * n + (Literal.hexValue? c).getD 0) 0

/-
  A code point after the letter of its escape: four digits, or any number in braces.
-/
def codePoint : List Char → Option (Nat × List Char)
  | '{' :: cs =>
    let digits := cs.takeWhile fun c => (Literal.hexValue? c).isSome
    match cs.dropWhile fun c => (Literal.hexValue? c).isSome with
    | '}' :: rest =>
      let n := natOfHex digits
      if digits.isEmpty || n > 0x10FFFF then none else some (n, rest)
    | _ => none
  | cs => hexDigits 4 0 cs

def octalValue? (c : Char) : Option Nat :=
  if '0' ≤ c && c ≤ '7' then some (c.toNat - '0'.toNat) else none

/-
  An octal escape, of up to three digits, the first of which is given.
-/
def octalEscape (first : Nat) : List Char → Nat × List Char
  | a :: b :: cs =>
    match octalValue? a, octalValue? b with
    | some x, some y =>
      if first ≤ 3 then (64 * first + 8 * x + y, cs) else (8 * first + x, b :: cs)
    | some x, none => (8 * first + x, b :: cs)
    | none, _ => (first, a :: b :: cs)
  | [a] =>
    match octalValue? a with
    | some x => (8 * first + x, [])
    | none => (first, [a])
  | [] => (first, [])

/-
  What an escape stands for, after its backslash, and whether strict code knows it.
-/
structure Escape where
  units : List UInt16
  isLegacy : Bool
  rest : List Char

def simpleEscape? : Char → Option Nat
  | 'n' => some 10
  | 't' => some 9
  | 'r' => some 13
  | 'b' => some 8
  | 'v' => some 11
  | 'f' => some 12
  | _ => none

def isDigit (c : Char) : Bool :=
  '0' ≤ c && c ≤ '9'

def startsWithDigit : List Char → Bool
  | c :: _ => isDigit c
  | [] => false

def escape : List Char → Option Escape
  | [] => none
  | '\r' :: '\n' :: cs => some ⟨[], false, cs⟩
  | 'x' :: cs => (hexDigits 2 0 cs).map fun (n, rest) => ⟨[n.toUInt16], false, rest⟩
  | 'u' :: cs => (codePoint cs).map fun (n, rest) => ⟨Units.ofCodePoint n, false, rest⟩
  | c :: cs =>
    if isLineEnd c then
      some ⟨[], false, cs⟩
    else if c == '0' && !startsWithDigit cs then
      some ⟨[0], false, cs⟩
    else
      match octalValue? c with
      | some d =>
        let (n, rest) := octalEscape d cs
        some ⟨[n.toUInt16], true, rest⟩
      | none =>
        match simpleEscape? c with
        | some n => some ⟨[n.toUInt16], false, cs⟩
        | none => some ⟨Units.ofCodePoint c.toNat, c == '8' || c == '9', cs⟩

------------------------------------------------------------
-- Names
------------------------------------------------------------

/-
  The characters of a name, with whether escapes were used.  The number of characters
  left is fuel enough.
-/
def nameFrom : Nat → Bool → Bool → List Char → List Char → Option (String × Bool × List Char)
  | 0, _, _, _, _ => none
  | fuel + 1, first, escaped, done, cs =>
    let fits := fun c => if first then Text.isIdStart c else Text.isIdContinue c
    let finish : Option (String × Bool × List Char) :=
      if first then none else some (String.ofList done.reverse, escaped, cs)
    match cs with
    | '\\' :: 'u' :: rest =>
      match codePoint rest with
      | some (n, rest) =>
        if (n < 0xD800 || 0xE000 ≤ n) && fits (Char.ofNat n) then
          nameFrom fuel false true (Char.ofNat n :: done) rest
        else
          none
      | none => none
    | c :: rest => if fits c then nameFrom fuel false escaped (c :: done) rest else finish
    | [] => finish

def name? (cs : List Char) : Option (String × Bool × List Char) :=
  nameFrom (cs.length + 1) true false [] cs

------------------------------------------------------------
-- Numbers
------------------------------------------------------------

/-
  Digits of a base with single underscores between them, and what follows.
-/
def digitRun (digit : Char → Bool) : List Char → List Char → Option (List Char × List Char)
  | done, '_' :: c :: cs =>
    if digit c && !done.isEmpty then digitRun digit (c :: done) cs else none
  | _, ['_'] => none
  | done, c :: cs =>
    if digit c then digitRun digit (c :: done) cs else some (done.reverse, c :: cs)
  | done, [] => some (done.reverse, [])

def natOfBase (base : Nat) (ds : List Char) : Nat :=
  ds.foldl (fun n c => base * n + (Literal.hexValue? c).getD 0) 0

/-
  Nothing that could continue a name or numeral may follow a numeral.
-/
def endsNumber : List Char → Bool
  | c :: _ => !(Text.isIdStart c || isDigit c || c == '\\')
  | [] => true

def closeNumber (t : Token) (rest : List Char) : Option (Token × List Char) :=
  if endsNumber rest then some (t, rest) else none

/-
  A numeral in a base other than ten, after its two leading characters.
-/
def basedNumber (base : Nat) (cs : List Char) : Option (Token × List Char) := do
  let digit := fun c => match Literal.hexValue? c with
    | some d => d < base
    | none => false
  let (digits, rest) ← digitRun digit [] cs
  if digits.isEmpty then
    none
  else
    let n := natOfBase base digits
    match rest with
    | 'n' :: rest => closeNumber (.bigint n) rest
    | rest => closeNumber (.number (Decimal.ofNat n) false) rest

/-
  The power of ten after the letter that announces it.
-/
def exponentPart : List Char → Option (Int × List Char)
  | c :: cs =>
    if c == 'e' || c == 'E' then do
      let (negative, cs) := match cs with
        | '-' :: cs => (true, cs)
        | '+' :: cs => (false, cs)
        | cs => (false, cs)
      let (digits, rest) ← digitRun isDigit [] cs
      if digits.isEmpty then
        none
      else
        let n : Int := min (Decimal.natOfDigits digits) 100000
        pure (if negative then -n else n, rest)
    else
      some (0, c :: cs)
  | [] => some (0, [])

/-
  The fraction and power of ten of a decimal numeral whose whole digits are given.
-/
def afterWhole
    (whole : List Char)
    (isLegacy : Bool)
    (cs : List Char) :
    Option (Token × List Char) := do
  let (fraction, rest) ← match cs with
    | '.' :: rest => digitRun isDigit [] rest
    | rest => some ([], rest)
  let (exponent, rest) ← exponentPart rest
  closeNumber (.number (Decimal.ofNumeral whole fraction exponent) isLegacy) rest

/-
  A numeral with a superfluous zero in front: octal if its digits allow it.
-/
def legacyNumber (cs : List Char) : Option (Token × List Char) :=
  let digits := cs.takeWhile isDigit
  let rest := cs.dropWhile isDigit
  if digits.all fun c => (octalValue? c).isSome then
    closeNumber (.number (Decimal.ofNat (natOfBase 8 digits)) true) rest
  else
    afterWhole digits true rest

def number? : List Char → Option (Token × List Char)
  | '0' :: c :: cs =>
    if c == 'x' || c == 'X' then basedNumber 16 cs
    else if c == 'o' || c == 'O' then basedNumber 8 cs
    else if c == 'b' || c == 'B' then basedNumber 2 cs
    else if isDigit c then legacyNumber (c :: cs)
    else if c == 'n' then closeNumber (.bigint 0) cs
    else if c == '_' then none
    else afterWhole ['0'] false (c :: cs)
  | '.' :: cs => afterWhole [] false ('.' :: cs)
  | cs => do
    let (whole, rest) ← digitRun isDigit [] cs
    match rest with
    | 'n' :: rest => closeNumber (.bigint (Decimal.natOfDigits whole)) rest
    | rest => afterWhole whole false rest

------------------------------------------------------------
-- Strings and Templates
------------------------------------------------------------

/-
  The rest of a string after its opening quote.  The number of characters left is fuel
  enough.
-/
def stringFrom
    (quote : Char) :
    Nat → Bool → Bool → Array UInt16 → List Char → Option (Token × List Char)
  | 0, _, _, _, _ => none
  | _, _, _, _, [] => none
  | fuel + 1, isLegacy, isPlain, done, c :: cs =>
    if c == quote then
      some (.string ⟨done⟩ isLegacy isPlain, cs)
    else if c == '\\' then
      match escape cs with
      | some e =>
        stringFrom quote fuel (isLegacy || e.isLegacy) false (done ++ e.units.toArray) e.rest
      | none => none
    else if c == '\n' || c == '\r' then
      none
    else
      stringFrom quote fuel isLegacy isPlain (done ++ (Units.ofCodePoint c.toNat).toArray) cs

/-
  The characters of a list that come before a later part of it.
-/
def before (cs later : List Char) : List Char :=
  cs.take (cs.length - later.length)

/-
  A written piece of a template, in which each line ends in the same way.
-/
def normalLines : List Char → List Char
  | '\r' :: '\n' :: cs => '\n' :: normalLines cs
  | '\r' :: cs => '\n' :: normalLines cs
  | c :: cs => c :: normalLines cs
  | [] => []

/-
  Whether an escape in a template stands for anything: octal ones do not.
-/
def templateEscape? (cs : List Char) : Option Escape :=
  match escape cs with
  | some e => if e.isLegacy then none else some e
  | none => none

/-
  A piece of a template from a given place, up to its end or the next expression.
-/
def templateFrom
    (start : List Char) :
    Nat → Option (Array UInt16) → List Char → Option (Token × List Char)
  | 0, _, _ => none
  | fuel + 1, cooked, cs =>
    let piece : Chunk :=
      ⟨cooked.map Units.mk, Units.ofChars (normalLines (before start cs))⟩
    match cs with
    | [] => none
    | '`' :: rest => some (.template piece true, rest)
    | '$' :: '{' :: rest => some (.template piece false, rest)
    | '\\' :: rest =>
      match templateEscape? rest with
      | some e => templateFrom start fuel (cooked.map (· ++ e.units.toArray)) e.rest
      | none => templateFrom start fuel none (rest.drop 1)
    | '\r' :: '\n' :: rest => templateFrom start fuel (cooked.map (·.push 10)) rest
    | '\r' :: rest => templateFrom start fuel (cooked.map (·.push 10)) rest
    | c :: rest =>
      templateFrom start fuel (cooked.map (· ++ (Units.ofCodePoint c.toNat).toArray)) rest

def templatePiece (cs : List Char) : Option (Token × List Char) :=
  templateFrom cs (cs.length + 1) (some #[]) cs

------------------------------------------------------------
-- Regular Expressions
------------------------------------------------------------

/-
  The body of a regular expression: its characters up to the closing slash, which may
  also stand in a class or be escaped.
-/
def regexpBody : Bool → List Char → List Char → Option (List Char × List Char)
  | _, _, [] => none
  | _, _, ['\\'] => none
  | inClass, done, '\\' :: c :: cs =>
    if isLineEnd c then none else regexpBody inClass (c :: '\\' :: done) cs
  | inClass, done, c :: cs =>
    if isLineEnd c then none
    else if c == '/' && !inClass then some (done.reverse, cs)
    else if c == '[' then regexpBody true (c :: done) cs
    else if c == ']' then regexpBody false (c :: done) cs
    else regexpBody inClass (c :: done) cs

def regexp? (cs : List Char) : Option (Token × List Char) := do
  let (body, rest) ← regexpBody false [] cs
  let flags := rest.takeWhile Text.isIdContinue
  let rest := rest.dropWhile Text.isIdContinue
  match body, rest with
  | [], _ => none
  | '*' :: _, _ => none
  | _, '\\' :: _ => none
  | _, _ => pure (.regexp (String.ofList body) (String.ofList flags), rest)

------------------------------------------------------------
-- Marks
------------------------------------------------------------

/-
  The marks of the language, the longer ones first.
-/
def marks : List String :=
  [ ">>>=", "...", "===", "!==", "**=", "<<=", ">>=", ">>>", "&&=", "||=", "??="
  , "=>", "==", "!=", "<=", ">=", "&&", "||", "??", "?.", "++", "--", "+=", "-=", "*=", "/="
  , "%=", "&=", "|=", "^=", "<<", ">>", "**", "\x7b", "\x7d", "(", ")", "[", "]", ".", ";", ","
  , "<", ">", "+", "-", "*", "/", "%", "&", "|", "^", "!", "~", "?", ":", "=" ]

/-
  The mark that a text begins with.  A question mark, a point and a digit are the
  beginning of a conditional.
-/
def mark? (cs : List Char) : Option (Token × List Char) :=
  marks.findSome? fun m =>
    match Text.dropPrefix? m.toList cs with
    | some rest => if m == "?." && startsWithDigit rest then none else some (.mark m, rest)
    | none => none

/-
  The token that a text begins with.
-/
def token? : List Char → Option (Token × List Char)
  | [] => some (.stop, [])
  | '"' :: cs => stringFrom '"' (cs.length + 1) false true #[] cs
  | '\'' :: cs => stringFrom '\'' (cs.length + 1) false true #[] cs
  | '`' :: cs => templatePiece cs
  | '#' :: cs => (name? cs).map fun (x, _, rest) => (.secret x, rest)
  | c :: cs =>
    if isDigit c || (c == '.' && startsWithDigit cs) then
      number? (c :: cs)
    else if Text.isIdStart c || c == '\\' then
      (name? (c :: cs)).map fun (x, escaped, rest) => (.word x escaped, rest)
    else
      mark? (c :: cs)

end Lexer

/-
  A token in its place: whether a line ended before it, the script from it on, and the
  script after it.
-/
structure Lexeme where
  token : Token
  newline : Bool
  start : List Char
  rest : List Char
  deriving Inhabited

namespace Lexeme

/-
  The token after some place.
-/
def next? (cs : List Char) : Option Lexeme := do
  let (newline, start) ← Lexer.skip .open false cs
  let (token, rest) ← Lexer.token? start
  pure ⟨token, newline, start, rest⟩

/-
  A slash read again as the beginning of a regular expression.
-/
def regexp? (l : Lexeme) : Option Lexeme := do
  let (token, rest) ← Lexer.regexp? (l.start.drop 1)
  pure { l with token, rest }

/-
  A closing brace read again as the end of an expression in a template.
-/
def templateAfter? (l : Lexeme) : Option Lexeme := do
  let (token, rest) ← Lexer.templatePiece (l.start.drop 1)
  pure { l with token, rest }

end Lexeme

end Script

end Devirt
