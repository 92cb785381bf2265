import Devirt.Yaml.Basic
import Devirt.Decimal.Style

/-
  Writing YAML scalars.

  A text is written as it stands where that can be read back as the same text.  A text of
  several lines becomes a literal block, and any other text is quoted: in single quotes,
  or in double quotes when it has characters that only an escape can write.

  Key definitions include:
    * `Yaml.TextForm`, `Yaml.formOf`
    * `Yaml.writeText`
    * `Yaml.writeReal`
-/

namespace Devirt

namespace Yaml

------------------------------------------------------------
-- Classes of Characters and Texts
------------------------------------------------------------

/-
  The characters that are written without an escape.
-/
def isPrintable (c : Char) : Bool :=
  let n := c.toNat
  n == 0x0A || (0x20 ≤ n && n ≤ 0x7E) || (0xA0 ≤ n && n ≤ 0xFFFD && n != 0xFEFF) || 0x10000 ≤ n

/-
  Whether two neighbouring characters satisfy two conditions.
-/
def hasPair (p q : Char → Bool) : List Char → Bool
  | a :: b :: rest => (p a && q b) || hasPair p q (b :: rest)
  | _ => false

/-
  The words that some reader takes for a truth value or for nothing, in small letters.
-/
def reservedWords : List String :=
  ["true", "false", "yes", "no", "on", "off", "y", "n", "null", "nil", "~"]

/-
  Whether a text could be taken for something else than a text: a reserved word, or what
  begins like a number.
-/
def isAmbiguous (cs : List Char) : Bool :=
  match cs with
  | [] => true
  | c :: _ =>
    c.isDigit || c == '-' || c == '.' || c == '+'
      || reservedWords.contains (String.ofList (cs.map Char.toLower))

/-
  Whether a text begins with a character that means something else at the beginning of a
  plain scalar.
-/
def beginsWithIndicator : List Char → Bool
  | [] => false
  | c :: rest =>
    ['#', ',', '[', ']', '{', '}', '&', '*', '!', '|', '>', '\'', '"', '%', '@', '\x60'].contains c
      || ((c == '?' || c == '-') && gapAhead rest)

/-
  Whether a text has a colon before a blank or a hash behind one.
-/
def hasInnerIndicator (cs : List Char) : Bool :=
  hasPair (· == ':') isGap cs || cs.getLast? == some ':' || hasPair isGap (· == '#') cs

/-
  Whether a text may be written as it stands.
-/
def isPlainText (cs : List Char) : Bool :=
  cs.all (fun c => isPrintable c && !isBreak c) && cs.head? != some ' '
    && cs.getLast? != some ' ' && !beginsWithIndicator cs && !hasInnerIndicator cs

------------------------------------------------------------
-- Forms
------------------------------------------------------------

inductive TextForm where
  | plain
  | single
  | double
  | literal
  deriving DecidableEq, Repr

/-
  The form in which a text is written.
-/
def formOf (cs : List Char) : TextForm :=
  let simple := cs.all isPrintable && !hasPair (· == ' ') isBreak cs
  if cs.contains '\n' then
    if simple && cs.getLast? != some ' ' then .literal else .double
  else if !isAmbiguous cs && isPlainText cs then
    .plain
  else if simple && !hasPair isBreak (· == ' ') cs then
    .single
  else
    .double

/-
  Characters with the beginning of every line moved to a column, and single characters
  written by a function.
-/
def indented (column : Nat) (write : Char → List Char) : (fresh : Bool) → List Char → List Char
  | _, [] => []
  | fresh, c :: cs =>
    if isBreak c then
      c :: indented column write true cs
    else
      (if fresh then List.replicate column ' ' else []) ++ write c
        ++ indented column write false cs

def writeSingle (column : Nat) (cs : List Char) : List Char :=
  let closing := if cs.getLast?.any isBreak then List.replicate column ' ' else []
  ['\''] ++ indented column (fun c => if c == '\'' then ['\'', '\''] else [c]) false cs
    ++ closing ++ ['\'']

def hexChar (n : Nat) : Char :=
  if n < 10 then Char.ofNat ('0'.toNat + n) else Char.ofNat ('A'.toNat + (n - 10))

/-
  A number in so many hexadecimal digits.
-/
def hexText : Nat → Nat → List Char
  | 0, _ => []
  | width + 1, n => hexChar (n / Nat.pow 16 width % 16) :: hexText width n

/-
  The escapes with a letter of their own.
-/
def shortEscapes : List (Char × Char) :=
  [ ('\x00', '0'), ('\x07', 'a'), ('\x08', 'b'), ('\t', 't'), ('\n', 'n'), ('\x0b', 'v')
  , ('\x0c', 'f'), ('\r', 'r'), ('\x1b', 'e'), ('"', '"'), ('\\', '\\'), ('\u0085', 'N')
  , ('\u2028', 'L'), ('\u2029', 'P') ]

/-
  How a character is written between double quotes.
-/
def escapeChar (c : Char) : List Char :=
  if isPrintable c && !isBreak c && c != '"' && c != '\\' then
    [c]
  else
    match shortEscapes.find? fun e => e.1 == c with
    | some (_, letter) => ['\\', letter]
    | none =>
      let n := c.toNat
      if n ≤ 0xFF then '\\' :: 'x' :: hexText 2 n
      else if n ≤ 0xFFFF then '\\' :: 'u' :: hexText 4 n
      else '\\' :: 'U' :: hexText 8 n

def writeDouble (cs : List Char) : List Char :=
  ['"'] ++ cs.flatMap escapeChar ++ ['"']

/-
  The signs behind the bar: the indentation if the text begins with a blank or a line
  end, and what becomes of the line ends behind the text.
-/
def hintsOf (step : Nat) (cs : List Char) : List Char :=
  let indentation := if cs.head?.any fun c => c == ' ' || isBreak c then Nat.toDigits 10 step else []
  let ends := (cs.reverse.takeWhile isBreak).length
  let chomping :=
    if ends = 0 then ['-'] else if ends = 1 ∧ cs.length ≠ 1 then [] else ['+']
  indentation ++ chomping

def writeLiteral (step column : Nat) (cs : List Char) : List Char :=
  ['|'] ++ hintsOf step cs ++ ['\n'] ++ indented column (fun c => [c]) true cs

/-
  The blanks by which each level of a document is moved to the right.
-/
def indentStep : Nat := 2

/-
  A text as the value of a key in a mapping at the given level, up to the end of its last
  line.
-/
def writeText (level : Nat) (s : String) : String :=
  let cs := s.toList
  let column := indentStep * (level + 1)
  let written := match formOf cs with
    | .plain => cs
    | .single => writeSingle column cs
    | .double => writeDouble cs
    | .literal => writeLiteral indentStep column cs
  String.ofList (if written.getLast?.any isBreak then written else written ++ ['\n'])

------------------------------------------------------------
-- Numbers
------------------------------------------------------------

/-
  Doubles keep a fraction when they are whole, and use an exponent below `10 ^ -5` and
  from `10 ^ 16` on.
-/
def realStyle : Decimal.Style :=
  ⟨-4, 16, true, false, true, ".nan", ".inf"⟩

def writeReal (x : Float) : String :=
  realStyle.write x

end Yaml

end Devirt
