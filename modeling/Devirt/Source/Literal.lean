import Devirt.Decimal.Style
import Devirt.Text.Blank

/-
  Numbers and texts as they label, name and feed the instructions of a machine.

  A case label is read as a number when it is written in decimal or hexadecimal digits,
  loses its quotes when it is quoted, and is kept as it stands otherwise.

  Key definitions include:
    * `Literal`
    * `Literal.number?`, the reading of numerals
    * `Literal.ofLabel`, the reading of case labels
    * `Literal.describe`, `Literal.index?`
-/

namespace Devirt

/-
  A number or a text.
-/
inductive Literal where
  | number (x : Float)
  | text (s : String)
  deriving Repr, BEq, Inhabited

namespace Literal

------------------------------------------------------------
-- Numerals
------------------------------------------------------------

def isDigit (c : Char) : Bool :=
  '0' ≤ c && c ≤ '9'

def hexValue? (c : Char) : Option Nat :=
  if '0' ≤ c && c ≤ '9' then some (c.toNat - '0'.toNat)
  else if 'a' ≤ c && c ≤ 'f' then some (c.toNat - 'a'.toNat + 10)
  else if 'A' ≤ c && c ≤ 'F' then some (c.toNat - 'A'.toNat + 10)
  else none

/-
  The bound of unsigned machine words.
-/
def wordBound : Nat := Nat.pow 2 64

/-
  The value of digits in a base, if there is one digit at least, all are digits and
  the value is below `wordBound`.
-/
def wordOfDigits?
    (base : Nat)
    (digit? : Char → Option Nat)
    (ds : List Char) :
    Option Nat :=
  if ds.isEmpty then
    none
  else
    let value := ds.foldl
      (fun (acc : Option Nat) c => do
        let n ← acc
        let d ← digit? c
        pure (base * n + d))
      (some 0)
    match value with
    | some n => if n < wordBound then some n else none
    | none => none

/-
  Digits after an optional plus sign.
-/
def withoutPlus : List Char → List Char
  | '+' :: ds => ds
  | ds => ds

def decimalValue? (c : Char) : Option Nat :=
  if isDigit c then some (c.toNat - '0'.toNat) else none

/-
  A word written in hexadecimal digits.
-/
def hexWord? (ds : List Char) : Option Nat :=
  wordOfDigits? 16 hexValue? (withoutPlus ds)

/-
  A word written in decimal digits.
-/
def decimalWord? (ds : List Char) : Option Nat :=
  wordOfDigits? 10 decimalValue? (withoutPlus ds)

/-
  The value of decimal digits with at most one point among them.
-/
def decimal? (cs : List Char) : Option Float :=
  let whole := cs.takeWhile isDigit
  match cs.dropWhile isDigit with
  | [] => if whole.isEmpty then none else some (Decimal.ofNumeral whole [] 0)
  | '.' :: fraction =>
    if fraction.all isDigit && !(whole.isEmpty && fraction.isEmpty) then
      some (Decimal.ofNumeral whole fraction 0)
    else
      none
  | _ => none

/-
  The number written by a text: hexadecimal digits after `0x`, or decimal digits after
  any number of minus signs.
-/
def number? (s : String) : Option Float :=
  match (Text.trim s).toList with
  | '0' :: 'x' :: ds => (hexWord? ds).map Decimal.ofNat
  | '0' :: 'X' :: ds => (hexWord? ds).map Decimal.ofNat
  | cs =>
    let digits := cs.dropWhile (· == '-')
    match decimal? digits with
    | some x => some (if cs.head? == some '-' then -x else x)
    | none => none

------------------------------------------------------------
-- Case Labels
------------------------------------------------------------

/-
  A text without the quotes around it.
-/
def unquote (cs : List Char) : List Char :=
  match cs with
  | q :: rest =>
    if (q == '"' || q == '\'') && !rest.isEmpty && rest.getLast? == some q then
      rest.dropLast
    else
      cs
  | [] => []

/-
  What a case label stands for.
-/
def ofLabel (s : String) : Literal :=
  match number? s with
  | some x => .number x
  | none => .text (String.ofList (unquote (Text.trim s).toList))

------------------------------------------------------------
-- Texts and Indices
------------------------------------------------------------

def describe : Literal → String
  | number x => Decimal.describe x
  | text s => s

/-
  The index a literal stands for: a whole number that is not negative, cut at the
  largest word, or a text of decimal digits.
-/
def index? : Literal → Option Nat
  | number x => if x ≥ 0 && x.floor == x && !x.isInf then some x.toUInt64.toNat else none
  | text s => decimalWord? (Text.trim s).toList

end Literal

end Devirt
