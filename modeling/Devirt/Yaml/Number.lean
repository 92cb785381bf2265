import Devirt.Yaml.Basic
import Devirt.Source.Literal

/-
  What plain YAML scalars stand for.

  Key definitions include:
    * `Yaml.isNull`
    * `Yaml.natural?`
    * `Yaml.real?`
-/

namespace Devirt

namespace Yaml

/-
  The words for nothing.
-/
def isNull (s : String) : Bool :=
  ["null", "Null", "NULL", "~"].contains s

------------------------------------------------------------
-- Whole Numbers
------------------------------------------------------------

def inBase? (base : Nat) (ds : List Char) : Option Nat :=
  Literal.wordOfDigits? base (fun c => (Literal.hexValue? c).filter (· < base)) ds

/-
  Digits that begin with a needless zero are no number.
-/
def hasNeedlessZero : List Char → Bool
  | '0' :: c :: rest => (c :: rest).all Literal.isDigit
  | _ => false

/-
  A natural number below `2 ^ 64`, with or without a plus sign: digits, or digits in base
  sixteen, eight or two behind `0x`, `0o` or `0b`.
-/
def natural? (s : String) : Option Nat :=
  match Literal.withoutPlus s.toList with
  | '0' :: 'x' :: ds => inBase? 16 ds
  | '0' :: 'o' :: ds => inBase? 8 ds
  | '0' :: 'b' :: ds => inBase? 2 ds
  | ds => if hasNeedlessZero ds then none else inBase? 10 ds

------------------------------------------------------------
-- Doubles
------------------------------------------------------------

def takeSign : List Char → Bool × List Char
  | '-' :: rest => (true, rest)
  | '+' :: rest => (false, rest)
  | cs => (false, cs)

/-
  The power of ten at the end of a numeral.
-/
def exponent? : List Char → Option Int
  | [] => some 0
  | c :: rest =>
    let (minus, ds) := takeSign rest
    if (c == 'e' || c == 'E') && !ds.isEmpty && ds.all Literal.isDigit then
      let n : Int := Decimal.natOfDigits ds
      some (if minus then -n else n)
    else
      none

/-
  A finite numeral without its sign.
-/
def numeral? (cs : List Char) : Option Float := do
  let whole := cs.takeWhile Literal.isDigit
  let rest := cs.dropWhile Literal.isDigit
  let (fraction, rest) := match rest with
    | '.' :: rest => (rest.takeWhile Literal.isDigit, rest.dropWhile Literal.isDigit)
    | rest => ([], rest)
  let e ← exponent? rest
  let x := Decimal.ofNumeral whole fraction e
  if (whole.isEmpty && fraction.isEmpty) || x.isInf then none else some x

/-
  A double: a finite numeral, an infinite number, or the one that is none.
-/
def real? (s : String) : Option Float :=
  if [".inf", ".Inf", ".INF", "+.inf", "+.Inf", "+.INF"].contains s then
    some (1.0 / 0.0)
  else if ["-.inf", "-.Inf", "-.INF"].contains s then
    some (-1.0 / 0.0)
  else if [".nan", ".NaN", ".NAN"].contains s then
    some (0.0 / 0.0)
  else
    let (minus, cs) := takeSign s.toList
    (numeral? cs).map fun x => if minus then -x else x

end Yaml

end Devirt
