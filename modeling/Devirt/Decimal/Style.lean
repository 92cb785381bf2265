import Devirt.Decimal.Shortest

/-
  Ways of writing a double, and the reading of decimal numerals.

  All ways of writing start from the same shortest digits.  A `Style` decides where
  positional notation ends, whether a whole number keeps a fraction `.0`, and how the
  sign of an exponent and the values that are no finite numbers are written.

  Key definitions include:
    * `Decimal.Style` and `Decimal.Style.write`
    * `Decimal.plain`, digits without any exponent
    * `Decimal.ofNumeral`, the double nearest to a numeral
-/

namespace Devirt

namespace Decimal

------------------------------------------------------------
-- Styles
------------------------------------------------------------

/-
  The decisions of one way of writing doubles.  The bounds speak of the place of the
  decimal point: digits are written positionally from `least` to `most`.
-/
structure Style where
  least : Int
  most : Int
  keepFraction : Bool
  plusExponent : Bool
  signedZero : Bool
  nan : String
  infinity : String
  deriving DecidableEq, Repr

namespace Style

/-
  Positional notation with the point at the given place.
-/
def positional
    (style : Style)
    (digits : List Char)
    (point : Int) :
    List Char :=
  if point ≤ 0 then
    '0' :: '.' :: (List.replicate (-point).toNat '0' ++ digits)
  else
    let n := point.toNat
    if digits.length ≤ n then
      digits ++ List.replicate (n - digits.length) '0'
        ++ (if style.keepFraction then ['.', '0'] else [])
    else
      digits.take n ++ '.' :: digits.drop n

/-
  One digit, a fraction and a power of ten.
-/
def scientific
    (style : Style)
    (digits : List Char)
    (point : Int) :
    List Char :=
  let e := point - 1
  let mark := if e < 0 then ['-'] else if style.plusExponent then ['+'] else []
  let fraction := if digits.length ≤ 1 then [] else '.' :: digits.drop 1
  digits.take 1 ++ fraction ++ 'e' :: mark ++ Nat.toDigits 10 e.natAbs

/-
  The digits of a magnitude in this style.
-/
def writeDigits
    (style : Style)
    (d : Digits) :
    List Char :=
  if d.significand = 0 then
    '0' :: (if style.keepFraction then ['.', '0'] else [])
  else if style.least ≤ d.point ∧ d.point ≤ style.most then
    style.positional d.text d.point
  else
    style.scientific d.text d.point

/-
  A double in this style.
-/
def write
    (style : Style)
    (x : Float) :
    String :=
  if x.isNaN then
    style.nan
  else
    let negative := x.toBits ≥ 0x8000000000000000
    let magnitude :=
      if x.isInf then style.infinity
      else String.ofList (style.writeDigits (shortest x))
    if negative && (x != 0 || style.signedZero) then "-" ++ magnitude else magnitude

end Style

/-
  Digits alone, however many zeros that takes.
-/
def plain : Style :=
  ⟨-400, 400, false, false, true, "NaN", "inf"⟩

------------------------------------------------------------
-- Whole Numbers
------------------------------------------------------------

/-
  The bound below which every whole double is exact.
-/
def exactBound : Float := 9007199254740992.0

/-
  Whether a double is a whole number of magnitude below `exactBound`.
-/
def isExactWhole (x : Float) : Bool :=
  let n := x.abs.toUInt64
  n < 9007199254740992 && n.toFloat == x.abs

/-
  A double that `isExactWhole`, as an integer.
-/
def toInteger (x : Float) : Int :=
  if x < 0 then -((-x).toUInt64.toNat : Int) else (x.toUInt64.toNat : Int)

/-
  The text of a number inside names, expressions and listings: an exact whole number
  as an integer, any other double by its shortest digits.
-/
def describe (x : Float) : String :=
  if isExactWhole x then toString (toInteger x) else plain.write x

------------------------------------------------------------
-- Reading Numerals
------------------------------------------------------------

/-
  The value of decimal digits, most significant first.
-/
def natOfDigits (ds : List Char) : Nat :=
  ds.foldl (fun n c => 10 * n + (c.toNat - '0'.toNat)) 0

/-
  The double nearest to `significand * 10 ^ exponent`.  Numbers beyond the range of
  doubles are settled before any large power is formed.
-/
def ofScaled
    (significand : Nat)
    (exponent : Int) :
    Float :=
  if significand = 0 then
    0.0
  else
    let point := (Nat.toDigits 10 significand).length + exponent
    if point > 400 then
      1.0 / 0.0
    else if point < -400 then
      0.0
    else if exponent ≥ 0 then
      Float.ofScientific significand false exponent.toNat
    else
      Float.ofScientific significand true (-exponent).toNat

/-
  The double nearest to a numeral given by its whole digits, its fraction digits and
  its power of ten.
-/
def ofNumeral
    (whole fraction : List Char)
    (exponent : Int) :
    Float :=
  ofScaled (natOfDigits (whole ++ fraction)) (exponent - fraction.length)

/-
  The double nearest to a natural number.
-/
def ofNat (n : Nat) : Float :=
  ofScaled n 0

end Decimal

end Devirt
