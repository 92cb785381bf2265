import Devirt.Decimal.Style

/-
  Whole parts, fixed places and other bases of doubles.

  Key definitions include:
    * `Decimal.truncate`, the whole part of a double
    * `Decimal.roundDiv`, the nearest whole number to a quotient
    * `Decimal.fixed`, `Decimal.exponential`, `Decimal.precision`
    * `Decimal.inBase`
-/

namespace Devirt

namespace Decimal

------------------------------------------------------------
-- Exact Values
------------------------------------------------------------

def isNegative (x : Float) : Bool := x.toBits ≥ 0x8000000000000000

/-
  The magnitude of a finite double as a quotient.
-/
def quotient (x : Float) : Nat × Nat :=
  let b := Binary.ofBits x.toBits
  if b.exponent ≥ 0 then (b.mantissa * Nat.pow 2 b.exponent.toNat, 1)
  else (b.mantissa, Nat.pow 2 (-b.exponent).toNat)

/-
  The whole part of a finite double.
-/
def truncate (x : Float) : Int :=
  let (n, d) := quotient x
  if isNegative x then -((n / d : Nat) : Int) else ((n / d : Nat) : Int)

/-
  What becomes of a half.
-/
inductive Tie where
  | toEven
  | up
  deriving DecidableEq, Repr

/-
  The whole number nearest to a quotient.
-/
def roundDiv (n d : Nat) (tie : Tie) : Nat :=
  let q := n / d
  let r := n % d
  if 2 * r < d then q
  else if d < 2 * r then q + 1
  else
    match tie with
    | .toEven => q + q % 2
    | .up => q + 1

------------------------------------------------------------
-- Decimal Places
------------------------------------------------------------

def digitsOf (n : Nat) : List Char := Nat.toDigits 10 n

def padLeft (width : Nat) (cs : List Char) : List Char :=
  List.replicate (width - cs.length) '0' ++ cs

/-
  Digits with a point before the last so many of them.
-/
def withPoint (places : Nat) (cs : List Char) : List Char :=
  if places == 0 then
    cs
  else
    let cs := padLeft (places + 1) cs
    cs.take (cs.length - places) ++ '.' :: cs.drop (cs.length - places)

/-
  A magnitude with a fixed number of places.
-/
def fixed (x : Float) (places : Nat) (tie : Tie) : List Char :=
  let (n, d) := quotient x
  withPoint places (digitsOf (roundDiv (n * Nat.pow 10 places) d tie))

/-
  A quotient rounded to so many significant digits, and the exponent of the first one.
  The exponent is known up to one from the shortest digits.
-/
def significant (x : Float) (count : Nat) (tie : Tie) : List Char × Int :=
  if x == 0 then
    (List.replicate count '0', 0)
  else
    let (n, d) := quotient x
    let e := (shortest x).point - 1
    let scale := (count : Int) - 1 - e
    let rounded :=
      if scale ≥ 0 then roundDiv (n * Nat.pow 10 scale.toNat) d tie
      else roundDiv n (d * Nat.pow 10 (-scale).toNat) tie
    let ds := digitsOf rounded
    if ds.length > count then (ds.take count, e + 1) else (ds, e)

def exponentText (e : Int) : List Char :=
  'e' :: (if e < 0 then '-' else '+') :: digitsOf e.natAbs

def leadingPoint (ds : List Char) : List Char :=
  match ds with
  | d :: (c :: cs) => d :: '.' :: c :: cs
  | ds => ds

/-
  A magnitude as one digit, a fraction of so many places and a power of ten; without a
  number of places, the shortest that reads back.
-/
def exponential (x : Float) (places : Option Nat) : List Char :=
  match places with
  | some p =>
    let (ds, e) := significant x (p + 1) .toEven
    leadingPoint ds ++ exponentText e
  | none =>
    if x == 0 then
      ['0'] ++ exponentText 0
    else
      let d := shortest x
      leadingPoint d.text ++ exponentText (d.point - 1)

/-
  A magnitude with so many significant digits.
-/
def precision (x : Float) (count : Nat) : List Char :=
  let (ds, e) := significant x count .up
  if e < -6 || e ≥ count then
    leadingPoint ds ++ exponentText e
  else if e ≥ 0 then
    let whole := e.toNat + 1
    if whole < ds.length then ds.take whole ++ '.' :: ds.drop whole else ds
  else
    '0' :: '.' :: (List.replicate (-e - 1).toNat '0' ++ ds)

------------------------------------------------------------
-- Other Bases
------------------------------------------------------------

def digitChar (n : Nat) : Char :=
  if n < 10 then Char.ofNat (48 + n) else Char.ofNat (87 + n)

/-
  A whole number in a base, before digits that are known.
-/
def wholeInBase (base : Nat) : Nat → Nat → List Char → List Char
  | 0, _, done => done
  | fuel + 1, n, done =>
    if n < base then digitChar n :: done
    else wholeInBase base fuel (n / base) (digitChar (n % base) :: done)

def natInBase (base n : Nat) : List Char :=
  wholeInBase base (n.log2 + 2) n []

/-
  Digits of a fraction, the last first, with a unit added to the last one; the flag says
  that the whole part grows.
-/
def carry (base : Nat) : List Nat → List Nat × Bool
  | [] => ([], true)
  | d :: ds => if d + 1 < base then ((d + 1) :: ds, false) else carry base ds

/-
  The digits of a fraction in a base, the last first, until they tell it apart from its
  neighbours; the flag says that the whole part grows.
-/
def fractionInBase
    (base : Nat) :
    Nat → Float → Float → List Nat → List Nat × Bool
  | 0, _, _, done => (done, false)
  | fuel + 1, fraction, delta, done =>
    let b := base.toFloat
    let scaled := fraction * b
    let delta := delta * b
    let digit := scaled.floor
    let rest := scaled - digit
    let done := digit.toUInt64.toNat :: done
    if rest > 0.5 || (rest == 0.5 && digit.toUInt64.toNat % 2 == 1) then
      if rest + delta > 1.0 then
        carry base done
      else if rest ≥ delta then
        fractionInBase base fuel rest delta done
      else
        (done, false)
    else if rest ≥ delta then
      fractionInBase base fuel rest delta done
    else
      (done, false)

/-
  Half the distance from a positive double to the next one.
-/
def halfGap (x : Float) : Float :=
  0.5 * (Float.ofBits (x.toBits + 1) - x)

/-
  A whole double in a base.  Of the digits of a double from `exactBound` on, those that it
  does not determine are zeros.
-/
def largeInBase (base : Nat) : Nat → Float → List Char → List Char
  | 0, _, zeros => zeros
  | fuel + 1, x, zeros =>
    if x ≥ exactBound then largeInBase base fuel (x / base.toFloat) ('0' :: zeros)
    else natInBase base (truncate x).toNat ++ zeros

/-
  A positive double in a base.
-/
def inBase (x : Float) (base : Nat) : List Char :=
  let whole := x.floor
  let fraction := x - whole
  let delta := if halfGap x > 0 then halfGap x else Float.ofBits 1
  let (digits, grows) :=
    if fraction ≥ delta then fractionInBase base 1100 fraction delta [] else ([], false)
  let digits := digits.reverse.map digitChar
  largeInBase base 1100 (if grows then whole + 1 else whole) [] ++ (if digits.isEmpty then [] else '.' :: digits)

end Decimal

end Devirt
