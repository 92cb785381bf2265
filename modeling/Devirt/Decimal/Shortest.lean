/-
  The fewest decimal digits that read back as a given double.

  A double stands for every real number that rounds to it, an interval around its
  exact value whose ends belong to it when its mantissa is even.  For one digit, two
  digits and so on, the two neighbours of the exact value on that decimal grid are
  tested against the interval; the first grid with a hit gives the digits, and of two
  hits the nearer one is taken, an exact tie going to the even digit.

  Key definitions include:
    * `Decimal.Binary`, the exact value of a finite double
    * `Decimal.Digits`, a significand and a power of ten
    * `Decimal.shortest`
-/

namespace Devirt

namespace Decimal

------------------------------------------------------------
-- Exact Values
------------------------------------------------------------

/-
  The nonnegative number `mantissa * 2 ^ exponent`.  The flag records that the next
  smaller double is only half as far away as the next larger one.
-/
structure Binary where
  mantissa : Nat
  exponent : Int
  narrowBelow : Bool
  deriving DecidableEq, Repr

namespace Binary

/-
  The magnitude written by the bits of a finite double.
-/
def ofBits (bits : UInt64) : Binary :=
  let fraction : Nat := bits.toNat % Nat.pow 2 52
  let biased : Nat := bits.toNat / Nat.pow 2 52 % Nat.pow 2 11
  if biased = 0 then
    ⟨fraction, -1074, false⟩
  else
    ⟨fraction + Nat.pow 2 52, Int.ofNat biased - 1075, fraction == 0 && biased != 1⟩

/-
  Numerator and denominator of a quarter of the last place.
-/
def quarter (b : Binary) : Nat × Nat :=
  if b.exponent ≥ 2 then
    (Nat.pow 2 (b.exponent - 2).toNat, 1)
  else
    (1, Nat.pow 2 (2 - b.exponent).toNat)

end Binary

------------------------------------------------------------
-- Decimal Digits
------------------------------------------------------------

/-
  The number `significand * 10 ^ exponent`.
-/
structure Digits where
  significand : Nat
  exponent : Int
  deriving DecidableEq, Repr

namespace Digits

/-
  The same number without a zero at the end of its significand, looking at no more
  than the given number of zeros.
-/
def strip : Nat → Digits → Digits
  | 0, d => d
  | n + 1, d =>
    if d.significand ≠ 0 ∧ d.significand % 10 = 0 then
      strip n ⟨d.significand / 10, d.exponent + 1⟩
    else
      d

/-
  The digits of the significand, most significant first.
-/
def text (d : Digits) : List Char :=
  Nat.toDigits 10 d.significand

/-
  The place of the decimal point: the number is `0.d₁d₂… * 10 ^ point`.
-/
def point (d : Digits) : Int :=
  d.text.length + d.exponent

end Digits

------------------------------------------------------------
-- The Shortest Digits
------------------------------------------------------------

/-
  Whether `num / den` is at least `10 ^ e`.
-/
def atLeastPower (num den : Nat) (e : Int) : Bool :=
  if e ≥ 0 then
    den * Nat.pow 10 e.toNat ≤ num
  else
    den ≤ num * Nat.pow 10 (-e).toNat

/-
  The place of the decimal point of `num / den`, found from an estimate that is
  never too large.
-/
def raisePoint (num den : Nat) : Nat → Int → Int
  | 0, p => p
  | n + 1, p =>
    if atLeastPower num den p then raisePoint num den n (p + 1) else p

def pointOf (num den : Nat) : Int :=
  let estimate := ((num.log2 : Int) - (den.log2 : Int) - 1) * 1233 / 4096
  raisePoint num den 8 (estimate - 1)

/-
  The interval of a double, as numerators over one denominator.
-/
structure Interval where
  low : Nat
  value : Nat
  high : Nat
  den : Nat
  closed : Bool
  deriving DecidableEq, Repr

namespace Interval

def ofBinary (b : Binary) : Interval :=
  let (num, den) := b.quarter
  let m := 4 * b.mantissa
  ⟨(m - if b.narrowBelow then 1 else 2) * num, m * num, (m + 2) * num, den,
    b.mantissa % 2 == 0⟩

/-
  The interval measured in units of `10 ^ e`.
-/
def scale (i : Interval) (e : Int) : Interval :=
  if e ≥ 0 then
    { i with den := i.den * Nat.pow 10 e.toNat }
  else
    let k := Nat.pow 10 (-e).toNat
    { i with low := i.low * k, value := i.value * k, high := i.high * k }

/-
  Whether a whole number of units lies in the interval.
-/
def holds (i : Interval) (k : Nat) : Bool :=
  if i.closed then
    i.low ≤ k * i.den && k * i.den ≤ i.high
  else
    i.low < k * i.den && k * i.den < i.high

/-
  The whole number of units next to the value that lies in the interval.
-/
def nearest? (i : Interval) : Option Nat :=
  let below := i.value / i.den
  let above := below + 1
  match i.holds below, i.holds above with
  | false, false => none
  | true, false => some below
  | false, true => some above
  | true, true =>
    let down := i.value - below * i.den
    let up := above * i.den - i.value
    if down < up || (down == up && below % 2 == 0) then some below else some above

end Interval

/-
  Tries grids of more and more digits.
-/
def search
    (i : Interval)
    (point : Int) :
    Nat → Nat → Digits
  | 0, _ => ⟨0, 0⟩
  | fuel + 1, count =>
    let e := point - count
    match (i.scale e).nearest? with
    | some k => (Digits.mk k e).strip 20
    | none => search i point fuel (count + 1)

/-
  The fewest digits that read back as the positive finite double with these bits.
-/
def shortestOfBits (bits : UInt64) : Digits :=
  let i := Interval.ofBinary (Binary.ofBits bits)
  search i (pointOf i.value i.den) 18 1

/-
  The fewest digits that read back as the magnitude of a finite double.
-/
def shortest (x : Float) : Digits :=
  if x == 0 then ⟨0, 0⟩ else shortestOfBits x.toBits

end Decimal

end Devirt
