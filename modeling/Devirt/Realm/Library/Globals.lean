import Devirt.Realm.Library.Numbers

/-
  The functions that stand alone: reading of numbers and escaping of addresses.

  Key definitions include:
    * `parseWhole`, `parseReal`
    * `encodeAddress`, `decodeAddress`
    * `callGlobal`
-/

namespace Devirt

namespace Realm

namespace Library

------------------------------------------------------------
-- Numbers
------------------------------------------------------------

/-
  The value of a digit or letter.
-/
def alphabetValue? (c : Char) : Option Nat :=
  let n := c.toNat
  if 48 ≤ n && n ≤ 57 then some (n - 48)
  else if 97 ≤ n && n ≤ 122 then some (n - 87)
  else if 65 ≤ n && n ≤ 90 then some (n - 55)
  else none

/-
  The digits in a base that a text begins with.
-/
def digitsOfBase (base : Nat) (cs : List Char) : List Nat :=
  (cs.takeWhile fun c => (alphabetValue? c).any (· < base)).filterMap alphabetValue?

/-
  A text without the mark of base sixteen, and whether it had one.
-/
def dropHexMark : List Char → List Char × Bool
  | '0' :: 'x' :: rest => (rest, true)
  | '0' :: 'X' :: rest => (rest, true)
  | cs => (cs, false)

/-
  The whole number in a base that a text begins with.
-/
def parseWhole (s : Units) (radix : Int) : Float :=
  let cs := s.toChars.dropWhile isTextSpace
  let (negative, cs) := match cs with
    | '-' :: rest => (true, rest)
    | '+' :: rest => (false, rest)
    | cs => (false, cs)
  if radix != 0 && (radix < 2 || radix > 36) then
    nan
  else
    let (cs, isHex) := if radix == 0 || radix == 16 then dropHexMark cs else (cs, false)
    let base := if isHex then 16 else if radix == 0 then 10 else radix.toNat
    let digits := digitsOfBase base cs
    if digits.isEmpty then
      nan
    else
      let x := Decimal.ofNat (digits.foldl (fun n d => base * n + d) 0)
      if negative then -x else x

/-
  The number that a text begins with.
-/
def parseReal (s : Units) : Float :=
  match signedPrefix (s.toChars.dropWhile isTextSpace) with
  | some (x, _) => x
  | none => nan

------------------------------------------------------------
-- Addresses
------------------------------------------------------------

def unreservedMarks : List Char := "-_.!~*'()".toList

def reservedMarks : List Char := ";/?:@&=+$,#".toList

def isPlainMark (extra : List Char) (n : Nat) : Bool :=
  n < 128 && (Text.isAsciiAlphanumeric (Char.ofNat n) || unreservedMarks.contains (Char.ofNat n)
    || extra.contains (Char.ofNat n))

def hexUpper (n : Nat) : Char :=
  if n < 10 then Char.ofNat (48 + n) else Char.ofNat (55 + n)

def escapeByte (b : UInt8) : List UInt16 :=
  [37, (hexUpper (b.toNat / 16)).toNat.toUInt16, (hexUpper (b.toNat % 16)).toNat.toUInt16]

def addressError : Run α := raiseError .uri "invalid URI"

/-
  A text with the bytes of all but some characters written as numbers.
-/
def encodeAddress (s : Units) (extra : List Char) : Run Value := do
  let parts ← s.codePoints.mapM fun n => do
    if isPlainMark extra n then
      return [n.toUInt16]
    else if 0xD800 ≤ n && n < 0xE000 then
      addressError
    else
      return (String.singleton (Char.ofNat n)).toUTF8.toList.flatMap escapeByte
  return .string ⟨parts.flatten.toArray⟩

/-
  The bytes that are written as numbers from the beginning of a text on.
-/
def escapedBytes : List UInt16 → Option (List UInt8 × List UInt16)
  | 37 :: a :: b :: rest => do
    let high ← Literal.hexValue? (Char.ofNat a.toNat)
    let low ← Literal.hexValue? (Char.ofNat b.toNat)
    match escapedBytes rest with
    | some (bytes, rest) => some ((16 * high + low).toUInt8 :: bytes, rest)
    | none => none
  | 37 :: _ => none
  | rest => some ([], rest)

/-
  A text with the numbers of bytes replaced by characters, but for the characters that
  stay escaped, in so many steps at most.
-/
def decodeFrom (kept : List Char) : Nat → List UInt16 → List UInt16 → Option (List UInt16)
  | 0, _, done => some done.reverse
  | _, [], done => some done.reverse
  | fuel + 1, 37 :: rest, done =>
    match escapedBytes (37 :: rest) with
    | none => none
    | some (bytes, after) =>
      match String.fromUTF8? ⟨bytes.toArray⟩ with
      | none => none
      | some text =>
        let units := text.toList.flatMap fun c =>
          if kept.contains c then escapeByte c.toNat.toUInt8 else Units.ofCodePoint c.toNat
        decodeFrom kept fuel after (units.reverse ++ done)
  | fuel + 1, u :: rest, done => decodeFrom kept fuel rest (u :: done)

def decodeAddress (s : Units) (kept : List Char) : Run Value := do
  let units := s.units.toList
  match decodeFrom kept (units.length + 1) units [] with
  | some units => return .string ⟨units.toArray⟩
  | none => addressError

------------------------------------------------------------
-- The Functions
------------------------------------------------------------

def callGlobal (m : Machine) (f : GlobalFunction) (arguments : List Value) : Run Value := do
  let a := argument arguments 0
  match f with
  | .parseInt =>
    let s ← toUnits m a
    let radix ← toInt32 m (argument arguments 1)
    return .number (parseWhole s radix)
  | .parseFloat => return .number (parseReal (← toUnits m a))
  | .isNaN => return .bool (← toNumber m a).isNaN
  | .isFinite =>
    let x ← toNumber m a
    return .bool !(x.isNaN || x.isInf)
  | .encodeURI => encodeAddress (← toUnits m a) reservedMarks
  | .encodeURIComponent => encodeAddress (← toUnits m a) []
  | .decodeURI => decodeAddress (← toUnits m a) reservedMarks
  | .decodeURIComponent => decodeAddress (← toUnits m a) []
  | .eval => return a

end Library

end Realm

end Devirt
