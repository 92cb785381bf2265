/-
  Texts as sequences of sixteen-bit units.

  Scripts measure, cut and compare their strings in these units.  A character beyond the
  basic plane takes two units; half of such a pair may stand alone, and is shown as a
  replacement character when the text has to be written out.

  Key definitions include:
    * `Units`
    * `Units.ofString`, `Units.toText`
    * `Units.append`, `Units.slice`, `Units.find?`
-/

namespace Devirt

structure Units where
  units : Array UInt16
  deriving DecidableEq, Hashable, Inhabited, Repr

namespace Units

------------------------------------------------------------
-- Encoding and Decoding
------------------------------------------------------------

def isHighHalf (u : UInt16) : Bool :=
  0xD800 ≤ u && u < 0xDC00

def isLowHalf (u : UInt16) : Bool :=
  0xDC00 ≤ u && u < 0xE000

/-
  The units of a code point.
-/
def ofCodePoint (n : Nat) : List UInt16 :=
  if n < 0x10000 then
    [n.toUInt16]
  else
    [(0xD800 + (n - 0x10000) / 0x400).toUInt16, (0xDC00 + (n - 0x10000) % 0x400).toUInt16]

/-
  The code point of a pair of halves.
-/
def joinHalves (high low : UInt16) : Nat :=
  0x10000 + (high.toNat - 0xD800) * 0x400 + (low.toNat - 0xDC00)

def ofChars (cs : List Char) : Units :=
  ⟨cs.foldl (fun done c => (ofCodePoint c.toNat).foldl Array.push done) #[]⟩

def ofString (s : String) : Units :=
  ofChars s.toList

/-
  The code points of some units; half of a pair that stands alone is its own code point.
-/
def codePointsOf : List UInt16 → List Nat
  | [] => []
  | [u] => [u.toNat]
  | u :: v :: rest =>
    if isHighHalf u && isLowHalf v then
      joinHalves u v :: codePointsOf rest
    else
      u.toNat :: codePointsOf (v :: rest)

def codePoints (s : Units) : List Nat :=
  codePointsOf s.units.toList

/-
  The character of a code point, or the replacement character for half of a pair.
-/
def charOf (n : Nat) : Char :=
  if 0xD800 ≤ n && n < 0xE000 then Char.ofNat 0xFFFD else Char.ofNat n

def toChars (s : Units) : List Char :=
  s.codePoints.map charOf

def toText (s : Units) : String :=
  String.ofList s.toChars

------------------------------------------------------------
-- Operations
------------------------------------------------------------

def empty : Units := ⟨#[]⟩

def size (s : Units) : Nat := s.units.size

def isEmpty (s : Units) : Bool := s.units.isEmpty

def append (s t : Units) : Units := ⟨s.units ++ t.units⟩

instance : Append Units := ⟨append⟩

def ofUnit (u : UInt16) : Units := ⟨#[u]⟩

def get? (s : Units) (i : Nat) : Option UInt16 := s.units[i]?

/-
  The units between two places.
-/
def slice (s : Units) (start stop : Nat) : Units := ⟨s.units.extract start stop⟩

/-
  A text repeated, by doubling.
-/
def replicate (s : Units) : Nat → Units
  | 0 => empty
  | n + 1 =>
    let half := replicate s ((n + 1) / 2)
    if (n + 1) % 2 == 0 then half ++ half else half ++ half ++ s
  decreasing_by omega

/-
  Texts with another one between any two of them.
-/
def intercalate (separator : Units) : List Units → Units
  | [] => empty
  | [s] => s
  | s :: rest => ⟨rest.foldl (fun done t => done ++ separator.units ++ t.units) s.units⟩

/-
  Whether the units of one text stand at a place of another.
-/
def occursAt (s part : Units) (place : Nat) : Bool :=
  place + part.size ≤ s.size
    && (List.range part.size).all fun i => s.units[place + i]? == part.units[i]?

/-
  The first of so many places from a given one at which a text occurs.
-/
def findFrom (s part : Units) : Nat → Nat → Option Nat
  | 0, _ => none
  | n + 1, place =>
    if occursAt s part place then some place else findFrom s part n (place + 1)

/-
  The first place from a given one on at which a text occurs.
-/
def find? (s part : Units) (start : Nat) : Option Nat :=
  findFrom s part (s.size + 1 - start) start

/-
  The last place up to a given one at which a text occurs.
-/
def findLast? (s part : Units) : Nat → Option Nat
  | 0 => if occursAt s part 0 then some 0 else none
  | n + 1 => if occursAt s part (n + 1) then some (n + 1) else findLast? s part n

/-
  Whether a list of units comes before another in the order of units.
-/
def precedes : List UInt16 → List UInt16 → Bool
  | [], [] => false
  | [], _ :: _ => true
  | _ :: _, [] => false
  | a :: as, b :: bs => if a == b then precedes as bs else a < b

def lt (s t : Units) : Bool := precedes s.units.toList t.units.toList

end Units

end Devirt
