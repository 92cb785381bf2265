import Devirt.Text.Classes

/-
  Sets of characters, kept by their borders.

  A set is the sorted list of the code points at which it begins or ends.  Sets are
  combined by walking along the borders of both.

  Key definitions include:
    * `Text.Borders`, `Text.Borders.combine`
    * `Text.Entry`, the table of a property
-/

namespace Devirt

namespace Text

/-
  The code points at which a set begins and ends by turns.
-/
abbrev Borders := List Nat

namespace Borders

/-
  The borders that come from run lengths, the first of which lies outside of the set.
-/
def ofRuns : Nat → List Nat → Borders
  | _, [] => []
  | start, n :: rest => (start + n) :: ofRuns (start + n) rest

/-
  Whether a character is in a set.
-/
def contains : Borders → Nat → Bool
  | [], _ => false
  | [a], n => a ≤ n
  | a :: b :: rest, n => (a ≤ n && n < b) || contains rest n

/-
  The first border of two sets.
-/
def first? : Borders → Borders → Option Nat
  | a :: _, b :: _ => some (min a b)
  | a :: _, [] => some a
  | [], b :: _ => some b
  | [], [] => none

/-
  Whether a set changes at a character, and its borders after that.
-/
def passed (p : Nat) (bs : Borders) : Bool × Borders :=
  match bs with
  | b :: rest => if b == p then (true, rest) else (false, bs)
  | [] => (false, [])

/-
  Walks along the borders of two sets and keeps those at which the answer of a test
  changes; the test is told whether a character is in the first and in the second set.
-/
def walk (keep : Bool → Bool → Bool) : Nat → Bool → Bool → Borders → Borders → Borders
  | 0, _, _, _, _ => []
  | fuel + 1, inA, inB, as, bs =>
    match first? as bs with
    | none => []
    | some p =>
      let (changesA, as) := passed p as
      let (changesB, bs) := passed p bs
      let rest := walk keep fuel (inA != changesA) (inB != changesB) as bs
      if keep (inA != changesA) (inB != changesB) == keep inA inB then rest else p :: rest

/-
  The characters that pass a test, which fails for those that are in neither set.
-/
def combine (keep : Bool → Bool → Bool) (as bs : Borders) : Borders :=
  walk keep (as.length + bs.length + 1) false false as bs

def union (as bs : Borders) : Borders := combine (· || ·) as bs

def inter (as bs : Borders) : Borders := combine (· && ·) as bs

def diff (as bs : Borders) : Borders := combine (fun a b => a && !b) as bs

/-
  The characters that are in exactly one of two sets.
-/
def toggle (as bs : Borders) : Borders := combine (· != ·) as bs

def complement (as : Borders) : Borders := toggle [0] as

/-
  The characters from one to another.
-/
def between (a b : Nat) : Borders := [a, b + 1]

def ofRanges (rs : List (Nat × Nat)) : Borders :=
  rs.foldl (fun done r => union done (between r.1 r.2)) []

/-
  The ranges of a set, with both ends, up to a last character.
-/
def ranges (last : Nat) : Borders → List (Nat × Nat)
  | a :: b :: rest => (a, b - 1) :: ranges last rest
  | [a] => [(a, last)]
  | [] => []

end Borders

/-
  The names of a property and the runs of its characters from zero on.
-/
structure Entry where
  names : List String
  runs : List String

namespace Entry

def borders (e : Entry) : Borders :=
  Borders.ofRuns 0 (e.runs.flatMap numbers)

/-
  The entry of a table with a name.
-/
def find? (table : List Entry) (name : String) : Option Entry :=
  table.find? fun e => e.names.contains name

end Entry

end Text

end Devirt
