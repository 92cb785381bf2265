import Devirt.Text.Classes
import Devirt.Text.Normal.Canonical
import Devirt.Text.Normal.Compatible

/-
  Forms in which equal texts are written alike.

  In the decomposed form each character is replaced by the sequence it is equal to, and
  marks that do not affect each other stand in a fixed order.  In the composed form
  characters and marks are then put together again where possible.

  Key definitions include:
    * `Text.Form`, `Text.normalize`
    * `Text.decompose`, `Text.compose`
-/

namespace Devirt

namespace Text

------------------------------------------------------------
-- Tables
------------------------------------------------------------

namespace Normal

/-
  A run of characters and the first of the characters, or the class, it belongs to.
-/
structure Run where
  first : Nat
  count : Nat
  target : Nat
  deriving Repr, Inhabited

def runsOf : List Nat → List Run
  | first :: count :: target :: rest => ⟨first, count, target⟩ :: runsOf rest
  | _ => []

/-
  Characters with the sequences given for them, in so many entries at most.
-/
def sequencesOf : Nat → List Nat → List (Nat × List Nat)
  | fuel + 1, n :: length :: rest => (n, rest.take length) :: sequencesOf fuel (rest.drop length)
  | _, _ => []

/-
  Runs of characters with one character given for each, in so many runs at most.
-/
def singlesOf : Nat → List Nat → List (Nat × List Nat)
  | fuel + 1, first :: count :: rest =>
    (rest.take count).zipIdx.map (fun (n, i) => (first + i, [n]))
      ++ singlesOf fuel (rest.drop count)
  | _, _ => []

/-
  A character that is made of another one and a mark.
-/
structure Pair where
  whole : Nat
  base : Nat
  mark : Nat
  deriving Repr, Inhabited

def pairsWith (mark : Nat) : List Nat → List Pair
  | whole :: base :: rest => ⟨whole, base, mark⟩ :: pairsWith mark rest
  | _ => []

/-
  The pairs with each mark, in so many marks at most.
-/
def pairsOf : Nat → List Nat → List Pair
  | fuel + 1, mark :: count :: rest =>
    pairsWith mark (rest.take (2 * count)) ++ pairsOf fuel (rest.drop (2 * count))
  | _, _ => []

def pairs : List Pair :=
  let ns := pairNumbers.flatMap numbers
  pairsOf ns.length ns

/-
  The characters that are equal to sequences but are never made of them.
-/
def equals : List (Nat × List Nat) :=
  let singles := singleNumbers.flatMap numbers
  let longs := longNumbers.flatMap numbers
  singlesOf singles.length singles ++ sequencesOf longs.length longs

def classes : List Run := runsOf (classNumbers.flatMap numbers)

def likes : List Run := runsOf (likeNumbers.flatMap numbers)

def longLikes : List (Nat × List Nat) :=
  let ns := longLikeNumbers.flatMap numbers
  sequencesOf ns.length ns

end Normal

open Devirt.Text.Normal

------------------------------------------------------------
-- Decomposition
------------------------------------------------------------

/-
  Syllables of the Korean script are made of two or three letters by calculation.
-/
structure Syllable where
  lead : Nat
  vowel : Nat
  /- zero if there is none -/
  tail : Nat

namespace Syllable

def firstOf : Nat := 0xAC00

def leadFirst : Nat := 0x1100

def vowelFirst : Nat := 0x1161

def tailFirst : Nat := 0x11A7

def leads : Nat := 19

def vowels : Nat := 21

def tails : Nat := 28

def ofCode? (n : Nat) : Option Syllable :=
  let i := n - firstOf
  if n < firstOf || i ≥ leads * vowels * tails then none
  else some ⟨i / (vowels * tails), i % (vowels * tails) / tails, i % tails⟩

def letters (s : Syllable) : List Nat :=
  let two := [leadFirst + s.lead, vowelFirst + s.vowel]
  if s.tail == 0 then two else two ++ [tailFirst + s.tail]

/-
  The syllable that two letters make, or a syllable without a tail and a letter.
-/
def join? (a b : Nat) : Option Nat :=
  if leadFirst ≤ a && a < leadFirst + leads && vowelFirst ≤ b && b < vowelFirst + vowels then
    some (firstOf + ((a - leadFirst) * vowels + (b - vowelFirst)) * tails)
  else
    match ofCode? a with
    | some s =>
      if s.tail == 0 && tailFirst < b && b < tailFirst + tails then some (a + (b - tailFirst))
      else none
    | none => none

end Syllable

/-
  The sequence that a character is equal to, in one step.
-/
def equalTo? (n : Nat) : Option (List Nat) :=
  if n < 0xC0 then
    none
  else
    match Syllable.ofCode? n with
    | some s => some s.letters
    | none =>
      match pairs.find? fun p => p.whole == n with
      | some p => some [p.base, p.mark]
      | none => (equals.find? fun e => e.1 == n).map (·.2)

/-
  The sequence that a character is written for.
-/
def likeOf? (n : Nat) : Option (List Nat) :=
  if n < 0xA0 then
    none
  else
    match likes.find? fun r => r.first ≤ n && n < r.first + r.count with
    | some r => some [r.target + (n - r.first)]
    | none => (longLikes.find? fun e => e.1 == n).map (·.2)

/-
  The last parts of a character, in so many steps at most.
-/
def partsWithin (isLoose : Bool) : Nat → Nat → List Nat
  | 0, n => [n]
  | steps + 1, n =>
    let parts? := if isLoose then (likeOf? n).orElse fun _ => equalTo? n else equalTo? n
    match parts? with
    | some parts => parts.flatMap (partsWithin isLoose steps)
    | none => [n]

/-
  More steps than it takes to decompose any character.
-/
def mostSteps : Nat := 8

/-
  The class of a mark, or zero for what is no mark.
-/
def classOf (n : Nat) : Nat :=
  if n < 0x300 then 0
  else ((classes.find? fun r => r.first ≤ n && n < r.first + r.count).map (·.target)).getD 0

/-
  Puts the marks that follow each other in the order of their classes.
-/
def orderMarks : List (Nat × Nat) → List (Nat × Nat) → List Nat
  | marks, [] => (marks.mergeSort fun a b => a.2 ≤ b.2).map (·.1)
  | marks, (n, 0) :: rest =>
    (marks.mergeSort fun a b => a.2 ≤ b.2).map (·.1) ++ n :: orderMarks [] rest
  | marks, x :: rest => orderMarks (marks ++ [x]) rest

/-
  The decomposed form; the loose one takes apart as well what differs in its looks only.
-/
def decompose (isLoose : Bool) (ns : List Nat) : List Nat :=
  let parts := ns.flatMap (partsWithin isLoose mostSteps)
  orderMarks [] (parts.map fun n => (n, classOf n))

------------------------------------------------------------
-- Composition
------------------------------------------------------------

/-
  The character that two others make.
-/
def join? (a b : Nat) : Option Nat :=
  match Syllable.join? a b with
  | some n => some n
  | none => (pairs.find? fun p => p.mark == b && p.base == a).map (·.whole)

/-
  Puts together what can be: the last character that is no mark, what follows it so far,
  the last first, and the class of the last of that.
-/
def composeFrom (base : Nat) (after : List Nat) (last : Nat) : List Nat → List Nat
  | [] => base :: after.reverse
  | n :: rest =>
    let c := classOf n
    let isFree := after.isEmpty || (last != 0 && last < c)
    match if isFree then join? base n else none with
    | some whole => composeFrom whole after last rest
    | none =>
      if c == 0 then base :: after.reverse ++ composeFrom n [] 0 rest
      else composeFrom base (n :: after) c rest

/-
  The composed form of a decomposed text.
-/
def compose : List Nat → List Nat
  | [] => []
  | n :: rest => if classOf n == 0 then composeFrom n [] 0 rest else n :: compose rest

------------------------------------------------------------
-- Forms
------------------------------------------------------------

/-
  Whether characters are put together again, and whether those that differ in their looks
  only are the same.
-/
structure Form where
  isComposed : Bool
  isLoose : Bool
  deriving DecidableEq, Repr

def Form.ofName? : String → Option Form
  | "NFC" => some ⟨true, false⟩
  | "NFD" => some ⟨false, false⟩
  | "NFKC" => some ⟨true, true⟩
  | "NFKD" => some ⟨false, true⟩
  | _ => none

/-
  A text, as its code points, in a form.
-/
def normalize (f : Form) (ns : List Nat) : List Nat :=
  let parts := decompose f.isLoose ns
  if f.isComposed then compose parts else parts

end Text

end Devirt
