import Devirt.Text.Blank
import Devirt.Text.Classes

/-
  Patterns of characters and their matches.

  A pattern is tried at each place of a text from left to right.  Where several matches
  begin at the same place, the first alternative wins and a repetition takes as much as
  it can; only characters of one class are ever repeated, so a match is found by
  recursion on the pattern.

  Key definitions include:
    * `Pattern`
    * `Pattern.matchFrom`, the preferred match at one place
    * `Pattern.first?`, `Pattern.all`, the matches in a text
-/

namespace Devirt

------------------------------------------------------------
-- Patterns
------------------------------------------------------------

inductive Pattern where
  /- nothing -/
  | empty
  /- one character of a class -/
  | one (p : Char → Bool)
  /- characters of a class, at least so many and at most so many if there is a bound -/
  | many (p : Char → Bool) (least : Nat) (most : Option Nat)
  | seq (a b : Pattern)
  | alt (a b : Pattern)
  /- a pattern whose match is remembered under a number -/
  | group (n : Nat) (a : Pattern)
  /- the beginning of the text -/
  | start
  /- the end of the text -/
  | stop
  /- a place between a character of a word and one that is none -/
  | edge

namespace Pattern

------------------------------------------------------------
-- Matching at One Place
------------------------------------------------------------

/-
  A place in a text: its offset in characters, the character before it and the
  characters after it.
-/
structure Place where
  offset : Nat
  before : Option Char
  rest : List Char
  deriving DecidableEq, Repr

/-
  The remembered parts of a match, the latest first.
-/
abbrev Groups := List (Nat × Nat × Nat)

/-
  The places reached by taking characters of a class, the farthest first.
-/
def reach (p : Char → Bool) : Option Nat → Place → List Place → List Char → List Place
  | some 0, here, shorter, _ => here :: shorter
  | _, here, shorter, [] => here :: shorter
  | most, here, shorter, c :: cs =>
    if p c then
      reach p (most.map (· - 1)) ⟨here.offset + 1, some c, cs⟩ (here :: shorter) cs
    else
      here :: shorter

def isEdge (here : Place) : Bool :=
  let word : Option Char → Bool := fun c => (c.map Text.isWord).getD false
  word here.before != word here.rest.head?

/-
  Matches a pattern at a place and goes on with what is left, trying the preferred ways
  to match first.
-/
def matchThen : Pattern → Place → Groups → (Place → Groups → Option α) → Option α
  | empty, here, groups, next => next here groups
  | one p, here, groups, next =>
    match here.rest with
    | c :: cs => if p c then next ⟨here.offset + 1, some c, cs⟩ groups else none
    | [] => none
  | many p least most, here, groups, next =>
    ((reach p most here [] here.rest).filter fun there => here.offset + least ≤ there.offset).findSome?
      fun there => next there groups
  | seq a b, here, groups, next =>
    matchThen a here groups fun there groups => matchThen b there groups next
  | alt a b, here, groups, next =>
    match matchThen a here groups next with
    | some r => some r
    | none => matchThen b here groups next
  | group n a, here, groups, next =>
    matchThen a here groups fun there groups =>
      next there ((n, here.offset, there.offset) :: groups)
  | start, here, groups, next => if here.before.isNone then next here groups else none
  | stop, here, groups, next => if here.rest.isEmpty then next here groups else none
  | edge, here, groups, next => if isEdge here then next here groups else none

/-
  A match: where it begins and ends, and its remembered parts.
-/
structure Match where
  start : Nat
  stop : Nat
  groups : Groups
  deriving DecidableEq, Repr

/-
  The preferred match that begins at a place, with the place after it.
-/
def matchFrom (p : Pattern) (here : Place) : Option (Match × Place) :=
  matchThen p here [] fun there groups => some (⟨here.offset, there.offset, groups⟩, there)

------------------------------------------------------------
-- Matches in a Text
------------------------------------------------------------

/-
  The leftmost match at a place or after it.
-/
def search (p : Pattern) : Place → List Char → Option (Match × Place)
  | here, [] => matchFrom p here
  | here, c :: cs =>
    match matchFrom p here with
    | some r => some r
    | none => search p ⟨here.offset + 1, some c, cs⟩ cs

def beginning (cs : List Char) : Place := ⟨0, none, cs⟩

/-
  The leftmost match in a text.
-/
def first? (p : Pattern) (cs : List Char) : Option Match :=
  (search p (beginning cs) cs).map (·.1)

def occurs (p : Pattern) (cs : List Char) : Bool :=
  (first? p cs).isSome

/-
  The matches from a place on, each search going on after the last match.  A match
  takes one character at least, so the number of characters is fuel enough.
-/
def allFrom (p : Pattern) : Nat → Place → List Match
  | 0, _ => []
  | fuel + 1, here =>
    match search p here here.rest with
    | none => []
    | some (m, there) =>
      if m.start < m.stop then
        m :: allFrom p fuel there
      else
        match there.rest with
        | [] => [m]
        | c :: cs => m :: allFrom p fuel ⟨there.offset + 1, some c, cs⟩

/-
  The matches in a text from left to right, none overlapping another.
-/
def all (p : Pattern) (cs : List Char) : List Match :=
  allFrom p (cs.length + 1) (beginning cs)

------------------------------------------------------------
-- Parts of a Match
------------------------------------------------------------

/-
  The part of a text between two offsets.
-/
def part (cs : List Char) (start stop : Nat) : List Char :=
  (cs.drop start).take (stop - start)

/-
  Where a remembered part begins and ends, if the match has it.
-/
def Match.group? (m : Match) (n : Nat) : Option (Nat × Nat) :=
  (m.groups.find? fun g => g.1 == n).map (·.2)

/-
  The text of a remembered part; empty if the match does not have it.
-/
def Match.groupText (m : Match) (cs : List Char) (n : Nat) : List Char :=
  match m.group? n with
  | some (a, b) => part cs a b
  | none => []

/-
  A text with every match replaced by the same text.
-/
def replaceAll (p : Pattern) (replacement cs : List Char) : List Char :=
  let step := fun (state : List Char × Nat) (m : Match) =>
    (state.1 ++ part cs state.2 m.start ++ replacement, m.stop)
  let (done, last) := (all p cs).foldl step ([], 0)
  done ++ cs.drop last

------------------------------------------------------------
-- Building Patterns
------------------------------------------------------------

/-
  The patterns of a list one after the other.
-/
def sequence : List Pattern → Pattern
  | [] => empty
  | [p] => p
  | p :: ps => seq p (sequence ps)

/-
  One of the patterns of a list, the first that matches.
-/
def choice : List Pattern → Pattern
  | [] => one fun _ => false
  | [p] => p
  | p :: ps => alt p (choice ps)

/-
  The characters of a text.
-/
def literal (s : String) : Pattern :=
  sequence (s.toList.map fun c => one (· == c))

def char (c : Char) : Pattern :=
  one (· == c)

/-
  A pattern that may be left out.
-/
def optional (p : Pattern) : Pattern :=
  alt p empty

/-
  Any number of blank characters.
-/
def blanks : Pattern :=
  many Text.isBlank 0 none

/-
  One of the characters of a list, or a character not in it.
-/
def oneOf (cs : List Char) : Char → Bool := fun c => cs.contains c

def noneOf (cs : List Char) : Char → Bool := fun c => !cs.contains c

def isHex (c : Char) : Bool :=
  ('0' ≤ c && c ≤ '9') || ('a' ≤ c && c ≤ 'f') || ('A' ≤ c && c ≤ 'F')

/-
  The characters of words together with the dollar sign.
-/
def isName (c : Char) : Bool :=
  Text.isWord c || c == '$'

/-
  The ASCII characters that begin a name.
-/
def isNameStart (c : Char) : Bool :=
  ('A' ≤ c && c ≤ 'Z') || ('a' ≤ c && c ≤ 'z') || c == '_' || c == '$'

/-
  The beginning of the text, or a character that neither continues a name nor selects
  a member.
-/
def beforeName : Pattern :=
  alt start (one fun c => !(isName c || c == '.'))

end Pattern

end Devirt
