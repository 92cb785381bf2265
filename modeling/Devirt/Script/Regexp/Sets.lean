import Devirt.Script.Regexp.Reader

/-
  Sets of characters in regular expressions.

  Under the flag `v` sets are combined with each other and may hold longer texts.

  Key definitions include:
    * `Regexp.plainSet`
    * `Regexp.ClassSet`, `Regexp.combinedSet`
-/

namespace Devirt

namespace Script

namespace Regexp

open Read

open Text (Borders)

------------------------------------------------------------
-- Plain Sets
------------------------------------------------------------

/-
  A member of a set: a single character or a class.
-/
inductive SetAtom where
  | one (n : Nat)
  | several (chars : Borders)

def setAtom : Read SetAtom := do
  let s ← get
  match s.rest with
  | [] => fail
  | 92 :: cs =>
    match classEscape? s.flags cs with
    | some (chars, rest) => set { s with rest }; return .several chars
    | none =>
      match cs with
      | [] => fail
      | c :: rest =>
        if c == 98 then
          set { s with rest }
          return .one 8
        else if c == 45 && s.isUnicode then
          set { s with rest }
          return .one 45
        else
          set { s with rest := cs }
          return .one (← characterEscape)
  | c :: cs => set { s with rest := cs }; return .one c

def SetAtom.chars : SetAtom → Borders
  | one n => .between n n
  | several chars => chars

/-
  A member of a set, or two with everything between them.
-/
def setRange : Read Borders := do
  let first ← setAtom
  let s ← get
  match s.rest with
  | 45 :: c :: _ =>
    if c == 93 then
      return first.chars
    else
      drop 1
      let last ← setAtom
      match first, last with
      | .one a, .one b =>
        require (a ≤ b)
        return .between a b
      | _, _ =>
        require !s.isUnicode
        return (first.chars.union (.between 45 45)).union last.chars
  | _ => return first.chars

/-
  The members of a set up to its closing bracket.
-/
def plainSet : Read Borders :=
  loop
    (fun (done : Borders) => do
      if ← eat "]" then return .inr done else return .inl (done.union (← setRange)))
    []

------------------------------------------------------------
-- Combined Sets
------------------------------------------------------------

/-
  Characters, and texts of any other length.
-/
structure ClassSet where
  chars : Borders := []
  texts : List (List Nat) := []

namespace ClassSet

def ofText : List Nat → ClassSet
  | [n] => { chars := .between n n }
  | text => { texts := [text] }

def union (a b : ClassSet) : ClassSet :=
  ⟨a.chars.union b.chars, (a.texts ++ b.texts).eraseDups⟩

def inter (a b : ClassSet) : ClassSet :=
  ⟨a.chars.inter b.chars, a.texts.filter b.texts.contains⟩

def diff (a b : ClassSet) : ClassSet :=
  ⟨a.chars.diff b.chars, a.texts.filter fun t => !b.texts.contains t⟩

end ClassSet

def codesOf (s : String) : List Nat := s.toList.map Char.toNat

/-
  The marks that have a special meaning in combined sets.
-/
def setMarks : List Nat := codesOf "()[]\x7b\x7d/-\\|"

/-
  The marks that are reserved when they are written twice.
-/
def doubleMarks : List Nat := codesOf "&!#$%*+,.:;<=>?@^`~"

/-
  The marks that may be escaped in combined sets although they have no meaning there.
-/
def escapedMarks : List Nat := codesOf "&-!#%,:;<=>@`~"

/-
  A single character of a combined set.
-/
def setCharacter : Read Nat := do
  let s ← get
  match s.rest with
  | 92 :: c :: cs =>
    if c == 98 then
      set { s with rest := cs }
      return 8
    else if escapedMarks.contains c then
      set { s with rest := cs }
      return c
    else
      set { s with rest := c :: cs, isUnicode := true }
      let n ← characterEscape
      modify fun t => { t with isUnicode := s.isUnicode }
      return n
  | c :: cs =>
    require !(setMarks.contains c || (doubleMarks.contains c && cs.head? == some c))
    set { s with rest := cs }
    return c
  | [] => fail

/-
  The texts of a list up to its closing brace.
-/
def textList : Read ClassSet := do
  let (done, last) ← loop
    (fun (state : ClassSet × List Nat) => do
      let (done, text) := state
      if ← eat "\x7d" then return .inr (done, text)
      else if ← eat "|" then return .inl (done.union (.ofText text.reverse), [])
      else return .inl (done, (← setCharacter) :: text))
    ({}, [])
  return done.union (.ofText last.reverse)

/-
  The complement of a set, which has to be one of characters.
-/
def negate (a : ClassSet) : Read ClassSet := do
  require a.texts.isEmpty
  return { chars := a.chars.complement }

/-
  A set that is combined with others, if it is no single character.
-/
def setOperand? (inner : Read ClassSet) : Read (Option ClassSet) := do
  if ← eat "[^" then
    return some (← negate (← inner))
  else if ← eat "[" then
    return some (← inner)
  else if ← eat "\\q\x7b" then
    return some (← textList)
  else
    let s ← get
    match s.rest with
    | 92 :: cs =>
      match classEscape? s.flags cs with
      | some (chars, rest) =>
        set { s with rest }
        return some { chars }
      | none => return none
    | _ => return none

def setOperand (inner : Read ClassSet) : Read ClassSet := do
  match ← setOperand? inner with
  | some a => return a
  | none => return .ofText [← setCharacter]

/-
  An operand of a union: a set, a character, or two with everything between them.
-/
def unionOperand (inner : Read ClassSet) : Read ClassSet := do
  match ← setOperand? inner with
  | some a => return a
  | none =>
    let a ← setCharacter
    let s ← get
    match s.rest with
    | 45 :: 45 :: _ => return .ofText [a]
    | 45 :: _ =>
      drop 1
      let b ← setCharacter
      require (a ≤ b)
      return { chars := .between a b }
    | _ => return .ofText [a]

/-
  The sets that follow one after a mark, each of which changes the result.
-/
def joinedBy
    (mark : String)
    (join : ClassSet → ClassSet → ClassSet)
    (inner : Read ClassSet)
    (first : ClassSet) :
    Read ClassSet :=
  loop
    (fun done => do
      if ← eat mark then
        return .inl (join done (← setOperand inner))
      else
        require (← eat "]")
        return .inr done)
    first

/-
  A combined set up to its closing bracket, with a reader for the sets in it.
-/
def combinedSetOf (inner : Read ClassSet) : Read ClassSet := do
  if ← eat "]" then
    return {}
  else
    let first ← unionOperand inner
    match (← get).rest with
    | 38 :: 38 :: _ => joinedBy "&&" .inter inner first
    | 45 :: 45 :: _ => joinedBy "--" .diff inner first
    | _ =>
      loop
        (fun (done : ClassSet) => do
          if ← eat "]" then return .inr done
          else return .inl (done.union (← unionOperand inner)))
        first

def combinedSetWithin : Nat → Read ClassSet
  | 0 => fail
  | n + 1 => combinedSetOf (combinedSetWithin n)

def combinedSet : Read ClassSet := do
  combinedSetWithin ((← get).rest.length + 1)

------------------------------------------------------------
-- Sets as Nodes
------------------------------------------------------------

def textNode (ignoreCase : Bool) (text : List Nat) : Node :=
  text.foldr (fun n rest => .seq (.char n ignoreCase) rest) .empty

/-
  A combined set as a choice, in which longer texts come first.
-/
def ClassSet.toNode (ignoreCase : Bool) (a : ClassSet) : Node :=
  let chars := Node.set (a.chars.ranges lastCharacter) false ignoreCase
  let sorted := a.texts.mergeSort fun s t => t.length ≤ s.length
  let (empty, long) := (sorted.filter (·.isEmpty), sorted.filter (!·.isEmpty))
  let tail := if empty.isEmpty then chars else .alt chars .empty
  long.foldr (fun t rest => .alt (textNode ignoreCase t) rest) tail

/-
  A set after its opening bracket.
-/
def setNode (isNegated : Bool) : Read Node := do
  let f := (← get).flags
  if f.isSets then
    let a ← combinedSet
    if isNegated then
      return (← negate a).toNode f.ignoreCase
    else
      return a.toNode f.ignoreCase
  else
    return .set ((← plainSet).ranges lastCharacter) isNegated f.ignoreCase

end Regexp

end Script

end Devirt
