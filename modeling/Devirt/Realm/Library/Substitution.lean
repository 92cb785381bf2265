import Devirt.Realm.Library.Basic

/-
  The texts that replace matches.

  A template says what stands in place of a match: it is taken as it is, except that `$`
  begins what stands for a part of the text around or inside the match.

  Key definitions include:
    * `Piece`, `templatePieces`
    * `substitute`, the text for one match
    * `occurrences`
-/

namespace Devirt

namespace Realm

namespace Library

------------------------------------------------------------
-- Templates
------------------------------------------------------------

/-
  A piece of a template.
-/
inductive Piece where
  | plain (units : List UInt16)
  | whole
  | before
  | after
  | group (n : Nat)
  | named (name : Units)
  deriving Inhabited

def isDigitUnit (u : UInt16) : Bool := 48 ≤ u && u ≤ 57

/-
  A digit of a reference to a group.
-/
def digitOf (u : UInt16) : Nat := u.toNat - 48

/-
  A reference to a group, or what is written if there is no such group.
-/
def groupPiece (count n : Nat) (written : List UInt16) : Piece :=
  if n == 0 || n > count then .plain (36 :: written) else .group n

/-
  The piece that begins after a `$`, with the units it takes.
-/
def dollarPiece (count : Nat) (hasNames : Bool) : List UInt16 → Piece × Nat
  | [] => (.plain [36], 0)
  | 36 :: _ => (.plain [36], 1)
  | 38 :: _ => (.whole, 1)
  | 96 :: _ => (.before, 1)
  | 39 :: _ => (.after, 1)
  | 60 :: rest =>
    let name := rest.takeWhile (· != 62)
    if hasNames && name.length < rest.length then (.named ⟨name.toArray⟩, name.length + 2)
    else (.plain [36, 60], 1)
  | a :: rest =>
    if isDigitUnit a then
      match rest with
      | b :: _ =>
        if isDigitUnit b then (groupPiece count (10 * digitOf a + digitOf b) [a, b], 2)
        else (groupPiece count (digitOf a) [a], 1)
      | [] => (groupPiece count (digitOf a) [a], 1)
    else
      (.plain [36], 0)

/-
  The pieces of a template for a match with some groups, in so many steps at most.
-/
def piecesWithin (count : Nat) (hasNames : Bool) : Nat → List UInt16 → List Piece
  | 0, _ => []
  | _, [] => []
  | fuel + 1, u :: us =>
    if u == 36 then
      let (piece, used) := dollarPiece count hasNames us
      piece :: piecesWithin count hasNames fuel (us.drop used)
    else
      let run := us.takeWhile (· != 36)
      .plain (u :: run) :: piecesWithin count hasNames fuel (us.drop run.length)

def templatePieces (count : Nat) (hasNames : Bool) (template : Units) : List Piece :=
  piecesWithin count hasNames template.size template.units.toList

------------------------------------------------------------
-- Substitution
------------------------------------------------------------

/-
  A match as its replacement sees it: the text, the place and the matched part, the groups
  and the object with the groups that have names.
-/
structure Finding where
  text : Units
  matched : Units
  position : Nat
  groups : List Value
  names : Value

def pieceText (m : Machine) (x : Finding) : Piece → Run Units
  | .plain units => return ⟨units.toArray⟩
  | .whole => return x.matched
  | .before => return x.text.slice 0 x.position
  | .after => return x.text.slice (min (x.position + x.matched.size) x.text.size) x.text.size
  | .group n =>
    match x.groups.getD (n - 1) .undefined with
    | .undefined => return .empty
    | v => toUnits m v
  | .named name => do
    match ← getMember m x.names (.ofUnits name) with
    | .undefined => return .empty
    | v => toUnits m v

/-
  The text that a template gives for a match.
-/
def substitute (m : Machine) (x : Finding) (template : Units) : Run Units := do
  let pieces := templatePieces x.groups.length (!x.names.isUndefined) template
  let texts ← pieces.mapM (pieceText m x)
  return texts.foldl (· ++ ·) .empty

/-
  What replaces a match: the result of a function, or a template filled in.
-/
def replacementFor (m : Machine) (x : Finding) (replacement : Value) : Run Units := do
  match replacement with
  | .string template =>
    if x.names.isUndefined then
      substitute m x template
    else
      substitute m { x with names := .object (← toObject x.names) } template
  | f =>
    let last := if x.names.isUndefined then [] else [x.names]
    let arguments := .string x.matched :: x.groups ++ [.ofNat x.position, .string x.text] ++ last
    toUnits m (← m.call f .undefined arguments)

/-
  What replaces a match: a function, or a text.
-/
def replacementOf (m : Machine) (v : Value) : Run Value := do
  if ← isCallable v then return v else return .string (← toUnits m v)

------------------------------------------------------------
-- Plain Occurrences
------------------------------------------------------------

/-
  The places at which a text occurs, none overlapping another, in so many tries at most.
-/
def occurrencesFrom (s part : Units) : Nat → Nat → List Nat
  | 0, _ => []
  | tries + 1, place =>
    match s.find? part place with
    | some i => i :: occurrencesFrom s part tries (i + max part.size 1)
    | none => []

/-
  The places at which a text occurs, none overlapping another.
-/
def occurrences (s part : Units) : List Nat :=
  occurrencesFrom s part (s.size + 1) 0

/-
  A text with a part replaced at some places.
-/
def replaceAt (m : Machine) (s part : Units) (places : List Nat) (replacement : Value) :
    Run Units := do
  let mut done := Units.empty
  let mut last := 0
  for place in places do
    let u ← replacementFor m ⟨s, part, place, [], .undefined⟩ replacement
    done := done ++ s.slice last place ++ u
    last := place + part.size
  return done ++ s.slice last s.size

end Library

end Realm

end Devirt
