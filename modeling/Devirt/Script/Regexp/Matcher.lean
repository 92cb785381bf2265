import Devirt.Script.Regexp.Basic
import Devirt.Text.Case
import Devirt.Text.Units

/-
  Matching of regular expressions.

  A match is tried by threads.  A thread has a list of tasks, a place in the text and the
  groups it remembers.  One thread runs until it fails; then the last of the waiting ones
  goes on.  Every task counts as a step, and the number of steps is limited.

  Key definitions include:
    * `Regexp.Thread`, `Regexp.Search`
    * `Regexp.Search.step`, `Regexp.Search.run`
    * `Regexp.find`
-/

namespace Devirt

namespace Script

namespace Regexp

------------------------------------------------------------
-- Characters
------------------------------------------------------------

def isLineEnd (n : Nat) : Bool :=
  n == 10 || n == 13 || n == 0x2028 || n == 0x2029

def isWordChar (n : Nat) : Bool :=
  (48 ≤ n && n ≤ 57) || (65 ≤ n && n ≤ 90) || n == 95 || (97 ≤ n && n ≤ 122)

/-
  The form of a character that stands for all its cases.
-/
def fold (byCodePoint : Bool) (n : Nat) : Nat :=
  if byCodePoint then
    Text.simpleLower (Text.simpleUpper n)
  else
    match Text.upperOf n with
    | [u] => if n ≥ 128 && u < 128 then n else u
    | _ => n

/-
  Whether two characters are the same, up to their cases if those do not matter.
-/
def agree (byCodePoint ignoreCase : Bool) (c d : Nat) : Bool :=
  c == d || (ignoreCase && fold byCodePoint c == fold byCodePoint d)

def inRanges (ranges : List (Nat × Nat)) (n : Nat) : Bool :=
  ranges.any fun r => r.1 ≤ n && n ≤ r.2

/-
  Whether a character belongs to a set, in any of its cases if that does not matter.
-/
def inSet (byCodePoint ignoreCase : Bool) (ranges : List (Nat × Nat)) (n : Nat) : Bool :=
  inRanges ranges n
    || (ignoreCase
      && [Text.simpleUpper n, Text.simpleLower n].any fun k =>
        inRanges ranges k && agree byCodePoint true k n)

------------------------------------------------------------
-- Threads
------------------------------------------------------------

/-
  What a thread has to do.  Inside of a look behind it goes backwards.
-/
inductive Task where
  | node (n : Node) (isBack : Bool)
  /- remembers a group that began at a place -/
  | remember (index start : Nat) (isBack : Bool)
  /- one more round of a repetition, or its end, after a round that began at a place -/
  | again (a : Node) (least : Nat) (most : Option Nat) (isGreedy : Bool)
      (firstGroup groups start : Nat) (isBack : Bool)
  /- the end of a look: no other way to it counts, and matching goes on at a place -/
  | found (height place : Nat)
  /- the end of a look for something that must not be there -/
  | refuted (height : Nat)
  deriving Inhabited

abbrev Groups := Array (Option (Nat × Nat))

structure Thread where
  tasks : List Task
  place : Nat
  groups : Groups
  deriving Inhabited

structure Search where
  chars : Array Nat
  flags : Flags
  current : Thread
  /- the threads that go on if the current one fails -/
  waiting : List Thread
  height : Nat

namespace Search

/-
  The search after the current thread has failed, if any thread is left.
-/
def fail (s : Search) : Search ⊕ Option Thread :=
  match s.waiting with
  | t :: rest => .inl { s with current := t, waiting := rest, height := s.height - 1 }
  | [] => .inr none

/-
  Goes on with a thread while another one waits.
-/
def fork (s : Search) (first second : Thread) : Search ⊕ Option Thread :=
  .inl { s with current := first, waiting := second :: s.waiting, height := s.height + 1 }

def goOn (s : Search) (t : Thread) : Search ⊕ Option Thread := .inl { s with current := t }

/-
  Forgets the threads that began to wait above a height.
-/
def lower (s : Search) (height : Nat) : Search :=
  { s with waiting := s.waiting.drop (s.height - height), height := min s.height height }

/-
  The character that is next in a direction, and the place after it.
-/
def next? (s : Search) (place : Nat) (isBack : Bool) : Option (Nat × Nat) :=
  if isBack then
    if place == 0 then none else s.chars[place - 1]?.map fun c => (c, place - 1)
  else
    s.chars[place]?.map fun c => (c, place + 1)

/-
  Takes one character if it passes a test.
-/
def takeIf (s : Search) (tasks : List Task) (isBack : Bool) (test : Nat → Bool) :
    Search ⊕ Option Thread :=
  match s.next? s.current.place isBack with
  | some (c, place) =>
    if test c then s.goOn { s.current with tasks, place } else s.fail
  | none => s.fail

def isWordAt (s : Search) (place : Nat) : Bool :=
  (s.chars[place]?).any isWordChar

/-
  Whether a place lies between a character of a word and another one.
-/
def isEdge (s : Search) (place : Nat) : Bool :=
  (place > 0 && s.isWordAt (place - 1)) != s.isWordAt place

/-
  Whether the characters of a group stand at a place, in a direction.
-/
def recalls (s : Search) (group : Nat × Nat) (isBack ignoreCase : Bool) : Option Nat :=
  let place := s.current.place
  let length := group.2 - group.1
  let start := if isBack then place - length else place
  if (isBack && place < length) || (!isBack && s.chars.size < place + length) then
    none
  else if (List.range length).all fun i =>
      agree s.flags.byCodePoint ignoreCase (s.chars.getD (group.1 + i) 0)
        (s.chars.getD (start + i) 0)
  then
    some (if isBack then start else place + length)
  else
    none

/-
  The groups without those of a repetition.
-/
def forget (groups : Groups) (first count : Nat) : Groups :=
  (List.range count).foldl (fun gs i => gs.setIfInBounds (first + i) none) groups

/-
  Begins a round of a repetition or ends it.
-/
def stepMany
    (s : Search)
    (tasks : List Task)
    (a : Node)
    (least : Nat)
    (most : Option Nat)
    (isGreedy : Bool)
    (firstGroup groups : Nat)
    (isBack : Bool) :
    Search ⊕ Option Thread :=
  let t := s.current
  let after : Thread := { t with tasks }
  if most == some 0 then
    s.goOn after
  else
    let next := Task.again a least most isGreedy firstGroup groups t.place isBack
    let more : Thread :=
      { t with tasks := .node a isBack :: next :: tasks, groups := forget t.groups firstGroup groups }
    if least > 0 then s.goOn more
    else if isGreedy then s.fork more after
    else s.fork after more

/-
  Matches a part of the expression.
-/
def stepNode (s : Search) (tasks : List Task) (n : Node) (isBack : Bool) :
    Search ⊕ Option Thread :=
  let t := s.current
  let after : Thread := { t with tasks }
  let assert := fun (b : Bool) => if b then s.goOn after else s.fail
  match n with
  | .empty => s.goOn after
  | .char c ignoreCase =>
    s.takeIf tasks isBack (agree s.flags.byCodePoint ignoreCase c)
  | .any dotAll => s.takeIf tasks isBack fun d => dotAll || !isLineEnd d
  | .set ranges isNegated ignoreCase =>
    s.takeIf tasks isBack fun d =>
      inSet s.flags.byCodePoint ignoreCase ranges d != isNegated
  | .seq a b =>
    let (a, b) := if isBack then (b, a) else (a, b)
    s.goOn { t with tasks := .node a isBack :: .node b isBack :: tasks }
  | .alt a b =>
    s.fork { t with tasks := .node a isBack :: tasks } { t with tasks := .node b isBack :: tasks }
  | .group index a =>
    s.goOn { t with tasks := .node a isBack :: .remember index t.place isBack :: tasks }
  | .many a least most isGreedy firstGroup groups =>
    s.stepMany tasks a least most isGreedy firstGroup groups isBack
  | .recall index ignoreCase =>
    match t.groups[index]? with
    | some (some group) =>
      match s.recalls group isBack ignoreCase with
      | some place => s.goOn { after with place }
      | none => s.fail
    | _ => s.goOn after
  | .start multiline =>
    assert (t.place == 0
      || (multiline && (s.chars[t.place - 1]?).any isLineEnd))
  | .stop multiline =>
    assert (t.place == s.chars.size
      || (multiline && (s.chars[t.place]?).any isLineEnd))
  | .edge isNegated => assert (s.isEdge t.place != isNegated)
  | .look isBehind isNegated a =>
    if isNegated then
      s.fork { t with tasks := [.node a isBehind, .refuted s.height] } after
    else
      s.goOn { t with tasks := .node a isBehind :: .found s.height t.place :: tasks }

/-
  One step: the search goes on, or ends with the thread that has nothing left to do.
-/
def step (s : Search) : Search ⊕ Option Thread :=
  match s.current.tasks with
  | [] => .inr (some s.current)
  | task :: tasks =>
    let t := s.current
    match task with
    | .node n isBack => s.stepNode tasks n isBack
    | .remember index start isBack =>
      let group := if isBack then (t.place, start) else (start, t.place)
      s.goOn { t with tasks, groups := t.groups.setIfInBounds index (some group) }
    | .again a least most isGreedy firstGroup groups start isBack =>
      if least == 0 && t.place == start then
        s.fail
      else
        s.stepMany tasks a (least - 1) (most.map (· - 1)) isGreedy firstGroup groups isBack
    | .found height place => (s.lower height).goOn { t with tasks, place }
    | .refuted height => (s.lower height).fail

/-
  Runs a search for a number of steps at most and gives the steps that are left; nothing
  is given if they do not suffice.
-/
def run : Nat → Search → Option (Option Thread × Nat)
  | 0, _ => none
  | fuel + 1, s =>
    match s.step with
    | .inl s => run fuel s
    | .inr result => some (result, fuel)

end Search

------------------------------------------------------------
-- Matches
------------------------------------------------------------

/-
  What came of looking for a match.
-/
inductive Finding where
  /- the places of the whole match and of its groups -/
  | found (groups : Groups)
  | missing
  /- the steps did not suffice -/
  | exhausted
  deriving Inhabited

def searchAt (r : Regexp) (chars : Array Nat) (place : Nat) : Search :=
  { chars
    flags := r.flags
    current := ⟨[.node r.node false], place, Array.replicate (r.groups + 1) none⟩
    waiting := []
    height := 0 }

/-
  Looks for a match at so many places from one on.
-/
def findFrom (r : Regexp) (chars : Array Nat) : Nat → Nat → Nat → Finding × Nat
  | 0, _, budget => (.missing, budget)
  | places + 1, place, budget =>
    match (searchAt r chars place).run budget with
    | none => (.exhausted, 0)
    | some (some t, budget) => (.found (t.groups.setIfInBounds 0 (some (place, t.place))), budget)
    | some (none, budget) => findFrom r chars places (place + 1) budget

/-
  The places of the units at which the characters of a text begin, and its length.
-/
def unitPlaces (codePoints : List Nat) : Array Nat :=
  (codePoints.foldl
    (fun (state : Array Nat × Nat) n =>
      let next := state.2 + (Units.ofCodePoint n).length
      (state.1.push next, next))
    (#[0], 0)).1

/-
  Looks for a match in a text from a unit on, at that place only if asked to.  The places
  of the match are those of units.
-/
def find (r : Regexp) (s : Units) (start : Nat) (isSticky : Bool) (budget : Nat) :
    Finding × Nat :=
  if r.flags.byCodePoint then
    let chars := s.codePoints
    let places := unitPlaces chars
    let first := (places.findIdx? fun p => start ≤ p).getD chars.length
    let tries := if isSticky then 1 else chars.length + 1 - first
    match findFrom r chars.toArray tries first budget with
    | (.found groups, left) =>
      let inUnits := groups.map fun g => g.map fun (a, b) => (places.getD a 0, places.getD b 0)
      (.found inUnits, left)
    | other => other
  else
    let tries := if isSticky then 1 else s.size + 1 - start
    findFrom r (s.units.map UInt16.toNat) tries start budget

end Regexp

end Script

end Devirt
