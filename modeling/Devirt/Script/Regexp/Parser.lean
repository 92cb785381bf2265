import Devirt.Script.Regexp.Sets

/-
  The reading of regular expressions.

  Key definitions include:
    * `Regexp.parse?`
    * `Regexp.isValid`
-/

namespace Devirt

namespace Script

namespace Regexp

open Read

------------------------------------------------------------
-- Terms
------------------------------------------------------------

/-
  A recalled group, or an escape, after its backslash.
-/
def escapeTerm : Read Node := do
  let s ← get
  match s.rest with
  | [] => fail
  | 98 :: cs => set { s with rest := cs }; return .edge false
  | 66 :: cs => set { s with rest := cs }; return .edge true
  | c :: cs =>
    match classEscape? s.flags (c :: cs) with
    | some (chars, rest) =>
      set { s with rest }
      return .set (chars.ranges lastCharacter) false s.flags.ignoreCase
    | none =>
      if c == 107 && (s.isUnicode || s.hasNames) then
        set { s with rest := cs }
        require (← eat "<")
        let name ← groupName
        modify fun s => { s with recalled := name :: s.recalled }
        return .recall 0 s.flags.ignoreCase
      else
        match if c == 48 then none else (decimal (c :: cs)).1 with
        | some n =>
          if n ≤ s.total then
            set { s with rest := (decimal (c :: cs)).2 }
            return .recall n s.flags.ignoreCase
          else
            require !s.isUnicode
            return .char (← characterEscape) s.flags.ignoreCase
        | none => return .char (← characterEscape) s.flags.ignoreCase

/-
  Switches flags with the given letters on or off, of which none has been mentioned
  before.
-/
def switchFlags (value : Bool) : List Char → List Char × Flags → Option (List Char × Flags)
  | [], state => some state
  | c :: cs, (seen, f) =>
    if seen.contains c then
      none
    else
      match c with
      | 'i' => switchFlags value cs (c :: seen, { f with ignoreCase := value })
      | 'm' => switchFlags value cs (c :: seen, { f with multiline := value })
      | 's' => switchFlags value cs (c :: seen, { f with dotAll := value })
      | _ => none

/-
  The flags inside of a group that switches some on and, after a minus, others off; its
  letters end with a colon.
-/
def groupFlags? (f : Flags) (letters : List Char) : Option Flags := do
  let on := letters.takeWhile (· != '-')
  let off := (letters.dropWhile (· != '-')).drop 1
  let (seen, f) ← switchFlags true on ([], f)
  let (seen, f) ← switchFlags false off (seen, f)
  if seen.isEmpty then none else pure f

/-
  A group with flags of its own, after its question mark.
-/
def flaggedGroup (inner : Read Node) : Read Node := do
  let s ← get
  let letters := s.rest.takeWhile (· != 58)
  match groupFlags? s.flags (letters.map Units.charOf), s.rest.drop letters.length with
  | some flags, _ :: rest =>
    set { s with rest, flags }
    let a ← inner
    modify fun t => { t with flags := s.flags }
    require (← eat ")")
    return a
  | _, _ => fail

/-
  A term before its repetition, with whether it may be repeated.
-/
def term (inner : Read Node) : Read (Node × Bool) := do
  let s ← get
  let group : Read Node → Read Node := fun p => do
    let a ← p
    require (← eat ")")
    return a
  if ← eat "^" then return (.start s.flags.multiline, false)
  else if ← eat "$" then return (.stop s.flags.multiline, false)
  else if ← eat "(?=" then return (.look false false (← group inner), !s.isUnicode)
  else if ← eat "(?!" then return (.look false true (← group inner), !s.isUnicode)
  else if ← eat "(?<=" then return (.look true false (← group inner), false)
  else if ← eat "(?<!" then return (.look true true (← group inner), false)
  else if ← eat "(?:" then return (← group inner, true)
  else if ← eat "(?<" then
    let name ← groupName
    let s ← get
    require !(s.names.any fun g => g.1 == name)
    let n := s.opened + 1
    set { s with opened := n, names := s.names ++ [(name, n)] }
    return (.group n (← group inner), true)
  else if ← eat "(?" then return (← flaggedGroup inner, true)
  else if ← eat "(" then
    let n := (← get).opened + 1
    modify fun s => { s with opened := n }
    return (.group n (← group inner), true)
  else if ← eat "." then return (.any s.flags.dotAll, true)
  else if ← eat "[^" then return (← setNode true, true)
  else if ← eat "[" then return (← setNode false, true)
  else if ← eat "\\" then
    match ← escapeTerm with
    | .edge b => return (.edge b, false)
    | t => return (t, true)
  else
    match s.rest with
    | [] => fail
    | c :: cs =>
      let isRepetition := c == 42 || c == 43 || c == 63
      let isBrace := c == 123 && (s.isUnicode || (bounds? cs).isSome)
      let isClosing := (c == 93 || c == 125) && s.isUnicode
      require !(isRepetition || isBrace || isClosing || c == 41 || c == 124)
      set { s with rest := cs }
      return (.char c s.flags.ignoreCase, true)

/-
  The bounds of a repetition, if one follows.
-/
def repetition? : Read (Option (Nat × Option Nat)) := do
  let s ← get
  match s.rest with
  | 42 :: cs => set { s with rest := cs }; return some (0, none)
  | 43 :: cs => set { s with rest := cs }; return some (1, none)
  | 63 :: cs => set { s with rest := cs }; return some (0, some 1)
  | 123 :: cs =>
    match bounds? cs with
    | some ((least, most), rest) =>
      require (match most with
        | some m => least ≤ m
        | none => true)
      set { s with rest }
      return some (least, most)
    | none => return none
  | _ => return none

/-
  A term with its repetition.
-/
def repeatedTerm (inner : Read Node) : Read Node := do
  let before := (← get).opened
  let (a, canRepeat) ← term inner
  match ← repetition? with
  | some (least, most) =>
    require canRepeat
    let isLazy ← eat "?"
    let groups := (← get).opened - before
    return .many a least most (!isLazy) (before + 1) groups
  | none => return a

/-
  Whether a sequence of terms ends here.
-/
def sequenceEnds : Read Bool := do
  match ← peek with
  | none => return true
  | some c => return c == 41 || c == 124

def sequence (inner : Read Node) : Read Node :=
  loop
    (fun done => do
      if ← sequenceEnds then
        return .inr done
      else
        let a ← repeatedTerm inner
        return .inl (match done with
          | .empty => a
          | d => .seq d a))
    .empty

/-
  Sequences, any of which may match.
-/
def choices (inner : Read Node) : Read Node := do
  let first ← sequence inner
  let rest ← loop
    (fun (done : List Node) => do
      if ← eat "|" then
        return .inl ((← sequence inner) :: done)
      else
        return .inr done)
    []
  let backwards := rest ++ [first]
  match backwards with
  | last :: more => return more.foldl (fun done a => .alt a done) last
  | [] => return first

def choicesWithin : Nat → Read Node
  | 0 => fail
  | n + 1 => choices (choicesWithin n)

------------------------------------------------------------
-- Whole Expressions
------------------------------------------------------------

/-
  The number of groups, and whether one has a name, in the text of an expression.
-/
def countGroups : Bool → Nat → Bool → List Nat → Nat × Bool
  | _, n, named, [] => (n, named)
  | inClass, n, named, 92 :: _ :: cs => countGroups inClass n named cs
  | true, n, named, c :: cs => countGroups (c != 93) n named cs
  | false, n, named, 40 :: 63 :: 60 :: c :: cs =>
    if c == 61 || c == 33 then countGroups false n named (c :: cs)
    else countGroups false (n + 1) true (c :: cs)
  | false, n, named, 40 :: 63 :: cs => countGroups false n named cs
  | false, n, named, c :: cs =>
    if c == 40 then countGroups false (n + 1) named cs
    else countGroups (c == 91) n named cs

/-
  Puts the numbers of named groups where they are recalled; names are recalled in the
  order given.
-/
def resolve (names : List (String × Nat)) : Node → List String → Node × List String
  | .recall 0 ignoreCase, name :: rest =>
    (.recall (((names.find? fun g => g.1 == name).map (·.2)).getD 0) ignoreCase, rest)
  | .seq a b, r =>
    let (a, r) := resolve names a r
    let (b, r) := resolve names b r
    (.seq a b, r)
  | .alt a b, r =>
    let (a, r) := resolve names a r
    let (b, r) := resolve names b r
    (.alt a b, r)
  | .group i a, r =>
    let (a, r) := resolve names a r
    (.group i a, r)
  | .many a least most greedy first groups, r =>
    let (a, r) := resolve names a r
    (.many a least most greedy first groups, r)
  | .look behind negated a, r =>
    let (a, r) := resolve names a r
    (.look behind negated a, r)
  | a, r => (a, r)

/-
  The regular expression written by a pattern and flags.
-/
def parse? (source : Units) (flagText : String) : Option Regexp := do
  let flags ← Flags.ofText? flagText
  let chars :=
    if flags.byCodePoint then source.codePoints else source.units.toList.map UInt16.toNat
  let (total, hasNames) := countGroups false 0 false chars
  let state : Reader.State := ⟨chars, flags.isUnicode, flags, total, hasNames, 0, [], []⟩
  let (node, s) ← (choicesWithin (chars.length + 1)).run state
  if s.rest.isEmpty && s.recalled.all fun x => s.names.any fun g => g.1 == x then
    pure ⟨(resolve s.names node s.recalled.reverse).1, s.opened, s.names, flags⟩
  else
    none

/-
  Whether a pattern and flags make a regular expression.
-/
def isValid (source flags : String) : Bool :=
  (parse? (Units.ofString source) flags).isSome

end Regexp

end Script

end Devirt
