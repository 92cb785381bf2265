import Devirt.Realm.Evaluate
import Devirt.Realm.Library.Substitution
import Devirt.Script.Regexp.Matcher

/-
  The functions about regular expressions.

  The methods work on every object that can look for a match, so each of them asks the
  object for its `exec`, and reads from the result what it needs.

  Key definitions include:
    * `findNext`, the match that an expression finds itself
    * `execute`, the match that an object finds
    * `matchWith`, `replaceWith`, `searchWith`, `splitWith`
    * `callRegexp`
-/

namespace Devirt

namespace Realm

namespace Library

open Script (Regexp)

------------------------------------------------------------
-- Matches
------------------------------------------------------------

/-
  A match: its place in a text, and its groups.
-/
structure Match where
  start : Nat
  stop : Nat
  groups : List (Option (Nat × Nat))

def lastIndexKey : Key := Key.ofString "lastIndex"

def getLastIndex (m : Machine) (r : Ref) : Run Nat := do
  toLength m (← getFrom m r lastIndexKey)

def setLastIndex (m : Machine) (r : Ref) (n : Nat) : Run Unit :=
  putMember m r lastIndexKey (.ofNat n)

/-
  Looks for a match from a place on; the steps this takes are counted.
-/
def findMatch (regexp : Regexp) (s : Units) (start : Nat) : Run (Option Match) := do
  let w ← get
  let (finding, left) := Script.Regexp.find regexp s start regexp.flags.isSticky w.patience
  set { w with patience := left }
  match finding with
  | .exhausted => throw .stuck
  | .missing => return none
  | .found groups =>
    match groups.toList with
    | some (start, stop) :: rest => return some ⟨start, stop, rest⟩
    | _ => return none

/-
  The match that an expression finds next; it may remember where the last one ended.
-/
def findNext (m : Machine) (r : Ref) (regexp : Regexp) (s : Units) : Run (Option Match) := do
  let last ← getLastIndex m r
  let remembers := regexp.flags.isGlobal || regexp.flags.isSticky
  let start := if remembers then last else 0
  let found ← if start > s.size then pure none else findMatch regexp s start
  if remembers then
    setLastIndex m r ((found.map (·.stop)).getD 0)
  return found

------------------------------------------------------------
-- Results
------------------------------------------------------------

def groupValue (s : Units) : Option (Nat × Nat) → Value
  | some (a, b) => .string (s.slice a b)
  | none => .undefined

/-
  Where a group begins and ends.
-/
def groupPlace : Option (Nat × Nat) → Run Value
  | some (a, b) => makePair (.ofNat a) (.ofNat b)
  | none => pure .undefined

/-
  The object with the values for the groups that have names.
-/
def namedGroups (regexp : Regexp) (values : List Value) : Run Value := do
  if regexp.names.isEmpty then
    return .undefined
  else
    let r ← allocate { proto := none }
    for (name, index) in regexp.names do
      createMember r (Key.ofString name) (values.getD (index - 1) .undefined)
    return .object r

/-
  The list of the places of a match and its groups.
-/
def matchPlaces (regexp : Regexp) (found : Match) : Run Value := do
  let whole ← makePair (.ofNat found.start) (.ofNat found.stop)
  let places ← found.groups.mapM groupPlace
  let r ← makeArrayOf ((whole :: places).map some).toArray
  createMember r (Key.ofString "groups") (← namedGroups regexp places)
  return .object r

/-
  The list that describes a match.
-/
def matchResult (regexp : Regexp) (s : Units) (found : Match) : Run Value := do
  let groups := found.groups.map (groupValue s)
  let whole := Value.string (s.slice found.start found.stop)
  let r ← makeArrayOf ((whole :: groups).map some).toArray
  createMember r (Key.ofString "index") (.ofNat found.start)
  createMember r (Key.ofString "input") (.string s)
  createMember r (Key.ofString "groups") (← namedGroups regexp groups)
  if regexp.flags.indices then
    createMember r (Key.ofString "indices") (← matchPlaces regexp found)
  return .object r

------------------------------------------------------------
-- Objects that Match
------------------------------------------------------------

def regexpOf? (r : Ref) : Run (Option Regexp) := do
  match (← getObject r).kind with
  | .regexp regexp _ _ => return some regexp
  | _ => return none

def receiverMessage : String := "RegExp method called on incompatible receiver"

/-
  What an expression finds itself in a text.
-/
def executeItself (m : Machine) (r : Ref) (s : Units) : Run Value := do
  match ← regexpOf? r with
  | some regexp =>
    match ← findNext m r regexp s with
    | some found => matchResult regexp s found
    | none => return .null
  | none => throwType receiverMessage

/-
  What an object finds in a text.
-/
def execute (m : Machine) (r : Ref) (s : Units) : Run (Option Ref) := do
  let f ← getFrom m r (Key.ofString "exec")
  let result ←
    if ← isCallable f then m.call f (.object r) [.string s] else executeItself m r s
  match result with
  | .object found => return some found
  | .null => return none
  | _ => throwType "regexp exec returned neither object nor null"

/-
  The place after another one in a text.
-/
def placeAfter (s : Units) (i : Nat) (byCodePoint : Bool) : Nat :=
  let isPair :=
    byCodePoint && (s.get? i).any Units.isHighHalf && (s.get? (i + 1)).any Units.isLowHalf
  if isPair then i + 2 else i + 1

/-
  The text that was matched.  After an empty match the next one is looked for further on.
-/
def takeMatch (m : Machine) (r : Ref) (s : Units) (byCodePoint : Bool) (found : Ref) :
    Run Units := do
  let matched ← toUnits m (← getFrom m found (.index 0))
  if matched.isEmpty then
    setLastIndex m r (placeAfter s (← getLastIndex m r) byCodePoint)
  return matched

def flagsOf (m : Machine) (r : Ref) : Run String := do
  toText m (← getFrom m r (Key.ofString "flags"))

def hasFlag (flags : String) (letter : Char) : Bool := flags.toList.contains letter

def readsCodePoints (flags : String) : Bool := hasFlag flags 'u' || hasFlag flags 'v'

/-
  All results that an object finds in a text one after the other, with what was matched.
-/
def executeAll (m : Machine) (r : Ref) (s : Units) (byCodePoint : Bool) :
    Run (List (Ref × Units)) := do
  setLastIndex m r 0
  repeatRun
    (fun (done : List (Ref × Units)) => do
      match ← execute m r s with
      | some found =>
        let matched ← takeMatch m r s byCodePoint found
        return .inl ((found, matched) :: done)
      | none => return .inr done.reverse)
    []

/-
  Whether an object is treated as a regular expression.
-/
def isRegexp (m : Machine) (v : Value) : Run Bool := do
  match v with
  | .object r =>
    match ← getFrom m r WellKnown.matches.key with
    | .undefined => return (← regexpOf? r).isSome
    | mark => return mark.toBool
  | _ => return false

------------------------------------------------------------
-- Construction
------------------------------------------------------------

/-
  Makes an expression from a text and flags, which may be left out.
-/
def newRegexp (m : Machine) (newTarget : Option Ref) (source flags : Value) : Run Value := do
  let proto ← match newTarget with
    | some t => protoFor m t .regexpProto
    | none => pure Intrinsic.regexpProto.ref
  let source ← if source.isUndefined then pure Units.empty else toUnits m source
  let flags ← if flags.isUndefined then pure "" else toText m flags
  makeRegexpWith proto source flags

/-
  Makes an expression from another one or from a text.  Without `new` an expression is
  given back as it is.
-/
def constructRegexp (m : Machine) (newTarget : Option Ref) (arguments : List Value) :
    Run Value := do
  let pattern := argument arguments 0
  let flags := argument arguments 1
  let looksLike ← isRegexp m pattern
  match pattern with
  | .object r =>
    if looksLike && newTarget.isNone && flags.isUndefined then
      let maker ← getFrom m Intrinsic.regexpProto.ref Key.constructor
      if (← getFrom m r Key.constructor).sameValue maker then
        return pattern
    match (← getObject r).kind with
    | .regexp _ source old =>
      newRegexp m newTarget (.string source) (if flags.isUndefined then .ofString old else flags)
    | _ =>
      if looksLike then
        let source ← getFrom m r (Key.ofString "source")
        let flags ← if flags.isUndefined then getFrom m r (Key.ofString "flags") else pure flags
        newRegexp m newTarget source flags
      else
        newRegexp m newTarget pattern flags
  | pattern => newRegexp m newTarget pattern flags

/-
  An expression with other flags, made the way the first one says.
-/
def deriveRegexp (m : Machine) (r : Ref) (flags : String) : Run Ref := do
  let arguments := [.object r, .ofString flags]
  let v ← match ← speciesOf m r with
    | some c => m.construct c arguments c
    | none => constructRegexp m (some Intrinsic.regexpProto.ref) arguments
  match v with
  | .object derived => return derived
  | _ => throwType receiverMessage

------------------------------------------------------------
-- Methods
------------------------------------------------------------

def matchWith (m : Machine) (r : Ref) (s : Units) : Run Value := do
  let flags ← flagsOf m r
  if hasFlag flags 'g' then
    let found ← executeAll m r s (readsCodePoints flags)
    if found.isEmpty then
      return .null
    else
      makeArray (found.map fun x => .string x.2)
  else
    match ← execute m r s with
    | some found => return .object found
    | none => return .null

def matchAllWith (m : Machine) (r : Ref) (s : Units) : Run Value := do
  let flags ← flagsOf m r
  let derived ← deriveRegexp m r flags
  setLastIndex m derived (← getLastIndex m r)
  makeIterator (.matches (some derived) s (hasFlag flags 'g') (readsCodePoints flags))

/-
  A result as its replacement sees it.
-/
def findingOf (m : Machine) (s : Units) (found : Ref) : Run Finding := do
  let count := (← lengthOf m found) - 1
  let matched ← toUnits m (← getFrom m found (.index 0))
  let position := min (← toWhole m (← getFrom m found (Key.ofString "index"))).toNat s.size
  let groups ← (List.range count).mapM fun i => do
    match ← getFrom m found (.index (i + 1)) with
    | .undefined => return Value.undefined
    | v => return Value.string (← toUnits m v)
  let names ← getFrom m found (Key.ofString "groups")
  return ⟨s, matched, position, groups, names⟩

def replaceWith (m : Machine) (r : Ref) (s : Units) (replacement : Value) : Run Value := do
  let replacement ← replacementOf m replacement
  let flags ← flagsOf m r
  let found ←
    if hasFlag flags 'g' then do
      pure ((← executeAll m r s (readsCodePoints flags)).map (·.1))
    else do
      pure (← execute m r s).toList
  let mut done := Units.empty
  let mut last := 0
  for e in found do
    let x ← findingOf m s e
    let u ← replacementFor m x replacement
    if last ≤ x.position then
      done := done ++ s.slice last x.position ++ u
      last := x.position + x.matched.size
  return .string (if last < s.size then done ++ s.slice last s.size else done)

def searchWith (m : Machine) (r : Ref) (s : Units) : Run Value := do
  let before ← getFrom m r lastIndexKey
  if !before.sameValue (.number 0) then
    setLastIndex m r 0
  let found ← execute m r s
  if !(← getFrom m r lastIndexKey).sameValue before then
    putMember m r lastIndexKey before
  match found with
  | some x => getFrom m x (Key.ofString "index")
  | none => return .number (-1)

/-
  The most parts into which a text is split.
-/
def splitLimit (m : Machine) (limit : Value) : Run Nat := do
  if limit.isUndefined then return Nat.pow 2 32 - 1 else return uint32OfFloat (← toNumber m limit)

/-
  How far the splitting of a text has got: where the next part begins, where the next
  separator is looked for, and the parts, the last first.
-/
structure Splitting where
  start : Nat
  place : Nat
  parts : List Value

/-
  The groups of a separator, which are parts too.
-/
def separatorGroups (m : Machine) (found : Ref) : Run (List Value) := do
  let count := (← lengthOf m found) - 1
  (List.range count).mapM fun i => getFrom m found (.index (i + 1))

def splitWith (m : Machine) (r : Ref) (s : Units) (limit : Value) : Run Value := do
  let flags ← flagsOf m r
  let byCodePoint := readsCodePoints flags
  let splitter ← deriveRegexp m r (if hasFlag flags 'y' then flags else flags ++ "y")
  let limit ← splitLimit m limit
  if limit == 0 then
    makeArray []
  else if s.isEmpty then
    match ← execute m splitter s with
    | some _ => makeArray []
    | none => makeArray [.string s]
  else
    repeatRun
      (fun (x : Splitting) => do
        if x.parts.length ≥ limit then
          return .inr (← makeArray (x.parts.reverse.take limit))
        else if x.place < s.size then
          setLastIndex m splitter x.place
          let further := { x with place := placeAfter s x.place byCodePoint }
          match ← execute m splitter s with
          | none => return .inl further
          | some found =>
            let stop := min (← getLastIndex m splitter) s.size
            if stop == x.start then
              return .inl further
            else
              let part := Value.string (s.slice x.start x.place)
              let groups ← separatorGroups m found
              return .inl ⟨stop, stop, groups.reverse ++ part :: x.parts⟩
        else
          let last := Value.string (s.slice x.start s.size)
          return .inr (← makeArray (last :: x.parts).reverse))
      (⟨0, 0, []⟩ : Splitting)

------------------------------------------------------------
-- Descriptions
------------------------------------------------------------

/-
  The text of an expression, as it stands between slashes; an empty one is written so that
  it is no comment.
-/
def sourceText (source : Units) : Units :=
  if source.isEmpty then
    .ofString "(?:)"
  else
    ⟨(source.units.toList.flatMap fun u =>
      match u with
      | 47 => [92, 47]
      | 10 => [92, 110]
      | 13 => [92, 114]
      | u => [u]).toArray⟩

/-
  The flags, in the order in which they are told.
-/
def flagGetters : List (Char × String) :=
  [ ('d', "hasIndices"), ('g', "global"), ('i', "ignoreCase"), ('m', "multiline")
  , ('s', "dotAll"), ('u', "unicode"), ('v', "unicodeSets"), ('y', "sticky") ]

/-
  The flags that an object says it has.
-/
def toldFlags (m : Machine) (r : Ref) : Run String := do
  let letters ← flagGetters.filterM fun (_, name) => do
    return (← getFrom m r (Key.ofString name)).toBool
  return String.ofList (letters.map (·.1))

/-
  What is told about an expression; the object that all inherit from has nothing to tell.
-/
def describeRegexp (r : Ref) (absent : Value) (f : Units → String → Value) : Run Value := do
  match (← getObject r).kind with
  | .regexp _ source flags => return f source flags
  | _ => if r == Intrinsic.regexpProto.ref then return absent else throwType receiverMessage

def callRegexp (m : Machine) (f : RegexpMethod) (this : Value) (arguments : List Value) :
    Run Value := do
  let a := argument arguments 0
  match this with
  | .object r =>
    match f with
    | .exec =>
      if (← regexpOf? r).isNone then
        throwType receiverMessage
      executeItself m r (← toUnits m a)
    | .test => return .bool (← execute m r (← toUnits m a)).isSome
    | .toText =>
      let source ← toUnits m (← getFrom m r (Key.ofString "source"))
      let flags ← toUnits m (← getFrom m r (Key.ofString "flags"))
      return .string (Units.ofString "/" ++ source ++ Units.ofString "/" ++ flags)
    | .source => describeRegexp r (.ofString "(?:)") fun source _ => .string (sourceText source)
    | .flags => return .ofString (← toldFlags m r)
    | .flag letter => describeRegexp r .undefined fun _ flags => .bool (hasFlag flags letter)
    | .matches => matchWith m r (← toUnits m a)
    | .matchAll => matchAllWith m r (← toUnits m a)
    | .replace => replaceWith m r (← toUnits m a) (argument arguments 1)
    | .search => searchWith m r (← toUnits m a)
    | .split => splitWith m r (← toUnits m a) (argument arguments 1)
  | _ => throwType receiverMessage

end Library

end Realm

end Devirt
