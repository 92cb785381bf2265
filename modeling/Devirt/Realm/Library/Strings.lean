import Devirt.Realm.Library.Regexps
import Devirt.Text.Case
import Devirt.Text.Normal

/-
  The functions about texts.

  Key definitions include:
    * `callString`, the functions of `String`
    * `callStringMethod`, the methods of texts
-/

namespace Devirt

namespace Realm

namespace Library

------------------------------------------------------------
-- Functions
------------------------------------------------------------

/-
  The pieces of a template with values between them.
-/
def rawText (m : Machine) (arguments : List Value) : Run Value := do
  let cooked ← toObject (argument arguments 0)
  let raw ← toObject (← getFrom m cooked (Key.ofString "raw"))
  let n ← lengthOf m raw
  let mut done := Units.empty
  for i in [0 : n] do
    done := done ++ (← toUnits m (← getFrom m raw (.ofNat i)))
    if i + 1 < n then
      match arguments[i + 1]? with
      | some v => done := done ++ (← toUnits m v)
      | none => pure ()
  return .string done

def callString (m : Machine) (f : StringFunction) (arguments : List Value) : Run Value := do
  match f with
  | .fromCharCode =>
    let units ← arguments.mapM fun v => do
      return (uint32OfFloat (← toNumber m v)).toUInt16
    return .string ⟨units.toArray⟩
  | .fromCodePoint =>
    let units ← arguments.mapM fun v => do
      let x ← toNumber m v
      match indexOfFloat? x with
      | some n =>
        if n ≤ 0x10FFFF then
          return Units.ofCodePoint n
        else
          raiseError .range ("codepoint `" ++ numberText x ++ "` is not in the range of Unicode")
      | none => raiseError .range ("codepoint `" ++ numberText x ++ "` is not an integer")
    return .string ⟨units.flatten.toArray⟩
  | .raw => rawText m arguments

------------------------------------------------------------
-- Parts
------------------------------------------------------------

/-
  Whether a unit is a blank or the end of a line.
-/
def isSpaceUnit (u : UInt16) : Bool :=
  !(Units.isHighHalf u || Units.isLowHalf u) && isTextSpace (Char.ofNat u.toNat)

def trimFront (s : Units) : Units :=
  ⟨(s.units.toList.dropWhile isSpaceUnit).toArray⟩

def trimBack (s : Units) : Units :=
  ⟨(s.units.toList.reverse.dropWhile isSpaceUnit).reverse.toArray⟩

/-
  The code point at a place, with the number of its units.
-/
def codePointAt (s : Units) (i : Nat) : Option (Nat × Nat) :=
  match s.get? i with
  | none => none
  | some u =>
    match s.get? (i + 1) with
    | some v =>
      if Units.isHighHalf u && Units.isLowHalf v then some (Units.joinHalves u v, 2)
      else some (u.toNat, 1)
    | none => some (u.toNat, 1)

def isWellFormed (s : Units) : Bool :=
  s.codePoints.all fun n => !(0xD800 ≤ n && n < 0xE000)

def ofCodePoints (ns : List Nat) : Units :=
  ⟨(ns.flatMap Units.ofCodePoint).toArray⟩

/-
  The length that a text is padded to, and the text it is padded with.
-/
def padding (m : Machine) (s : Units) (arguments : List Value) : Run Units := do
  let target ← toLength m (argument arguments 0)
  let filler := argument arguments 1
  let filler ← if filler.isUndefined then pure (Units.ofString " ") else toUnits m filler
  if target ≤ s.size || filler.isEmpty then
    return .empty
  else
    let missing := target - s.size
    return (filler.replicate (missing / filler.size + 1)).slice 0 missing

def repeatMessage : String :=
  "repeat count must be a positive finite number "
    ++ "that doesn't overflow the maximum string length (2^32 - 1)"

def repeatText (m : Machine) (s : Units) (v : Value) : Run Value := do
  let x ← toNumber m v
  match wholePart? x with
  | none => raiseError .range repeatMessage
  | some n =>
    if n < 0 || s.size * n.toNat ≥ Nat.pow 2 32 then
      raiseError .range repeatMessage
    else if s.isEmpty then
      return .string .empty
    else
      return .string (s.replicate n.toNat)

/-
  A place in a text, not beyond its end and not before its beginning.
-/
def clampPlace (m : Machine) (v : Value) (length default : Nat) : Run Nat := do
  if v.isUndefined then
    return default
  else
    return min (← toWhole m v).toNat length

/-
  A text to look for, which must not be an expression.
-/
def plainText (m : Machine) (v : Value) : Run Units := do
  if ← isRegexp m v then
    throwType "First argument must not be a regular expression"
  toUnits m v

------------------------------------------------------------
-- Matching and Splitting
------------------------------------------------------------

/-
  The parts of a text between the occurrences of another.
-/
def splitPlain (s part : Units) : List Value :=
  if part.isEmpty then
    s.units.toList.map fun u => .string (.ofUnit u)
  else
    let (done, last) := (occurrences s part).foldl
      (fun (state : List Value × Nat) place =>
        (.string (s.slice state.2 place) :: state.1, place + part.size))
      ([], 0)
    (.string (s.slice last s.size) :: done).reverse

def splitText (m : Machine) (s : Units) (arguments : List Value) : Run Value := do
  let separator := argument arguments 0
  let limit ← splitLimit m (argument arguments 1)
  let part ← toUnits m separator
  if limit == 0 then
    makeArray []
  else if separator.isUndefined then
    makeArray [.string s]
  else
    makeArray ((splitPlain s part).take limit)

def replaceText (m : Machine) (s : Units) (arguments : List Value) (isAll : Bool) :
    Run Value := do
  let part ← toUnits m (argument arguments 0)
  let replacement ← replacementOf m (argument arguments 1)
  let places := if isAll then occurrences s part else (s.find? part 0).toList
  return .string (← replaceAt m s part places replacement)

/-
  Matches a text with an expression made from an argument.
-/
def matchNew (m : Machine) (s : Units) (v : Value) (flags : Value) (k : WellKnown) :
    Run Value := do
  let x ← newRegexp m none v flags
  match ← getMethod m x k.key with
  | some f => m.call f x [.string s]
  | none => throwType "not a callable function"

/-
  Fails for an expression that does not look for all its matches.
-/
def requireGlobal (m : Machine) (v : Value) (message : String) : Run Unit := do
  if ← isRegexp m v then
    let flags ← getMember m v (Key.ofString "flags")
    requireValue flags
    if !hasFlag (← toText m flags) 'g' then
      throwType message

/-
  The symbol under which an argument has the method that does the work, and what else the
  method gets.
-/
def delegation? (f : StringMethod) (arguments : List Value) : Option (WellKnown × List Value) :=
  match f with
  | .matches => some (.matches, [])
  | .matchAll => some (.matchAll, [])
  | .replace | .replaceAll => some (.replace, [argument arguments 1])
  | .search => some (.search, [])
  | .split => some (.split, [argument arguments 1])
  | _ => none

/-
  Lets the argument of a method do the work, if it can.
-/
def delegateText (m : Machine) (f : StringMethod) (this : Value) (arguments : List Value) :
    Run (Option Value) := do
  let a := argument arguments 0
  match delegation? f arguments with
  | none => return none
  | some (k, rest) =>
    if a.isNullish then
      return none
    match f with
    | .matchAll =>
      requireGlobal m a "String.prototype.matchAll called with a non-global RegExp argument"
    | .replaceAll => requireGlobal m a "replaceAll must be called with a global RegExp"
    | _ => pure ()
    match ← getMethod m a k.key with
    | some g => return some (← m.call g a (this :: rest))
    | none => return none

------------------------------------------------------------
-- The Methods of Texts
------------------------------------------------------------

/-
  The text that a method of texts returns as it is.
-/
def textItself (v : Value) : Run Value := do
  match ← unwrap v with
  | .string s => return .string s
  | _ => throwType "'this' is not a string"

def callStringMethod (m : Machine) (f : StringMethod) (this : Value) (arguments : List Value) :
    Run Value := do
  let a := argument arguments 0
  match f with
  | .toText | .valueOf => textItself this
  | f =>
    requireValue this
    if let some v ← delegateText m f this arguments then
      return v
    let s ← toUnits m this
    match f with
    | .atIndex =>
      let i ← toWhole m a
      let k := if i < 0 then i + s.size else i
      if k < 0 then
        return .undefined
      else
        return ((s.get? k.toNat).map fun u => Value.string (.ofUnit u)).getD .undefined
    | .charAt =>
      let i ← toWhole m a
      if i < 0 then
        return .string .empty
      else
        return ((s.get? i.toNat).map fun u => Value.string (.ofUnit u)).getD (.string .empty)
    | .charCodeAt =>
      let i ← toWhole m a
      if i < 0 then
        return .number nan
      else
        return ((s.get? i.toNat).map fun u => Value.ofNat u.toNat).getD (.number nan)
    | .codePointAt =>
      let i ← toWhole m a
      if i < 0 then
        return .undefined
      else
        return ((codePointAt s i.toNat).map fun e => Value.ofNat e.1).getD .undefined
    | .concat =>
      let mut done := s
      for v in arguments do
        done := done ++ (← toUnits m v)
      return .string done
    | .endsWith =>
      let part ← plainText m a
      let stop ← clampPlace m (argument arguments 1) s.size s.size
      return .bool (part.size ≤ stop && s.occursAt part (stop - part.size))
    | .startsWith =>
      let part ← plainText m a
      let start ← clampPlace m (argument arguments 1) s.size 0
      return .bool (s.occursAt part start)
    | .includes =>
      let part ← plainText m a
      let start ← clampPlace m (argument arguments 1) s.size 0
      return .bool (s.find? part start).isSome
    | .indexOf =>
      let part ← toUnits m a
      let start ← clampPlace m (argument arguments 1) s.size 0
      return ((s.find? part start).map Value.ofNat).getD (.number (-1))
    | .lastIndexOf =>
      let part ← toUnits m a
      let x ← toNumber m (argument arguments 1)
      let start := if x.isNaN then s.size else min (clampedWhole x).toNat s.size
      return ((s.findLast? part start).map Value.ofNat).getD (.number (-1))
    | .isWellFormed => return .bool (isWellFormed s)
    | .toWellFormed =>
      return .string (ofCodePoints (s.toChars.map Char.toNat))
    | .localeCompare =>
      let t ← toUnits m a
      return .number (if s == t then 0 else if s.lt t then -1 else 1)
    | .matches => matchNew m s a .undefined .matches
    | .matchAll => matchNew m s a (.ofString "g") .matchAll
    | .normalize =>
      let name ← if a.isUndefined then pure "NFC" else toText m a
      match Text.Form.ofName? name with
      | some form => return .string (ofCodePoints (Text.normalize form s.codePoints))
      | none =>
        raiseError .range "The normalization form should be one of NFC, NFD, NFKC, NFKD."
    | .padEnd => return .string (s ++ (← padding m s arguments))
    | .padStart => return .string ((← padding m s arguments) ++ s)
    | .repeated => repeatText m s a
    | .replace => replaceText m s arguments false
    | .replaceAll => replaceText m s arguments true
    | .search => matchNew m s a .undefined .search
    | .slice =>
      let start ← placeOf m a s.size 0
      let stop ← placeOf m (argument arguments 1) s.size s.size
      return .string (s.slice start stop)
    | .substring =>
      let start ← clampPlace m a s.size 0
      let stop ← clampPlace m (argument arguments 1) s.size s.size
      return .string (s.slice (min start stop) (max start stop))
    | .split => splitText m s arguments
    | .toLowerCase | .toLocaleLowerCase =>
      return .string (ofCodePoints (Text.toLowerAll s.codePoints))
    | .toUpperCase | .toLocaleUpperCase =>
      return .string (ofCodePoints (Text.toUpperAll s.codePoints))
    | .trim => return .string (trimBack (trimFront s))
    | .trimEnd => return .string (trimBack s)
    | .trimStart => return .string (trimFront s)
    | .iterate => makeIterator (.text s 0)
    | .toText | .valueOf => return .string s

end Library

end Realm

end Devirt
