import Devirt.Realm.Library.Objects

/-
  Values as documents and back.

  Documents are read over units, since the texts in them may hold halves of pairs.

  Key definitions include:
    * `Document`, `Document.parse?`
    * `parseDocument`
    * `writeDocument`
-/

namespace Devirt

namespace Realm

namespace Library

------------------------------------------------------------
-- Documents
------------------------------------------------------------

inductive Document where
  | null
  | bool (b : Bool)
  | number (x : Float)
  | text (s : Units)
  | array (items : List Document)
  | object (fields : List (Units × Document))
  deriving Inhabited

namespace Document

def isBlank (u : UInt16) : Bool := u == 32 || u == 9 || u == 10 || u == 13

def skip (us : List UInt16) : List UInt16 := us.dropWhile isBlank

def isDigit (u : UInt16) : Bool := 48 ≤ u && u ≤ 57

def charOf (u : UInt16) : Char := Units.charOf u.toNat

/-
  Four digits in base sixteen.
-/
def fourDigits : List UInt16 → Option (UInt16 × List UInt16)
  | a :: b :: c :: d :: rest => do
    let n ← wholeOfDigits? 16 [charOf a, charOf b, charOf c, charOf d]
    return (n.toUInt16, rest)
  | _ => none

def escapeOf? : UInt16 → Option UInt16
  | 34 => some 34
  | 92 => some 92
  | 47 => some 47
  | 98 => some 8
  | 102 => some 12
  | 110 => some 10
  | 114 => some 13
  | 116 => some 9
  | _ => none

/-
  The units of a text up to its closing quote, in so many steps at most.
-/
def textFrom : Nat → List UInt16 → List UInt16 → Option (Units × List UInt16)
  | 0, _, _ => none
  | _, [], _ => none
  | fuel + 1, u :: rest, done =>
    if u == 34 then
      some (⟨done.reverse.toArray⟩, rest)
    else if u < 32 then
      none
    else if u == 92 then
      match rest with
      | 117 :: rest => do
        let (v, rest) ← fourDigits rest
        textFrom fuel rest (v :: done)
      | e :: rest => do
        let v ← escapeOf? e
        textFrom fuel rest (v :: done)
      | [] => none
    else
      textFrom fuel rest (u :: done)

/-
  One digit at least.
-/
def digits (us : List UInt16) : Option (List UInt16 × List UInt16) :=
  let run := us.takeWhile isDigit
  if run.isEmpty then none else some (run, us.drop run.length)

/-
  The unsigned whole part of a number, which has no needless zero.
-/
def wholeDigits : List UInt16 → Option (List UInt16 × List UInt16)
  | 48 :: rest => some ([48], rest)
  | us => digits us

def fractionDigits : List UInt16 → Option (List UInt16 × List UInt16)
  | 46 :: rest => do
    let (ds, rest) ← digits rest
    return (46 :: ds, rest)
  | us => some ([], us)

def exponentDigits : List UInt16 → Option (List UInt16 × List UInt16)
  | u :: rest =>
    if u == 101 || u == 69 then
      match rest with
      | 43 :: rest => do
        let (ds, rest) ← digits rest
        return (101 :: ds, rest)
      | 45 :: rest => do
        let (ds, rest) ← digits rest
        return (101 :: 45 :: ds, rest)
      | rest => do
        let (ds, rest) ← digits rest
        return (101 :: ds, rest)
    else
      some ([], u :: rest)
  | [] => some ([], [])

def numberFrom (us : List UInt16) : Option (Document × List UInt16) := do
  let (lead, us) := match us with
    | 45 :: rest => ([45], rest)
    | us => (([] : List UInt16), us)
  let (whole, us) ← wholeDigits us
  let (fraction, us) ← fractionDigits us
  let (exponent, us) ← exponentDigits us
  return (.number (numberOfChars ((lead ++ whole ++ fraction ++ exponent).map charOf)), us)

def word? (s : String) (us : List UInt16) : Option (List UInt16) :=
  Text.dropPrefix? (Units.ofString s).units.toList us

mutual

/-
  A document, nested no deeper than the fuel says.
-/
def valueFrom : Nat → List UInt16 → Option (Document × List UInt16)
  | 0, _ => none
  | fuel + 1, us =>
    match skip us with
    | 34 :: rest => do
      let (s, rest) ← textFrom (rest.length + 1) rest []
      return (.text s, rest)
    | 91 :: rest =>
      match skip rest with
      | 93 :: rest => some (.array [], rest)
      | rest => itemsFrom fuel rest []
    | 123 :: rest =>
      match skip rest with
      | 125 :: rest => some (.object [], rest)
      | rest => fieldsFrom fuel rest []
    | us =>
      match word? "null" us, word? "true" us, word? "false" us with
      | some rest, _, _ => some (.null, rest)
      | _, some rest, _ => some (.bool true, rest)
      | _, _, some rest => some (.bool false, rest)
      | _, _, _ => numberFrom us

def itemsFrom : Nat → List UInt16 → List Document → Option (Document × List UInt16)
  | 0, _, _ => none
  | fuel + 1, us, done => do
    let (v, rest) ← valueFrom fuel us
    match skip rest with
    | 44 :: rest => itemsFrom fuel rest (v :: done)
    | 93 :: rest => return (.array (v :: done).reverse, rest)
    | _ => none

def fieldsFrom : Nat → List UInt16 → List (Units × Document) → Option (Document × List UInt16)
  | 0, _, _ => none
  | fuel + 1, us, done =>
    match skip us with
    | 34 :: rest => do
      let (name, rest) ← textFrom (rest.length + 1) rest []
      match skip rest with
      | 58 :: rest =>
        let (v, rest) ← valueFrom fuel rest
        match skip rest with
        | 44 :: rest => fieldsFrom fuel rest ((name, v) :: done)
        | 125 :: rest => return (.object ((name, v) :: done).reverse, rest)
        | _ => none
      | _ => none
    | _ => none

end

/-
  Reads a whole document.
-/
def parse? (s : Units) : Option Document := do
  let us := s.units.toList
  let (d, rest) ← valueFrom (2 * us.length + 2) us
  if (skip rest).isEmpty then some d else none

mutual

/-
  The value of a document.
-/
def toValue : Document → Run Value
  | null => return .null
  | bool b => return .bool b
  | number x => return .number x
  | text s => return .string s
  | array items => do makeArray (← toValues items)
  | object fields => do
    let r ← makeObject
    putFields r fields
    return .object r

def toValues : List Document → Run (List Value)
  | [] => return []
  | d :: ds => do
    let v ← toValue d
    return v :: (← toValues ds)

def putFields (r : Ref) : List (Units × Document) → Run Unit
  | [] => return ()
  | (name, d) :: rest => do
    createMember r (.ofUnits name) (← toValue d)
    putFields r rest

end

end Document

------------------------------------------------------------
-- Reading
------------------------------------------------------------

/-
  Lets a function change the members of a value and then the value itself, down to a
  depth.
-/
def reviveAt (m : Machine) (f : Value) : Nat → Ref → Key → Run Value
  | 0, _, _ => throw .stuck
  | fuel + 1, holder, k => do
    let v ← getFrom m holder k
    match v with
    | .object r =>
      let names ←
        if (← getObject r).isArray then
          pure ((List.range (← lengthOf m r)).map Key.ofNat)
        else
          listedKeys r
      for name in names do
        let new ← reviveAt m f fuel r name
        if new.isUndefined then
          let _ ← deleteOwn r name
        else
          createMember r name new
    | _ => pure ()
    m.call f (.object holder) [k.toValue, v]

def parseDocument (m : Machine) (arguments : List Value) : Run Value := do
  let s ← toUnits m (argument arguments 0)
  match Document.parse? s with
  | none => raiseError .parsing "invalid document"
  | some d =>
    let v ← d.toValue
    let f := argument arguments 1
    if ← isCallable f then
      let root ← makeObject
      createMember root (Key.ofString "") v
      reviveAt m f boundless root (Key.ofString "")
    else
      return v

------------------------------------------------------------
-- Writing
------------------------------------------------------------

def hexDigit (n : Nat) : UInt16 :=
  (Decimal.digitChar n).toNat.toUInt16

def unitEscape (u : UInt16) : List UInt16 :=
  let n := u.toNat
  [92, 117, hexDigit (n / 4096), hexDigit (n / 256 % 16), hexDigit (n / 16 % 16), hexDigit (n % 16)]

/-
  A text between quotes; halves of pairs that stand alone are escaped.
-/
def quoteUnits : List UInt16 → List UInt16
  | [] => []
  | [u] => quoteUnit u (Units.isHighHalf u || Units.isLowHalf u)
  | u :: v :: rest =>
    if Units.isHighHalf u && Units.isLowHalf v then
      u :: v :: quoteUnits rest
    else
      quoteUnit u (Units.isHighHalf u || Units.isLowHalf u) ++ quoteUnits (v :: rest)
where
  quoteUnit (u : UInt16) (isHalf : Bool) : List UInt16 :=
    if isHalf then unitEscape u
    else if u == 34 then [92, 34]
    else if u == 92 then [92, 92]
    else if u == 8 then [92, 98]
    else if u == 12 then [92, 102]
    else if u == 10 then [92, 110]
    else if u == 13 then [92, 114]
    else if u == 9 then [92, 116]
    else if u < 32 then unitEscape u
    else [u]

def quoteText (s : Units) : Units :=
  ⟨#[34] ++ (quoteUnits s.units.toList).toArray ++ #[34]⟩

/-
  How documents are written: a function that changes values, the only members that are
  written, and the indentation.
-/
structure Writing where
  change : Option Value
  only : Option (List Key)
  gap : Units

/-
  The parts of a list or object between brackets.
-/
def bracketed (gap indent : Units) (opening closing : String) (parts : List Units) : Units :=
  let opening := Units.ofString opening
  let closing := Units.ofString closing
  if parts.isEmpty then
    opening ++ closing
  else if gap.isEmpty then
    opening ++ Units.intercalate (.ofString ",") parts ++ closing
  else
    let inner := indent ++ gap
    let separator := Units.ofString ",\n" ++ inner
    opening ++ Units.ofString "\n" ++ inner ++ Units.intercalate separator parts
      ++ Units.ofString "\n" ++ indent ++ closing

/-
  The value that is written for a member: what its method for documents gives, changed by
  a function.
-/
def changed (m : Machine) (w : Writing) (holder : Ref) (k : Key) (v : Value) : Run Value := do
  let v ← match v with
    | .object _ | .bigint _ =>
      let f ← getMember m v (Key.ofString "toJSON")
      if ← isCallable f then m.call f v [k.toValue] else pure v
    | v => pure v
  let v ← match w.change with
    | some f => m.call f (.object holder) [k.toValue, v]
    | none => pure v
  match v with
  | .object r =>
    match (← getObject r).kind with
    | .wrapper (.number _) => return .number (← toNumber m v)
    | .wrapper (.string _) => return .string (← toUnits m v)
    | .wrapper (.bool b) => return .bool b
    | .wrapper (.bigint n) => return .bigint n
    | _ => return v
  | v => return v

/-
  A member of an object as a document, or nothing if its value has none.  The objects
  around it are known, so that a circle is noticed.
-/
def writeMember (m : Machine) (w : Writing) :
    Nat → List Ref → Units → Ref → Key → Run (Option Units)
  | 0, _, _, _, _ => throw .stuck
  | fuel + 1, around, indent, holder, k => do
    match ← changed m w holder k (← getFrom m holder k) with
    | .null => return some (.ofString "null")
    | .bool b => return some (.ofString (if b then "true" else "false"))
    | .string s => return some (quoteText s)
    | .number x =>
      return some (.ofString (if x.isNaN || x.isInf then "null" else numberText x))
    | .bigint _ => throwType "cannot serialize bigint to JSON"
    | .undefined => return none
    | .symbol _ => return none
    | .object r =>
      let o ← getObject r
      if o.isCallable then
        return none
      else
        if around.contains r then
          throwType "cyclic object value"
        let inner := indent ++ w.gap
        if o.isArray then
          let n ← lengthOf m r
          let mut parts := #[]
          for i in [0 : n] do
            let part ← writeMember m w fuel (r :: around) inner r (.ofNat i)
            parts := parts.push (part.getD (.ofString "null"))
          return some (bracketed w.gap indent "[" "]" parts.toList)
        else
          let names ← match w.only with
            | some names => pure names
            | none => listedKeys r
          let mut parts := #[]
          for name in names do
            match ← writeMember m w fuel (r :: around) inner r name with
            | some part =>
              let colon := if w.gap.isEmpty then ":" else ": "
              parts := parts.push
                (quoteText (name.text?.getD .empty) ++ Units.ofString colon ++ part)
            | none => pure ()
          return some (bracketed w.gap indent "\x7b" "\x7d" parts.toList)

/-
  The members that a list names.
-/
def chosenKeys (m : Machine) (r : Ref) : Run (List Key) := do
  let mut names := #[]
  for v in ← elementsOf m r do
    let name ← match v with
      | .string s => pure (some (Key.ofUnits s))
      | .number _ => do pure (some (Key.ofUnits (← toUnits m v)))
      | .object x =>
        match (← getObject x).kind with
        | .wrapper (.string _) | .wrapper (.number _) => do
          pure (some (Key.ofUnits (← toUnits m v)))
        | _ => pure none
      | _ => pure none
    match name with
    | some k => if !names.contains k then names := names.push k
    | none => pure ()
  return names.toList

/-
  The indentation of a document: up to ten blanks, or a text.
-/
def gapOf (v : Value) : Run Units := do
  match ← unwrap v with
  | .number x => return (Units.ofString " ").replicate (min 10 (clampedWhole x)).toNat
  | .string s => return s.slice 0 10
  | _ => return .empty

def writeDocument (m : Machine) (arguments : List Value) : Run Value := do
  let replacer := argument arguments 1
  let change := if ← isCallable replacer then some replacer else none
  let only ← match replacer with
    | .object r => do
      if (← getObject r).isArray then pure (some (← chosenKeys m r)) else pure none
    | _ => pure none
  let gap ← gapOf (argument arguments 2)
  let holder ← makeObject
  createMember holder (Key.ofString "") (argument arguments 0)
  match ← writeMember m ⟨change, only, gap⟩ boundless [] .empty holder (Key.ofString "") with
  | some s => return .string s
  | none => return .undefined

def callJson (m : Machine) (f : JsonFunction) (arguments : List Value) : Run Value :=
  match f with
  | .parse => parseDocument m arguments
  | .stringify => writeDocument m arguments

end Library

end Realm

end Devirt
