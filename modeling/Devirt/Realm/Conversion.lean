import Devirt.Decimal.Rounding
import Devirt.Realm.Member
import Devirt.Script.Token

/-
  Conversions between the values of scripts.

  Key definitions include:
    * `numberText`, `numberOfText`
    * `toPrimitive`, `toNumber`, `toUnits`, `toKey`, `toObject`
    * `looselyEqual`, `lessThan`
-/

namespace Devirt

namespace Realm

------------------------------------------------------------
-- Numbers as Texts
------------------------------------------------------------

/-
  Numbers are written by their shortest digits, positionally up to twenty-one digits and
  from a millionth on.
-/
def numberStyle : Decimal.Style :=
  ⟨-5, 21, false, true, false, "NaN", "Infinity"⟩

def numberText (x : Float) : String :=
  if Decimal.isExactWhole x then toString (Decimal.toInteger x) else numberStyle.write x

def nan : Float := 0.0 / 0.0

def infinity : Float := 1.0 / 0.0

------------------------------------------------------------
-- Texts as Numbers
------------------------------------------------------------

def isTextSpace (c : Char) : Bool := Script.Lexer.isSpace c || Script.Lexer.isLineEnd c

def trimSpaces (cs : List Char) : List Char :=
  Text.dropEnd isTextSpace (cs.dropWhile isTextSpace)

/-
  The power of ten that a text begins with, if it has one.
-/
def exponentPrefix (cs : List Char) : Int × List Char :=
  match cs with
  | c :: rest =>
    if c == 'e' || c == 'E' then
      let (negative, digits) := match rest with
        | '-' :: ds => (true, ds)
        | '+' :: ds => (false, ds)
        | ds => (false, ds)
      let run := digits.takeWhile Script.Lexer.isDigit
      if run.isEmpty then
        (0, cs)
      else
        let n : Int := min (Decimal.natOfDigits run) 100000
        (if negative then -n else n, digits.drop run.length)
    else
      (0, cs)
  | [] => (0, [])

/-
  The unsigned decimal number that a text begins with.
-/
def decimalPrefix (cs : List Char) : Option (Float × List Char) :=
  match Text.dropPrefix? "Infinity".toList cs with
  | some rest => some (infinity, rest)
  | none =>
    let whole := cs.takeWhile Script.Lexer.isDigit
    let rest := cs.drop whole.length
    let (fraction, rest) := match rest with
      | '.' :: r =>
        let f := r.takeWhile Script.Lexer.isDigit
        if whole.isEmpty && f.isEmpty then ([], '.' :: r) else (f, r.drop f.length)
      | r => ([], r)
    if whole.isEmpty && fraction.isEmpty then
      none
    else
      let (e, rest) := exponentPrefix rest
      some (Decimal.ofNumeral whole fraction e, rest)

/-
  The decimal number that a text begins with.
-/
def signedPrefix : List Char → Option (Float × List Char)
  | '-' :: cs => (decimalPrefix cs).map fun (x, rest) => (-x, rest)
  | '+' :: cs => decimalPrefix cs
  | cs => decimalPrefix cs

/-
  The value of digits in a base, if all are digits and there is one.
-/
def wholeOfDigits? (base : Nat) (ds : List Char) : Option Nat :=
  if ds.isEmpty then
    none
  else
    ds.foldlM
      (fun n c =>
        match Literal.hexValue? c with
        | some d => if d < base then some (base * n + d) else none
        | none => none)
      0

/-
  The number that a whole text stands for; it is no number if the text is none.
-/
def numberOfChars (cs : List Char) : Float :=
  match trimSpaces cs with
  | [] => 0.0
  | '0' :: c :: ds =>
    let based := fun base => ((wholeOfDigits? base ds).map Decimal.ofNat).getD nan
    if c == 'x' || c == 'X' then based 16
    else if c == 'o' || c == 'O' then based 8
    else if c == 'b' || c == 'B' then based 2
    else
      match decimalPrefix ('0' :: c :: ds) with
      | some (x, []) => x
      | _ => nan
  | cs =>
    match signedPrefix cs with
    | some (x, []) => x
    | _ => nan

def numberOfText (s : Units) : Float := numberOfChars s.toChars

/-
  The whole number that a text stands for.
-/
def bigintOfText? (s : Units) : Option Int :=
  match trimSpaces s.toChars with
  | [] => some 0
  | '0' :: c :: ds =>
    if c == 'x' || c == 'X' then (wholeOfDigits? 16 ds).map Int.ofNat
    else if c == 'o' || c == 'O' then (wholeOfDigits? 8 ds).map Int.ofNat
    else if c == 'b' || c == 'B' then (wholeOfDigits? 2 ds).map Int.ofNat
    else (wholeOfDigits? 10 ('0' :: c :: ds)).map Int.ofNat
  | '-' :: ds => (wholeOfDigits? 10 ds).map fun n => -Int.ofNat n
  | '+' :: ds => (wholeOfDigits? 10 ds).map Int.ofNat
  | ds => (wholeOfDigits? 10 ds).map Int.ofNat

------------------------------------------------------------
-- Primitive Values
------------------------------------------------------------

/-
  What a conversion would like to get.
-/
inductive Hint where
  | default
  | number
  | string
  deriving DecidableEq, Repr

def Hint.name : Hint → String
  | .default => "default"
  | .number => "number"
  | .string => "string"

/-
  Tries members of an object, in order, for one that gives a primitive value.
-/
def firstPrimitive (m : Machine) (r : Ref) : List String → Run Value
  | [] => throwType "cannot convert object to primitive value"
  | x :: rest => do
    let f ← getFrom m r (Key.ofString x)
    if ← isCallable f then
      let v ← m.call f (.object r) []
      if v.isObject then firstPrimitive m r rest else return v
    else
      firstPrimitive m r rest

/-
  The primitive value of an object by its own methods.  An object that is part of itself
  counts as nothing there.
-/
def ordinaryPrimitive (m : Machine) (r : Ref) (hint : Hint) : Run Value := do
  let converting := (← get).converting
  if converting.contains r then
    return if hint == .string then .string .empty else .number 0.0
  else
    modify fun w => { w with converting := r :: converting }
    let result ← outcome (firstPrimitive m r
      (if hint == .string then ["toString", "valueOf"] else ["valueOf", "toString"]))
    modify fun w => { w with converting }
    resume result

/-
  A value that is no object.
-/
def toPrimitive (m : Machine) (v : Value) (hint : Hint) : Run Value := do
  match v with
  | .object r =>
    match ← getMethod m v WellKnown.toPrimitive.key with
    | some f =>
      let result ← m.call f v [.ofString hint.name]
      if result.isObject then
        throwType "cannot convert object to primitive value"
      else
        return result
    | none => ordinaryPrimitive m r hint
  | v => return v

------------------------------------------------------------
-- Numbers
------------------------------------------------------------

def primitiveNumber : Value → Run Float
  | .undefined => pure nan
  | .null => pure 0.0
  | .bool b => pure (if b then 1.0 else 0.0)
  | .number x => pure x
  | .string s => pure (numberOfText s)
  | .symbol _ => throwType "argument must not be a symbol"
  | .bigint _ => throwType "argument must not be a bigint"
  | .object _ => pure nan

def toNumber (m : Machine) (v : Value) : Run Float := do
  match v with
  | .number x => return x
  | v => primitiveNumber (← toPrimitive m v .number)

/-
  A number or a large whole number.
-/
def toNumeric (m : Machine) (v : Value) : Run Value := do
  match ← toPrimitive m v .number with
  | .bigint n => return .bigint n
  | p => return .number (← primitiveNumber p)

/-
  The whole part of a number, if it has one.
-/
def wholePart? (x : Float) : Option Int :=
  if x.isNaN then some 0
  else if x.isInf then none
  else some (Decimal.truncate x)

/-
  The whole part of a number, cut at a bound that no size reaches.
-/
def clampedWhole (x : Float) : Int :=
  match wholePart? x with
  | some n => n
  | none => if x > 0 then Int.pow 2 1100 else -(Int.pow 2 1100)

def toWhole (m : Machine) (v : Value) : Run Int := do
  return clampedWhole (← toNumber m v)

/-
  The whole part of a number, within thirty-two bits and a sign.
-/
def int32OfFloat (x : Float) : Int :=
  if x.isNaN || x.isInf then 0 else Int.bmod (Decimal.truncate x) (Nat.pow 2 32)

def uint32OfFloat (x : Float) : Nat :=
  if x.isNaN || x.isInf then 0 else (Decimal.truncate x % (Int.pow 2 32)).toNat

def toInt32 (m : Machine) (v : Value) : Run Int := do
  return int32OfFloat (← toNumber m v)

/-
  The largest number of elements.
-/
def maxLength : Nat := Nat.pow 2 53 - 1

/-
  A number of elements.
-/
def toLength (m : Machine) (v : Value) : Run Nat := do
  let n ← toWhole m v
  return min n.toNat maxLength

/-
  A place counted from the beginning or, if negative, from the end, within a length.
-/
def relativeIndex (n : Int) (length : Nat) : Nat :=
  if n < 0 then (n + length).toNat else min n.toNat length

------------------------------------------------------------
-- Texts and Keys
------------------------------------------------------------

def primitiveUnits : Value → Run Units
  | .undefined => pure (.ofString "undefined")
  | .null => pure (.ofString "null")
  | .bool b => pure (.ofString (if b then "true" else "false"))
  | .number x => pure (.ofString (numberText x))
  | .bigint n => pure (.ofString (toString n))
  | .string s => pure s
  | .symbol _ => throwType "can't convert symbol to string"
  | .object _ => pure .empty

/-
  The text of a value.
-/
def toUnits (m : Machine) (v : Value) : Run Units := do
  match v with
  | .string s => return s
  | v => primitiveUnits (← toPrimitive m v .string)

def toText (m : Machine) (v : Value) : Run String := do
  return (← toUnits m v).toText

/-
  The number of an element, if a number is one.
-/
def indexOfFloat? (x : Float) : Option Nat :=
  if x ≥ 0 && x < 4294967295 && x.toUInt64.toFloat == x then some x.toUInt64.toNat else none

def toKey (m : Machine) (v : Value) : Run Key := do
  match v with
  | .number x =>
    match indexOfFloat? x with
    | some n => return .index n
    | none => return .ofString (numberText x)
  | .string s => return .ofUnits s
  | .symbol id => return .symbol id
  | v =>
    match ← toPrimitive m v .string with
    | .symbol id => return .symbol id
    | p => return .ofUnits (← primitiveUnits p)

------------------------------------------------------------
-- Objects
------------------------------------------------------------

/-
  The object that stands for a value.
-/
def toObject (v : Value) : Run Ref := do
  match v with
  | .object r => return r
  | v =>
    match protoOf? v with
    | some proto => allocate { proto := some proto, kind := .wrapper v }
    | none => throwType nullishMessage

/-
  The length of a list or of an object that is like one.
-/
def lengthOf (m : Machine) (r : Ref) : Run Nat := do
  match (← getObject r).kind with
  | .array n _ => return n
  | _ => toLength m (← getFrom m r Key.length)

/-
  The elements of a list or of an object that is like one.
-/
def elementsOf (m : Machine) (r : Ref) : Run (List Value) := do
  let n ← lengthOf m r
  (List.range n).mapM fun i => getFrom m r (.ofNat i)

------------------------------------------------------------
-- Comparison
------------------------------------------------------------

/-
  Whether a whole number equals a number.
-/
def bigintEqualsNumber (n : Int) (x : Float) : Bool :=
  !(x.isNaN || x.isInf) && x.floor == x && Decimal.truncate x == n

/-
  Equality of values of different kinds, no objects among them.
-/
def primitivesEqual (a b : Value) : Bool :=
  let toFloat? : Value → Option Float := fun
    | .number x => some x
    | .bool b => some (if b then 1.0 else 0.0)
    | .string s => some (numberOfText s)
    | _ => none
  match a, b with
  | .undefined, .null => true
  | .null, .undefined => true
  | .bigint n, .bigint k => n == k
  | .string s, .string t => s == t
  | .symbol i, .symbol j => i == j
  | .bigint n, .string s => bigintOfText? s == some n
  | .string s, .bigint n => bigintOfText? s == some n
  | .bigint n, b => ((toFloat? b).map (bigintEqualsNumber n)).getD false
  | a, .bigint n => ((toFloat? a).map (bigintEqualsNumber n)).getD false
  | a, b =>
    match toFloat? a, toFloat? b with
    | some x, some y => x == y
    | _, _ => a.strictlyEqual b

/-
  Equality with conversions.
-/
def looselyEqual (m : Machine) (a b : Value) : Run Bool := do
  match a, b with
  | .object r, .object s => return r == s
  | .object _, b =>
    if b.isNullish then return false
    else return primitivesEqual (← toPrimitive m a .default) b
  | a, .object _ =>
    if a.isNullish then return false
    else return primitivesEqual a (← toPrimitive m b .default)
  | a, b => return primitivesEqual a b

/-
  How two values compare; values that are no numbers do not.
-/
inductive Order where
  | less
  | equal
  | greater
  | none
  deriving DecidableEq, Repr

def compareFloats (x y : Float) : Order :=
  if x < y then .less else if x == y then .equal else if x > y then .greater else .none

def compareBigint (n : Int) (x : Float) : Order :=
  if x.isNaN then .none
  else if x.isInf then (if x > 0 then .less else .greater)
  else
    let t := Decimal.truncate x
    if n < t then .less
    else if n > t then .greater
    else
      let rest := x - (if Decimal.isNegative x then x.ceil else x.floor)
      if rest > 0 then .less else if rest < 0 then .greater else .equal

def Order.flip : Order → Order
  | .less => .greater
  | .greater => .less
  | o => o

/-
  The order of two primitive values.
-/
def comparePrimitives (a b : Value) : Run Order := do
  match a, b with
  | .string s, .string t =>
    return if s == t then .equal else if s.lt t then .less else .greater
  | .bigint n, .bigint k => return if n < k then .less else if n == k then .equal else .greater
  | .bigint n, .string s =>
    match bigintOfText? s with
    | some k => return if n < k then .less else if n == k then .equal else .greater
    | none => return .none
  | .string s, .bigint n =>
    match bigintOfText? s with
    | some k => return if k < n then .less else if k == n then .equal else .greater
    | none => return .none
  | .bigint n, b => return compareBigint n (← primitiveNumber b)
  | a, .bigint n => return (compareBigint n (← primitiveNumber a)).flip
  | a, b => return compareFloats (← primitiveNumber a) (← primitiveNumber b)

def compare (m : Machine) (a b : Value) : Run Order := do
  let p ← toPrimitive m a .number
  let q ← toPrimitive m b .number
  comparePrimitives p q

end Realm

end Devirt
