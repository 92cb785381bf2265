import Devirt.Realm.Library.Basic
import Devirt.Realm.Operator

/-
  The functions about numbers, truth values and symbols.

  Key definitions include:
    * `callNumber`, `callNumberMethod`
    * `callMath`
    * `callBigint`, `callSymbol`
-/

namespace Devirt

namespace Realm

namespace Library

------------------------------------------------------------
-- Numbers
------------------------------------------------------------

def isWhole (x : Float) : Bool :=
  !(x.isNaN || x.isInf) && x.floor == x

def callNumber (f : NumberFunction) (arguments : List Value) : Run Value := do
  match argument arguments 0 with
  | .number x =>
    match f with
    | .isFinite => return .bool !(x.isNaN || x.isInf)
    | .isInteger => return .bool (isWhole x)
    | .isNaN => return .bool x.isNaN
    | .isSafeInteger => return .bool (isWhole x && x.abs ≤ 9007199254740991)
  | _ => return .bool false

/-
  The number that an object wraps or that is given itself.
-/
def numberItself (v : Value) : Run Float := do
  match ← unwrap v with
  | .number x => return x
  | _ => throwType "'this' is not a number"

/-
  The text of a number that is not finite.
-/
def specialText? (x : Float) : Option String :=
  if x.isNaN || x.isInf then some (numberText x) else none

/-
  A number written by a function of its magnitude.
-/
def signedText (x : Float) (write : Float → List Char) : Value :=
  let digits := write x.abs
  .ofString (String.ofList (if x < 0 then '-' :: digits else digits))

/-
  A number of places within bounds.
-/
def placesOf (m : Machine) (v : Value) (least most : Int) (message : String) : Run Nat := do
  let n ← toWhole m v
  if n < least || n > most then
    raiseError .range message
  return n.toNat

def numberInBase (m : Machine) (x : Float) (v : Value) : Run Value := do
  let base ← if v.isUndefined then pure 10
    else placesOf m v 2 36 "radix must be an integer at least 2 and no greater than 36"
  match specialText? x with
  | some s => return .ofString s
  | none =>
    if base == 10 then return .ofString (numberText x)
    else if x == 0 then return .ofString "0"
    else return signedText x fun y => Decimal.inBase y base

def callNumberMethod (m : Machine) (f : NumberMethod) (this : Value) (arguments : List Value) :
    Run Value := do
  let x ← numberItself this
  let a := argument arguments 0
  match f with
  | .valueOf => return .number x
  | .toText => numberInBase m x a
  | .toLocaleString => return .ofString (numberText x)
  | .toFixed =>
    let places ← placesOf m a 0 100 "toFixed() digits argument must be between 0 and 100"
    match specialText? x with
    | some s => return .ofString s
    | none =>
      if x.abs ≥ 1e21 then
        return .ofString (numberText x)
      else
        return signedText x fun y => Decimal.fixed y places .toEven
  | .toExponential =>
    let places ← toWhole m a
    match specialText? x with
    | some s => return .ofString s
    | none =>
      if places < 0 || places > 100 then
        raiseError .range "toExponential() argument must be between 0 and 100"
      let places := if a.isUndefined then none else some places.toNat
      return signedText x fun y => Decimal.exponential y places
  | .toPrecision =>
    if a.isUndefined then
      return .ofString (numberText x)
    else
      let places ← toWhole m a
      match specialText? x with
      | some s => return .ofString s
      | none =>
        if places < 1 || places > 100 then
          raiseError .range "precision must be an integer at least 1 and no greater than 100"
        return signedText x fun y => Decimal.precision y places.toNat

/-
  A value as a number, where large whole numbers are rounded.
-/
def convertToNumber (m : Machine) (v : Value) : Run Float := do
  match ← toNumeric m v with
  | .bigint n =>
    match Value.ofInt n with
    | .number x => return x
    | _ => return nan
  | .number x => return x
  | _ => return nan

------------------------------------------------------------
-- Mathematics
------------------------------------------------------------

/-
  The nearest whole number; a half goes up.
-/
def roundHalfUp (x : Float) : Float :=
  let below := x.floor
  let rounded := if x - below ≥ 0.5 then below + 1 else below
  if rounded == 0 && Decimal.isNegative x then -0.0 else rounded

def logOnePlus (x : Float) : Float :=
  let u := 1.0 + x
  if u == 1.0 then x else if u.isInf then u.log else u.log * (x / (u - 1.0))

def expMinusOne (x : Float) : Float :=
  let u := x.exp
  if u == 1.0 then x
  else if u.isInf then u
  else if u - 1.0 == -1.0 then -1.0
  else (u - 1.0) * (x / u.log)

def signOf (x : Float) : Float :=
  if x > 0 then 1 else if x < 0 then -1 else x

/-
  The larger of two numbers, where no number wins and zero has a sign.
-/
def larger (x y : Float) : Float :=
  if x.isNaN || y.isNaN then nan
  else if x == 0 && y == 0 then (if Decimal.isNegative x then y else x)
  else if x > y then x else y

def smaller (x y : Float) : Float :=
  if x.isNaN || y.isNaN then nan
  else if x == 0 && y == 0 then (if Decimal.isNegative x then x else y)
  else if x < y then x else y

def hypotenuse (xs : List Float) : Float :=
  if xs.any Float.isInf then infinity
  else
    let largest := xs.foldl (fun a x => larger a x.abs) 0.0
    if largest == 0 || largest.isNaN then largest
    else (xs.foldl (fun a x => a + (x / largest) * (x / largest)) 0.0).sqrt * largest

/-
  The number of zero bits before the first bit of a number of thirty-two bits.
-/
def leadingZeros (n : Nat) : Nat :=
  if n == 0 then 32 else 31 - n.log2

/-
  The cube root, exact where it is a whole number.
-/
def cubeRoot (x : Float) : Float :=
  let r := x.cbrt.round
  if r * r * r == x then r else x.cbrt

/-
  A function of one number.
-/
def mathOf (f : MathFunction) (x : Float) : Float :=
  match f with
  | .abs => x.abs
  | .acos => x.acos
  | .acosh => x.acosh
  | .asin => x.asin
  | .asinh => if x == 0 then x else x.asinh
  | .atan => x.atan
  | .atanh => x.atanh
  | .cbrt => cubeRoot x
  | .ceil => x.ceil
  | .clz32 => (leadingZeros (uint32OfFloat x)).toFloat
  | .cos => x.cos
  | .cosh => x.cosh
  | .exp => x.exp
  | .expm1 => expMinusOne x
  | .floor => x.floor
  | .fround => x.toFloat32.toFloat
  | .log => x.log
  | .log10 => x.log10
  | .log1p => logOnePlus x
  | .log2 => x.log2
  | .round => roundHalfUp x
  | .sign => signOf x
  | .sin => x.sin
  | .sinh => x.sinh
  | .sqrt => x.sqrt
  | .tan => x.tan
  | .tanh => x.tanh
  | .trunc => if Decimal.isNegative x then x.ceil else x.floor
  | _ => nan

def callMath (m : Machine) (f : MathFunction) (arguments : List Value) : Run Value := do
  match f with
  | .max =>
    let xs ← arguments.mapM (toNumber m)
    return .number (xs.foldl larger (-infinity))
  | .min =>
    let xs ← arguments.mapM (toNumber m)
    return .number (xs.foldl smaller infinity)
  | .hypot =>
    let xs ← arguments.mapM (toNumber m)
    return .number (hypotenuse xs)
  | .random => return .number 0.5
  | f =>
    let x ← toNumber m (argument arguments 0)
    match f with
    | .atan2 => return .number (Float.atan2 x (← toNumber m (argument arguments 1)))
    | .pow => return .number (power x (← toNumber m (argument arguments 1)))
    | .imul =>
      let y ← toNumber m (argument arguments 1)
      return .ofInt (Int.bmod (int32OfFloat x * int32OfFloat y) (Nat.pow 2 32))
    | f => return .number (mathOf f x)

------------------------------------------------------------
-- Large Whole Numbers
------------------------------------------------------------

/-
  A value as a large whole number.
-/
def toBigint (m : Machine) (v : Value) : Run Int := do
  match ← toPrimitive m v .number with
  | .bigint n => return n
  | .bool b => return if b then 1 else 0
  | .string s =>
    match bigintOfText? s with
    | some n => return n
    | none =>
      raiseError .parsing ("cannot convert string '" ++ s.toText ++ "' to bigint primitive")
  | .undefined => throwType "cannot convert undefined to a BigInt"
  | .null => throwType "cannot convert null to a BigInt"
  | .symbol _ => throwType "cannot convert Symbol to a BigInt"
  | _ => throwType "cannot convert Number to a BigInt"

def makeBigint (m : Machine) (v : Value) : Run Value := do
  match ← toPrimitive m v .number with
  | .number x =>
    if isWhole x then
      return .bigint (Decimal.truncate x)
    else
      raiseError .range ("cannot convert " ++ numberText x
        ++ " to a BigInt: The number is not an integer")
  | p => return .bigint (← toBigint m p)

def bigintItself (v : Value) : Run Int := do
  match ← unwrap v with
  | .bigint n => return n
  | _ => throwType "'this' is not a BigInt"

def callBigint (m : Machine) (f : BigintFunction) (this : Value) (arguments : List Value) :
    Run Value := do
  let a := argument arguments 0
  match f with
  | .asIntN =>
    let bits ← toLength m a
    let n ← toBigint m (argument arguments 1)
    return .bigint (Int.bmod n (Nat.pow 2 bits))
  | .asUintN =>
    let bits ← toLength m a
    let n ← toBigint m (argument arguments 1)
    return .bigint (n % (Int.pow 2 bits))
  | .toText =>
    let n ← bigintItself this
    let base ← if a.isUndefined then pure 10
      else placesOf m a 2 36 "radix must be an integer at least 2 and no greater than 36"
    let digits := Decimal.natInBase base n.natAbs
    return .ofString (String.ofList (if n < 0 then '-' :: digits else digits))
  | .valueOf => return .bigint (← bigintItself this)

------------------------------------------------------------
-- Truth Values and Symbols
------------------------------------------------------------

def boolItself (v : Value) : Run Bool := do
  match ← unwrap v with
  | .bool b => return b
  | _ => throwType "'this' is not a boolean"

def symbolItself (v : Value) : Run Nat := do
  match ← unwrap v with
  | .symbol id => return id
  | _ => throwType "'this' is not a Symbol"

def makeSymbol (description : Option Units) : Run Nat :=
  modifyGet fun w => (w.symbols.size, { w with symbols := w.symbols.push description })

def symbolDescription (id : Nat) : Run (Option Units) := do
  return (← get).symbols.getD id none

def callSymbol (m : Machine) (f : SymbolFunction) (this : Value) (arguments : List Value) :
    Run Value := do
  match f with
  | .forKey =>
    let s ← toUnits m (argument arguments 0)
    match (← get).registry.find? fun e => e.1 == s with
    | some (_, id) => return .symbol id
    | none =>
      let id ← makeSymbol (some s)
      modify fun w => { w with registry := (s, id) :: w.registry }
      return .symbol id
  | .keyFor =>
    match argument arguments 0 with
    | .symbol id =>
      match (← get).registry.find? fun e => e.2 == id with
      | some (s, _) => return .string s
      | none => return .undefined
    | _ => throwType "Symbol.keyFor: sym is not a symbol"
  | .toText => return .string (← symbolText (← symbolItself this))
  | .valueOf => return .symbol (← symbolItself this)
  | .description =>
    match ← symbolDescription (← symbolItself this) with
    | some s => return .string s
    | none => return .undefined

end Library

end Realm

end Devirt
