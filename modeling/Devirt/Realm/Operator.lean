import Devirt.Realm.Conversion

/-
  The operators of scripts.

  Key definitions include:
    * `remainder`, `power`
    * `applyBinary`, `applyUnary`
    * `typeName`
-/

namespace Devirt

namespace Realm

open Script (BinaryOp UnaryOp)

------------------------------------------------------------
-- Arithmetic
------------------------------------------------------------

/-
  The double `n * 2 ^ e`, which is known to be exact.
-/
def scaleExact (n : Nat) (e : Int) : Float :=
  (Decimal.ofNat n).scaleB e

/-
  What a division leaves, with the sign of the dividend.
-/
def remainder (x y : Float) : Float :=
  if x.isNaN || y.isNaN || x.isInf || y == 0 then nan
  else if y.isInf || x == 0 then x
  else
    let a := Decimal.Binary.ofBits x.toBits
    let b := Decimal.Binary.ofBits y.toBits
    let e := min a.exponent b.exponent
    let n := a.mantissa * Nat.pow 2 (a.exponent - e).toNat
    let d := b.mantissa * Nat.pow 2 (b.exponent - e).toNat
    let r := scaleExact (n % d) e
    if Decimal.isNegative x then -r else r

/-
  A power; the powers that have no limit are no numbers.
-/
def power (x y : Float) : Float :=
  if y.isNaN then nan
  else if y == 0 then 1.0
  else if x.abs == 1 && y.isInf then nan
  else Float.pow x y

def mixedMessage : String :=
  "cannot mix BigInt and other types, use explicit conversions"

/-
  The bits of a whole number as a natural number of a width.
-/
def bitwise (f : Nat → Nat → Nat) (a b : Int) : Int :=
  let width : Nat := Nat.pow 2 (max a.natAbs.log2 b.natAbs.log2 + 2)
  Int.bmod (f (a % (width : Int)).toNat (b % (width : Int)).toNat) width

/-
  An operator between large whole numbers.
-/
def bigintOp (op : BinaryOp) (a b : Int) : Run Value := do
  match op with
  | .add => return .bigint (a + b)
  | .sub => return .bigint (a - b)
  | .mul => return .bigint (a * b)
  | .div =>
    if b == 0 then raiseError .range "BigInt division by zero" else return .bigint (a.tdiv b)
  | .rem =>
    if b == 0 then raiseError .range "BigInt division by zero" else return .bigint (a.tmod b)
  | .exp =>
    if b < 0 then raiseError .range "BigInt negative exponent"
    else return .bigint (Int.pow a b.toNat)
  | .bitAnd => return .bigint (bitwise Nat.land a b)
  | .bitOr => return .bigint (bitwise Nat.lor a b)
  | .bitXor => return .bigint (bitwise Nat.xor a b)
  | .shiftLeft =>
    if b ≥ 0 then return .bigint (a * Int.pow 2 b.toNat)
    else return .bigint (a.fdiv (Int.pow 2 b.natAbs))
  | .shiftRight =>
    if b ≥ 0 then return .bigint (a.fdiv (Int.pow 2 b.toNat))
    else return .bigint (a * Int.pow 2 b.natAbs)
  | _ => throwType "cannot perform an unsigned shift on BigInt"

/-
  An operator between numbers.
-/
def numberOp (op : BinaryOp) (x y : Float) : Float :=
  match op with
  | .add => x + y
  | .sub => x - y
  | .mul => x * y
  | .div => x / y
  | .rem => remainder x y
  | .exp => power x y
  | .bitAnd => ofInt32 (bitwise Nat.land (int32OfFloat x) (int32OfFloat y))
  | .bitOr => ofInt32 (bitwise Nat.lor (int32OfFloat x) (int32OfFloat y))
  | .bitXor => ofInt32 (bitwise Nat.xor (int32OfFloat x) (int32OfFloat y))
  | .shiftLeft => ofInt32 (Int.bmod (int32OfFloat x * Int.pow 2 shift) (Nat.pow 2 32))
  | .shiftRight => ofInt32 ((int32OfFloat x).fdiv (Int.pow 2 shift))
  | .shiftRightZero => Decimal.ofNat (uint32OfFloat x / Nat.pow 2 shift)
  | _ => nan
where
  shift : Nat := uint32OfFloat y % 32
  ofInt32 (n : Int) : Float := if n < 0 then -n.natAbs.toFloat else n.toNat.toFloat

/-
  An operator between numbers of either kind.
-/
def numericOp (op : BinaryOp) (a b : Value) : Run Value := do
  match a, b with
  | .number x, .number y => return .number (numberOp op x y)
  | .bigint n, .bigint k => bigintOp op n k
  | _, _ => throwType mixedMessage

/-
  The sum of two values, or their texts one after the other.
-/
def addValues (m : Machine) (a b : Value) : Run Value := do
  match a, b with
  | .number x, .number y => return .number (x + y)
  | .string s, .string t => return .string (s ++ t)
  | a, b =>
    let p ← toPrimitive m a .default
    let q ← toPrimitive m b .default
    match p, q with
    | .string s, q => return .string (s ++ (← primitiveUnits q))
    | p, .string t => return .string ((← primitiveUnits p) ++ t)
    | p, q => numericOp .add (← toNumeric m p) (← toNumeric m q)

------------------------------------------------------------
-- Tests
------------------------------------------------------------

/-
  Whether an object was made by a constructor.
-/
def ordinaryInstance (m : Machine) (f : Ref) (v : Value) : Run Bool := do
  match v with
  | .object r =>
    match ← getFrom m f Key.prototype with
    | .object proto => inherits r proto
    | _ => throwType "function has non-object prototype in instanceof check"
  | _ => return false

/-
  The function behind functions with fixed arguments, up to a number of them.
-/
def unboundIn (objects : Array Object) : Nat → Ref → Ref
  | 0, r => r
  | fuel + 1, r =>
    match objects[r]? with
    | some ⟨_, .bound target _ _, _, _, _⟩ => unboundIn objects fuel target
    | _ => r

def isInstance (m : Machine) (v f : Value) : Run Bool := do
  match f with
  | .object r =>
    if (← getObject r).isCallable then
      let w ← get
      ordinaryInstance m (unboundIn w.objects w.objects.size r) v
    else
      return false
  | _ => return false

/-
  The name of the kind of a value.
-/
def typeName (v : Value) : Run String := do
  match v with
  | .undefined => return "undefined"
  | .null => return "object"
  | .bool _ => return "boolean"
  | .number _ => return "number"
  | .bigint _ => return "bigint"
  | .string _ => return "string"
  | .symbol _ => return "symbol"
  | .object r => return if (← getObject r).isCallable then "function" else "object"

/-
  Fails because the right side of an operator is no object.
-/
def refuseOperand (op : String) (v : Value) : Run α := do
  throwType
    ("right-hand side of '" ++ op ++ "' should be an object, got `" ++ (← typeName v) ++ "`")

/-
  Whether a value is an instance of what a constructor makes, or whatever an object says
  that is asked instead of one.
-/
def instanceOf (m : Machine) (v f : Value) : Run Bool := do
  match f with
  | .object r =>
    match ← getMethod m f WellKnown.hasInstance.key with
    | some test => return (← m.call test f [v]).toBool
    | none =>
      if (← getObject r).isCallable then
        isInstance m v f
      else
        throwType "right-hand side of 'instanceof' is not callable"
  | f => refuseOperand "instanceof" f

def memberTest (m : Machine) (k v : Value) : Run Bool := do
  match v with
  | .object r => hasMember r (← toKey m k)
  | v => refuseOperand "in" v

def applyBinary (m : Machine) (op : BinaryOp) (a b : Value) : Run Value := do
  match op with
  | .add => addValues m a b
  | .equal => return .bool (← looselyEqual m a b)
  | .notEqual => return .bool !(← looselyEqual m a b)
  | .same => return .bool (a.strictlyEqual b)
  | .notSame => return .bool !(a.strictlyEqual b)
  | .less => return .bool ((← compare m a b) == .less)
  | .lessEqual =>
    let o ← compare m a b
    return .bool (o == .less || o == .equal)
  | .greater => return .bool ((← compare m a b) == .greater)
  | .greaterEqual =>
    let o ← compare m a b
    return .bool (o == .greater || o == .equal)
  | .member => return .bool (← memberTest m a b)
  | .instanceOf => return .bool (← instanceOf m a b)
  | op =>
    let x ← toNumeric m a
    let y ← toNumeric m b
    numericOp op x y

------------------------------------------------------------
-- Unary Operators
------------------------------------------------------------

/-
  An operator with one operand, which has been computed.
-/
def applyUnary (m : Machine) (op : UnaryOp) (v : Value) : Run Value := do
  match op with
  | .negate =>
    match ← toNumeric m v with
    | .bigint n => return .bigint (-n)
    | .number x => return .number (-x)
    | _ => return .number nan
  | .plus => return .number (← toNumber m v)
  | .not => return .bool !v.toBool
  | .complement =>
    match ← toNumeric m v with
    | .bigint n => return .bigint (-n - 1)
    | .number x => return .ofInt (-(int32OfFloat x) - 1)
    | _ => return .number nan
  | .typeOf => return .ofString (← typeName v)
  | .void => return .undefined
  | .delete => return .bool true

end Realm

end Devirt
