import Devirt.Decimal.Style
import Devirt.Text.Units

/-
  The values that scripts compute with.

  Objects, symbols and variables live in the world of a realm and are known by numbers.
  A member of an object has a key; the texts that number the elements of a list are keys
  of their own kind.

  Key definitions include:
    * `Value`, `Key`, `Property`
    * `Key.ofText`, `Key.text`
    * `Value.sameValue`, `Value.strictlyEqual`
-/

namespace Devirt

namespace Realm

------------------------------------------------------------
-- Values
------------------------------------------------------------

/-
  The number of an object.
-/
abbrev Ref := Nat

inductive Value where
  | undefined
  | null
  | bool (b : Bool)
  | number (x : Float)
  | bigint (n : Int)
  | string (s : Units)
  | symbol (id : Nat)
  | object (r : Ref)
  deriving DecidableEq, Inhabited

namespace Value

def ofString (s : String) : Value := .string (Units.ofString s)

def ofNat (n : Nat) : Value := .number (Decimal.ofNat n)

def ofInt (n : Int) : Value :=
  if n < 0 then .number (-Decimal.ofNat n.natAbs) else ofNat n.toNat

def isNullish : Value → Bool
  | undefined => true
  | null => true
  | _ => false

def isUndefined : Value → Bool
  | undefined => true
  | _ => false

def isObject : Value → Bool
  | object _ => true
  | _ => false

def ref? : Value → Option Ref
  | object r => some r
  | _ => none

/-
  Whether two values are the same, where zero has one sign and what is no number is the
  same as itself.
-/
def sameValueZero : Value → Value → Bool
  | undefined, undefined => true
  | null, null => true
  | bool a, bool b => a == b
  | number a, number b => a == b || (a.isNaN && b.isNaN)
  | bigint a, bigint b => a == b
  | string a, string b => a == b
  | symbol a, symbol b => a == b
  | object a, object b => a == b
  | _, _ => false

/-
  Whether two values cannot be told apart.
-/
def sameValue : Value → Value → Bool
  | number a, number b => (a.isNaN && b.isNaN) || a.toBits == b.toBits
  | a, b => sameValueZero a b

/-
  Equality without conversions.
-/
def strictlyEqual : Value → Value → Bool
  | number a, number b => a == b
  | a, b => sameValueZero a b

/-
  Whether a value counts as true.
-/
def toBool : Value → Bool
  | undefined => false
  | null => false
  | bool b => b
  | number x => !(x == 0 || x.isNaN)
  | bigint n => n != 0
  | string s => !s.isEmpty
  | symbol _ => true
  | object _ => true

end Value

------------------------------------------------------------
-- Keys
------------------------------------------------------------

inductive Key where
  /- the number of an element -/
  | index (n : Nat)
  | text (s : Units)
  | symbol (id : Nat)
  /- a name that only the code of a class can use -/
  | secret (id : Nat)
  deriving DecidableEq, Inhabited

namespace Key

/-
  The numbers of elements are below this bound.
-/
def indexBound : Nat := 4294967295

/-
  The number of an element written in its shortest form.
-/
def indexOf? (s : Units) : Option Nat :=
  let us := s.units
  if us.isEmpty || us.size > 10 then
    none
  else if !us.all fun u => 48 ≤ u && u ≤ 57 then
    none
  else if us.size > 1 && us[0]? == some 48 then
    none
  else
    let n := us.foldl (fun n u => 10 * n + (u.toNat - 48)) 0
    if n < indexBound then some n else none

def ofUnits (s : Units) : Key :=
  match indexOf? s with
  | some n => .index n
  | none => .text s

def ofString (s : String) : Key := ofUnits (Units.ofString s)

def ofNat (n : Nat) : Key :=
  if n < indexBound then .index n else .text (Units.ofString (toString n))

/-
  The text of a key that is no symbol and no secret.
-/
def text? : Key → Option Units
  | index n => some (Units.ofString (toString n))
  | text s => some s
  | symbol _ => none
  | secret _ => none

def isSymbol : Key → Bool
  | symbol _ => true
  | _ => false

def isSecret : Key → Bool
  | secret _ => true
  | _ => false

/-
  A key as a value.
-/
def toValue : Key → Value
  | index n => .ofString (toString n)
  | text s => .string s
  | symbol id => .symbol id
  | secret _ => .undefined

def length : Key := ofString "length"

def prototype : Key := ofString "prototype"

def constructor : Key := ofString "constructor"

def name : Key := ofString "name"

def message : Key := ofString "message"

def value : Key := ofString "value"

def done : Key := ofString "done"

end Key

------------------------------------------------------------
-- Properties
------------------------------------------------------------

/-
  What a member holds: a value, or functions that give and take it.
-/
inductive Slot where
  | data (v : Value) (isWritable : Bool)
  | accessor (getter setter : Value)
  deriving DecidableEq, Inhabited

structure Property where
  slot : Slot
  isEnumerable : Bool
  isConfigurable : Bool
  deriving DecidableEq, Inhabited

namespace Property

/-
  A member as assignments make it.
-/
def plain (v : Value) : Property := ⟨.data v true, true, true⟩

/-
  A member as the library has it: it can be changed but is not listed.
-/
def hidden (v : Value) : Property := ⟨.data v true, false, true⟩

/-
  A member that can never be changed.
-/
def fixed (v : Value) : Property := ⟨.data v false, false, false⟩

/-
  A member that can only be defined anew.
-/
def readOnly (v : Value) : Property := ⟨.data v false, false, true⟩

end Property

/-
  What is asked of a member when it is defined; the rest stays as it is.
-/
structure Descriptor where
  value : Option Value := none
  isWritable : Option Bool := none
  getter : Option Value := none
  setter : Option Value := none
  isEnumerable : Option Bool := none
  isConfigurable : Option Bool := none
  deriving Inhabited

namespace Descriptor

def isAccessor (d : Descriptor) : Bool := d.getter.isSome || d.setter.isSome

def isData (d : Descriptor) : Bool := d.value.isSome || d.isWritable.isSome

def ofProperty (p : Property) : Descriptor :=
  match p.slot with
  | .data v w =>
    { value := some v
      isWritable := some w
      isEnumerable := some p.isEnumerable
      isConfigurable := some p.isConfigurable }
  | .accessor g s =>
    { getter := some g
      setter := some s
      isEnumerable := some p.isEnumerable
      isConfigurable := some p.isConfigurable }

/-
  A new member as described.
-/
def toProperty (d : Descriptor) : Property :=
  let slot : Slot :=
    if d.isAccessor then .accessor (d.getter.getD .undefined) (d.setter.getD .undefined)
    else .data (d.value.getD .undefined) (d.isWritable.getD false)
  ⟨slot, d.isEnumerable.getD false, d.isConfigurable.getD false⟩

def same? (a : Option Value) (b : Value) : Bool :=
  match a with
  | some v => v.sameValue b
  | none => true

/-
  Whether an existing member may be changed as described.
-/
def allowed (d : Descriptor) (p : Property) : Bool :=
  if p.isConfigurable then
    true
  else
    let attributes :=
      d.isConfigurable != some true
        && (d.isEnumerable.isNone || d.isEnumerable == some p.isEnumerable)
    attributes && (match p.slot with
      | .data v w =>
        !d.isAccessor && (w || (d.isWritable != some true && same? d.value v))
      | .accessor g s =>
        !d.isData && same? d.getter g && same? d.setter s)

/-
  An existing member changed as described.
-/
def change (d : Descriptor) (p : Property) : Property :=
  let slot : Slot :=
    match p.slot with
    | .data v w =>
      if d.isAccessor then .accessor (d.getter.getD .undefined) (d.setter.getD .undefined)
      else .data (d.value.getD v) (d.isWritable.getD w)
    | .accessor g s =>
      if d.isData then .data (d.value.getD .undefined) (d.isWritable.getD false)
      else .accessor (d.getter.getD g) (d.setter.getD s)
  ⟨slot, d.isEnumerable.getD p.isEnumerable, d.isConfigurable.getD p.isConfigurable⟩

end Descriptor

end Realm

end Devirt
