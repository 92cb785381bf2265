import Devirt.Decimal.Style

/-
  JSON values.

  A value keeps the fields of an object in the order in which they were written, and
  keeps a name that was written twice; `Json.canonical` sorts the names and lets the
  last of equal names win.  A number is a whole number when it was written as one and
  fits in sixty-four bits, and a double otherwise.

  Key definitions include:
    * `Json.Number`, `Json`
    * `Json.field?`
    * `Json.canonical`
-/

namespace Devirt

------------------------------------------------------------
-- Values
------------------------------------------------------------

/-
  A number: a natural number below `2 ^ 64`, the negative of a positive number up to
  `2 ^ 63`, or a double.
-/
inductive Json.Number where
  | natural (n : Nat)
  | negative (n : Nat)
  | real (x : Float)
  deriving Repr, BEq, Inhabited

inductive Json where
  | null
  | bool (b : Bool)
  | number (n : Json.Number)
  | text (s : String)
  | array (items : List Json)
  | object (fields : List (String × Json))
  deriving Repr, BEq, Inhabited

namespace Json

namespace Number

/-
  The least natural number that is no longer kept as a whole number.
-/
def naturalBound : Nat := Nat.pow 2 64

/-
  The largest magnitude of a negative number that is kept as a whole number.
-/
def negativeBound : Nat := Nat.pow 2 63

/-
  The double nearest to a number.
-/
def toFloat : Number → Float
  | natural n => Decimal.ofNat n
  | negative n => -Decimal.ofNat n
  | real x => x

end Number

------------------------------------------------------------
-- Small Constructors
------------------------------------------------------------

def nat (n : Nat) : Json :=
  if n < Number.naturalBound then .number (.natural n) else .number (.real (Decimal.ofNat n))

def int (n : Int) : Json :=
  match n with
  | .ofNat k => nat k
  | .negSucc k => .number (.negative (k + 1))

/-
  A finite double; the others have no number in this format.
-/
def real (x : Float) : Json :=
  if x.isNaN || x.isInf then .null else .number (.real x)

def option (f : α → Json) : Option α → Json
  | none => .null
  | some a => f a

def list (f : α → Json) (xs : List α) : Json :=
  .array (xs.map f)

------------------------------------------------------------
-- Access
------------------------------------------------------------

/-
  The value last written under a name.
-/
def field? (name : String) : Json → Option Json
  | object fields => (fields.reverse.find? fun f => f.1 == name).map (·.2)
  | _ => none

def text? : Json → Option String
  | text s => some s
  | _ => none

def bool? : Json → Option Bool
  | bool b => some b
  | _ => none

/-
  A natural number that was written as a whole number.
-/
def nat? : Json → Option Nat
  | number (.natural n) => some n
  | _ => none

/-
  Any number as a double.
-/
def real? : Json → Option Float
  | number n => some n.toFloat
  | _ => none

/-
  A choice written as a text, or as an object with the choice as its only field.
-/
def choice? : Json → Option String
  | text s => some s
  | object [(name, null)] => some name
  | _ => none

def array? : Json → Option (List Json)
  | array items => some items
  | _ => none

------------------------------------------------------------
-- Canonical Objects
------------------------------------------------------------

/-
  Puts a field into a list sorted by name, in place of an equal name.
-/
def insertField
    (name : String)
    (value : Json) :
    List (String × Json) → List (String × Json)
  | [] => [(name, value)]
  | (n, v) :: rest =>
    if name < n then
      (name, value) :: (n, v) :: rest
    else if name == n then
      (name, value) :: rest
    else
      (n, v) :: insertField name value rest

mutual

/-
  The value with the names of every object sorted and the last of equal names kept.
-/
def canonical : Json → Json
  | null => null
  | bool b => bool b
  | number n => number n
  | text s => text s
  | array items => array (canonicalItems items)
  | object fields => object (canonicalFields fields [])

def canonicalItems : List Json → List Json
  | [] => []
  | v :: rest => canonical v :: canonicalItems rest

def canonicalFields :
    List (String × Json) → List (String × Json) → List (String × Json)
  | [], done => done
  | (name, v) :: rest, done => canonicalFields rest (insertField name (canonical v) done)

end

end Json

end Devirt
