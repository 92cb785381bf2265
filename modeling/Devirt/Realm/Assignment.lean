import Devirt.Realm.Conversion

/-
  Assignments to the members of objects.

  An assignment goes to the first object that has the member, the receiver before those it
  inherits from.  What is assigned to the length of a list is converted to a number first.

  Key definitions include:
    * `defineMember`, `defineOrThrow`
    * `assignFor`, `setMember`, `putMember`
-/

namespace Devirt

namespace Realm

------------------------------------------------------------
-- Definition
------------------------------------------------------------

/-
  The length of a list that a value stands for.
-/
def toArrayLength (m : Machine) (v : Value) : Run Value := do
  let n := uint32OfFloat (← toNumber m v)
  let x ← toNumber m v
  if Decimal.ofNat n == x then
    return .number x
  else
    raiseError .range "bad length for array"

/-
  Defines a member of an object, unless that is not allowed.
-/
def defineMember (m : Machine) (r : Ref) (k : Key) (d : Descriptor) : Run Bool := do
  if isLength (← getObject r) k then
    match d.value with
    | some v => defineOwn r k { d with value := some (← toArrayLength m v) }
    | none => defineOwn r k d
  else
    defineOwn r k d

def redefinedMessage (k : Key) : Run String := do
  return "cannot redefine property: " ++ (← describeKey k)

/-
  Defines a member, or fails if that is not allowed.
-/
def defineOrThrow (m : Machine) (r : Ref) (k : Key) (d : Descriptor) : Run Unit := do
  if !(← defineMember m r k d) then
    throwType (← redefinedMessage k)

------------------------------------------------------------
-- Assignment
------------------------------------------------------------

/-
  Assigns to a member that the object itself has, or gets.
-/
def assignOwn (m : Machine) (r : Ref) (k : Key) (v : Value) : Run Bool := do
  match (← getObject r).own? k with
  | some p =>
    match p.slot with
    | .data _ true => defineMember m r k { value := some v }
    | _ => return false
  | none => defineOwn r k (.ofProperty (.plain v))

/-
  Assigns to a member of an object for a receiver, which may inherit from it.
-/
def assignFor (m : Machine) (r : Ref) (k : Key) (v this : Value) : Run Bool := do
  match ← lookup r k with
  | some ⟨.accessor _ setter, _, _⟩ =>
    match setter with
    | .undefined => return false
    | setter =>
      let _ ← m.call setter this [v]
      return true
  | some ⟨.data _ false, _, _⟩ => return false
  | _ =>
    match this with
    | .object self => assignOwn m self k v
    | _ => return false

/-
  Tells strict code that an assignment was not allowed.
-/
def checkAssigned (isStrict : Bool) (k : Key) (done : Bool) : Run Unit := do
  if !done && isStrict then
    throwType ("cannot set non-writable property: " ++ (← describeKey k))

/-
  Assigns to a member of any value; strict code is told when that is not allowed.
-/
def setMember (m : Machine) (isStrict : Bool) (target : Value) (k : Key) (v : Value) :
    Run Unit := do
  let done ← match target with
    | .object r => assignFor m r k v target
    | target =>
      match protoOf? target with
      | some proto => assignFor m proto k v target
      | none => throwType nullishMessage
  checkAssigned isStrict k done

/-
  Assigns to a member in the library, where a failure is always told.
-/
def putMember (m : Machine) (r : Ref) (k : Key) (v : Value) : Run Unit :=
  setMember m true (.object r) k v

end Realm

end Devirt
