import Devirt.Realm.Run

/-
  The members of objects.

  An object has its own members and, through its prototype, those of others.  A list also
  has a length, which follows its elements, and a wrapped text has its units as members.

  Key definitions include:
    * `Object.own?`, `Object.put`, `Object.keys`
    * `defineOwn`, `deleteOwn`
    * `getMember`, `getSecret`, `setSecret`
    * `describeKey`
-/

namespace Devirt

namespace Realm

namespace Object

------------------------------------------------------------
-- Own Members
------------------------------------------------------------

def named? (o : Object) (k : Key) : Option Property :=
  (o.properties.find? fun p => p.1 == k).map (·.2)

/-
  The members that an object has by its kind.
-/
def special? (o : Object) (k : Key) : Option Property :=
  match o.kind with
  | .array length isWritable =>
    if k == Key.length then some ⟨.data (.ofNat length) isWritable, false, false⟩ else none
  | .wrapper (.string s) =>
    match k with
    | .index n => (s.get? n).map fun u => ⟨.data (.string (.ofUnit u)) false, true, false⟩
    | k => if k == Key.length then some (.fixed (.ofNat s.size)) else none
  | _ => none

/-
  A member of the object itself.
-/
def own? (o : Object) (k : Key) : Option Property :=
  match k with
  | .index n =>
    match o.items[n]? with
    | some (some v) => some (.plain v)
    | _ =>
      match o.special? k with
      | some p => some p
      | none => if o.properties.isEmpty then none else o.named? k
  | .text _ =>
    match o.special? k with
    | some p => some p
    | none => o.named? k
  | .symbol _ => o.named? k
  | .secret _ => o.named? k

def isIndex : Key → Bool
  | .index _ => true
  | _ => false

/-
  Whether elements are kept among the other members.
-/
def isSparse (o : Object) : Bool :=
  o.properties.any fun p => isIndex p.1

/-
  The elements as members like the others.
-/
def spilled (o : Object) : Array (Key × Property) :=
  o.items.zipIdx.filterMap fun (v, i) => v.map fun v => (Key.index i, Property.plain v)

/-
  The object with its elements among the other members.
-/
def spill (o : Object) : Object :=
  { o with items := #[], properties := o.spilled ++ o.properties }

/-
  Puts a member among the others.
-/
def putNamed (o : Object) (k : Key) (p : Property) : Object :=
  match o.properties.findIdx? fun q => q.1 == k with
  | some i => { o with properties := o.properties.setIfInBounds i (k, p) }
  | none => { o with properties := o.properties.push (k, p) }

/-
  The largest gap that is kept between elements.
-/
def largestGap : Nat := 64

/-
  Puts an element at a number.
-/
def putItem (o : Object) (n : Nat) (v : Value) : Object :=
  if n < o.items.size then
    { o with items := o.items.setIfInBounds n (some v) }
  else if n ≤ o.items.size + largestGap && !o.isSparse then
    { o with items := (o.items ++ Array.replicate (n - o.items.size) none).push (some v) }
  else
    o.putNamed (.index n) (.plain v)

/-
  Puts a member in place of the one with the same key.  The length of a list is not
  changed by this.
-/
def put (o : Object) (k : Key) (p : Property) : Object :=
  match k, p with
  | .index n, ⟨.data v true, true, true⟩ =>
    match o.named? k with
    | some _ => o.putNamed k p
    | none => o.putItem n v
  | .index n, p =>
    if n < o.items.size then (o.spill).putNamed k p else o.putNamed k p
  | k, p => o.putNamed k p

def remove (o : Object) (k : Key) : Object :=
  match k with
  | .index n =>
    if n < o.items.size then
      { o with items := o.items.setIfInBounds n none }
    else
      { o with properties := o.properties.filter fun p => p.1 != k }
  | k => { o with properties := o.properties.filter fun p => p.1 != k }

------------------------------------------------------------
-- Lists of Keys
------------------------------------------------------------

/-
  The numbers of the elements, in order.
-/
def indices (o : Object) : List Nat :=
  let dense := (o.items.toList.zipIdx.filter fun e => e.1.isSome).map (·.2)
  let text := match o.kind with
    | .wrapper (.string s) => List.range s.size
    | _ => []
  let sparse := o.properties.toList.filterMap fun p =>
    match p.1 with
    | .index n => some n
    | _ => none
  if sparse.isEmpty && text.isEmpty then dense else (text ++ dense ++ sparse).mergeSort

def lengthKey (o : Object) : List Key :=
  match o.kind with
  | .array _ _ => [Key.length]
  | .wrapper (.string _) => [Key.length]
  | _ => []

/-
  The keys of the object itself: elements first, then names, then symbols.  Secrets are
  not told.
-/
def keys (o : Object) : List Key :=
  let others := o.properties.toList.map (·.1)
  o.indices.map Key.index ++ o.lengthKey
    ++ others.filter (fun k => !isIndex k && !k.isSymbol && !k.isSecret)
    ++ others.filter Key.isSymbol

/-
  The least length that a list can be given: elements that cannot be deleted stay.
-/
def leastLength (o : Object) : Nat :=
  o.properties.foldl
    (fun n e =>
      match e.1 with
      | .index i => if e.2.isConfigurable then n else max n (i + 1)
      | _ => n)
    0

/-
  Shortens or lengthens a list.
-/
def setLength (o : Object) (n : Nat) : Object :=
  match o.kind with
  | .array _ isWritable =>
    if n < o.items.size || o.isSparse then
      let properties := o.properties.filter fun p =>
        match p.1 with
        | .index i => i < n
        | _ => true
      { o with kind := .array n isWritable, items := o.items.shrink n, properties }
    else
      { o with kind := .array n isWritable }
  | _ => o

def isCallable (o : Object) : Bool :=
  match o.kind with
  | .closure _ | .native _ | .bound _ _ _ => true
  | _ => false

def isArray (o : Object) : Bool :=
  match o.kind with
  | .array _ _ => true
  | _ => false

end Object

------------------------------------------------------------
-- Keys in Messages
------------------------------------------------------------

/-
  The text of a symbol.
-/
def symbolText (id : Nat) : Run Units := do
  let s := ((← get).symbols.getD id none).getD .empty
  return Units.ofString "Symbol(" ++ s ++ Units.ofString ")"

/-
  A key as messages show it.
-/
def describeKey (k : Key) : Run String := do
  match k with
  | .symbol id => return (← symbolText id).toText
  | k => return (k.text?.map Units.toText).getD ""

------------------------------------------------------------
-- Definition and Deletion
------------------------------------------------------------

/-
  A length that a list can have.
-/
def lengthOf? : Value → Option Nat
  | .number x =>
    if x ≥ 0 && x.floor == x && x < 4294967296 then some x.toUInt64.toNat else none
  | _ => none

/-
  Defines the length of a list, which is a number already.  A list that cannot be shortened
  enough is shortened as far as it can be.
-/
def defineLength (r : Ref) (d : Descriptor) : Run Bool := do
  let o ← getObject r
  match o.kind with
  | .array length isWritable =>
    let refused :=
      d.isConfigurable == some true || d.isEnumerable == some true || d.isAccessor
        || (!isWritable && d.isWritable == some true)
    if refused then
      return false
    let apply := fun (o : Object) (n : Nat) =>
      let o := o.setLength n
      { o with kind := .array n (d.isWritable.getD isWritable) }
    match d.value with
    | none =>
      updateObject r fun o => apply o length
      return true
    | some v =>
      match lengthOf? v with
      | none => raiseError .range "bad length for array"
      | some n =>
        if n == length then
          updateObject r fun o => apply o n
          return true
        else if !isWritable then
          return false
        else
          let least := if n < length then o.leastLength else 0
          updateObject r fun o => apply o (max n least)
          return least ≤ n
  | _ => return false

/-
  Lengthens a list so that it has an element.
-/
def coverIndex (r : Ref) (n : Nat) : Run Unit :=
  updateObject r fun o =>
    match o.kind with
    | .array length isWritable =>
      if length ≤ n then { o with kind := .array (n + 1) isWritable } else o
    | _ => o

def isLength (o : Object) (k : Key) : Bool :=
  o.isArray && k == Key.length

/-
  Whether a list has no room for an element.
-/
def isFull (o : Object) (k : Key) : Bool :=
  match o.kind, k with
  | .array length isWritable, .index n => !isWritable && length ≤ n
  | _, _ => false

/-
  Gives a variable a value, and so the element that shares it.
-/
def storeCell (n : Nat) (c : Cell) (v : Value) : Run Unit := do
  setCell n { c with value := some v }
  match c.twin with
  | some (r, i) =>
    updateObject r fun o =>
      match o.own? (.index i) with
      | some ⟨.data _ isWritable, isEnumerable, isConfigurable⟩ =>
        o.put (.index i) ⟨.data v isWritable, isEnumerable, isConfigurable⟩
      | _ => o
  | none => pure ()

/-
  The variable that shares its value with an element.
-/
def Object.twin? (o : Object) (k : Key) : Option Nat :=
  match o.kind, k with
  | .arguments twins, .index n => twins.getD n none
  | _, _ => none

/-
  Lets an element and its variable go different ways from now on.
-/
def separate (r : Ref) (k : Key) (n : Nat) : Run Unit := do
  setCell n { ← getCell n with twin := none }
  updateObject r fun o =>
    match o.kind, k with
    | .arguments twins, .index i => { o with kind := .arguments (twins.setIfInBounds i none) }
    | _, _ => o

/-
  Gives the variable that shares its value with an element what was defined for that.
-/
def followElement (r : Ref) (k : Key) (n : Nat) (d : Descriptor) : Run Unit := do
  match d.value with
  | some v => setCell n { ← getCell n with value := some v }
  | none => pure ()
  if d.isAccessor || d.isWritable == some false then
    separate r k n

/-
  Defines a member of an object, unless that is not allowed.
-/
def defineOwn (r : Ref) (k : Key) (d : Descriptor) : Run Bool := do
  let o ← getObject r
  if isLength o k then
    defineLength r d
  else
    match o.own? k with
    | none =>
      if !o.isExtensible || isFull o k then
        return false
      updateObject r fun o => o.put k d.toProperty
      match k with
      | .index n => coverIndex r n
      | _ => pure ()
      return true
    | some p =>
      if d.allowed p then
        match o.special? k with
        | some _ => return true
        | none =>
          updateObject r fun o => o.put k (d.change p)
          match o.twin? k with
          | some n => followElement r k n d
          | none => pure ()
          return true
      else
        return false

/-
  Defines a member as assignments make it.
-/
def createMember (r : Ref) (k : Key) (v : Value) : Run Unit := do
  let _ ← defineOwn r k (.ofProperty (.plain v))

def hide (r : Ref) (k : Key) (v : Value) : Run Unit :=
  updateObject r fun o => o.put k (.hidden v)

/-
  Deletes a member of an object, unless that is not allowed.
-/
def deleteOwn (r : Ref) (k : Key) : Run Bool := do
  let o ← getObject r
  match o.own? k with
  | none => return true
  | some p =>
    if p.isConfigurable then
      match o.twin? k with
      | some n => separate r k n
      | none => pure ()
      updateObject r fun o => o.remove k
      return true
    else
      return false

------------------------------------------------------------
-- Inherited Members
------------------------------------------------------------

/-
  A member of an object or of those it inherits from, up to a number of them.
-/
def lookupIn (objects : Array Object) (k : Key) : Nat → Ref → Option Property
  | 0, _ => none
  | fuel + 1, r =>
    match objects[r]? with
    | none => none
    | some o =>
      match o.own? k with
      | some p => some p
      | none =>
        match o.proto with
        | some parent => lookupIn objects k fuel parent
        | none => none

/-
  A member of an object or of those it inherits from.
-/
def lookup (r : Ref) (k : Key) : Run (Option Property) := do
  let w ← get
  return lookupIn w.objects k w.objects.size r

def hasMember (r : Ref) (k : Key) : Run Bool := do
  return (← lookup r k).isSome

/-
  Whether an object inherits from another, among a number of ancestors.
-/
def inheritsIn (objects : Array Object) (ancestor : Ref) : Nat → Ref → Bool
  | 0, _ => false
  | fuel + 1, r =>
    match objects[r]? with
    | none => false
    | some o =>
      match o.proto with
      | some parent => parent == ancestor || inheritsIn objects ancestor fuel parent
      | none => false

def inherits (r ancestor : Ref) : Run Bool := do
  let w ← get
  return inheritsIn w.objects ancestor w.objects.size r

/-
  Gives the value of a member that an object was found to have.
-/
def readProperty (m : Machine) (p : Option Property) (this : Value) : Run Value :=
  match p with
  | none => pure .undefined
  | some p =>
    match p.slot with
    | .data v _ => pure v
    | .accessor .undefined _ => pure .undefined
    | .accessor getter _ => m.call getter this []

/-
  The value of a member of an object.
-/
def getFrom (m : Machine) (r : Ref) (k : Key) : Run Value := do
  readProperty m (← lookup r k) (.object r)

/-
  The object from which a value that is none inherits.
-/
def protoOf? : Value → Option Ref
  | .string _ => some Intrinsic.stringProto.ref
  | .number _ => some Intrinsic.numberProto.ref
  | .bool _ => some Intrinsic.booleanProto.ref
  | .symbol _ => some Intrinsic.symbolProto.ref
  | .bigint _ => some Intrinsic.bigintProto.ref
  | _ => none

def nullishMessage : String := "cannot convert 'null' or 'undefined' to object"

/-
  The member that a text has itself.
-/
def textMember? (s : Units) : Key → Option Value
  | .index n => (s.get? n).map fun u => .string (.ofUnit u)
  | k => if k == Key.length then some (.ofNat s.size) else none

/-
  The value of a member of any value.
-/
def getMember (m : Machine) (v : Value) (k : Key) : Run Value := do
  match v with
  | .object r => getFrom m r k
  | .string s =>
    match textMember? s k with
    | some v => return v
    | none => readProperty m (← lookup Intrinsic.stringProto.ref k) v
  | v =>
    match protoOf? v with
    | some proto => readProperty m (← lookup proto k) v
    | none => throwType nullishMessage

------------------------------------------------------------
-- Secret Members
------------------------------------------------------------

/-
  A secret member, which only the object itself can have.
-/
def secretOf (v : Value) (k : Key) : Run Property := do
  if v.isNullish then
    throwType nullishMessage
  match v with
  | .object r =>
    match (← getObject r).named? k with
    | some p => return p
    | none => throwType "private property does not exist"
  | _ => throwType "private property does not exist"

def getSecret (m : Machine) (v : Value) (k : Key) : Run Value := do
  let p ← secretOf v k
  match p.slot with
  | .accessor .undefined _ => throwType "private property was defined without a getter"
  | _ => readProperty m (some p) v

def setSecret (m : Machine) (target : Value) (k : Key) (v : Value) : Run Unit := do
  let p ← secretOf target k
  match p.slot with
  | .data _ false => throwType "private method is not writable"
  | .accessor _ .undefined => throwType "private property was defined without a setter"
  | .accessor _ setter => let _ ← m.call setter target [v]
  | .data _ true =>
    match target with
    | .object r => updateObject r fun o => o.put k (.plain v)
    | _ => pure ()

/-
  Gives an object a secret member that it does not have yet.
-/
def addSecret (r : Ref) (k : Key) (p : Property) : Run Unit := do
  match (← getObject r).named? k with
  | some _ => throwType "private field already exists on prototype"
  | none => updateObject r fun o => o.put k p

------------------------------------------------------------
-- Functions
------------------------------------------------------------

def isCallable : Value → Run Bool
  | .object r => do return (← getObject r).isCallable
  | _ => pure false

/-
  A function that is a member, or nothing if there is no value.
-/
def getMethod (m : Machine) (v : Value) (k : Key) : Run (Option Value) := do
  let f ← getMember m v k
  if f.isNullish then
    return none
  else if ← isCallable f then
    return some f
  else
    throwType "not a callable function"

end Realm

end Devirt
