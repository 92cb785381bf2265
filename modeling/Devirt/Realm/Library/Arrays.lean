import Devirt.Realm.Library.Objects

/-
  The functions about lists.

  They work on any object that has a length.

  Key definitions include:
    * `constructArray`
    * `callArray`, the functions of `Array`
    * `callArrayMethod`, the methods of lists
-/

namespace Devirt

namespace Realm

namespace Library

------------------------------------------------------------
-- Elements
------------------------------------------------------------

def getItem (m : Machine) (r : Ref) (i : Nat) : Run Value := getFrom m r (.ofNat i)

/-
  An element, if it is there.
-/
def presentItem (m : Machine) (r : Ref) (i : Nat) : Run (Option Value) := do
  match ← lookup r (.ofNat i) with
  | some p => return some (← readProperty m (some p) (.object r))
  | none => return none

def putItem (m : Machine) (r : Ref) (i : Nat) (v : Value) : Run Unit :=
  putMember m r (.ofNat i) v

def deleteItem (r : Ref) (k : Key) : Run Unit := do
  if !(← deleteOwn r k) then
    throwType ("cannot delete property: " ++ (← describeKey k))

def putLength (m : Machine) (r : Ref) (n : Nat) : Run Unit :=
  putMember m r Key.length (.ofNat n)

/-
  Puts an element, or a gap, to another place.
-/
def moveItem (m : Machine) (r : Ref) (source target : Nat) : Run Unit := do
  match ← presentItem m r source with
  | some v => putItem m r target v
  | none => deleteItem r (.ofNat target)

/-
  A new list of the elements, gaps included, from a place on.
-/
def copyItems (m : Machine) (r : Ref) (start count : Nat) : Run (Array (Option Value)) := do
  let mut items := #[]
  for i in [start : start + count] do
    items := items.push (← presentItem m r i)
  return items

/-
  The most elements a new list may have.
-/
def checkArrayLength (n : Nat) : Run Unit := do
  if n ≥ Nat.pow 2 32 then
    raiseError .range "array exceeded max size"

------------------------------------------------------------
-- Construction
------------------------------------------------------------

/-
  A list with a length and no elements.
-/
def makeGaps (proto : Ref) (length : Nat) : Run Ref :=
  allocate { proto := some proto, kind := .array length true }

def constructArray (m : Machine) (newTarget : Option Ref) (arguments : List Value) :
    Run Value := do
  let proto ← match newTarget with
    | some r => protoFor m r .arrayProto
    | none => pure Intrinsic.arrayProto.ref
  match arguments with
  | [.number x] =>
    match lengthOf? (.number x) with
    | some n => return .object (← makeGaps proto n)
    | none => raiseError .range "invalid array length"
  | items =>
    let r ← makeArrayOf (items.map some).toArray
    updateObject r fun o => { o with proto := some proto }
    return .object r

/-
  A new list, made with a constructor if there is one.
-/
def makeListWith (m : Machine) (c : Value) (arguments : List Value) (length : Nat) : Run Ref := do
  match c with
  | .object r =>
    if ← isConstructorRef r then
      match ← m.construct r arguments r with
      | .object list => return list
      | _ => throwType "object type could not be constructed"
    else
      makeGaps Intrinsic.arrayProto.ref length
  | _ => makeGaps Intrinsic.arrayProto.ref length

/-
  Makes an element, or fails if that is not allowed.
-/
def createItem (m : Machine) (r : Ref) (i : Nat) (v : Value) : Run Unit :=
  defineOrThrow m r (.ofNat i) (.ofProperty (.plain v))

/-
  Makes a list from what can be iterated over or is like a list.
-/
def listFrom (m : Machine) (this : Value) (arguments : List Value) : Run Value := do
  let source := argument arguments 0
  let f := argument arguments 1
  if !f.isUndefined then
    requireCallable f "Array.from: mapping function is not callable"
  let map := fun (i : Nat) (v : Value) =>
    if f.isUndefined then pure v else m.call f (argument arguments 2) [v, .ofNat i]
  match ← getMethod m source WellKnown.iterator.key with
  | some g =>
    let list ← makeListWith m this [] 0
    let it ← openWith m g source
    let n ← it.forEach m fun i v => do createItem m list i (← map i v)
    putLength m list n
    return .object list
  | none =>
    let r ← toObject source
    let n ← lengthOf m r
    let list ← makeListWith m this [.ofNat n] n
    forIndices n fun i => do createItem m list i (← map i (← getItem m r i))
    putLength m list n
    return .object list

def listOf (m : Machine) (this : Value) (items : List Value) : Run Value := do
  let n := items.length
  let list ← makeListWith m this [.ofNat n] n
  for (v, i) in items.zipIdx do
    createItem m list i v
  putLength m list n
  return .object list

def callArray (m : Machine) (f : ArrayFunction) (this : Value) (arguments : List Value) :
    Run Value := do
  match f with
  | .isArray =>
    match argument arguments 0 with
    | .object r => return .bool (← getObject r).isArray
    | _ => return .bool false
  | .ofItems => listOf m this arguments
  | .fromItems => listFrom m this arguments

/-
  The list that a list says lists derived from it are; nothing for a plain one.
-/
def deriveList (m : Machine) (r : Ref) (length : Nat) : Run (Option Ref) := do
  if (← getObject r).isArray then
    match ← speciesOf m r with
    | some c =>
      match (← getObject c).kind with
      | .native (.make .array) => return none
      | _ => return some (← makeListWith m (.object c) [.ofNat length] length)
    | none => return none
  else
    return none

/-
  Puts elements into a derived list.
-/
def fillDerived (m : Machine) (list : Option Ref) (items : Array (Option Value))
    (setsLength : Bool) : Run Value := do
  match list with
  | none => return .object (← makeArrayOf items)
  | some r =>
    for (v, i) in items.toList.zipIdx do
      match v with
      | some v => createItem m r i v
      | none => pure ()
    if setsLength then
      putLength m r items.size
    return .object r

------------------------------------------------------------
-- Order
------------------------------------------------------------

/-
  Merges two sorted lists; `after a b` says that `b` has to come first.
-/
def mergeBy (after : Value → Value → Run Bool) : List Value → List Value → List Value →
    Run (List Value)
  | a :: as, b :: bs, done => do
    if ← after a b then
      mergeBy after (a :: as) bs (b :: done)
    else
      mergeBy after as (b :: bs) (a :: done)
  | [], bs, done => return done.reverse ++ bs
  | as, [], done => return done.reverse ++ as
termination_by as bs => as.length + bs.length

/-
  Merges neighbours.
-/
def mergePairs (after : Value → Value → Run Bool) : List (List Value) → Run (List (List Value))
  | a :: b :: rest => do
    let merged ← mergeBy after a b []
    return merged :: (← mergePairs after rest)
  | rest => return rest

/-
  Merges lists until one is left, in so many rounds at most.
-/
def mergeAll (after : Value → Value → Run Bool) : Nat → List (List Value) → Run (List Value)
  | 0, lists => return lists.flatten
  | rounds + 1, lists => do
    match lists with
    | [] => return []
    | [list] => return list
    | lists => mergeAll after rounds (← mergePairs after lists)

/-
  Sorts values, leaving those that are equal in their order.
-/
def sortBy (after : Value → Value → Run Bool) (values : List Value) : Run (List Value) :=
  mergeAll after values.length (values.map fun v => [v])

/-
  Whether a value comes after another by a function or else by their texts.
-/
def comesAfter (m : Machine) (f a b : Value) : Run Bool := do
  if f.isUndefined then
    let s ← toUnits m a
    let t ← toUnits m b
    return t.lt s
  else
    return (← toNumber m (← m.call f .undefined [a, b])) > 0

/-
  Sorts values; those that are undefined come last.
-/
def sortValues (m : Machine) (f : Value) (values : List Value) : Run (List Value) := do
  let (missing, present) := values.partition Value.isUndefined
  return (← sortBy (comesAfter m f) present) ++ missing

def requireComparator (f : Value) : Run Unit := do
  if !f.isUndefined then
    requireCallable f "The comparison function must be either a function or undefined"

------------------------------------------------------------
-- Joining and Flattening
------------------------------------------------------------

def joinItems (m : Machine) (r : Ref) (n : Nat) (separator : Units) : Run Value := do
  let mut done : Units := .empty
  for i in [0 : n] do
    let v ← getItem m r i
    if i > 0 then
      done := done ++ separator
    if !v.isNullish then
      done := done ++ (← toUnits m v)
  return .string done

/-
  Puts the elements of lists in lists, up to a depth, into one list.
-/
def flatten (m : Machine) : Nat → List (Option Value) → Run (List Value)
  | _, [] => return []
  | depth, none :: rest => flatten m depth rest
  | 0, some v :: rest => return v :: (← flatten m 0 rest)
  | depth + 1, some v :: rest => do
    match v with
    | .object r =>
      if (← getObject r).isArray then
        let inner ← copyItems m r 0 (← lengthOf m r)
        let flat ← flatten m depth inner.toList
        return flat ++ (← flatten m (depth + 1) rest)
      else
        return v :: (← flatten m (depth + 1) rest)
    | v => return v :: (← flatten m (depth + 1) rest)
termination_by depth items => (depth, items.length)

/-
  Whether the elements of an object are put into a list in its place.
-/
def isSpreadable (m : Machine) (r : Ref) : Run Bool := do
  match ← getFrom m r WellKnown.isConcatSpreadable.key with
  | .undefined => return (← getObject r).isArray
  | v => return v.toBool

/-
  The depth to which lists are flattened.
-/
def flatDepth (m : Machine) (v : Value) : Run Nat := do
  if v.isUndefined then return 1 else return min (← toWhole m v).toNat 10000

def concatItems (m : Machine) (values : List Value) : Run (Array (Option Value)) := do
  let mut items := #[]
  for v in values do
    match v with
    | .object r =>
      if ← isSpreadable m r then
        items := items ++ (← copyItems m r 0 (← lengthOf m r))
      else
        items := items.push (some v)
    | v => items := items.push (some v)
  return items

------------------------------------------------------------
-- Methods with Functions
------------------------------------------------------------

/-
  What a function gives for an element.
-/
def applyTo (m : Machine) (f this : Value) (r : Ref) (i : Nat) (v : Value) : Run Value :=
  m.call f this [v, .ofNat i, .object r]

/-
  The first result for the elements that are there.
-/
def searchPresent (m : Machine) (r : Ref) (n : Nat) (f : Nat → Value → Run (Option α)) :
    Run (Option α) :=
  searchUp
    (fun i => do
      match ← presentItem m r i with
      | some v => f i v
      | none => return none)
    n 0

def reduceMessage (name : String) : String :=
  "Array.prototype." ++ name ++ ": called on an empty array and with no initial value"

/-
  Folds the elements that are there, given the numbers of the elements in order.
-/
def reduceItems (m : Machine) (f : Value) (r : Ref) (start : Option Value) (name : String)
    (indexOf : Nat → Nat) (n : Nat) : Run Value := do
  let mut total := start
  for i in [0 : n] do
    let i := indexOf i
    match ← presentItem m r i with
    | some v =>
      match total with
      | some t => total := some (← m.call f .undefined [t, v, .ofNat i, .object r])
      | none => total := some v
    | none => pure ()
  match total with
  | some v => return v
  | none => throwType (reduceMessage name)

------------------------------------------------------------
-- Changes
------------------------------------------------------------

/-
  Whether all elements of a list stand one after the other and can be moved at once.
-/
def isDense (o : Object) : Bool :=
  match o.kind with
  | .array length isWritable =>
    isWritable && o.isExtensible && o.items.size == length && o.properties.isEmpty
      && o.items.all Option.isSome
  | _ => false

def shiftItems (m : Machine) (r : Ref) (n : Nat) : Run Value := do
  if n == 0 then
    putLength m r 0
    return .undefined
  let first ← getItem m r 0
  if isDense (← getObject r) then
    updateObject r fun o =>
      { o with kind := .array (n - 1) true, items := o.items.extract 1 n }
  else
    forIndices (n - 1) fun i => moveItem m r (i + 1) i
    deleteItem r (.ofNat (n - 1))
    putLength m r (n - 1)
  return first

/-
  Puts elements before the first.
-/
def unshiftItems (m : Machine) (r : Ref) (n : Nat) (values : List Value) : Run Value := do
  let count := values.length
  if isDense (← getObject r) then
    updateObject r fun o =>
      { o with kind := .array (n + count) true, items := (values.map some).toArray ++ o.items }
    return .ofNat (n + count)
  if count > 0 then
    let _ ← searchDown
      (fun i => do
        moveItem m r i (i + count)
        return (none : Option Unit))
      n
    for (v, i) in values.zipIdx do
      putItem m r i v
  putLength m r (n + count)
  return .ofNat (n + count)

/-
  Takes elements out and puts others in their place.
-/
def spliceItems (m : Machine) (r : Ref) (n start count : Nat) (values : List Value) :
    Run Value := do
  let derived ← deriveList m r count
  let removed ← copyItems m r start count
  let result ← fillDerived m derived removed true
  let added := values.length
  if isDense (← getObject r) && n == (← lengthOf m r) then
    let new := (values.map some).toArray
    updateObject r fun o =>
      { o with
        kind := .array (n - count + added) true
        items := o.items.extract 0 start ++ new ++ o.items.extract (start + count) n }
    return result
  if added < count then
    forIndices (n - count - start) fun i => moveItem m r (start + count + i) (start + added + i)
    let _ ← searchDown
      (fun i => do
        if i ≥ n - count + added then
          deleteItem r (.ofNat i)
        return (none : Option Unit))
      n
  else if added > count then
    let _ ← searchDown
      (fun i => do
        moveItem m r (start + count + i) (start + added + i)
        return (none : Option Unit))
      (n - count - start)
  for (v, i) in values.zipIdx do
    putItem m r (start + i) v
  putLength m r (n - count + added)
  return result

def reverseItems (m : Machine) (r : Ref) (n : Nat) : Run Unit :=
  forIndices (n / 2) fun i => do
    let j := n - 1 - i
    let a ← presentItem m r i
    let b ← presentItem m r j
    match b with
    | some v => putItem m r i v
    | none => if a.isSome then deleteItem r (.ofNat i)
    match a with
    | some v => putItem m r j v
    | none => if b.isSome then deleteItem r (.ofNat j)

/-
  Copies elements within a list.
-/
def copyWithin (m : Machine) (r : Ref) (target source count : Nat) : Run Unit := do
  let items ← copyItems m r source count
  for (v, i) in items.toList.zipIdx do
    match v with
    | some v => putItem m r (target + i) v
    | none => deleteItem r (.ofNat (target + i))

/-
  How many elements a call of `splice` takes out.
-/
def spliceCount (m : Machine) (arguments : List Value) (n start : Nat) : Run Nat := do
  match arguments with
  | [] => return 0
  | [_] => return n - start
  | _ :: v :: _ => return min (← toWhole m v).toNat (n - start)

------------------------------------------------------------
-- The Methods of Lists
------------------------------------------------------------

def notCallable (name : String) : String :=
  match name with
  | "forEach" => "Array.prototype.forEach: invalid callback function"
  | "map" => "Array.prototype.map: Callbackfn is not callable"
  | "filter" => "Array.prototype.filter: `callback` must be callable"
  | "flatMap" => "flatMap mapper function is not callable"
  | "reduce" | "reduceRight" =>
    "Array.prototype." ++ name ++ ": callback function is not callable"
  | "find" | "findIndex" | "findLast" | "findLastIndex" =>
    "Array.prototype." ++ name ++ ": predicate is not callable"
  | name => "Array.prototype." ++ name ++ ": callback is not callable"

/-
  The methods that call a function for the elements.
-/
def callWithFunction
    (m : Machine)
    (method : ArrayMethod)
    (name : String)
    (r : Ref)
    (n : Nat)
    (arguments : List Value) :
    Run Value := do
  let f := argument arguments 0
  let this := argument arguments 1
  requireCallable f (notCallable name)
  let apply := applyTo m f this r
  match method with
  | .every =>
    let failed ← searchPresent m r n fun i v => do
      return if (← apply i v).toBool then none else some ()
    return .bool failed.isNone
  | .some =>
    let found ← searchPresent m r n fun i v => do
      return if (← apply i v).toBool then some () else none
    return .bool found.isSome
  | .forEach =>
    let _ ← searchPresent m r n fun i v => do
      let _ ← apply i v
      return (none : Option Unit)
    return .undefined
  | .map =>
    let result ← match ← deriveList m r n with
      | some list => pure list
      | none => do
        checkArrayLength n
        makeGaps Intrinsic.arrayProto.ref n
    let _ ← searchPresent m r n fun i v => do
      createItem m result i (← apply i v)
      return (none : Option Unit)
    return .object result
  | .filter =>
    let derived ← deriveList m r 0
    let mut kept := #[]
    for i in [0 : n] do
      match ← presentItem m r i with
      | some v =>
        if (← apply i v).toBool then
          kept := kept.push (some v)
      | none => pure ()
    fillDerived m derived kept false
  | .flatMap =>
    let derived ← deriveList m r 0
    let mut items := #[]
    for i in [0 : n] do
      match ← presentItem m r i with
      | some v => items := items.push (some (← apply i v))
      | none => pure ()
    fillDerived m derived ((← flatten m 1 items.toList).map some).toArray false
  | .find | .findIndex =>
    let found ← searchUp
      (fun i => do
        let v ← getItem m r i
        return if (← apply i v).toBool then some (v, i) else none)
      n 0
    match found with
    | some (v, i) => return if method == .find then v else .ofNat i
    | none => return if method == .find then .undefined else .number (-1)
  | .findLast | .findLastIndex =>
    let found ← searchDown
      (fun i => do
        let v ← getItem m r i
        return if (← apply i v).toBool then some (v, i) else none)
      n
    match found with
    | some (v, i) => return if method == .findLast then v else .ofNat i
    | none => return if method == .findLast then .undefined else .number (-1)
  | .reduce => reduceItems m f r (arguments[1]?) name id n
  | .reduceRight => reduceItems m f r (arguments[1]?) name (fun i => n - 1 - i) n
  | _ => return .undefined

/-
  The methods that look for a value.
-/
def callSearch (m : Machine) (method : ArrayMethod) (r : Ref) (n : Nat) (arguments : List Value) :
    Run Value := do
  let a := argument arguments 0
  match method with
  | .includes =>
    let start ← placeOf m (argument arguments 1) n 0
    let found ← searchUp
      (fun i => do return if (← getItem m r i).sameValueZero a then some () else none)
      (n - start) start
    return .bool found.isSome
  | .indexOf =>
    let start ← placeOf m (argument arguments 1) n 0
    let found ← searchUp
      (fun i => do
        match ← presentItem m r i with
        | some v => return if v.strictlyEqual a then some i else none
        | none => return none)
      (n - start) start
    return (found.map Value.ofNat).getD (.number (-1))
  | _ =>
    let stop ← match arguments[1]? with
      | some v => do
        let k ← toWhole m v
        pure (if k < 0 then (k + n + 1).toNat else min (k.toNat + 1) n)
      | none => pure n
    let found ← searchDown
      (fun i => do
        match ← presentItem m r i with
        | some v => return if v.strictlyEqual a then some i else none
        | none => return none)
      stop
    return (found.map Value.ofNat).getD (.number (-1))

def callArrayMethod (m : Machine) (method : ArrayMethod) (name : String) (this : Value)
    (arguments : List Value) : Run Value := do
  let r ← toObject this
  let a := argument arguments 0
  match method with
  | .concat =>
    let derived ← deriveList m r 0
    fillDerived m derived (← concatItems m (.object r :: arguments)) true
  | .entries => makeIterator (.list (some r) 0 .entries)
  | .keys => makeIterator (.list (some r) 0 .keys)
  | .values => makeIterator (.list (some r) 0 .values)
  | .toText =>
    let f ← getFrom m r (Key.ofString "join")
    if ← isCallable f then m.call f (.object r) [] else kindText m (.object r)
  | method =>
    let n ← lengthOf m r
    match method with
    | .atIndex =>
      let i ← toWhole m a
      let k := if i < 0 then i + n else i
      if k < 0 || k ≥ n then return .undefined else getItem m r k.toNat
    | .copyWithin =>
      let target ← placeOf m a n 0
      let start ← placeOf m (argument arguments 1) n 0
      let stop ← placeOf m (argument arguments 2) n n
      copyWithin m r target start (min (stop - start) (n - target))
      return .object r
    | .fill =>
      let start ← placeOf m (argument arguments 1) n 0
      let stop ← placeOf m (argument arguments 2) n n
      forIndicesFrom (fun i => putItem m r i a) (stop - start) start
      return .object r
    | .flat =>
      let depth ← flatDepth m a
      let derived ← deriveList m r 0
      let flat ← flatten m depth (← copyItems m r 0 n).toList
      fillDerived m derived (flat.map some).toArray false
    | .includes | .indexOf | .lastIndexOf => callSearch m method r n arguments
    | .join =>
      let separator ← if a.isUndefined then pure (Units.ofString ",") else toUnits m a
      joinItems m r n separator
    | .toLocaleString =>
      let mut parts := #[]
      for i in [0 : n] do
        let v ← getItem m r i
        if v.isNullish then
          parts := parts.push Units.empty
        else
          match ← getMethod m v (Key.ofString "toLocaleString") with
          | some f => parts := parts.push (← toUnits m (← m.call f v []))
          | none => throwType "not a callable function"
      return .string (Units.intercalate (.ofString ", ") parts.toList)
    | .pop =>
      if n == 0 then
        putLength m r 0
        return .undefined
      else
        let v ← getItem m r (n - 1)
        deleteItem r (.ofNat (n - 1))
        putLength m r (n - 1)
        return v
    | .push =>
      for (v, i) in arguments.zipIdx do
        putItem m r (n + i) v
      putLength m r (n + arguments.length)
      return .ofNat (n + arguments.length)
    | .reverse =>
      reverseItems m r n
      return .object r
    | .shift => shiftItems m r n
    | .unshift => unshiftItems m r n arguments
    | .slice =>
      let start ← placeOf m a n 0
      let stop ← placeOf m (argument arguments 1) n n
      let derived ← deriveList m r (stop - start)
      fillDerived m derived (← copyItems m r start (stop - start)) true
    | .sort =>
      requireComparator a
      let items ← copyItems m r 0 n
      let sorted ← sortValues m a (items.toList.filterMap id)
      for (v, i) in sorted.zipIdx do
        putItem m r i v
      forIndicesFrom (fun i => deleteItem r (.ofNat i)) (n - sorted.length) sorted.length
      return .object r
    | .splice =>
      let start ← placeOf m a n 0
      let count ← spliceCount m arguments n start
      spliceItems m r n start count (arguments.drop 2)
    | .toReversed => makeArray (← elementsOf m r).reverse
    | .toSorted =>
      requireComparator a
      makeArray (← sortValues m a (← elementsOf m r))
    | .toSpliced =>
      let start ← placeOf m a n 0
      let count ← spliceCount m arguments n start
      let values ← elementsOf m r
      makeArray (values.take start ++ arguments.drop 2 ++ values.drop (start + count))
    | .replaced =>
      let i ← toWhole m a
      let k := if i < 0 then i + n else i
      if k < 0 || k ≥ n then
        raiseError .range "invalid index"
      else
        makeArray ((← elementsOf m r).set k.toNat (argument arguments 1))
    | method => callWithFunction m method name r n arguments

end Library

end Realm

end Devirt
