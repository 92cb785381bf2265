import Devirt.Realm.Assignment
import Devirt.Script.Names

/-
  Names and what they stand for.

  Key definitions include:
    * `Place`, `resolve`
    * `readName`, `assignPlace`
    * `enterScope`, `bindFirst`
-/

namespace Devirt

namespace Realm

open Script (Tree)

------------------------------------------------------------
-- Resolution
------------------------------------------------------------

/-
  Where the value of a name is kept.
-/
inductive Place where
  | cell (n : Nat)
  | member (r : Ref)
  | nowhere
  deriving DecidableEq, Repr

/-
  The variable of a name in some frames, those aside that are objects.
-/
def cellIn? (x : String) : List Frame → Option Nat
  | [] => none
  | .names bindings :: rest =>
    match bindings.find? fun b => b.1 == x with
    | some (_, n) => some n
    | none => cellIn? x rest
  | .object _ :: rest => cellIn? x rest

/-
  Whether the members of an object include a name, and the object does not keep it to
  itself.
-/
def offersName (m : Machine) (r : Ref) (x : String) : Run Bool := do
  if ← hasMember r (Key.ofString x) then
    match ← getFrom m r WellKnown.unscopables.key with
    | .object kept => return !(← getFrom m kept (Key.ofString x)).toBool
    | _ => return true
  else
    return false

/-
  The place of a name in some frames.
-/
def resolveIn (m : Machine) (x : String) : List Frame → Run (Option Place)
  | [] => pure none
  | .names bindings :: rest =>
    match bindings.find? fun b => b.1 == x with
    | some (_, n) => pure (some (.cell n))
    | none => resolveIn m x rest
  | .object r :: rest => do
    if ← offersName m r x then
      return some (.member r)
    else
      resolveIn m x rest

def resolve (m : Machine) (env : Env) (x : String) : Run Place := do
  match ← resolveIn m x env.frames with
  | some p => return p
  | none =>
    match (← get).lexicals.find? fun b => b.1 == x with
    | some (_, n) => return .cell n
    | none =>
      if ← hasMember Intrinsic.global.ref (Key.ofString x) then
        return .member Intrinsic.global.ref
      else
        return .nowhere

def undefinedMessage (x : String) : String := x ++ " is not defined"

/-
  The value at the place of a name.
-/
def readPlace (m : Machine) (x : String) (p : Place) : Run Value := do
  match p with
  | .cell n =>
    match (← getCell n).value with
    | some v => return v
    | none => raiseError .reference (undefinedMessage x)
  | .member r => getFrom m r (Key.ofString x)
  | .nowhere => raiseError .reference (undefinedMessage x)

def readName (m : Machine) (env : Env) (x : String) : Run Value := do
  readPlace m x (← resolve m env x)

/-
  Assigns to the place of a name.  A name without a place becomes a member of the global
  object, except in strict code.
-/
def assignPlace (m : Machine) (env : Env) (x : String) (p : Place) (v : Value) : Run Unit := do
  match p with
  | .cell n =>
    let c ← getCell n
    if c.value.isNone then
      raiseError .reference ("cannot assign to uninitialized binding `" ++ x ++ "`")
    else if c.isConstant then
      throwType ("cannot mutate an immutable binding '" ++ x ++ "'")
    else if c.isSilent then
      if env.isStrict then
        throwType ("cannot mutate an immutable binding '" ++ x ++ "'")
    else
      storeCell n c v
  | .member r => setMember m env.isStrict (.object r) (Key.ofString x) v
  | .nowhere =>
    if env.isStrict then
      raiseError .reference
        ("cannot assign to uninitialized global property `" ++ x ++ "`")
    else
      setMember m false (.object Intrinsic.global.ref) (Key.ofString x) v

------------------------------------------------------------
-- Declaration
------------------------------------------------------------

def Env.push (env : Env) (f : Frame) : Env :=
  { env with frames := f :: env.frames }

/-
  Variables for some names.
-/
def makeCells (cells : List (String × Cell)) : Run (List (String × Nat)) :=
  cells.mapM fun (x, c) => do return (x, ← allocateCell c)

/-
  A scope with variables for some names.
-/
def enterScope (env : Env) (cells : List (String × Cell)) : Run Env := do
  if cells.isEmpty then
    return env
  else
    return env.push (.names (← makeCells cells))

/-
  Gives a declared name its first value.
-/
def bindFirst (env : Env) (x : String) (v : Value) : Run Unit := do
  let start := fun (n : Nat) => do
    storeCell n (← getCell n) v
  match cellIn? x env.frames with
  | some n => start n
  | none =>
    match (← get).lexicals.find? fun b => b.1 == x with
    | some (_, n) => start n
    | none => pure ()

/-
  The variables that the declarations of a block need.
-/
def localCells (statements : List Tree) : List (String × Cell) :=
  (Tree.localNames statements).map fun (x, isConstant) => (x, { value := none, isConstant })

end Realm

end Devirt
