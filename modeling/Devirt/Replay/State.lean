import Devirt.Replay.Value

/-
  States of a replay and the warnings it gives.

  The stack is kept with its top first.  Memory is kept sorted by name, so that equal
  memories are equal lists.

  Key definitions include:
    * `Memory.get?`, `Memory.set`
    * `State`
    * `Warning`
-/

namespace Devirt

namespace Replay

------------------------------------------------------------
-- Memory
------------------------------------------------------------

/-
  Cells sorted by name.
-/
abbrev Memory := List (String × Value)

namespace Memory

def get? (name : String) : Memory → Option Value
  | [] => none
  | (n, v) :: rest => if n == name then some v else get? name rest

def set (name : String) (value : Value) : Memory → Memory
  | [] => [(name, value)]
  | (n, v) :: rest =>
    if name < n then
      (name, value) :: (n, v) :: rest
    else if n == name then
      (name, value) :: rest
    else
      (n, v) :: set name value rest

end Memory

------------------------------------------------------------
-- States
------------------------------------------------------------

structure State where
  pc : Nat
  stack : List Value
  registers : Memory
  memory : Memory
  path : List Constraint
  deriving Repr, BEq

namespace State

def initial : State := ⟨0, [], [], [], []⟩

/-
  The values of a state: the stack from its bottom to its top, then the cells.
-/
def values (s : State) : List Value :=
  s.stack.reverse ++ s.memory.map (·.2) ++ s.registers.map (·.2)

/-
  The constraints of a state: those of the path, then those of its values.
-/
def constraints (s : State) : List Constraint :=
  s.path ++ s.values.flatMap (·.constraints)

end State

------------------------------------------------------------
-- Warnings
------------------------------------------------------------

inductive Warning where
  | unrecognised (name : String) (category : Category)
  | underflow (pc : Nat)
  | noTarget (name : String) (pc : Nat)
  | outside (target pc : Nat)
  | budget (steps pc : Nat)
  | timedOut (milliseconds steps : Nat)
  deriving DecidableEq, Repr

def Warning.message : Warning → String
  | unrecognised name category =>
    "unrecognised mnemonic '" ++ name ++ "' replayed from its " ++ category.name ++ " category"
  | underflow pc => "stack underflow at pc " ++ toString pc
  | noTarget name pc => name ++ " at pc " ++ toString pc ++ " has no usable target"
  | outside target pc =>
    "jump target " ++ toString target ++ " at pc " ++ toString pc ++ " is outside the program"
  | budget steps pc =>
    "step budget of " ++ toString steps ++ " exhausted at pc " ++ toString pc
  | timedOut ms steps =>
    "symbolic execution timed out after " ++ toString ms ++ " ms and " ++ toString steps
      ++ " steps"

end Replay

end Devirt
