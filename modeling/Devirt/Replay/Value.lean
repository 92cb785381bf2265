import Devirt.Machine.Document

/-
  Values known only by the expression that defines them.

  A value carries the constraints that were recorded when it was made and when it was
  stored.

  Key definitions include:
    * `Constraint`
    * `Value`, `Value.constant`, `Value.placeholder`
    * `Value.binary`, `Value.unary`
-/

namespace Devirt

namespace Replay

------------------------------------------------------------
-- Constraints
------------------------------------------------------------

inductive ConstraintKind where
  | equality
  | inequality
  | definition
  | assignment
  deriving DecidableEq, Repr

def ConstraintKind.name : ConstraintKind → String
  | equality => "equality"
  | inequality => "inequality"
  | definition => "definition"
  | assignment => "assignment"

structure Constraint where
  kind : ConstraintKind
  expression : String
  description : String
  deriving DecidableEq, Repr

namespace Constraint

/-
  A branch was taken because a condition was zero, or was not.
-/
def branch (onZero : Bool) (condition : String) (pc : Nat) : Constraint :=
  ⟨if onZero then .equality else .inequality,
    condition ++ (if onZero then " == 0" else " != 0"),
    "branch taken at pc " ++ toString pc⟩

/-
  A value was stored under a name.
-/
def stored (name value : String) (pc : Nat) : Constraint :=
  ⟨.assignment, name ++ " = " ++ value, "stored at pc " ++ toString pc⟩

end Constraint

------------------------------------------------------------
-- Values
------------------------------------------------------------

inductive ValueKind where
  | constant
  | expression
  | memory
  | unknown
  deriving DecidableEq, Repr

def ValueKind.name : ValueKind → String
  | constant => "constant"
  | expression => "expression"
  | memory => "memory"
  | unknown => "unknown"

structure Value where
  kind : ValueKind
  name : String
  candidates : List Literal
  constraints : List Constraint
  deriving Repr, BEq

namespace Value

def constant (l : Literal) : Value :=
  ⟨.constant, l.describe, [l], []⟩

def placeholder (name : String) : Value :=
  ⟨.unknown, name, [], []⟩

/-
  The content of a cell that has not been written.
-/
def cell (name : String) : Value :=
  ⟨.memory, name, [], []⟩

/-
  The name of a value as an operand: in parentheses if it is an expression.
-/
def operandText (v : Value) : String :=
  match v.kind with
  | .expression => "(" ++ v.name ++ ")"
  | _ => v.name

/-
  An expression together with the constraint that defines it.
-/
def defined (name description : String) : Value :=
  ⟨.expression, name, [], [⟨.definition, name, description⟩]⟩

def binary (lhs : Value) (operator : String) (rhs : Value) : Value :=
  defined (lhs.operandText ++ " " ++ operator ++ " " ++ rhs.operandText)
    ("result of " ++ operator ++ " applied to " ++ lhs.name ++ " and " ++ rhs.name)

def unary (operator : String) (operand : Value) : Value :=
  defined (operator ++ operand.operandText)
    ("result of " ++ operator ++ " applied to " ++ operand.name)

end Value

end Replay

end Devirt
