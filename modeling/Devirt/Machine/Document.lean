import Devirt.Json.Basic
import Devirt.Source.Literal

/-
  Instructions of a virtual machine, and the documents that tell them.

  Key definitions include:
    * `Category`
    * `Instruction`
    * `Literal.ofJson?`, `Literal.toJson`
    * `Instruction.ofJson?`
-/

namespace Devirt

------------------------------------------------------------
-- Categories
------------------------------------------------------------

/-
  What an instruction was seen to do.
-/
inductive Category where
  | load
  | store
  | arithmetic
  | control
  | call
  | unknown
  deriving DecidableEq, Repr, Inhabited

namespace Category

def all : List Category :=
  [load, store, arithmetic, control, call, unknown]

def name : Category → String
  | load => "load"
  | store => "store"
  | arithmetic => "arithmetic"
  | control => "control"
  | call => "call"
  | unknown => "unknown"

def ofName? (s : String) : Option Category :=
  all.find? fun k => k.name == s

end Category

------------------------------------------------------------
-- Instructions
------------------------------------------------------------

structure Instruction where
  opcode : Literal
  name : String
  category : Category
  description : String
  operands : List Literal
  deriving Repr, BEq, Inhabited

namespace Instruction

/-
  An instruction known by its name alone.
-/
def named
    (name : String)
    (operands : List Literal) :
    Instruction :=
  ⟨.text name, name, .unknown, "", operands⟩

/-
  The name an instruction refers to: its first operand, or its own name.
-/
def subject (i : Instruction) : String :=
  match i.operands with
  | o :: _ => o.describe
  | [] => i.name

/-
  The index an instruction refers to.
-/
def index? (i : Instruction) : Option Nat :=
  i.operands.head?.bind Literal.index?

end Instruction

------------------------------------------------------------
-- Documents
------------------------------------------------------------

namespace Literal

def ofJson? : Json → Option Literal
  | .number n => some (.number n.toFloat)
  | .text s => some (.text s)
  | _ => none

def toJson : Literal → Json
  | number x => Json.real x
  | text s => .text s

end Literal

namespace Instruction

/-
  The operands of an instruction; there are none when the field is missing.
-/
def operandsOfJson? : Option Json → Option (List Literal)
  | none => some []
  | some v => do
    let items ← v.array?
    items.mapM Literal.ofJson?

def ofJson? (v : Json) : Option Instruction := do
  let opcode ← Literal.ofJson? (← v.field? "opcode")
  let name ← (← v.field? "name").text?
  let category ← Category.ofName? (← (← v.field? "type").choice?)
  let description ← (← v.field? "description").text?
  let operands ← operandsOfJson? (v.field? "operands")
  pure ⟨opcode, name, category, description, operands⟩

/-
  The fields of an instruction; operands are written only if there are any.
-/
def toJson (i : Instruction) : Json :=
  .object
    ([ ("opcode", i.opcode.toJson)
     , ("name", .text i.name)
     , ("type", .text i.category.name)
     , ("description", .text i.description) ]
      ++ (if i.operands.isEmpty then [] else [("operands", Json.list Literal.toJson i.operands)]))

end Instruction

end Devirt
