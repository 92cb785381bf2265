import Devirt.Machine.Document

/-
  The mnemonics that a replay understands.

  Key definitions include:
    * `Mnemonic`, `Mnemonic.ofName?`
    * `Mnemonic.ofName?_eq_some_iff`, `Mnemonic.ofName?_surrounded`
    * `Mnemonic.operator?`
    * `Action`, what an instruction does, known by its mnemonic or guessed from its
      category
-/

namespace Devirt

inductive Mnemonic where
  | push | pop | dup
  | add | sub | mul | div | mod
  | and | or | not | xor
  | eq | ne | lt | le | gt | ge
  | jmp | jz | jnz
  | call | ret | load | store | loadConst | nop | halt
  deriving DecidableEq, Repr

namespace Mnemonic

------------------------------------------------------------
-- Names
------------------------------------------------------------

def all : List Mnemonic :=
  [ push, pop, dup, add, sub, mul, div, mod, and, or, not, xor, eq, ne, lt, le, gt, ge
  , jmp, jz, jnz, call, ret, load, store, loadConst, nop, halt ]

def name : Mnemonic → String
  | push => "PUSH"
  | pop => "POP"
  | dup => "DUP"
  | add => "ADD"
  | sub => "SUB"
  | mul => "MUL"
  | div => "DIV"
  | mod => "MOD"
  | and => "AND"
  | or => "OR"
  | not => "NOT"
  | xor => "XOR"
  | eq => "EQ"
  | ne => "NE"
  | lt => "LT"
  | le => "LE"
  | gt => "GT"
  | ge => "GE"
  | jmp => "JMP"
  | jz => "JZ"
  | jnz => "JNZ"
  | call => "CALL"
  | ret => "RET"
  | load => "LOAD"
  | store => "STORE"
  | loadConst => "LOAD_CONST"
  | nop => "NOP"
  | halt => "HALT"

/-
  The mnemonic with a name, whatever the case of its letters and the blanks around it.
-/
def ofName? (s : String) : Option Mnemonic :=
  let wanted := (Text.trim s).toList.map Char.toUpper
  all.find? fun m => m.name.toList == wanted

/- No two mnemonics share a name. -/
theorem find?_name
    (m : Mnemonic) :
    (all.find? fun other => other.name.toList == m.name.toList) = some m := by
  cases m <;> rfl

theorem ofName?_eq_some_iff
    {s : String}
    {m : Mnemonic} :
    ofName? s = some m ↔ (Text.trim s).toList.map Char.toUpper = m.name.toList := by
  constructor
  · intro hFound
    have hSame := List.find?_some hFound
    exact (beq_iff_eq.mp hSame).symm
  · intro hName
    rw [ofName?, hName]
    exact find?_name m

theorem isBlank_of_mem_name
    (m : Mnemonic) :
    ∀ c ∈ m.name.toList, Text.isBlank c = false := by
  have hNone : m.name.toList.all (fun c => !Text.isBlank c) = true := by
    cases m <;> rfl
  simpa using hNone

/- Each name is understood in any case and between any blanks. -/
theorem ofName?_surrounded
    {before written after : List Char}
    {m : Mnemonic}
    (hBefore : ∀ c ∈ before, Text.isBlank c = true)
    (hWritten : written.map Char.toUpper = m.name.toList)
    (hAfter : ∀ c ∈ after, Text.isBlank c = true) :
    ofName? (String.ofList (before ++ (written ++ after))) = some m := by
  have hNone : ∀ c ∈ written, Text.isBlank c = false := by
    intro c hMember
    have hUpper : c.toUpper ∈ m.name.toList := by
      rw [← hWritten]
      exact List.mem_map_of_mem hMember
    have hLetter := isBlank_of_mem_name m _ hUpper
    cases hBlank : Text.isBlank c with
    | false => rfl
    | true => rw [Text.toUpper_of_isBlank hBlank, hBlank] at hLetter; exact hLetter
  rw [ofName?_eq_some_iff, Text.trim_surrounded hBefore hNone hAfter,
    String.toList_ofList]
  exact hWritten

example : ofName? " Load_Const\n" = some .loadConst ∧ ofName? "FOO" = none := by decide

/-
  The operator of a mnemonic that combines two values.
-/
def operator? : Mnemonic → Option String
  | add => some "+"
  | sub => some "-"
  | mul => some "*"
  | div => some "/"
  | mod => some "%"
  | and => some "&"
  | or => some "|"
  | xor => some "^"
  | eq => some "=="
  | ne => some "!="
  | lt => some "<"
  | le => some "<="
  | gt => some ">"
  | ge => some ">="
  | _ => none

end Mnemonic

------------------------------------------------------------
-- Actions
------------------------------------------------------------

/-
  What an instruction does to the state of a replay.
-/
inductive Action where
  | constant
  | discard
  | duplicate
  | negate
  | jump
  | branch (onZero : Bool)
  | call
  | load
  | store
  | halt
  | skip
  | combine (operator : String)
  deriving DecidableEq, Repr

namespace Action

def ofMnemonic : Mnemonic → Action
  | .push => constant
  | .loadConst => constant
  | .pop => discard
  | .dup => duplicate
  | .not => negate
  | .jmp => jump
  | .jz => branch true
  | .jnz => branch false
  | .call => call
  | .load => load
  | .store => store
  | .halt => halt
  | .ret => skip
  | .nop => skip
  | m => combine (m.operator?.getD m.name)

/-
  What an instruction does whose name is no mnemonic.  One that computes something is
  taken to combine two values, its name standing for the operator.
-/
def ofCategory (i : Instruction) : Action :=
  match i.category with
  | .load => load
  | .store => store
  | .arithmetic => combine i.name
  | .call => call
  | .control => skip
  | .unknown => skip

def ofInstruction (i : Instruction) : Action :=
  match Mnemonic.ofName? i.name with
  | some m => ofMnemonic m
  | none => ofCategory i

end Action

/-
  Whether the name of an instruction is a mnemonic.
-/
def Instruction.isKnown (i : Instruction) : Bool :=
  (Mnemonic.ofName? i.name).isSome

end Devirt
