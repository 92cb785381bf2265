import Devirt.Replay.Step
import Devirt.Settings.Basic

/-
  Whole replays.

  A replay executes one instruction after another from the initial state, following
  every jump, until the program counter leaves the program, an instruction halts, the
  steps run out or the time is up.  It never takes more steps than the program has
  instructions.

  Key definitions include:
    * `Run`, `Run.continue`
    * `replay`
    * `Report`, `executeTimed`, `execute`
-/

namespace Devirt

namespace Replay

------------------------------------------------------------
-- Runs
------------------------------------------------------------

inductive Termination where
  | outOfRange
  | halted
  | stepBudget
  | timeout
  deriving DecidableEq, Repr

def Termination.name : Termination → String
  | outOfRange => "out_of_range"
  | halted => "halted"
  | stepBudget => "step_budget"
  | timeout => "timeout"

/-
  A finished replay: the states before each step, and the machine after the last one.
-/
structure Run where
  trace : List State
  final : Machine
  termination : Termination
  deriving Repr

/-
  What a replay is bounded by: the steps it may take, and whether the time is up after
  a number of steps.
-/
structure Bounds where
  budget : Nat
  milliseconds : Nat
  expired : Nat → Bool

/-
  Continues a replay with so many steps left, after the steps already taken.
-/
def Run.continue
    (program : Array Instruction)
    (bounds : Bounds) :
    (left : Nat) → (taken : Nat) → Machine → Run
  | left, taken, m =>
    match program[m.state.pc]? with
    | none => ⟨[], m, .outOfRange⟩
    | some i =>
      match left with
      | 0 =>
        if bounds.budget < program.size then
          ⟨[], m.warn (.budget bounds.budget m.state.pc), .stepBudget⟩
        else
          ⟨[], m, .stepBudget⟩
      | left + 1 =>
        if bounds.expired taken then
          ⟨[], m.warn (.timedOut bounds.milliseconds taken), .timeout⟩
        else
          let next := m.step program.size i
          if Action.ofInstruction i = .halt then
            ⟨[m.state], next, .halted⟩
          else
            let rest := Run.continue program bounds left (taken + 1) next
            { rest with trace := m.state :: rest.trace }

/-
  Replays a program from the initial state.
-/
def replay
    (program : Array Instruction)
    (bounds : Bounds) :
    Run :=
  Run.continue program bounds bounds.budget 0 Machine.initial

------------------------------------------------------------
-- Constraints
------------------------------------------------------------

/-
  A list without the later of equal members.
-/
def distinct : List Constraint → List Constraint → List Constraint
  | _, [] => []
  | seen, c :: rest =>
    if seen.contains c then distinct seen rest else c :: distinct (c :: seen) rest

/-
  The constraints of every state of a run, in the order in which they were first seen.
-/
def Run.constraints (r : Run) : List Constraint :=
  distinct [] ((r.trace ++ [r.final.state]).flatMap State.constraints)

------------------------------------------------------------
-- The Listing
------------------------------------------------------------

/-
  A number with zeros in front up to four digits.
-/
def fourDigits (n : Nat) : String :=
  let ds := Nat.toDigits 10 n
  String.ofList (List.replicate (4 - ds.length) '0' ++ ds)

/-
  The effect of an instruction, read off the states before and after it.
-/
def effect? (i : Instruction) (before after : State) : Option String :=
  let top := after.stack.head?.map fun v => "=> " ++ v.name
  match Action.ofInstruction i with
  | .combine _ => top
  | .store => (after.memory.get? i.subject).map fun v => i.subject ++ " = " ++ v.name
  | .jump => some ("goto " ++ toString after.pc)
  | .branch _ =>
    after.path.getLast?.map fun c => "if " ++ c.expression ++ " goto " ++ toString after.pc
  | .call => some ("call " ++ i.subject ++ " (not followed)")
  | .halt => some "halt"
  | .discard => none
  | .skip => none
  | _ => if after.stack.isEmpty && before.stack.isEmpty then none else top

def line (i : Instruction) (before after : State) : String :=
  let operands := ", ".intercalate (i.operands.map Literal.describe)
  fourDigits before.pc ++ " " ++ i.name
    ++ (if operands.isEmpty then "" else " " ++ operands)
    ++ (match effect? i before after with
        | some e => "  ; " ++ e
        | none => "")

/-
  The lines of steps whose states are given in order, each read with the state after it.
-/
def lines (program : Array Instruction) : List State → List String
  | before :: after :: rest =>
    match program[before.pc]? with
    | some i => line i before after :: lines program (after :: rest)
    | none => lines program (after :: rest)
  | _ => []

/-
  A readable listing of the first steps of a run.
-/
def Run.listing
    (program : Array Instruction)
    (r : Run)
    (limit : Nat) :
    String :=
  let shown := lines program ((r.trace ++ [r.final.state]).take (limit + 1))
  let more :=
    if limit < r.trace.length then
      ["... " ++ toString (r.trace.length - limit) ++ " more steps"]
    else
      []
  "\n".intercalate (shown ++ more)

------------------------------------------------------------
-- Reports
------------------------------------------------------------

/-
  The share of a program that was executed.
-/
def coverage (steps length : Nat) : Float :=
  if length = 0 then
    0.0
  else
    let share := steps.toFloat / length.toFloat
    if share < 1.0 then share else 1.0

/-
  What a replay has found out.
-/
structure Report where
  final : State
  trace : List State
  logic : String
  constraints : List Constraint
  confidence : Float
  warnings : List Warning
  termination : Termination
  deriving Repr

def Run.report
    (program : Array Instruction)
    (r : Run)
    (limit : Nat) :
    Report :=
  { final := r.final.state
    trace := r.trace
    logic := r.listing program limit
    constraints := r.constraints
    confidence := coverage r.trace.length program.size
    warnings := r.final.warnings
    termination := r.termination }

/-
  The bounds that settings put on a program of the given length, under a clock that
  tells whether the time is up after a number of steps.
-/
def Bounds.ofSettings
    (settings : ReplaySettings)
    (expired : Nat → Bool)
    (length : Nat) :
    Bounds :=
  ⟨min settings.maxSteps length, settings.timeoutMs, expired⟩

/-
  Replays a program under the given settings and clock.
-/
def executeTimed
    (expired : Nat → Bool)
    (program : Array Instruction)
    (settings : ReplaySettings) :
    Report :=
  (replay program (Bounds.ofSettings settings expired program.size)).report program
    settings.previewLines

/-
  Replays a program under the given settings.  Unless a clock is given, no time at all is
  up at once, and any other time is never up.
-/
def execute
    (program : Array Instruction)
    (settings : ReplaySettings)
    (expired : Nat → Bool := fun _ => settings.timeoutMs == 0) :
    Report :=
  executeTimed expired program settings

end Replay

end Devirt
