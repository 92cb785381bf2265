import Devirt.Proofs.Realm.Builders
import Devirt.Proofs.Realm.Entry
import Devirt.Realm.Outcome

/-
  The code that guards the functions that build texts.

  The guards are written in the preparation of a realm.  Their
  code is given here as trees, and the lines of the preparation
  are read as these trees.  The code relies on what it sees:
  constructors and functions of the library, a limit, and a
  function that does nothing but throw.

  Main declarations:
    * `Guard`, `Guard.function`, `Guard.definition`
    * `Guard.parse?_text`
    * `Sees`, `Sees.inside`
    * `Sees.finds_asText`, `Sees.finds_asNumber`
    * `Sees.returns_refuseIf`, `Sees.returns_handOn`
-/

------------------------------------------------------------
-- The Code of the Guards
------------------------------------------------------------

namespace Devirt

namespace Realm

open Script (Tree FunctionInfo)

/- The functions that are guarded because they build texts. -/
inductive Guard where
  | repeated
  | padStart
  | padEnd
  | concat
  | join
  deriving DecidableEq, Repr

namespace Guard

/-
  The name of a function, which is also that of the variable in
  which its guard keeps it.
-/
def name : Guard → String
  | .repeated => "repeat"
  | .padStart => "padStart"
  | .padEnd => "padEnd"
  | .concat => "concat"
  | .join => "join"

def native : Guard → Native
  | .repeated => .stringMethod .repeated
  | .padStart => .stringMethod .padStart
  | .padEnd => .stringMethod .padEnd
  | .concat => .stringMethod .concat
  | .join => .arrayMethod .join

/- The variable that keeps the object with the function. -/
def owner : Guard → String
  | .join => "arrayProto"
  | _ => "stringProto"

/- Whether a guard hands on all its arguments, however many. -/
def takesAll : Guard → Bool
  | .concat => true
  | _ => false

/- The method by which a guard calls the function that it keeps. -/
def caller (g : Guard) : FunctionMethod :=
  if g.takesAll then .apply else .call

def callerName (g : Guard) : String :=
  if g.takesAll then "apply" else "call"

def params : Guard → List String
  | .repeated => ["count"]
  | .padStart => ["length", "fill"]
  | .padEnd => ["length", "fill"]
  | .concat => []
  | .join => ["separator"]

/- The names that a call binds before its code is run. -/
def bound (g : Guard) : List String :=
  if g.takesAll then ["arguments"] else g.params

def hoisted : Guard → List String
  | .repeated => ["text"]
  | .padStart => []
  | .padEnd => []
  | .concat => ["total", "k"]
  | .join => ["count", "width"]

------------------------------------------------------------
-- Expressions and Statements
------------------------------------------------------------

/- The value that a guard works on. -/
def self : Tree := .node .this []

def asText (e : Tree) : Tree := .call (.name "toStr") [e]

def asNumber (e : Tree) : Tree := .call (.name "Number") [e]

def sizeOf (e : Tree) : Tree := .select e "length"

def exceeds (e : Tree) (bound : String) : Tree :=
  .binary .greater e (.name bound)

def declare (x : String) (e : Tree) : Tree :=
  .node (.declare .hoisted) [.declarator (.name x) e]

/- A statement that fails if a test holds. -/
def refuseIf (test : Tree) : Tree :=
  .node .ifElse
    [test, .node .expression [.call (.name "tooLong") []], .absent]

/- What the guarded function gives is given back. -/
def handOn (g : Guard) (this : Tree) (arguments : List Tree) : Tree :=
  .node .giveBack
    [.call (.select (.name g.name) g.callerName) (this :: arguments)]

/- The loop that adds the lengths of all arguments. -/
def adding : Tree :=
  .node .forLoop
    [ .node (.declare .hoisted)
        [.declarator (.name "k") (.number (Decimal.ofNat 0))]
    , .binary .less (.name "k") (sizeOf (.name "arguments"))
    , .update true false (.name "k")
    , .node .expression
        [ .assign (.compute .add) (.name "total")
            (sizeOf
              (asText (.index (.name "arguments") (.name "k")))) ] ]

def body : Guard → List Tree
  | .repeated =>
    [ declare "text" (asText self)
    , refuseIf
        (exceeds
          (.binary .mul (sizeOf (.name "text"))
            (asNumber (.name "count")))
          "maxLength")
    , handOn .repeated (.name "text") [.name "count"] ]
  | .padStart =>
    [ refuseIf (exceeds (asNumber (.name "length")) "maxLength")
    , handOn .padStart (asText self)
        [.name "length", .name "fill"] ]
  | .padEnd =>
    [ refuseIf (exceeds (asNumber (.name "length")) "maxLength")
    , handOn .padEnd (asText self)
        [.name "length", .name "fill"] ]
  | .concat =>
    [ declare "total" (sizeOf (asText self))
    , adding
    , refuseIf (exceeds (.name "total") "maxLength")
    , handOn .concat (asText self) [.name "arguments"] ]
  | .join =>
    [ declare "count" (asNumber (sizeOf self))
    , declare "width"
        (.conditional
          (.binary .same (.name "separator") (.name "undefined"))
          (.number (Decimal.ofNat 1))
          (sizeOf (asText (.name "separator"))))
    , refuseIf
        (.logical .or (exceeds (.name "count") "maxElements")
          (exceeds (.binary .mul (.name "count") (.name "width"))
            "maxLength"))
    , handOn .join self [.name "separator"] ]

def info (g : Guard) (source : String) : FunctionInfo :=
  { kind := .normal
    isAsync := false
    isGenerator := false
    isStrict := false
    name := none
    source
    usesArguments := g.takesAll }

def function (g : Guard) (source : String) : Tree :=
  .function (g.info source) (g.params.map Tree.name) g.body

/- The statement that puts a guard in the place of a function. -/
def definition (g : Guard) (source : String) : Tree :=
  .node (.program false)
    [ .node .expression
        [ .call (.name "define")
            [ .name g.owner
            , .string (.ofString g.name)
            , .object
                [ .property (.node (.keyText (.ofString "value")) [])
                    (g.function source) ] ] ] ]

------------------------------------------------------------
-- The Preparation
------------------------------------------------------------

/- Where the lines of a guard stand in the preparation. -/
def lines : Guard → Nat × Nat
  | .repeated => (60, 5)
  | .padStart => (65, 4)
  | .padEnd => (69, 4)
  | .join => (78, 6)
  | .concat => (88, 6)

def text (g : Guard) : String :=
  "\n".intercalate ((preparationLines.drop g.lines.1).take g.lines.2)

/- What stands before the code of a guard on its first line. -/
def opening (g : Guard) : String :=
  "  define(" ++ g.owner ++ ", '" ++ g.name ++ "', \x7b value: "

def source (g : Guard) : String :=
  String.ofList
    ((g.text.toList.drop g.opening.length).dropLast.dropLast.dropLast)

theorem toList_text
    (g : Guard) :
    g.text.toList =
      List.intercalate ['\n']
        (((preparationLines.drop g.lines.1).take g.lines.2).map
          String.toList) := by
  rw [text, String.toList_intercalate]
  simp only [String.reduceToList]

/- A literal is compared with its characters, and never encoded. -/
theorem map_toList_cons
    {line : String}
    {cs : List Char}
    (lines : List String)
    (hLine : line = String.ofList cs) :
    (line :: lines).map String.toList =
      cs :: lines.map String.toList := by
  rw [List.map_cons, hLine, String.toList_ofList]

/- The lines of the preparation say what is said here of a guard. -/
theorem parse?_text
    (g : Guard) :
    Tree.parse? g.text = some (g.definition g.source) := by
  unfold Tree.parse? source
  rw [toList_text]
  cases g <;> simp only [lines, preparationLines, List.drop, List.take]
  all_goals
    repeat rw [map_toList_cons _ rfl]
    decide +kernel

end Guard

------------------------------------------------------------
-- What the Code Sees
------------------------------------------------------------

/- The names that guards use and do not declare. -/
def seenNames : List String :=
  [ "toStr", "Number", "undefined", "tooLong", "maxLength"
  , "maxElements", "repeat", "padStart", "padEnd", "concat"
  , "join" ]

/-
  The code of the guards sees the functions of the library that
  it uses, and a limit.
-/
structure Sees (w : World) (env : Env) (limit : Nat) : Prop where
  texts :
    ∃ r, Binds w env "toStr" (.object r) ∧
      IsNative w r (.make .string)
  numbers :
    ∃ r, Worldwide w env "Number" (.object r) ∧
      IsNative w r (.make .number)
  nothing : Worldwide w env "undefined" .undefined
  refusal :
    ∃ r, Binds w env "tooLong" (.object r) ∧ Raises w r
  length : Binds w env "maxLength" (.number (Decimal.ofNat limit))
  elements : ∃ y, Binds w env "maxElements" (.number y)
  kept :
    ∀ g : Guard, ∃ r f,
      Binds w env g.name (.object r) ∧ IsNative w r g.native ∧
        Has w r (Key.ofString g.callerName) (.object f) ∧
          IsNative w f (.function g.caller)

section Seeing

variable {w w' : World}
variable {env env' : Env}
variable {limit : Nat}
variable {x : String}
variable {v : Value}

theorem Sees.later
    (hSees : Sees w env limit)
    (hGrows : w.Grows w') :
    Sees w' env limit where
  texts := by
    rcases hSees.texts with ⟨r, hBinds, hNative⟩
    exact ⟨r, hBinds.later hGrows, hNative.later hGrows⟩
  numbers := by
    rcases hSees.numbers with ⟨r, hGlobal, hNative⟩
    exact ⟨r, hGlobal.later hGrows, hNative.later hGrows⟩
  nothing := hSees.nothing.later hGrows
  refusal := by
    rcases hSees.refusal with ⟨r, hBinds, hRaises⟩
    exact ⟨r, hBinds.later hGrows, hRaises.later hGrows⟩
  length := hSees.length.later hGrows
  elements := by
    rcases hSees.elements with ⟨y, hBinds⟩
    exact ⟨y, hBinds.later hGrows⟩
  kept := by
    intro g
    rcases hSees.kept g with ⟨r, f, hBinds, hNative, hHas, hCaller⟩
    exact
      ⟨r, f, hBinds.later hGrows, hNative.later hGrows,
        hHas.later hGrows, hCaller.later hGrows⟩

theorem Binds.inside
    (hBinds : Binds w env x v)
    (hPlain : Plain env'.frames)
    (hSame : cellIn? x env'.frames = cellIn? x env.frames) :
    Binds w env' x v :=
  ⟨hPlain, by rw [hSame]; exact hBinds.cell⟩

theorem Worldwide.inside
    (hGlobal : Worldwide w env x v)
    (hPlain : Plain env'.frames)
    (hSame : cellIn? x env'.frames = cellIn? x env.frames) :
    Worldwide w env' x v :=
  ⟨hPlain, hSame.trans hGlobal.free, hGlobal.undeclared,
    hGlobal.member⟩

/- The same is seen where these names are not declared anew. -/
theorem Sees.inside
    (hSees : Sees w env limit)
    (hPlain : Plain env'.frames)
    (hSame :
      ∀ x ∈ seenNames,
        cellIn? x env'.frames = cellIn? x env.frames) :
    Sees w env' limit where
  texts := by
    rcases hSees.texts with ⟨r, hBinds, hNative⟩
    exact
      ⟨r, hBinds.inside hPlain (hSame _ (by decide)), hNative⟩
  numbers := by
    rcases hSees.numbers with ⟨r, hGlobal, hNative⟩
    exact
      ⟨r, hGlobal.inside hPlain (hSame _ (by decide)), hNative⟩
  nothing := hSees.nothing.inside hPlain (hSame _ (by decide))
  refusal := by
    rcases hSees.refusal with ⟨r, hBinds, hRaises⟩
    exact
      ⟨r, hBinds.inside hPlain (hSame _ (by decide)), hRaises⟩
  length := hSees.length.inside hPlain (hSame _ (by decide))
  elements := by
    rcases hSees.elements with ⟨y, hBinds⟩
    exact ⟨y, hBinds.inside hPlain (hSame _ (by decide))⟩
  kept := by
    intro g
    rcases hSees.kept g with ⟨r, f, hBinds, hRest⟩
    have hName : g.name ∈ seenNames := by cases g <;> decide
    exact ⟨r, f, hBinds.inside hPlain (hSame _ hName), hRest⟩

end Seeing

------------------------------------------------------------
-- Expressions of the Guards
------------------------------------------------------------

section Expressions

open Guard

variable {w : World}
variable {env : Env}
variable {limit : Nat}
variable {e : Tree}
variable {v : Value}
variable {s : Units}
variable {y : Float}

theorem Sees.finds_asText
    (hSees : Sees w env limit)
    (hPlain : ∀ inner, e ≠ .spread inner)
    (hFinds : Finds w env e v)
    (hText : TextOf w v s) :
    Finds w env (asText e) (.string s) := by
  rcases hSees.texts with ⟨r, hBinds, hNative⟩
  exact
    finds_call (callee_name hBinds) (.cons hPlain hFinds .nil)
      (hNative.steady (hText.steady_make .undefined))

theorem Sees.finds_asNumber
    (hSees : Sees w env limit)
    (hPlain : ∀ inner, e ≠ .spread inner)
    (hFinds : Finds w env e v)
    (hNumber : NumberOf w v y) :
    Finds w env (asNumber e) (.number y) := by
  rcases hSees.numbers with ⟨r, hGlobal, hNative⟩
  exact
    finds_call (callee_global hGlobal) (.cons hPlain hFinds .nil)
      (hNative.steady (hNumber.steady_make .undefined))

theorem finds_sizeOf
    (hFinds : Finds w env e (.string s)) :
    Finds w env (sizeOf e) (.number (Decimal.ofNat s.size)) :=
  finds_select hFinds (steady_length w s)

theorem finds_exceeds
    {x : String}
    {y' : Float}
    (hFinds : Finds w env e (.number y))
    (hBinds : Binds w env x (.number y')) :
    Finds w env (exceeds e x)
      (.bool (compareFloats y y' == .greater)) :=
  finds_binary hFinds (finds_name hBinds) (steady_greater w y y')

/- Nothing is given where a test of a guard holds. -/
theorem Sees.returns_refuseIf
    {b : Bool}
    {ts : List Tree}
    {Q : Value → Prop}
    (hSees : Sees w env limit)
    (hTest : Finds w env e (.bool b))
    (hRest : b = false → Returns w env ts Q) :
    Returns w env (refuseIf e :: ts) Q := by
  rcases hSees.refusal with ⟨r, hBinds, hRaises⟩
  refine returns_check hTest ?_ hRest
  intro w' hGrows n
  exact never_call (hBinds.later hGrows) (hRaises.later hGrows) n

/- What the guarded function gives is what the guard gives. -/
theorem Sees.returns_handOn
    {g : Guard}
    {t : Tree}
    {ts : List Tree}
    {us : List Value}
    {Q : Value → Prop}
    (v : Value)
    (hSees : Sees w env limit)
    (hAwaits : env.awaitsResult = false)
    (hArguments : FindsAll w env (t :: ts) us)
    (hCall :
      ∀ r, IsNative w r g.native →
        Steady w
          (fun m => callNative m (.function g.caller) (.object r) us)
          v)
    (hValue : Q v) :
    Returns w env [handOn g t ts] Q := by
  rcases hSees.kept g with ⟨r, f, hBinds, hNative, hHas, hCaller⟩
  refine returns_give ?_ rfl hAwaits hValue
  have hCallee := callee_select (finds_name hBinds) hHas.steady
  exact
    finds_call hCallee hArguments
      (hCaller.steady (hCall r hNative))

end Expressions

end Realm

end Devirt
