import Devirt.Script.Token

/-
  The state of the reader of scripts.

  The reader looks at one token at a time.  It knows in which construct it is, because
  some words and statements have a meaning only there, and it keeps the names declared
  in each scope, because some declarations exclude each other.  Reading fails without a
  reason: a script is well formed or it is not.

  Key definitions include:
    * `Context`, `Scope`, `Parser.State`
    * `Parse`, the readers of constructs
    * `declareHoisted`, `declareLocal`, `declareFunction`
-/

namespace Devirt

namespace Script

------------------------------------------------------------
-- Context
------------------------------------------------------------

/-
  The construct in which the reader is.
-/
structure Context where
  isStrict : Bool := false
  inFunction : Bool := false
  inGenerator : Bool := false
  inAsync : Bool := false
  /- `in` is an operator here -/
  allowIn : Bool := true
  allowNewTarget : Bool := false
  allowSuper : Bool := false
  allowSuperCall : Bool := false
  /- the initial value of a class member, where there are no arguments -/
  noArguments : Bool := false
  inLoop : Bool := false
  inSwitch : Bool := false
  /- the labels in effect, each with whether it labels a loop -/
  labels : List (String × Bool) := []
  inClass : Bool := false
  /- the parameters of a function, which cannot suspend it -/
  inParams : Bool := false
  deriving Inhabited

------------------------------------------------------------
-- Scopes
------------------------------------------------------------

/-
  The names declared in a scope.
-/
structure Scope where
  /- whether hoisted names stop here -/
  isFunction : Bool
  /- whether declarations of one name exclude each other here -/
  isChecked : Bool := true
  locals : List String := []
  /- the local names that are functions of a block -/
  functions : List String := []
  hoisted : List String := []
  /- names that locals must differ from, but through which others may be hoisted -/
  params : List String := []
  deriving Inhabited

structure Parser.State where
  current : Lexeme
  /- what is left after the last token that was taken -/
  afterLast : List Char
  /- the number of tokens taken -/
  taken : Nat
  /- the place at which an arrow function may begin -/
  arrowAt : Nat
  context : Context
  scopes : List Scope
  /- an object that is only well formed as a pattern was read -/
  needsPattern : Bool
  /- something that cannot become a pattern was read -/
  noPattern : Bool
  /- the secret members used in the class that is being read -/
  secretsUsed : List String
  deriving Inhabited

/-
  Readers of constructs.
-/
abbrev Parse (α : Type) := StateT Parser.State Option α

namespace Parse

def fail : Parse α := fun _ => none

def require (b : Bool) : Parse Unit := if b then pure () else fail

def current : Parse Lexeme := do return (← get).current

def token : Parse Token := do return (← get).current.token

def context : Parse Context := do return (← get).context

def isStrict : Parse Bool := do return (← get).context.isStrict

/-
  Runs a reader in another context.
-/
def within (change : Context → Context) (p : Parse α) : Parse α := do
  let old := (← get).context
  modify fun s => { s with context := change old }
  let a ← p
  modify fun s => { s with context := old }
  return a

/-
  Goes on to the next token.
-/
def advance : Parse Unit := do
  let s ← get
  match Lexeme.next? s.current.rest with
  | some next =>
    set { s with current := next, afterLast := s.current.rest, taken := s.taken + 1 }
  | none => fail

/-
  The token after the current one, if there is one that can be read.
-/
def peek? : Parse (Option Lexeme) := do return Lexeme.next? (← get).current.rest

/-
  Reads the current token again, in another way.
-/
def reread (f : Lexeme → Option Lexeme) : Parse Unit := do
  let s ← get
  match f s.current with
  | some l => set { s with current := l }
  | none => fail

------------------------------------------------------------
-- Single Tokens
------------------------------------------------------------

def isMark (m : String) : Parse Bool := do
  match ← token with
  | .mark t => return t == m
  | _ => return false

def isWord (w : String) : Parse Bool := do
  match ← token with
  | .word t escaped => return t == w && !escaped
  | _ => return false

/-
  Takes a mark if it is there.
-/
def eat (m : String) : Parse Bool := do
  if ← isMark m then
    advance
    return true
  else
    return false

def expect (m : String) : Parse Unit := do
  require (← eat m)

def eatWord (w : String) : Parse Bool := do
  if ← isWord w then
    advance
    return true
  else
    return false

def expectWord (w : String) : Parse Unit := do
  require (← eatWord w)

def newlineBefore : Parse Bool := do return (← current).newline

/-
  The end of a statement: a semicolon, which may be left out before a closing brace, at
  the end and where a line ends.
-/
def endStatement : Parse Unit := do
  if ← eat ";" then
    return
  match ← token with
  | .stop => return
  | .mark "\x7d" => return
  | _ => require (← newlineBefore)

/-
  The characters from a place up to the last token taken.
-/
def sourceFrom (start : List Char) : Parse String := do
  return String.ofList (Lexer.before start (← get).afterLast)

------------------------------------------------------------
-- Repetition
------------------------------------------------------------

/-
  Runs a step as long as it asks for more.  Each step takes a token at least, so the
  number of characters left is fuel enough.
-/
def iterate (step : α → Parse (α ⊕ β)) : Nat → α → Parse β
  | 0, _ => fail
  | fuel + 1, a => do
    match ← step a with
    | .inl a => iterate step fuel a
    | .inr b => return b

def loop (step : α → Parse (α ⊕ β)) (a : α) : Parse β := do
  iterate step ((← current).start.length + 2) a

/-
  Items up to a closing mark, which is taken.
-/
def itemsUntil (close : String) (item : Parse α) : Parse (List α) :=
  loop
    (fun done => do
      if ← eat close then
        return .inr done.reverse
      else
        return .inl ((← item) :: done))
    []

------------------------------------------------------------
-- Words with a Fixed Meaning
------------------------------------------------------------

def reservedWords : List String :=
  [ "break", "case", "catch", "class", "const", "continue", "debugger", "default", "delete"
  , "do", "else", "enum", "export", "extends", "false", "finally", "for", "function", "if"
  , "import", "in", "instanceof", "new", "null", "return", "super", "switch", "this", "throw"
  , "true", "try", "typeof", "var", "void", "while", "with" ]

/-
  The words that strict code reserves.
-/
def strictWords : List String :=
  [ "implements", "interface", "let", "package", "private", "protected", "public", "static"
  , "yield" ]

/-
  The words that have a meaning of their own only in some places.
-/
def placedWords : List String :=
  ["async", "await", "let", "of", "yield"]

/-
  Whether a word is a name wherever it stands.
-/
def isPlainWord (x : String) : Bool :=
  !(reservedWords.contains x || placedWords.contains x)

/-
  Whether a word can be a label, the only parameter of an arrow function, or the name of
  a class.
-/
def isLabelWord (x : String) : Bool :=
  isPlainWord x || x == "yield" || x == "await"

/-
  Whether a word can name something in a context.
-/
def canName (c : Context) (x : String) : Bool :=
  !(reservedWords.contains x
    || (c.isStrict && strictWords.contains x)
    || (c.inGenerator && x == "yield")
    || (c.inAsync && x == "await"))

/-
  Whether a name can be declared or assigned to in a context.
-/
def canBind (c : Context) (x : String) : Bool :=
  canName c x && !(c.isStrict && (x == "eval" || x == "arguments"))

/-
  Takes a word that names something.
-/
def identifier : Parse String := do
  match ← token with
  | .word x _ => do
    let c ← context
    require (canName c x && !(c.noArguments && x == "arguments"))
    advance
    return x
  | _ => fail

------------------------------------------------------------
-- Declared Names
------------------------------------------------------------

def hoistInto (x : String) : List Scope → Option (List Scope)
  | [] => some []
  | s :: rest =>
    if s.isChecked && s.locals.contains x then
      none
    else
      let s := { s with hoisted := x :: s.hoisted }
      if s.isFunction then some (s :: rest) else (hoistInto x rest).map (s :: ·)

/-
  Declares a name for the whole function.
-/
def declareHoisted (x : String) : Parse Unit := do
  let s ← get
  match hoistInto x s.scopes with
  | some scopes => set { s with scopes }
  | none => fail

/-
  Declares a name for the innermost block.
-/
def declareLocal (x : String) : Parse Unit := do
  let s ← get
  match s.scopes with
  | scope :: rest =>
    require !(scope.isChecked && (scope.locals.contains x || scope.hoisted.contains x))
    require !(scope.params.contains x)
    set { s with scopes := { scope with locals := x :: scope.locals } :: rest }
  | [] => fail

/-
  Declares a function, which is hoisted at the top of a function or script and local to
  a block otherwise.  Outside of strict code a block may declare a function again.
-/
def declareFunction (x : String) (isPlain : Bool) : Parse Unit := do
  let s ← get
  match s.scopes with
  | scope :: rest =>
    if scope.isFunction then
      require !(scope.isChecked && scope.locals.contains x)
      set { s with scopes := { scope with hoisted := x :: scope.hoisted } :: rest }
    else if isPlain && !s.context.isStrict && scope.functions.contains x then
      return
    else
      require !(scope.locals.contains x || scope.hoisted.contains x || scope.params.contains x)
      let functions := if isPlain then x :: scope.functions else scope.functions
      let scope := { scope with locals := x :: scope.locals, functions }
      set { s with scopes := scope :: rest }
  | [] => fail

/-
  Runs a reader in a scope of its own.
-/
def inScope (scope : Scope) (p : Parse α) : Parse α := do
  modify fun s => { s with scopes := scope :: s.scopes }
  let a ← p
  modify fun s => { s with scopes := s.scopes.drop 1 }
  return a

/-
  Runs a reader whose result is not going to become a pattern.
-/
def settled (p : Parse α) : Parse α := do
  let s ← get
  set { s with needsPattern := false, noPattern := false }
  let a ← p
  require !(← get).needsPattern
  modify fun t => { t with needsPattern := s.needsPattern, noPattern := s.noPattern }
  return a

end Parse

end Script

end Devirt
