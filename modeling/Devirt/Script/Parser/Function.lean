import Devirt.Script.Parser.Target

/-
  The grammar of patterns, functions and classes.

  Constructs contain each other, so each reader takes a function `parse` that reads the
  constructs it contains; the knot is tied where a whole script is read.

  Key definitions include:
    * `Goal`
    * `Grammar.binder`, `Grammar.function`, `Grammar.klass`
-/

namespace Devirt

namespace Script

/-
  The constructs that contain others of their own kind.
-/
inductive Goal where
  | assignment
  | unary
  | exponent
  | leftSide
  | creation
  | binder
  /- a statement or declaration in a list -/
  | item
  /- a statement that is part of another -/
  | statement
  deriving DecidableEq, Repr

namespace Grammar

open Parse

------------------------------------------------------------
-- Expressions in General
------------------------------------------------------------

/-
  An expression without commas that is not going to become a pattern.
-/
def value (parse : Goal → Parse Tree) : Parse Tree :=
  settled (within (fun c => { c with allowIn := true }) (parse .assignment))

/-
  An expression with commas, which may still become a pattern.
-/
def coverExpression (parse : Goal → Parse Tree) : Parse Tree := do
  let first ← parse .assignment
  loop
    (fun e => do
      if ← eat "," then return .inl (.comma e (← parse .assignment)) else return .inr e)
    first

/-
  An expression with commas.
-/
def expression (parse : Goal → Parse Tree) : Parse Tree :=
  settled (within (fun c => { c with allowIn := true }) (coverExpression parse))

------------------------------------------------------------
-- Names of Members
------------------------------------------------------------

def keyText (x : String) : Tree := .node (.keyText (Units.ofString x)) []

/-
  The key of a member: a text, or an expression that computes it, to which numerals
  belong.
-/
def propertyKey (parse : Goal → Parse Tree) : Parse Tree := do
  match ← token with
  | .word x _ => advance; return keyText x
  | .string s isLegacy _ =>
    require !(isLegacy && (← isStrict))
    advance
    return .node (.keyText s) []
  | .number x isLegacy =>
    require !(isLegacy && (← isStrict))
    advance
    return .node .keyComputed [.number x]
  | .bigint n =>
    advance
    return .node .keyComputed [.node (.bigint n) []]
  | .mark "[" =>
    advance
    let e ← value parse
    expect "]"
    return .node .keyComputed [e]
  | _ => fail

------------------------------------------------------------
-- Patterns
------------------------------------------------------------

/-
  A name that is declared here.
-/
def bindingName : Parse String := do
  let c ← context
  let x ← identifier
  require (canBind c x)
  return x

/-
  A target with the default that may follow it.
-/
def withDefault (parse : Goal → Parse Tree) (target : Tree) : Parse Tree := do
  if ← eat "=" then return .defaulted target (← value parse) else return target

def element (parse : Goal → Parse Tree) : Parse Tree := do
  withDefault parse (← parse .binder)

/-
  The elements of a list pattern, after its opening bracket.
-/
def arrayBinder (parse : Goal → Parse Tree) : Parse Tree :=
  loop
    (fun (done : List Tree) => do
      let finish := fun (ps : List Tree) => Tree.node .arrayPattern ps.reverse
      if ← eat "]" then
        return .inr (finish done)
      else if ← eat "," then
        return .inl (.absent :: done)
      else if ← eat "..." then
        let target ← parse .binder
        expect "]"
        return .inr (finish (.node .rest [target] :: done))
      else
        let e ← element parse
        if ← eat "]" then
          return .inr (finish (e :: done))
        else
          expect ","
          return .inl (e :: done))
    []

def propertyBinder (parse : Goal → Parse Tree) : Parse Tree := do
  let first ← token
  let key ← propertyKey parse
  if ← eat ":" then
    return .node (.propertyPattern false) [key, ← element parse]
  else
    match first with
    | .word x _ =>
      require (canBind (← context) x)
      return .node (.propertyPattern true) [key, ← withDefault parse (.name x)]
    | _ => fail

/-
  The properties of an object pattern, after its opening brace.
-/
def objectBinder (parse : Goal → Parse Tree) : Parse Tree :=
  loop
    (fun (done : List Tree) => do
      let finish := fun (ps : List Tree) => Tree.node .objectPattern ps.reverse
      if ← eat "\x7d" then
        return .inr (finish done)
      else if ← eat "..." then
        let x ← bindingName
        expect "\x7d"
        return .inr (finish (.node .rest [.name x] :: done))
      else
        let p ← propertyBinder parse
        if ← eat "\x7d" then
          return .inr (finish (p :: done))
        else
          expect ","
          return .inl (p :: done))
    []

/-
  What a declared value is bound to.
-/
def binder (parse : Goal → Parse Tree) : Parse Tree := do
  if ← eat "[" then arrayBinder parse
  else if ← eat "\x7b" then objectBinder parse
  else return .name (← bindingName)

------------------------------------------------------------
-- Parameters and Bodies
------------------------------------------------------------

/-
  The parameters of a function, with the parentheses around them.
-/
def params (parse : Goal → Parse Tree) : Parse (List Tree) := do
  expect "("
  loop
    (fun done => do
      if ← eat ")" then
        return .inr done.reverse
      else if ← eat "..." then
        let target ← parse .binder
        expect ")"
        return .inr (.node .rest [target] :: done).reverse
      else
        let p ← element parse
        if ← eat ")" then
          return .inr (p :: done).reverse
        else
          expect ","
          return .inl (p :: done))
    []

def hasRepeats (xs : List String) : Bool :=
  xs.eraseDups.length != xs.length

/-
  A numeral that was read before the code became strict stays as it is.
-/
def keepNumeral (l : Lexeme) : Lexeme :=
  match l.token with
  | .number x _ => { l with token := .number x false }
  | _ => l

/-
  Makes the rest of a body strict.  A numeral is settled when it is read, and the token
  after a directive without a semicolon has been read already.
-/
def becomeStrict (endsInMark : Bool) : Parse Unit :=
  modify fun s =>
    { s with
      current := if endsInMark then s.current else keepNumeral s.current
      context := { s.context with isStrict := true } }

/-
  The directives at the beginning of a body, one of which may make it strict.  Then the
  directives before it must not have escapes that strict code does not know.
-/
def directives (parse : Goal → Parse Tree) : Parse (List Tree) :=
  loop
    (fun (state : List Tree × Bool) => do
      let (done, hasLegacy) := state
      match ← token with
      | .string s isLegacy isPlain =>
        let before := (← get).taken
        let item ← parse .item
        match item with
        | .node .expression [.node (.string _) []] =>
          if isPlain && s == Units.ofString "use strict" then
            require !hasLegacy
            becomeStrict (before + 1 < (← get).taken)
          return .inl (item :: done, hasLegacy || isLegacy)
        | _ => return .inr (item :: done).reverse
      | _ => return .inr done.reverse)
    ([], false)

/-
  The statements of a body up to its closing brace, and whether a directive made it
  strict.
-/
def body (parse : Goal → Parse Tree) : Parse (List Tree × Bool) := do
  let before ← isStrict
  let first ← directives parse
  let after ← isStrict
  let rest ← itemsUntil "\x7d" (parse .item)
  return (first ++ rest, after && !before)

------------------------------------------------------------
-- Functions
------------------------------------------------------------

/-
  What a function is known to be before its parameters are read.
-/
structure Heading where
  kind : FunctionKind
  isAsync : Bool := false
  isGenerator : Bool := false
  name : Option String := none
  /- whether the function is a member of a class -/
  isMember : Bool := false
  /- the script from the beginning of the function on -/
  start : List Char

def Heading.context (h : Heading) (c : Context) : Context :=
  let isMethod := h.kind != .normal && h.kind != .arrow
  { c with
    inFunction := true
    inGenerator := h.isGenerator
    inAsync := h.isAsync
    allowIn := true
    allowNewTarget := h.kind != .arrow || c.allowNewTarget
    allowSuper := isMethod || (h.kind == .arrow && c.allowSuper)
    allowSuperCall := h.kind == .derivedConstructor || (h.kind == .arrow && c.allowSuperCall)
    noArguments := h.kind == .arrow && c.noArguments
    inParams := false
    inLoop := false
    inSwitch := false
    labels := [] }

/-
  Whether a function of a kind may have parameters of one name, if all are plain.
-/
def mayRepeat (kind : FunctionKind) (isStrict : Bool) : Bool :=
  match kind with
  | .normal => !isStrict
  | .constructor | .derivedConstructor => true
  | _ => false

def goodParams (h : Heading) (c : Context) (ps : List Tree) : Bool :=
  (ps.all Tree.isName && mayRepeat h.kind c.isStrict) || !hasRepeats (Tree.boundNamesOf ps)

/-
  The parameters that fit a heading.  Outside of classes a getter has none, and a setter
  has one that takes no rest.
-/
def paramsOf (parse : Goal → Parse Tree) (h : Heading) : Parse (List Tree) := do
  match if h.isMember then .method else h.kind with
  | .getter =>
    expect "("
    expect ")"
    return []
  | .setter =>
    expect "("
    let p ← element parse
    expect ")"
    return [p]
  | _ => params parse

def finish (h : Heading) (isStrict : Bool) (ps : List Tree) (body : List Tree) : Parse Tree := do
  let source ← sourceFrom h.start
  let usesArguments := Tree.anyMentionsArguments ps || Tree.anyMentionsArguments body
  let info : FunctionInfo :=
    { kind := h.kind
      isAsync := h.isAsync
      isGenerator := h.isGenerator
      isStrict
      name := h.name
      source
      usesArguments }
  return .function info ps body

/-
  The scope of a body, whose declarations may repeat each other.  Outside of classes
  they differ from the parameters.
-/
def bodyScope (h : Heading) (ps : List Tree) : Scope :=
  { isFunction := true
    isChecked := false
    params := if h.isMember then [] else Tree.boundNamesOf ps }

/-
  The body of a function whose parameters are known, from its opening brace on.
-/
def afterParams
    (parse : Goal → Parse Tree)
    (h : Heading)
    (ps : List Tree) :
    Parse Tree := do
  within h.context do
    expect "\x7b"
    let (statements, isStrictHere) ← inScope (bodyScope h ps) (body parse)
    let c ← context
    require (goodParams h c ps)
    require !(isStrictHere && !ps.all Tree.isName)
    finish h c.isStrict ps statements

/-
  The parameters and the body of a function.
-/
def function (parse : Goal → Parse Tree) (h : Heading) : Parse Tree := do
  let ps ← within (fun c => { h.context c with inParams := true })
    (inScope { isFunction := true } (paramsOf parse h))
  afterParams parse h ps

/-
  The body of an arrow function, which may be a single expression.
-/
def arrowBody
    (parse : Goal → Parse Tree)
    (h : Heading)
    (ps : List Tree) :
    Parse Tree := do
  require !(← newlineBefore)
  expect "=>"
  if ← isMark "\x7b" then
    afterParams parse h ps
  else
    let allowIn := (← context).allowIn
    within (fun c => { h.context c with allowIn }) do
      let c ← context
      require (goodParams h c ps)
      let e ← inScope { isFunction := true } (settled (parse .assignment))
      finish h c.isStrict ps [.node .giveBack [e]]

------------------------------------------------------------
-- Members
------------------------------------------------------------

/-
  Whether the token after the current one shows that the current word is a name and not
  a modifier.
-/
def namesMember : Parse Bool := do
  match ← peek? with
  | some l =>
    match l.token with
    | .mark m => return ["(", ",", "\x7d", "=", ":", ";"].contains m
    | .stop => return true
    | _ => return false
  | none => return true

/-
  What the modifiers before the name of a member say.
-/
structure Modifiers where
  isAsync : Bool := false
  isGenerator : Bool := false
  accessor : Option FunctionKind := none

def modifiers : Parse Modifiers := do
  if ← eat "*" then
    return { isGenerator := true }
  else if (← isWord "async") && !(← namesMember) then
    match ← peek? with
    | some l =>
      require !l.newline
      advance
      return { isAsync := true, isGenerator := ← eat "*" }
    | none => fail
  else if (← isWord "get") && !(← namesMember) then
    advance
    return { accessor := some .getter }
  else if (← isWord "set") && !(← namesMember) then
    advance
    return { accessor := some .setter }
  else
    return {}

def Modifiers.areNone (m : Modifiers) : Bool :=
  !m.isAsync && !m.isGenerator && m.accessor.isNone

def Modifiers.heading (m : Modifiers) (kind : FunctionKind) (start : List Char) : Heading :=
  { kind := m.accessor.getD kind, isAsync := m.isAsync, isGenerator := m.isGenerator, start }

------------------------------------------------------------
-- Classes
------------------------------------------------------------

/-
  A secret member that was declared: with the kind of accessor it is, if it is one.
-/
structure Secret where
  name : String
  accessor : Option FunctionKind
  isStatic : Bool

/-
  Whether a secret member may be declared after others of its name: only the two
  accessors of one member go together.
-/
def Secret.fits (s : Secret) (others : List Secret) : Bool :=
  match others.filter fun t => t.name == s.name with
  | [] => true
  | [t] =>
    s.accessor.isSome && t.accessor.isSome && s.accessor != t.accessor
      && s.isStatic == t.isStatic
  | _ => false

/-
  A class as far as it has been read.
-/
structure ClassSoFar where
  constructor : Tree := .absent
  members : List Tree := []
  secrets : List Secret := []

/-
  Adds a member to a class.
-/
def ClassSoFar.add
    (c : ClassSoFar)
    (m : Tree)
    (key : Tree)
    (accessor : Option FunctionKind)
    (isStatic : Bool) :
    Parse ClassSoFar := do
  let added := { c with members := m :: c.members }
  match key.label with
  | .keyPrivate name =>
    let s : Secret := { name, accessor, isStatic }
    require (s.fits c.secrets)
    return { added with secrets := s :: c.secrets }
  | _ => return added

def memberKey (parse : Goal → Parse Tree) : Parse Tree := do
  match ← token with
  | .secret x =>
    require (x != "constructor")
    advance
    return .node (.keyPrivate x) []
  | _ => propertyKey parse

def hasKey (x : String) (key : Tree) : Bool :=
  match key.label with
  | .keyText s => s == Units.ofString x
  | _ => false

def fieldContext (c : Context) : Context :=
  { c with
    allowSuper := true
    allowSuperCall := false
    allowNewTarget := true
    noArguments := true
    inFunction := false
    inAsync := false
    inGenerator := false
    allowIn := true
    inLoop := false
    inSwitch := false
    labels := [] }

/-
  The value of a field, or its absence.
-/
def fieldValue (parse : Goal → Parse Tree) : Parse Tree := do
  let v ← if ← eat "=" then within fieldContext (value parse) else pure .absent
  endStatement
  return v

/-
  The constructor of a class, after its name.
-/
def constructorAfter
    (parse : Goal → Parse Tree)
    (hasParent : Bool)
    (start : List Char)
    (soFar : ClassSoFar) :
    Parse ClassSoFar := do
  require (match soFar.constructor.label with
    | .absent => true
    | _ => false)
  let kind : FunctionKind := if hasParent then .derivedConstructor else .constructor
  let f ← function parse { kind, isMember := true, start }
  return { soFar with constructor := f }

/-
  A method or field, from its modifiers on.  The word `constructor` announces the
  constructor, while a string with the same text names a method.
-/
def classMember
    (parse : Goal → Parse Tree)
    (hasParent isStatic : Bool)
    (start : List Char)
    (soFar : ClassSoFar) :
    Parse ClassSoFar := do
  let m ← modifiers
  let isConstructor := !isStatic && (match ← token with
    | .word "constructor" _ => true
    | _ => false)
  let key ← memberKey parse
  if isConstructor then
    require m.areNone
    constructorAfter parse hasParent start soFar
  else if ← isMark "(" then
    require !(isStatic && hasKey "prototype" key)
    let f ← function parse { m.heading .method start with isMember := true }
    soFar.add (.node (.member isStatic) [key, f]) key m.accessor isStatic
  else
    require (m.areNone && !hasKey "constructor" key)
    require !(isStatic && hasKey "prototype" key)
    let v ← fieldValue parse
    soFar.add (.node (.field isStatic) [key, v]) key none isStatic

/-
  The statements that run when a class is defined.
-/
def staticBlock (parse : Goal → Parse Tree) : Parse Tree := do
  expect "\x7b"
  let statements ← within (fun c => { fieldContext c with inAsync := true })
    (inScope { isFunction := true } (itemsUntil "\x7d" (parse .item)))
  return .node .staticBlock statements

def classElement
    (parse : Goal → Parse Tree)
    (hasParent : Bool)
    (soFar : ClassSoFar) :
    Parse ClassSoFar := do
  let start := (← current).start
  if (← isWord "static") && !(← namesMember) then
    advance
    if ← isMark "\x7b" then
      let b ← staticBlock parse
      return { soFar with members := b :: soFar.members }
    else
      classMember parse hasParent true (← current).start soFar
  else
    classMember parse hasParent false start soFar

/-
  The members of a class up to its closing brace.  A secret member may only be used in a
  class that declares it.
-/
def classBody (parse : Goal → Parse Tree) (hasParent : Bool) : Parse ClassSoFar := do
  let outer := (← get).secretsUsed
  let isInner := (← context).inClass
  modify fun s => { s with secretsUsed := [] }
  let c ← within (fun c => { c with inClass := true }) (loop
    (fun soFar => do
      if ← eat "\x7d" then return .inr soFar
      else if ← eat ";" then return .inl soFar
      else return .inl (← classElement parse hasParent soFar))
    {})
  let unknown := (← get).secretsUsed.filter fun x =>
    !c.secrets.any fun s => s.name == x
  require (isInner || unknown.isEmpty)
  modify fun s => { s with secretsUsed := outer ++ unknown }
  return c

/-
  A class from the word that announces it on.
-/
def klass (parse : Goal → Parse Tree) (isNamed : Bool) : Parse Tree := do
  let start := (← current).start
  advance
  within (fun c => { c with isStrict := true }) do
    let hasName ← match ← token with
      | .word x _ => pure (isLabelWord x)
      | _ => pure false
    require (hasName || !isNamed)
    let x ← if hasName then some <$> bindingName else pure none
    let parent ← if ← eatWord "extends" then parse .leftSide else pure .absent
    expect "\x7b"
    let hasParent := match parent.label with
      | .absent => false
      | _ => true
    let c ← classBody parse hasParent
    return .klass x (← sourceFrom start) parent c.constructor c.members.reverse

end Grammar

end Script

end Devirt
