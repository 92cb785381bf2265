import Devirt.Script.Parser.State

/-
  Expressions that turn out to be patterns.

  The left side of an assignment and the parameters of an arrow function are read as
  expressions, because only what follows tells what they are.  Here they are turned into
  patterns.

  Key definitions include:
    * `Tree.toPattern?`, the pattern of an assignment
    * `Tree.toParam?`, the parameter of an arrow function
    * `Tree.boundNames`, `Tree.suspends`
-/

namespace Devirt

namespace Script

namespace Tree

------------------------------------------------------------
-- Simple Targets
------------------------------------------------------------

/-
  An expression without the parentheses around it.
-/
def inner : Tree → Tree
  | node .paren [e] => inner e
  | t => t

def isMember (t : Tree) : Bool :=
  match t.label with
  | .select _ | .index | .selectPrivate _ | .selectSuper _ | .indexSuper => true
  | _ => false

def isPattern (t : Tree) : Bool :=
  match t.label with
  | .arrayPattern | .objectPattern => true
  | _ => false

/-
  A name or member to which a single value can be assigned.
-/
def simpleTarget? (c : Context) (t : Tree) : Option Tree :=
  match inner t with
  | name x => if Parse.canBind c x then some (name x) else none
  | e => if isMember e then some e else none

def isName (t : Tree) : Bool :=
  match t.label with
  | .name _ => true
  | _ => false

def isLiteral (t : Tree) : Bool :=
  match t.label with
  | .array => true
  | .object => true
  | _ => false

------------------------------------------------------------
-- Patterns
------------------------------------------------------------

/-
  Whether a name stands for the key of its own member.
-/
def namesItself (key : Tree) (x : String) : Bool :=
  match key.label with
  | .keyText s => s == Units.ofString x
  | _ => false

/-
  Whether the value of a property can become a target under its key.  A computed key is
  followed by a name, by a member, or by a default for something other than a name.
-/
def suitsKey (isStrict : Bool) (key value : Tree) : Bool :=
  let isText := match key.label with
    | .keyText _ => true
    | _ => false
  match value with
  | name x => !(isStrict && x == "eval" && namesItself key x)
  | assign _ (name x) _ => isText && !(isStrict && x == "eval" && namesItself key x)
  | assign _ _ _ => true
  | e => isMember e || (isText && isLiteral e)

/-
  What a property that stands for its own name becomes.
-/
def shortProperty (x : String) (target : Tree) : Tree :=
  node (.propertyPattern true) [node (.keyText (Units.ofString x)) [], target]

mutual

/-
  An element of a literal as an element of a pattern.
-/
def toElement? (isStrict : Bool) : Tree → Option Tree
  | node .array items => node .arrayPattern <$> toElements? isStrict items
  | node .object properties => node .objectPattern <$> toProperties? isStrict properties
  | node .spread [e] =>
    if isName e || isMember e || isLiteral e then
      (fun p => node .rest [p]) <$> toElement? isStrict e
    else
      none
  | node (.assign _) [target, value] => some (defaulted target value)
  | node .absent _ => some absent
  | t => if isName t || isMember t then some t else none

/-
  The elements of an array as those of a pattern, in which a rest comes last.
-/
def toElements? (isStrict : Bool) : List Tree → Option (List Tree)
  | [] => some []
  | t :: ts => do
    let fits := match t with
      | name x => !(isStrict && x == "arguments")
      | spread _ => ts.isEmpty
      | _ => true
    if fits then
      let p ← toElement? isStrict t
      pure (p :: (← toElements? isStrict ts))
    else
      none

/-
  A property of an object as a property of a pattern.
-/
def toProperty? (isStrict : Bool) : Tree → Option Tree
  | node (.shorthand x) _ =>
    if isStrict && x == "eval" then none else some (shortProperty x (name x))
  | node (.withDefault x) [e] =>
    if isStrict && (x == "eval" || x == "arguments") then none
    else some (shortProperty x (defaulted (name x) e))
  | node .property [key, value] =>
    if suitsKey isStrict key value then
      (fun p => node (.propertyPattern false) [key, p]) <$> toElement? isStrict value
    else
      none
  | node .spread [e] => if isName e || isMember e then some (node .rest [e]) else none
  | _ => none

/-
  The properties of an object as those of a pattern, in which a rest comes last.
-/
def toProperties? (isStrict : Bool) : List Tree → Option (List Tree)
  | [] => some []
  | t :: ts => do
    let fits := match t with
      | spread _ => ts.isEmpty
      | _ => true
    if fits then
      let p ← toProperty? isStrict t
      pure (p :: (← toProperties? isStrict ts))
    else
      none

end

/-
  The pattern that an array or object becomes.
-/
def toPattern? (isStrict : Bool) (t : Tree) : Option Tree :=
  if isLiteral t then toElement? isStrict t else none

/-
  The parameter that an expression in the head of an arrow function becomes.
-/
def toParam? (isStrict : Bool) (t : Tree) : Option Tree :=
  match t with
  | name x => if isStrict && x == "eval" then none else some (name x)
  | assign _ target value => if isMember target then none else some (defaulted target value)
  | t => toPattern? isStrict t

mutual

/-
  The names bound by a pattern.
-/
def boundNames : Tree → List String
  | node (.name x) _ => [x]
  | node .arrayPattern ps => boundNamesOf ps
  | node .objectPattern ps => boundNamesOf ps
  | node .rest ps => boundNamesOf ps
  | node (.propertyPattern _) (_ :: ps) => boundNamesOf ps
  | node .defaulted (t :: _) => boundNames t
  | node .declarator (t :: _) => boundNames t
  | _ => []

def boundNamesOf : List Tree → List String
  | [] => []
  | t :: ts => boundNames t ++ boundNamesOf ts

end

mutual

/-
  Whether an expression suspends the function in which it stands.
-/
def suspends : Tree → Bool
  | node .yield _ => true
  | node .yieldAll _ => true
  | node .await _ => true
  | node (.function _) _ => false
  | node _ parts => anySuspends parts

def anySuspends : List Tree → Bool
  | [] => false
  | t :: ts => suspends t || anySuspends ts

end

end Tree

end Script

end Devirt
