import Devirt.Script.Parser.Target

/-
  The names that statements declare.

  Key definitions include:
    * `Tree.hoistedNames`, declared for the whole function
    * `Tree.localNames`, declared for a block
    * `Tree.declaredFunctions`
-/

namespace Devirt

namespace Script

namespace Tree

/-
  Whether the statements inside a node belong to the same function.
-/
def isCompound (t : Tree) : Bool :=
  match t.label with
  | .block | .ifElse | .whileLoop | .doLoop | .forLoop | .forIn | .forOf _ | .withScope
  | .switch | .switchCase | .labelled _ | .attempt | .handler => true
  | _ => false

mutual

/-
  The names that a statement declares for the whole function, functions apart.
-/
def hoistedNames : Tree → List String
  | node l ps =>
    match l with
    | .declare .hoisted => boundNamesOf ps
    | _ => if isCompound (node l ps) then hoistedNamesOf ps else []

def hoistedNamesOf : List Tree → List String
  | [] => []
  | t :: ts => hoistedNames t ++ hoistedNamesOf ts

end

mutual

/-
  Whether a part of a pattern is an expression.
-/
def holdsExpression : Tree → Bool
  | node l ps =>
    match l with
    | .defaulted | .withDefault _ | .keyComputed => true
    | _ => anyHoldsExpression ps

def anyHoldsExpression : List Tree → Bool
  | [] => false
  | t :: ts => holdsExpression t || anyHoldsExpression ts

end

/-
  A name declared for a block, with whether it is constant.
-/
def localNames (statements : List Tree) : List (String × Bool) :=
  statements.flatMap fun t =>
    match t with
    | node (.declare .local) ds => (boundNamesOf ds).map (·, false)
    | node (.declare .constant) ds => (boundNamesOf ds).map (·, true)
    | node .declareClass [klass (some x) _ _ _ _] => [(x, false)]
    | _ => []

/-
  The function that a statement declares, perhaps behind labels.
-/
def declaredFunction? : Tree → Option (String × Tree)
  | node .declareFunction [node (.function info) ps] =>
    info.name.map fun x => (x, node (.function info) ps)
  | node (.labelled _) [t] => declaredFunction? t
  | _ => none

/-
  The functions that statements declare.
-/
def declaredFunctions (statements : List Tree) : List (String × Tree) :=
  statements.filterMap declaredFunction?

end Tree

end Script

end Devirt
