import Devirt.Script.Parser.Statement

/-
  The reading of whole scripts.

  Key definitions include:
    * `Grammar.construct`, one step of the recursion between constructs
    * `Tree.parse?`
-/

namespace Devirt

namespace Script

namespace Grammar

/-
  Reads a construct, with a reader for the constructs in it.
-/
def construct (parse : Goal → Parse Tree) : Goal → Parse Tree
  | .assignment => assignment parse
  | .unary => unary parse
  | .exponent => exponent parse
  | .leftSide => leftSide parse
  | .creation => creation parse
  | .binder => binder parse
  | .item => item parse
  | .statement => statement parse

/-
  Reads a construct that is nested no deeper than a bound.
-/
def parseWithin : Nat → Goal → Parse Tree
  | 0, _ => Parse.fail
  | n + 1, goal => construct (parseWithin n) goal

/-
  The statements of a script up to its end.
-/
def program (parse : Goal → Parse Tree) : Parse Tree := do
  let first ← directives parse
  let rest ← Parse.loop
    (fun (done : List Tree) => do
      match ← Parse.token with
      | .stop => return .inr done.reverse
      | _ => return .inl ((← parse .item) :: done))
    []
  return .node (.program (← Parse.isStrict)) (first ++ rest)

end Grammar

namespace Tree

/-
  Constructs that contain each other without taking a token are at most so many.
-/
def nestingPerToken : Nat := 8

/-
  The tree of a script, if it is well formed.
-/
def parse? (code : String) : Option Tree := do
  let cs := Lexer.dropInterpreterLine code.toList
  let first ← Lexeme.next? cs
  let state : Parser.State :=
    { current := first
      afterLast := cs
      taken := 0
      arrowAt := 0
      context := {}
      scopes := [{ isFunction := true }]
      needsPattern := false
      noPattern := false
      secretsUsed := [] }
  let parse := Grammar.parseWithin (nestingPerToken * (cs.length + 2))
  let (tree, _) ← (Grammar.program parse).run state
  pure tree

end Tree

end Script

end Devirt
