/-
  Regular expressions of scripts, as trees.

  Key definitions include:
    * `Regexp.Node`
    * `Regexp.Flags`
    * `Regexp`
-/

namespace Devirt

namespace Script

namespace Regexp

/-
  Characters are numbers: units, or code points under the flags `u` and `v`.  The flags
  `i`, `m` and `s` can change from group to group, so the nodes that depend on them say
  whether they are set.
-/
inductive Node where
  | empty
  | char (n : Nat) (ignoreCase : Bool)
  /- any character, line ends apart unless asked for -/
  | any (dotAll : Bool)
  | set (ranges : List (Nat × Nat)) (isNegated ignoreCase : Bool)
  | seq (a b : Node)
  | alt (a b : Node)
  /- a remembered group -/
  | group (index : Nat) (a : Node)
  /- a repetition, with the groups inside it, which each round forgets -/
  | many (a : Node) (least : Nat) (most : Option Nat) (isGreedy : Bool) (firstGroup groups : Nat)
  | recall (index : Nat) (ignoreCase : Bool)
  /- the beginning and the end, of each line if asked for -/
  | start (multiline : Bool)
  | stop (multiline : Bool)
  | edge (isNegated : Bool)
  | look (isBehind isNegated : Bool) (a : Node)
  deriving Repr, Inhabited

structure Flags where
  indices : Bool := false
  isGlobal : Bool := false
  ignoreCase : Bool := false
  multiline : Bool := false
  dotAll : Bool := false
  isUnicode : Bool := false
  isSets : Bool := false
  isSticky : Bool := false
  deriving DecidableEq, Repr, Inhabited

/-
  Sets the flag with a letter; each may be set only once.
-/
def Flags.add (f : Flags) : Char → Option Flags
  | 'd' => if f.indices then none else some { f with indices := true }
  | 'g' => if f.isGlobal then none else some { f with isGlobal := true }
  | 'i' => if f.ignoreCase then none else some { f with ignoreCase := true }
  | 'm' => if f.multiline then none else some { f with multiline := true }
  | 's' => if f.dotAll then none else some { f with dotAll := true }
  | 'u' => if f.isUnicode || f.isSets then none else some { f with isUnicode := true }
  | 'v' => if f.isUnicode || f.isSets then none else some { f with isSets := true }
  | 'y' => if f.isSticky then none else some { f with isSticky := true }
  | _ => none

def Flags.ofText? (s : String) : Option Flags :=
  s.toList.foldlM Flags.add {}

/-
  Whether characters are code points.
-/
def Flags.byCodePoint (f : Flags) : Bool :=
  f.isUnicode || f.isSets

end Regexp

/-
  A regular expression: its tree, the number of its groups and their names.
-/
structure Regexp where
  node : Regexp.Node
  groups : Nat
  names : List (String × Nat)
  flags : Regexp.Flags
  deriving Repr, Inhabited

end Script

end Devirt
