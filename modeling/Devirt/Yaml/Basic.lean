/-
  YAML nodes, and places in a text.

  A node keeps the style in which a scalar was written and the tag in front of it, since
  both decide what the scalar may stand for.  Aliases are replaced by the nodes they name.

  A place knows its line and column, because blocks are told apart by the columns of
  their lines, and because the key of a mapping must stand on one line.

  Key definitions include:
    * `Yaml`, `Yaml.Style`
    * `Yaml.Place`
    * `Yaml.Place.skipGap`, the way to the next token
-/

namespace Devirt

------------------------------------------------------------
-- Nodes
------------------------------------------------------------

inductive Yaml.Style where
  | plain
  | quoted
  | literal
  | folded
  deriving DecidableEq, Repr, Inhabited

/-
  A node.  An alias inside the very node that it names stands for a node without end.
-/
inductive Yaml where
  | scalar (style : Yaml.Style) (tag : Option String) (text : String)
  | sequence (tag : Option String) (items : List Yaml)
  | mapping (tag : Option String) (entries : List (Yaml × Yaml))
  | endless
  deriving Repr, BEq, Inhabited

namespace Yaml

/-
  The node that stands where nothing is written.
-/
def empty (tag : Option String) : Yaml := .scalar .plain tag ""

/-
  The same node with the given tag, unless that is missing.
-/
def withTag (tag : Option String) : Yaml → Yaml
  | .scalar style own text => .scalar style (tag.orElse fun _ => own) text
  | .sequence own items => .sequence (tag.orElse fun _ => own) items
  | .mapping own entries => .mapping (tag.orElse fun _ => own) entries
  | .endless => .endless

------------------------------------------------------------
-- Characters
------------------------------------------------------------

/-
  What ends a line, once the ends of lines are made uniform.
-/
def isBreak (c : Char) : Bool :=
  c == '\n' || c == '\u2028' || c == '\u2029'

def isSpace (c : Char) : Bool := c == ' ' || c == '\t'

def isGap (c : Char) : Bool := isSpace c || isBreak c

/-
  Whether a token ends here: at a blank, at the end of a line or of the text.
-/
def gapAhead : List Char → Bool
  | [] => true
  | c :: _ => isGap c

/-
  The characters that a document may contain.
-/
def isAllowed (c : Char) : Bool :=
  let n := c.toNat
  n == 0x09 || n == 0x0A || n == 0x0D || (0x20 ≤ n && n ≤ 0x7E) || n == 0x85
    || (0xA0 ≤ n && n ≤ 0xFFFD) || 0x10000 ≤ n

/-
  Line feeds in the place of carriage returns, alone or followed by a line feed, and of
  the character for the next line.
-/
def uniformBreaks : List Char → List Char
  | [] => []
  | '\r' :: '\n' :: rest => '\n' :: uniformBreaks rest
  | c :: rest => (if c == '\r' || c == '\u0085' then '\n' else c) :: uniformBreaks rest

------------------------------------------------------------
-- Places
------------------------------------------------------------

structure Place where
  rest : List Char
  line : Nat := 0
  column : Nat := 0
  deriving Repr, Inhabited

namespace Place

/-
  The place behind the next character.
-/
def next (p : Place) : Place :=
  match p.rest with
  | [] => p
  | c :: cs => if isBreak c then ⟨cs, p.line + 1, 0⟩ else ⟨cs, p.line, p.column + 1⟩

/-
  The place behind so many characters of the same line.
-/
def skip (n : Nat) (p : Place) : Place :=
  ⟨p.rest.drop n, p.line, p.column + n⟩

/-
  Whether a character that must be followed by a blank stands here.
-/
def atIndicator (c : Char) (p : Place) : Bool :=
  match p.rest with
  | d :: rest => d == c && gapAhead rest
  | [] => false

/-
  Whether a line here divides documents: it begins with three dashes or three points.
-/
def atMarker (mark : Char) (p : Place) : Bool :=
  p.column == 0 && [mark, mark, mark].isPrefixOf p.rest && gapAhead (p.rest.drop 3)

/-
  Whether the document ends here.
-/
def atEnd (p : Place) : Bool :=
  p.rest.isEmpty || p.atMarker '-' || p.atMarker '.'

/-
  Skips blanks, comments and the ends of lines, and says whether a key may begin behind
  them.  Outside of brackets a new line may begin a key, and no tab may stand where a key
  may begin.
-/
def skipGapFrom
    (inFlow : Bool) :
    (keyAllowed inComment : Bool) → (line column : Nat) → List Char → Place × Bool
  | keyAllowed, _, line, column, [] => (⟨[], line, column⟩, keyAllowed)
  | keyAllowed, inComment, line, column, c :: cs =>
    if isBreak c then
      skipGapFrom inFlow (keyAllowed || !inFlow) false (line + 1) 0 cs
    else if inComment || c == ' ' || (c == '\t' && (inFlow || !keyAllowed)) then
      skipGapFrom inFlow keyAllowed inComment line (column + 1) cs
    else if c == '#' then
      skipGapFrom inFlow keyAllowed true line (column + 1) cs
    else
      (⟨c :: cs, line, column⟩, keyAllowed)

def skipGap (inFlow keyAllowed : Bool) (p : Place) : Place × Bool :=
  skipGapFrom inFlow keyAllowed false p.line p.column p.rest

end Place

end Yaml

end Devirt
