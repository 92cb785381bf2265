import Devirt.Yaml.Basic
import Devirt.Json.Reader

/-
  Reading YAML scalars.

  A line end inside a plain or quoted scalar is folded: one alone becomes a blank, and of
  several the first is dropped.  A block scalar keeps the text of its lines behind their
  indentation.

  Key definitions include:
    * `Yaml.readPlain`
    * `Yaml.readSingle` and `Yaml.readDouble`
    * `Yaml.readBlock`
-/

namespace Devirt

namespace Yaml

open Json (hexDigit?)

------------------------------------------------------------
-- Folding
------------------------------------------------------------

/-
  Line ends in the middle of a scalar.  Only a line feed is folded.
-/
def foldBreaks : List Char → List Char
  | ['\n'] => [' ']
  | '\n' :: more => more
  | breaks => breaks

/-
  Blanks and line ends in the middle of a scalar: the blanks before the first line end,
  the line ends, and the place behind.  A tab is refused before the column where the
  text of a new line may begin.
-/
def readGap
    (least : Nat) :
    (line column : Nat) → List Char → Option (List Char × List Char × Place)
  | line, column, [] => some ([], [], ⟨[], line, column⟩)
  | line, column, c :: cs =>
    if isBreak c then
      (breaks (line + 1) 0 cs).map fun (bs, p) => ([], c :: bs, p)
    else if isSpace c then
      (readGap least line (column + 1) cs).map fun (ss, bs, p) => (c :: ss, bs, p)
    else
      some ([], [], ⟨c :: cs, line, column⟩)
where
  breaks : (line column : Nat) → List Char → Option (List Char × Place)
    | line, column, [] => some ([], ⟨[], line, column⟩)
    | line, column, c :: cs =>
      if isBreak c then
        (breaks (line + 1) 0 cs).map fun (bs, p) => (c :: bs, p)
      else if c == ' ' || (c == '\t' && least ≤ column) then
        breaks line (column + 1) cs
      else if c == '\t' then
        none
      else
        some ([], ⟨c :: cs, line, column⟩)

------------------------------------------------------------
-- Plain Scalars
------------------------------------------------------------

def isFlowIndicator (c : Char) : Bool :=
  [',', '[', ']', '{', '}'].contains c

def isIndicator (c : Char) : Bool :=
  isFlowIndicator c
    || ['-', '?', ':', '#', '&', '*', '!', '|', '>', '\'', '"', '%', '@', '\x60'].contains c

/-
  Whether a plain scalar may begin here.
-/
def startsPlain (inFlow : Bool) : List Char → Bool
  | [] => false
  | c :: rest =>
    (!isGap c && !isIndicator c)
      || (c == '-' && !(rest.head?.any isSpace))
      || (!inFlow && (c == '?' || c == ':') && !gapAhead rest)

/-
  The characters of a plain scalar up to the next blank, and what follows them.
-/
def plainWord (inFlow : Bool) : List Char → Option (List Char × List Char)
  | [] => some ([], [])
  | c :: cs =>
    if isGap c then
      some ([], c :: cs)
    else if inFlow && c == ':' && (cs.head?.any fun d => isFlowIndicator d || d == '?') then
      none
    else if (c == ':' && gapAhead cs) || (inFlow && isFlowIndicator c) then
      some ([], c :: cs)
    else
      (plainWord inFlow cs).map fun (word, rest) => (c :: word, rest)

/-
  A plain scalar: its text, the place behind it, and whether a line has ended in between.
  Outside of brackets the lines of a scalar begin at the column `least` or behind it.
-/
def plainFrom
    (inFlow : Bool)
    (least : Nat) :
    Nat → List Char → Bool → Place → Option (List Char × Place × Bool)
  | 0, _, _, _ => none
  | fuel + 1, gap, fresh, p =>
    if p.atMarker '-' || p.atMarker '.' || p.rest.head? == some '#' then
      some ([], p, fresh)
    else
      match plainWord inFlow p.rest with
      | none => none
      | some ([], _) => some ([], p, fresh)
      | some (word, rest) =>
        match readGap least p.line (p.column + word.length) rest with
        | none => none
        | some (spaces, breaks, after) =>
          let again :=
            if spaces.isEmpty && breaks.isEmpty then
              some ([], after, false)
            else if !inFlow && after.column < least then
              some ([], after, !breaks.isEmpty)
            else
              plainFrom inFlow least fuel
                (if breaks.isEmpty then spaces else foldBreaks breaks) (!breaks.isEmpty) after
          again.map fun (text, rest) => (gap ++ word ++ text, rest)

def readPlain (inFlow : Bool) (least : Nat) (p : Place) : Option (String × Place × Bool) :=
  (plainFrom inFlow least (p.rest.length + 1) [] false p).map
    fun (text, rest) => (String.ofList text, rest)

------------------------------------------------------------
-- Quoted Scalars
------------------------------------------------------------

/-
  The text of blanks and line ends inside quotes, and the place behind them.
-/
def quotedGap (p : Place) : Option (List Char × Place) :=
  (readGap 0 p.line p.column p.rest).map fun (spaces, breaks, after) =>
    (if breaks.isEmpty then spaces else foldBreaks breaks, after)

/-
  The rest of a scalar in single quotes; a quote inside is written twice.
-/
def singleBody : Nat → List Char → Place → Option (String × Place)
  | 0, _, _ => none
  | fuel + 1, done, p =>
    if p.atMarker '-' || p.atMarker '.' then
      none
    else
      match p.rest with
      | [] => none
      | '\'' :: '\'' :: _ => singleBody fuel ('\'' :: done) (p.skip 2)
      | '\'' :: _ => some (String.ofList done.reverse, p.skip 1)
      | c :: _ =>
        if isGap c then
          match quotedGap p with
          | some (gap, after) => singleBody fuel (gap.reverse ++ done) after
          | none => none
        else
          singleBody fuel (c :: done) (p.skip 1)

def readSingle (p : Place) : Option (String × Place) :=
  singleBody (p.rest.length + 1) [] (p.skip 1)

/-
  The character with a number written in so many hexadecimal digits.
-/
def hexEscape (width : Nat) (rest : List Char) : Option (Char × Nat) := do
  let digits := rest.take width
  let n ← digits.foldlM (fun n c => (hexDigit? c).map (16 * n + ·)) 0
  if digits.length == width && n.isValidChar then some (Char.ofNat n, width + 2) else none

/-
  The character named after a backslash, and how many characters its name has with the
  backslash.
-/
def escape : List Char → Option (Char × Nat)
  | '0' :: _ => some ('\x00', 2)
  | 'a' :: _ => some ('\x07', 2)
  | 'b' :: _ => some ('\x08', 2)
  | 't' :: _ => some ('\t', 2)
  | '\t' :: _ => some ('\t', 2)
  | 'n' :: _ => some ('\n', 2)
  | 'v' :: _ => some ('\x0b', 2)
  | 'f' :: _ => some ('\x0c', 2)
  | 'r' :: _ => some ('\r', 2)
  | 'e' :: _ => some ('\x1b', 2)
  | ' ' :: _ => some (' ', 2)
  | '"' :: _ => some ('"', 2)
  | '/' :: _ => some ('/', 2)
  | '\\' :: _ => some ('\\', 2)
  | 'N' :: _ => some ('\u0085', 2)
  | '_' :: _ => some ('\u00a0', 2)
  | 'L' :: _ => some ('\u2028', 2)
  | 'P' :: _ => some ('\u2029', 2)
  | 'x' :: rest => hexEscape 2 rest
  | 'u' :: rest => hexEscape 4 rest
  | 'U' :: rest => hexEscape 8 rest
  | _ => none

/-
  What follows a backslash at the end of a line: the line end itself is left out.
-/
def continuedLine (p : Place) : Option (List Char × Place) :=
  (readGap.breaks 0 p.line p.column p.rest)

/-
  The rest of a scalar in double quotes.
-/
def doubleBody : Nat → List Char → Place → Option (String × Place)
  | 0, _, _ => none
  | fuel + 1, done, p =>
    if p.atMarker '-' || p.atMarker '.' then
      none
    else
      match p.rest with
      | [] => none
      | '"' :: _ => some (String.ofList done.reverse, p.skip 1)
      | '\\' :: rest =>
        if rest.head?.any isBreak then
          match continuedLine (p.skip 1).next with
          | some (breaks, after) => doubleBody fuel (breaks.reverse ++ done) after
          | none => none
        else
          match escape rest with
          | some (c, width) => doubleBody fuel (c :: done) (p.skip width)
          | none => none
      | c :: _ =>
        if isGap c then
          match quotedGap p with
          | some (gap, after) => doubleBody fuel (gap.reverse ++ done) after
          | none => none
        else
          doubleBody fuel (c :: done) (p.skip 1)

def readDouble (p : Place) : Option (String × Place) :=
  doubleBody (p.rest.length + 1) [] (p.skip 1)

------------------------------------------------------------
-- Block Scalars
------------------------------------------------------------

/-
  What becomes of the line ends behind a block scalar: all are dropped, the first is
  kept, or all are kept.
-/
inductive Chomping where
  | strip
  | clip
  | keep
  deriving DecidableEq, Repr

def chomping? : List Char → Option (Chomping × List Char)
  | '-' :: rest => some (.strip, rest)
  | '+' :: rest => some (.keep, rest)
  | _ => none

def indentHint? : List Char → Option (Nat × List Char)
  | c :: rest => if '1' ≤ c && c ≤ '9' then some (c.toNat - '0'.toNat, rest) else none
  | [] => none

/-
  The signs behind the bar of a block scalar: chomping and indentation in either order.
-/
def readHints (cs : List Char) : Chomping × Option Nat × List Char :=
  match chomping? cs with
  | some (chomping, rest) =>
    match indentHint? rest with
    | some (n, rest) => (chomping, some n, rest)
    | none => (chomping, none, rest)
  | none =>
    match indentHint? cs with
    | some (n, rest) =>
      match chomping? rest with
      | some (chomping, rest) => (chomping, some n, rest)
      | none => (.clip, some n, rest)
    | none => (.clip, none, cs)

/-
  Behind the signs only a comment may stand; gives what follows the line end.
-/
def skipHeaderEnd (cs : List Char) : Option (List Char) :=
  let cs := cs.dropWhile isSpace
  let cs := if cs.head? == some '#' then cs.dropWhile fun c => !isBreak c else cs
  match cs with
  | [] => some []
  | c :: rest => if isBreak c then some rest else none

/-
  Blank lines and the indentation of the next line, up to the column `indent` if that is
  known; gives the line ends, the deepest indentation, and the place behind.
-/
def blankLines
    (indent : Option Nat) :
    (deepest line column : Nat) → List Char → Option (List Char × Nat × Place)
  | deepest, line, column, [] => some ([], max deepest column, ⟨[], line, column⟩)
  | deepest, line, column, c :: cs =>
    let inside := indent.all (column < ·)
    if c == ' ' && inside then
      blankLines indent deepest line (column + 1) cs
    else if c == '\t' && inside then
      none
    else if isBreak c then
      (blankLines indent (max deepest column) (line + 1) 0 cs).map
        fun (breaks, r) => (c :: breaks, r)
    else
      some ([], max deepest column, ⟨c :: cs, line, column⟩)

/-
  The line ends between two lines of text.  A folded scalar folds them between lines that
  begin with no blank.
-/
def joinLines (fold : Bool) (lineEnd blanks : List Char) : List Char :=
  if fold && lineEnd == ['\n'] then
    if blanks.isEmpty then [' '] else blanks
  else
    lineEnd ++ blanks

/-
  The lines of a block scalar: the text up to the last line, the end of that line, the
  blank lines behind it, and the place behind all.
-/
def blockLines
    (folded : Bool)
    (indent : Nat) :
    Nat → (afterBlank : Bool) → (lineEnd blanks : List Char) → Place →
      Option (List Char × List Char × List Char × Place)
  | 0, _, _, _, _ => none
  | fuel + 1, afterBlank, lineEnd, blanks, p =>
    if p.column != indent || p.rest.isEmpty then
      some ([], lineEnd, blanks, p)
    else
      let startsBlank := p.rest.head?.any isSpace
      let lead := joinLines (folded && !afterBlank && !startsBlank) lineEnd blanks
      let text := p.rest.takeWhile fun c => !isBreak c
      let rest := p.rest.dropWhile fun c => !isBreak c
      match blankLines (some indent) 0 (p.line + 1) 0 (rest.drop 1) with
      | none => none
      | some (more, _, after) =>
        (blockLines folded indent fuel startsBlank (rest.take 1) more after).map
          fun (t, r) => (lead ++ text ++ t, r)

/-
  A block scalar, from its bar on, inside a block whose lines begin before the column
  `least`.
-/
def readBlock (folded : Bool) (least : Nat) (p : Place) : Option (String × Place) := do
  let (chomping, hint, rest) := readHints (p.rest.drop 1)
  let rest ← skipHeaderEnd rest
  let given := hint.map (least - 1 + ·)
  let (blanks, deepest, start) ← blankLines given 0 (p.line + 1) 0 rest
  let indent := given.getD (max deepest (max least 1))
  let (text, lineEnd, more, after) ←
    blockLines folded indent (start.rest.length + 1) false [] blanks start
  let tail := match chomping with
    | .strip => []
    | .clip => lineEnd
    | .keep => lineEnd ++ more
  pure (String.ofList (text ++ tail), after)

end Yaml

end Devirt
