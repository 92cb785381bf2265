import Devirt.Source.Scanner
import Devirt.Text.Blank

/-
  The map of a script: each byte together with whether it is code.

  Searches in the map see only code.  The masked text blanks everything else and every
  byte that is not ASCII, one character a byte, so that offsets into it are offsets into
  the script.

  Three things can go wrong with a map.  Counting brackets from an offset that is not
  code can meet a closing bracket before any opening one, the script cannot be cut at an
  offset inside a character, and an offset can lie outside of the script; each is a
  `Fault`.

  Key definitions include:
    * `CodeMap`, `CodeMap.ofText`
    * `CodeMap.masked`
    * `CodeMap.keywordOffsets`
    * `CodeMap.matchingClose`, the usual `Closer`
    * `CodeMap.nextCode`
    * `CodeMap.slice`, `CodeMap.byteAt`, `CodeMap.bytesBetween`
-/

namespace Devirt

open Scanner

------------------------------------------------------------
-- Faults
------------------------------------------------------------

/-
  Ways in which work on the bytes of a script breaks off.
-/
inductive Fault where
  /- a closing bracket was met before any opening one -/
  | unbalanced
  /- a cut would fall inside a character -/
  | splitCharacter
  /- an offset is not one of the script -/
  | outside
  deriving DecidableEq, Repr

------------------------------------------------------------
-- Maps
------------------------------------------------------------

/-
  A byte of a script.
-/
structure Cell where
  byte : UInt8
  isCode : Bool
  deriving DecidableEq, Repr, Inhabited

structure CodeMap where
  cells : Array Cell
  deriving DecidableEq, Repr

namespace CodeMap

def ofBytes (bytes : List UInt8) : CodeMap :=
  ⟨(List.zipWith Cell.mk bytes (flags bytes)).toArray⟩

def ofText (s : String) : CodeMap :=
  ofBytes (bytesOf s)

def size (m : CodeMap) : Nat := m.cells.size

def bytes (m : CodeMap) : List UInt8 :=
  m.cells.toList.map (·.byte)

def byte? (m : CodeMap) (offset : Nat) : Option UInt8 :=
  m.cells[offset]?.map (·.byte)

/-
  The byte at an offset that the script must have.
-/
def byteAt (m : CodeMap) (offset : Nat) : Except Fault UInt8 :=
  match m.byte? offset with
  | some b => .ok b
  | none => .error .outside

/-
  The bytes between two offsets that the script must have.
-/
def bytesBetween (m : CodeMap) (start stop : Nat) : Except Fault (List UInt8) :=
  if start ≤ stop && stop ≤ m.size then
    .ok ((m.bytes.drop start).take (stop - start))
  else
    .error .outside

def isCode (m : CodeMap) (offset : Nat) : Bool :=
  match m.cells[offset]? with
  | some c => c.isCode
  | none => false

/-
  The character that stands for a byte in the masked text.
-/
def Cell.mask (c : Cell) : Char :=
  if c.isCode && c.byte < 128 then Char.ofNat c.byte.toNat else ' '

def masked (m : CodeMap) : List Char :=
  m.cells.toList.map Cell.mask

------------------------------------------------------------
-- Cutting
------------------------------------------------------------

/-
  A byte that continues a character.
-/
def isContinuation (b : UInt8) : Bool :=
  128 ≤ b && b < 192

/-
  An offset at which the script may be cut.
-/
def isBoundary (m : CodeMap) (offset : Nat) : Bool :=
  match m.byte? offset with
  | some b => !isContinuation b
  | none => offset == m.size

/-
  The text of some bytes that are known to be whole characters.
-/
def textOf (bs : List UInt8) : String :=
  (String.fromUTF8? ⟨bs.toArray⟩).getD ""

/-
  The part of the script between two offsets.
-/
def slice (m : CodeMap) (start stop : Nat) : Except Fault String :=
  if start ≤ stop && m.isBoundary start && m.isBoundary stop then
    .ok (textOf ((m.bytes.drop start).take (stop - start)))
  else
    .error .splitCharacter

------------------------------------------------------------
-- Keywords
------------------------------------------------------------

/-
  The offsets at which a word occurs, each search going on after the last occurrence.
  The second argument is the number of bytes still to be passed over.
-/
def occurrences (word : List UInt8) : Nat → Nat → List UInt8 → List Nat
  | _, _, [] => []
  | offset, skip + 1, _ :: rest => occurrences word (offset + 1) skip rest
  | offset, 0, b :: rest =>
    if Text.startsWith word (b :: rest) then
      offset :: occurrences word (offset + 1) (word.length - 1) rest
    else
      occurrences word (offset + 1) 0 rest

/-
  Whether the byte at an offset can be part of an identifier.
-/
def identifierAt (m : CodeMap) (offset : Nat) : Bool :=
  match m.byte? offset with
  | some b => isIdentifier b
  | none => false

/-
  Whether a word of the given length at an offset stands alone and begins with code.
-/
def standsAlone (m : CodeMap) (length offset : Nat) : Bool :=
  m.isCode offset && m.isBoundary offset
    && (offset == 0 || !m.identifierAt (offset - 1))
    && !m.identifierAt (offset + length)

/-
  The offsets at which a word stands alone in the code.
-/
def keywordOffsets (m : CodeMap) (word : String) : List Nat :=
  let bs := bytesOf word
  (occurrences bs 0 0 m.bytes).filter (m.standsAlone bs.length)

------------------------------------------------------------
-- Brackets
------------------------------------------------------------

/-
  A kind of bracket.
-/
inductive Bracket where
  | round
  | square
  | curly
  deriving DecidableEq, Repr

namespace Bracket

def opening : Bracket → UInt8
  | round => byte '('
  | square => byte '['
  | curly => byte '{'

def closing : Bracket → UInt8
  | round => byte ')'
  | square => byte ']'
  | curly => byte '}'

/-
  The kind of bracket that a byte opens.
-/
def ofOpening? (b : UInt8) : Option Bracket :=
  if b == byte '(' then some round
  else if b == byte '[' then some square
  else if b == byte '{' then some curly
  else none

end Bracket

/-
  Counts the brackets of one kind in the code and gives the offset at which the count
  comes back to zero.
-/
def closeFrom (k : Bracket) : Nat → Nat → List Cell → Except Fault (Option Nat)
  | _, _, [] => .ok none
  | offset, depth, c :: rest =>
    if c.isCode && c.byte == k.opening then
      closeFrom k (offset + 1) (depth + 1) rest
    else if c.isCode && c.byte == k.closing then
      match depth with
      | 0 => .error .unbalanced
      | 1 => .ok (some offset)
      | d + 2 => closeFrom k (offset + 1) (d + 1) rest
    else
      closeFrom k (offset + 1) depth rest

/-
  The offset of the bracket that closes the one at an offset.
-/
def matchingClose (m : CodeMap) (start : Nat) : Except Fault (Option Nat) :=
  match m.byte? start with
  | none => .ok none
  | some b =>
    match Bracket.ofOpening? b with
    | none => .ok none
    | some k => closeFrom k start 0 (m.cells.toList.drop start)

end CodeMap

/-
  A way to find the bracket that closes the one at an offset.
-/
abbrev Closer := CodeMap → Nat → Except Fault (Option Nat)

namespace CodeMap

/-
  The first offset in a list of cells at which a byte is code.
-/
def findCode (needle : UInt8) : Nat → List Cell → Option Nat
  | _, [] => none
  | offset, c :: rest =>
    if c.isCode && c.byte == needle then some offset else findCode needle (offset + 1) rest

/-
  The first offset from `start` on at which a byte is code.
-/
def nextCode (m : CodeMap) (start : Nat) (needle : UInt8) : Option Nat :=
  findCode needle start (m.cells.toList.drop start)

/-
  The first offset from `start` on that holds no blank.
-/
def skipSpace (m : CodeMap) (start : Nat) : Nat :=
  start + ((m.bytes.drop start).takeWhile isSpace).length

end CodeMap

end Devirt
