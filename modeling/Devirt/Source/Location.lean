/-
  Lines and columns of offsets into a text.

  Offsets count bytes.  Lines and columns count from one, a line ends with a line feed,
  and an offset beyond the end stands for the end.

  Key definitions include:
    * `Location`
    * `Location.ofOffset`
-/

namespace Devirt

/-
  A line and a column, both counted from one.
-/
structure Location where
  line : Nat
  column : Nat
  deriving DecidableEq, Repr

namespace Location

def lineFeed : UInt8 := 10

/-
  The bytes after the last line feed.
-/
def lastLine (before : List UInt8) : List UInt8 :=
  (before.reverse.takeWhile fun b => b != lineFeed).reverse

/-
  The location right after the given bytes.
-/
def after (before : List UInt8) : Location :=
  ⟨before.count lineFeed + 1, (lastLine before).length + 1⟩

/-
  The location of an offset into a text given by its bytes.
-/
def ofOffset (bytes : List UInt8) (offset : Nat) : Location :=
  after (bytes.take offset)

def describe (l : Location) : String :=
  "line " ++ toString l.line ++ ", column " ++ toString l.column

end Location

end Devirt
