/-
  Telling the code of a script from its literals and comments.

  The scanner reads the bytes of a script once, in one of a few modes, and says of each
  byte whether it is code.  The quotes of a string and the slashes of a regular
  expression are code, what stands between them is not, and no byte of a comment is.  A
  template counts as a string up to the next backtick.

  Whether a slash begins a regular expression hangs on the last significant byte before
  it: what it follows must not be a complete operand.

  Key definitions include:
    * `Scanner.Mode`
    * `Scanner.step`, `Scanner.run`
    * `Scanner.flags`
-/

namespace Devirt

namespace Scanner

------------------------------------------------------------
-- Bytes
------------------------------------------------------------

def byte (c : Char) : UInt8 := c.toNat.toUInt8

def quoteDouble : UInt8 := byte '"'
def quoteSingle : UInt8 := byte '\''
def backtick : UInt8 := byte '`'
def backslash : UInt8 := byte '\\'
def slash : UInt8 := byte '/'
def asterisk : UInt8 := byte '*'
def lineFeed : UInt8 := 10
def carriageReturn : UInt8 := 13

def isQuote (b : UInt8) : Bool :=
  b == quoteDouble || b == quoteSingle || b == backtick

/-
  Blank, tab, line feed, form feed and carriage return.
-/
def isSpace (b : UInt8) : Bool :=
  b == 32 || b == 9 || b == 10 || b == 12 || b == 13

/-
  The ASCII bytes of identifiers.
-/
def isIdentifier (b : UInt8) : Bool :=
  (byte 'a' ≤ b && b ≤ byte 'z') || (byte 'A' ≤ b && b ≤ byte 'Z')
    || (byte '0' ≤ b && b ≤ byte '9') || b == byte '_' || b == byte '$'

def bytesOf (s : String) : List UInt8 :=
  s.toUTF8.toList

------------------------------------------------------------
-- Regular Expressions or Divisions
------------------------------------------------------------

/-
  Punctuation after which an operand is still to come.
-/
def openers : List UInt8 :=
  [ '(', ',', '=', ':', '[', '!', '&', '|', '?', '{', '}', ';', '+', '-', '*', '%', '<', '>'
  , '~', '^' ].map byte

/-
  Keywords after which an operand is still to come.
-/
def openingWords : List (List UInt8) :=
  [ "return", "typeof", "case", "in", "of", "void", "delete", "throw", "new", "else", "do"
  , "yield" ].map bytesOf

/-
  Whether a slash may begin a regular expression after the given bytes, which are in
  reverse order and end with the last significant one.
-/
def regexAllowed : Option (List UInt8) → Bool
  | none => true
  | some [] => true
  | some (b :: before) =>
    if openers.contains b then
      true
    else if isIdentifier b then
      openingWords.contains ((b :: before).takeWhile isIdentifier).reverse
    else
      false

/-
  The number of bytes between the slashes of a regular expression, given what follows
  the first slash.  The expression must be closed on its line outside of a class, and
  must not be empty.
-/
def regexLength? : (inClass escaped : Bool) → Nat → List UInt8 → Option Nat
  | _, _, _, [] => none
  | inClass, true, n, _ :: rest => regexLength? inClass false (n + 1) rest
  | inClass, false, n, b :: rest =>
    if b == backslash then
      regexLength? inClass true (n + 1) rest
    else if b == lineFeed || b == carriageReturn then
      none
    else if b == byte '[' then
      regexLength? true false (n + 1) rest
    else if b == byte ']' then
      regexLength? false false (n + 1) rest
    else if b == slash && !inClass then
      if n = 0 then none else some n
    else
      regexLength? inClass false (n + 1) rest

------------------------------------------------------------
-- Modes
------------------------------------------------------------

/-
  What the next byte belongs to.
-/
inductive Mode where
  /- code outside of every literal and comment -/
  | top
  /- the body of a string closed by the given quote -/
  | quoted (close : UInt8)
  /- the byte after a backslash in such a body -/
  | escaped (close : UInt8)
  | lineComment
  /- a block comment; the flag tells that an asterisk has just been read -/
  | blockComment (star : Bool)
  /- a regular expression with so many bytes left before its closing slash -/
  | regex (left : Nat)
  deriving DecidableEq, Repr

/-
  The state between two bytes: the mode, and the bytes up to the last significant one
  in reverse order, if there has been one.
-/
structure State where
  mode : Mode
  last : Option (List UInt8)
  deriving DecidableEq, Repr

def State.initial : State := ⟨.top, none⟩

/-
  One byte at the top level.  The arguments are the bytes before it in reverse order,
  the byte itself and the bytes after it.
-/
def stepTop
    (last : Option (List UInt8))
    (before : List UInt8)
    (b : UInt8)
    (after : List UInt8) :
    Bool × State :=
  if isQuote b then
    (true, ⟨.quoted b, last⟩)
  else if b == slash && after.head? == some slash then
    (false, ⟨.lineComment, last⟩)
  else if b == slash && after.head? == some asterisk then
    (false, ⟨.blockComment false, last⟩)
  else if b == slash && regexAllowed last then
    match regexLength? false false 0 after with
    | some n => (true, ⟨.regex n, last⟩)
    | none => (true, ⟨.top, some (b :: before)⟩)
  else if isSpace b then
    (true, ⟨.top, last⟩)
  else
    (true, ⟨.top, some (b :: before)⟩)

/-
  One byte: whether it is code, and the state after it.
-/
def step
    (s : State)
    (before : List UInt8)
    (b : UInt8)
    (after : List UInt8) :
    Bool × State :=
  match s.mode with
  | .top => stepTop s.last before b after
  | .quoted q =>
    if b == q then
      (true, ⟨.top, some (b :: before)⟩)
    else if b == backslash then
      (false, ⟨.escaped q, s.last⟩)
    else if b == lineFeed && q != backtick then
      (true, ⟨.top, some (b :: before)⟩)
    else
      (false, ⟨.quoted q, s.last⟩)
  | .escaped q => (false, ⟨.quoted q, s.last⟩)
  | .lineComment =>
    if b == lineFeed then stepTop s.last before b after else (false, s)
  | .blockComment star =>
    if b == slash && star then
      (false, ⟨.top, s.last⟩)
    else
      (false, ⟨.blockComment (b == asterisk), s.last⟩)
  | .regex 0 => (true, ⟨.top, some (b :: before)⟩)
  | .regex (n + 1) => (false, ⟨.regex n, s.last⟩)

/-
  The flags of the bytes that are left, from a state and the bytes before them in
  reverse order.
-/
def run : State → List UInt8 → List UInt8 → List Bool
  | _, _, [] => []
  | s, before, b :: after =>
    let (code, next) := step s before b after
    code :: run next (b :: before) after

/-
  For each byte of a script, whether it is code.
-/
def flags (bytes : List UInt8) : List Bool :=
  run State.initial [] bytes

end Scanner

end Devirt
