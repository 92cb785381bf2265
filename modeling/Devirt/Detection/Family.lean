import Devirt.Pattern.Basic

/-
  Families of obfuscated scripts.

  A script that names things `_0x…` and passes one of them to a function is the work of
  a common obfuscator; one that consists of six punctuation characters or begins with
  the definition of a digit table is an encoded script; any other is custom.

  Key definitions include:
    * `Family`
    * `Family.ofCode`
-/

namespace Devirt

inductive Family where
  | stringTable
  | sixCharacters
  | digitTable
  | custom
  deriving DecidableEq, Repr

namespace Family

open Pattern

def all : List Family :=
  [stringTable, sixCharacters, digitTable, custom]

def name : Family → String
  | stringTable => "obfuscator.io"
  | sixCharacters => "jsfuck"
  | digitTable => "jjencode"
  | custom => "custom"

def ofName? (s : String) : Option Family :=
  all.find? fun f => f.name == s

------------------------------------------------------------
-- Recognition
------------------------------------------------------------

/-
  A name made of hexadecimal digits.
-/
def hexName : Pattern :=
  seq (literal "_0x") (many isHex 4 none)

/-
  A function whose first parameter has a name made of hexadecimal digits.
-/
def hexParameter : Pattern :=
  sequence
    [ literal "function", blanks, many isName 0 none, blanks, char '(', blanks
    , literal "_0x", many isHex 1 none ]

/-
  The definition that begins a script encoded by a digit table.
-/
def digitTableStart : Pattern :=
  sequence
    [ start, one isNameStart, many isName 0 none, blanks, char '=', blanks, char '~', blanks
    , char '[', blanks, char ']', blanks, char ';' ]

/-
  The characters of which a script of six characters consists.
-/
def isOfSix (c : Char) : Bool :=
  ['[', ']', '(', ')', '!', '+'].contains c

/-
  The number of leading characters that decides.
-/
def decidingLength : Nat := 20

/-
  Whether a script begins with so many of the six characters, blanks apart, or has no
  other ones.
-/
def isOfSixCharacters (cs : List Char) : Bool :=
  let significant := Text.dropEnd (· == ';') (Text.dropEnd Text.isBlank cs)
  match significant with
  | [] => false
  | c :: _ =>
    ['[', '(', '!', '+'].contains c
      && min decidingLength significant.length
        ≤ (significant.takeWhile fun c => isOfSix c || Text.isBlank c).length

def ofCode (code : String) : Family :=
  let cs := code.toList
  let trimmed := cs.dropWhile Text.isBlank
  if hexName.occurs cs && hexParameter.occurs cs then stringTable
  else if isOfSixCharacters trimmed then sixCharacters
  else if (digitTableStart.matchFrom (beginning trimmed)).isSome then digitTable
  else custom

end Family

end Devirt
