import Devirt.Json.Basic

/-
  Writing JSON.

  The compact form has no blanks; the laid-out form gives every item and field a line
  of its own, indented by two blanks for each level.  Characters other than quotes,
  backslashes and control characters stand for themselves.

  Key definitions include:
    * `Json.compact`
    * `Json.pretty`
-/

namespace Devirt

namespace Json

------------------------------------------------------------
-- Strings
------------------------------------------------------------

def hexChar (n : Nat) : Char :=
  if n < 10 then Char.ofNat ('0'.toNat + n) else Char.ofNat ('a'.toNat + (n - 10))

/-
  How a character is written between quotes.
-/
def escapeChar (c : Char) : List Char :=
  if c == '"' then ['\\', '"']
  else if c == '\\' then ['\\', '\\']
  else if c == '\n' then ['\\', 'n']
  else if c == '\r' then ['\\', 'r']
  else if c == '\t' then ['\\', 't']
  else if c == '\x08' then ['\\', 'b']
  else if c == '\x0c' then ['\\', 'f']
  else if c.toNat < 0x20 then
    ['\\', 'u', '0', '0', hexChar (c.toNat / 16), hexChar (c.toNat % 16)]
  else [c]

def quote (s : String) : String :=
  String.ofList ('"' :: (s.toList.flatMap escapeChar ++ ['"']))

------------------------------------------------------------
-- Numbers
------------------------------------------------------------

/-
  Doubles keep a fraction when they are whole, and use an exponent with a sign below
  `10 ^ -5` and from `10 ^ 16` on.
-/
def style : Decimal.Style :=
  ⟨-4, 16, true, true, true, "null", "null"⟩

def Number.write : Number → String
  | .natural n => toString n
  | .negative n => "-" ++ toString n
  | .real x => if x.isNaN || x.isInf then "null" else style.write x

------------------------------------------------------------
-- The Compact Form
------------------------------------------------------------

mutual

def compact : Json → String
  | null => "null"
  | bool b => if b then "true" else "false"
  | number n => n.write
  | text s => quote s
  | array items => "[" ++ ",".intercalate (compactItems items) ++ "]"
  | object fields => "\x7b" ++ ",".intercalate (compactFields fields) ++ "\x7d"

def compactItems : List Json → List String
  | [] => []
  | v :: rest => compact v :: compactItems rest

def compactFields : List (String × Json) → List String
  | [] => []
  | (name, v) :: rest => (quote name ++ ":" ++ compact v) :: compactFields rest

end

------------------------------------------------------------
-- The Form with One Item a Line
------------------------------------------------------------

def indent (level : Nat) : String :=
  String.ofList (List.replicate (2 * level) ' ')

/-
  Lines between two brackets, each one level further in.
-/
def block (opening closing : String) (level : Nat) (lines : List String) : String :=
  if lines.isEmpty then
    opening ++ closing
  else
    let inner := "\n" ++ indent (level + 1)
    opening ++ inner ++ ("," ++ inner).intercalate lines ++ "\n" ++ indent level ++ closing

mutual

def prettyAt (level : Nat) : Json → String
  | null => "null"
  | bool b => if b then "true" else "false"
  | number n => n.write
  | text s => quote s
  | array items => block "[" "]" level (prettyItems (level + 1) items)
  | object fields => block "\x7b" "\x7d" level (prettyFields (level + 1) fields)

def prettyItems (level : Nat) : List Json → List String
  | [] => []
  | v :: rest => prettyAt level v :: prettyItems level rest

def prettyFields (level : Nat) : List (String × Json) → List String
  | [] => []
  | (name, v) :: rest => (quote name ++ ": " ++ prettyAt level v) :: prettyFields level rest

end

def pretty (v : Json) : String :=
  prettyAt 0 v

end Json

end Devirt
