import Devirt.Script.Regexp.Basic
import Devirt.Script.Token
import Devirt.Text.Property

/-
  The reading of the characters of regular expressions.

  Without the flag `u` a mark that cannot have its special meaning stands for itself; with
  it such marks are errors.

  Key definitions include:
    * `Regexp.Read`, readers of parts of expressions
    * `Regexp.classEscape?`, `Regexp.characterEscape`
    * `Regexp.groupName`
-/

namespace Devirt

namespace Script

namespace Regexp

------------------------------------------------------------
-- State
------------------------------------------------------------

/-
  What is known before the reading starts, and how far it has got.
-/
structure Reader.State where
  rest : List Nat
  /- whether marks without a meaning are errors -/
  isUnicode : Bool
  /- the flags that are set at this place -/
  flags : Flags
  /- the groups of the whole expression -/
  total : Nat
  hasNames : Bool
  /- the groups opened so far -/
  opened : Nat
  names : List (String × Nat)
  /- the names that are recalled -/
  recalled : List String

abbrev Read (α : Type) := StateT Reader.State Option α

namespace Read

def fail : Read α := fun _ => none

def require (b : Bool) : Read Unit := if b then pure () else fail

def peek : Read (Option Nat) := do return (← get).rest.head?

def drop (n : Nat) : Read Unit := modify fun s => { s with rest := s.rest.drop n }

/-
  Takes a text if it is there.
-/
def eat (text : String) : Read Bool := do
  let s ← get
  match Text.dropPrefix? (text.toList.map Char.toNat) s.rest with
  | some rest =>
    set { s with rest }
    return true
  | none => return false

def iterate (step : α → Read (α ⊕ β)) : Nat → α → Read β
  | 0, _ => fail
  | fuel + 1, a => do
    match ← step a with
    | .inl a => iterate step fuel a
    | .inr b => return b

def loop (step : α → Read (α ⊕ β)) (a : α) : Read β := do
  iterate step ((← get).rest.length + 2) a

end Read

open Read

------------------------------------------------------------
-- Numbers and Names
------------------------------------------------------------

def digitOf? (base : Nat) (n : Nat) : Option Nat :=
  match Literal.hexValue? (Char.ofNat n) with
  | some d => if n < 128 && d < base then some d else none
  | none => none

/-
  Leading digits and their value.
-/
def decimal (cs : List Nat) : Option Nat × List Nat :=
  let digits := cs.takeWhile fun n => (digitOf? 10 n).isSome
  let rest := cs.dropWhile fun n => (digitOf? 10 n).isSome
  (if digits.isEmpty then none
   else some (digits.foldl (fun v n => 10 * v + (digitOf? 10 n).getD 0) 0), rest)

/-
  The value of exactly so many hexadecimal digits.
-/
def hexValue : Nat → Nat → List Nat → Option (Nat × List Nat)
  | 0, v, cs => some (v, cs)
  | _ + 1, _, [] => none
  | n + 1, v, c :: cs =>
    match digitOf? 16 c with
    | some d => hexValue n (16 * v + d) cs
    | none => none

/-
  Bounds of a repetition in braces, after the opening one.
-/
def bounds? (cs : List Nat) : Option ((Nat × Option Nat) × List Nat) :=
  match decimal cs with
  | (some least, rest) =>
    match rest with
    | 125 :: rest => some ((least, some least), rest)
    | 44 :: 125 :: rest => some ((least, none), rest)
    | 44 :: rest =>
      match decimal rest with
      | (some most, 125 :: rest) => some ((least, some most), rest)
      | _ => none
    | _ => none
  | (none, _) => none

------------------------------------------------------------
-- Classes of Characters
------------------------------------------------------------

def digits : Text.Borders := .between 48 57

def wordChars : Text.Borders := .ofRanges [(48, 57), (65, 90), (95, 95), (97, 122)]

def spaces : Text.Borders :=
  .ofRanges
    [ (9, 13), (32, 32), (0xA0, 0xA0), (0x1680, 0x1680), (0x2000, 0x200A), (0x2028, 0x2029)
    , (0x202F, 0x202F), (0x205F, 0x205F), (0x3000, 0x3000), (0xFEFF, 0xFEFF) ]

/-
  The characters of a class with a letter.
-/
def classOf? : Nat → Option Text.Borders
  | 100 => some digits
  | 68 => some digits.complement
  | 119 => some wordChars
  | 87 => some wordChars.complement
  | 115 => some spaces
  | 83 => some spaces.complement
  | _ => none

/-
  The characters with a property that is named in braces, and what follows it.
-/
def propertyOf? (cs : List Nat) : Option (Text.Borders × List Nat) :=
  let name := cs.takeWhile (· != 125)
  match cs.drop name.length, Text.property? (String.ofList (name.map Units.charOf)) with
  | _ :: rest, some chars => some (chars, rest)
  | _, _ => none

/-
  The characters of a class and what follows it, after its backslash.  Properties are
  known only where characters are code points.
-/
def classEscape? (flags : Flags) (cs : List Nat) : Option (Text.Borders × List Nat) :=
  match cs with
  | 112 :: 123 :: rest => if flags.byCodePoint then propertyOf? rest else none
  | 80 :: 123 :: rest =>
    if flags.byCodePoint then (propertyOf? rest).map fun (b, rest) => (b.complement, rest)
    else none
  | c :: rest => (classOf? c).map (·, rest)
  | [] => none

def lastCharacter : Nat := 0x10FFFF

------------------------------------------------------------
-- Escapes
------------------------------------------------------------

def controlEscape? : Nat → Option Nat
  | 110 => some 10
  | 116 => some 9
  | 114 => some 13
  | 118 => some 11
  | 102 => some 12
  | _ => none

def isAsciiLetter (n : Nat) : Bool :=
  (65 ≤ n && n ≤ 90) || (97 ≤ n && n ≤ 122)

/-
  The marks that have a special meaning.
-/
def isSpecial (n : Nat) : Bool :=
  ("^$\\.*+?()[]\x7b\x7d|/".toList.map Char.toNat).contains n

/-
  A code point in braces, which only the flag `u` knows.
-/
def bracedCodePoint? (cs : List Nat) : Option (Nat × List Nat) :=
  let digits := cs.takeWhile fun n => (digitOf? 16 n).isSome
  match cs.drop digits.length with
  | 125 :: rest =>
    let v := digits.foldl (fun v n => 16 * v + (digitOf? 16 n).getD 0) 0
    if digits.isEmpty || v > lastCharacter then none else some (v, rest)
  | _ => none

/-
  A code point after the letter of its escape.  Under the flag `u` two escaped halves
  are one character.
-/
def unicodeEscape? (isUnicode : Bool) (cs : List Nat) : Option (Nat × List Nat) :=
  match cs with
  | 123 :: rest => if isUnicode then bracedCodePoint? rest else none
  | _ =>
    match hexValue 4 0 cs with
    | some (high, 92 :: 117 :: rest) =>
      match hexValue 4 0 rest with
      | some (low, rest') =>
        if isUnicode && 0xD800 ≤ high && high < 0xDC00 && 0xDC00 ≤ low && low < 0xE000 then
          some (Units.joinHalves high.toUInt16 low.toUInt16, rest')
        else
          some (high, 92 :: 117 :: rest)
      | none => some (high, 92 :: 117 :: rest)
    | r => r

/-
  The characters of a name up to its closing angle bracket, which may be escaped.
-/
def nameChars : Nat → List Nat → Option (List Nat × List Nat)
  | 0, _ => none
  | _, [] => none
  | fuel + 1, 92 :: 117 :: cs => do
    let (n, rest) ← unicodeEscape? true cs
    let (name, rest) ← nameChars fuel rest
    pure (n :: name, rest)
  | fuel + 1, c :: cs =>
    if c == 62 then
      some ([], cs)
    else do
      let (name, rest) ← nameChars fuel cs
      pure (c :: name, rest)

/-
  A name written in units, in which two halves are one character.
-/
def joinName (ns : List Nat) : String :=
  (Units.mk (ns.flatMap Units.ofCodePoint).toArray).toText

/-
  The name of a group, after its opening angle bracket.
-/
def groupName : Read String := do
  let s ← get
  match nameChars (s.rest.length + 1) s.rest with
  | some (ns, rest) =>
    let name := joinName ns
    match name.toList with
    | c :: cs =>
      require (Text.isIdStart c && cs.all Text.isIdContinue)
      set { s with rest }
      return name
    | [] => fail
  | none => fail

/-
  An octal escape of up to three digits below 256.
-/
def octalEscape (cs : List Nat) : Nat × List Nat :=
  let rec go : Nat → Nat → List Nat → Nat × List Nat
    | 0, v, cs => (v, cs)
    | _ + 1, v, [] => (v, [])
    | n + 1, v, c :: cs =>
      match digitOf? 8 c with
      | some d => if 8 * v + d < 256 then go n (8 * v + d) cs else (v, c :: cs)
      | none => (v, c :: cs)
  go 3 0 cs

/-
  The character that an escape stands for, after its backslash.
-/
def characterEscape : Read Nat := do
  let s ← get
  match s.rest with
  | [] => fail
  | c :: cs =>
    match controlEscape? c with
    | some n => set { s with rest := cs }; return n
    | none =>
      if c == 99 then
        match cs with
        | l :: rest =>
          if isAsciiLetter l then
            set { s with rest }
            return l % 32
          else
            require !s.isUnicode
            return 92
        | [] => require !s.isUnicode; return 92
      else if c == 48 && !(cs.head?.any fun n => (digitOf? 10 n).isSome) then
        set { s with rest := cs }
        return 0
      else if (digitOf? 8 c).isSome then
        require !s.isUnicode
        let (v, rest) := octalEscape (c :: cs)
        set { s with rest }
        return v
      else if c == 120 then
        match hexValue 2 0 cs with
        | some (v, rest) => set { s with rest }; return v
        | none => require !s.isUnicode; set { s with rest := cs }; return c
      else if c == 117 then
        match unicodeEscape? s.isUnicode cs with
        | some (v, rest) => set { s with rest }; return v
        | none => require !s.isUnicode; set { s with rest := cs }; return c
      else
        require (if s.isUnicode then isSpecial c else !(c == 107 && s.hasNames))
        require !(s.flags.byCodePoint && (c == 112 || c == 80))
        set { s with rest := cs }
        return c

end Regexp

end Script

end Devirt
