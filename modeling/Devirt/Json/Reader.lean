import Devirt.Json.Basic

/-
  Reading JSON.

  A reader takes the characters that are left and returns a value with the characters
  after it.  Arrays and objects may be nested at most `Json.depthLimit` deep.  A
  surrogate escape must be one half of a pair, and a number too large for a double is
  refused.

  A fractional number is read as the digits that fit in sixty-four bits, rounded to a
  double, and then multiplied or divided by a power of ten.

  A record may have fields that nobody asks for.  Their values are passed over: they must
  be written like values, but may be nested to any depth, and neither the size of their
  numbers nor the pairing of their surrogates is looked at.

  Key definitions include:
    * `Json.parse`
    * `Json.Number.scale`, the reading of fractional numbers
    * `Json.skipValue`, the passing over of values
    * `Json.readRecord`, `Json.parseWith`
-/

namespace Devirt

namespace Json

abbrev Reader (α : Type) := List Char → Option (α × List Char)

/-
  Arrays and objects nested deeper than this are refused.
-/
def depthLimit : Nat := 127

------------------------------------------------------------
-- Blanks
------------------------------------------------------------

def isSpace (c : Char) : Bool :=
  c == ' ' || c == '\n' || c == '\t' || c == '\r'

def skipSpace (cs : List Char) : List Char :=
  cs.dropWhile isSpace

------------------------------------------------------------
-- Numbers
------------------------------------------------------------

def isDigit (c : Char) : Bool :=
  '0' ≤ c && c ≤ '9'

def digitValue (c : Char) : Nat :=
  c.toNat - '0'.toNat

/-
  Takes digits into a significand as long as it stays below `2 ^ 64`; gives the
  significand, how many digits went in, and the rest.
-/
def takeSignificand : Nat → Nat → List Char → Nat × Nat × List Char
  | significand, count, [] => (significand, count, [])
  | significand, count, c :: cs =>
    if isDigit c && 10 * significand + digitValue c < Number.naturalBound then
      takeSignificand (10 * significand + digitValue c) (count + 1) cs
    else
      (significand, count, c :: cs)

/-
  A power of ten between `10 ^ 0` and `10 ^ 308`, rounded to a double.
-/
def powerOfTen (n : Nat) : Float :=
  Decimal.ofScaled 1 n

namespace Number

/-
  Divides by `10 ^ 308` until the exponent has a power of ten in the table.
-/
def scaleDown : Nat → Float → Nat → Float
  | 0, f, _ => f
  | fuel + 1, f, e =>
    if e ≤ 308 then
      f / powerOfTen e
    else if f == 0 then
      f
    else
      scaleDown fuel (f / powerOfTen 308) (e - 308)

/-
  A significand times a power of ten; nothing when the result is not finite.
-/
def scale (significand : Nat) (exponent : Int) : Option Float :=
  let f := Decimal.ofNat significand
  if exponent < 0 then
    some (scaleDown 16 f exponent.natAbs)
  else if exponent ≤ 308 then
    let r := f * powerOfTen exponent.toNat
    if r.isInf then none else some r
  else if significand = 0 then
    some f
  else
    none

end Number

def signed (negative : Bool) (x : Float) : Float :=
  if negative then -x else x

/-
  The digits after the mark of an exponent.
-/
def exponentDigits (cs : List Char) : Option (Int × List Char) :=
  let (minus, cs) :=
    match cs with
    | '+' :: rest => (false, rest)
    | '-' :: rest => (true, rest)
    | rest => (false, rest)
  let ds := cs.takeWhile isDigit
  if ds.isEmpty then
    none
  else
    let n : Int := Decimal.natOfDigits ds
    some (if minus then -n else n, cs.dropWhile isDigit)

/-
  What may follow the digits of a number that is no longer whole: an exponent.
-/
def finishReal
    (negative : Bool)
    (significand : Nat)
    (exponent : Int)
    (cs : List Char) :
    Option (Number × List Char) := do
  match cs with
  | c :: rest =>
    if c == 'e' || c == 'E' then
      let (e, rest) ← exponentDigits rest
      let x ← Number.scale significand (exponent + e)
      pure (.real (signed negative x), rest)
    else
      let x ← Number.scale significand exponent
      pure (.real (signed negative x), cs)
  | [] =>
    let x ← Number.scale significand exponent
    pure (.real (signed negative x), [])

/-
  What may follow the whole digits: a fraction, then an exponent.
-/
def finishFraction
    (negative : Bool)
    (significand : Nat)
    (exponent : Int)
    (cs : List Char) :
    Option (Number × List Char) :=
  match cs with
  | '.' :: rest =>
    let (s, count, after) := takeSignificand significand 0 rest
    if (rest.takeWhile isDigit).isEmpty then
      none
    else
      finishReal negative s (exponent - count) (after.dropWhile isDigit)
  | _ => finishReal negative significand exponent cs

def wholeNumber (negative : Bool) (significand : Nat) : Number :=
  if negative then
    if significand = 0 ∨ Number.negativeBound < significand then
      .real (-Decimal.ofNat significand)
    else
      .negative significand
  else
    .natural significand

/-
  A number after its sign.
-/
def unsignedNumber (negative : Bool) : Reader Number
  | [] => none
  | '0' :: rest =>
    match rest with
    | c :: _ =>
      if isDigit c then
        none
      else if c == '.' || c == 'e' || c == 'E' then
        finishFraction negative 0 0 rest
      else
        some (wholeNumber negative 0, rest)
    | [] => some (wholeNumber negative 0, [])
  | cs =>
    let (s, count, rest) := takeSignificand 0 0 cs
    if count = 0 then
      none
    else
      let more := rest.takeWhile isDigit
      let after := rest.dropWhile isDigit
      let fractional :=
        match after with
        | c :: _ => c == '.' || c == 'e' || c == 'E'
        | [] => false
      if more.isEmpty && !fractional then
        some (wholeNumber negative s, after)
      else
        finishFraction negative s more.length after

def readNumber : Reader Number
  | '-' :: cs => unsignedNumber true cs
  | cs => unsignedNumber false cs

------------------------------------------------------------
-- Strings
------------------------------------------------------------

def hexDigit? (c : Char) : Option Nat :=
  if '0' ≤ c && c ≤ '9' then some (c.toNat - '0'.toNat)
  else if 'a' ≤ c && c ≤ 'f' then some (c.toNat - 'a'.toNat + 10)
  else if 'A' ≤ c && c ≤ 'F' then some (c.toNat - 'A'.toNat + 10)
  else none

def fourHex : Reader Nat
  | a :: b :: c :: d :: rest => do
    let a ← hexDigit? a
    let b ← hexDigit? b
    let c ← hexDigit? c
    let d ← hexDigit? d
    pure (((a * 16 + b) * 16 + c) * 16 + d, rest)
  | _ => none

/-
  The character named after a backslash and `u`.
-/
def unicodeEscape (cs : List Char) : Option (Char × List Char) := do
  let (n, rest) ← fourHex cs
  if 0xD800 ≤ n && n < 0xDC00 then
    match rest with
    | '\\' :: 'u' :: rest =>
      let (m, rest) ← fourHex rest
      if 0xDC00 ≤ m && m < 0xE000 then
        pure (Char.ofNat (0x10000 + (n - 0xD800) * 0x400 + (m - 0xDC00)), rest)
      else
        none
    | _ => none
  else if 0xDC00 ≤ n && n < 0xE000 then
    none
  else
    pure (Char.ofNat n, rest)

/-
  The character named after a backslash.
-/
def escape : Reader Char
  | '"' :: rest => some ('"', rest)
  | '\\' :: rest => some ('\\', rest)
  | '/' :: rest => some ('/', rest)
  | 'b' :: rest => some ('\x08', rest)
  | 'f' :: rest => some ('\x0c', rest)
  | 'n' :: rest => some ('\n', rest)
  | 'r' :: rest => some ('\r', rest)
  | 't' :: rest => some ('\t', rest)
  | 'u' :: rest => unicodeEscape rest
  | _ => none

/-
  The characters up to the closing quote, which is consumed.  Every step consumes a
  character, so the length of the input is fuel enough.
-/
def stringBody : Nat → List Char → List Char → Option (String × List Char)
  | 0, _, _ => none
  | _ + 1, _, [] => none
  | fuel + 1, done, c :: cs =>
    if c == '"' then
      some (String.ofList done.reverse, cs)
    else if c == '\\' then
      match escape cs with
      | some (e, rest) => stringBody fuel (e :: done) rest
      | none => none
    else if c.toNat < 0x20 then
      none
    else
      stringBody fuel (c :: done) cs

def readString : Reader String
  | '"' :: cs => stringBody (cs.length + 1) [] cs
  | _ => none

------------------------------------------------------------
-- Lists of Items
------------------------------------------------------------

/-
  Items separated by commas up to a closing character, after the first item may begin.
-/
def itemsUntil
    (close : Char)
    (item : Reader α) :
    Nat → List α → List Char → Option (List α × List Char)
  | 0, _, _ => none
  | fuel + 1, done, cs =>
    match item (skipSpace cs) with
    | none => none
    | some (a, rest) =>
      match skipSpace rest with
      | c :: rest =>
        if c == close then
          some ((a :: done).reverse, rest)
        else if c == ',' then
          itemsUntil close item fuel (a :: done) rest
        else
          none
      | [] => none

/-
  A possibly empty list of items up to a closing character.
-/
def listUntil
    (close : Char)
    (item : Reader α)
    (cs : List Char) :
    Option (List α × List Char) :=
  match skipSpace cs with
  | c :: rest =>
    if c == close then some ([], rest) else itemsUntil close item (cs.length + 1) [] (c :: rest)
  | [] => none

/-
  A name, a colon and a value.
-/
def readField
    (value : Reader Json) :
    Reader (String × Json) := fun cs => do
  let (name, rest) ← readString cs
  match skipSpace rest with
  | ':' :: rest =>
    let (v, rest) ← value rest
    pure ((name, v), rest)
  | _ => none

------------------------------------------------------------
-- Values
------------------------------------------------------------

/-
  A value without inner values.
-/
def readScalar : Reader Json
  | 'n' :: 'u' :: 'l' :: 'l' :: rest => some (null, rest)
  | 't' :: 'r' :: 'u' :: 'e' :: rest => some (bool true, rest)
  | 'f' :: 'a' :: 'l' :: 's' :: 'e' :: rest => some (bool false, rest)
  | '"' :: cs => (readString ('"' :: cs)).map fun (s, rest) => (text s, rest)
  | cs => (readNumber cs).map fun (n, rest) => (number n, rest)

/-
  A value whose arrays and objects are nested at most as deep as the first argument.
-/
def readValue : Nat → Reader Json
  | 0, cs =>
    match skipSpace cs with
    | '[' :: _ => none
    | '{' :: _ => none
    | cs => readScalar cs
  | depth + 1, cs =>
    match skipSpace cs with
    | '[' :: cs =>
      (listUntil ']' (readValue depth) cs).map fun (items, rest) => (array items, rest)
    | '{' :: cs =>
      (listUntil '}' (readField (readValue depth)) cs).map
        fun (fields, rest) => (object fields, rest)
    | cs => readScalar cs

------------------------------------------------------------
-- Passing Over
------------------------------------------------------------

def skipDigits : Reader Unit := fun cs =>
  if (cs.takeWhile isDigit).isEmpty then none else some ((), cs.dropWhile isDigit)

def skipExponent : Reader Unit
  | [] => some ((), [])
  | c :: cs =>
    if c == 'e' || c == 'E' then
      (exponentDigits cs).map fun (_, rest) => ((), rest)
    else
      some ((), c :: cs)

def skipFraction : Reader Unit
  | '.' :: cs => do
    let (_, rest) ← skipDigits cs
    skipExponent rest
  | cs => skipExponent cs

/-
  Passes over a number after its sign.
-/
def skipUnsigned : Reader Unit
  | '0' :: cs => if (cs.takeWhile isDigit).isEmpty then skipFraction cs else none
  | cs => do
    let (_, rest) ← skipDigits cs
    skipFraction rest

def skipNumber : Reader Unit
  | '-' :: cs => skipUnsigned cs
  | cs => skipUnsigned cs

/-
  Passes over the characters up to the closing quote and the quote itself.  Four digits
  after a backslash and `u` need not name a character.
-/
def skipString : Reader Unit
  | [] => none
  | '"' :: cs => some ((), cs)
  | '\\' :: 'u' :: a :: b :: c :: d :: cs =>
    if [a, b, c, d].all fun x => (hexDigit? x).isSome then skipString cs else none
  | '\\' :: c :: cs =>
    if ['"', '\\', '/', 'b', 'f', 'n', 'r', 't'].contains c then skipString cs else none
  | c :: cs => if c.toNat < 0x20 then none else skipString cs

/-
  Passes over a name, a colon and a value.
-/
def skipField (value : Reader Unit) : Reader Unit
  | '"' :: cs => do
    let (_, rest) ← skipString cs
    match skipSpace rest with
    | ':' :: rest => value rest
    | _ => none
  | _ => none

/-
  Passes over a value without inner values.
-/
def skipScalar : Reader Unit
  | 'n' :: 'u' :: 'l' :: 'l' :: rest => some ((), rest)
  | 't' :: 'r' :: 'u' :: 'e' :: rest => some ((), rest)
  | 'f' :: 'a' :: 'l' :: 's' :: 'e' :: rest => some ((), rest)
  | '"' :: cs => skipString cs
  | cs => skipNumber cs

/-
  Passes over a value.  Every inner value stands behind a bracket, so the length of the
  input is fuel enough.
-/
def skipValue : Nat → Reader Unit
  | 0, _ => none
  | fuel + 1, cs =>
    match skipSpace cs with
    | '[' :: cs => (listUntil ']' (skipValue fuel) cs).map fun (_, rest) => ((), rest)
    | '{' :: cs =>
      (listUntil '}' (skipField (skipValue fuel)) cs).map fun (_, rest) => ((), rest)
    | cs => skipScalar cs

------------------------------------------------------------
-- Records
------------------------------------------------------------

/-
  A field that is asked for: the name under which it is declared, the other names under
  which it may be written, and the reader of its value.
-/
structure Field where
  name : String
  aliases : List String := []
  value : Reader Json

def Field.isCalled (f : Field) (name : String) : Bool :=
  f.name == name || f.aliases.contains name

def readText : Reader Json := fun cs =>
  (readString (skipSpace cs)).map fun (s, rest) => (text s, rest)

def readListOf (item : Reader Json) : Reader Json := fun cs =>
  match skipSpace cs with
  | '[' :: cs => (listUntil ']' item cs).map fun (items, rest) => (array items, rest)
  | _ => none

/-
  A name, a colon and a value.  It gives the value under the declared name, and nothing
  for a field that nobody asks for.
-/
def readAsked (fields : List Field) : Reader (Option (String × Json)) := fun cs => do
  let (name, rest) ← readString cs
  match skipSpace rest with
  | ':' :: rest =>
    match fields.find? (·.isCalled name) with
    | some field =>
      let (v, rest) ← field.value rest
      pure (some (field.name, v), rest)
    | none =>
      let (_, rest) ← skipValue rest.length rest
      pure (none, rest)
  | _ => none

/-
  The values of fields in the order of their declaration up to a closing bracket, after
  the first value may begin.  The last fields may be missing.
-/
def valuesInOrder : List Field → Reader (List Json)
  | [], _ => none
  | field :: fields, cs => do
    let (v, rest) ← field.value cs
    match skipSpace rest with
    | ']' :: rest => pure ([v], rest)
    | ',' :: rest =>
      let (vs, rest) ← valuesInOrder fields rest
      pure (v :: vs, rest)
    | _ => none

/-
  A record, written as an object or as the list of its values.
-/
def readRecord (fields : List Field) : Reader Json := fun cs =>
  match skipSpace cs with
  | '{' :: cs =>
    (listUntil '}' (readAsked fields) cs).map
      fun (found, rest) => (object (found.filterMap id), rest)
  | '[' :: cs =>
    match skipSpace cs with
    | ']' :: rest => some (array [], rest)
    | cs => (valuesInOrder fields cs).map fun (vs, rest) => (array vs, rest)
  | _ => none

------------------------------------------------------------
-- Whole Texts
------------------------------------------------------------

/-
  The value written by a whole text.
-/
def parseWith (value : Reader Json) (s : String) : Option Json :=
  match value s.toList with
  | some (v, rest) => if (skipSpace rest).isEmpty then some v else none
  | none => none

/-
  The value written by a whole text, whatever it is.
-/
def parse (s : String) : Option Json :=
  parseWith (readValue depthLimit) s

end Json

end Devirt
