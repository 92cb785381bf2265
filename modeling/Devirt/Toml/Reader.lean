import Devirt.Toml.Basic
import Devirt.Json.Reader

/-
  Reading TOML.

  A line is blank, opens a table or gives a name a value; all three may end in a comment.
  Whole numbers have sixty-four bits with a sign.  A name may not be given twice.

  Key definitions include:
    * `Toml.readValue`
    * `Toml.readStatement`
    * `Toml.parse`
-/

namespace Devirt

namespace Toml

open Json (isDigit digitValue hexDigit?)

abbrev Reader (α : Type) := List Char → Option (α × List Char)

/-
  Arrays and tables between braces nested deeper than this are refused, and so are names
  of more parts.
-/
def depthLimit : Nat := 79

------------------------------------------------------------
-- Blanks and Comments
------------------------------------------------------------

def isSpace (c : Char) : Bool := c == ' ' || c == '\t'

def skipSpace (cs : List Char) : List Char := cs.dropWhile isSpace

/-
  What may stand in a comment: all but control characters.
-/
def isPrintable (c : Char) : Bool :=
  c == '\t' || (0x20 ≤ c.toNat && c.toNat != 0x7F)

/-
  The end of a line.
-/
def newline? : List Char → Option (List Char)
  | '\n' :: rest => some rest
  | '\r' :: '\n' :: rest => some rest
  | _ => none

def skipComment : List Char → List Char
  | '#' :: rest => rest.dropWhile isPrintable
  | cs => cs

/-
  Blanks, comments and line ends between the items of an array.
-/
def skipGap : Nat → List Char → List Char
  | 0, cs => cs
  | fuel + 1, cs =>
    let cs := skipSpace cs
    match newline? (skipComment cs) with
    | some rest => skipGap fuel rest
    | none => cs

------------------------------------------------------------
-- Strings
------------------------------------------------------------

/-
  The character with a number written in hexadecimal digits.
-/
def charOfHex? (digits : List Char) : Option Char := do
  let n ← digits.foldlM (fun n c => (hexDigit? c).map (16 * n + ·)) 0
  if n.isValidChar then some (Char.ofNat n) else none

/-
  The character named after a backslash.
-/
def escape : Reader Char
  | 'b' :: rest => some ('\x08', rest)
  | 't' :: rest => some ('\t', rest)
  | 'n' :: rest => some ('\n', rest)
  | 'f' :: rest => some ('\x0c', rest)
  | 'r' :: rest => some ('\r', rest)
  | '"' :: rest => some ('"', rest)
  | '\\' :: rest => some ('\\', rest)
  | 'u' :: rest =>
    if rest.length < 4 then none
    else (charOfHex? (rest.take 4)).map fun c => (c, rest.drop 4)
  | 'U' :: rest =>
    if rest.length < 8 then none
    else (charOfHex? (rest.take 8)).map fun c => (c, rest.drop 8)
  | _ => none

/-
  The rest of a string on one line.  Escapes are read only if asked for.
-/
def lineString
    (quote : Char)
    (escapes : Bool) :
    Nat → List Char → List Char → Option (String × List Char)
  | 0, _, _ => none
  | _ + 1, _, [] => none
  | fuel + 1, done, c :: cs =>
    if c == quote then
      some (String.ofList done.reverse, cs)
    else if escapes && c == '\\' then
      match escape cs with
      | some (e, rest) => lineString quote escapes fuel (e :: done) rest
      | none => none
    else if isPrintable c then
      lineString quote escapes fuel (c :: done) cs
    else
      none

/-
  What follows a backslash at the end of a line: all blanks and line ends.
-/
def continuation? (cs : List Char) : Option (List Char) :=
  (newline? (skipSpace cs)).map fun rest =>
    rest.dropWhile fun c => isSpace c || c == '\n' || c == '\r'

/-
  The rest of a string that may have several lines.  It ends with three quotes, and up to
  two more quotes before those belong to it.
-/
def longString
    (quote : Char)
    (escapes : Bool) :
    Nat → List Char → List Char → Option (String × List Char)
  | 0, _, _ => none
  | _ + 1, _, [] => none
  | fuel + 1, done, c :: cs =>
    if c == quote then
      let quotes := (c :: cs).takeWhile (· == quote)
      let rest := (c :: cs).dropWhile (· == quote)
      if quotes.length < 3 then
        longString quote escapes fuel (quotes ++ done) rest
      else if quotes.length ≤ 5 then
        some (String.ofList (done.reverse ++ quotes.drop 3), rest)
      else
        none
    else if escapes && c == '\\' then
      match continuation? cs with
      | some rest => longString quote escapes fuel done rest
      | none =>
        match escape cs with
        | some (e, rest) => longString quote escapes fuel (e :: done) rest
        | none => none
    else
      match newline? (c :: cs) with
      | some rest => longString quote escapes fuel ('\n' :: done) rest
      | none => if isPrintable c then longString quote escapes fuel (c :: done) cs else none

/-
  A line end directly after the opening quotes does not belong to the string.
-/
def openLong (quote : Char) (escapes : Bool) (cs : List Char) : Option (String × List Char) :=
  longString quote escapes (cs.length + 1) [] ((newline? cs).getD cs)

def readShortString : Reader String
  | '"' :: cs => lineString '"' true (cs.length + 1) [] cs
  | '\'' :: cs => lineString '\'' false (cs.length + 1) [] cs
  | _ => none

def readString : Reader String
  | '"' :: '"' :: '"' :: cs => openLong '"' true cs
  | '\'' :: '\'' :: '\'' :: cs => openLong '\'' false cs
  | cs => readShortString cs

------------------------------------------------------------
-- Names
------------------------------------------------------------

def isBare (c : Char) : Bool :=
  c.isAlphanum || c == '_' || c == '-'

def readKey : Reader String
  | '"' :: cs => readShortString ('"' :: cs)
  | '\'' :: cs => readShortString ('\'' :: cs)
  | cs =>
    let word := cs.takeWhile isBare
    if word.isEmpty then none else some (String.ofList word, cs.dropWhile isBare)

/-
  The parts of a name, divided by dots with blanks around them.
-/
def readKeys : Nat → List Char → Option (List String × List Char)
  | 0, _ => none
  | fuel + 1, cs => do
    let (key, rest) ← readKey (skipSpace cs)
    match skipSpace rest with
    | '.' :: rest =>
      let (more, rest) ← readKeys fuel rest
      pure (key :: more, rest)
    | rest => pure ([key], rest)

def readPath : Reader Path := fun cs => do
  let (keys, rest) ← readKeys depthLimit cs
  pure (⟨keys.dropLast, keys.getLastD ""⟩, rest)

------------------------------------------------------------
-- Numbers
------------------------------------------------------------

/-
  Digits; one underscore may stand between two of them.
-/
def moreDigits (isOne : Char → Bool) : List Char → List Char × List Char
  | [] => ([], [])
  | '_' :: c :: rest =>
    if isOne c then
      let (ds, after) := moreDigits isOne rest
      (c :: ds, after)
    else
      ([], '_' :: c :: rest)
  | c :: rest =>
    if isOne c then
      let (ds, after) := moreDigits isOne rest
      (c :: ds, after)
    else
      ([], c :: rest)

def digits? (isOne : Char → Bool) : Reader (List Char)
  | c :: rest =>
    if isOne c then
      let (ds, after) := moreDigits isOne rest
      some (c :: ds, after)
    else
      none
  | [] => none

/-
  The digits of a whole number, which begin with a zero only if that is all.
-/
def wholeDigits? : Reader (List Char)
  | '0' :: rest => some (['0'], rest)
  | cs => digits? isDigit cs

def inRange (n : Int) : Bool :=
  -(Json.Number.negativeBound : Int) ≤ n && n < Json.Number.negativeBound

/-
  A whole number in base two, eight or sixteen.
-/
def readInBase (base : Nat) (cs : List Char) : Option (Toml × List Char) := do
  let isOne : Char → Bool := fun c => (hexDigit? c).any (· < base)
  let (ds, rest) ← digits? isOne cs
  let n := ds.foldl (fun n c => base * n + (hexDigit? c).getD 0) 0
  if inRange n then pure (.integer n, rest) else none

def takeSign : List Char → Bool × List Char
  | '-' :: rest => (true, rest)
  | '+' :: rest => (false, rest)
  | cs => (false, cs)

def readFraction : List Char → Option (List Char × List Char)
  | '.' :: rest => digits? isDigit rest
  | cs => some ([], cs)

def readExponent : List Char → Option (Int × List Char)
  | c :: rest =>
    if c == 'e' || c == 'E' then do
      let (minus, rest) := takeSign rest
      let (ds, rest) ← digits? isDigit rest
      let n : Int := Decimal.natOfDigits ds
      pure (if minus then -n else n, rest)
    else
      some (0, c :: rest)
  | [] => some (0, [])

/-
  A decimal number.  One too large for a double is refused, unless it is negative.
-/
def readDecimal (cs : List Char) : Option (Toml × List Char) := do
  let (minus, unsigned) := takeSign cs
  let (whole, rest) ← wholeDigits? unsigned
  match rest with
  | c :: _ =>
    if c == '.' || c == 'e' || c == 'E' then
      let (fraction, rest) ← readFraction rest
      let (exponent, rest) ← readExponent rest
      let x := Decimal.ofNumeral whole fraction exponent
      if x.isInf && !minus then none else pure (.real (if minus then -x else x), rest)
    else
      finish minus whole rest
  | [] => finish minus whole rest
where
  finish (minus : Bool) (whole rest : List Char) : Option (Toml × List Char) :=
    let n : Int := Decimal.natOfDigits whole
    let n := if minus then -n else n
    if inRange n then some (.integer n, rest) else none

/-
  The numbers that are none, and the infinite ones.
-/
def readSpecial (cs : List Char) : Option (Toml × List Char) :=
  let (minus, unsigned) := takeSign cs
  match unsigned with
  | 'i' :: 'n' :: 'f' :: rest => some (.real (if minus then -1.0 / 0.0 else 1.0 / 0.0), rest)
  | 'n' :: 'a' :: 'n' :: rest => some (.real (0.0 / 0.0), rest)
  | _ => none

def readNumber : Reader Toml
  | '0' :: 'x' :: rest => readInBase 16 rest
  | '0' :: 'o' :: rest => readInBase 8 rest
  | '0' :: 'b' :: rest => readInBase 2 rest
  | cs => (readDecimal cs).orElse fun _ => readSpecial cs

------------------------------------------------------------
-- Dates and Times
------------------------------------------------------------

/-
  A number of exactly so many digits within bounds.
-/
def fixedDigits? (count low high : Nat) (cs : List Char) : Option (Nat × List Char) :=
  let ds := cs.take count
  let n := Decimal.natOfDigits ds
  if ds.length == count && ds.all isDigit && low ≤ n && n ≤ high then
    some (n, cs.drop count)
  else
    none

def skipChar? (c : Char) : List Char → Option (List Char)
  | d :: rest => if c == d then some rest else none
  | [] => none

def daysOf (year month : Nat) : Nat :=
  if month == 2 then
    if year % 4 == 0 && (year % 100 != 0 || year % 400 == 0) then 29 else 28
  else if [4, 6, 9, 11].contains month then 30
  else 31

def skipDate? (cs : List Char) : Option (List Char) := do
  let (year, cs) ← fixedDigits? 4 0 9999 cs
  let (month, cs) ← fixedDigits? 2 1 12 (← skipChar? '-' cs)
  let (_, cs) ← fixedDigits? 2 1 (daysOf year month) (← skipChar? '-' cs)
  pure cs

def skipTime? (cs : List Char) : Option (List Char) := do
  let (_, cs) ← fixedDigits? 2 0 23 cs
  let (_, cs) ← fixedDigits? 2 0 59 (← skipChar? ':' cs)
  let (_, cs) ← fixedDigits? 2 0 60 (← skipChar? ':' cs)
  match cs with
  | '.' :: c :: rest => if isDigit c then pure (rest.dropWhile isDigit) else none
  | '.' :: [] => none
  | rest => pure rest

/-
  The distance to the time of the prime meridian, which may be missing.
-/
def skipOffset : List Char → Option (List Char)
  | 'Z' :: rest => some rest
  | 'z' :: rest => some rest
  | '+' :: rest => hours rest
  | '-' :: rest => hours rest
  | cs => some cs
where
  hours (cs : List Char) : Option (List Char) := do
    let (_, cs) ← fixedDigits? 2 0 23 cs
    let (_, cs) ← fixedDigits? 2 0 59 (← skipChar? ':' cs)
    pure cs

/-
  A date, a time, or a date with a time.
-/
def skipMoment? (cs : List Char) : Option (List Char) :=
  match skipDate? cs with
  | some (c :: rest) =>
    if c == 'T' || c == 't' then
      (skipTime? rest).bind skipOffset
    else if c == ' ' then
      match skipTime? rest with
      | some after => skipOffset after
      | none => some (c :: rest)
    else
      some (c :: rest)
  | some [] => some []
  | none => skipTime? cs

def readMoment : Reader Toml := fun cs =>
  (skipMoment? cs).map fun rest =>
    (.moment (String.ofList (cs.take (cs.length - rest.length))), rest)

------------------------------------------------------------
-- Values
------------------------------------------------------------

def readScalar : Reader Toml
  | 't' :: 'r' :: 'u' :: 'e' :: rest => some (.bool true, rest)
  | 'f' :: 'a' :: 'l' :: 's' :: 'e' :: rest => some (.bool false, rest)
  | '"' :: cs => (readString ('"' :: cs)).map fun (s, rest) => (.text s, rest)
  | '\'' :: cs => (readString ('\'' :: cs)).map fun (s, rest) => (.text s, rest)
  | cs => (readMoment cs).orElse fun _ => readNumber cs

/-
  The items of an array, the last of which may be followed by a comma.
-/
def arrayItems
    (value : Reader Toml) :
    Nat → List Toml → List Char → Option (List Toml × List Char)
  | 0, _, _ => none
  | fuel + 1, done, cs =>
    match skipGap (cs.length + 1) cs with
    | ']' :: rest => some (done.reverse, rest)
    | cs =>
      match value cs with
      | none => none
      | some (v, rest) =>
        match skipGap (rest.length + 1) rest with
        | ',' :: rest => arrayItems value fuel (v :: done) rest
        | ']' :: rest => some ((v :: done).reverse, rest)
        | _ => none

/-
  A name, an equals sign and a value.
-/
def readAssignment (value : Reader Toml) : Reader (Path × Toml) := fun cs => do
  let (name, rest) ← readPath cs
  match rest with
  | '=' :: rest =>
    let (v, rest) ← value (skipSpace rest)
    pure ((name, v), rest)
  | _ => none

/-
  The assignments of a table between braces, added to it one by one.
-/
def braceItems
    (value : Reader Toml) :
    Nat → Toml → List Char → Option (Toml × List Char)
  | 0, _, _ => none
  | fuel + 1, soFar, cs =>
    match readAssignment value cs with
    | none => none
    | some ((name, v), rest) =>
      match assign name v soFar with
      | none => none
      | some added =>
        match skipSpace rest with
        | ',' :: rest => braceItems value fuel added rest
        | '}' :: rest => some (added, rest)
        | _ => none

/-
  A value whose arrays and tables are nested at most as deep as the first argument.
-/
def readValue : Nat → Reader Toml
  | 0, '[' :: _ => none
  | 0, '{' :: _ => none
  | 0, cs => readScalar cs
  | depth + 1, '[' :: cs =>
    (arrayItems (readValue depth) (cs.length + 1) [] cs).map
      fun (items, rest) => (.array items, rest)
  | depth + 1, '{' :: cs =>
    match skipSpace cs with
    | '}' :: rest => some (.table .braces [], rest)
    | cs => braceItems (readValue depth) (cs.length + 1) (.table .braces []) cs
  | _ + 1, cs => readScalar cs

------------------------------------------------------------
-- Lines
------------------------------------------------------------

/-
  A header after its opening brackets.
-/
def readHeader (closing : List Char) (cs : List Char) : Option (Path × List Char) := do
  let (name, rest) ← readPath cs
  if closing.isPrefixOf rest then pure (name, rest.drop closing.length) else none

/-
  What a line says, if it is not blank.
-/
def readStatement : Reader (Option Statement)
  | '[' :: '[' :: cs =>
    (readHeader [']', ']'] cs).map fun (name, rest) => (some (.item name), rest)
  | '[' :: cs =>
    (readHeader [']'] cs).map fun (name, rest) => (some (.table name), rest)
  | [] => some (none, [])
  | c :: cs =>
    if c == '#' || c == '\n' || c == '\r' then
      some (none, c :: cs)
    else
      (readAssignment (readValue depthLimit) (c :: cs)).map
        fun ((name, v), rest) => (some (.assign name v), rest)

def readStatements : Nat → List Statement → List Char → Option (List Statement)
  | 0, _, _ => none
  | fuel + 1, done, cs =>
    match readStatement (skipSpace cs) with
    | none => none
    | some (statement, rest) =>
      let done := statement.toList ++ done
      match skipComment (skipSpace rest) with
      | [] => some done.reverse
      | rest =>
        match newline? rest with
        | some rest => readStatements fuel done rest
        | none => none

/-
  The document written by a whole text.
-/
def parse (s : String) : Option Toml :=
  let cs := match s.toList with
    | '\uFEFF' :: rest => rest
    | cs => cs
  (readStatements (cs.length + 1) [] cs).bind ofStatements

end Toml

end Devirt
