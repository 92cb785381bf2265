import Devirt.Yaml.Scalar

/-
  Reading YAML documents.

  A block is a mapping or a sequence whose entries begin in one column, and everything
  that belongs to an entry begins in a later column.  Only a sequence that is the value
  of a key may begin in the column of the key.  Inside brackets columns do not matter.

  A key without a mark of its own must stand on one line, where a key may begin: at the
  start of a line, behind a dash or question mark, or behind a bracket or comma.

  Key definitions include:
    * `Yaml.Reading`, what is known while reading
    * `Yaml.flowNode`, `Yaml.blockNode`
    * `Yaml.parse`
-/

namespace Devirt

namespace Yaml

------------------------------------------------------------
-- Reading
------------------------------------------------------------

/-
  The place that is reached, whether a key may begin there, the nodes that have names
  (none while such a node is being read), and the handles of tags.
-/
structure Reading where
  place : Place
  keyAllowed : Bool := true
  anchors : List (String × Option Yaml) := []
  handles : List (String × String) := []

abbrev Read := StateT Reading Option

def place : Read Place := do pure (← get).place

def moveTo (p : Place) : Read Unit := modify fun r => { r with place := p }

/-
  Goes on behind a token, after which a key may begin or not.
-/
def moveBehind (p : Place) (keyAllowed : Bool) : Read Unit :=
  modify fun r => { r with place := p, keyAllowed := keyAllowed }

def refuse : Read α := failure

/-
  Goes to the next token.
-/
def skipGap (inFlow : Bool) : Read Place := do
  let r ← get
  let (p, keyAllowed) := r.place.skipGap inFlow r.keyAllowed
  set { r with place := p, keyAllowed := keyAllowed }
  pure p

------------------------------------------------------------
-- Names and Tags
------------------------------------------------------------

def isNameChar (c : Char) : Bool := c.isAlphanum || c == '_' || c == '-'

/-
  The name behind the sign of an anchor or alias.
-/
def readName (p : Place) : Option (String × Place) :=
  let name := (p.rest.drop 1).takeWhile isNameChar
  let after := p.skip (name.length + 1)
  let closed :=
    gapAhead after.rest
      || (after.rest.head?.any (['?', ':', ',', ']', '}', '%', '@', '\x60'].contains ·))
  if name.isEmpty || !closed then none else some (String.ofList name, after)

/-
  Whether a character may stand in a tag.  Commas and brackets may do so only between
  angle brackets.
-/
def isTagChar (verbatim : Bool) (c : Char) : Bool :=
  isNameChar c
    || [';', '/', '?', ':', '@', '&', '=', '+', '$', '.', '!', '~', '*', '\'', '(', ')'].contains c
    || (verbatim && [',', '[', ']'].contains c)

/-
  The byte behind a percent sign, as a character of its own.
-/
def percentByte? : List Char → Option (Char × List Char)
  | a :: b :: rest => do
    let a ← Json.hexDigit? a
    let b ← Json.hexDigit? b
    if 16 * a + b < 0x80 then pure (Char.ofNat (16 * a + b), rest) else none
  | _ => none

/-
  The characters of a tag; a percent sign stands for a byte.
-/
def tagChars (verbatim : Bool) : Nat → List Char → Option (List Char × List Char)
  | 0, cs => some ([], cs)
  | fuel + 1, c :: cs =>
    if c == '%' then do
      let (d, rest) ← percentByte? cs
      let (word, rest) ← tagChars verbatim fuel rest
      pure (d :: word, rest)
    else if isTagChar verbatim c then do
      let (word, rest) ← tagChars verbatim fuel cs
      pure (c :: word, rest)
    else
      some ([], c :: cs)
  | _ + 1, [] => some ([], [])

def readTagChars (verbatim : Bool) (cs : List Char) : Option (List Char × List Char) :=
  tagChars verbatim (cs.length + 1) cs

/-
  The tags that handles stand for unless a document says otherwise.
-/
def defaultHandles : List (String × String) :=
  [("!", "!"), ("!!", "tag:yaml.org,2002:")]

def expandTag (handles : List (String × String)) (handle rest : String) : Option String :=
  ((handles ++ defaultHandles).find? fun h => h.1 == handle).map fun h => h.2 ++ rest

/-
  A tag after its exclamation mark: a whole tag between angle brackets, a handle between
  two exclamation marks with a rest, or a rest alone.
-/
def readTagText
    (handles : List (String × String)) :
    List Char → Option (String × List Char)
  | '<' :: cs => do
    let (word, rest) ← readTagChars true cs
    match rest with
    | '>' :: rest => if word.isEmpty then none else pure (String.ofList word, rest)
    | _ => none
  | cs => do
    let name := cs.takeWhile isNameChar
    match cs.dropWhile isNameChar with
    | '!' :: rest =>
      let (word, rest) ← readTagChars false rest
      if word.isEmpty then
        none
      else
        let tag ← expandTag handles (String.ofList ('!' :: (name ++ ['!']))) (String.ofList word)
        pure (tag, rest)
    | _ =>
      let (word, rest) ← readTagChars false cs
      if word.isEmpty then
        pure ("!", rest)
      else
        let tag ← expandTag handles "!" (String.ofList word)
        pure (tag, rest)

def readTag (inFlow : Bool) (handles : List (String × String)) (p : Place) :
    Option (String × Place) := do
  let (tag, rest) ← readTagText handles (p.rest.drop 1)
  if gapAhead rest || (inFlow && rest.head? == some ',') then
    pure (tag, p.skip (p.rest.length - rest.length))
  else
    none

------------------------------------------------------------
-- Properties of Nodes
------------------------------------------------------------

/-
  What may stand in front of a node: a name for it and a tag.
-/
structure Properties where
  anchor : Option String := none
  tag : Option String := none

namespace Properties

def isEmpty (p : Properties) : Bool := p.anchor.isNone && p.tag.isNone

/-
  Properties of one node from two lines, each of which may be given once.
-/
def merge (p q : Properties) : Option Properties :=
  if (p.anchor.isSome && q.anchor.isSome) || (p.tag.isSome && q.tag.isSome) then
    none
  else
    some ⟨p.anchor.orElse fun _ => q.anchor, p.tag.orElse fun _ => q.tag⟩

end Properties

/-
  The properties on the line that is reached, or inside brackets on all lines.
-/
def readProperties (inFlow : Bool) (line : Nat) : Nat → Properties → Read Properties
  | 0, props => pure props
  | fuel + 1, props => do
    let p ← skipGap inFlow
    if !inFlow && p.line != line then
      pure props
    else if p.rest.head? == some '&' then
      let (name, after) ← readName p
      let props ← props.merge ⟨some name, none⟩
      moveBehind after false
      readProperties inFlow line fuel props
    else if p.rest.head? == some '!' then
      let (tag, after) ← readTag inFlow (← get).handles p
      let props ← props.merge ⟨none, some tag⟩
      moveBehind after false
      readProperties inFlow line fuel props
    else
      pure props

/-
  Reads a node under a name, by which it may be referred to behind its beginning.
-/
def named (props : Properties) (read : Read Yaml) : Read Yaml := do
  match props.anchor with
  | none => read
  | some name =>
    modify fun r => { r with anchors := (name, none) :: r.anchors }
    let node ← read
    modify fun r => { r with anchors := finish name node r.anchors }
    pure node
where
  finish (name : String) (node : Yaml) : List (String × Option Yaml) → List (String × Option Yaml)
    | [] => []
    | (n, none) :: rest =>
      if n == name then (n, some node) :: rest else (n, none) :: finish name node rest
    | entry :: rest => entry :: finish name node rest

def readAlias (p : Place) : Read Yaml := do
  let (name, after) ← readName p
  match (← get).anchors.find? fun a => a.1 == name with
  | none => refuse
  | some (_, node) =>
    moveBehind after false
    pure (node.getD .endless)

------------------------------------------------------------
-- Keys
------------------------------------------------------------

/-
  A key on one line may not be longer than this.
-/
def keyLimit : Nat := 1024

/-
  Whether what began at a place is a key: it began where a key may begin, it is on one
  line, and a colon follows.  Outside of brackets the colon must be followed by a blank.
-/
def isKey (inFlow allowed : Bool) (start colon : Place) : Bool :=
  allowed && start.line == colon.line && colon.column ≤ start.column + keyLimit
    && (if inFlow then colon.rest.head? == some ':' else colon.atIndicator ':')

------------------------------------------------------------
-- Nodes inside Brackets
------------------------------------------------------------

/-
  A scalar, after its properties.
-/
def readLeaf (inFlow : Bool) (least : Nat) (tag : Option String) : Read Yaml := do
  let p ← place
  if p.atEnd || p.atIndicator '-' then
    refuse
  else
    match p.rest with
    | '\'' :: _ =>
      let (text, after) ← readSingle p
      moveBehind after false
      pure (.scalar .quoted tag text)
    | '"' :: _ =>
      let (text, after) ← readDouble p
      moveBehind after false
      pure (.scalar .quoted tag text)
    | cs =>
      if startsPlain inFlow cs then
        let (text, after, fresh) ← readPlain inFlow least p
        moveBehind after fresh
        pure (.scalar .plain tag text)
      else
        refuse

/-
  Whether nothing is written where a node inside brackets may stand.
-/
def nothingAhead (p : Place) : Bool :=
  p.rest.head?.any fun c => c == ',' || c == ']' || c == '}' || c == ':'

mutual

/-
  A node inside brackets.
-/
def flowNode (least : Nat) : Nat → Read Yaml
  | 0 => refuse
  | fuel + 1 => do
    let start ← skipGap true
    let props ← readProperties true start.line 3 {}
    named props (flowContent least fuel props)

/-
  A node inside brackets behind its properties.
-/
def flowContent (least : Nat) : Nat → Properties → Read Yaml
  | 0, _ => refuse
  | fuel + 1, props => do
    let p ← place
    match p.rest with
    | '[' :: _ =>
      moveBehind (p.skip 1) true
      pure (.sequence props.tag (← flowItems least fuel true))
    | '{' :: _ =>
      moveBehind (p.skip 1) true
      pure (.mapping props.tag (← flowEntries least fuel true))
    | '*' :: _ => if props.isEmpty then readAlias p else refuse
    | _ =>
      if !props.isEmpty && nothingAhead p then pure (empty props.tag)
      else readLeaf true least props.tag

/-
  The items of a sequence up to its closing bracket.
-/
def flowItems (least : Nat) : Nat → (first : Bool) → Read (List Yaml)
  | 0, _ => refuse
  | fuel + 1, first => do
    let p ← skipGap true
    match p.rest with
    | ']' :: _ =>
      moveBehind (p.skip 1) false
      pure []
    | c :: _ =>
      if !first && c != ',' then
        refuse
      else
        if !first then
          moveBehind (p.skip 1) true
        let start ← skipGap true
        if start.rest.head? == some ']' then
          moveBehind (start.skip 1) false
          pure []
        else
          let item ← flowItem least fuel
          pure (item :: (← flowItems least fuel false))
    | [] => refuse

/-
  An item of a sequence: a node, or a single entry of a mapping.
-/
def flowItem (least : Nat) : Nat → Read Yaml
  | 0 => refuse
  | fuel + 1 => do
    let start ← place
    let allowed := (← get).keyAllowed
    if start.rest.head? == some '?' then
      moveBehind (start.skip 1) false
      let p ← skipGap true
      let key ← if nothingAhead p then pure (empty none) else flowNode least fuel
      let value ← flowValue least fuel
      pure (.mapping none [(key, value)])
    else
      let node ← flowNode least fuel
      let p ← skipGap true
      if isKey true allowed start p then
        let value ← flowValue least fuel
        pure (.mapping none [(node, value)])
      else
        pure node

/-
  The value behind a key, if a colon announces one.
-/
def flowValue (least : Nat) : Nat → Read Yaml
  | 0 => refuse
  | fuel + 1 => do
    let p ← skipGap true
    if p.rest.head? == some ':' then
      moveBehind (p.skip 1) false
      let p ← skipGap true
      if p.rest.head?.any fun c => c == ',' || c == ']' || c == '}' then
        pure (empty none)
      else
        flowNode least fuel
    else
      pure (empty none)

/-
  The entries of a mapping up to its closing brace.
-/
def flowEntries (least : Nat) : Nat → (first : Bool) → Read (List (Yaml × Yaml))
  | 0, _ => refuse
  | fuel + 1, first => do
    let p ← skipGap true
    match p.rest with
    | '}' :: _ =>
      moveBehind (p.skip 1) false
      pure []
    | c :: _ =>
      if !first && c != ',' then
        refuse
      else
        if !first then
          moveBehind (p.skip 1) true
        let start ← skipGap true
        if start.rest.head? == some '}' then
          moveBehind (start.skip 1) false
          pure []
        else
          let entry ← flowEntry least fuel
          pure (entry :: (← flowEntries least fuel false))
    | [] => refuse

/-
  An entry of a mapping; a key alone has an empty value.
-/
def flowEntry (least : Nat) : Nat → Read (Yaml × Yaml)
  | 0 => refuse
  | fuel + 1 => do
    let start ← place
    let allowed := (← get).keyAllowed
    if start.rest.head? == some '?' then
      moveBehind (start.skip 1) false
      let p ← skipGap true
      let key ← if nothingAhead p then pure (empty none) else flowNode least fuel
      pure (key, ← flowValue least fuel)
    else
      let key ← flowNode least fuel
      let p ← skipGap true
      if isKey true allowed start p then
        pure (key, ← flowValue least fuel)
      else
        pure (key, empty none)

end

------------------------------------------------------------
-- Nodes outside of Brackets
------------------------------------------------------------

/-
  A node on one line or several that is no block: an alias, a bracketed node, a scalar,
  or nothing behind properties.
-/
def inlineNode (least fuel : Nat) (props : Properties) : Read Yaml :=
  named props do
    let p ← place
    match p.rest with
    | '|' :: _ => block false p
    | '>' :: _ => block true p
    | '[' :: _ => flowContent least fuel props
    | '{' :: _ => flowContent least fuel props
    | '*' :: _ => if props.isEmpty then readAlias p else refuse
    | _ =>
      if !props.isEmpty && (p.atEnd || p.atIndicator ':') then pure (empty props.tag)
      else readLeaf false least props.tag
where
  block (folded : Bool) (p : Place) : Read Yaml := do
    let (text, after) ← readBlock folded least p
    moveBehind after true
    pure (.scalar (if folded then .folded else .literal) props.tag text)

mutual

/-
  A node outside of brackets that belongs to a block before the column `least`.  As the
  value of a key it may be a sequence in the column of the key.  Properties from earlier
  lines are given.
-/
def blockNode : Nat → (least : Nat) → (ofKey : Bool) → Properties → Read Yaml
  | 0, _, _, _ => refuse
  | fuel + 1, least, ofKey, outer => do
    let p ← skipGap false
    if p.atEnd then
      named outer (pure (empty outer.tag))
    else if p.column < least then
      if ofKey && p.column + 1 == least && p.atIndicator '-' then
        named outer do
          pure (.sequence outer.tag (← blockItems fuel p.column true))
      else
        named outer (pure (empty outer.tag))
    else if p.atIndicator '-' then
      named outer do
        pure (.sequence outer.tag (← blockItems fuel p.column false))
    else if p.atIndicator '?' then
      named outer do
        pure (.mapping outer.tag (← blockEntries fuel p.column))
    else
      blockContent fuel least ofKey outer

/-
  A node that begins with properties, a scalar or a bracket; it may turn out to be the
  first key of a mapping.
-/
def blockContent : Nat → (least : Nat) → (ofKey : Bool) → Properties → Read Yaml
  | 0, _, _, _ => refuse
  | fuel + 1, least, ofKey, outer => do
    let start ← place
    let allowed := (← get).keyAllowed
    let props ← readProperties false start.line 3 {}
    let p ← place
    if !props.isEmpty && p.line != start.line then
      blockNode fuel least ofKey (← outer.merge props)
    else
      named outer do
        let node ← inlineNode least fuel props
        let colon ← skipGap false
        if isKey false allowed start colon then
          pure (.mapping outer.tag (← blockEntriesFrom fuel start.column node))
        else if !outer.isEmpty && p.rest.head? == some '*' then
          refuse
        else
          let whole ← outer.merge props
          pure (node.withTag whole.tag)

/-
  The items of a sequence whose dashes stand in one column.  A sequence in the column of
  a key ends where the next key begins.
-/
def blockItems : Nat → (column : Nat) → (ofKey : Bool) → Read (List Yaml)
  | 0, _, _ => refuse
  | fuel + 1, column, ofKey => do
    let p ← skipGap false
    if p.atEnd || p.column < column then
      pure []
    else if p.column == column && p.atIndicator '-' && (← get).keyAllowed then
      moveBehind (p.skip 1) true
      let item ← blockNode fuel (column + 1) false {}
      pure (item :: (← blockItems fuel column ofKey))
    else if ofKey then
      pure []
    else
      refuse

/-
  The entries of a mapping whose keys begin in one column.
-/
def blockEntries : Nat → (column : Nat) → Read (List (Yaml × Yaml))
  | 0, _ => refuse
  | fuel + 1, column => do
    let p ← skipGap false
    if p.atEnd || p.column < column then
      pure []
    else if p.column != column || !(← get).keyAllowed then
      refuse
    else if p.atIndicator '?' then
      moveBehind (p.skip 1) true
      let key ← blockNode fuel (column + 1) true {}
      let colon ← skipGap false
      if !colon.atEnd && colon.column == column && colon.atIndicator ':' then
        moveBehind (colon.skip 1) true
        let value ← blockNode fuel (column + 1) true {}
        pure ((key, value) :: (← blockEntries fuel column))
      else
        pure ((key, empty none) :: (← blockEntries fuel column))
    else
      let props ← readProperties false p.line 3 {}
      let key ← inlineNode (column + 1) fuel props
      let colon ← skipGap false
      if isKey false true p colon then blockEntriesFrom fuel column key else refuse

/-
  The entries of a mapping from the colon behind a key on.
-/
def blockEntriesFrom : Nat → (column : Nat) → (key : Yaml) → Read (List (Yaml × Yaml))
  | 0, _, _ => refuse
  | fuel + 1, column, key => do
    let colon ← place
    moveBehind (colon.skip 1) false
    let value ← blockNode fuel (column + 1) true {}
    pure ((key, value) :: (← blockEntries fuel column))

end

------------------------------------------------------------
-- Documents
------------------------------------------------------------

/-
  Behind the words of a directive only a comment may stand.
-/
def endLine (p : Place) : Option Place :=
  let rest := p.rest.dropWhile isSpace
  let rest := if rest.head? == some '#' then rest.dropWhile fun c => !isBreak c else rest
  match rest with
  | [] => some ⟨[], p.line, 0⟩
  | c :: rest => if isBreak c then some ⟨rest, p.line + 1, 0⟩ else none

/-
  The numbers of a version; the first must be one, the second one or two.
-/
def isKnownVersion (word : List Char) : Bool :=
  word == ['1', '.', '1'] || word == ['1', '.', '2']

/-
  The words of a line that begins with a percent sign.
-/
def directive? (rest : List Char) : Option (List (List Char)) :=
  let line := (rest.drop 1).takeWhile fun c => !isBreak c
  let words := line.splitBy (fun a b => isSpace a == isSpace b)
  let words := words.filter fun w => !(w.head?.any isSpace)
  some (words.takeWhile fun w => w.head? != some '#')

/-
  Reads the directives in front of a document.
-/
def readDirectives : Nat → (versions : Nat) → Read Unit
  | 0, _ => refuse
  | fuel + 1, versions => do
    let p ← skipGap false
    if p.column == 0 && p.rest.head? == some '%' then
      let after ← endLine ⟨p.rest.dropWhile fun c => !isBreak c, p.line, 0⟩
      match ← directive? p.rest with
      | [['Y', 'A', 'M', 'L'], version] =>
        if isKnownVersion version && versions == 0 then
          moveTo after
          readDirectives fuel 1
        else
          refuse
      | [['T', 'A', 'G'], handle, start] =>
        let handle := String.ofList handle
        if (← get).handles.any fun h => h.1 == handle then
          refuse
        else
          modify fun r => { r with handles := (handle, String.ofList start) :: r.handles }
          moveTo after
          readDirectives fuel versions
      | _ => refuse
    else
      pure ()

/-
  Behind a document only marks of its end may stand.
-/
def readEnd : Nat → Read Unit
  | 0 => refuse
  | fuel + 1 => do
    let p ← skipGap false
    if p.rest.isEmpty then
      pure ()
    else if p.atMarker '.' then
      moveBehind (p.skip 3) false
      readEnd fuel
    else
      refuse

/-
  The one document of a text.
-/
def readDocument (fuel : Nat) : Read Yaml := do
  let p ← skipGap false
  if p.rest.isEmpty then
    pure (empty none)
  else
    let hasDirectives := p.rest.head? == some '%'
    readDirectives fuel 0
    let p ← skipGap false
    if p.atMarker '-' then
      moveBehind (p.skip 3) false
    else if hasDirectives || p.atMarker '.' then
      refuse
    let node ← blockNode fuel 0 false {}
    readEnd fuel
    pure node

/-
  The node written by a whole text, if that is a single document.
-/
def parse (s : String) : Option Yaml := do
  let cs := match s.toList with
    | '\uFEFF' :: rest => rest
    | cs => cs
  if cs.all isAllowed then
    let cs := uniformBreaks cs
    let (node, _) ← (readDocument (4 * cs.length + 16)).run ⟨⟨cs, 0, 0⟩, true, [], []⟩
    pure node
  else
    none

end Yaml

end Devirt
