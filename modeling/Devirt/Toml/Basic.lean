/-
  TOML values and the building of a document from its lines.

  A document is a tree of tables.  How a table came to be decides what may be added to
  it later: a table written between braces is closed, a table that a header opened may
  not be opened again, and the tables along a dotted name belong to dotted names only.

  Key definitions include:
    * `Toml`, `TableOrigin`
    * `Toml.descend`, the change of a table inside a tree
    * `Toml.Statement`, `Toml.ofStatements`
-/

namespace Devirt

------------------------------------------------------------
-- Values
------------------------------------------------------------

/-
  How a table came to be: between braces, by a header of its own, along the name of
  another header, or along a dotted name.
-/
inductive TableOrigin where
  | braces
  | header
  | implied
  | dotted
  deriving DecidableEq, Repr, Inhabited

/-
  A value.  Dates and times keep their text only, and the tables under a doubled header
  form a list of their own.
-/
inductive Toml where
  | text (s : String)
  | integer (n : Int)
  | real (x : Float)
  | bool (b : Bool)
  | moment (s : String)
  | array (items : List Toml)
  | table (origin : TableOrigin) (entries : List (String × Toml))
  | tables (items : List Toml)
  deriving Repr, BEq, Inhabited

namespace Toml

------------------------------------------------------------
-- Entries
------------------------------------------------------------

def lookup? (key : String) (entries : List (String × Toml)) : Option Toml :=
  (entries.find? fun e => e.1 == key).map (·.2)

/-
  Puts a value in the place of an earlier one, or behind all others.
-/
def put (key : String) (value : Toml) : List (String × Toml) → List (String × Toml)
  | [] => [(key, value)]
  | (k, v) :: rest => if k == key then (k, value) :: rest else (k, v) :: put key value rest

------------------------------------------------------------
-- Changes inside a Tree
------------------------------------------------------------

/-
  Whether a name may lead through a table: the name of a header through all tables
  without braces, a dotted name only through those that no header opened.
-/
def isPassable (dotted : Bool) : TableOrigin → Bool
  | .braces => false
  | .header => !dotted
  | .implied => true
  | .dotted => true

/-
  Changes the last of several tables.
-/
def changeLast (f : Toml → Option Toml) : List Toml → Option (List Toml)
  | [] => none
  | [t] => (f t).map ([·])
  | t :: rest => (changeLast f rest).map (t :: ·)

/-
  The value under a name on the way to another, changed; a name that is missing begins a
  new table.
-/
def step (dotted : Bool) (f : Toml → Option Toml) : Option Toml → Option Toml
  | none => f (.table (if dotted then .dotted else .implied) [])
  | some (.table origin entries) =>
    if isPassable dotted origin then f (.table origin entries) else none
  | some (.tables items) => (changeLast f items).map .tables
  | some _ => none

/-
  Changes the table that a path of names leads to.
-/
def descend
    (dotted : Bool)
    (f : Toml → Option Toml) :
    List String → Toml → Option Toml
  | [], t => f t
  | key :: path, .table origin entries =>
    (step dotted (descend dotted f path) (lookup? key entries)).map
      fun t => .table origin (put key t entries)
  | _ :: _, _ => none

/-
  Adds a value under a new name.  Through a dotted name only tables of dotted names are
  added to.
-/
def add (viaDots : Bool) (key : String) (value : Toml) : Toml → Option Toml
  | .table origin entries =>
    if viaDots && origin != .dotted then
      none
    else if (lookup? key entries).isSome then
      none
    else
      some (.table origin (entries ++ [(key, value)]))
  | _ => none

/-
  A name with all its dots: the names that lead to a table, and the name inside it.
-/
structure Path where
  path : List String
  key : String
  deriving DecidableEq, Repr, Inhabited

def Path.toList (p : Path) : List String := p.path ++ [p.key]

def assign (name : Path) (value : Toml) (t : Toml) : Option Toml :=
  descend true (add (!name.path.isEmpty) name.key value) name.path t

/-
  Opens the table of a header: a new one, or one that was only implied so far.
-/
def openTable (key : String) : Toml → Option Toml
  | .table origin entries =>
    match lookup? key entries with
    | none => some (.table origin (put key (.table .header []) entries))
    | some (.table .implied inner) => some (.table origin (put key (.table .header inner) entries))
    | some _ => none
  | _ => none

/-
  Opens one more table of a doubled header.
-/
def openItem (key : String) : Toml → Option Toml
  | .table origin entries =>
    match lookup? key entries with
    | none => some (.table origin (put key (.tables [.table .header []]) entries))
    | some (.tables items) =>
      some (.table origin (put key (.tables (items ++ [.table .header []])) entries))
    | some _ => none
  | _ => none

------------------------------------------------------------
-- Documents
------------------------------------------------------------

/-
  What a line says.
-/
inductive Statement where
  | assign (name : Path) (value : Toml)
  | table (name : Path)
  | item (name : Path)
  deriving Repr, Inhabited

/-
  A document so far, and the path of the table that lines are added to.
-/
structure Draft where
  root : Toml := .table .header []
  current : List String := []

namespace Draft

def apply (d : Draft) : Statement → Option Draft
  | .assign name value => do
    pure { d with root := ← descend false (Toml.assign name value) d.current d.root }
  | .table name => do
    pure { root := ← descend false (openTable name.key) name.path d.root, current := name.toList }
  | .item name => do
    pure { root := ← descend false (openItem name.key) name.path d.root, current := name.toList }

end Draft

def ofStatements (statements : List Statement) : Option Toml :=
  (statements.foldlM Draft.apply {}).map (·.root)

end Toml

end Devirt
