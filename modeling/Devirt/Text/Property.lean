import Devirt.Text.Property.Categories
import Devirt.Text.Property.Scripts
import Devirt.Text.Property.Traits

/-
  Properties of characters by their names.

  Key definitions include:
    * `Text.property?`
-/

namespace Devirt

namespace Text

------------------------------------------------------------
-- Categories
------------------------------------------------------------

/-
  The characters of some entries, no two of which have one in common.
-/
def joinEntries (es : List Entry) : Borders :=
  es.foldl (fun done e => Borders.union done e.borders) []

/-
  The characters without a category of their own.
-/
def unassigned : Borders :=
  (joinEntries categoryTable).complement

/-
  Categories that are made of others.
-/
def wideCategories : List (List String × List String) :=
  [ (["Cased_Letter", "LC"], ["Lu", "Ll", "Lt"])
  , (["Letter", "L"], ["Lu", "Ll", "Lt", "Lm", "Lo"])
  , (["Mark", "M", "Combining_Mark"], ["Mn", "Mc", "Me"])
  , (["Number", "N"], ["Nd", "Nl", "No"])
  , (["Punctuation", "P", "punct"], ["Pc", "Pd", "Ps", "Pe", "Pi", "Pf", "Po"])
  , (["Symbol", "S"], ["Sm", "Sc", "Sk", "So"])
  , (["Separator", "Z"], ["Zs", "Zl", "Zp"])
  , (["Other", "C"], ["Cc", "Cf", "Cs", "Co", "Cn"]) ]

def narrowCategory? (name : String) : Option Borders :=
  if name == "Cn" || name == "Unassigned" then some unassigned
  else (Entry.find? categoryTable name).map Entry.borders

def joinCategories (names : List String) : Borders :=
  names.foldl (fun done x => Borders.union done ((narrowCategory? x).getD [])) []

def category? (name : String) : Option Borders :=
  match wideCategories.find? fun c => c.1.contains name with
  | some (_, names) => some (joinCategories names)
  | none => narrowCategory? name

------------------------------------------------------------
-- Scripts
------------------------------------------------------------

def script? (name : String) : Option Borders :=
  (Entry.find? scriptTable name).map Entry.borders

/-
  The characters that are used in a script.
-/
def scriptUse? (name : String) : Option Borders := do
  let e ← Entry.find? scriptTable name
  let differences := e.names.findSome? (Entry.find? scriptUseTable)
  pure (e.borders.toggle ((differences.map Entry.borders).getD []))

------------------------------------------------------------
-- Traits
------------------------------------------------------------

def trait? (name : String) : Option Borders :=
  match name with
  | "Any" => some [0]
  | "ASCII" => some (.between 0 127)
  | "Assigned" => some unassigned.complement
  | _ =>
    (traitTable.find? fun t => t.names.contains name).map fun t =>
      (joinCategories t.categories).toggle t.difference

/-
  The characters that a text in the braces of a property stands for.
-/
def property? (text : String) : Option Borders :=
  let cs := text.toList
  let name := String.ofList (cs.takeWhile (· != '='))
  match cs.dropWhile (· != '=') with
  | _ :: rest =>
    let value := String.ofList rest
    match name with
    | "General_Category" | "gc" => category? value
    | "Script" | "sc" => script? value
    | "Script_Extensions" | "scx" => scriptUse? value
    | _ => none
  | [] => (category? name).orElse fun _ => trait? name

end Text

end Devirt
