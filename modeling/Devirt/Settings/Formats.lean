import Devirt.Settings.Reader
import Devirt.Json.Reader
import Devirt.Toml.Reader
import Devirt.Yaml.Reader
import Devirt.Yaml.Number

/-
  The formats in which settings may be written.

  Key definitions include:
    * `Format.toml`, `Format.yaml`
    * `Settings.ofToml?`, `Settings.ofJson?`, `Settings.ofYaml?`
-/

namespace Devirt

namespace Format

------------------------------------------------------------
-- TOML
------------------------------------------------------------

def tomlNatural? : Toml → Option Nat
  | .integer (.ofNat n) => some n
  | _ => none

def tomlReal? : Toml → Option Float
  | .integer (.ofNat n) => some (Decimal.ofNat n)
  | .integer (.negSucc n) => some (-Decimal.ofNat (n + 1))
  | .real x => some x
  | _ => none

/-
  Whether a value holds nothing, as the one below the name of a choice must.
-/
def tomlIsEmpty : Toml → Bool
  | .array items => items.isEmpty
  | .tables items => items.isEmpty
  | .table _ entries => entries.isEmpty
  | _ => false

def tomlChoice? : Toml → Option String
  | .text s => some s
  | .table _ [(name, value)] => if tomlIsEmpty value then some name else none
  | _ => none

def tomlOptionalText? : Toml → Option (Option String)
  | .text s => some (some s)
  | _ => none

/-
  A record is a table, or a list whose further items are passed over.  A date or time is
  a record without any of the fields.
-/
def tomlRecord? (names : List String) : Toml → Option (List (String × Toml))
  | .table _ entries => named names entries
  | .array items => some (names.zip items)
  | .tables items => some (names.zip items)
  | .moment _ => some []
  | _ => none

def toml : Format Toml where
  natural? := tomlNatural?
  real? := tomlReal?
  choice? := tomlChoice?
  optionalText? := tomlOptionalText?
  record? := tomlRecord?

------------------------------------------------------------
-- YAML
------------------------------------------------------------

/-
  The text of a scalar that may stand for a number: a plain one, or a literal block with
  the tag of its type.
-/
def yamlNumeral? (tag : String) : Yaml → Option String
  | .scalar .plain _ text => some text
  | .scalar .literal own text => if own == some tag then some text else none
  | _ => none

def yamlNatural? (node : Yaml) : Option Nat :=
  (yamlNumeral? "tag:yaml.org,2002:int" node).bind Yaml.natural?

def yamlReal? (node : Yaml) : Option Float :=
  (yamlNumeral? "tag:yaml.org,2002:float" node).bind Yaml.real?

/-
  The choice named by a tag of the document itself.
-/
def choiceOfTag? (tag : String) : Option String :=
  match tag.toList with
  | ['!'] => some "!"
  | '!' :: name => some (String.ofList name)
  | _ => none

/-
  A choice is a text, or the tag of a scalar that says nothing.
-/
def yamlChoice? : Yaml → Option String
  | .scalar style tag text =>
    match tag.bind choiceOfTag? with
    | some name =>
      if style == .plain && (text.isEmpty || Yaml.isNull text) then some name else none
    | none => some text
  | _ => none

def yamlOptionalText? : Yaml → Option (Option String)
  | .scalar .plain none text =>
    some (if text.isEmpty || Yaml.isNull text then none else some text)
  | .scalar .plain (some tag) text =>
    if tag == "tag:yaml.org,2002:null" then
      if Yaml.isNull text then some none else none
    else
      some (some text)
  | .scalar _ _ text => some (some text)
  | _ => none

def yamlKey? : Yaml × Yaml → Option (String × Yaml)
  | (.scalar _ _ text, value) => some (text, value)
  | _ => none

/-
  A record is a mapping with scalars for keys, or nothing at all.
-/
def yamlRecord? (names : List String) : Yaml → Option (List (String × Yaml))
  | .mapping _ entries => (entries.mapM yamlKey?).bind (named names)
  | .scalar .plain _ "" => some []
  | _ => none

def yaml : Format Yaml where
  natural? := yamlNatural?
  real? := yamlReal?
  choice? := yamlChoice?
  optionalText? := yamlOptionalText?
  record? := yamlRecord?

end Format

------------------------------------------------------------
-- Settings
------------------------------------------------------------

namespace Settings

def ofToml? (s : String) : Option Settings :=
  (Toml.parse s).bind (Settings.read Format.toml)

def ofJson? (s : String) : Option Settings :=
  (Json.parse s).bind (Settings.read Format.json)

def ofYaml? (s : String) : Option Settings :=
  (Yaml.parse s).bind (Settings.read Format.yaml)

end Settings

end Devirt
