import Devirt.Realm.Member
import Devirt.Realm.Conversion

/-
  Values as they are shown to people.

  Showing a value runs no code: only members that hold values are looked at.

  Key definitions include:
    * `showValue`
    * `World.show`
-/

namespace Devirt

namespace Realm

namespace World

------------------------------------------------------------
-- Parts
------------------------------------------------------------

/-
  A value that a member of an object holds, perhaps an inherited one.
-/
def held? (w : World) (r : Ref) (k : Key) : Option Value :=
  match lookupIn w.objects k w.objects.size r with
  | some ⟨.data v _, _, _⟩ => some v
  | _ => none

def heldText? (w : World) (r : Ref) (k : Key) : Option String :=
  match w.held? r k with
  | some (.string s) => some s.toText
  | _ => none

def symbolShown (w : World) (id : Nat) : String :=
  "Symbol(" ++ (((w.symbols.getD id none).map Units.toText).getD "") ++ ")"

/-
  The name and the message of an error.
-/
def errorShown (w : World) (r : Ref) : String :=
  let name := (w.heldText? r Key.name).getD "Error"
  let message := (w.heldText? r Key.message).getD ""
  if name.isEmpty then message
  else if message.isEmpty then name
  else name ++ ": " ++ message

def isConstructor : Kind → Bool
  | .closure c => c.isClass || isConstructorInfo c.info
  | .native (.make _) => true
  | _ => false
where
  isConstructorInfo (info : Script.FunctionInfo) : Bool :=
    !info.isAsync && !info.isGenerator && info.kind == .normal

def functionShown (w : World) (r : Ref) (kind : Kind) : String :=
  let name := (w.heldText? r Key.name).getD ""
  if isConstructor kind then
    if name.isEmpty then "[class (anonymous)]" else "[class " ++ name ++ "]"
  else
    if name.isEmpty then "[Function (anonymous)]" else "[Function: " ++ name ++ "]"

/-
  A value that is no object.
-/
def primitiveShown (w : World) : Value → String
  | .undefined => "undefined"
  | .null => "null"
  | .bool b => if b then "true" else "false"
  | .number x => if x == 0 && Decimal.isNegative x then "-0" else numberText x
  | .bigint n => toString n ++ "n"
  | .string s => "\"" ++ s.toText ++ "\""
  | .symbol id => w.symbolShown id
  | .object _ => ""

def keyShown (w : World) : Key → String
  | .symbol id => "[" ++ w.symbolShown id ++ "]"
  | k => (k.text?.map Units.toText).getD ""

def indentation (n : Nat) : String := String.ofList (List.replicate n ' ')

def surrounded (opening : String) (parts : List String) : String :=
  opening ++ " \x7b " ++ ", ".intercalate parts ++ " \x7d"

------------------------------------------------------------
-- Values
------------------------------------------------------------

/-
  A value as it is shown.  The parts of a list are shown only if it is not itself a part.
  The fuel bounds how deep objects are nested; those around the value are known, so that
  a circle is noticed.
-/
def showWithin (w : World) : Nat → List Ref → Nat → Bool → Value → String
  | 0, _, _, _, _ => ""
  | fuel + 1, around, indent, isWhole, .object r =>
    let o := w.objects.getD r default
    let part := showWithin w fuel (r :: around) indent false
    match o.kind with
    | .array n _ =>
      if n == 0 then "[]"
      else if !isWhole then "Array(" ++ toString n ++ ")"
      else
        let items := (List.range n).map fun i =>
          match o.own? (.ofNat i) with
          | some ⟨.data v _, _, _⟩ => part v
          | _ => "<empty>"
        "[ " ++ ", ".intercalate items ++ " ]"
    | .collection c es =>
      let present := es.toList.filterMap id
      let name := match c with
        | .map => "Map"
        | .set => "Set"
        | .weakMap => "WeakMap"
        | .weakSet => "WeakSet"
      if c == .weakMap || c == .weakSet then "\x7b\n\n\x7d"
      else if present.isEmpty || !isWhole then name ++ "(" ++ toString present.length ++ ")"
      else
        surrounded name (present.map fun (k, v) =>
          if c == .map then part k ++ " → " ++ part v else part k)
    | .wrapper (.string s) => "String \x7b \"" ++ s.toText ++ "\" \x7d"
    | .wrapper (.number x) => surrounded "Number" [w.primitiveShown (.number x)]
    | .wrapper (.bool b) => surrounded "Boolean" [w.primitiveShown (.bool b)]
    | .error => w.errorShown r
    | .promise .pending | .promise .following => surrounded "Promise" ["<pending>"]
    | .promise (.fulfilled v) => surrounded "Promise" [part v]
    | .promise (.rejected v) => surrounded "Promise" ["<rejected> " ++ part v]
    | .closure _ | .native _ | .bound _ _ _ => w.functionShown r o.kind
    | _ =>
      if around.contains r then
        "[Cycle]"
      else
        let inner := indent + 4
        let members := o.keys.filterMap fun k =>
          match o.own? k with
          | some p =>
            let shown := match p.slot with
              | .data v _ => showWithin w fuel (r :: around) inner false v
              | .accessor .undefined _ => "Setter"
              | .accessor _ .undefined => "Getter"
              | .accessor _ _ => "Getter & Setter"
            some (indentation inner ++ w.keyShown k ++ ": " ++ shown)
          | none => none
        "\x7b\n" ++ ",\n".intercalate members ++ "\n" ++ indentation indent ++ "\x7d"
  | _ + 1, _, _, _, v => w.primitiveShown v

/-
  A value as it is shown.
-/
def shown (w : World) (v : Value) : String :=
  w.showWithin (w.objects.size + 2) [] 0 true v

end World

end Realm

end Devirt
