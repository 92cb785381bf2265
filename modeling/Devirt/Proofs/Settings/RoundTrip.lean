import Devirt.Proofs.Json.Layout
import Devirt.Proofs.Yaml.Forms
import Devirt.Settings.Printer

/-
  Written settings are read back.

  A format renders settings as nodes: the value of every field
  becomes a node that is understood as that value, and fields
  become a record of their nodes.  Whatever the format, reading
  such a record gives the settings.  What is left for each
  format is that its text is parsed as such a record.

  Doubles are the exception: a finite one is read as some
  double.

  Main declarations:
    * `Setting.Fits`, `Settings.Fits`
    * `Setting.Held`, `Rendering`
    * `Rendering.read_settings`
    * `Settings.parse_writeJson`, `Settings.parse_writeYaml`
    * `Settings.written_restored`
-/

------------------------------------------------------------
-- Fields
------------------------------------------------------------

namespace Devirt

namespace Setting

/- Numbers of sixty-four bits, and finite doubles. -/
def Fits : Setting → Prop
  | natural n => n < 2 ^ 64
  | real x => x.isNaN = false ∧ x.isInf = false
  | text _ => True
  | absent => True

instance : DecidablePred Fits
  | natural n => inferInstanceAs (Decidable (n < 2 ^ 64))
  | real x =>
    inferInstanceAs
      (Decidable (x.isNaN = false ∧ x.isInf = false))
  | text _ => isTrue trivial
  | absent => isTrue trivial

variable {Node : Type}

/- A node that a format understands as the value of a field. -/
def Held (f : Format Node) (node : Node) : Setting → Prop
  | natural n => f.natural? node = some n
  | real _ => ∃ y, f.real? node = some y
  | text s =>
    f.choice? node = some s ∧ f.optionalText? node = some (some s)
  | absent => f.optionalText? node = some none

theorem held_ofOption
    {f : Format Node}
    {node : Node}
    {program : Option String}
    (hHeld : (ofOption program).Held f node) :
    f.optionalText? node = some program := by
  cases program with
  | none => exact hHeld
  | some s => exact hHeld.2

end Setting

/- Settings whose values are of the width of their fields. -/
def Settings.Fits (s : Settings) : Prop :=
  ∀ part ∈ s.sections, ∀ field ∈ part.2, field.2.Fits

instance (s : Settings) : Decidable s.Fits :=
  inferInstanceAs
    (Decidable
      (∀ part ∈ s.sections, ∀ field ∈ part.2, field.2.Fits))

theorem Settings.sections_ne_nil
    (s : Settings) :
    s.sections ≠ [] := by
  simp [sections]

theorem Settings.fields_ne_nil
    (s : Settings) :
    ∀ part ∈ s.sections, part.2 ≠ [] := by
  simp [sections, SandboxSettings.fields, ReplaySettings.fields,
    DetectorSettings.fields, StrategySettings.fields]

theorem Isolation.ofName?_name
    (i : Isolation) :
    ofName? i.name = some i := by
  cases i <;> rfl

end Devirt

------------------------------------------------------------
-- Renderings
------------------------------------------------------------

namespace Devirt

variable {Node : Type}

/- Fields that are all known and all different are kept. -/
theorem Format.named_all
    {names : List String}
    {fields : List (String × Node)}
    (hNames : fields.map (·.1) = names)
    (hOnce : names.eraseDups = names) :
    Format.named names fields = some fields := by
  have hKnown :
      (fields.filter fun f => names.contains f.1) = fields := by
    rw [List.filter_eq_self]
    intro f hMember
    subst hNames
    simpa using ⟨f.2, hMember⟩
  have hLength : names.length = fields.length := by
    rw [← hNames, List.length_map]
  simp only [Format.named, hKnown, hNames, hOnce, hLength,
    beq_self_eq_true, if_true]

/- How the nodes of a format stand for settings. -/
structure Rendering (f : Format Node) where
  record : List (String × Node) → Node
  value : Setting → Node
  record?_record :
    ∀ names fields,
      f.record? names (record fields) = Format.named names fields
  held : ∀ v : Setting, v.Fits → v.Held f (value v)

namespace Rendering

variable {f : Format Node}

def fields
    (r : Rendering f)
    (entries : List (String × Setting)) :
    Node :=
  r.record (entries.map fun e => (e.1, r.value e.2))

def settings (r : Rendering f) (s : Settings) : Node :=
  r.record (s.sections.map fun e => (e.1, r.fields e.2))

variable (r : Rendering f)

theorem record?_all
    {names : List String}
    {fields : List (String × Node)}
    (hNames : fields.map (·.1) = names)
    (hOnce : names.eraseDups = names) :
    f.record? names (r.record fields) = some fields := by
  rw [r.record?_record, Format.named_all hNames hOnce]

theorem held_all
    {entries : List (String × Setting)}
    (hFits : ∀ e ∈ entries, e.2.Fits) :
    ∀ e ∈ entries, e.2.Held f (r.value e.2) :=
  fun e hMember => r.held e.2 (hFits e hMember)

theorem read_sandbox
    {s : SandboxSettings}
    (hFits : ∀ e ∈ s.fields, e.2.Fits) :
    SandboxSettings.read f (r.fields s.fields) = some s := by
  have hHeld := r.held_all hFits
  have hProgram :=
    Setting.held_ofOption
      (hHeld ("worker_program", .ofOption s.workerProgram)
        (by simp [SandboxSettings.fields]))
  simp only [SandboxSettings.fields, List.forall_mem_cons,
    Setting.Held] at hHeld
  unfold SandboxSettings.read fields
  rw [r.record?_all (by rfl) (by decide)]
  simp [SandboxSettings.fields, Format.field, hHeld, hProgram,
    Isolation.ofName?_name]

theorem read_replay
    {s : ReplaySettings}
    (hFits : ∀ e ∈ s.fields, e.2.Fits) :
    ReplaySettings.read f (r.fields s.fields) = some s := by
  have hHeld := r.held_all hFits
  simp only [ReplaySettings.fields, List.forall_mem_cons,
    Setting.Held] at hHeld
  unfold ReplaySettings.read fields
  rw [r.record?_all (by rfl) (by decide)]
  simp [ReplaySettings.fields, Format.field, hHeld]

theorem read_detector
    {s : DetectorSettings}
    (hFits : ∀ e ∈ s.fields, e.2.Fits) :
    DetectorSettings.read f (r.fields s.fields) = some s := by
  have hHeld := r.held_all hFits
  simp only [DetectorSettings.fields, List.forall_mem_cons,
    Setting.Held] at hHeld
  unfold DetectorSettings.read fields
  rw [r.record?_all (by rfl) (by decide)]
  simp [DetectorSettings.fields, Format.field, hHeld]

theorem read_strategy
    {s : StrategySettings}
    (hFits : ∀ e ∈ s.fields, e.2.Fits) :
    ∃ x,
      StrategySettings.read f (r.fields s.fields) =
        some { s with assistantConfidence := x } := by
  have hHeld := r.held_all hFits
  simp only [StrategySettings.fields, List.forall_mem_cons,
    Setting.Held] at hHeld
  rcases hHeld with ⟨hLimit, ⟨x, hConfidence⟩, hPrompt, -⟩
  refine ⟨x, ?_⟩
  unfold StrategySettings.read fields
  rw [r.record?_all (by rfl) (by decide)]
  simp [StrategySettings.fields, Format.field, hLimit,
    hConfidence, hPrompt]

/- The settings are read from whatever stands for them. -/
theorem read_settings
    {s : Settings}
    (hFits : s.Fits) :
    ∃ x,
      Settings.read f (r.settings s) =
        some
          { s with
            strategy :=
              { s.strategy with assistantConfidence := x } } := by
  simp only [Settings.Fits, Settings.sections,
    List.forall_mem_cons] at hFits
  rcases hFits with ⟨hSandbox, hReplay, hDetector, hStrategy, -⟩
  rcases r.read_strategy hStrategy with ⟨x, hRead⟩
  refine ⟨x, ?_⟩
  unfold Settings.read settings
  rw [r.record?_all (by rfl) (by decide)]
  simp [Settings.sections, Format.field,
    r.read_sandbox hSandbox, r.read_replay hReplay,
    r.read_detector hDetector, hRead]

end Rendering

end Devirt

------------------------------------------------------------
-- JSON
------------------------------------------------------------

namespace Devirt

open Json (Reads readValue prettyAt)

/- The written value of a field is read as that value. -/
theorem Setting.reads_json
    (v : Setting)
    (hFits : v.Fits) :
    ∃ node,
      (∀ depth level,
        Reads (readValue depth) (prettyAt level v.toJson).toList
          node) ∧
        v.Held Format.json node := by
  cases v with
  | natural n =>
      have hBound : n < Json.Number.naturalBound := hFits
      have hJson : Json.nat n = .number (.natural n) :=
        if_pos hBound
      refine ⟨.number (.natural n), ?_, rfl⟩
      intro depth level
      simp only [toJson, hJson, prettyAt]
      exact Json.reads_number depth hBound
  | real x =>
      rcases hFits with ⟨hNumber, hFinite⟩
      rcases Json.reads_real hNumber hFinite with ⟨y, hReads⟩
      have hJson : Json.real x = .number (.real x) := by
        simp only [Json.real, hNumber, hFinite, Bool.or_false,
          Bool.false_eq_true, if_false]
      refine ⟨.number (.real y), ?_, y, rfl⟩
      intro depth level
      simp only [toJson, hJson, prettyAt]
      exact hReads depth
  | text s =>
      refine ⟨.text s, ?_, rfl, rfl⟩
      intro depth level
      exact Json.reads_text depth s
  | absent =>
      refine ⟨.null, ?_, rfl⟩
      intro depth level
      simp only [toJson, prettyAt]
      exact
        Json.reads_scalar (c := 'n') depth rfl (by decide)
          (fun rest _ => rfl)

/- The written settings are parsed as what stands for them. -/
theorem Settings.parse_writeJson
    {s : Settings}
    (hFits : s.Fits) :
    ∃ r : Rendering Format.json,
      Json.parse s.writeJson = some (r.settings s) := by
  choose! value hReads hHeld using Setting.reads_json
  let r : Rendering Format.json :=
    ⟨.object, value, fun _ _ => rfl, hHeld⟩
  let write (fields : List (String × Setting)) : Json :=
    .object (fields.map fun e => (e.1, e.2.toJson))
  have hParts
      (depth level : Nat) :
      ∀ part ∈ s.sections,
        Reads (readValue (depth + 1))
          (prettyAt level (write part.2)).toList
          (r.fields part.2) := by
    intro part hMember
    apply
      Json.reads_object Setting.toJson value
        (s.fields_ne_nil part hMember)
    intro field hField
    exact
      hReads field.2 (hFits part hMember field hField) depth
        (level + 1)
  have hAll
      (depth level : Nat) :
      Reads (readValue (depth + 1 + 1))
        (prettyAt level s.toJson).toList (r.settings s) :=
    Json.reads_object write r.fields s.sections_ne_nil
      (hParts depth (level + 1))
  exact ⟨r, Json.parse_pretty (hAll 125 0)⟩

end Devirt

------------------------------------------------------------
-- YAML
------------------------------------------------------------

namespace Devirt

open Yaml (Entry IsKey)

/- The written value of a field is read as that value. -/
theorem Setting.reads_yaml
    (v : Setting)
    (hFits : v.Fits) :
    ∃ node,
      (∀ key, IsKey key →
        Entry.Reads 2 2
          ⟨key, ' ' :: v.writeYaml.toList, node⟩) ∧
        v.Held Format.yaml node := by
  cases v with
  | natural n =>
      exact
        ⟨_, fun key hKey =>
            Yaml.reads_scalar hKey (Yaml.scalar_natural n),
          Yaml.natural?_toString hFits⟩
  | real x =>
      rcases hFits with ⟨hNumber, hFinite⟩
      exact
        ⟨_, fun key hKey =>
            Yaml.reads_scalar hKey
              (Yaml.scalar_real hNumber hFinite),
          Yaml.real?_writeReal hNumber hFinite⟩
  | text s =>
      rcases Yaml.scalar_text s with ⟨style, hScalar, hPlain⟩
      refine
        ⟨_, fun key hKey => Yaml.reads_scalar hKey hScalar, rfl,
          ?_⟩
      cases style with
      | plain =>
          have hText := hPlain rfl
          simp [Format.yaml, Format.yamlOptionalText?, hText]
      | quoted => rfl
      | literal => rfl
      | folded => rfl
  | absent =>
      exact
        ⟨_, fun key hKey =>
            Yaml.reads_scalar hKey Yaml.scalar_null,
          rfl⟩

/- A record of named nodes. -/
def yamlRecord (fields : List (String × Yaml)) : Yaml :=
  .mapping none
    (fields.map fun f => (.scalar .plain none f.1, f.2))

theorem yamlRecord?_yamlRecord
    (names : List String)
    (fields : List (String × Yaml)) :
    Format.yamlRecord? names (yamlRecord fields) =
      Format.named names fields := by
  have hKeys :
      (fields.map fun f =>
          (Yaml.scalar .plain none f.1, f.2)).mapM
        Format.yamlKey? = some fields := by
    induction fields with
    | nil => rfl
    | cons f fields ih =>
        rw [List.map_cons, List.mapM_cons, ih]
        rfl
  simp [Format.yamlRecord?, yamlRecord, hKeys]

theorem mapping_pairs
    {α : Type}
    (entry : String × α → Entry)
    (node : α → Yaml)
    (hKey : ∀ e, (entry e).key = e.1.toList)
    (hNode : ∀ e, (entry e).node = node e.2)
    (entries : List (String × α)) :
    Yaml.mapping none ((entries.map entry).map Entry.pair) =
      yamlRecord (entries.map fun e => (e.1, node e.2)) := by
  simp [yamlRecord, Entry.pair, hKey, hNode]

/- The names of sections and fields are plain words. -/
theorem Settings.isKey_names
    (s : Settings) :
    ∀ part ∈ s.sections,
      IsKey part.1.toList ∧ ∀ e ∈ part.2, IsKey e.1.toList := by
  have hNames :
      ∀ part ∈ s.sections.map fun p => (p.1, p.2.map (·.1)),
        IsKey part.1.toList ∧
          ∀ name ∈ part.2, IsKey name.toList := by
    change
      ∀ part ∈ ({} : Settings).sections.map fun p =>
          (p.1, p.2.map (·.1)), _
    decide
  intro part hMember
  have hPart :=
    hNames _ (List.mem_map_of_mem hMember)
  exact
    ⟨hPart.1, fun e hEntry =>
      hPart.2 _ (List.mem_map_of_mem hEntry)⟩

section Entries

variable (r : Rendering Format.yaml)

/- The line of a field. -/
def fieldEntry (e : String × Setting) : Entry :=
  ⟨e.1.toList, ' ' :: e.2.writeYaml.toList, r.value e.2⟩

/- The line of a section with the lines of its fields below. -/
def partEntry (part : String × List (String × Setting)) : Entry :=
  ⟨part.1.toList,
    '\n' :: Entry.lines 2 (part.2.map (fieldEntry r)),
    r.fields part.2⟩

/- The written settings are the lines of their sections. -/
theorem Settings.writeYaml_eq
    (s : Settings) :
    s.writeYaml =
      String.ofList
        (Entry.lines 0 (s.sections.map (partEntry r))) := by
  rw [← String.toList_inj, String.toList_ofList]
  simp [writeYaml, String.toList_join, Entry.lines, Entry.line,
    partEntry, fieldEntry, List.flatMap_map]

end Entries

/- The written settings are parsed as what stands for them. -/
theorem Settings.parse_writeYaml
    {s : Settings}
    (hFits : s.Fits) :
    ∃ r : Rendering Format.yaml,
      Yaml.parse s.writeYaml = some (r.settings s) := by
  choose! value hReads hHeld using Setting.reads_yaml
  let r : Rendering Format.yaml :=
    ⟨yamlRecord, value, yamlRecord?_yamlRecord, hHeld⟩
  have hFields :
      ∀ part ∈ s.sections,
        ∀ e ∈ part.2.map (fieldEntry r), e.Reads 2 2 := by
    intro part hMember e hEntry
    rcases List.mem_map.mp hEntry with ⟨field, hField, rfl⟩
    exact
      hReads field.2 (hFits part hMember field hField) _
        ((s.isKey_names part hMember).2 field hField)
  let all := Entry.lines 0 (s.sections.map (partEntry r))
  have hParts :
      ∀ e ∈ s.sections.map (partEntry r),
        e.Reads 0 (2 * all.length) := by
    intro e hEntry
    have hLine : (e.line 0).length ≤ all.length :=
      Yaml.length_line_le hEntry
    rcases List.mem_map.mp hEntry with ⟨part, hMember, rfl⟩
    have hLength :=
      Yaml.length_le_lines 2 (part.2.map (fieldEntry r))
    have hMore :
        2 * (part.2.map (fieldEntry r)).length + 2 + 2 ≤
          2 * all.length := by
      simp only [Entry.line, partEntry, List.length_append,
        List.length_cons] at hLine
      omega
    have hReads :=
      Yaml.reads_mapping (s.isKey_names part hMember).1
        (by simpa using s.fields_ne_nil part hMember)
        (show 0 < 2 by decide) (hFields part hMember) hMore
    rw [mapping_pairs (fieldEntry r) value (fun _ => rfl)
      (fun _ => rfl)] at hReads
    exact hReads
  refine ⟨r, ?_⟩
  rw [s.writeYaml_eq r,
    Yaml.parse_entries (by simpa using s.sections_ne_nil) hParts
      (Nat.le_refl _),
    mapping_pairs (partEntry r) r.fields (fun _ => rfl)
      (fun _ => rfl)]
  rfl

end Devirt

------------------------------------------------------------
-- Round Trips
------------------------------------------------------------

namespace Devirt

namespace Settings

/-
  Settings that are written in either format are read back with
  every field as it was but the one that is a double, which is
  read as some double.
-/
theorem written_restored
    (s : Settings)
    (hFits : s.Fits) :
    (∃ x,
      ofJson? s.writeJson =
        some
          { s with
            strategy :=
              { s.strategy with assistantConfidence := x } }) ∧
      ∃ x,
        ofYaml? s.writeYaml =
          some
            { s with
              strategy :=
                { s.strategy with assistantConfidence := x } } := by
  rcases parse_writeJson hFits with ⟨json, hJson⟩
  rcases parse_writeYaml hFits with ⟨yaml, hYaml⟩
  unfold ofJson? ofYaml?
  rw [hJson, hYaml]
  exact ⟨json.read_settings hFits, yaml.read_settings hFits⟩

/- A number as large as can be and a program called nothing. -/
def nullProgram : Settings :=
  { sandbox :=
      { maxCodeBytes := 2 ^ 64 - 1
        isolation := .thread
        workerProgram := some "null" } }

theorem nullProgram_restored :
    nullProgram.Fits ∧
      (∃ x,
        ofJson? nullProgram.writeJson =
          some
            { nullProgram with
              strategy := { assistantConfidence := x } }) ∧
        ∃ x,
          ofYaml? nullProgram.writeYaml =
            some
              { nullProgram with
                strategy := { assistantConfidence := x } } := by
  have hFits : nullProgram.Fits := by decide
  exact ⟨hFits, written_restored nullProgram hFits⟩

end Settings

end Devirt
