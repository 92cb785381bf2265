import Devirt.Proofs.Yaml.Literal
import Devirt.Proofs.Yaml.Quoted
import Devirt.Yaml.Reader

/-
  Mappings are read key by key.

  A mapping is written with one key a line, all in one column,
  and every value ends with its line.  A scalar stands behind
  its key on the same line; a mapping begins on the next line in
  a later column.  Reading one entry leads to the line of the
  next, so by induction on the entries the whole mapping is
  read.

  Main declarations:
    * `Yaml.Scalar`, texts that are read as scalars
    * `Yaml.ReadsValue`, values behind a key
    * `Yaml.blockEntries_reads`, `Yaml.readsValue_mapping`
    * `Yaml.Entry.Reads`, `Yaml.parse_entries`
-/

------------------------------------------------------------
-- Steps of the Reader
------------------------------------------------------------

namespace Devirt

namespace Yaml

theorem run_skipGap
    (inFlow : Bool)
    (r : Reading) :
    (skipGap inFlow).run r =
      some
        ((r.place.skipGap inFlow r.keyAllowed).1,
          { r with
            place := (r.place.skipGap inFlow r.keyAllowed).1
            keyAllowed :=
              (r.place.skipGap inFlow r.keyAllowed).2 }) :=
  rfl

theorem run_place
    (r : Reading) :
    place.run r = some (r.place, r) :=
  rfl

theorem run_moveBehind
    (p : Place)
    (keyAllowed : Bool)
    (r : Reading) :
    (moveBehind p keyAllowed).run r =
      some ((), { r with place := p, keyAllowed := keyAllowed }) :=
  rfl

theorem named_empty
    (read : Read Yaml) :
    named {} read = read :=
  rfl

theorem atEnd_behind
    {c : Char}
    (cs : List Char)
    (line : Nat)
    {column : Nat}
    (hColumn : 0 < column) :
    Place.atEnd ⟨c :: cs, line, column⟩ = false := by
  simp [Place.atEnd, atMarker_behind _ _ _ hColumn]

/- A plain scalar begins with nothing that has a meaning. -/
theorem starts_other
    {c : Char}
    {cs : List Char}
    (hStarts : startsPlain false (c :: cs) = true) :
    isGap c = false ∧
      ∀ d ∈ ['#', '&', '!', '|', '>', '[', '{', '*', '\'', '"'],
        c ≠ d := by
  refine ⟨?_, ?_⟩
  · by_contra hGap
    rw [Bool.not_eq_false] at hGap
    simp only [isGap, isSpace, isBreak, Bool.or_eq_true,
      beq_iff_eq] at hGap
    rcases hGap with (rfl | rfl) | (rfl | rfl) | rfl <;>
      exact absurd hStarts (by simp [startsPlain]; decide)
  · intro d hMember
    rintro rfl
    simp only [List.mem_cons, List.not_mem_nil, or_false]
      at hMember
    rcases hMember with
      rfl | rfl | rfl | rfl | rfl | rfl | rfl | rfl | rfl | rfl <;>
      exact absurd hStarts (by simp [startsPlain]; decide)

section Inline

variable {c : Char}
variable {cs : List Char}
variable {line column : Nat}
variable {keyAllowed : Bool}

theorem inlineNode_plain
    (least fuel : Nat)
    {text : String}
    {after : Place}
    {fresh : Bool}
    (hEnd : Place.atEnd ⟨c :: cs, line, column⟩ = false)
    (hDash :
      Place.atIndicator '-' ⟨c :: cs, line, column⟩ = false)
    (hStarts : startsPlain false (c :: cs) = true)
    (hRead :
      readPlain false least ⟨c :: cs, line, column⟩ =
        some (text, after, fresh)) :
    (inlineNode least fuel {}).run
        ⟨⟨c :: cs, line, column⟩, keyAllowed, [], []⟩ =
      some (.scalar .plain none text, ⟨after, fresh, [], []⟩) := by
  have hOther := (starts_other hStarts).2
  simp only [List.mem_cons, List.not_mem_nil, or_false,
    forall_eq_or_imp, forall_eq] at hOther
  have hLeaf :
      (readLeaf false least none).run
          ⟨⟨c :: cs, line, column⟩, keyAllowed, [], []⟩ =
        some
          (.scalar .plain none text,
            ⟨after, fresh, [], []⟩) := by
    simp only [readLeaf, StateT.run_bind, run_place,
      Option.bind_eq_bind, Option.bind_some, hEnd, hDash,
      Bool.or_false, Bool.false_eq_true, if_false]
    split
    · simp_all
    · simp_all
    · simp [hStarts, hRead, run_moveBehind]
  simp only [inlineNode, named_empty, StateT.run_bind, run_place,
    Option.bind_eq_bind, Option.bind_some]
  split
  · simp_all
  · simp_all
  · simp_all
  · simp_all
  · simp_all
  · exact hLeaf

theorem inlineNode_single
    (least fuel : Nat)
    {text : String}
    {after : Place}
    (hColumn : 0 < column)
    (hRead :
      readSingle ⟨'\'' :: cs, line, column⟩ =
        some (text, after)) :
    (inlineNode least fuel {}).run
        ⟨⟨'\'' :: cs, line, column⟩, keyAllowed, [], []⟩ =
      some
        (.scalar .quoted none text, ⟨after, false, [], []⟩) := by
  have hDash :
      Place.atIndicator '-' ⟨'\'' :: cs, line, column⟩ = false :=
    rfl
  simp [inlineNode, named_empty, run_place, readLeaf,
    Properties.isEmpty, atEnd_behind _ _ hColumn, hDash, hRead,
    run_moveBehind]

theorem inlineNode_double
    (least fuel : Nat)
    {text : String}
    {after : Place}
    (hColumn : 0 < column)
    (hRead :
      readDouble ⟨'"' :: cs, line, column⟩ =
        some (text, after)) :
    (inlineNode least fuel {}).run
        ⟨⟨'"' :: cs, line, column⟩, keyAllowed, [], []⟩ =
      some
        (.scalar .quoted none text, ⟨after, false, [], []⟩) := by
  have hDash :
      Place.atIndicator '-' ⟨'"' :: cs, line, column⟩ = false :=
    rfl
  simp [inlineNode, named_empty, run_place, readLeaf,
    Properties.isEmpty, atEnd_behind _ _ hColumn, hDash, hRead,
    run_moveBehind]

theorem inlineNode_literal
    (least fuel : Nat)
    {text : String}
    {after : Place}
    (hRead :
      readBlock false least ⟨'|' :: cs, line, column⟩ =
        some (text, after)) :
    (inlineNode least fuel {}).run
        ⟨⟨'|' :: cs, line, column⟩, keyAllowed, [], []⟩ =
      some
        (.scalar .literal none text, ⟨after, true, [], []⟩) := by
  simp [inlineNode, inlineNode.block, named_empty, run_place,
    hRead, run_moveBehind]

/- What begins with no property has none. -/
theorem readProperties_none
    (hSolid : isGap c = false)
    (hOther : ∀ d ∈ ['#', '&', '!'], c ≠ d) :
    (readProperties false line 3 {}).run
        ⟨⟨c :: cs, line, column⟩, keyAllowed, [], []⟩ =
      some
        ({}, ⟨⟨c :: cs, line, column⟩, keyAllowed, [], []⟩) := by
  simp only [List.mem_cons, List.not_mem_nil, or_false,
    forall_eq_or_imp, forall_eq] at hOther
  have hStays :=
    skipGapFrom_token false keyAllowed line column cs hSolid
      hOther.1
  simp [readProperties, run_skipGap, Place.skipGap, hStays,
    hOther]

/-
  A node without properties: what is read first may turn out to
  be a key.
-/
theorem blockContent_inline
    (least fuel : Nat)
    (ofKey : Bool)
    {node : Yaml}
    {p q : Place}
    {before behind : Bool}
    (hSolid : isGap c = false)
    (hOther : ∀ d ∈ ['#', '&', '!'], c ≠ d)
    (hRead :
      (inlineNode least fuel {}).run
          ⟨⟨c :: cs, line, column⟩, keyAllowed, [], []⟩ =
        some (node, ⟨p, before, [], []⟩))
    (hNext : p.skipGap false before = (q, behind)) :
    (blockContent (fuel + 1) least ofKey {}).run
        ⟨⟨c :: cs, line, column⟩, keyAllowed, [], []⟩ =
      if isKey false keyAllowed ⟨c :: cs, line, column⟩ q then
        ((blockEntriesFrom fuel column node).run
          ⟨q, behind, [], []⟩).map
          fun (entries, r) => (.mapping none entries, r)
      else
        some (node.withTag none, ⟨q, behind, [], []⟩) := by
  have hMerge :
      Properties.merge {} {} = some ({} : Properties) := rfl
  simp only [blockContent, StateT.run_bind, run_place,
    StateT.run_get, Option.bind_eq_bind, Option.bind_some,
    Option.pure_def, readProperties_none hSolid hOther,
    named_empty, Properties.isEmpty, Option.isNone_none,
    Bool.and_true, Bool.not_true, Bool.false_and,
    Bool.false_eq_true, if_false, hRead, run_skipGap, hNext,
    hMerge]
  split_ifs with hKey
  · simp only [StateT.run_bind, StateT.run_pure,
      Option.bind_eq_bind, Option.pure_def]
    cases (blockEntriesFrom fuel column node).run
      ⟨q, behind, [], []⟩ <;> rfl
  · simp

end Inline

end Yaml

end Devirt

------------------------------------------------------------
-- Values
------------------------------------------------------------

namespace Devirt

namespace Yaml

/- What begins neither properties nor a block. -/
structure Begins (text : List Char) : Prop where
  first :
    ∃ c cs,
      text = c :: cs ∧ isGap c = false ∧
        ∀ d ∈ ['#', '&', '!'], c ≠ d
  noMark :
    ∀ mark ∈ ['-', '?'], ∀ rest line column,
      Place.atIndicator mark ⟨text ++ rest, line, column⟩ = false

/-
  A text that is read as a scalar behind a key of a section, up
  to the next key.
-/
structure Scalar
    (text : List Char)
    (style : Style)
    (value : String) :
    Prop where
  begins : Begins text
  read :
    ∀ fuel rest line column,
      Ahead 2 rest → 3 ≤ column →
        ∃ p keyAllowed l,
          (inlineNode 3 fuel {}).run
              ⟨⟨text ++ rest, line, column⟩, false, [], []⟩ =
            some
              (.scalar style none value,
                ⟨p, keyAllowed, [], []⟩) ∧
          p.skipGap false keyAllowed = (nextPlace l rest, true)
  printable : ∀ c ∈ text, isPrintable c = true

/- A text behind the colon of a key that is read as a node. -/
def ReadsValue
    (column : Nat)
    (text : List Char)
    (node : Yaml)
    (need : Nat) :
    Prop :=
  ∀ fuel rest line other,
    need ≤ fuel → Ahead column rest → column < other →
      ∃ l,
        (blockNode fuel (column + 1) true {}).run
            ⟨⟨text ++ rest, line, other⟩, false, [], []⟩ =
          some (node, ⟨nextPlace l rest, true, [], []⟩)

theorem readsValue_scalar
    {text : List Char}
    {style : Style}
    {value : String}
    (hScalar : Scalar text style value) :
    ReadsValue 2 (' ' :: text) (.scalar style none value) 2 := by
  intro fuel rest line other hFuel hAhead hOther
  obtain ⟨fuel, rfl⟩ : ∃ f, fuel = f + 2 :=
    ⟨fuel - 2, by omega⟩
  rcases hScalar.read fuel rest line (other + 1) hAhead
      (by omega) with ⟨p, keyAllowed, l, hRead, hNext⟩
  have hMark := hScalar.begins.noMark
  rcases hScalar.begins.first with ⟨c, cs, rfl, hSolid, hPlain⟩
  have hDash := hMark '-' (by simp) rest line (other + 1)
  have hAsk := hMark '?' (by simp) rest line (other + 1)
  simp only [List.cons_append] at hRead hDash hAsk ⊢
  have hHash : c ≠ '#' := hPlain '#' (by simp)
  have hSkip :
      Place.skipGapFrom false false false line other
          (' ' :: c :: (cs ++ rest)) =
        (⟨c :: (cs ++ rest), line, other + 1⟩, false) := by
    rw [← skipGapFrom_token false false line (other + 1)
      (cs ++ rest) hSolid hHash]
    exact
      skipGapFrom_spaces false false line other 1
        (c :: (cs ++ rest))
  refine ⟨l, ?_⟩
  have hColumn : ¬ other + 1 < 2 + 1 := by omega
  simp only [blockNode, StateT.run_bind, run_skipGap,
    Place.skipGap, hSkip, Option.bind_eq_bind, Option.bind_some,
    atEnd_behind _ _ (Nat.succ_pos other), hColumn, hDash, hAsk,
    Bool.false_eq_true, if_false]
  rw [blockContent_inline 3 fuel true hSolid hPlain hRead hNext]
  rfl

end Yaml

end Devirt

------------------------------------------------------------
-- Mappings
------------------------------------------------------------

namespace Devirt

namespace Yaml

/- A key, the text behind its colon, and what that is read as. -/
structure Entry where
  key : List Char
  text : List Char
  node : Yaml

namespace Entry

/- One line, or several if the value takes more. -/
def line (column : Nat) (e : Entry) : List Char :=
  List.replicate column ' ' ++ (e.key ++ ':' :: e.text)

def lines (column : Nat) (entries : List Entry) : List Char :=
  entries.flatMap (line column)

def pair (e : Entry) : Yaml × Yaml :=
  (.scalar .plain none (String.ofList e.key), e.node)

/- Entries that are read as they are meant. -/
structure Reads (column need : Nat) (e : Entry) : Prop where
  key : IsKey e.key
  gap : ∀ rest, gapAhead (e.text ++ rest) = true
  value : ReadsValue column e.text e.node need
  printable : ∀ c ∈ e.text, isPrintable c = true

end Entry

theorem Ahead.mono
    {n m : Nat}
    {rest : List Char}
    (hAhead : Ahead n rest)
    (hMore : n ≤ m) :
    Ahead m rest := by
  rcases hAhead with rfl | ⟨k, c, cs, rfl, hColumn, hLower⟩
  · exact Or.inl rfl
  · exact Or.inr ⟨k, c, cs, rfl, hColumn.trans hMore, hLower⟩

theorem isIndicator_of_isLower
    {c : Char}
    (hLower : c.isLower = true) :
    isIndicator c = false := by
  by_contra hIndicator
  simp only [isIndicator, isFlowIndicator, Bool.not_eq_false,
    Bool.or_eq_true, List.contains_eq_mem, List.mem_cons,
    List.not_mem_nil, or_false, decide_eq_true_eq] at hIndicator
  rcases hIndicator with
    (rfl | rfl | rfl | rfl | rfl) |
      (rfl | rfl | rfl | rfl | rfl | rfl | rfl | rfl | rfl | rfl |
        rfl | rfl | rfl | rfl) <;>
    exact absurd hLower (by decide)

section Keys

variable {c : Char}
variable {cs : List Char}

theorem atEnd_key
    (line column : Nat)
    (hLower : c.isLower = true) :
    Place.atEnd ⟨c :: cs, line, column⟩ = false := by
  have hDash : '-' ≠ c := (isLower_ne hLower rfl).symm
  have hPoint : '.' ≠ c := (isLower_ne hLower rfl).symm
  simp [Place.atEnd, Place.atMarker, hDash, hPoint]

theorem atIndicator_key
    {mark : Char}
    (line column : Nat)
    (hLower : c.isLower = true)
    (hMark : mark.isLower = false) :
    Place.atIndicator mark ⟨c :: cs, line, column⟩ = false := by
  simp [Place.atIndicator, isLower_ne hLower hMark]

theorem not_property_key
    (hLower : c.isLower = true) :
    ∀ d ∈ ['#', '&', '!'], c ≠ d := by
  intro d hMember
  apply isLower_ne hLower
  simp only [List.mem_cons, List.not_mem_nil, or_false] at hMember
  rcases hMember with rfl | rfl | rfl <;> rfl

end Keys

section Entries

variable {column need : Nat}
variable {key rest : List Char}

/- A key is read up to its colon, where it shows to be a key. -/
theorem inlineNode_key
    (least fuel line column : Nat)
    (keyAllowed : Bool)
    (hKey : IsKey key)
    (hGap : gapAhead rest = true) :
    (inlineNode least fuel {}).run
        ⟨⟨key ++ ':' :: rest, line, column⟩, keyAllowed, [], []⟩ =
      some
        (.scalar .plain none (String.ofList key),
          ⟨⟨':' :: rest, line, column + key.length⟩, false, [],
            []⟩) := by
  have hRead := readPlain_key least line column hKey hGap
  rcases hKey.first with ⟨c, cs, rfl, hLower⟩
  refine
    inlineNode_plain least fuel (atEnd_key line column hLower)
      (atIndicator_key line column hLower rfl) ?_ hRead
  simp [startsPlain, isGap_of_isLower hLower,
    isIndicator_of_isLower hLower]

theorem skipGap_colon
    (keyAllowed : Bool)
    (line column : Nat)
    (rest : List Char) :
    Place.skipGap false keyAllowed ⟨':' :: rest, line, column⟩ =
      (⟨':' :: rest, line, column⟩, keyAllowed) :=
  skipGapFrom_token _ _ _ _ _ rfl (by decide)

theorem isKey_key
    (line column : Nat)
    (hKey : IsKey key)
    (hGap : gapAhead rest = true) :
    isKey false true ⟨key ++ ':' :: rest, line, column⟩
      ⟨':' :: rest, line, column + key.length⟩ = true := by
  simp [isKey, keyLimit, hKey.short, Place.atIndicator, hGap]

/- Behind a key stands its value, then the other entries. -/
theorem blockEntriesFrom_step
    {fuel other : Nat}
    {text : List Char}
    {node : Yaml}
    (line : Nat)
    (keyNode : Yaml)
    (keyAllowed : Bool)
    (hValue : ReadsValue column text node need)
    (hFuel : need ≤ fuel)
    (hAhead : Ahead column rest)
    (hOther : column ≤ other) :
    ∃ l,
      (blockEntriesFrom (fuel + 1) column keyNode).run
          ⟨⟨':' :: (text ++ rest), line, other⟩, keyAllowed, [],
            []⟩ =
        ((blockEntries fuel column).run
          ⟨nextPlace l rest, true, [], []⟩).map
          fun (entries, r) => ((keyNode, node) :: entries, r) := by
  rcases hValue fuel rest line (other + 1) hFuel hAhead
      (by omega) with ⟨l, hRead⟩
  refine ⟨l, ?_⟩
  simp only [blockEntriesFrom, StateT.run_bind, run_place,
    run_moveBehind, Option.bind_eq_bind, Option.bind_some,
    Place.skip, List.drop_one, List.tail_cons, hRead]
  cases (blockEntries fuel column).run
    ⟨nextPlace l rest, true, [], []⟩ <;> rfl

theorem lines_cons
    (column : Nat)
    (e : Entry)
    (entries : List Entry)
    (rest : List Char) :
    Entry.lines column (e :: entries) ++ rest =
      List.replicate column ' ' ++
        (e.key ++ ':' ::
          (e.text ++ (Entry.lines column entries ++ rest))) := by
  simp [Entry.lines, Entry.line]

theorem ahead_lines
    {entries : List Entry}
    (hEntries : ∀ e ∈ entries, IsKey e.key)
    (hAhead : Ahead column rest) :
    Ahead column (Entry.lines column entries ++ rest) := by
  cases entries with
  | nil => exact hAhead
  | cons e entries =>
      rcases (hEntries e (by simp)).first with
        ⟨c, cs, hKey, hLower⟩
      rw [lines_cons, hKey]
      exact Or.inr ⟨column, c, _, rfl, Nat.le_refl _, hLower⟩

/- An entry leads to the entries behind it. -/
theorem blockEntries_step
    {e : Entry}
    {fuel : Nat}
    (line : Nat)
    (hEntry : e.Reads column need)
    (hFuel : need ≤ fuel)
    (hAhead : Ahead column rest) :
    ∃ l,
      (blockEntries (fuel + 2) column).run
          ⟨nextPlace line (e.line column ++ rest), true, [],
            []⟩ =
        ((blockEntries fuel column).run
          ⟨nextPlace l rest, true, [], []⟩).map
          fun (entries, r) => (e.pair :: entries, r) := by
  rcases e with ⟨key, text, node⟩
  have hGap := hEntry.gap rest
  have hNode :=
    inlineNode_key (column + 1) (fuel + 1) line column true
      hEntry.key hGap
  have hKey := isKey_key line column hEntry.key hGap
  rcases blockEntriesFrom_step line
      (.scalar .plain none (String.ofList key)) false hEntry.value
      hFuel hAhead (Nat.le_add_right column key.length) with
    ⟨l, hRest⟩
  refine ⟨l, ?_⟩
  rcases hEntry.key.first with ⟨c, cs, hFirst, hLower⟩
  dsimp only at hFirst hNode hKey
  subst hFirst
  have hSolid := isGap_of_isLower hLower
  have hStays :=
    skipGapFrom_token false true line column
      (cs ++ ':' :: (text ++ rest)) hSolid (isLower_ne hLower rfl)
  have hAsk :
      Place.atIndicator '?'
          ⟨c :: (cs ++ ':' :: (text ++ rest)), line, column⟩ =
        false :=
    atIndicator_key line column hLower rfl
  simp only [Entry.line, List.append_assoc, List.cons_append]
    at hNode hKey ⊢
  rw [nextPlace_key line column _ hLower,
    show fuel + 2 = fuel + 1 + 1 from rfl, blockEntries]
  simp only [StateT.run_bind, run_skipGap, Place.skipGap, hStays,
    Option.bind_eq_bind, Option.bind_some, StateT.run_get,
    Option.pure_def, atEnd_key _ _ hLower, hAsk, lt_irrefl,
    decide_false, Bool.or_false, Bool.false_eq_true, if_false,
    bne_self_eq_false, Bool.not_true,
    readProperties_none hSolid (not_property_key hLower), hNode,
    skipGapFrom_token false false line _ (text ++ rest)
      (show isGap ':' = false from rfl) (by decide), hKey, if_true,
    hRest]
  rfl

/-
  The entries of a mapping, one after another, up to a line that
  begins before their column.
-/
theorem blockEntries_reads
    {entries : List Entry}
    {bound fuel : Nat}
    (line : Nat)
    (hEntries : ∀ e ∈ entries, e.Reads column need)
    (hAhead : Ahead bound rest)
    (hStops : rest = [] ∨ bound < column)
    (hFuel : 2 * entries.length + need < fuel) :
    ∃ l,
      (blockEntries fuel column).run
          ⟨nextPlace line (Entry.lines column entries ++ rest),
            true, [], []⟩ =
        some
          (entries.map Entry.pair,
            ⟨nextPlace l rest, true, [], []⟩) := by
  induction entries generalizing fuel line with
  | nil =>
      obtain ⟨fuel, rfl⟩ : ∃ f, fuel = f + 1 :=
        ⟨fuel - 1, by omega⟩
      refine ⟨line, ?_⟩
      have hEnd :
          ((nextPlace line rest).atEnd ||
            (nextPlace line rest).column < column) = true := by
        rcases hStops with rfl | hLess
        · rfl
        · have hColumn := hAhead.nextPlace_column line
          have hBefore : (nextPlace line rest).column < column := by
            omega
          simp [hBefore]
      have hSkip := hAhead.skipGap_nextPlace line
      simp only [Entry.lines, List.flatMap_nil, List.nil_append,
        blockEntries, StateT.run_bind, run_skipGap, hSkip,
        Option.bind_eq_bind, Option.bind_some, hEnd, if_true]
      rfl
  | cons e entries ih =>
      rw [List.length_cons] at hFuel
      obtain ⟨fuel, rfl⟩ : ∃ f, fuel = f + 2 :=
        ⟨fuel - 2, by omega⟩
      have hOthers : ∀ e ∈ entries, e.Reads column need :=
        fun e hMember => hEntries e (by simp [hMember])
      have hColumn : Ahead column rest := by
        rcases hStops with rfl | hLess
        · exact Or.inl rfl
        · exact hAhead.mono hLess.le
      rcases blockEntries_step line (hEntries e (by simp))
          (show need ≤ fuel by omega)
          (ahead_lines (fun e hMember => (hOthers e hMember).key)
            hColumn) with ⟨l, hStep⟩
      rcases ih l hOthers (show _ < fuel by omega) with
        ⟨l', hRest⟩
      refine ⟨l', ?_⟩
      have hSame :
          Entry.lines column (e :: entries) ++ rest =
            e.line column ++
              (Entry.lines column entries ++ rest) := by
        simp [Entry.lines]
      rw [hSame, hStep, hRest]
      rfl

/- A mapping is recognized by the colon behind its first key. -/
theorem blockNode_entries
    {e : Entry}
    {entries : List Entry}
    {bound fuel least : Nat}
    {p : Place}
    {keyAllowed : Bool}
    (line : Nat)
    (ofKey : Bool)
    (hNext :
      p.skipGap false keyAllowed =
        (nextPlace line (Entry.lines column (e :: entries) ++ rest),
          true))
    (hEntries : ∀ d ∈ e :: entries, d.Reads column need)
    (hAhead : Ahead bound rest)
    (hStops : rest = [] ∨ bound < column)
    (hLeast : least ≤ column)
    (hFuel : 2 * (e :: entries).length + need + 2 ≤ fuel) :
    ∃ l,
      (blockNode fuel least ofKey {}).run
          ⟨p, keyAllowed, [], []⟩ =
        some
          (.mapping none ((e :: entries).map Entry.pair),
            ⟨nextPlace l rest, true, [], []⟩) := by
  rw [List.length_cons] at hFuel
  obtain ⟨fuel, rfl⟩ : ∃ f, fuel = f + 3 := ⟨fuel - 3, by omega⟩
  have hFirst := hEntries e (by simp)
  have hOthers : ∀ d ∈ entries, d.Reads column need :=
    fun d hMember => hEntries d (by simp [hMember])
  have hColumn : Ahead column rest := by
    rcases hStops with rfl | hLess
    · exact Or.inl rfl
    · exact hAhead.mono hLess.le
  have hMore : Ahead column (Entry.lines column entries ++ rest) :=
    ahead_lines (fun d hMember => (hOthers d hMember).key) hColumn
  have hGap :=
    hFirst.gap (Entry.lines column entries ++ rest)
  have hNode :=
    inlineNode_key least (fuel + 1) line column true hFirst.key hGap
  have hKey := isKey_key line column hFirst.key hGap
  rcases blockEntriesFrom_step line
      (.scalar .plain none (String.ofList e.key)) false hFirst.value
      (show need ≤ fuel by omega) hMore
      (Nat.le_add_right column e.key.length) with ⟨l, hStep⟩
  rcases blockEntries_reads l hOthers hAhead hStops
      (show _ < fuel by omega) with ⟨l', hRest⟩
  refine ⟨l', ?_⟩
  rw [lines_cons] at hNext
  rcases e with ⟨key, text, node⟩
  rcases hFirst.key.first with ⟨c, cs, hSame, hLower⟩
  dsimp only at hSame hNode hKey hNext hStep
  subst hSame
  have hSolid := isGap_of_isLower hLower
  simp only [List.cons_append] at hNode hKey hNext
  rw [nextPlace_key line column _ hLower] at hNext
  have hContent :=
    blockContent_inline least (fuel + 1) ofKey hSolid
      (not_property_key hLower) hNode (skipGap_colon _ _ _ _)
  have hMark
      (mark : Char)
      (hOther : mark.isLower = false) :
      Place.atIndicator mark
          ⟨c :: (cs ++ ':' :: (text ++
              (Entry.lines column entries ++ rest))),
            line, column⟩ =
        false :=
    atIndicator_key line column hLower hOther
  rw [hKey, if_pos rfl, hStep, hRest] at hContent
  rw [blockNode]
  simp only [StateT.run_bind, run_skipGap, hNext,
    Option.bind_eq_bind, Option.bind_some, atEnd_key _ _ hLower,
    Nat.not_lt.mpr hLeast, hMark '-' rfl, hMark '?' rfl,
    Bool.false_eq_true, if_false, hContent]
  rfl

/- A mapping on the lines below a key. -/
theorem readsValue_mapping
    {outer : Nat}
    {entries : List Entry}
    (hSome : entries ≠ [])
    (hColumn : outer < column)
    (hEntries : ∀ e ∈ entries, e.Reads column need) :
    ReadsValue outer ('\n' :: Entry.lines column entries)
      (.mapping none (entries.map Entry.pair))
      (2 * entries.length + need + 2) := by
  intro fuel rest line other hFuel hAhead hOther
  cases entries with
  | nil => exact absurd rfl hSome
  | cons e entries =>
      have hLines : Ahead column
          (Entry.lines column (e :: entries) ++ rest) :=
        ahead_lines (fun d hMember => (hEntries d hMember).key)
          (hAhead.mono hColumn.le)
      exact
        blockNode_entries (line + 1) true
          (hLines.skipGap_break false line other) hEntries hAhead
          (Or.inr hColumn) hColumn hFuel

end Entries

end Yaml

end Devirt

------------------------------------------------------------
-- Documents
------------------------------------------------------------

namespace Devirt

namespace Yaml

theorem isAllowed_of_isPrintable
    {c : Char}
    (hPrintable : isPrintable c = true) :
    isAllowed c = true := by
  simp only [isPrintable, Bool.or_eq_true, Bool.and_eq_true,
    beq_iff_eq, decide_eq_true_eq] at hPrintable
  simp only [isAllowed, Bool.or_eq_true, Bool.and_eq_true,
    beq_iff_eq, decide_eq_true_eq]
  omega

/- Line ends of printable texts are uniform. -/
theorem uniformBreaks_eq
    {cs : List Char}
    (hPrintable : ∀ c ∈ cs, isPrintable c = true) :
    uniformBreaks cs = cs := by
  induction cs with
  | nil => rfl
  | cons c cs ih =>
      have hRest :=
        ih (fun d hMember => hPrintable d (by simp [hMember]))
      have hFirst := hPrintable c (by simp)
      have hReturn : c ≠ '\r' := by
        rintro rfl
        exact absurd hFirst (by decide)
      have hNext : c ≠ '\u0085' := by
        rintro rfl
        exact absurd hFirst (by decide)
      unfold uniformBreaks
      split
      · simp_all
      · simp_all
      · simp_all

theorem length_le_lines
    (column : Nat)
    (entries : List Entry) :
    entries.length ≤ (Entry.lines column entries).length := by
  induction entries with
  | nil => simp
  | cons e entries ih =>
      simp only [Entry.lines, List.flatMap_cons, Entry.line,
        List.length_append, List.length_cons] at ih ⊢
      omega

theorem length_line_le
    {column : Nat}
    {e : Entry}
    {entries : List Entry}
    (hMember : e ∈ entries) :
    (e.line column).length ≤
      (Entry.lines column entries).length := by
  unfold Entry.lines
  rw [List.flatMap_def]
  exact
    (List.sublist_flatten_of_mem
      (List.mem_map_of_mem hMember)).length_le

theorem isPrintable_ascii
    {c : Char}
    (hLow : 32 ≤ c.toNat)
    (hHigh : c.toNat ≤ 126) :
    isPrintable c = true := by
  simp only [isPrintable, Bool.or_eq_true, Bool.and_eq_true,
    beq_iff_eq, decide_eq_true_eq]
  omega

theorem isPrintable_key
    {key : List Char}
    {c : Char}
    (hKey : IsKey key)
    (hMember : c ∈ key) :
    isPrintable c = true := by
  rcases hKey.all c hMember with hLower | rfl
  · rcases Bool.and_eq_true_iff.mp hLower with ⟨hFirst, hLast⟩
    have hLow : 97 ≤ c.toNat :=
      UInt32.le_iff_toNat_le.mp (of_decide_eq_true hFirst)
    have hHigh : c.toNat ≤ 122 :=
      UInt32.le_iff_toNat_le.mp (of_decide_eq_true hLast)
    exact isPrintable_ascii (by omega) (by omega)
  · rfl

theorem printable_lines
    {column need : Nat}
    {entries : List Entry}
    (hEntries : ∀ e ∈ entries, e.Reads column need) :
    ∀ c ∈ Entry.lines column entries, isPrintable c = true := by
  intro c hMember
  rcases List.mem_flatMap.mp hMember with ⟨e, hEntry, hLine⟩
  simp only [Entry.line, List.mem_append, List.mem_cons]
    at hLine
  rcases hLine with hBlank | hKey | rfl | hText
  · rw [List.eq_of_mem_replicate hBlank]
    rfl
  · exact isPrintable_key (hEntries e hEntry).key hKey
  · rfl
  · exact (hEntries e hEntry).printable c hText

/- A scalar behind its key. -/
theorem reads_scalar
    {key text : List Char}
    {style : Style}
    {value : String}
    (hKey : IsKey key)
    (hScalar : Scalar text style value) :
    Entry.Reads 2 2
      ⟨key, ' ' :: text, .scalar style none value⟩ where
  key := hKey
  gap _ := rfl
  value := readsValue_scalar hScalar
  printable := by
    intro c hMember
    rcases List.mem_cons.mp hMember with rfl | hText
    · rfl
    · exact hScalar.printable c hText

/- A mapping below its key. -/
theorem reads_mapping
    {outer column need more : Nat}
    {key : List Char}
    {entries : List Entry}
    (hKey : IsKey key)
    (hSome : entries ≠ [])
    (hColumn : outer < column)
    (hEntries : ∀ e ∈ entries, e.Reads column need)
    (hMore : 2 * entries.length + need + 2 ≤ more) :
    Entry.Reads outer more
      ⟨key, '\n' :: Entry.lines column entries,
        .mapping none (entries.map Entry.pair)⟩ where
  key := hKey
  gap _ := rfl
  value := fun fuel rest line other hFuel =>
    readsValue_mapping hSome hColumn hEntries fuel rest line other
      (hMore.trans hFuel)
  printable := by
    intro c hMember
    rcases List.mem_cons.mp hMember with rfl | hText
    · rfl
    · exact printable_lines hEntries c hText

theorem readEnd_done
    (fuel line : Nat) :
    (readEnd (fuel + 1)).run ⟨nextPlace line [], true, [], []⟩ =
      some ((), ⟨nextPlace line [], true, [], []⟩) :=
  rfl

/- A document that begins with a key has no directives. -/
theorem readDocument_key
    (fuel : Nat)
    {c : Char}
    (cs : List Char)
    (hLower : c.isLower = true) :
    (readDocument (fuel + 1)).run
        ⟨⟨c :: cs, 0, 0⟩, true, [], []⟩ =
      ((blockNode (fuel + 1) 0 false {}).run
        ⟨⟨c :: cs, 0, 0⟩, true, [], []⟩).bind
        fun (node, r) =>
          ((readEnd (fuel + 1)).run r).map
            fun (_, r) => (node, r) := by
  have hStays :=
    skipGapFrom_token false true 0 0 cs (isGap_of_isLower hLower)
      (isLower_ne hLower rfl)
  have hPercent : c ≠ '%' := isLower_ne hLower rfl
  have hDash : '-' ≠ c := (isLower_ne hLower rfl).symm
  have hPoint : '.' ≠ c := (isLower_ne hLower rfl).symm
  have hMarker
      {mark : Char}
      (hOther : mark ≠ c) :
      Place.atMarker mark ⟨c :: cs, 0, 0⟩ = false := by
    simp [Place.atMarker, hOther]
  simp only [readDocument, readDirectives, StateT.run_bind,
    run_skipGap, Place.skipGap, hStays, Option.bind_eq_bind,
    Option.bind_some, List.isEmpty_cons, Bool.false_eq_true,
    if_false, List.head?_cons, Option.some_beq_some,
    beq_eq_false_iff_ne.mpr hPercent, Bool.and_false,
    StateT.run_pure, Option.pure_def, hMarker hDash,
    hMarker hPoint, Bool.or_false]
  congr 1
  funext a
  cases (readEnd (fuel + 1)).run a.2 <;> rfl

/- A document of entries is parsed as their mapping. -/
theorem parse_entries
    {need : Nat}
    {entries : List Entry}
    (hSome : entries ≠ [])
    (hEntries : ∀ e ∈ entries, e.Reads 0 need)
    (hNeed : need ≤ 2 * (Entry.lines 0 entries).length) :
    parse (String.ofList (Entry.lines 0 entries)) =
      some (.mapping none (entries.map Entry.pair)) := by
  have hLength := length_le_lines 0 entries
  have hPrintable := printable_lines hEntries
  cases entries with
  | nil => exact absurd rfl hSome
  | cons e entries =>
      have hFirst := lines_cons 0 e entries []
      rcases (hEntries e (by simp)).key.first with
        ⟨c, cs, hKey, hLower⟩
      rw [List.append_nil, hKey, List.replicate_zero,
        List.nil_append, List.cons_append] at hFirst
      have hNothing : Ahead 0 [] := Or.inl rfl
      have hNext :
          Place.skipGap false true
              ⟨Entry.lines 0 (e :: entries), 0, 0⟩ =
            (nextPlace 0
              (Entry.lines 0 (e :: entries) ++ []), true) := by
        have hPlace := nextPlace_key 0 0
          (cs ++ ':' :: (e.text ++ (Entry.lines 0 entries ++ [])))
          hLower
        rw [List.append_nil, hFirst, Place.skipGap,
          skipGapFrom_token _ _ _ _ _ (isGap_of_isLower hLower)
            (isLower_ne hLower rfl)]
        exact (congrArg (·, true) hPlace).symm
      rcases blockNode_entries 0 false hNext hEntries
          hNothing (Or.inl rfl) (Nat.le_refl 0)
          (show _ ≤ 4 * (Entry.lines 0 (e :: entries)).length + 15
            + 1 by omega) with ⟨l, hRead⟩
      have hAllowed :
          (Entry.lines 0 (e :: entries)).all isAllowed = true :=
        List.all_eq_true.mpr fun d hMember =>
          isAllowed_of_isPrintable (hPrintable d hMember)
      have hDocument :=
        readDocument_key
          (4 * (Entry.lines 0 (e :: entries)).length + 15)
          (cs ++ ':' :: (e.text ++ (Entry.lines 0 entries ++ [])))
          hLower
      rw [← hFirst, hRead] at hDocument
      simp only [Option.bind_some, readEnd_done, Option.map_some]
        at hDocument
      unfold parse
      rw [String.toList_ofList]
      split
      · next hMark =>
          rw [hFirst] at hMark
          cases hMark
          exact absurd hLower (by decide)
      · simp only [hAllowed, if_true, uniformBreaks_eq hPrintable,
          hDocument]
        rfl

end Yaml

end Devirt
