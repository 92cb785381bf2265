import Devirt.Proofs.Json.Scalars
import Mathlib.Data.List.Basic

/-
  Documents read back as they were written.

  A reader that takes each item of a list for what it is takes
  the whole list, with commas between the items and blanks
  where a layout may put them.  By induction on a document, its
  compact form is read as the document.  It may be nested as
  deep as the reader goes, and its numbers have to be whole: a
  fraction is rounded when it is read.

  What is read can also be passed over, and ends at the same
  place.  No more fuel is needed for that than there are
  characters.  So a record is read whatever else stands in it.

  Main declarations:
    * `Json.Reads`, what a reader takes a text for
    * `Json.listUntil_reads`
    * `Json.Readable`
    * `Json.readValue_compact`, `Json.parse_compact`
    * `Json.skipValue_of_readValue`, `Json.skipValue_length`
    * `Json.reads_readRecord`
-/

------------------------------------------------------------
-- Lists of Items
------------------------------------------------------------

namespace Devirt

namespace Json

variable {α : Type}

/-
  A text begins with what is neither blank nor a bracket that
  closes a list.
-/
def Begins (text : List Char) : Prop :=
  ∃ c cs, text = c :: cs ∧ isSpace c = false ∧ c ≠ ']' ∧ c ≠ '}'

/- A reader takes a text for a value, whatever follows. -/
structure Reads
    (item : Reader α)
    (text : List Char)
    (a : α) :
    Prop where
  begins : Begins text
  read :
    ∀ rest, Ends rest → item (text ++ rest) = some (a, rest)

def IsBlank (blanks : List Char) : Prop :=
  ∀ c ∈ blanks, isSpace c = true

theorem isBlank_nil : IsBlank [] := by
  simp [IsBlank]

theorem skipSpace_blanks
    {blanks : List Char}
    (rest : List Char)
    (hBlank : IsBlank blanks) :
    skipSpace (blanks ++ rest) = skipSpace rest :=
  List.dropWhile_append_of_pos hBlank

theorem skipSpace_cons
    {c : Char}
    (rest : List Char)
    (hOther : isSpace c = false) :
    skipSpace (c :: rest) = c :: rest :=
  List.dropWhile_cons_of_neg (by simp [hOther])

theorem Begins.skipSpace_append
    {text : List Char}
    (hBegins : Begins text)
    (rest : List Char) :
    skipSpace (text ++ rest) = text ++ rest := by
  rcases hBegins with ⟨c, cs, rfl, hOther, -⟩
  exact skipSpace_cons _ hOther

/- Blanks and what closes a list are no part of a number. -/
theorem ends_blanks
    {blanks : List Char}
    {close : Char}
    (rest : List Char)
    (hBlank : IsBlank blanks)
    (hClose : close = ']' ∨ close = '}') :
    Ends (blanks ++ close :: rest) := by
  cases blanks with
  | nil =>
      apply ends_cons
      rcases hClose with rfl | rfl <;> decide
  | cons c blanks =>
      apply ends_cons
      have hSpace := hBlank c (by simp)
      simp only [isSpace, Bool.or_eq_true, beq_iff_eq] at hSpace
      rcases hSpace with ((rfl | rfl) | rfl) | rfl <;> decide

theorem isSpace_closing
    {close : Char}
    (hClose : close = ']' ∨ close = '}') :
    isSpace close = false := by
  rcases hClose with rfl | rfl <;> rfl

section Lists

variable {item : Reader α}
variable {close : Char}
variable {before behind : List Char}

/-
  The induction is on the items: behind each but the last
  stand a comma and the blanks before the next.
-/
theorem itemsUntil_reads
    {entries : List (List Char × α)}
    {lead : List Char}
    {fuel : Nat}
    (done : List α)
    (rest : List Char)
    (hClose : close = ']' ∨ close = '}')
    (hLead : IsBlank lead)
    (hBefore : IsBlank before)
    (hBehind : IsBlank behind)
    (hEntries : ∀ e ∈ entries, Reads item e.1 e.2)
    (hSome : entries ≠ [])
    (hFuel : entries.length ≤ fuel) :
    itemsUntil close item fuel done
        (lead ++
          ((',' :: before).intercalate (entries.map (·.1)) ++
            (behind ++ close :: rest))) =
      some (done.reverse ++ entries.map (·.2), rest) := by
  induction entries generalizing lead fuel done with
  | nil => exact absurd rfl hSome
  | cons first others ih =>
      rcases first with ⟨text, a⟩
      have hFirst : Reads item text a :=
        hEntries (text, a) (by simp)
      cases fuel with
      | zero => simp at hFuel
      | succ fuel =>
          simp only [itemsUntil, skipSpace_blanks _ hLead]
          by_cases hLast : others = []
          · subst hLast
            have hEnds := ends_blanks rest hBehind hClose
            simp only [List.map_cons, List.map_nil,
              List.intercalate_singleton,
              hFirst.begins.skipSpace_append,
              hFirst.read _ hEnds, skipSpace_blanks _ hBehind,
              skipSpace_cons _ (isSpace_closing hClose)]
            simp
          · have hRest :=
              ih (a :: done) hBefore
                (fun e hMember => hEntries e (by simp [hMember]))
                hLast (Nat.le_of_succ_le_succ hFuel)
            have hNext (tail : List Char) : Ends (',' :: tail) :=
              ends_cons tail (by decide)
            have hComma : ',' ≠ close := by
              rcases hClose with rfl | rfl <;> decide
            have hOthers : others.map (·.1) ≠ [] := by
              simpa using hLast
            simp only [List.map_cons,
              List.intercalate_cons_of_ne_nil hOthers,
              List.append_assoc, List.cons_append,
              hFirst.begins.skipSpace_append,
              hFirst.read _ (hNext _),
              skipSpace_cons _ (show isSpace ',' = false from rfl)]
            simp only [beq_iff_eq, hComma, if_false, if_true]
            rw [hRest]
            simp

/- No item is written by nothing. -/
theorem length_le_intercalate
    (between : List Char)
    {texts : List (List Char)}
    (hTexts : ∀ text ∈ texts, text ≠ []) :
    texts.length ≤ (between.intercalate texts).length := by
  induction texts with
  | nil => simp
  | cons text others ih =>
      have hFirst : 1 ≤ text.length :=
        List.length_pos_iff.mpr (hTexts text (by simp))
      have hRest :=
        ih (fun text hMember => hTexts text (by simp [hMember]))
      by_cases hLast : others = []
      · subst hLast
        simpa using hFirst
      · rw [List.intercalate_cons_of_ne_nil hLast]
        simp only [List.length_append, List.length_cons]
        omega

theorem listUntil_nil
    (item : Reader α)
    (rest : List Char)
    (hClose : close = ']' ∨ close = '}') :
    listUntil close item (close :: rest) = some ([], rest) := by
  simp [listUntil, skipSpace_cons _ (isSpace_closing hClose)]

/- A list of items begins as its first item does. -/
theorem begins_intercalate
    {between : List Char}
    {texts : List (List Char)}
    (hTexts : ∀ text ∈ texts, Begins text)
    (hSome : texts ≠ []) :
    Begins (between.intercalate texts) := by
  cases texts with
  | nil => exact absurd rfl hSome
  | cons text others =>
      rcases hTexts text (by simp) with ⟨c, cs, rfl, hOther⟩
      by_cases hLast : others = []
      · subst hLast
        rw [List.intercalate_singleton]
        exact ⟨c, cs, rfl, hOther⟩
      · rw [List.intercalate_cons_of_ne_nil hLast]
        exact ⟨c, _, rfl, hOther⟩

/- A list of items is read item by item. -/
theorem listUntil_reads
    {entries : List (List Char × α)}
    (rest : List Char)
    (hClose : close = ']' ∨ close = '}')
    (hBefore : IsBlank before)
    (hBehind : IsBlank behind)
    (hEntries : ∀ e ∈ entries, Reads item e.1 e.2)
    (hSome : entries ≠ []) :
    listUntil close item
        (before ++
          ((',' :: before).intercalate (entries.map (·.1)) ++
            (behind ++ close :: rest))) =
      some (entries.map (·.2), rest) := by
  have hTexts : ∀ text ∈ entries.map (·.1), Begins text := by
    intro text hMember
    rcases List.mem_map.mp hMember with ⟨e, hEntry, rfl⟩
    exact (hEntries e hEntry).begins
  have hBegins :
      Begins ((',' :: before).intercalate (entries.map (·.1))) :=
    begins_intercalate hTexts (by simpa using hSome)
  have hFuel :
      entries.length ≤
        ((',' :: before).intercalate
          (entries.map (·.1))).length := by
    have hSomething :
        ∀ text ∈ entries.map (·.1), text ≠ [] := by
      intro text hMember
      rcases hTexts text hMember with ⟨c, cs, rfl, -⟩
      simp
    simpa using length_le_intercalate (',' :: before) hSomething
  rw [listUntil, skipSpace_blanks _ hBefore,
    hBegins.skipSpace_append]
  have hItems (fuel : Nat) (hEnough : entries.length ≤ fuel) :=
    itemsUntil_reads [] rest hClose isBlank_nil hBefore hBehind
      hEntries hSome hEnough
  rcases hBegins with ⟨c, cs, hFirst, -, hBracket, hBrace⟩
  have hOpen : c ≠ close := by
    rcases hClose with rfl | rfl <;> assumption
  simp only [hFirst, List.nil_append, List.cons_append,
    List.length_append, List.length_cons] at hItems hFuel ⊢
  simp only [beq_iff_eq, hOpen, if_false]
  rw [hItems _ (by omega)]
  simp

end Lists

end Json

end Devirt

------------------------------------------------------------
-- Documents
------------------------------------------------------------

namespace Devirt

namespace Json

/-
  Documents of whole numbers whose arrays and objects are
  nested at most so deep.
-/
inductive Readable : Nat → Json → Prop where
  | null {depth : Nat} : Readable depth .null
  | bool {depth : Nat} (b : Bool) : Readable depth (.bool b)
  | number
      {depth : Nat}
      {n : Number}
      (hWhole : n.IsWhole) :
      Readable depth (.number n)
  | text {depth : Nat} (s : String) : Readable depth (.text s)
  | array
      {depth : Nat}
      {items : List Json}
      (hItems : ∀ v ∈ items, Readable depth v) :
      Readable (depth + 1) (.array items)
  | object
      {depth : Nat}
      {fields : List (String × Json)}
      (hFields : ∀ f ∈ fields, Readable depth f.2) :
      Readable (depth + 1) (.object fields)

theorem Readable.natural
    {depth n : Nat}
    (hFits : n < Number.naturalBound) :
    Readable depth (.number (.natural n)) :=
  .number (show (Number.natural n).IsWhole from hFits)

theorem Readable.nil
    {depth : Nat} :
    Readable (depth + 1) (.object []) :=
  .object (by simp)

theorem Readable.cons
    {depth : Nat}
    {v : Json}
    {rest : List (String × Json)}
    (name : String)
    (hValue : Readable depth v)
    (hRest : Readable (depth + 1) (.object rest)) :
    Readable (depth + 1) (.object ((name, v) :: rest)) := by
  cases hRest with
  | object hFields =>
      apply Readable.object
      intro f hMember
      rcases List.mem_cons.mp hMember with rfl | hOther
      · exact hValue
      · exact hFields f hOther

theorem compactItems_eq_map
    (items : List Json) :
    compactItems items = items.map compact := by
  induction items with
  | nil => rfl
  | cons v rest ih => rw [compactItems, ih, List.map_cons]

/- How a field is written. -/
def compactField (f : String × Json) : String :=
  quote f.1 ++ ":" ++ f.2.compact

theorem compactFields_eq_map
    (fields : List (String × Json)) :
    compactFields fields = fields.map compactField := by
  induction fields with
  | nil => rfl
  | cons f rest ih =>
      rw [compactFields, ih, List.map_cons]
      rfl

theorem toList_compact_array
    (items : List Json) :
    (compact (.array items)).toList =
      '[' :: ([','].intercalate
        (items.map fun v => v.compact.toList) ++ [']']) := by
  simp only [compact, compactItems_eq_map, String.toList_append,
    String.toList_intercalate, List.map_map]
  rfl

theorem toList_compact_object
    (fields : List (String × Json)) :
    (compact (.object fields)).toList =
      '{' :: ([','].intercalate
        (fields.map fun f => (compactField f).toList) ++
          ['}']) := by
  simp only [compact, compactFields_eq_map, String.toList_append,
    String.toList_intercalate, List.map_map]
  rfl

/- What begins no list and no object is read at any depth. -/
theorem readValue_scalar
    {c : Char}
    (depth : Nat)
    (rest : List Char)
    (hSpace : isSpace c = false)
    (hBracket : c ≠ '[')
    (hBrace : c ≠ '{') :
    readValue depth (c :: rest) = readScalar (c :: rest) := by
  cases depth with
  | zero =>
      simp only [readValue, skipSpace_cons rest hSpace]
      split <;> simp_all
  | succ depth =>
      simp only [readValue, skipSpace_cons rest hSpace]
      split <;> simp_all

/- What a digit or a sign begins is a number. -/
theorem readScalar_number
    {c : Char}
    (rest : List Char)
    (hNumber : isDigit c = true ∨ c = '-') :
    readScalar (c :: rest) =
      (readNumber (c :: rest)).map fun (n, rest) =>
        (.number n, rest) := by
  have hNoName : c ≠ 'n' ∧ c ≠ 't' ∧ c ≠ 'f' ∧ c ≠ '"' := by
    rcases hNumber with hDigit | rfl
    · refine ⟨?_, ?_, ?_, ?_⟩ <;>
        (rintro rfl; exact absurd hDigit (by decide))
    · decide
  unfold readScalar
  split <;> simp_all

/- A number begins with no blank and no bracket. -/
theorem number_begins
    {c : Char}
    (hNumber : isDigit c = true ∨ c = '-') :
    isSpace c = false ∧ c ≠ ']' ∧ c ≠ '}' ∧ c ≠ '[' ∧
      c ≠ '{' := by
  rcases hNumber with hDigit | rfl
  · have hNoSpace : isSpace c = false := by
      rw [Bool.eq_false_iff]
      intro hSpace
      simp only [isSpace, Bool.or_eq_true, beq_iff_eq] at hSpace
      rcases hSpace with ((rfl | rfl) | rfl) | rfl <;>
        exact absurd hDigit (by decide)
    refine ⟨hNoSpace, ?_, ?_, ?_, ?_⟩ <;>
      (rintro rfl; exact absurd hDigit (by decide))
  · decide

/- Any scalar is read at any depth. -/
theorem reads_scalar
    {text : List Char}
    {c : Char}
    {cs : List Char}
    {v : Json}
    (depth : Nat)
    (hText : text = c :: cs)
    (hBegins :
      isSpace c = false ∧ c ≠ ']' ∧ c ≠ '}' ∧ c ≠ '[' ∧
        c ≠ '{')
    (hRead :
      ∀ rest, Ends rest →
        readScalar (text ++ rest) = some (v, rest)) :
    Reads (readValue depth) text v := by
  rcases hBegins with ⟨hSpace, hClose, hEnd, hBracket, hBrace⟩
  refine ⟨⟨c, cs, hText, hSpace, hClose, hEnd⟩, ?_⟩
  intro rest hEnds
  rw [hText, List.cons_append,
    readValue_scalar depth _ hSpace hBracket hBrace,
    ← List.cons_append, ← hText]
  exact hRead rest hEnds

theorem reads_text
    (depth : Nat)
    (s : String) :
    Reads (readValue depth) (quote s).toList (.text s) := by
  apply reads_scalar depth (toList_quote s) (by decide)
  intro rest _
  have hRead := readString_quote s rest
  rw [toList_quote] at hRead ⊢
  simp only [List.cons_append] at hRead ⊢
  simp only [readScalar, hRead, Option.map_some]

theorem reads_number
    {n : Number}
    (depth : Nat)
    (hWhole : n.IsWhole) :
    Reads (readValue depth) n.write.toList (.number n) := by
  rcases hWhole.write_begins with ⟨c, cs, hText, hNumber⟩
  apply reads_scalar depth hText (number_begins hNumber)
  intro rest hEnds
  have hRead := readNumber_whole hWhole hEnds
  rw [hText, List.cons_append] at hRead ⊢
  rw [readScalar_number _ hNumber, hRead]
  rfl

theorem toList_compactField
    (name : String)
    (v : Json) :
    (compactField (name, v)).toList =
      (quote name).toList ++ ':' :: v.compact.toList := by
  simp [compactField]

theorem begins_compactField
    (name : String)
    (v : Json) :
    Begins (compactField (name, v)).toList := by
  rw [toList_compactField, toList_quote]
  exact ⟨'"', _, rfl, by decide⟩

/- A field is read if its value is. -/
theorem reads_field
    {value : Reader Json}
    {f : String × Json}
    (hValue : Reads value f.2.compact.toList f.2) :
    Reads (readField value) (compactField f).toList f := by
  rcases f with ⟨name, v⟩
  refine ⟨begins_compactField name v, ?_⟩
  intro rest hEnds
  rw [toList_compactField, List.append_assoc, List.cons_append]
  simp only [readField, readString_quote,
    skipSpace_cons _ (show isSpace ':' = false from rfl),
    Option.bind_eq_bind, Option.bind_some,
    hValue.read rest hEnds]
  rfl

/- Written items are taken for what they are read as. -/
theorem listUntil_written
    {α β : Type}
    {item : Reader β}
    {close : Char}
    {items : List α}
    (write : α → List Char)
    (take : α → β)
    (rest : List Char)
    (hClose : close = ']' ∨ close = '}')
    (hItems : ∀ a ∈ items, Reads item (write a) (take a)) :
    listUntil close item
        ([','].intercalate (items.map write) ++ close :: rest) =
      some (items.map take, rest) := by
  by_cases hNone : items = []
  · subst hNone
    exact listUntil_nil item rest hClose
  · have hEntries :
        ∀ e ∈ items.map (fun a => (write a, take a)),
          Reads item e.1 e.2 := by
      intro e hMember
      rcases List.mem_map.mp hMember with ⟨a, hItem, rfl⟩
      exact hItems a hItem
    have hRead :=
      listUntil_reads rest hClose isBlank_nil isBlank_nil hEntries
        (by simpa using hNone)
    simpa [List.map_map, Function.comp_def] using hRead

/- The compact form of a list is read if its items are. -/
theorem listUntil_compact
    {α : Type}
    {item : Reader α}
    {close : Char}
    {items : List α}
    (write : α → List Char)
    (rest : List Char)
    (hClose : close = ']' ∨ close = '}')
    (hItems : ∀ a ∈ items, Reads item (write a) a) :
    listUntil close item
        ([','].intercalate (items.map write) ++ close :: rest) =
      some (items, rest) := by
  simpa using listUntil_written write id rest hClose hItems

/- The compact form of a document is read as the document. -/
theorem readValue_compact
    {depth : Nat}
    {v : Json}
    (hReadable : Readable depth v) :
    Reads (readValue depth) v.compact.toList v := by
  induction hReadable with
  | null =>
      exact reads_scalar (c := 'n') _ rfl (by decide)
        (fun rest _ => rfl)
  | bool b =>
      cases b with
      | true =>
          exact reads_scalar (c := 't') _ rfl (by decide)
            (fun rest _ => rfl)
      | false =>
          exact reads_scalar (c := 'f') _ rfl (by decide)
            (fun rest _ => rfl)
  | number hWhole => exact reads_number _ hWhole
  | text s => exact reads_text _ s
  | array hItems ih =>
      rw [toList_compact_array]
      refine ⟨⟨'[', _, rfl, by decide⟩, ?_⟩
      intro rest hEnds
      have hRead :=
        listUntil_compact (fun v => (compact v).toList) rest
          (Or.inl rfl) ih
      simp only [List.cons_append, List.append_assoc,
        List.nil_append, readValue,
        skipSpace_cons _ (show isSpace '[' = false from rfl),
        hRead]
      rfl
  | object hFields ih =>
      rw [toList_compact_object]
      refine ⟨⟨'{', _, rfl, by decide⟩, ?_⟩
      intro rest hEnds
      have hRead :=
        listUntil_compact (fun f => (compactField f).toList) rest
          (Or.inr rfl)
          (fun f hMember => reads_field (ih f hMember))
      simp only [List.cons_append, List.append_assoc,
        List.nil_append, readValue,
        skipSpace_cons _ (show isSpace '{' = false from rfl),
        hRead]
      rfl

/- A reader that takes all of a text parses it. -/
theorem Reads.parseWith_eq
    {value : Reader Json}
    {s : String}
    {v : Json}
    (hReads : Reads value s.toList v) :
    parseWith value s = some v := by
  have hRead := hReads.read [] ends_nil
  rw [List.append_nil] at hRead
  simp [parseWith, hRead, skipSpace]

/- Writing a document and reading it gives it back. -/
theorem parse_compact
    {v : Json}
    (hReadable : Readable depthLimit v) :
    parse v.compact = some v :=
  (readValue_compact hReadable).parseWith_eq

end Json

end Devirt

------------------------------------------------------------
-- Passing Over Values
------------------------------------------------------------

namespace Devirt

namespace Json

variable {α : Type}

/-
  Whatever a reader takes from at most so many characters,
  another one passes over, and it is never nothing.
-/
def PassesOver
    (bound : Nat)
    (item : Reader α)
    (passing : Reader Unit) :
    Prop :=
  ∀ cs a rest, cs.length ≤ bound →
    item cs = some (a, rest) →
      rest.length < cs.length ∧ passing cs = some ((), rest)

theorem length_skipSpace_le
    (cs : List Char) :
    (skipSpace cs).length ≤ cs.length :=
  (List.dropWhile_sublist _).length_le

section PassesOver

variable {bound fuel : Nat}
variable {item : Reader α}
variable {passing : Reader Unit}
variable {cs inner rest : List Char}

/- The induction is on the items, as many as there are left. -/
theorem PassesOver.itemsUntil
    {close : Char}
    {done as : List α}
    (before : List Unit)
    (hItem : PassesOver bound item passing)
    (hBound : cs.length ≤ bound)
    (hRead :
      itemsUntil close item fuel done cs = some (as, rest)) :
    rest.length < cs.length ∧
      ∃ us, Json.itemsUntil close passing fuel before cs =
        some (us, rest) := by
  induction fuel generalizing done before cs with
  | zero => cases hRead
  | succ fuel ih =>
      unfold Json.itemsUntil at hRead ⊢
      have hStart := length_skipSpace_le cs
      cases hFirst : item (skipSpace cs) with
      | none => simp [hFirst] at hRead
      | some first =>
          rcases first with ⟨a, behind⟩
          rcases hItem _ _ _ (by omega) hFirst with
            ⟨hShorter, hOver⟩
          have hEnd := length_skipSpace_le behind
          simp only [hFirst, hOver] at hRead ⊢
          split at hRead
          · next c last hLast =>
              rw [hLast, List.length_cons] at hEnd
              split at hRead
              · next hClose =>
                  cases hRead
                  rw [if_pos hClose]
                  exact ⟨by omega, _, rfl⟩
              · next hClose =>
                  rw [if_neg hClose]
                  split at hRead
                  · next hComma =>
                      rw [if_pos hComma]
                      rcases ih (() :: before) (by omega) hRead
                        with ⟨hLess, hOthers⟩
                      exact ⟨by omega, hOthers⟩
                  · cases hRead
          · cases hRead

theorem PassesOver.listUntil
    {close : Char}
    {as : List α}
    (hItem : PassesOver bound item passing)
    (hBound : cs.length ≤ bound)
    (hRead : listUntil close item cs = some (as, rest)) :
    rest.length < cs.length ∧
      ∃ us, Json.listUntil close passing cs = some (us, rest) := by
  unfold Json.listUntil at hRead ⊢
  have hStart := length_skipSpace_le cs
  split at hRead
  · next c behind hFirst =>
      rw [hFirst, List.length_cons] at hStart
      split at hRead
      · next hClose =>
          cases hRead
          rw [if_pos hClose]
          exact ⟨by omega, _, rfl⟩
      · next hClose =>
          rw [if_neg hClose]
          rcases hItem.itemsUntil []
              (by rw [List.length_cons]; omega) hRead with
            ⟨hLess, hOver⟩
          rw [List.length_cons] at hLess
          exact ⟨by omega, hOver⟩
  · cases hRead

/- A name and a colon are passed over before the value. -/
theorem skipField_eq_some
    {a : α}
    {behind last : List Char}
    (hItem : PassesOver bound item passing)
    (hBound : ('"' :: inner).length ≤ bound)
    (hName : skipString inner = some ((), behind))
    (hColon : skipSpace behind = ':' :: last)
    (hRead : item last = some (a, rest)) :
    rest.length < ('"' :: inner).length ∧
      skipField passing ('"' :: inner) = some ((), rest) := by
  have hShorter := skipString_length hName
  have hStart := length_skipSpace_le behind
  rw [hColon, List.length_cons] at hStart
  rw [List.length_cons] at hBound ⊢
  rcases hItem _ _ _ (by omega) hRead with ⟨hLess, hPassed⟩
  refine ⟨by omega, ?_⟩
  simp only [skipField, hName, Option.bind_eq_bind,
    Option.bind_some, hColon, hPassed]

theorem PassesOver.readField
    {value : Reader Json}
    (hValue : PassesOver bound value passing) :
    PassesOver bound (readField value) (skipField passing) := by
  rintro cs ⟨name, v⟩ rest hBound hRead
  rcases Option.bind_eq_some_iff.mp hRead with
    ⟨⟨s, behind⟩, hName, hBehind⟩
  unfold readString at hName
  split at hName
  · next inner =>
      dsimp only at hBehind
      split at hBehind
      · next last hColon =>
          rcases Option.bind_eq_some_iff.mp hBehind with
            ⟨⟨w, after⟩, hTaken, hRest⟩
          cases hRest
          exact
            skipField_eq_some hValue hBound
              (skipString_of_stringBody hName) hColon hTaken
      · cases hBehind
  · cases hName

theorem PassesOver.skipField
    {value : Reader Unit}
    (hValue : PassesOver bound value passing) :
    PassesOver bound (skipField value) (skipField passing) := by
  intro cs a rest hBound hSkip
  unfold Json.skipField at hSkip
  split at hSkip
  · next inner =>
      rcases Option.bind_eq_some_iff.mp hSkip with
        ⟨⟨_, behind⟩, hName, hBehind⟩
      dsimp only at hBehind
      split at hBehind
      · next last hColon =>
          exact
            skipField_eq_some hValue hBound hName hColon hBehind
      · cases hBehind
  · cases hSkip

/- A bracket takes one from the fuel and from what is left. -/
theorem skipValue_array
    {as : List α}
    (hItem :
      ∀ less, bound - 1 ≤ less →
        PassesOver (bound - 1) item (skipValue less))
    (hFuel : bound ≤ fuel)
    (hBound : cs.length ≤ bound)
    (hArray : skipSpace cs = '[' :: inner)
    (hRead : listUntil ']' item inner = some (as, rest)) :
    rest.length < cs.length ∧
      skipValue fuel cs = some ((), rest) := by
  have hStart := length_skipSpace_le cs
  rw [hArray, List.length_cons] at hStart
  obtain ⟨less, rfl⟩ : ∃ less, fuel = less + 1 :=
    ⟨fuel - 1, by omega⟩
  rcases (hItem less (by omega)).listUntil (by omega) hRead with
    ⟨hLess, us, hPassed⟩
  refine ⟨by omega, ?_⟩
  simp only [skipValue, hArray, hPassed, Option.map_some]

theorem skipValue_object
    {as : List α}
    (hItem :
      ∀ less, bound - 1 ≤ less →
        PassesOver (bound - 1) item (skipField (skipValue less)))
    (hFuel : bound ≤ fuel)
    (hBound : cs.length ≤ bound)
    (hObject : skipSpace cs = '{' :: inner)
    (hRead : listUntil '}' item inner = some (as, rest)) :
    rest.length < cs.length ∧
      skipValue fuel cs = some ((), rest) := by
  have hStart := length_skipSpace_le cs
  rw [hObject, List.length_cons] at hStart
  obtain ⟨less, rfl⟩ : ∃ less, fuel = less + 1 :=
    ⟨fuel - 1, by omega⟩
  rcases (hItem less (by omega)).listUntil (by omega) hRead with
    ⟨hLess, us, hPassed⟩
  refine ⟨by omega, ?_⟩
  simp only [skipValue, hObject, hPassed, Option.map_some]

/- No scalar begins with a bracket. -/
theorem skipValue_scalar
    (hFuel : bound ≤ fuel)
    (hBound : cs.length ≤ bound)
    (hSkip : skipScalar (skipSpace cs) = some ((), rest)) :
    rest.length < cs.length ∧
      skipValue fuel cs = some ((), rest) := by
  have hStart := length_skipSpace_le cs
  have hLess := skipScalar_length hSkip
  obtain ⟨less, rfl⟩ : ∃ less, fuel = less + 1 :=
    ⟨fuel - 1, by omega⟩
  refine ⟨by omega, ?_⟩
  unfold skipValue
  split
  · next hArray =>
      rw [hArray] at hSkip
      cases hSkip
  · next hObject =>
      rw [hObject] at hSkip
      cases hSkip
  · exact hSkip

/-
  A value that is read can be passed over.  The induction is on
  the depth; each level takes one bracket from the input.
-/
theorem readValue_passesOver
    (depth : Nat)
    (hFuel : bound ≤ fuel) :
    PassesOver bound (readValue depth) (skipValue fuel) := by
  induction depth generalizing bound fuel with
  | zero =>
      intro cs v rest hBound hRead
      unfold readValue at hRead
      split at hRead
      · cases hRead
      · cases hRead
      · exact
          skipValue_scalar hFuel hBound
            (skipScalar_of_readScalar hRead)
  | succ depth ih =>
      intro cs v rest hBound hRead
      unfold readValue at hRead
      split at hRead
      · next inner hArray =>
          rcases Option.map_eq_some_iff.mp hRead with
            ⟨⟨items, behind⟩, hItems, hRest⟩
          cases hRest
          exact
            skipValue_array (fun _ hLess => ih hLess) hFuel
              hBound hArray hItems
      · next inner hObject =>
          rcases Option.map_eq_some_iff.mp hRead with
            ⟨⟨fields, behind⟩, hFields, hRest⟩
          cases hRest
          exact
            skipValue_object (fun _ hLess => (ih hLess).readField)
              hFuel hBound hObject hFields
      · exact
          skipValue_scalar hFuel hBound
            (skipScalar_of_readScalar hRead)

/- More fuel than characters makes no difference. -/
theorem skipValue_passesOver
    (deep : Nat)
    (hFuel : bound ≤ fuel) :
    PassesOver bound (skipValue deep) (skipValue fuel) := by
  induction deep generalizing bound fuel with
  | zero =>
      intro cs a rest _ hSkip
      cases hSkip
  | succ deep ih =>
      intro cs a rest hBound hSkip
      unfold skipValue at hSkip
      split at hSkip
      · next inner hArray =>
          rcases Option.map_eq_some_iff.mp hSkip with
            ⟨⟨items, behind⟩, hItems, hRest⟩
          cases hRest
          exact
            skipValue_array (fun _ hLess => ih hLess) hFuel
              hBound hArray hItems
      · next inner hObject =>
          rcases Option.map_eq_some_iff.mp hSkip with
            ⟨⟨fields, behind⟩, hFields, hRest⟩
          cases hRest
          exact
            skipValue_object (fun _ hLess => (ih hLess).skipField)
              hFuel hBound hObject hFields
      · exact skipValue_scalar hFuel hBound hSkip

end PassesOver

/- As much fuel as there are characters is enough. -/
theorem skipValue_length
    {fuel : Nat}
    {cs rest : List Char}
    (hSkip : skipValue fuel cs = some ((), rest)) :
    skipValue cs.length cs = some ((), rest) :=
  (skipValue_passesOver fuel (Nat.le_refl cs.length) cs _ rest
    (Nat.le_refl _) hSkip).2

theorem skipValue_of_readValue
    {depth : Nat}
    {cs rest : List Char}
    {v : Json}
    (hRead : readValue depth cs = some (v, rest)) :
    skipValue cs.length cs = some ((), rest) :=
  (readValue_passesOver depth (Nat.le_refl cs.length) cs _ rest
    (Nat.le_refl _) hRead).2

end Json

end Devirt

------------------------------------------------------------
-- Records
------------------------------------------------------------

namespace Devirt

namespace Json

theorem reads_readText
    (s : String) :
    Reads readText (compact (.text s)).toList (.text s) := by
  refine ⟨⟨'"', _, toList_quote s, by decide⟩, ?_⟩
  intro rest hEnds
  have hRead := readString_quote s rest
  rw [compact, readText, toList_quote, List.cons_append,
    skipSpace_cons _ (show isSpace '"' = false from rfl)]
  rw [toList_quote, List.cons_append] at hRead
  rw [hRead]
  rfl

/- A list is read if each of its items is. -/
theorem reads_readListOf
    {α : Type}
    {item : Reader Json}
    {items : List α}
    (write : α → Json)
    (hItems :
      ∀ a ∈ items,
        Reads item (write a).compact.toList (write a)) :
    Reads (readListOf item)
      (compact (.array (items.map write))).toList
      (.array (items.map write)) := by
  rw [toList_compact_array, List.map_map]
  refine ⟨⟨'[', _, rfl, by decide⟩, ?_⟩
  intro rest hEnds
  have hRead :=
    listUntil_written (fun a => (write a).compact.toList) write
      rest (Or.inl rfl) hItems
  simp only [List.cons_append, List.append_assoc,
    List.nil_append, readListOf, Function.comp_def,
    skipSpace_cons _ (show isSpace '[' = false from rfl), hRead]
  rfl

section Asked

variable {fields : List Field}
variable {name : String}
variable {v : Json}

/- A field that is asked for is read by its own reader. -/
theorem reads_readAsked
    {w : Json}
    (field : Field)
    (hAsked : fields.find? (·.isCalled name) = some field)
    (hValue : Reads field.value v.compact.toList w) :
    Reads (readAsked fields) (compactField (name, v)).toList
      (some (field.name, w)) := by
  refine ⟨begins_compactField name v, ?_⟩
  intro rest hEnds
  rw [toList_compactField, List.append_assoc, List.cons_append]
  simp only [readAsked, readString_quote,
    skipSpace_cons _ (show isSpace ':' = false from rfl),
    Option.bind_eq_bind, Option.bind_some, hAsked,
    hValue.read rest hEnds]
  rfl

/- Nobody looks at any other field. -/
theorem reads_readUnasked
    {depth : Nat}
    (hUnasked : fields.find? (·.isCalled name) = none)
    (hReadable : Readable depth v) :
    Reads (readAsked fields) (compactField (name, v)).toList
      none := by
  refine ⟨begins_compactField name v, ?_⟩
  intro rest hEnds
  have hOver :=
    skipValue_of_readValue
      ((readValue_compact hReadable).read rest hEnds)
  rw [toList_compactField, List.append_assoc, List.cons_append]
  simp only [readAsked, readString_quote,
    skipSpace_cons _ (show isSpace ':' = false from rfl),
    Option.bind_eq_bind, Option.bind_some, hUnasked, hOver]
  rfl

/- A record is read if its fields are, asked for or not. -/
theorem reads_readRecord
    {written : List (String × Json)}
    (take : String × Json → Option (String × Json))
    (hFields :
      ∀ f ∈ written,
        Reads (readAsked fields) (compactField f).toList
          (take f)) :
    Reads (readRecord fields) (compact (.object written)).toList
      (.object (written.filterMap take)) := by
  rw [toList_compact_object]
  refine ⟨⟨'{', _, rfl, by decide⟩, ?_⟩
  intro rest hEnds
  have hRead :=
    listUntil_written (fun f => (compactField f).toList) take
      rest (Or.inr rfl) hFields
  simp only [List.cons_append, List.append_assoc,
    List.nil_append, readRecord,
    skipSpace_cons _ (show isSpace '{' = false from rfl), hRead,
    Option.map_some, List.filterMap_map]
  rfl

end Asked

end Json

end Devirt
