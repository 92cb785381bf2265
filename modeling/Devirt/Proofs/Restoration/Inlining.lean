import Devirt.Proofs.Pattern.Readers
import Devirt.Proofs.Restoration.Indices
import Devirt.Proofs.Restoration.Numerals
import Devirt.Proofs.Source.Cutting

/-
  References that are replaced by elements of tables.

  A reference is the name of the table and an index in brackets,
  with blanks in between.  It is replaced if all of it is code
  and the table has an element of its number.  Nothing is asked
  about the code around a reference, apart from the character
  before it; so what a script assigns to is replaced like what
  it reads.

  Main declarations:
    * `StringTable.Reference`, `StringTable.Reference.At`
    * `StringTable.IsWord`, `StringTable.isWord_of_find?`
    * `StringTable.reference_at`,
      `StringTable.Reference.At.mem_all`
    * `StringTable.Inlines`, `StringTable.mem_edits_inlining`
    * `inlineReferences_elements`
    * `storedElement_inlined`
-/

------------------------------------------------------------
-- References
------------------------------------------------------------

namespace Devirt

open Scanner CodeMap Pattern

namespace StringTable

/- An index in brackets, and the blanks around it. -/
structure Reference where
  lead : List Char
  gap : List Char
  before : List Char
  index : Index
  after : List Char
  gap_blank : ∀ c ∈ gap, Text.isBlank c = true
  before_blank : ∀ c ∈ before, Text.isBlank c = true
  after_blank : ∀ c ∈ after, Text.isBlank c = true

namespace Reference

/- A reference with the name of its table. -/
def body (name : String) (r : Reference) : List Char :=
  name.toList ++
    (r.gap ++
      '[' :: (r.before ++ (r.index.text ++ (r.after ++ [']']))))

/- The same with what leads to it. -/
def text (name : String) (r : Reference) : List Char :=
  r.lead ++ r.body name

/-
  A text has a reference between two offsets, behind what leads
  to it: nothing at the beginning, or one character that stands
  apart.
-/
structure At
    (name : String)
    (chars : List Char)
    (start stop : Nat)
    (r : Reference) : Prop where
  drop_eq : chars.drop start = r.text name ++ chars.drop stop
  stop_eq : stop = start + (r.text name).length
  lead_separates : Cleanup.Separates start 0 r.lead

end Reference

/- The pattern of an index. -/
def indexPattern : Pattern :=
  alt
    (sequence
      [char '0', one (oneOf ['x', 'X']), many isHex 1 none])
    (many isDigit 1 none)

/- An index leads along its characters. -/
theorem passage_of_index
    {here there : Place}
    {groups found : Groups}
    (hLeads : Leads indexPattern here groups there found) :
    ∃ index : Index, Passage indexPattern here index.text there := by
  rcases hLeads.passage with ⟨passed, hPassage⟩
  suffices hIndex : ∃ index : Index, index.text = passed by
    rcases hIndex with ⟨index, rfl⟩
    exact ⟨index, hPassage⟩
  have hCancel :
      ∀ {cs : List Char}, here.rest = cs ++ there.rest →
        cs = passed :=
    fun hRest =>
      List.append_cancel_right (hRest.symm.trans hPassage.rest_eq)
  rcases hLeads with hHex | hDecimal
  · rcases hHex with
      ⟨_, _, ⟨zero, _, hZeroRest, hZero, rfl, rfl⟩, _, _,
        ⟨mark, _, hMarkRest, hMark, rfl, rfl⟩, hMany⟩
    rcases hMany.many with ⟨digits, hDigits, hPos, hHex⟩
    have hAll :=
      (passage_one (p := (· == '0')) hZeroRest hZero).seq
        ((passage_one (p := oneOf ['x', 'X']) hMarkRest
          hMark).seq hDigits)
    have hZero : zero = '0' := beq_iff_eq.mp hZero
    subst hZero
    exact
      ⟨.hex mark digits (List.contains_iff_mem.mp hMark) hHex
        (List.ne_nil_of_length_pos hPos), hCancel hAll.rest_eq⟩
  · rcases hDecimal.many with ⟨digits, hDigits, hPos, hDecimal⟩
    exact
      ⟨.decimal digits hDecimal (List.ne_nil_of_length_pos hPos),
        hCancel hDigits.rest_eq⟩

theorem passage_of_char
    {c : Char}
    {here there : Place}
    {groups found : Groups}
    (hLeads : Leads (char c) here groups there found) :
    Passage (char c) here [c] there := by
  rcases hLeads with ⟨d, cs, hRest, hClass, rfl, -⟩
  have hSame : d = c := beq_iff_eq.mp hClass
  subst hSame
  exact passage_one hRest hClass

/- A match of the pattern is a reference. -/
theorem reference_at
    {name : String}
    {chars : List Char}
    {found : Match}
    {here there : Place}
    (hLocated :
      Located (reference name) chars found here there) :
    ∃ r : Reference,
      r.At name chars found.start found.stop ∧
        found.groupText chars 1 = r.lead ∧
          found.groupText chars 2 = r.index.text := by
  rcases hLocated.leads with
    ⟨first, _, ⟨_, hLead, rfl⟩, second, _, hName, third, _, hGap,
      fourth, _, hOpen, fifth, _, hBefore, sixth, _,
      ⟨_, hIndex, rfl⟩, seventh, _, hAfter, hClose⟩
  have hHere := hLocated.onText
  have hFirst := hLead.onText hHere
  have hFifth :=
    hBefore.onText
      (hOpen.onText (hGap.onText (hName.onText hFirst)))
  have hThere := hClose.onText (hAfter.onText (hIndex.onText hFifth))
  have hGroups := hClose.found_eq rfl
  rw [hAfter.found_eq rfl, hIndex.found_eq rfl,
    hBefore.found_eq rfl, hOpen.found_eq rfl, hGap.found_eq rfl,
    hName.literal.2, hLead.found_eq rfl] at hGroups
  rcases hLead.passage with ⟨lead, hLeadPassage⟩
  rcases hGap.many with ⟨gap, hGapPassage, -, hGapBlank⟩
  rcases hBefore.many with ⟨before, hBeforePassage, -, hBeforeBlank⟩
  rcases passage_of_index hIndex with ⟨index, hIndexPassage⟩
  rcases hAfter.many with ⟨after, hAfterPassage, -, hAfterBlank⟩
  have hAll :=
    hLeadPassage.seq (hName.literal.1.seq (hGapPassage.seq
      ((passage_of_char hOpen).seq (hBeforePassage.seq
        (hIndexPassage.seq (hAfterPassage.seq
          (passage_of_char hClose)))))))
  let r : Reference :=
    { lead := lead
      gap := gap
      before := before
      index := index
      after := after
      gap_blank := hGapBlank
      before_blank := hBeforeBlank
      after_blank := hAfterBlank }
  refine ⟨r, ⟨?_, ?_, ?_⟩, ?_, ?_⟩
  · rw [hLocated.start_eq, hLocated.stop_eq, ← hHere.rest_eq,
      ← hThere.rest_eq]
    exact hAll.rest_eq
  · rw [hLocated.start_eq, hLocated.stop_eq]
    exact hAll.offset_eq
  · rw [hLocated.start_eq]
    exact
      Cleanup.separates_lead hHere hLead hLeadPassage.rest_eq
  · exact
      hLeadPassage.groupText_eq hHere
        (by simp [Match.group?, hGroups])
  · exact
      hIndexPassage.groupText_eq hFifth
        (by simp [Match.group?, hGroups])

/- A name that a script can give. -/
structure IsWord (name : String) : Prop where
  chars : ∀ c ∈ name.toList, isName c = true
  ne_nil : name.toList ≠ []

/- The name in a declaration. -/
theorem isWord_declared
    {text : List Char}
    {found : Match}
    (hMember : found ∈ declaration.all text) :
    IsWord (String.ofList (found.groupText text 1)) := by
  rcases all_located hMember with ⟨here, there, hLocated⟩
  rcases hLocated.leads with
    ⟨first, _, hKeyword, second, _, hGap, third, _,
      ⟨_, ⟨middle, _, hLead, hMany⟩, rfl⟩, fourth, _, hBefore,
      fifth, _, hEquals, sixth, _, hAfter, hOpen⟩
  have hSecond :=
    hGap.onText (hKeyword.onText hLocated.onText)
  have hGroups := hOpen.found_eq rfl
  rw [hAfter.found_eq rfl, hEquals.found_eq rfl,
    hBefore.found_eq rfl, hMany.found_eq rfl, hLead.found_eq rfl,
    hGap.found_eq rfl, hKeyword.found_eq rfl] at hGroups
  rcases hMany.many with ⟨digits, hDigits, -, hHex⟩
  have hText :
      found.groupText text 1 = "_0x".toList ++ digits :=
    (hLead.literal.1.seq hDigits).groupText_eq hSecond
      (by simp [Match.group?, hGroups])
  constructor
  · intro c hChar
    rw [String.toList_ofList, hText, List.mem_append] at hChar
    rcases hChar with hHere | hDigit
    · exact List.all_eq_true.mp (by decide) c hHere
    · rcases Script.Lexer.word_of_isHex (hHex c hDigit) with
        ⟨-, hWord, -⟩
      simp [isName, hWord]
  · rw [String.toList_ofList, hText]
    simp

theorem isWord_of_firstClosed
    {closer : Closer}
    {m : CodeMap}
    {text : List Char}
    {found : List Match}
    {t : StringTable}
    (hFound : ∀ one ∈ found, one ∈ declaration.all text)
    (hTable : firstClosed closer m text found = .ok (some t)) :
    IsWord t.name := by
  induction found with
  | nil => cases hTable
  | cons one rest ih =>
      rcases List.forall_mem_cons.mp hFound with ⟨hHere, hLater⟩
      unfold firstClosed at hTable
      dsimp only at hTable
      split_ifs at hTable with hCode
      · rcases ok_of_bind_ok hTable with
          ⟨_ | close, -, hTable⟩
        · exact ih hLater hTable
        · cases hTable
          exact isWord_declared hHere
      · exact ih hLater hTable

/- A table that is found has such a name. -/
theorem isWord_of_find?
    {code : String}
    {t : StringTable}
    (hTable : find? code = .ok (some t)) :
    IsWord t.name :=
  isWord_of_firstClosed (fun _ hMember => hMember) hTable

namespace Reference.At

variable {name : String}
variable {chars : List Char}
variable {start stop stop' : Nat}
variable {r r' : Reference}

/- What leads to a name is known from the name. -/
theorem lead_unique
    (hName : IsWord name)
    (hAt : r.At name chars start stop)
    (hAt' : r'.At name chars start stop') :
    r.lead = r'.lead := by
  have hSame := hAt.drop_eq.symm.trans hAt'.drop_eq
  rcases List.exists_cons_of_ne_nil hName.ne_nil with
    ⟨d, ds, hCons⟩
  have hFirst : isName d = true :=
    hName.chars d (by simp [hCons])
  have hClash :
      ∀ {c : Char}, Cleanup.isSeparator c = true → c ≠ d := by
    rintro c hClass rfl
    simp [Cleanup.isSeparator, hFirst] at hClass
  unfold text body at hSame
  rw [hCons] at hSame
  rcases hAt.lead_separates with
    ⟨hLead, -⟩ | ⟨c, hLead, hClass⟩ <;>
    rcases hAt'.lead_separates with
      ⟨hLead', -⟩ | ⟨c', hLead', hClass'⟩ <;>
    rw [hLead, hLead'] at hSame ⊢
  · exact absurd (List.cons.inj hSame).1.symm (hClash hClass')
  · exact absurd (List.cons.inj hSame).1 (hClash hClass)
  · rw [(List.cons.inj hSame).1]

theorem after_ascii
    (hSmall : Small chars)
    (hAt : r.At name chars start stop) :
    ∀ c ∈ r.after, c.toNat < 128 := by
  intro c hMember
  apply hSmall
  apply List.mem_of_mem_drop (i := start)
  rw [hAt.drop_eq]
  simp [text, body, hMember]

/- No word goes on behind an index. -/
theorem after_not_word
    (hSmall : Small chars)
    (hAt : r.At name chars start stop)
    (rest : List Char) :
    ∀ c ∈ (r.after ++ ']' :: rest).head?,
      Text.isWord c = false := by
  intro c hHead
  cases hAfter : r.after with
  | nil =>
      rw [hAfter] at hHead
      cases hHead
      decide
  | cons d ds =>
      rw [hAfter] at hHead
      cases hHead
      have hMember : c ∈ r.after := by simp [hAfter]
      rw [Bool.eq_false_iff]
      intro hWord
      have hNone :=
        Index.not_isBlank_of_word (hAt.after_ascii hSmall c hMember)
          hWord
      rw [r.after_blank c hMember] at hNone
      cases hNone

/- A place has one reference at most. -/
theorem unique
    (hSmall : Small chars)
    (hName : IsWord name)
    (hAt : r.At name chars start stop)
    (hAt' : r'.At name chars start stop') :
    r.lead = r'.lead ∧ r.index.text = r'.index.text ∧
      stop = stop' := by
  have hLead := hAt.lead_unique hName hAt'
  have hSame := hAt.drop_eq.symm.trans hAt'.drop_eq
  simp only [text, body, List.append_assoc, List.cons_append,
    List.nil_append, hLead] at hSame
  have hBehindName :=
    List.append_cancel_left (List.append_cancel_left hSame)
  -- blanks and words take turns from here on
  rcases Decimal.run_append_inj hBehindName r.gap_blank
      r'.gap_blank (by simp; decide) (by simp; decide) with
    ⟨hGap, hOpen⟩
  rcases Decimal.run_append_inj (List.cons.inj hOpen).2
      r.before_blank r'.before_blank
      (r.index.head_not_blank _) (r'.index.head_not_blank _) with
    ⟨hBefore, hBehindBlanks⟩
  rcases Decimal.run_append_inj hBehindBlanks
      (fun c hMember => (r.index.text_word c hMember).2)
      (fun c hMember => (r'.index.text_word c hMember).2)
      (hAt.after_not_word hSmall _)
      (hAt'.after_not_word hSmall _) with
    ⟨hIndex, hBehindIndex⟩
  rcases Decimal.run_append_inj hBehindIndex r.after_blank
      r'.after_blank (by simp; decide) (by simp; decide) with
    ⟨hAfter, -⟩
  refine ⟨hLead, hIndex, ?_⟩
  rw [hAt.stop_eq, hAt'.stop_eq, text, text, body, body, hLead,
    hGap, hBefore, hIndex, hAfter]

end Reference.At

theorem accepts_index
    (index : Index) :
    indexPattern.Accepts index.text := by
  cases index with
  | hex mark digits mark_mem digits_hex digits_ne_nil =>
      have hMark : oneOf ['x', 'X'] mark = true :=
        List.contains_iff_mem.mpr mark_mem
      exact
        .left _
          ((accepts_char '0').seq
            ((accepts_one hMark).seq
              (accepts_many digits_hex
                (List.length_pos_of_ne_nil digits_ne_nil)
                (by simp))))
  | decimal digits digits_decimal digits_ne_nil =>
      exact
        .right _
          (accepts_many digits_decimal
            (List.length_pos_of_ne_nil digits_ne_nil)
            (by simp))

namespace Reference.At

variable {name : String}
variable {chars : List Char}
variable {start stop : Nat}
variable {r : Reference}

/- The pattern leads along every reference. -/
theorem leads
    {here : Place}
    (hAt : r.At name chars start stop)
    (hHere : here.OnText chars)
    (hStart : here.offset = start) :
    ∃ there groups,
      Leads (reference name) here [] there groups := by
  have hBody : Accepts _ (r.body name) :=
    (accepts_literal name).seq
      ((accepts_blanks r.gap_blank).seq
        ((accepts_char '[').seq
          ((accepts_blanks r.before_blank).seq
            (((accepts_index r.index).group 2).seq
              ((accepts_blanks r.after_blank).seq
                (accepts_char ']'))))))
  have hRest :
      here.rest = r.lead ++ (r.body name ++ chars.drop stop) := by
    rw [hHere.rest_eq, hStart, hAt.drop_eq, text,
      List.append_assoc]
  rcases Cleanup.exists_leads_lead [] hHere hRest
      (hStart ▸ hAt.lead_separates) with
    ⟨first, hLead, hFirstRest⟩
  rcases hBody first [(1, here.offset, first.offset)] _
      hFirstRest with
    ⟨there, found, hLeads, -⟩
  exact ⟨there, found, first, _, ⟨_, hLead, rfl⟩, hLeads⟩

/- A reference is found unless a match reaches into it. -/
theorem mem_all
    (hSmall : Small chars)
    (hName : IsWord name)
    (hAt : r.At name chars start stop) :
    (∃ found ∈ (reference name).all chars,
        found.start = start ∧ found.stop = stop ∧
          found.groupText chars 1 = r.lead ∧
            found.groupText chars 2 = r.index.text) ∨
      ∃ other ∈ (reference name).all chars,
        other.start < start ∧ start < other.stop := by
  have hInside : start ≤ chars.length := by
    by_contra hOutside
    have hNone := hAt.drop_eq
    rw [List.drop_of_length_le (by omega)] at hNone
    simp [text, body] at hNone
  rcases exists_place hInside with
    ⟨here, hHere, hStart⟩
  rcases hAt.leads hHere hStart with ⟨last, groups, hLeads⟩
  rcases Option.isSome_iff_exists.mp
      (hLeads.matchThen_isSome rfl :
        (matchFrom (reference name) here).isSome = true) with
    ⟨⟨found, there⟩, hMatch⟩
  have hFinds : Finds (reference name) chars found here there :=
    ⟨hHere, hMatch⟩
  rcases reference_at hFinds.located with
    ⟨r', hFound, hLead, hIndex⟩
  have hFoundStart : found.start = start :=
    hFinds.located.start_eq.trans hStart
  rw [hFoundStart] at hFound
  rcases hAt.unique hSmall hName hFound with
    ⟨hSameLead, hSameIndex, hStop⟩
  rw [← hSameLead] at hLead
  rw [← hSameIndex] at hIndex
  rw [← hStart]
  rcases hFinds.mem_all with hMember | hOther
  · exact
      Or.inl
        ⟨found, hMember, hFinds.located.start_eq, hStop.symm,
          hLead, hIndex⟩
  · exact Or.inr hOther

end Reference.At

------------------------------------------------------------
-- Edits
------------------------------------------------------------

/-
  An edit writes the element that a reference asks for, where
  the reference and the character before it are code.
-/
structure Inlines
    (name : String)
    (values : List Json)
    (m : CodeMap)
    (e : Edit)
    (r : Reference)
    (v : Json) : Prop where
  shown : r.At name m.masked e.start e.stop
  isCode : m.isCodeBetween e.start e.stop = true
  asks :
    r.index.value < 2 ^ 53 ∨ values.length < 2 ^ 53 →
      values[r.index.value]? = some v
  writes : e.replacement = String.ofList (r.lead ++ v.compact.toList)

theorem exists_inlines
    {name : String}
    {values : List Json}
    {m : CodeMap}
    {e : Edit}
    (hEdit : e ∈ (inlining name values).edits m) :
    ∃ r v, Inlines name values m e r v := by
  rcases Rule.mem_edits hEdit with
    ⟨found, here, there, replacement, hLocated, hCode, hReplace,
      rfl⟩
  rcases reference_at hLocated with ⟨r, hAt, hLead, hIndex⟩
  simp only [inlining, hLead, hIndex] at hReplace
  rcases Option.map_eq_some_iff.mp hReplace with ⟨v, hAsks, rfl⟩
  refine ⟨r, v, hAt, hCode, ?_, rfl⟩
  intro hCounts
  rw [← r.index.element?_text hCounts, hAsks]

/- What reaches into a reference keeps it from being replaced. -/
def Overlapped
    (name : String)
    (m : CodeMap)
    (start : Nat) : Prop :=
  ∃ other ∈ (reference name).all m.masked,
    other.start < start ∧ start < other.stop

theorem Inlines.mem_edits
    {name : String}
    {values : List Json}
    {m : CodeMap}
    {e : Edit}
    {r : Reference}
    {v : Json}
    (hName : IsWord name)
    (hInlines : Inlines name values m e r v)
    (hCounts :
      r.index.value < 2 ^ 53 ∨ values.length < 2 ^ 53) :
    e ∈ (inlining name values).edits m ∨
      Overlapped name m e.start := by
  rcases hInlines.shown.mem_all (small_masked m) hName with
    ⟨found, hMember, hStart, hStop, hLead, hIndex⟩ | hOther
  · refine Or.inl ?_
    rw [Rule.edits_eq_filterMap]
    refine List.mem_filterMap.mpr ⟨found, hMember, ?_⟩
    have hWrites := hInlines.writes
    have hCode := hInlines.isCode
    have hAsks := hInlines.asks hCounts
    rw [← r.index.element?_text hCounts] at hAsks
    rcases e with ⟨start, stop, replacement⟩
    dsimp only at hStart hStop hCode hWrites
    subst hWrites
    simp [Rule.edit?, inlining, hStart, hStop, hCode, hLead,
      hIndex, hAsks]
  · exact Or.inr hOther

/- An edit ends between characters. -/
theorem Inlines.isBoundary_stop
    {name code : String}
    {values : List Json}
    {e : Edit}
    {r : Reference}
    {v : Json}
    (hInlines : Inlines name values (ofText code) e r v) :
    (ofText code).isBoundary e.stop = true := by
  have hAt := hInlines.shown
  have hText :
      r.text name =
        (r.lead ++ (name.toList ++ (r.gap ++ '[' ::
          (r.before ++ (r.index.text ++ r.after))))) ++ [']'] := by
    simp [Reference.text, Reference.body]
  generalize
    r.lead ++ (name.toList ++ (r.gap ++ '[' ::
      (r.before ++ (r.index.text ++ r.after)))) = inner at hText
  have hLast :
      (ofText code).masked[e.start + inner.length]? =
        some ']' := by
    rw [← List.getElem?_drop, hAt.drop_eq, hText]
    simp
  have hStop : e.stop = e.start + inner.length + 1 := by
    rw [hAt.stop_eq, hText, List.length_append]
    rfl
  rw [hStop]
  exact (isBoundary_of_shown hLast (by decide)).2

/- A script is cut behind its table if it can be cut there. -/
theorem exists_tail
    {t : StringTable}
    {code : String}
    (hCut : (ofText code).isBoundary t.stop = true) :
    ∃ head tail,
      code = head ++ tail ∧ (bytesOf head).length = t.stop ∧
        ∀ values,
          t.inlineReferences code values =
            ((inlining t.name values).apply tail).map
              (fun result => (head ++ result.1, result.2)) := by
  have hZero := isBoundary_zero (cuttable_ofText code)
  have hInside := le_size_of_isBoundary hCut
  rcases exists_cut hCut with
    ⟨head, tail, hSplit, hHead, hTail⟩
  have hFirst : (ofText code).slice 0 t.stop = .ok head := by
    rw [slice_eq (Nat.zero_le _) hZero hCut, bytes_ofText,
      List.drop_zero, Nat.sub_zero, ← hHead, textOf_bytesOf]
  have hSecond :
      (ofText code).slice t.stop (ofText code).size =
        .ok tail := by
    rw [slice_eq hInside hCut (isBoundary_size _),
      ← length_bytes, bytes_ofText, ← List.length_drop,
      List.take_length, ← hTail, textOf_bytesOf]
  rw [← length_bytes, bytes_ofText] at hInside
  refine ⟨head, tail, hSplit, ?_, fun values => ?_⟩
  · rw [hHead, List.length_take, Nat.min_eq_left hInside]
  · simp only [inlineReferences, hFirst, hSecond, bind,
      Except.bind, pure, Except.pure]
    cases (inlining t.name values).apply tail with
    | error fault => rfl
    | ok result => rfl

/-
  A script is cut behind its table, and what follows is
  rewritten, if both cuts and edits lie between characters.
-/
theorem inlineReferences_cases
    (t : StringTable)
    (code : String)
    (values : List Json) :
    ((ofText code).isBoundary t.stop = false ∧
        t.inlineReferences code values =
          .error .splitCharacter) ∨
      ∃ head rest,
        code = head ++ rest ∧ (bytesOf head).length = t.stop ∧
          t.inlineReferences code values =
            ((inlining t.name values).apply rest).map
              (fun result => (head ++ result.1, result.2)) := by
  cases hCut : (ofText code).isBoundary t.stop with
  | false =>
      refine Or.inl ⟨rfl, ?_⟩
      simp [inlineReferences, slice, hCut, bind, Except.bind]
  | true =>
      rcases exists_tail hCut with
        ⟨head, rest, hSplit, hLength, hInlined⟩
      exact Or.inr ⟨head, rest, hSplit, hLength, hInlined values⟩

end StringTable

open StringTable

/-
  What follows a table is rewritten, unless a cut or the
  beginning of an edit lies inside a character.  The edits are
  the references with an element, whatever is done with them:
  each becomes the element of its number, which is the number
  that a script reads, apart from octal ones beyond the digits.
-/
theorem inlineReferences_elements
    (t : StringTable)
    (code : String)
    (values : List Json) :
    ((ofText code).isBoundary t.stop = false ∧
        t.inlineReferences code values =
          .error .splitCharacter) ∨
      ∃ head rest,
        code = head ++ rest ∧ (bytesOf head).length = t.stop ∧
          let m := ofText rest
          let edits := (inlining t.name values).edits m
          (∀ e ∈ edits,
              ∃ r v,
                Inlines t.name values m e r v ∧
                  Script.Lexer.number? r.index.text =
                      some
                        (.number
                            (Decimal.ofNat r.index.scriptValue)
                            r.index.isLegacy, []) ∧
                    (r.index.scriptValue = r.index.value ↔
                      r.index.isOctal = false ∨
                        r.index.value < 8)) ∧
            (IsWord t.name →
              ∀ e r v,
                Inlines t.name values m e r v →
                  r.index.value < 2 ^ 53 ∨
                      values.length < 2 ^ 53 →
                    e ∈ edits ∨ Overlapped t.name m e.start) ∧
              ((t.inlineReferences code values =
                    .error .splitCharacter ∧
                  ∃ e ∈ edits, m.isBoundary e.start = false) ∨
                ∃ next,
                  t.inlineReferences code values =
                      .ok (head ++ next, edits.length) ∧
                    Rewrites 0 edits rest next) := by
  rcases t.inlineReferences_cases code values with
    hSplit | ⟨head, rest, hCode, hLength, hRun⟩
  · exact Or.inl hSplit
  · refine Or.inr ⟨head, rest, hCode, hLength, ?_, ?_, ?_⟩
    · intro e hEdit
      rcases exists_inlines hEdit with ⟨r, v, hInlines⟩
      exact
        ⟨r, v, hInlines, r.index.number?_text,
          r.index.scriptValue_eq_iff⟩
    · intro hName e r v hInlines hCounts
      exact hInlines.mem_edits hName hCounts
    · by_cases hWhole :
          ∀ e ∈ (inlining t.name values).edits (ofText rest),
            (ofText rest).isWhole e = true
      · rw [Rule.apply_of_isWhole hWhole] at hRun
        exact Or.inr ⟨_, hRun, Rule.rewrites hWhole⟩
      · rw [Rule.apply_of_not_isWhole hWhole] at hRun
        refine Or.inl ⟨hRun, ?_⟩
        push Not at hWhole
        rcases hWhole with ⟨e, hEdit, hSplit⟩
        rcases exists_inlines hEdit with ⟨r, v, hInlines⟩
        refine ⟨e, hEdit, ?_⟩
        rw [Bool.eq_false_iff]
        intro hStart
        exact
          hSplit
            (Bool.and_eq_true_iff.mpr
              ⟨hStart, hInlines.isBoundary_stop⟩)

/- A script that stores an element in its table. -/
def storingScript : String :=
  "var _0x1=[\"a\",\"b\"];_0x1[0]=\"c\";"

/- A script that asks for an element by an octal numeral. -/
def octalScript : String :=
  "var _0x1=[0,1,2,3,4,5,6,7,8,9,10];f(_0x1[010]);"

/-
  What is stored to is replaced by its old value.  The octal
  numeral, which the script reads as eight, asks for the tenth
  element.
-/
theorem storedElement_inlined :
    (StringTable.find? storingScript =
          .ok (some ⟨"_0x1", 9, 18⟩) ∧
        StringTable.inlineReferences ⟨"_0x1", 9, 18⟩ storingScript
            [.text "a", .text "b"] =
          .ok ("var _0x1=[\"a\",\"b\"];\"a\"=\"c\";", 1)) ∧
      (StringTable.find? octalScript =
            .ok (some ⟨"_0x1", 9, 33⟩) ∧
          StringTable.inlineReferences ⟨"_0x1", 9, 33⟩ octalScript
              ((List.range 11).map fun n =>
                .number (.natural n)) =
            .ok
              ("var _0x1=[0,1,2,3,4,5,6,7,8,9,10];f(10);", 1)) ∧
        Script.Lexer.number? ['0', '1', '0'] =
          some (.number (Decimal.ofNat 8) true, []) := by
  refine ⟨?_, ?_, ?_⟩
  · decide +kernel
  · decide +kernel
  · have hDigits : ∀ d ∈ ['0', '1', '0'], isDigit d = true :=
      List.all_eq_true.mp (by decide)
    exact (Index.decimal _ hDigits (by simp)).number?_text

end Devirt
