import Devirt.Proofs.Pattern.Readers
import Devirt.Proofs.Restoration.Folding
import Devirt.Proofs.Script.Numbers
import Devirt.Proofs.Source.Showing

/-
  Hexadecimal numerals, and where they are collapsed.

  A numeral is collapsed if it is shown in the masked text
  behind its beginning or a character that neither continues a
  name nor selects a member, if no word goes on behind it, and
  if all of it and the character before it are code.  No two
  such numerals overlap, so every one of them is collapsed.

  Main declarations:
    * `HexNumeral`, `HexNumeral.value`, `HexNumeral.decimal`
    * `HexNumeral.At`, `HexNumeral.At.unique`
    * `hexNumeral_at`, `HexNumeral.At.finds`
    * `Collapse`, `mem_edits_hexNumeral`
-/

------------------------------------------------------------
-- Numerals
------------------------------------------------------------

namespace Devirt

open Scanner CodeMap Pattern

/- A hexadecimal numeral of at most thirteen digits. -/
@[ext]
structure HexNumeral where
  mark : Char
  digits : List Char
  mark_mem : mark ∈ ['x', 'X']
  digits_hex : ∀ d ∈ digits, isHex d = true
  digits_pos : 0 < digits.length
  digits_le : digits.length ≤ 13

namespace HexNumeral

/- A numeral as it is written. -/
def text (n : HexNumeral) : List Char :=
  '0' :: n.mark :: n.digits

def value (n : HexNumeral) : Nat :=
  Script.Lexer.natOfHex n.digits

/- The decimal numeral of the same number. -/
def decimal (n : HexNumeral) : List Char :=
  Nat.toDigits 10 n.value

end HexNumeral

/- The bytes of letters, digits and the underscore. -/
def continuesWord (b : UInt8) : Bool :=
  isIdentifier b && b != byte '$'

theorem isIdentifier_of_continuesWord
    {b : UInt8}
    (hWord : continuesWord b = true) :
    isIdentifier b = true :=
  (Bool.and_eq_true_iff.mp hWord).1

/- ASCII characters continue words just if their bytes do. -/
theorem isWord_eq_continuesWord
    {c : Char}
    (hAscii : c.toNat < 128) :
    Text.isWord c = continuesWord (byte c) :=
  forall_ascii
    (motive := fun c => Text.isWord c = continuesWord (byte c))
    (by decide) hAscii

/- ASCII characters separate just if their bytes do. -/
theorem isSeparator_iff
    {c : Char}
    (hAscii : c.toNat < 128) :
    Cleanup.isSeparator c = true ↔
      isIdentifier (byte c) = false ∧ byte c ≠ byte '.' :=
  forall_ascii
    (motive := fun c =>
      Cleanup.isSeparator c = true ↔
        isIdentifier (byte c) = false ∧ byte c ≠ byte '.')
    (by decide) hAscii

/- Hexadecimal digits continue words. -/
theorem continuesWord_of_isHex
    {c : Char}
    (hHex : isHex c = true) :
    continuesWord (byte c) = true := by
  rcases Script.Lexer.word_of_isHex hHex with
    ⟨hAscii, hWord, -⟩
  rwa [← isWord_eq_continuesWord hAscii]

namespace HexNumeral

/- The characters of a numeral are its first two and digits. -/
theorem mem_text
    {n : HexNumeral}
    {c : Char}
    (hMember : c ∈ n.text) :
    (c = '0' ∨ c = 'x' ∨ c = 'X') ∨ isHex c = true := by
  rcases List.mem_cons.mp hMember with rfl | hMember
  · exact Or.inl (Or.inl rfl)
  · rcases List.mem_cons.mp hMember with rfl | hDigit
    · exact Or.inl (Or.inr (by simpa using n.mark_mem))
    · exact Or.inr (n.digits_hex c hDigit)

theorem text_ascii
    (n : HexNumeral) :
    ∀ c ∈ n.text, c.toNat < 128 := by
  intro c hMember
  rcases mem_text hMember with (rfl | rfl | rfl) | hHex
  · decide
  · decide
  · decide
  · exact ascii_of_isHex hHex

/- A numeral is one word. -/
theorem text_continues
    (n : HexNumeral) :
    ∀ c ∈ n.text, continuesWord (byte c) = true := by
  intro c hMember
  rcases mem_text hMember with (rfl | rfl | rfl) | hHex
  · decide
  · decide
  · decide
  · exact continuesWord_of_isHex hHex

theorem text_word
    (n : HexNumeral) :
    ∀ c ∈ n.text, Text.isWord c = true := by
  intro c hMember
  rw [isWord_eq_continuesWord (n.text_ascii c hMember)]
  exact n.text_continues c hMember

theorem text_length_pos
    (n : HexNumeral) :
    0 < n.text.length :=
  Nat.succ_pos _

theorem digits_ne_nil
    (n : HexNumeral) :
    n.digits ≠ [] :=
  List.ne_nil_of_length_pos n.digits_pos

theorem decimal_isDigit
    (n : HexNumeral) :
    ∀ c ∈ n.decimal, c.isDigit = true :=
  fun _ hMember =>
    Nat.isDigit_of_mem_toDigits (by decide) (by decide) hMember

theorem decimal_ascii
    (n : HexNumeral) :
    ∀ c ∈ n.decimal, c.toNat < 128 :=
  fun c hMember => ascii_of_isDigit (n.decimal_isDigit c hMember)

/-
  A text has a numeral between two offsets, behind what leads
  to it: nothing at the beginning, or one character that stands
  apart.  No word goes on behind the numeral.
-/
structure At
    (text : List Char)
    (start stop : Nat)
    (lead : List Char)
    (n : HexNumeral) : Prop where
  drop_eq : text.drop start = lead ++ (n.text ++ text.drop stop)
  stop_eq : stop = start + lead.length + n.text.length
  lead_separates : Cleanup.Separates start 0 lead
  ends : ∀ c ∈ text[stop]?, Text.isWord c = false

theorem ext_of_text
    {n n' : HexNumeral}
    (hTexts : n.text = n'.text) :
    n = n' := by
  rcases List.cons.inj (List.cons.inj hTexts).2 with
    ⟨hMark, hDigits⟩
  exact HexNumeral.ext hMark hDigits

/- Where a numeral ends is known from what follows it. -/
theorem text_append_inj
    {n n' : HexNumeral}
    {rest rest' : List Char}
    (hSame : n.text ++ rest = n'.text ++ rest')
    (hEnds : ∀ c ∈ rest.head?, Text.isWord c = false)
    (hEnds' : ∀ c ∈ rest'.head?, Text.isWord c = false) :
    n = n' ∧ rest = rest' := by
  rcases Decimal.run_append_inj hSame n.text_word n'.text_word
      hEnds hEnds' with
    ⟨hTexts, hRest⟩
  exact ⟨ext_of_text hTexts, hRest⟩

namespace At

variable {text : List Char}
variable {start stop : Nat}
variable {lead : List Char}
variable {n : HexNumeral}

theorem ends_drop
    (hAt : At text start stop lead n) :
    ∀ c ∈ (text.drop stop).head?, Text.isWord c = false := by
  rw [List.head?_drop]
  exact hAt.ends

/- A place has one numeral at most. -/
theorem unique
    {stop' : Nat}
    {lead' : List Char}
    {n' : HexNumeral}
    (hAt : At text start stop lead n)
    (hAt' : At text start stop' lead' n') :
    lead = lead' ∧ n = n' ∧ stop = stop' := by
  have hSame := hAt.drop_eq.symm.trans hAt'.drop_eq
  have hZero : Cleanup.isSeparator '0' = false := by decide
  have hLeads : lead = lead' := by
    rcases hAt.lead_separates with
      ⟨rfl, -⟩ | ⟨c, rfl, hClass⟩ <;>
      rcases hAt'.lead_separates with
        ⟨rfl, -⟩ | ⟨c', rfl, hClass'⟩
    · exact rfl
    · have hHead : '0' = c' := (List.cons.inj hSame).1
      rw [← hHead, hZero] at hClass'
      cases hClass'
    · have hHead : c = '0' := (List.cons.inj hSame).1
      rw [hHead, hZero] at hClass
      cases hClass
    · rw [(List.cons.inj hSame).1]
  subst hLeads
  rcases text_append_inj (List.append_cancel_left hSame)
      hAt.ends_drop hAt'.ends_drop with ⟨rfl, -⟩
  exact ⟨rfl, rfl, hAt.stop_eq.trans hAt'.stop_eq.symm⟩

theorem part_eq
    (hAt : At text start stop lead n) :
    part text start stop = lead ++ n.text := by
  have hLength :
      stop - start = (lead ++ n.text).length := by
    rw [hAt.stop_eq, List.length_append]
    omega
  rw [part, hAt.drop_eq, hLength, ← List.append_assoc,
    List.take_left' rfl]

theorem lead_small
    (hAt : At text start stop lead n)
    (hSmall : Small text) :
    Small lead := by
  intro c hMember
  apply hSmall
  apply List.mem_of_mem_drop (i := start)
  rw [hAt.drop_eq]
  exact List.mem_append_left _ hMember

theorem stop_le
    (hAt : At text start stop lead n) :
    stop ≤ text.length := by
  have hLength := congrArg List.length hAt.part_eq
  have hStop := hAt.stop_eq
  have hText := n.text_length_pos
  rw [part, List.length_take, List.length_drop,
    List.length_append] at hLength
  omega

end At

end HexNumeral

------------------------------------------------------------
-- Matches
------------------------------------------------------------

/- The character before a place that was passed to. -/
theorem Pattern.Passage.before_eq
    {p : Pattern}
    {text passed : List Char}
    {here there : Place}
    (hPassage : Passage p here passed there)
    (hHere : here.OnText text)
    (hThere : there.OnText text)
    (hSome : passed ≠ []) :
    there.before = passed.getLast? := by
  rw [hThere.before_eq, hPassage.offset_eq, List.take_add,
    ← hHere.rest_eq, hPassage.rest_eq, List.take_left' rfl,
    List.getLast?_append_of_ne_nil _ hSome]

/- An edge behind a word says that it ends there. -/
theorem Pattern.isEdge_iff_of_before
    {there : Place}
    {c : Char}
    (hBefore : there.before = some c)
    (hWord : Text.isWord c = true) :
    isEdge there = true ↔
      ∀ d ∈ there.rest.head?, Text.isWord d = false := by
  simp only [isEdge, hBefore, Option.map_some, Option.getD_some,
    hWord, bne_iff_ne, ne_eq]
  cases there.rest.head? with
  | none => simp
  | some d => simp

/- An edge behind a numeral says that no word goes on. -/
theorem HexNumeral.isEdge_iff
    {p : Pattern}
    {text : List Char}
    {here there : Place}
    (n : HexNumeral)
    (hHere : here.OnText text)
    (hThere : there.OnText text)
    (hText : Passage p here n.text there) :
    isEdge there = true ↔
      ∀ d ∈ there.rest.head?, Text.isWord d = false := by
  have hSome := List.ne_nil_of_length_pos n.text_length_pos
  have hBefore := hText.before_eq hHere hThere hSome
  rw [List.getLast?_eq_some_getLast hSome] at hBefore
  exact
    isEdge_iff_of_before hBefore
      (n.text_word _ (List.getLast_mem hSome))

/- A match of the rule is a numeral, and so is its change. -/
theorem hexNumeral_at
    {text : List Char}
    {found : Match}
    {here there : Place}
    (hLocated : Located hexNumeral.pattern text found here there) :
    ∃ lead n,
      HexNumeral.At text found.start found.stop lead n ∧
        hexNumeral.replace text found =
          some (lead ++ n.decimal) := by
  rcases hLocated.leads with
    ⟨first, _, ⟨_, hLead, rfl⟩, second, _, hZero, third, _,
      hMark, fourth, _, ⟨_, hMany, rfl⟩, hEdge, rfl, hFound⟩
  have hHere := hLocated.onText
  have hFirst := hLead.onText hHere
  have hThird := hMark.onText (hZero.onText hFirst)
  have hThere := hMany.onText hThird
  rcases hLead.passage with ⟨lead, hLeadPassage⟩
  rcases hZero with ⟨zero, behind, hZeroRest, hZeroClass, rfl, rfl⟩
  rcases hMark with ⟨mark, ahead, hMarkRest, hMarkClass, rfl, rfl⟩
  have hMost := hMany
  rcases hMany.many with ⟨digits, hDigits, hPos, hHex⟩
  rcases hMost with ⟨k, hPasses, -, hMost, rfl⟩
  rw [hLead.found_eq rfl] at hFound
  have hLength : digits.length ≤ 13 := by
    have hOffset := hDigits.offset_eq
    have hSteps := hPasses.offset_eq
    have hBound := hMost 13 rfl
    omega
  let n : HexNumeral :=
    { mark := mark
      digits := digits
      mark_mem := List.contains_iff_mem.mp hMarkClass
      digits_hex := hHex
      digits_pos := hPos
      digits_le := hLength }
  have hZero : zero = '0' := beq_iff_eq.mp hZeroClass
  subst hZero
  have hNumeral :=
    (passage_one (p := (· == '0')) hZeroRest hZeroClass).seq
      ((passage_one (p := oneOf ['x', 'X']) hMarkRest
        hMarkClass).seq hDigits)
  have hAll := hLeadPassage.seq hNumeral
  refine ⟨lead, n, ⟨?_, ?_, ?_, ?_⟩, ?_⟩
  · rw [hLocated.start_eq, hLocated.stop_eq, ← hHere.rest_eq,
      ← hThere.rest_eq, hAll.rest_eq, List.append_assoc]
    rfl
  · rw [hLocated.start_eq, hLocated.stop_eq, hAll.offset_eq,
      List.length_append, Nat.add_assoc]
    rfl
  · rw [hLocated.start_eq]
    exact
      Cleanup.separates_lead hHere hLead hLeadPassage.rest_eq
  · rw [hLocated.stop_eq, ← hThere.head?_rest]
    exact (n.isEdge_iff hFirst hThere hNumeral).mp hEdge
  · have hOne : found.groupText text 1 = lead :=
      hLeadPassage.groupText_eq hHere
        (by simp [Match.group?, hFound])
    have hTwo : found.groupText text 2 = digits :=
      hDigits.groupText_eq hThird
        (by simp [Match.group?, hFound])
    simp only [hexNumeral, hOne, hTwo]
    simp [HexNumeral.decimal, HexNumeral.value,
      Script.Lexer.natOfHex, n]

/- What separates can be taken before a name. -/
theorem Cleanup.exists_leads_lead
    {text lead rest : List Char}
    {here : Place}
    (groups : Groups)
    (hHere : here.OnText text)
    (hRest : here.rest = lead ++ rest)
    (hLead : Separates here.offset 0 lead) :
    ∃ there,
      Leads beforeName here groups there groups ∧
        there.rest = rest := by
  rcases hLead with ⟨rfl, hZero⟩ | ⟨c, rfl, hClass⟩
  · refine ⟨here, Or.inl ⟨?_, rfl, rfl⟩, hRest⟩
    rw [hHere.before_eq, hZero]
    rfl
  · exact ⟨_, Or.inr ⟨c, rest, hRest, hClass, rfl, rfl⟩, rfl⟩

/- The rule leads along every numeral. -/
theorem HexNumeral.At.leads
    {text : List Char}
    {start stop : Nat}
    {lead : List Char}
    {n : HexNumeral}
    {here : Place}
    (hAt : At text start stop lead n)
    (hHere : here.OnText text)
    (hStart : here.offset = start) :
    ∃ there groups, Leads hexNumeral.pattern here [] there groups := by
  subst hStart
  have hMark : oneOf ['x', 'X'] n.mark = true :=
    List.contains_iff_mem.mpr n.mark_mem
  have hDigits : (many isHex 1 (some 13)).Accepts n.digits :=
    accepts_many n.digits_hex n.digits_pos
      (by simpa using n.digits_le)
  have hText :=
    (accepts_char '0').seq
      ((accepts_one hMark).seq (hDigits.group 2))
  have hRest :
      here.rest = lead ++ (n.text ++ text.drop stop) := by
    rw [hHere.rest_eq, hAt.drop_eq]
  rcases Cleanup.exists_leads_lead [] hHere hRest
      hAt.lead_separates with
    ⟨first, hLead, hFirstRest⟩
  have hFirst := hLead.onText hHere
  rcases hText first [(1, here.offset, first.offset)] _
      hFirstRest with
    ⟨there, groups, hNumeral, hThereRest⟩
  rcases hNumeral.passage with ⟨passed, hPassage⟩
  have hPassed : passed = n.text := by
    have hBoth := hPassage.rest_eq
    rw [hFirstRest, hThereRest] at hBoth
    exact (List.append_cancel_right hBoth).symm
  subst hPassed
  have hEdge : isEdge there = true := by
    rw [n.isEdge_iff hFirst (hNumeral.onText hFirst) hPassage,
      hThereRest]
    exact hAt.ends_drop
  rcases hNumeral with
    ⟨second, _, hZero, third, _, hMark, hDigits⟩
  exact
    ⟨there, groups, first, _, ⟨_, hLead, rfl⟩, second, _, hZero,
      third, _, hMark, there, _, hDigits, hEdge, rfl, rfl⟩

namespace HexNumeral.At

variable {text : List Char}
variable {start stop : Nat}
variable {lead : List Char}
variable {n : HexNumeral}

/- A numeral is what the rule finds at its place. -/
theorem finds
    (hAt : At text start stop lead n) :
    ∃ found here there,
      Finds hexNumeral.pattern text found here there ∧
        found.start = start ∧ found.stop = stop := by
  have hLonger := hAt.stop_eq
  have hInside := hAt.stop_le
  rcases exists_place (show start ≤ text.length by omega) with
    ⟨here, hHere, hStart⟩
  rcases hAt.leads hHere hStart with ⟨last, groups, hLeads⟩
  have hSome :
      (matchFrom hexNumeral.pattern here).isSome = true :=
    hLeads.matchThen_isSome rfl
  rcases Option.isSome_iff_exists.mp hSome with
    ⟨⟨found, there⟩, hMatch⟩
  have hFinds :
      Finds hexNumeral.pattern text found here there :=
    ⟨hHere, hMatch⟩
  rcases hexNumeral_at hFinds.located with
    ⟨lead', n', hFound, -⟩
  have hFoundStart : found.start = start :=
    hFinds.located.start_eq.trans hStart
  rw [hFoundStart] at hFound
  rcases hAt.unique hFound with ⟨-, -, hStop⟩
  exact ⟨found, here, there, hFinds, hFoundStart, hStop.symm⟩

/- No numeral begins inside of another. -/
theorem not_inside
    {start' stop' : Nat}
    {lead' : List Char}
    {n' : HexNumeral}
    (hAt : At text start stop lead n)
    (hOther : At text start' stop' lead' n')
    (hAfter : start' < start) :
    stop' ≤ start := by
  rcases hAt.lead_separates with ⟨-, hZero⟩ | ⟨c, hLead, hClass⟩
  · omega
  · by_contra hInside
    have hShown : text[start]? = some c := by
      have hHead := congrArg List.head? hAt.drop_eq
      rwa [List.head?_drop, hLead] at hHead
    -- what begins with a separator would show a word
    have hIndex : lead'.length ≤ start - start' := by
      rcases hOther.lead_separates with
        ⟨rfl, -⟩ | ⟨c', rfl, -⟩
      · exact Nat.zero_le _
      · exact Nat.sub_pos_of_lt hAfter
    have hStop := hOther.stop_eq
    have hChar :
        n'.text[start - start' - lead'.length]? = some c := by
      have hHere := congrArg (·[start - start']?) hOther.drop_eq
      rw [List.getElem?_drop, Nat.add_sub_cancel' hAfter.le,
        hShown, List.getElem?_append_right hIndex,
        List.getElem?_append_left (by omega)] at hHere
      exact hHere.symm
    have hWord := n'.text_word c (List.mem_of_getElem? hChar)
    simp [Cleanup.isSeparator, isName, hWord] at hClass

theorem mem_all
    (hAt : At text start stop lead n) :
    ∃ found ∈ hexNumeral.pattern.all text,
      found.start = start ∧ found.stop = stop := by
  rcases hAt.finds with
    ⟨found, here, there, hFinds, hStart, hStop⟩
  have hHere : here.offset = start :=
    hFinds.located.start_eq.symm.trans hStart
  rcases hFinds.mem_all with
    hMember | ⟨other, hOther, hAfter, hBefore⟩
  · exact ⟨found, hMember, hStart, hStop⟩
  · rcases all_located hOther with ⟨_, _, hLocated⟩
    rcases hexNumeral_at hLocated with ⟨_, _, hOtherAt, -⟩
    have hApart := hAt.not_inside hOtherAt (hHere ▸ hAfter)
    omega

end HexNumeral.At

/-
  An edit writes a numeral in decimal, where the numeral and
  what leads to it are code.
-/
structure HexNumeral.Collapse
    (m : CodeMap)
    (e : Edit)
    (lead : List Char)
    (n : HexNumeral) : Prop where
  shown : At m.masked e.start e.stop lead n
  isCode : m.isCodeBetween e.start e.stop = true
  writes : e.replacement = String.ofList (lead ++ n.decimal)

/- The last digit is shown where an edit ends. -/
theorem HexNumeral.Collapse.last_shown
    {m : CodeMap}
    {e : Edit}
    {lead : List Char}
    {n : HexNumeral}
    (hCollapse : Collapse m e lead n) :
    ∃ offset c,
      offset + 1 = e.stop ∧ m.masked[offset]? = some c ∧
        c ∈ n.text ∧ c ≠ ' ' := by
  have hAt := hCollapse.shown
  have hLength := n.text_length_pos
  have hInside : n.text.length - 1 < n.text.length := by omega
  have hMember := List.getElem_mem hInside
  have hPart :
      part m.masked e.start e.stop = lead ++ (n.text ++ []) := by
    rw [hAt.part_eq, List.append_nil]
  refine
    ⟨_, _, ?_,
      getElem?_of_part hPart (List.getElem?_eq_getElem hInside),
      hMember, ?_⟩
  · have hStop := hAt.stop_eq
    omega
  · intro hBlank
    have hWord := n.text_word _ hMember
    rw [hBlank] at hWord
    exact absurd hWord (by decide)

/- No word goes on behind what an edit changes. -/
theorem HexNumeral.Collapse.ends
    {bytes : List UInt8}
    {e : Edit}
    {lead : List Char}
    {n : HexNumeral}
    {b : UInt8}
    (hCollapse : Collapse (ofBytes bytes) e lead n)
    (hByte : (ofBytes bytes).byte? e.stop = some b) :
    continuesWord b = false := by
  rcases hCollapse.last_shown with
    ⟨offset, c, hStop, hShown, hMember, hNotBlank⟩
  -- the last digit is code, so what follows it is shown
  have hDigit := (hasCode_of_masked hShown hNotBlank).1
  have hName :=
    isNameByte_of_isIdentifier
      (isIdentifier_of_continuesWord (n.text_continues c hMember))
  have hEnds := endsWord_of_masked hDigit hName.plain (by
    rw [hStop]
    exact hCollapse.shown.ends)
  rw [hStop] at hEnds
  rcases hEnds b hByte with hOther | hDollar
  · rw [continuesWord, hOther, Bool.false_and]
  · rw [hDollar]
    decide

/- The edits of the rule are those of all numerals. -/
theorem mem_edits_hexNumeral
    {m : CodeMap}
    {e : Edit} :
    e ∈ hexNumeral.edits m ↔
      ∃ lead n, HexNumeral.Collapse m e lead n := by
  constructor
  · intro hEdit
    rcases Rule.mem_edits hEdit with
      ⟨found, here, there, replacement, hLocated, hCode,
        hReplace, rfl⟩
    rcases hexNumeral_at hLocated with ⟨lead, n, hAt, hSame⟩
    rw [hSame] at hReplace
    cases hReplace
    exact ⟨lead, n, hAt, hCode, rfl⟩
  · rintro ⟨lead, n, hAt, hCode, hWrites⟩
    rcases hAt.mem_all with ⟨found, hMember, hStart, hStop⟩
    rcases all_located hMember with ⟨here, there, hLocated⟩
    rcases hexNumeral_at hLocated with
      ⟨lead', n', hFound, hReplace⟩
    rw [hStart, hStop] at hFound
    rcases hAt.unique hFound with ⟨rfl, rfl, -⟩
    rw [Rule.edits_eq_filterMap]
    refine List.mem_filterMap.mpr ⟨found, hMember, ?_⟩
    rcases e with ⟨start, stop, replacement⟩
    dsimp only at hStart hStop hCode hWrites
    subst hWrites
    simp [Rule.edit?, hStart, hStop, hCode, hReplace]

end Devirt
