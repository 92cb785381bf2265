import Devirt.Proofs.Detection.Regions
import Devirt.Proofs.Script.Numbers
import Devirt.Proofs.Script.Readers
import Devirt.Proofs.Source.Strings

/-
  Tokens in the map of a script.

  In a bare script of ASCII characters the scanner is at the top
  level before each token, and no word goes on from one token
  into the next.  So each token takes up the offsets that its
  sign says: a name stands where it is written, a bracket is
  code, and neither does in a string or a numeral.

  Main declarations:
    * `CodeMap.CodeHas`
    * `CodeMap.stands_text_iff`
    * `CodeMap.Ready.takes_of_spelled`
    * `CodeMap.spots_of_taken`
-/

------------------------------------------------------------
-- Bytes of Code
------------------------------------------------------------

namespace Devirt

open Scanner
open Script (Sign Token Lexeme Taken Bare IsSimple Spelled)
open Script.Lexer

namespace CodeMap

/- The bytes of the brackets that count. -/
def bracketBytes : List UInt8 :=
  ['(', ')', '\x7b', '\x7d'].map byte

/- Every byte of code between two offsets is as said. -/
def CodeHas
    (m : CodeMap)
    (fits : UInt8 → Prop)
    (start stop : Nat) :
    Prop :=
  ∀ offset b,
    start ≤ offset → offset < stop → m.HasCode offset b → fits b

/- Bytes that mean nothing where statements are counted. -/
structure IsIdle (b : UInt8) : Prop where
  bracket : b ∉ bracketBytes
  identifier : isIdentifier b = false

variable {m : CodeMap}
variable {start middle stop : Nat}
variable {fits others : UInt8 → Prop}

theorem Bracket.mem_bracketBytes
    {k : Bracket}
    (hKind : k ≠ .square) :
    k.opening ∈ bracketBytes ∧ k.closing ∈ bracketBytes := by
  cases k with
  | round => decide
  | square => exact absurd rfl hKind
  | curly => decide

namespace CodeHas

theorem append
    (hFirst : m.CodeHas fits start middle)
    (hSecond : m.CodeHas fits middle stop) :
    m.CodeHas fits start stop := by
  intro offset b hAfter hBefore hCode
  rcases Nat.lt_or_ge offset middle with hHere | hHere
  · exact hFirst offset b hAfter hHere hCode
  · exact hSecond offset b hHere hBefore hCode

theorem mono
    (hCode : m.CodeHas fits start stop)
    (hFits : ∀ b, fits b → others b) :
    m.CodeHas others start stop :=
  fun offset b hAfter hBefore hHere =>
    hFits b (hCode offset b hAfter hBefore hHere)

theorem quiet
    (hCode : m.CodeHas (· ∉ bracketBytes) start stop) :
    m.IsQuiet start stop := by
  intro offset hAfter hBefore k hKind
  have hBytes := Bracket.mem_bracketBytes hKind
  exact
    ⟨fun hHere => hCode offset _ hAfter hBefore hHere hBytes.1,
      fun hHere => hCode offset _ hAfter hBefore hHere hBytes.2⟩

end CodeHas

/- A word begins with code that can be part of a name. -/
theorem Stands.exists_hasCode
    {word : String}
    {offset : Nat}
    (hWord : IsIdentifierWord word)
    (hStands : m.Stands word offset) :
    ∃ b, m.HasCode offset b ∧ isIdentifier b = true := by
  have hPos := List.length_pos_of_ne_nil hWord.ne_nil
  have hByte := byte?_of_prefix hStands.reads hPos
  rw [Nat.add_zero, List.getElem?_eq_getElem hPos] at hByte
  exact
    ⟨_, hasCode_of_isCode hStands.isCode hByte,
      hWord.identifier _ (List.getElem_mem hPos)⟩

/- Nothing stands where none of the three words does. -/
theorem wordless_of_switchWords
    (hNone :
      ∀ w ∈ Script.switchWords, ∀ offset,
        start ≤ offset → offset < stop → ¬ m.Stands w offset) :
    m.IsWordless start stop := by
  intro offset hAfter hBefore
  refine ⟨?_, hNone _ (by decide) offset hAfter hBefore⟩
  rintro (hCase | hDefault)
  · exact hNone _ (by decide) offset hAfter hBefore hCase
  · exact hNone _ (by decide) offset hAfter hBefore hDefault

theorem CodeHas.wordless
    (hCode : m.CodeHas (isIdentifier · = false) start stop) :
    m.IsWordless start stop := by
  refine wordless_of_switchWords ?_
  intro w hMember offset hAfter hBefore hStands
  rcases hStands.exists_hasCode
      (isIdentifierWord_words w hMember) with
    ⟨b, hHere, hIdentifier⟩
  rw [hCode offset b hAfter hBefore hHere] at hIdentifier
  cases hIdentifier

------------------------------------------------------------
-- Texts in Scripts
------------------------------------------------------------

section Texts

variable {bytes before text ahead : List UInt8}

theorem byte?_text
    (hBytes : bytes = before ++ (text ++ ahead))
    {place : Nat}
    (hInside : place < text.length) :
    (ofBytes bytes).byte? (before.length + place) =
      text[place]? := by
  rw [byte?_eq_getElem?, bytes_ofBytes, hBytes,
    List.getElem?_append_right (Nat.le_add_right _ _),
    Nat.add_sub_cancel_left, List.getElem?_append_left hInside]

/- What all bytes of a text are, its code is. -/
theorem codeHas_text
    (hBytes : bytes = before ++ (text ++ ahead))
    (hFits : ∀ b ∈ text, fits b) :
    (ofBytes bytes).CodeHas fits before.length
      (before.length + text.length) := by
  intro offset b hAfter hBefore hCode
  obtain ⟨place, rfl⟩ := Nat.exists_eq_add_of_le hAfter
  have hInside : place < text.length := by omega
  have hByte := hCode.byte?_eq
  rw [byte?_text hBytes hInside] at hByte
  exact hFits b (List.mem_of_getElem? hByte)

/- Inert bytes at the top level stay there. -/
theorem topAt_inside
    (hBytes : bytes = before ++ (text ++ ahead))
    (hTop : TopAt bytes before.length)
    (hInert : ∀ b ∈ text, IsInert b)
    {place : Nat}
    (hInside : place ≤ text.length) :
    TopAt bytes (before.length + place) := by
  induction place with
  | zero => exact hTop
  | succ place ih =>
      have hByte := byte?_text hBytes hInside
      rw [byte?_eq_getElem?, bytes_ofBytes,
        List.getElem?_eq_getElem hInside] at hByte
      have hHere := hInert _ (List.getElem_mem hInside)
      exact topAt_succ (ih (by omega)) hByte hHere.quote
        hHere.slash

theorem hasCode_text
    (hBytes : bytes = before ++ (text ++ ahead))
    (hTop : TopAt bytes before.length)
    (hInert : ∀ b ∈ text, IsInert b)
    {place : Nat}
    {b : UInt8}
    (hByte : text[place]? = some b) :
    (ofBytes bytes).HasCode (before.length + place) b := by
  rcases List.getElem?_eq_some_iff.mp hByte with
    ⟨hInside, hHere⟩
  have hTopHere := topAt_inside hBytes hTop hInert hInside.le
  have hRead := byte?_text hBytes hInside
  rw [hByte] at hRead
  rw [byte?_eq_getElem?, bytes_ofBytes] at hRead
  have hByteInert := hInert b (hHere ▸ List.getElem_mem hInside)
  have hStep :=
    stepAt_of_topAt hTopHere hByteInert.quote hByteInert.slash
  rw [hasCode_ofBytes_iff, flags_getElem? hRead, hStep.1]
  exact ⟨hRead, rfl⟩

/- A list goes on with no byte that a name could go on with. -/
def EndsNames (bytes : List UInt8) : Prop :=
  ∀ b ∈ bytes.head?, isIdentifier b = false

/- Bytes behind which a name can begin. -/
def AllowsName (bytes : List UInt8) : Prop :=
  ∀ b ∈ bytes.getLast?, isIdentifier b = false

theorem identifierAt_text
    (hBytes : bytes = before ++ (text ++ ahead))
    (hText : ∀ b ∈ text, isIdentifier b = true)
    {place : Nat}
    (hInside : place < text.length) :
    (ofBytes bytes).identifierAt (before.length + place) =
      true := by
  rw [identifierAt, byte?_text hBytes hInside,
    List.getElem?_eq_getElem hInside]
  exact hText _ (List.getElem_mem hInside)

/- A name does not reach into bytes that go on with none. -/
theorem prefix_of_endsNames
    {word : List UInt8}
    (hReads : word <+: text ++ ahead)
    (hWord : ∀ b ∈ word, isIdentifier b = true)
    (hAhead : EndsNames ahead) :
    word <+: text := by
  rcases Nat.lt_or_ge text.length word.length with hLong | hShort
  · -- the byte behind the text would be one of the word
    rcases hReads with ⟨more, hMore⟩
    have hByte := congrArg (·[text.length]?) hMore
    simp only [List.getElem?_append_left hLong,
      List.getElem?_append_right (Nat.le_refl _),
      Nat.sub_self, List.getElem?_eq_getElem hLong] at hByte
    have hNone :=
      hAhead _ (by rw [List.head?_eq_getElem?]; exact hByte.symm)
    rw [hWord _ (List.getElem_mem hLong)] at hNone
    cases hNone
  · exact
      List.prefix_of_prefix_length_le hReads
        (List.prefix_append text ahead) hShort

/-
  The words that stand within a text of name bytes, with none
  on either side, are the text.
-/
theorem stands_text_iff
    {word : String}
    {offset : Nat}
    (hBytes : bytes = before ++ (text ++ ahead))
    (hWord : IsIdentifierWord word)
    (hTop : TopAt bytes before.length)
    (hText : ∀ b ∈ text, isIdentifier b = true)
    (hBefore : AllowsName before)
    (hAhead : EndsNames ahead)
    (hAfter : before.length ≤ offset)
    (hInside : offset < before.length + text.length) :
    (ofBytes bytes).Stands word offset ↔
      offset = before.length ∧ bytesOf word = text := by
  constructor
  · intro hStands
    have hSame : offset = before.length := by
      by_contra hLater
      obtain ⟨place, rfl⟩ :
          ∃ place, offset = before.length + place + 1 :=
        ⟨offset - before.length - 1, by omega⟩
      have hNone := hStands.before (before.length + place) rfl
      rw [identifierAt_text hBytes hText (by omega)] at hNone
      cases hNone
    subst hSame
    refine ⟨rfl, ?_⟩
    have hReads : bytesOf word <+: text ++ ahead := by
      have hPrefix := hStands.reads
      rw [bytes_ofBytes, hBytes, List.drop_left] at hPrefix
      exact hPrefix
    have hPrefix :=
      prefix_of_endsNames hReads hWord.identifier hAhead
    refine hPrefix.eq_of_length ?_
    by_contra hOther
    have hBehind := hStands.behind
    rw [identifierAt_text hBytes hText
      (Nat.lt_of_le_of_ne hPrefix.length_le hOther)] at hBehind
    cases hBehind
  · rintro ⟨rfl, hSame⟩
    have hInert : ∀ b ∈ text, IsInert b :=
      fun b hMember =>
        (isIdentifier_plain (hText b hMember)).inert
    have hPos : 0 < text.length := by omega
    refine ⟨?_, ?_, ?_, ?_⟩
    · rw [bytes_ofBytes, hBytes, List.drop_left, hSame]
      exact List.prefix_append text ahead
    · exact
        (hasCode_text hBytes hTop hInert
          (List.getElem?_eq_getElem hPos)).isCode_eq
    · intro earlier hEarlier
      have hLess : earlier < before.length := by omega
      rw [identifierAt, byte?_eq_getElem?, bytes_ofBytes, hBytes,
        List.getElem?_append_left hLess,
        List.getElem?_eq_getElem hLess]
      apply hBefore
      rw [List.getLast?_eq_getElem?, hEarlier,
        Nat.add_sub_cancel]
      exact List.getElem?_eq_getElem hLess
    · have hByte :
          (ofBytes bytes).byte? (before.length + text.length) =
            ahead.head? := by
        rw [byte?_eq_getElem?, bytes_ofBytes, hBytes,
          ← List.append_assoc, ← List.length_append,
          List.getElem?_append_right (Nat.le_refl _),
          Nat.sub_self, List.head?_eq_getElem?]
      rw [hSame, identifierAt, hByte]
      cases hHead : ahead.head? with
      | none => rfl
      | some b => exact hAhead b hHead

/- Letters of which each of the three words has one. -/
def rareBytes : List UInt8 := ['s', 'u'].map byte

/- No word stands in a text without such letters. -/
theorem wordless_of_rareBytes
    (hBytes : bytes = before ++ (text ++ ahead))
    (hText : ∀ b ∈ text, b ∉ rareBytes)
    (hAhead : EndsNames ahead) :
    (ofBytes bytes).IsWordless before.length
      (before.length + text.length) := by
  refine wordless_of_switchWords ?_
  intro w hMember offset hAfter hInside hStands
  obtain ⟨place, rfl⟩ := Nat.exists_eq_add_of_le hAfter
  have hWord := isIdentifierWord_words w hMember
  have hReads : bytesOf w <+: text.drop place ++ ahead := by
    have hPrefix := hStands.reads
    have hPlace : place ≤ text.length := by omega
    rwa [bytes_ofBytes, hBytes, List.drop_length_add_append,
      List.drop_append_of_le_length hPlace] at hPrefix
  have hPrefix :=
    prefix_of_endsNames hReads hWord.identifier hAhead
  have hRare :
      ∀ w ∈ Script.switchWords,
        ∃ b ∈ bytesOf w, b ∈ rareBytes := by
    decide +kernel
  rcases hRare w hMember with ⟨b, hByte, hLetter⟩
  exact
    hText b (List.mem_of_mem_drop (hPrefix.subset hByte)) hLetter

theorem staysOpen_body
    {q : Char}
    {body : List Char}
    (hBody : IsBody q body)
    (hBare : Bare body) :
    staysOpen (closes q) body = true := by
  rcases hBody with ⟨hOther, hLine⟩
  induction body with
  | nil => rfl
  | cons c body ih =>
      rcases List.forall_mem_cons.mp hOther with
        ⟨hQuote, hQuotes⟩
      rcases List.forall_mem_cons.mp hBare with ⟨hFirst, hRest⟩
      rw [List.mem_cons, not_or] at hLine
      rw [staysOpen_cons _ _ hFirst.2.2, ih hRest hQuotes hLine.2]
      simp [closes, hQuote, Ne.symm hLine.1]

/- The quotes of a string are all the code it has. -/
theorem string_codeHas
    {q : Char}
    {body : List Char}
    (hQuote : IsQuote q)
    (hBody : IsBody q body)
    (hBare : Bare body)
    (hText : text = byte q :: (encode body ++ [byte q]))
    (hBytes : bytes = before ++ (text ++ ahead))
    (hTop : TopAt bytes before.length) :
    (ofBytes bytes).CodeHas (· = byte q) before.length
        (before.length + text.length) ∧
      TopAt bytes (before.length + text.length) := by
  have hMember : q ∈ quotes := by
    rcases hQuote with rfl | rfl <;> decide
  have hClose : closes q q = true := by simp [closes]
  rcases hTop.exists_eq with ⟨last, hState⟩
  obtain ⟨cells, later, hDelimited, hCells⟩ :
      ∃ cells later,
        Reads ⟨.top, last⟩ before.reverse text ahead cells
            ⟨.top, later⟩ ∧
          ∀ c ∈ cells, c.isCode = true → c.byte = byte q := by
    rw [hText]
    refine
      ⟨_, _, reads_delimited hMember
        (staysOpen_body hBody hBare) hClose, ?_⟩
    intro c hCell hCode
    rcases List.mem_cons.mp hCell with rfl | hCell
    · rfl
    rcases List.mem_append.mp hCell with hInner | hLast
    · rcases List.mem_map.mp hInner with ⟨b, -, rfl⟩
      cases hCode
    · rw [List.mem_singleton.mp hLast]
  have hReads : ReadsIn before text ahead cells ⟨.top, later⟩ := by
    unfold ReadsIn
    rwa [← hBytes, hState]
  refine ⟨?_, ?_⟩
  · intro offset b hAfter hBefore hCode
    obtain ⟨place, rfl⟩ := Nat.exists_eq_add_of_le hAfter
    unfold HasCode at hCode
    rw [hBytes, getElem?_stretch hReads (by omega)] at hCode
    exact hCells _ (List.mem_of_getElem? hCode) rfl
  · unfold TopAt
    rw [hBytes, hReads.stateAt_eq]

end Texts

------------------------------------------------------------
-- One Token after Another
------------------------------------------------------------

/-
  The scanner is at the top level behind some bytes.  Nothing
  from an offset on meant anything, and no name goes on.
-/
structure Ready
    (bytes before ahead : List UInt8)
    (start : Nat) :
    Prop where
  bytes_eq : bytes = before ++ ahead
  ordered : start ≤ before.length
  idle : (ofBytes bytes).CodeHas IsIdle start before.length
  top : TopAt bytes before.length
  parted : AllowsName before ∨ EndsNames ahead

/- A token takes up some bytes, and others are ahead. -/
def Takes
    (sign : Sign)
    (bytes before text ahead : List UInt8)
    (start : Nat) :
    Prop :=
  (ofBytes bytes).Spot sign start (before ++ text).length ∧
    Ready bytes (before ++ text) ahead (before ++ text).length

namespace Ready

variable {bytes before text ahead : List UInt8}
variable {start : Nat}

theorem allowsName_append
    (hSome : text ≠ [])
    (hText : ∀ b ∈ text, isIdentifier b = false) :
    AllowsName (before ++ text) := by
  intro b hLast
  rw [List.getLast?_append_of_ne_nil before hSome] at hLast
  exact hText b (List.mem_of_getLast? hLast)

/- Blanks, and other bytes that mean nothing. -/
theorem pass
    (hReady : Ready bytes before (text ++ ahead) start)
    (hInert : ∀ b ∈ text, IsInert b)
    (hIdle : ∀ b ∈ text, IsIdle b) :
    Ready bytes (before ++ text) ahead start := by
  have hTop :=
    topAt_inside hReady.bytes_eq hReady.top hInert
      (Nat.le_refl _)
  have hCode := codeHas_text hReady.bytes_eq hIdle
  rw [← List.length_append] at hTop hCode
  refine ⟨?_, ?_, hReady.idle.append hCode, hTop, ?_⟩
  · rw [hReady.bytes_eq, List.append_assoc]
  · rw [List.length_append]
    exact Nat.le_add_right_of_le hReady.ordered
  · cases text with
    | nil => simpa using hReady.parted
    | cons b text =>
        exact Or.inl
          (allowsName_append (List.cons_ne_nil _ _)
            fun b hMember => (hIdle b hMember).identifier)

/- The place behind a token. -/
theorem behind
    (hBytes : bytes = before ++ (text ++ ahead))
    (hTop : TopAt bytes (before.length + text.length))
    (hParted : AllowsName (before ++ text) ∨ EndsNames ahead) :
    Ready bytes (before ++ text) ahead
      (before ++ text).length := by
  refine ⟨?_, Nat.le_refl _, ?_, ?_, hParted⟩
  · rw [hBytes, List.append_assoc]
  · intro offset b hAfter hBefore
    omega
  · rwa [List.length_append]

/- A token that nothing is counted for. -/
theorem takesOther
    (hReady : Ready bytes before (text ++ ahead) start)
    (hQuiet :
      (ofBytes bytes).CodeHas (· ∉ bracketBytes) before.length
        (before.length + text.length))
    (hWords :
      (ofBytes bytes).IsWordless before.length
        (before.length + text.length))
    (hTop : TopAt bytes (before.length + text.length))
    (hParted : AllowsName (before ++ text) ∨ EndsNames ahead) :
    Takes .other bytes before text ahead start := by
  refine ⟨?_, behind hReady.bytes_eq hTop hParted⟩
  have hFront := hReady.idle.mono fun _ hIdle => hIdle.bracket
  have hBlank := hReady.idle.mono fun _ hIdle => hIdle.identifier
  rw [List.length_append]
  refine .other (Nat.le_add_right_of_le hReady.ordered)
    (hFront.append hQuiet).quiet ?_
  exact hBlank.wordless.append hWords

/- A byte of code that has a sign of its own. -/
theorem takesByte
    {sign : Sign}
    {b : UInt8}
    (hReady : Ready bytes before ([b] ++ ahead) start)
    (hPlain : IsPlain b)
    (hName : isIdentifier b = false)
    (hSpot :
      ∀ place, start ≤ place →
        (ofBytes bytes).IsQuiet start place →
          (ofBytes bytes).IsWordless start (place + 1) →
            (ofBytes bytes).HasCode place b →
              (ofBytes bytes).Spot sign start (place + 1)) :
    Takes sign bytes before [b] ahead start := by
  have hBytes := hReady.bytes_eq
  have hInert : ∀ c ∈ [b], IsInert c :=
    List.forall_mem_singleton.mpr hPlain.inert
  have hNames : ∀ c ∈ [b], isIdentifier c = false :=
    List.forall_mem_singleton.mpr hName
  have hFront := hReady.idle.mono fun _ hIdle => hIdle.bracket
  have hBlank := hReady.idle.mono fun _ hIdle => hIdle.identifier
  have hTop :=
    topAt_inside hBytes hReady.top hInert (Nat.le_refl _)
  have hHere : (ofBytes bytes).HasCode (before.length + 0) b :=
    hasCode_text hBytes hReady.top hInert rfl
  refine ⟨?_, behind hBytes hTop (Or.inl
    (allowsName_append (List.cons_ne_nil _ _) hNames))⟩
  rw [List.length_append]
  exact hSpot _ hReady.ordered hFront.quiet
    (hBlank.append (codeHas_text hBytes hNames)).wordless hHere

theorem takesOpening
    (k : Bracket)
    (hReady : Ready bytes before ([k.opening] ++ ahead) start) :
    Takes (.opening k) bytes before [k.opening] ahead start :=
  hReady.takesByte k.opening_plain
    (by cases k <;> rfl) fun _ => .opening

theorem takesClosing
    (k : Bracket)
    (hReady : Ready bytes before ([k.closing] ++ ahead) start) :
    Takes (.closing k) bytes before [k.closing] ahead start :=
  hReady.takesByte k.closing_plain
    (by cases k <;> rfl) fun _ => .closing

/- A mark that is none of the brackets. -/
theorem takesMark
    (hReady : Ready bytes before (text ++ ahead) start)
    (hSome : text ≠ [])
    (hInert : ∀ b ∈ text, IsInert b)
    (hIdle : ∀ b ∈ text, IsIdle b) :
    Takes .other bytes before text ahead start := by
  have hBytes := hReady.bytes_eq
  have hCode := codeHas_text hBytes hIdle
  exact hReady.takesOther
    (hCode.mono fun _ hIdle => hIdle.bracket)
    (hCode.mono fun _ hIdle => hIdle.identifier).wordless
    (topAt_inside hBytes hReady.top hInert (Nat.le_refl _))
    (Or.inl (allowsName_append hSome
      fun b hMember => (hIdle b hMember).identifier))

theorem takesNumeral
    (hReady : Ready bytes before (text ++ ahead) start)
    (hInert : ∀ b ∈ text, IsInert b)
    (hText : ∀ b ∈ text, b ∉ bracketBytes ∧ b ∉ rareBytes)
    (hAhead : EndsNames ahead) :
    Takes .other bytes before text ahead start := by
  have hBytes := hReady.bytes_eq
  exact hReady.takesOther
    (codeHas_text hBytes fun b hMember => (hText b hMember).1)
    (wordless_of_rareBytes hBytes
      (fun b hMember => (hText b hMember).2) hAhead)
    (topAt_inside hBytes hReady.top hInert (Nat.le_refl _))
    (Or.inr hAhead)

theorem takesString
    {q : Char}
    {body : List Char}
    (hReady : Ready bytes before (text ++ ahead) start)
    (hQuote : IsQuote q)
    (hBody : IsBody q body)
    (hBare : Bare body)
    (hText : text = byte q :: (encode body ++ [byte q])) :
    Takes .other bytes before text ahead start := by
  have hIdle : byte q ∉ bracketBytes ∧
      isIdentifier (byte q) = false := by
    rcases hQuote with rfl | rfl <;> decide
  rcases string_codeHas hQuote hBody hBare hText hReady.bytes_eq
      hReady.top with ⟨hCode, hTop⟩
  refine hReady.takesOther
    (hCode.mono fun b hSame => by rw [hSame]; exact hIdle.1)
    (CodeHas.wordless
      (hCode.mono fun b hSame => by rw [hSame]; exact hIdle.2))
    hTop (Or.inl ?_)
  have hSplit :
      before ++ text =
        (before ++ (byte q :: encode body)) ++ [byte q] := by
    rw [hText]
    simp
  rw [hSplit]
  exact allowsName_append (List.cons_ne_nil _ _)
    (List.forall_mem_singleton.mpr hIdle.2)

/- A name stands where it is written, and there alone. -/
theorem takesName
    {x : String}
    (hReady : Ready bytes before (text ++ ahead) start)
    (hSome : text ≠ [])
    (hText : ∀ b ∈ text, isIdentifier b = true)
    (hName : bytesOf x = text)
    (hAhead : EndsNames ahead) :
    Takes (Sign.ofWord x) bytes before text ahead start := by
  have hBytes := hReady.bytes_eq
  have hInert : ∀ b ∈ text, IsInert b :=
    fun b hMember => (isIdentifier_plain (hText b hMember)).inert
  have hBracket : ∀ b ∈ text, b ∉ bracketBytes := by
    intro b hMember hBracket
    simp only [bracketBytes, List.map_cons, List.map_nil,
      List.mem_cons, List.not_mem_nil, or_false] at hBracket
    have hNone : isIdentifier b = false := by
      rcases hBracket with rfl | rfl | rfl | rfl <;> rfl
    rw [hText b hMember] at hNone
    cases hNone
  have hPos : 0 < text.length := List.length_pos_of_ne_nil hSome
  have hBefore : AllowsName before := by
    refine hReady.parted.resolve_right fun hEnds => ?_
    have hFirst := List.getElem?_eq_getElem hPos
    have hNone := hEnds text[0] (by
      rw [List.head?_append, List.head?_eq_getElem?, hFirst]
      rfl)
    rw [hText _ (List.getElem_mem hPos)] at hNone
    cases hNone
  have hTop :=
    topAt_inside hBytes hReady.top hInert (Nat.le_refl _)
  have hFront := hReady.idle.mono fun _ hIdle => hIdle.bracket
  have hBlank := hReady.idle.mono fun _ hIdle => hIdle.identifier
  have hQuiet :=
    (hFront.append (codeHas_text hBytes hBracket)).quiet
  have hStands :
      ∀ w ∈ Script.switchWords, ∀ offset,
        before.length ≤ offset →
          offset < before.length + text.length →
            ((ofBytes bytes).Stands w offset ↔
              offset = before.length ∧ w = x) := by
    intro w hMember offset hAfter hInside
    rw [stands_text_iff hBytes (isIdentifierWord_words w hMember)
      hReady.top hText hBefore hAhead hAfter hInside, ← hName]
    refine and_congr_right fun _ => ⟨fun hSame => ?_, ?_⟩
    · rw [← textOf_bytesOf w, hSame, textOf_bytesOf]
    · rintro rfl
      rfl
  have hOnly :
      ∀ first,
        (before.length < first ∨
            before.length ≤ first ∧ x ∉ Script.switchWords) →
          (ofBytes bytes).IsWordless first
            (before.length + text.length) := by
    intro first hFirst
    refine wordless_of_switchWords ?_
    intro w hMember offset hAfter hInside hHere
    rcases (hStands w hMember offset (by omega) hInside).mp hHere
      with ⟨rfl, rfl⟩
    rcases hFirst with hLater | ⟨-, hNone⟩
    · omega
    · exact hNone hMember
  have hHere :
      ∀ w ∈ Script.switchWords,
        (ofBytes bytes).Stands w before.length ↔ w = x := by
    intro w hMember
    rw [hStands w hMember _ (Nat.le_refl _) (by omega)]
    exact and_iff_right rfl
  have hOrder :
      start ≤ before.length ∧
        before.length < before.length + text.length :=
    ⟨hReady.ordered, by omega⟩
  by_cases hWord : x ∈ Script.switchWords
  · refine ⟨?_, behind hBytes hTop (Or.inr hAhead)⟩
    have hBehind := hOnly (before.length + 1) (Or.inl (by omega))
    rw [List.length_append]
    simp only [Script.switchWords, List.mem_cons,
      List.not_mem_nil, or_false] at hWord
    rcases hWord with rfl | hLabel
    · refine .switchWord hOrder hQuiet hBlank.wordless
        ((hHere _ (by decide)).mpr rfl) ?_ hBehind
      rintro (hCase | hDefault)
      · exact absurd ((hHere _ (by decide)).mp hCase) (by decide)
      · exact
          absurd ((hHere _ (by decide)).mp hDefault) (by decide)
    · have hSign : Sign.ofWord x = .label := by
        rcases hLabel with rfl | rfl <;> rfl
      rw [hSign]
      refine .label hOrder hQuiet hBlank.wordless ?_ ?_ hBehind
      · rcases hLabel with rfl | rfl
        · exact Or.inl ((hHere _ (by decide)).mpr rfl)
        · exact Or.inr ((hHere _ (by decide)).mpr rfl)
      · intro hSwitch
        have hSame := (hHere _ (by decide)).mp hSwitch
        rcases hLabel with rfl | rfl <;>
          exact absurd hSame (by decide)
  · rw [Sign.ofWord_of_notMem hWord]
    exact hReady.takesOther (codeHas_text hBytes hBracket)
      (hOnly _ (Or.inr ⟨Nat.le_refl _, hWord⟩)) hTop
      (Or.inr hAhead)

end Ready

theorem Takes.behindIdle
    {sign : Sign}
    {bytes before gap text ahead : List UInt8}
    {start : Nat}
    (hTakes : Takes sign bytes (before ++ gap) text ahead start) :
    Takes sign bytes before (gap ++ text) ahead start := by
  unfold Takes at hTakes ⊢
  rwa [List.append_assoc] at hTakes

------------------------------------------------------------
-- ASCII Characters
------------------------------------------------------------

/- The characters of marks that are no brackets that count. -/
def markChars : List Char :=
  [ '>', '<', '=', '!', '+', '-', '*', '%', '&', '|', '^', '~'
  , '?', ':', '.', ',', ';', '[', ']' ]

/- What the byte of a character tells about the character. -/
structure TellsByte (c : Char) : Prop where
  idle :
    IsBlank c ∨ c ∈ markChars →
      IsInert (byte c) ∧ IsIdle (byte c)
  numeral :
    IsNumeralChar c →
      IsInert (byte c) ∧
        byte c ∉ bracketBytes ∧ byte c ∉ rareBytes
  name : isIdentifier (byte c) = Text.isIdContinue c
  goesOn :
    Text.isIdContinue c = (Text.isIdStart c || isDigit c)

/- All tables are gone through at once. -/
theorem tellsByte_of_ascii
    {c : Char}
    (hAscii : c.toNat < 128) :
    TellsByte c := by
  have hIdle :=
    forall_ascii
      (motive := fun c =>
        (isLineEnd c = true ∨ isSpace c = true) ∨
            c ∈ markChars →
          (isQuote (byte c) = false ∧ byte c ≠ slash) ∧
            byte c ∉ bracketBytes ∧ isIdentifier (byte c) = false)
      (by decide +kernel) hAscii
  have hNumeral :=
    forall_ascii
      (motive := fun c =>
        (Literal.hexValue? c).isSome = true ∨
            c ∈ ['x', 'X', 'o', 'O', 'n', '_', '.', '+', '-'] →
          (isQuote (byte c) = false ∧ byte c ≠ slash) ∧
            byte c ∉ bracketBytes ∧ byte c ∉ rareBytes)
      (by decide +kernel) hAscii
  have hName :=
    forall_ascii
      (motive := fun c =>
        isIdentifier (byte c) = Text.isIdContinue c ∧
          Text.isIdContinue c = (Text.isIdStart c || isDigit c))
      (by decide +kernel) hAscii
  refine ⟨fun hHere => ?_, fun hHere => ?_, hName.1, hName.2⟩
  · rcases hIdle hHere with ⟨⟨hQuote, hSlash⟩, hBracket, hOther⟩
    exact ⟨⟨hQuote, hSlash⟩, hBracket, hOther⟩
  · rcases hNumeral hHere with ⟨⟨hQuote, hSlash⟩, hRare⟩
    exact ⟨⟨hQuote, hSlash⟩, hRare⟩

theorem byte_of_isNameChar
    {c : Char}
    (hAscii : c.toNat < 128)
    (hName : IsNameChar c) :
    isIdentifier (byte c) = true := by
  have hTells := tellsByte_of_ascii hAscii
  rw [hTells.name]
  rcases hName with hStart | hInside
  · rw [hTells.goesOn, hStart, Bool.true_or]
  · exact hInside

theorem endsNames_of_ends
    {rest : List Char}
    (hAscii : ∀ c ∈ rest, c.toNat < 128)
    (hEnds :
      ∀ c ∈ rest.head?, Text.isIdContinue c = false) :
    EndsNames (rest.map byte) := by
  cases rest with
  | nil => exact nofun
  | cons c rest =>
      intro b hHead
      cases hHead
      have hTells :=
        tellsByte_of_ascii (hAscii c List.mem_cons_self)
      rw [hTells.name]
      exact hEnds c rfl

theorem endsNames_of_endsNumber
    {rest : List Char}
    (hAscii : ∀ c ∈ rest, c.toNat < 128)
    (hEnds : endsNumber rest = true) :
    EndsNames (rest.map byte) := by
  refine endsNames_of_ends hAscii ?_
  cases rest with
  | nil => exact nofun
  | cons c rest =>
      intro d hHead
      cases hHead
      have hTells :=
        tellsByte_of_ascii (hAscii c List.mem_cons_self)
      rw [hTells.goesOn]
      simp only [endsNumber, Bool.not_eq_true',
        Bool.or_eq_false_iff] at hEnds
      rw [hEnds.1.1, hEnds.1.2, Bool.or_false]

/- A mark is a bracket that counts, or has no such sign. -/
theorem mark_cases :
    ∀ x ∈ marks,
      (x = "(" ∨ x = ")" ∨ x = "\x7b" ∨ x = "\x7d") ∨
        Sign.ofMark x = .other ∧ x.toList ≠ [] ∧
          (x.toList.all fun c =>
            c == '/' || markChars.contains c) = true := by
  decide

------------------------------------------------------------
-- Spelled Tokens
------------------------------------------------------------

/- A token takes up the offsets of its text. -/
theorem Ready.takes_of_spelled
    {bytes before : List UInt8}
    {text rest : List Char}
    {t : Token}
    {start : Nat}
    (hSpelled : Spelled t text rest)
    (hBare : Bare text)
    (hText : ∀ c ∈ text, c.toNat < 128)
    (hRest : ∀ c ∈ rest, c.toNat < 128)
    (hReady :
      Ready bytes before (text.map byte ++ rest.map byte)
        start) :
    Takes t.sign bytes before (text.map byte) (rest.map byte)
      start := by
  have hName :
      ∀ {before : List UInt8} {text : List Char},
        IsName text rest → (∀ c ∈ text, c.toNat < 128) →
          Ready bytes before (text.map byte ++ rest.map byte)
            start →
            Takes (Sign.ofWord (String.ofList text)) bytes before
              (text.map byte) (rest.map byte) start := by
    intro before text hName hAscii hReady
    refine hReady.takesName (by simpa using hName.ne_nil) ?_
      (bytesOf_ofList hAscii)
      (endsNames_of_ends hRest hName.ends)
    refine List.forall_mem_map.mpr fun c hMember => ?_
    exact byte_of_isNameChar (hAscii c hMember)
      (hName.chars c hMember)
  cases hSpelled with
  | word escaped hWord => exact hName hWord hText hReady
  | @secret text _ hSecret =>
      rcases List.forall_mem_cons.mp hText with ⟨-, hLater⟩
      have hMark :
          ∀ b ∈ [byte '#'], IsInert b ∧ IsIdle b :=
        List.forall_mem_singleton.mpr
          ⟨⟨rfl, by decide⟩, by simp [bracketBytes, byte], rfl⟩
      have hFirst :
          Ready bytes before
            ([byte '#'] ++ (text.map byte ++ rest.map byte))
            start := hReady
      have hPassed :=
        hFirst.pass (fun b hMember => (hMark b hMember).1)
          fun b hMember => (hMark b hMember).2
      exact (hName hSecret hLater hPassed).behindIdle
  | @mark x _ hMark =>
      rcases mark_cases x hMark with
        (rfl | rfl | rfl | rfl) | ⟨hSign, hSome, hChars⟩
      · exact hReady.takesOpening .round
      · exact hReady.takesClosing .round
      · exact hReady.takesOpening .curly
      · exact hReady.takesClosing .curly
      · have hBytes :
            ∀ b ∈ x.toList.map byte, IsInert b ∧ IsIdle b := by
          refine List.forall_mem_map.mpr fun c hMember => ?_
          have hHere := List.all_eq_true.mp hChars c hMember
          rw [Bool.or_eq_true, beq_iff_eq,
            List.contains_iff_mem] at hHere
          exact (tellsByte_of_ascii (hText c hMember)).idle
            (Or.inr (hHere.resolve_left (hBare c hMember).1))
        have hTaken :=
          hReady.takesMark (by simpa using hSome)
            (fun b hMember => (hBytes b hMember).1)
            (fun b hMember => (hBytes b hMember).2)
        rwa [← hSign] at hTaken
  | @numeral _ _ _ hToken hChars hEnds =>
      have hBytes :
          ∀ b ∈ text.map byte,
            IsInert b ∧ b ∉ bracketBytes ∧ b ∉ rareBytes :=
        List.forall_mem_map.mpr fun c hMember =>
          (tellsByte_of_ascii (hText c hMember)).numeral
            (hChars c hMember)
      have hTaken :=
        hReady.takesNumeral
          (fun b hMember => (hBytes b hMember).1)
          (fun b hMember => (hBytes b hMember).2)
          (endsNames_of_endsNumber hRest hEnds)
      have hSign : t.sign = .other := by
        cases t <;> first | rfl | exact hToken.elim
      rwa [hSign]
  | @string q body s isLegacy isPlain _ hQuote hBody =>
      rcases List.forall_mem_cons.mp hText with ⟨-, hInner⟩
      rcases List.forall_mem_append.mp hInner with ⟨hAscii, -⟩
      have hEncode : encode body = body.map byte := by
        rw [← bytesOf_ofList hAscii, bytesOf_eq_encode,
          String.toList_ofList]
      have hInside : Bare body :=
        (Bare.of_append (List.forall_mem_cons.mp hBare).2).1
      refine hReady.takesString hQuote hBody hInside ?_
      rw [hEncode]
      simp
  | stop =>
      exact hReady.takesOther (fun offset b hAfter hBefore => by
          simp at hBefore
          omega) (fun offset hAfter hBefore => by
          simp at hBefore
          omega) hReady.top
        (Or.inr fun _ hHead => by cases hHead)

/- The next token takes up the offsets up to the rest. -/
theorem Ready.takes_of_next?
    {bytes before : List UInt8}
    {cs : List Char}
    {l : Lexeme}
    (hSimple : IsSimple cs)
    (hNext : Lexeme.next? cs = some l)
    (hReady : Ready bytes before (cs.map byte) before.length) :
    ∃ used,
      cs = used ++ l.rest ∧
        Takes l.sign bytes before (used.map byte)
          (l.rest.map byte) before.length := by
  rcases Lexeme.spelled_of_next? hSimple.bare hNext with
    ⟨gap, text, rfl, hGap, hSpelled⟩
  rcases hSimple.of_append with ⟨hBlank, hRest⟩
  rcases hRest.of_append with ⟨hText, hAhead⟩
  have hBytes :
      ∀ b ∈ gap.map byte, IsInert b ∧ IsIdle b :=
    List.forall_mem_map.mpr fun c hMember =>
      (tellsByte_of_ascii (hBlank.ascii c hMember)).idle
        (Or.inl (hGap c hMember))
  rw [List.map_append, List.map_append] at hReady
  have hPassed :=
    hReady.pass (fun b hMember => (hBytes b hMember).1)
      (fun b hMember => (hBytes b hMember).2)
  have hTakes :=
    hPassed.takes_of_spelled hSpelled hText.bare hText.ascii
      hAhead.ascii
  refine ⟨gap ++ text, (List.append_assoc _ _ _).symm, ?_⟩
  rw [List.map_append]
  exact hTakes.behindIdle

/- Tokens that follow each other take up offsets in a row. -/
theorem spots_of_taken
    {bytes before : List UInt8}
    {cs rest : List Char}
    {ls : List Lexeme}
    (hSimple : IsSimple cs)
    (hTaken : Taken cs ls rest)
    (hReady : Ready bytes before (cs.map byte) before.length) :
    ∃ used,
      cs = used ++ rest ∧
        (ofBytes bytes).Spots (ls.map Lexeme.sign) before.length
          (before.length + used.length) := by
  induction hTaken generalizing before with
  | nil cs => exact ⟨[], rfl, .nil _⟩
  | @cons cs rest l ls hNext hRest ih =>
      rcases hReady.takes_of_next? hSimple hNext with
        ⟨used, rfl, hSpot, hBehind⟩
      rcases ih hSimple.of_append.2 hBehind with
        ⟨more, hMore, hSpots⟩
      refine ⟨used ++ more, ?_, ?_⟩
      · rw [List.append_assoc, ← hMore]
      · have hLength :
            (before ++ used.map byte).length + more.length =
              before.length + (used ++ more).length := by
          simp [Nat.add_assoc]
        rw [hLength] at hSpots
        exact .cons hSpot hSpots

end CodeMap

end Devirt
