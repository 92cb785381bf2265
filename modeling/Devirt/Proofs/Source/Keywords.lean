import Devirt.Detection.SwitchBody
import Devirt.Proofs.Source.Scanner
import Mathlib.Data.List.Basic

/-
  Where keywords stand in a script.

  A search goes on after each occurrence of a word, so the
  offsets it gives ascend, and at each of them the word can be
  read.  The labels of switch statements inherit both.

  The search can miss a word that overlaps an earlier one.  But
  the byte before such an occurrence is one of the word, so a
  word of identifier bytes does not stand alone there: the
  search finds it wherever it does.  No byte of such a word
  leaves the top level, so all of it is code if its first byte
  is.

  Main declarations:
    * `Text.startsWith_iff`
    * `CodeMap.mem_occurrences`,
      `CodeMap.occurrences_ascending`
    * `CodeMap.mem_keywordOffsets`,
      `CodeMap.keywordOffsets_ascending`
    * `CodeMap.labelOffsets_ascending`
    * `IsIdentifierWord`, `CodeMap.Stands`
    * `CodeMap.exists_occurrence`
    * `CodeMap.mem_keywordOffsets_iff`
    * `CodeMap.Stands.isCode_inside`,
      `CodeMap.keywordOffsets_standing`
-/

------------------------------------------------------------
-- Beginnings of Lists
------------------------------------------------------------

namespace Devirt

namespace Text

variable {α : Type}
variable [BEq α] [LawfulBEq α]

theorem dropPrefix?_eq_some_iff
    (lead cs rest : List α) :
    dropPrefix? lead cs = some rest ↔ cs = lead ++ rest := by
  induction lead generalizing cs with
  | nil => simp [dropPrefix?]
  | cons first lead ih =>
      cases cs with
      | nil => simp [dropPrefix?]
      | cons c cs =>
          by_cases hSame : first = c
          · subst c
            simp [dropPrefix?, ih]
          · simp [dropPrefix?, hSame, Ne.symm hSame]

theorem startsWith_iff
    (lead cs : List α) :
    startsWith lead cs = true ↔ lead <+: cs := by
  unfold startsWith
  rw [Option.isSome_iff_exists]
  constructor
  · rintro ⟨rest, hRest⟩
    exact
      ⟨rest, ((dropPrefix?_eq_some_iff lead cs rest).mp
        hRest).symm⟩
  · rintro ⟨rest, hRest⟩
    exact
      ⟨rest, (dropPrefix?_eq_some_iff lead cs rest).mpr
        hRest.symm⟩

end Text

end Devirt

------------------------------------------------------------
-- Occurrences
------------------------------------------------------------

namespace Devirt

namespace CodeMap

open Scanner

/- An offset later than the first byte is one of the rest. -/
theorem drop_sub_cons
    {offset found : Nat}
    (hLater : offset + 1 ≤ found)
    (b : UInt8)
    (rest : List UInt8) :
    (b :: rest).drop (found - offset) =
      rest.drop (found - (offset + 1)) := by
  have hShift :
      found - offset = (found - (offset + 1)) + 1 := by
    omega
  rw [hShift, List.drop_succ_cons]

/- A word can be read where the search has found it. -/
theorem mem_occurrences
    {word : List UInt8}
    {offset skip : Nat}
    {bytes : List UInt8}
    {found : Nat}
    (hFound : found ∈ occurrences word offset skip bytes) :
    offset + skip ≤ found ∧
      found < offset + bytes.length ∧
      word <+: bytes.drop (found - offset) := by
  fun_induction occurrences word offset skip bytes with
  | case1 offset skip => simp at hFound
  | case2 offset skip b rest ih =>
      rcases ih hFound with ⟨hAfter, hBefore, hWord⟩
      refine ⟨by omega, by simp; omega, ?_⟩
      rw [drop_sub_cons (by omega)]
      exact hWord
  | case3 offset b rest hHere ih =>
      rcases List.mem_cons.mp hFound with hFirst | hLater
      · subst found
        refine ⟨Nat.le_refl _, by simp, ?_⟩
        simpa using (Text.startsWith_iff word _).mp hHere
      · rcases ih hLater with ⟨hAfter, hBefore, hWord⟩
        refine ⟨by omega, by simp; omega, ?_⟩
        rw [drop_sub_cons (by omega)]
        exact hWord
  | case4 offset b rest hHere ih =>
      rcases ih hFound with ⟨hAfter, hBefore, hWord⟩
      refine ⟨by omega, by simp; omega, ?_⟩
      rw [drop_sub_cons (by omega)]
      exact hWord

theorem occurrences_ascending
    (word : List UInt8)
    (offset skip : Nat)
    (bytes : List UInt8) :
    (occurrences word offset skip bytes).Pairwise
      (· < ·) := by
  fun_induction occurrences word offset skip bytes with
  | case1 offset skip => exact List.Pairwise.nil
  | case2 offset skip b rest ih => exact ih
  | case3 offset b rest hHere ih =>
      refine List.pairwise_cons.mpr ⟨?_, ih⟩
      intro later hLater
      have hAfter := (mem_occurrences hLater).1
      omega
  | case4 offset b rest hHere ih => exact ih

------------------------------------------------------------
-- Keywords
------------------------------------------------------------

theorem mem_keywordOffsets
    {m : CodeMap}
    {word : String}
    {offset : Nat}
    (hMember : offset ∈ m.keywordOffsets word) :
    m.standsAlone (bytesOf word).length offset = true ∧
      offset < m.bytes.length ∧
      bytesOf word <+: m.bytes.drop offset := by
  rcases List.mem_filter.mp hMember with ⟨hFound, hAlone⟩
  rcases mem_occurrences hFound with ⟨-, hInside, hWord⟩
  exact
    ⟨hAlone, by simpa using hInside, by simpa using hWord⟩

theorem keywordOffsets_ascending
    (m : CodeMap)
    (word : String) :
    (m.keywordOffsets word).Pairwise (· < ·) :=
  (occurrences_ascending _ 0 0 m.bytes).filter _

/- Words with different first bytes stand at different places. -/
theorem keywordOffsets_disjoint
    (m : CodeMap)
    {first second : String}
    {a b : UInt8}
    (hFirst : (bytesOf first).head? = some a)
    (hSecond : (bytesOf second).head? = some b)
    (hDifferent : a ≠ b) :
    (m.keywordOffsets first).Disjoint
      (m.keywordOffsets second) := by
  intro offset hLeft hRight
  rcases (mem_keywordOffsets hLeft).2.2 with ⟨left, hLeft⟩
  rcases (mem_keywordOffsets hRight).2.2 with ⟨right, hRight⟩
  have hHeads :=
    congrArg List.head? (hLeft.trans hRight.symm)
  rw [List.head?_append, List.head?_append, hFirst,
    hSecond] at hHeads
  exact hDifferent (Option.some.inj hHeads)

------------------------------------------------------------
-- Labels
------------------------------------------------------------

theorem mem_labelOffsets_iff
    (m : CodeMap)
    (offset : Nat) :
    offset ∈ m.labelOffsets ↔
      offset ∈ m.keywordOffsets "case" ∨
        offset ∈ m.keywordOffsets "default" := by
  unfold labelOffsets
  rw [List.mem_mergeSort, List.mem_append]

/- A script can be cut before a keyword. -/
theorem keywordOffsets_boundary
    {m : CodeMap}
    {word : String}
    {offset : Nat}
    (hMember : offset ∈ m.keywordOffsets word) :
    m.isBoundary offset = true := by
  have hAlone := (mem_keywordOffsets hMember).1
  simp only [standsAlone, Bool.and_eq_true] at hAlone
  exact hAlone.1.1.2

theorem labelOffsets_boundary
    {m : CodeMap}
    {offset : Nat}
    (hMember : offset ∈ m.labelOffsets) :
    m.isBoundary offset = true := by
  rcases (m.mem_labelOffsets_iff offset).mp hMember with
    hCase | hDefault
  · exact keywordOffsets_boundary hCase
  · exact keywordOffsets_boundary hDefault

/- Labels that are found in order are listed in order. -/
theorem labelOffsets_of_pairwise
    {m : CodeMap}
    (hOrder :
      (m.keywordOffsets "case" ++
        m.keywordOffsets "default").Pairwise (· ≤ ·)) :
    m.labelOffsets =
      m.keywordOffsets "case" ++ m.keywordOffsets "default" := by
  apply List.mergeSort_of_pairwise
  simpa using hOrder

/- Labels are listed in the order of the script. -/
theorem labelOffsets_ascending
    (m : CodeMap) :
    m.labelOffsets.Pairwise (· < ·) := by
  have hDisjoint :
      (m.keywordOffsets "case").Disjoint
        (m.keywordOffsets "default") :=
    m.keywordOffsets_disjoint
      (a := byte 'c') (b := byte 'd')
      (by decide +kernel) (by decide +kernel) (by decide)
  have hNodup :
      (m.keywordOffsets "case" ++
        m.keywordOffsets "default").Nodup := by
    refine List.nodup_append.mpr ⟨?_, ?_, ?_⟩
    · exact (m.keywordOffsets_ascending "case").imp Nat.ne_of_lt
    · exact
        (m.keywordOffsets_ascending "default").imp Nat.ne_of_lt
    · intro offset hCase other hDefault hSame
      subst other
      exact hDisjoint hCase hDefault
  have hSorted :
      m.labelOffsets.Pairwise (· ≤ ·) := by
    refine (List.pairwise_mergeSort ?_ ?_ _).imp ?_
    · intro a b c hab hbc
      exact
        decide_eq_true
          (Nat.le_trans (of_decide_eq_true hab)
            (of_decide_eq_true hbc))
    · intro a b
      simpa using Nat.le_total a b
    · intro a b hab
      exact of_decide_eq_true hab
  have hDistinct : m.labelOffsets.Nodup :=
    (List.mergeSort_perm _ _).nodup_iff.mpr hNodup
  exact
    (hSorted.and hDistinct).imp fun hBoth =>
      Nat.lt_of_le_of_ne hBoth.1 hBoth.2

end CodeMap

end Devirt

------------------------------------------------------------
-- Standing Alone
------------------------------------------------------------

namespace Devirt

open Scanner

/- A text of ASCII bytes that can all be part of a name. -/
structure IsIdentifierWord (word : String) : Prop where
  ne_nil : bytesOf word ≠ []
  identifier : ∀ b ∈ bytesOf word, isIdentifier b = true

instance (word : String) : Decidable (IsIdentifierWord word) :=
  decidable_of_iff
    (bytesOf word ≠ [] ∧
      (bytesOf word).all isIdentifier = true)
    ⟨fun hWord => ⟨hWord.1, List.all_eq_true.mp hWord.2⟩,
      fun hWord =>
        ⟨hWord.ne_nil,
          List.all_eq_true.mpr hWord.identifier⟩⟩

theorem isIdentifierWord_words :
    ∀ word ∈ ["switch", "case", "default"],
      IsIdentifierWord word := by
  decide +kernel

namespace CodeMap

/-
  A word can be read at an offset, begins with code there, and
  is no part of a longer word.
-/
structure Stands
    (m : CodeMap)
    (word : String)
    (offset : Nat) : Prop where
  reads : bytesOf word <+: m.bytes.drop offset
  isCode : m.isCode offset = true
  before :
    ∀ earlier, offset = earlier + 1 →
      m.identifierAt earlier = false
  behind :
    m.identifierAt (offset + (bytesOf word).length) = false

/- The bytes of a word stand at the offsets from its own on. -/
theorem byte?_of_prefix
    {m : CodeMap}
    {word : List UInt8}
    {offset place : Nat}
    (hReads : word <+: m.bytes.drop offset)
    (hInside : place < word.length) :
    m.byte? (offset + place) = word[place]? := by
  rcases hReads with ⟨rest, hRest⟩
  rw [byte?_eq_getElem?, ← List.getElem?_drop, ← hRest,
    List.getElem?_append_left hInside]

theorem Stands.byte?_eq
    {m : CodeMap}
    {word : String}
    {offset : Nat}
    {b : UInt8}
    (hStands : m.Stands word offset)
    (hFirst : (bytesOf word).head? = some b) :
    m.byte? offset = some b := by
  have hPos : 0 < (bytesOf word).length := by
    cases hWord : bytesOf word with
    | nil => simp [hWord] at hFirst
    | cons first rest => simp
  have hByte := byte?_of_prefix hStands.reads hPos
  rwa [Nat.add_zero, ← List.head?_eq_getElem?, hFirst] at hByte

theorem isIdentifier_ascii
    {b : UInt8}
    (hIdentifier : isIdentifier b = true) :
    b < 128 := by
  have hAll :
      ∀ n : Fin 256,
        isIdentifier (UInt8.ofNat n) = true →
          UInt8.ofNat n < 128 := by
    decide +kernel
  have hByte := hAll ⟨b.toNat, b.toNat_lt⟩
  simp only [UInt8.ofNat_toNat] at hByte
  exact hByte hIdentifier

------------------------------------------------------------
-- The Search
------------------------------------------------------------

/-
  Wherever a word can be read, the search has found it there or
  at an earlier place that it still covers.
-/
theorem exists_occurrence
    {word : List UInt8}
    {offset skip place : Nat}
    {bytes : List UInt8}
    (hPos : 0 < word.length)
    (hReached : offset + skip ≤ place)
    (hReads : word <+: bytes.drop (place - offset)) :
    ∃ found ∈ occurrences word offset skip bytes,
      found ≤ place ∧ place < found + word.length := by
  fun_induction occurrences word offset skip bytes with
  | case1 offset skip =>
      rw [List.drop_nil, List.prefix_nil] at hReads
      simp [hReads] at hPos
  | case2 offset skip b rest ih =>
      rw [drop_sub_cons (by omega)] at hReads
      exact ih (by omega) hReads
  | case3 offset b rest hHere ih =>
      rcases Nat.lt_or_ge place (offset + word.length) with
        hCovered | hLater
      · exact
          ⟨offset, List.mem_cons_self, by omega, hCovered⟩
      · rw [drop_sub_cons (by omega)] at hReads
        rcases ih (by omega) hReads with
          ⟨found, hFound, hBounds⟩
        exact ⟨found, List.mem_cons_of_mem _ hFound, hBounds⟩
  | case4 offset b rest hHere ih =>
      rcases Nat.eq_or_lt_of_le hReached with hSame | hLater
      · rw [← hSame, Nat.add_zero, Nat.sub_self, List.drop_zero,
          ← Text.startsWith_iff] at hReads
        exact absurd hReads hHere
      · rw [drop_sub_cons (by omega)] at hReads
        exact ih (by omega) hReads

/-
  The search for a word gives exactly the offsets at which it
  stands alone.
-/
theorem mem_keywordOffsets_iff
    (m : CodeMap)
    {word : String}
    (hWord : IsIdentifierWord word)
    (offset : Nat) :
    offset ∈ m.keywordOffsets word ↔ m.Stands word offset := by
  constructor
  · intro hMember
    rcases mem_keywordOffsets hMember with ⟨hAlone, -, hReads⟩
    simp only [standsAlone, Bool.and_eq_true, Bool.or_eq_true,
      beq_iff_eq, Bool.not_eq_true'] at hAlone
    rcases hAlone with ⟨⟨⟨hCode, -⟩, hBefore⟩, hBehind⟩
    refine ⟨hReads, hCode, ?_, hBehind⟩
    rintro earlier rfl
    simpa using hBefore
  · intro hStands
    have hPos := List.length_pos_of_ne_nil hWord.ne_nil
    have hReads :
        bytesOf word <+: m.bytes.drop (offset - 0) :=
      hStands.reads
    have hReached : 0 + 0 ≤ offset := Nat.zero_le offset
    rcases exists_occurrence hPos hReached hReads with
      ⟨found, hFound, hLe, hCovered⟩
    have hSame : found = offset := by
      by_contra hDifferent
      -- the byte before the offset would be one of the word
      obtain ⟨place, rfl⟩ : ∃ place, offset = found + place + 1 :=
        ⟨offset - found - 1, by omega⟩
      have hInside : place < (bytesOf word).length := by omega
      have hThere :
          bytesOf word <+: m.bytes.drop found := by
        simpa using (mem_occurrences hFound).2.2
      have hByte := byte?_of_prefix hThere hInside
      rw [List.getElem?_eq_getElem hInside] at hByte
      have hBefore := hStands.before (found + place) rfl
      rw [identifierAt, hByte] at hBefore
      have hIdentifier :=
        hWord.identifier _ (List.getElem_mem hInside)
      exact Bool.false_ne_true (hBefore.symm.trans hIdentifier)
    rw [hSame] at hFound
    have hFirst := byte?_of_prefix hStands.reads hPos
    rw [Nat.add_zero, List.getElem?_eq_getElem hPos] at hFirst
    have hBoundary :=
      isBoundary_of_ascii hFirst
        (isIdentifier_ascii
          (hWord.identifier _ (List.getElem_mem hPos)))
    refine List.mem_filter.mpr ⟨hFound, ?_⟩
    simp only [standsAlone, hStands.isCode, hBoundary,
      hStands.behind, Bool.and_eq_true, Bool.or_eq_true,
      beq_iff_eq, Bool.not_eq_true', and_true, true_and]
    cases offset with
    | zero => exact Or.inl rfl
    | succ earlier => exact Or.inr (hStands.before earlier rfl)

------------------------------------------------------------
-- Whole Words
------------------------------------------------------------

theorem isIdentifier_plain
    {b : UInt8}
    (hIdentifier : isIdentifier b = true) :
    IsPlain b := by
  have hAll :
      ∀ n : Fin 256,
        isIdentifier (UInt8.ofNat n) = true →
          isQuote (UInt8.ofNat n) = false ∧
            UInt8.ofNat n ≠ slash ∧ UInt8.ofNat n ≠ lineFeed := by
    decide +kernel
  have hByte := hAll ⟨b.toNat, b.toNat_lt⟩
  simp only [UInt8.ofNat_toNat] at hByte
  rcases hByte hIdentifier with ⟨hQuote, hSlash, hFeed⟩
  exact ⟨hQuote, hSlash, hFeed⟩

section Inside

variable {code word : String}
variable {offset place : Nat}

/- The bytes of a word that stands alone are plain ones. -/
theorem Stands.exists_plain
    (hWord : IsIdentifierWord word)
    (hStands : (ofText code).Stands word offset)
    (hInside : place < (bytesOf word).length) :
    ∃ b,
      (bytesOf code)[offset + place]? = some b ∧ IsPlain b := by
  have hByte := byte?_of_prefix hStands.reads hInside
  rw [byte?_eq_getElem?, bytes_ofText,
    List.getElem?_eq_getElem hInside] at hByte
  exact
    ⟨_, hByte,
      isIdentifier_plain
        (hWord.identifier _ (List.getElem_mem hInside))⟩

/-
  A word that begins with code is read at the top level to its
  end, since none of its bytes leaves the top level.
-/
theorem Stands.topAt
    (hWord : IsIdentifierWord word)
    (hStands : (ofText code).Stands word offset)
    (hInside : place < (bytesOf word).length) :
    TopAt (bytesOf code) (offset + place) := by
  induction place with
  | zero =>
      rcases hStands.exists_plain hWord hInside with
        ⟨b, hByte, hPlain⟩
      rw [Nat.add_zero] at hByte ⊢
      have hRead : (ofText code).byte? offset = some b := by
        rwa [byte?_eq_getElem?, bytes_ofText]
      exact
        (hasCode_iff_topAt hByte hPlain).mp
          (hasCode_of_isCode hStands.isCode hRead)
  | succ place ih =>
      have hEarlier : place < (bytesOf word).length := by omega
      rcases hStands.exists_plain hWord hEarlier with
        ⟨b, hByte, hPlain⟩
      exact
        topAt_succ (ih hEarlier) hByte hPlain.quote hPlain.slash

/- All bytes of a word that stands alone are code. -/
theorem Stands.isCode_inside
    (hWord : IsIdentifierWord word)
    (hStands : (ofText code).Stands word offset)
    (hInside : place < (bytesOf word).length) :
    (ofText code).isCode (offset + place) = true := by
  rcases hStands.exists_plain hWord hInside with
    ⟨b, hByte, hPlain⟩
  have hTop := hStands.topAt hWord hInside
  exact ((hasCode_iff_topAt hByte hPlain).mpr hTop).isCode_eq

end Inside

/-
  In every source, the search for a word of identifier bytes
  lists in ascending order all offsets at which the word stands
  alone, and nothing of the word is part of a literal or comment
  there.
-/
theorem keywordOffsets_standing
    (code : String)
    {word : String}
    (hWord : IsIdentifierWord word) :
    ((ofText code).keywordOffsets word).Pairwise (· < ·) ∧
      (∀ offset,
        offset ∈ (ofText code).keywordOffsets word ↔
          (ofText code).Stands word offset) ∧
        ∀ offset ∈ (ofText code).keywordOffsets word,
          ∀ place < (bytesOf word).length,
            (ofText code).isCode (offset + place) = true := by
  refine
    ⟨keywordOffsets_ascending _ word,
      mem_keywordOffsets_iff _ hWord, ?_⟩
  intro offset hMember place hInside
  have hStands := (mem_keywordOffsets_iff _ hWord offset).mp hMember
  exact hStands.isCode_inside hWord hInside

/- A name that overlaps itself, alone, in a literal and in names. -/
def overlappingWords : String := "aaa.aa 'aa' xaa aa/*aa*/"

theorem overlappingWords_standing :
    IsIdentifierWord "aa" ∧
      (ofText overlappingWords).keywordOffsets "aa" = [4, 16] ∧
        ((ofText overlappingWords).Stands "aa" 4 ∧
          (ofText overlappingWords).isCode 5 = true) := by
  have hWord : IsIdentifierWord "aa" := by decide +kernel
  have hOffsets :
      (ofText overlappingWords).keywordOffsets "aa" = [4, 16] := by
    decide +kernel
  rcases keywordOffsets_standing overlappingWords hWord with
    ⟨-, hStanding, hCode⟩
  have hMember :
      4 ∈ (ofText overlappingWords).keywordOffsets "aa" := by
    rw [hOffsets]
    exact List.mem_cons_self
  exact
    ⟨hWord, hOffsets, (hStanding 4).mp hMember,
      hCode 4 hMember 1 (by decide +kernel)⟩

end CodeMap

end Devirt
