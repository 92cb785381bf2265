import Devirt.Source.CodeMap
import Mathlib.Data.List.Chain

/-
  Where a script can be cut.

  The bytes of a text are the encodings of its characters one
  after the other.  No encoding begins with a continuation
  byte, and one with an ASCII byte has no other byte, so a
  script can be cut before and after every ASCII byte.

  Main declarations:
    * `Scanner.bytesOf_eq_flatMap`
    * `Scanner.bytesOf_cuttable`
    * `CodeMap.bytes_ofText`
    * `CodeMap.isBoundary_of_ascii`,
      `CodeMap.isBoundary_succ_of_ascii`
-/

------------------------------------------------------------
-- Bytes of Texts
------------------------------------------------------------

namespace Devirt

namespace Scanner

theorem get!_eq_getElem
    (bytes : ByteArray)
    {index : Nat}
    (hInside : index < bytes.data.toList.length) :
    bytes.get! index = bytes.data.toList[index] := by
  have hSize : index < bytes.data.size := by
    simpa using hInside
  have hGet := getElem!_pos bytes.data index hSize
  simpa [ByteArray.get!] using hGet

/- The loop that lists bytes gives what has not been read. -/
theorem toList_loop_eq_append
    (bytes : ByteArray)
    (index : Nat)
    (read : List UInt8) :
    ByteArray.toList.loop bytes index read =
      read.reverse ++ bytes.data.toList.drop index := by
  fun_induction ByteArray.toList.loop bytes index read with
  | case1 index read hInside ih =>
      have hBound : index < bytes.data.toList.length := by
        simpa using hInside
      rw [ih, List.drop_eq_getElem_cons hBound,
        get!_eq_getElem bytes hBound]
      simp
  | case2 index read hOutside =>
      have hBound : bytes.data.toList.length ≤ index := by
        simpa using Nat.not_lt.mp hOutside
      rw [List.drop_eq_nil_of_le hBound, List.append_nil]

theorem bytesOf_eq_flatMap
    (s : String) :
    bytesOf s = s.toList.flatMap String.utf8EncodeChar := by
  unfold bytesOf ByteArray.toList
  rw [toList_loop_eq_append]
  change s.toByteArray.data.toList = _
  rw [← String.utf8Encode_toList]
  unfold List.utf8Encode
  exact List.toList_data_toByteArray

end Scanner

end Devirt

------------------------------------------------------------
-- Encodings
------------------------------------------------------------

namespace Devirt

namespace Scanner

open CodeMap

/-
  A character is encoded by one ASCII byte, or by a byte that
  is no continuation and others that are not ASCII.
-/
theorem utf8EncodeChar_cases
    (c : Char) :
    (∃ b, String.utf8EncodeChar c = [b] ∧ b < 128) ∨
      ∃ first rest,
        String.utf8EncodeChar c = first :: rest ∧
          192 ≤ first ∧ ∀ b ∈ rest, 128 ≤ b := by
  unfold String.utf8EncodeChar
  generalize c.val.toNat = value
  dsimp only
  split
  · refine Or.inl ⟨_, rfl, ?_⟩
    simp [UInt8.lt_iff_toNat_lt]
    omega
  · refine Or.inr ?_
    split
    · refine ⟨_, _, rfl, ?_, ?_⟩ <;>
        simp [UInt8.le_iff_toNat_le] <;> omega
    · split <;>
        refine ⟨_, _, rfl, ?_, ?_⟩ <;>
          simp [UInt8.le_iff_toNat_le] <;> omega

/- After an ASCII byte a new character begins. -/
def MayFollow (before after : UInt8) : Prop :=
  before < 128 → isContinuation after = false

/-
  Bytes that do not begin with a continuation and have none
  after an ASCII byte.
-/
structure Cuttable (bytes : List UInt8) : Prop where
  first : ∀ b ∈ bytes.head?, isContinuation b = false
  chain : List.IsChain MayFollow bytes

theorem isContinuation_of_ge
    {b : UInt8}
    (hHigh : 192 ≤ b) :
    isContinuation b = false := by
  have hNotLess : ¬ b < 192 := UInt8.not_lt.mpr hHigh
  simp [isContinuation, hNotLess]

theorem isContinuation_of_ascii
    {b : UInt8}
    (hAscii : b < 128) :
    isContinuation b = false := by
  have hNotLe : ¬ 128 ≤ b := UInt8.not_le.mpr hAscii
  simp [isContinuation, hNotLe]

theorem isChain_of_high
    {bytes : List UInt8}
    (hHigh : ∀ b ∈ bytes, 128 ≤ b) :
    List.IsChain MayFollow bytes := by
  induction bytes with
  | nil => exact List.IsChain.nil
  | cons b rest ih =>
      have hRest :=
        ih fun later hLater =>
          hHigh later (List.mem_cons_of_mem _ hLater)
      have hFirst : ¬ b < 128 :=
        UInt8.not_lt.mpr (hHigh b List.mem_cons_self)
      cases rest with
      | nil => exact List.IsChain.singleton b
      | cons next rest =>
          exact
            List.IsChain.cons_cons
              (fun hAscii => absurd hAscii hFirst) hRest

theorem utf8EncodeChar_cuttable
    (c : Char) :
    Cuttable (String.utf8EncodeChar c) := by
  rcases utf8EncodeChar_cases c with
    ⟨b, hBytes, hAscii⟩ | ⟨first, rest, hBytes, hFirst, hRest⟩
  · rw [hBytes]
    exact
      ⟨by simpa using isContinuation_of_ascii hAscii,
        List.IsChain.singleton b⟩
  · rw [hBytes]
    refine
      ⟨by simpa using isContinuation_of_ge hFirst,
        isChain_of_high ?_⟩
    intro b hMember
    rcases List.mem_cons.mp hMember with hHere | hLater
    · rw [hHere]
      exact UInt8.le_trans (by decide) hFirst
    · exact hRest b hLater

theorem Cuttable.append
    {left right : List UInt8}
    (hLeft : Cuttable left)
    (hRight : Cuttable right) :
    Cuttable (left ++ right) := by
  refine ⟨?_, ?_⟩
  · intro b hHead
    cases left with
    | nil => exact hRight.first b hHead
    | cons first rest => exact hLeft.first b hHead
  · refine List.isChain_append.mpr
      ⟨hLeft.chain, hRight.chain, ?_⟩
    intro before _ after hAfter _
    exact hRight.first after hAfter

/- The bytes of a text can be cut around ASCII bytes. -/
theorem bytesOf_cuttable
    (s : String) :
    Cuttable (bytesOf s) := by
  rw [bytesOf_eq_flatMap]
  induction s.toList with
  | nil => exact ⟨by simp, List.IsChain.nil⟩
  | cons c rest ih =>
      rw [List.flatMap_cons]
      exact (utf8EncodeChar_cuttable c).append ih

end Scanner

end Devirt

------------------------------------------------------------
-- Bytes of Maps
------------------------------------------------------------

namespace Devirt

open Scanner

namespace Scanner

theorem length_run
    (s : State)
    (before bytes : List UInt8) :
    (run s before bytes).length = bytes.length := by
  induction bytes generalizing s before with
  | nil => rfl
  | cons b after ih => simp [run, ih]

theorem length_flags
    (bytes : List UInt8) :
    (flags bytes).length = bytes.length :=
  length_run State.initial [] bytes

end Scanner

namespace CodeMap

theorem bytes_ofBytes
    (bytes : List UInt8) :
    (ofBytes bytes).bytes = bytes := by
  unfold CodeMap.bytes ofBytes
  apply List.ext_getElem
  · simp [length_flags]
  · intro index hLeft hRight
    simp

theorem bytes_ofText
    (code : String) :
    (ofText code).bytes = bytesOf code :=
  bytes_ofBytes (bytesOf code)

theorem length_bytes
    (m : CodeMap) :
    m.bytes.length = m.size := by
  simp [CodeMap.bytes, size]

theorem byte?_eq_getElem?
    (m : CodeMap)
    (offset : Nat) :
    m.byte? offset = m.bytes[offset]? := by
  simp [byte?, CodeMap.bytes]

theorem lt_size_of_byte?
    {m : CodeMap}
    {offset : Nat}
    {b : UInt8}
    (hByte : m.byte? offset = some b) :
    offset < m.size := by
  rw [byte?_eq_getElem?] at hByte
  rw [← length_bytes]
  exact (List.getElem?_eq_some_iff.mp hByte).1

theorem exists_byte?
    {m : CodeMap}
    {offset : Nat}
    (hInside : offset < m.size) :
    ∃ b, m.byte? offset = some b := by
  rw [← length_bytes] at hInside
  exact
    ⟨m.bytes[offset], by
      rw [byte?_eq_getElem?, List.getElem?_eq_getElem]⟩

------------------------------------------------------------
-- Boundaries
------------------------------------------------------------

theorem cuttable_ofText
    (code : String) :
    Cuttable (ofText code).bytes := by
  rw [bytes_ofText]
  exact bytesOf_cuttable code

theorem isBoundary_zero
    {m : CodeMap}
    (hCut : Cuttable m.bytes) :
    m.isBoundary 0 = true := by
  unfold isBoundary
  rw [byte?_eq_getElem?, ← List.head?_eq_getElem?]
  cases hHead : m.bytes.head? with
  | none =>
      have hLength := length_bytes m
      rw [List.head?_eq_none_iff.mp hHead] at hLength
      simpa using hLength
  | some b => simp [hCut.first b hHead]

theorem isBoundary_size
    (m : CodeMap) :
    m.isBoundary m.size = true := by
  have hNone : m.byte? m.size = none := by
    rw [byte?_eq_getElem?, ← length_bytes]
    exact List.getElem?_eq_none (Nat.le_refl _)
  simp [isBoundary, hNone]

theorem le_size_of_isBoundary
    {m : CodeMap}
    {offset : Nat}
    (hBoundary : m.isBoundary offset = true) :
    offset ≤ m.size := by
  cases hByte : m.byte? offset with
  | none =>
      have hEnd : offset = m.size := by
        simpa [isBoundary, hByte] using hBoundary
      exact Nat.le_of_eq hEnd
  | some b => exact Nat.le_of_lt (lt_size_of_byte? hByte)

/- A script can be cut before an ASCII byte. -/
theorem isBoundary_of_ascii
    {m : CodeMap}
    {offset : Nat}
    {b : UInt8}
    (hByte : m.byte? offset = some b)
    (hAscii : b < 128) :
    m.isBoundary offset = true := by
  simp [isBoundary, hByte, isContinuation_of_ascii hAscii]

/- A script can be cut after an ASCII byte. -/
theorem isBoundary_succ_of_ascii
    {m : CodeMap}
    (hCut : Cuttable m.bytes)
    {offset : Nat}
    {b : UInt8}
    (hByte : m.byte? offset = some b)
    (hAscii : b < 128) :
    m.isBoundary (offset + 1) = true := by
  have hInside := lt_size_of_byte? hByte
  cases hNext : m.byte? (offset + 1) with
  | none =>
      rw [byte?_eq_getElem?, List.getElem?_eq_none_iff,
        length_bytes] at hNext
      have hEnd : offset + 1 = m.size := by omega
      rw [hEnd]
      exact isBoundary_size m
  | some next =>
      rw [byte?_eq_getElem?] at hByte hNext
      rcases List.getElem?_eq_some_iff.mp hByte with
        ⟨hHere, rfl⟩
      rcases List.getElem?_eq_some_iff.mp hNext with
        ⟨hThere, rfl⟩
      have hFollows :=
        List.isChain_iff_getElem.mp hCut.chain offset hThere
      simp [isBoundary, byte?_eq_getElem?, hThere,
        hFollows hAscii]

theorem slice_eq
    {m : CodeMap}
    {start stop : Nat}
    (hOrder : start ≤ stop)
    (hStart : m.isBoundary start = true)
    (hStop : m.isBoundary stop = true) :
    m.slice start stop =
      .ok (textOf ((m.bytes.drop start).take
        (stop - start))) := by
  simp [slice, hOrder, hStart, hStop]

end CodeMap

end Devirt
