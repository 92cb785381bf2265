import Devirt.Proofs.Source.Scanner
import Devirt.Source.Edit

/-
  Scripts of ASCII characters.

  Such a script has one byte for each character.  It can be
  cut anywhere, and its masked text shows all of its code.

  Main declarations:
    * `Scanner.IsAscii`, `Scanner.bytesOf_ofList`
    * `CodeMap.textOf_bytesOf`, `CodeMap.bytesOf_textOf`
    * `CodeMap.masked_ascii`, `CodeMap.hasCode_of_masked`,
      `CodeMap.cellsBetween_eq_part`
-/

------------------------------------------------------------
-- Texts
------------------------------------------------------------

namespace Devirt

namespace Scanner

def IsAscii (bytes : List UInt8) : Prop :=
  ∀ b ∈ bytes, b < 128

instance (bytes : List UInt8) : Decidable (IsAscii bytes) :=
  List.decidableBAll _ bytes

theorem byte_ascii
    {c : Char}
    (hAscii : c.toNat < 128) :
    byte c < 128 := by
  rw [byte, UInt8.lt_iff_toNat_lt]
  simp
  omega

/- ASCII characters are told apart by their bytes. -/
theorem byte_injective
    {c d : Char}
    (hLeft : c.toNat < 128)
    (hRight : d.toNat < 128)
    (hSame : byte c = byte d) :
    c = d := by
  have hNumbers := congrArg UInt8.toNat hSame
  simp only [byte, Nat.toUInt8_eq, UInt8.toNat_ofNat']
    at hNumbers
  apply Char.ext
  apply UInt32.toNat_inj.mp
  change c.toNat = d.toNat
  omega

/- The character of an ASCII byte. -/
theorem byte_ofNat
    {b : UInt8}
    (hAscii : b < 128) :
    (Char.ofNat b.toNat).toNat < 128 ∧
      byte (Char.ofNat b.toNat) = b := by
  have hSmall : b.toNat < 128 :=
    UInt8.lt_iff_toNat_lt.mp hAscii
  have hValid : b.toNat.isValidChar := Or.inl (by omega)
  have hValue : (Char.ofNat b.toNat).toNat = b.toNat := by
    rw [Char.ofNat, dif_pos hValid]
    rfl
  rw [byte, hValue]
  exact ⟨hSmall, UInt8.ofNat_toNat⟩

theorem utf8EncodeChar_ascii
    {c : Char}
    (hAscii : c.toNat < 128) :
    String.utf8EncodeChar c = [byte c] := by
  have hShort : c.toNat ≤ 127 := Nat.le_of_lt_succ hAscii
  simp [String.utf8EncodeChar, hShort, byte]

theorem bytesOf_ofList
    {cs : List Char}
    (hAscii : ∀ c ∈ cs, c.toNat < 128) :
    bytesOf (String.ofList cs) = cs.map byte := by
  rw [bytesOf_eq_flatMap, String.toList_ofList]
  induction cs with
  | nil => rfl
  | cons c rest ih =>
      rcases List.forall_mem_cons.mp hAscii with
        ⟨hFirst, hRest⟩
      rw [List.flatMap_cons, utf8EncodeChar_ascii hFirst,
        ih hRest]
      rfl

end Scanner

namespace CodeMap

open Scanner

theorem textOf_bytesOf
    (s : String) :
    textOf (bytesOf s) = s := by
  have hBytes :
      (⟨(bytesOf s).toArray⟩ : ByteArray) = s.toByteArray := by
    unfold bytesOf ByteArray.toList
    rw [toList_loop_eq_append]
    rfl
  unfold textOf String.fromUTF8?
  rw [hBytes, dif_pos s.isValidUTF8]
  rfl

/- ASCII bytes are a text. -/
theorem bytesOf_textOf
    {bytes : List UInt8}
    (hAscii : IsAscii bytes) :
    bytesOf (textOf bytes) = bytes := by
  have hText :
      bytesOf
          (String.ofList
            (bytes.map fun b => Char.ofNat b.toNat)) =
        bytes := by
    rw [bytesOf_ofList]
    · have hSame :
          ∀ b ∈ bytes, byte (Char.ofNat b.toNat) = b :=
        fun b hByte => (byte_ofNat (hAscii b hByte)).2
      rw [List.map_map]
      exact (List.map_congr_left hSame).trans (List.map_id _)
    · intro c hMember
      rcases List.mem_map.mp hMember with ⟨b, hByte, rfl⟩
      exact (byte_ofNat (hAscii b hByte)).1
  rw [← hText, textOf_bytesOf, hText]

end CodeMap

end Devirt

------------------------------------------------------------
-- Maps
------------------------------------------------------------

namespace Devirt

open Scanner

namespace CodeMap

/- A script of ASCII characters can be cut anywhere. -/
theorem isBoundary_of_isAscii
    {bytes : List UInt8}
    {offset : Nat}
    (hAscii : IsAscii bytes)
    (hInside : offset ≤ (ofBytes bytes).size) :
    (ofBytes bytes).isBoundary offset = true := by
  rcases Nat.lt_or_eq_of_le hInside with hLess | rfl
  · rcases exists_byte? hLess with ⟨b, hByte⟩
    apply isBoundary_of_ascii hByte
    rw [byte?_eq_getElem?, bytes_ofBytes] at hByte
    exact hAscii b (List.mem_of_getElem? hByte)
  · exact isBoundary_size _

theorem mask_ascii
    {c : Cell}
    (hByte : c.byte < 128) :
    (Cell.mask c).toNat < 128 ∧
      (c.isCode = true →
        Cell.mk (byte (Cell.mask c)) true = c) := by
  unfold Cell.mask
  split_ifs with hShown
  · refine ⟨(byte_ofNat hByte).1, ?_⟩
    intro hCode
    rw [(byte_ofNat hByte).2, ← hCode]
  · refine ⟨by decide, ?_⟩
    intro hCode
    simp [hCode, hByte] at hShown

theorem mem_cells_ofBytes
    {bytes : List UInt8}
    {c : Cell}
    (hMember : c ∈ (ofBytes bytes).cells.toList) :
    c.byte ∈ bytes := by
  have hByte := List.mem_map_of_mem (f := Cell.byte) hMember
  have hBytes := bytes_ofBytes bytes
  unfold CodeMap.bytes at hBytes
  rwa [hBytes] at hByte

theorem masked_ascii
    {bytes : List UInt8}
    (hAscii : IsAscii bytes) :
    ∀ c ∈ (ofBytes bytes).masked, c.toNat < 128 := by
  intro c hMember
  rcases List.mem_map.mp hMember with ⟨cell, hCell, rfl⟩
  exact
    (mask_ascii (hAscii _ (mem_cells_ofBytes hCell))).1

/- A character that is not blank shows a byte of code. -/
theorem hasCode_of_masked
    {m : CodeMap}
    {offset : Nat}
    {c : Char}
    (hChar : m.masked[offset]? = some c)
    (hNotBlank : c ≠ ' ') :
    m.HasCode offset (byte c) ∧ byte c < 128 := by
  rw [masked, List.getElem?_map, Array.getElem?_toList]
    at hChar
  rcases Option.map_eq_some_iff.mp hChar with
    ⟨⟨b, isCode⟩, hCell, hMask⟩
  unfold Cell.mask at hMask
  split_ifs at hMask with hShown
  · have hFlags : isCode = true ∧ b < 128 := by
      simpa using hShown
    rcases hFlags with ⟨rfl, hAscii⟩
    have hByte : byte c = b := by
      rw [← hMask]
      exact (byte_ofNat hAscii).2
    rw [hByte]
    exact ⟨hCell, hAscii⟩
  · exact absurd hMask.symm hNotBlank

/- The cells of bytes that are all code. -/
def codeCells (bytes : List UInt8) : List Cell :=
  bytes.map (Cell.mk · true)

@[simp]
theorem codeCells_cons
    (b : UInt8)
    (rest : List UInt8) :
    codeCells (b :: rest) = ⟨b, true⟩ :: codeCells rest :=
  rfl

@[simp]
theorem codeCells_bytes
    (bytes : List UInt8) :
    (codeCells bytes).map (·.byte) = bytes := by
  simp [codeCells, Function.comp_def]

theorem codeCells_append
    (left right : List UInt8) :
    codeCells (left ++ right) =
      codeCells left ++ codeCells right :=
  List.map_append

/-
  Where everything is code, the masked text shows the bytes of
  the script.
-/
theorem cellsBetween_eq_part
    {bytes : List UInt8}
    {start stop : Nat}
    (hAscii : IsAscii bytes)
    (hCode : (ofBytes bytes).isCodeBetween start stop = true) :
    ((ofBytes bytes).cells.toList.drop start).take
        (stop - start) =
      codeCells
        ((Pattern.part (ofBytes bytes).masked start stop).map
          byte) := by
  unfold isCodeBetween at hCode
  rw [← Array.all_toList, Array.toList_extract] at hCode
  unfold Pattern.part masked codeCells
  rw [← List.map_drop, ← List.map_take, List.map_map,
    List.map_map]
  have hSame :
      ∀ c ∈ ((ofBytes bytes).cells.toList.drop start).take
          (stop - start),
        Cell.mk (byte (Cell.mask c)) true = c := by
    intro c hMember
    have hCell :=
      List.mem_of_mem_drop (List.mem_of_mem_take hMember)
    exact
      (mask_ascii (hAscii _ (mem_cells_ofBytes hCell))).2
        (List.all_eq_true.mp hCode c hMember)
  exact ((List.map_congr_left hSame).trans (List.map_id _)).symm

theorem bytesBetween_eq_part
    {bytes : List UInt8}
    {start stop : Nat}
    (hAscii : IsAscii bytes)
    (hCode : (ofBytes bytes).isCodeBetween start stop = true) :
    (bytes.drop start).take (stop - start) =
      (Pattern.part (ofBytes bytes).masked start stop).map
        byte := by
  have hCells :=
    congrArg (List.map Cell.byte)
      (cellsBetween_eq_part hAscii hCode)
  rw [codeCells_bytes, List.map_take, List.map_drop] at hCells
  rw [← hCells]
  nth_rewrite 1 [← bytes_ofBytes bytes]
  rfl

end CodeMap

end Devirt
