import Devirt.Proofs.Source.Cutting

/-
  Replacing matches in code, whatever finds and replaces them.

  A loop goes over matches in the masked text with a cursor in
  the script.  A match that is not all code is passed over, and
  so is one that the replacer leaves alone; the cursor stays
  then.  The replacer may remember what it has seen.  However
  matches and answers come about, the result is the script with
  the chosen ranges replaced, and the loop breaks off just if
  one of them begins or ends inside a character.

  Main declarations:
    * `InsideCharacter`, `CodeMap.isBoundary_eq_false_iff`
    * `CodeMap.replaceFrom`, the loop
    * `CodeMap.chosen`, `CodeMap.chosen_sublist`
    * `CodeMap.replaceFrom_of_isWhole`,
      `CodeMap.replaceFrom_of_not_isWhole`
    * `Rule.apply_eq_replaceFrom`
    * `CodeMap.replaceFrom_replacesCode`
-/

------------------------------------------------------------
-- Inside of Characters
------------------------------------------------------------

namespace Devirt

open Scanner

/- An offset between the first and the last byte of one. -/
def InsideCharacter (code : String) (offset : Nat) : Prop :=
  ∃ left c right,
    code.toList = left ++ c :: right ∧
      (bytesOf (String.ofList left)).length < offset ∧
      offset <
        (bytesOf (String.ofList (left ++ [c]))).length

namespace Scanner

/- Every offset is between two characters or inside of one. -/
theorem between_or_inside
    (cs : List Char)
    {offset : Nat}
    (hOffset :
      offset ≤ (cs.flatMap String.utf8EncodeChar).length) :
    (∃ left right,
      cs = left ++ right ∧
        (left.flatMap String.utf8EncodeChar).length = offset) ∨
      ∃ left c right,
        cs = left ++ c :: right ∧
          (left.flatMap String.utf8EncodeChar).length < offset ∧
          offset <
            ((left ++ [c]).flatMap
              String.utf8EncodeChar).length := by
  induction cs generalizing offset with
  | nil =>
      exact Or.inl ⟨[], [], rfl, (Nat.le_zero.mp hOffset).symm⟩
  | cons c cs ih =>
      rw [List.flatMap_cons, List.length_append] at hOffset
      by_cases hZero : offset = 0
      · exact Or.inl ⟨[], c :: cs, rfl, hZero.symm⟩
      · by_cases hHere :
            offset < (String.utf8EncodeChar c).length
        · exact Or.inr ⟨[], c, cs, rfl,
            Nat.pos_of_ne_zero hZero, by simpa using hHere⟩
        · have hLater :
              offset - (String.utf8EncodeChar c).length ≤
                (cs.flatMap String.utf8EncodeChar).length := by
            omega
          rcases ih hLater with
            ⟨left, right, rfl, hLeft⟩ |
              ⟨left, d, right, rfl, hLeft, hRight⟩
          · refine Or.inl ⟨c :: left, right, rfl, ?_⟩
            rw [List.flatMap_cons, List.length_append]
            omega
          · refine Or.inr ⟨c :: left, d, right, rfl, ?_, ?_⟩
            · rw [List.flatMap_cons, List.length_append]
              omega
            · rw [List.cons_append, List.flatMap_cons,
                List.length_append]
              omega

end Scanner

namespace CodeMap

theorem length_bytesOf_ofList
    (cs : List Char) :
    (bytesOf (String.ofList cs)).length =
      (cs.flatMap String.utf8EncodeChar).length := by
  rw [bytesOf_eq_flatMap, String.toList_ofList]

/- The bytes behind some characters of a script. -/
theorem byte?_after_chars
    {code : String}
    {left right : List Char}
    (hSplit : code.toList = left ++ right)
    (i : Nat) :
    (ofText code).byte?
        ((left.flatMap String.utf8EncodeChar).length + i) =
      (right.flatMap String.utf8EncodeChar)[i]? := by
  rw [byte?_eq_getElem?, bytes_ofText, bytesOf_eq_flatMap,
    hSplit, List.flatMap_append,
    List.getElem?_append_right (Nat.le_add_right _ _),
    Nat.add_sub_cancel_left]

/- A script may be cut between any two of its characters. -/
theorem isBoundary_between
    {code : String}
    {left right : List Char}
    (hSplit : code.toList = left ++ right) :
    (ofText code).isBoundary
      (left.flatMap String.utf8EncodeChar).length = true := by
  have hByte := byte?_after_chars hSplit 0
  rw [Nat.add_zero, ← List.head?_eq_getElem?] at hByte
  have hFirst := (bytesOf_cuttable (String.ofList right)).first
  rw [bytesOf_eq_flatMap, String.toList_ofList] at hFirst
  unfold isBoundary
  rw [hByte]
  cases hHead :
      (right.flatMap String.utf8EncodeChar).head? with
  | some b => simp [hFirst b hHead]
  | none =>
      have hSize := length_bytes (ofText code)
      rw [bytes_ofText, bytesOf_eq_flatMap, hSplit,
        List.flatMap_append, List.head?_eq_none_iff.mp hHead,
        List.append_nil] at hSize
      simpa using hSize

/- Inside of a character, and only there, is no cut. -/
theorem isBoundary_eq_false_iff
    {code : String}
    {offset : Nat}
    (hOffset : offset ≤ (ofText code).size) :
    (ofText code).isBoundary offset = false ↔
      InsideCharacter code offset := by
  unfold InsideCharacter
  simp only [length_bytesOf_ofList]
  have hLength :
      offset ≤
        (code.toList.flatMap String.utf8EncodeChar).length := by
    rwa [← bytesOf_eq_flatMap, ← bytes_ofText, length_bytes]
  constructor
  · intro hNotCut
    rcases between_or_inside code.toList hLength with
      ⟨left, right, hSplit, rfl⟩ | hThere
    · rw [isBoundary_between hSplit] at hNotCut
      cases hNotCut
    · exact hThere
  · rintro ⟨left, c, right, hSplit, hLeft, hRight⟩
    obtain ⟨i, rfl⟩ := Nat.exists_eq_add_of_lt hLeft
    rw [List.flatMap_append, List.length_append,
      List.flatMap_singleton] at hRight
    have hShort : i + 1 < (String.utf8EncodeChar c).length := by
      omega
    have hByte := byte?_after_chars hSplit (i + 1)
    rw [List.flatMap_cons, List.getElem?_append_left hShort,
      List.getElem?_eq_getElem hShort] at hByte
    have hContinues :=
      isContinuation_inside (c := c) (Nat.succ_pos i)
        (List.getElem?_eq_getElem hShort)
    rw [Nat.add_assoc, isBoundary, hByte]
    simp only [hContinues, Bool.not_true]

end CodeMap

end Devirt

------------------------------------------------------------
-- Matches and Replacers
------------------------------------------------------------

namespace Devirt

open Scanner Pattern

/-
  Someone who answers a match with a text, or leaves it alone,
  and may remember what was asked.
-/
abbrev Replacer (σ : Type) := Match → StateM σ (Option String)

/- The ends of a match, and of an edit. -/
def Pattern.Match.range (found : Match) : Nat × Nat :=
  (found.start, found.stop)

def Edit.range (e : Edit) : Nat × Nat :=
  (e.start, e.stop)

/- Matches in a text of some size, each behind the others. -/
structure Ascend (size : Nat) (found : List Match) : Prop where
  inside : ∀ f ∈ found, f.start ≤ f.stop ∧ f.stop ≤ size
  apart :
    found.Pairwise fun first later => first.stop ≤ later.start

/- What a pattern finds ascends. -/
theorem Pattern.Lined.ascend
    {p : Pattern}
    {text : List Char}
    {offset : Nat}
    {found : List Match}
    (hLined : Lined p text offset found) :
    Ascend text.length found ∧
      ∀ f ∈ found, offset ≤ f.start := by
  induction hLined with
  | nil => exact ⟨⟨by simp, List.Pairwise.nil⟩, by simp⟩
  | @cons offset first later here there hAfter hLocated hLater
      ih =>
      have hOrder := hLocated.start_le_stop
      have hInside : first.stop ≤ text.length := by
        rw [hLocated.stop_eq]
        exact (hLocated.leads.onText hLocated.onText).inside
      refine ⟨⟨?_, ?_⟩, ?_⟩
      · exact List.forall_mem_cons.mpr
          ⟨⟨hOrder, hInside⟩, ih.1.inside⟩
      · exact List.pairwise_cons.mpr ⟨ih.2, ih.1.apart⟩
      · refine List.forall_mem_cons.mpr ⟨hAfter, ?_⟩
        intro f hMember
        exact Nat.le_trans (Nat.le_trans hAfter hOrder)
          (ih.2 f hMember)

namespace CodeMap

variable {σ : Type}
variable (m : CodeMap)
variable (replacer : Replacer σ)

/-
  The replacement of a match.  Only matches that are all code
  are asked for.
-/
def answerTo (found : Match) (memory : σ) : Option String × σ :=
  if m.isCodeBetween found.start found.stop then
    (replacer found).run memory
  else
    (none, memory)

/-
  The script from an offset on with matches replaced, and the
  number of those that were.
-/
def replaceFrom :
    Nat → List Match → σ → Except Fault (String × Nat)
  | offset, [], _ => do
    return (← m.slice offset m.size, 0)
  | offset, found :: later, memory =>
    match m.answerTo replacer found memory with
    | (none, memory) => replaceFrom offset later memory
    | (some text, memory) => do
      let kept ← m.slice offset found.start
      let (rest, count) ← replaceFrom found.stop later memory
      return (kept ++ (text ++ rest), count + 1)

/- The edits that the answers to matches amount to. -/
def chosen : List Match → σ → List Edit
  | [], _ => []
  | found :: later, memory =>
    match m.answerTo replacer found memory with
    | (none, memory) => chosen later memory
    | (some text, memory) =>
      ⟨found.start, found.stop, text⟩ :: chosen later memory

/- A match that is passed over changes nothing. -/
theorem replaceFrom_of_none
    {m : CodeMap}
    {replacer : Replacer σ}
    {found : Match}
    {memory after : σ}
    (offset : Nat)
    (later : List Match)
    (hNone : m.answerTo replacer found memory = (none, after)) :
    m.replaceFrom replacer offset (found :: later) memory =
        m.replaceFrom replacer offset later after ∧
      m.chosen replacer (found :: later) memory =
        m.chosen replacer later after := by
  rw [replaceFrom, chosen, hNone]
  exact ⟨rfl, rfl⟩

/- A match that is replaced moves the cursor behind it. -/
theorem replaceFrom_of_some
    {m : CodeMap}
    {replacer : Replacer σ}
    {found : Match}
    {memory after : σ}
    {text : String}
    (offset : Nat)
    (later : List Match)
    (hSome :
      m.answerTo replacer found memory = (some text, after)) :
    m.replaceFrom replacer offset (found :: later) memory =
        (do
          let kept ← m.slice offset found.start
          let (rest, count) ←
            m.replaceFrom replacer found.stop later after
          return (kept ++ (text ++ rest), count + 1)) ∧
      m.chosen replacer (found :: later) memory =
        ⟨found.start, found.stop, text⟩ ::
          m.chosen replacer later after := by
  rw [replaceFrom, chosen, hSome]
  exact ⟨rfl, rfl⟩

end CodeMap

end Devirt

------------------------------------------------------------
-- Chosen Edits
------------------------------------------------------------

namespace Devirt

open Scanner Pattern

namespace CodeMap

variable {σ : Type}
variable {m : CodeMap}
variable {replacer : Replacer σ}
variable {found : List Match}

/- The chosen ranges are some of those found, in order. -/
theorem chosen_sublist
    (found : List Match)
    (memory : σ) :
    ((m.chosen replacer found memory).map Edit.range).Sublist
      (found.map Match.range) := by
  induction found generalizing memory with
  | nil => exact List.Sublist.slnil
  | cons first later ih =>
      rcases hAnswer : m.answerTo replacer first memory with
        ⟨_ | text, after⟩
      · rw [(replaceFrom_of_none 0 later hAnswer).2]
        exact (ih after).cons _
      · rw [(replaceFrom_of_some 0 later hAnswer).2]
        exact (ih after).cons_cons _

/- Each edit is an answer to a match that is all code. -/
theorem mem_chosen
    {e : Edit}
    {memory : σ}
    (hMember : e ∈ m.chosen replacer found memory) :
    m.isCodeBetween e.start e.stop = true ∧
      ∃ f ∈ found, ∃ before : σ,
        f.range = e.range ∧
          ((replacer f).run before).1 =
            some e.replacement := by
  induction found generalizing memory with
  | nil => cases hMember
  | cons first later ih =>
      rcases hAnswer : m.answerTo replacer first memory with
        ⟨_ | text, after⟩
      · rw [(replaceFrom_of_none 0 later hAnswer).2] at hMember
        rcases ih hMember with ⟨hCode, f, hLater, hFound⟩
        exact ⟨hCode, f, List.mem_cons_of_mem _ hLater, hFound⟩
      · rw [(replaceFrom_of_some 0 later hAnswer).2] at hMember
        rcases List.mem_cons.mp hMember with rfl | hMember
        · unfold answerTo at hAnswer
          split_ifs at hAnswer with hCode
          · exact ⟨hCode, first, List.mem_cons_self, memory,
              rfl, congrArg Prod.fst hAnswer⟩
          · cases hAnswer
        · rcases ih hMember with ⟨hCode, f, hLater, hFound⟩
          exact
            ⟨hCode, f, List.mem_cons_of_mem _ hLater, hFound⟩

/- Each edit lies in the text in which matches were found. -/
theorem chosen_inside
    {size : Nat}
    {e : Edit}
    {memory : σ}
    (hFound : Ascend size found)
    (hMember : e ∈ m.chosen replacer found memory) :
    e.start ≤ e.stop ∧ e.stop ≤ size := by
  rcases mem_chosen hMember with ⟨-, f, hIn, -, hRange, -⟩
  have hInside := hFound.inside f hIn
  rcases Prod.mk.inj hRange with ⟨hStart, hStop⟩
  rwa [hStart, hStop] at hInside

/- No edit begins before the one before it ends. -/
theorem chosen_apart
    {size : Nat}
    (memory : σ)
    (hFound : Ascend size found) :
    (m.chosen replacer found memory).Pairwise
      fun first later => first.stop ≤ later.start := by
  have hRanges :
      (found.map Match.range).Pairwise
        fun first later => first.2 ≤ later.1 :=
    List.pairwise_map.mpr hFound.apart
  exact List.pairwise_map.mp
    (hRanges.sublist (chosen_sublist found memory))

theorem inOrder_of_pairwise
    {offset : Nat}
    {edits : List Edit}
    (hApart :
      edits.Pairwise
        fun first later => first.stop ≤ later.start)
    (hEach : ∀ e ∈ edits, offset ≤ e.start ∧ e.start ≤ e.stop) :
    inOrder offset edits = true := by
  induction edits generalizing offset with
  | nil => rfl
  | cons e later ih =>
      rcases List.pairwise_cons.mp hApart with ⟨hBehind, hRest⟩
      rcases List.forall_mem_cons.mp hEach with ⟨hHere, hLater⟩
      have hRestOrder : inOrder e.stop later = true :=
        ih hRest fun next hNext =>
          ⟨hBehind next hNext, (hLater next hNext).2⟩
      simp [inOrder, hHere, hRestOrder]

theorem chosen_inOrder
    {size : Nat}
    (memory : σ)
    (hFound : Ascend size found) :
    inOrder 0 (m.chosen replacer found memory) = true :=
  inOrder_of_pairwise (chosen_apart memory hFound)
    fun _ hMember =>
      ⟨Nat.zero_le _, (chosen_inside hFound hMember).1⟩

end CodeMap

end Devirt

------------------------------------------------------------
-- Replaced Texts
------------------------------------------------------------

namespace Devirt

open Scanner Pattern

namespace CodeMap

variable {σ : Type}
variable {code : String}
variable {replacer : Replacer σ}
variable {found : List Match}

/- Nothing can be cut off at a cursor inside a character. -/
theorem slice_of_not_isBoundary
    {m : CodeMap}
    {start stop : Nat}
    (hNotCut :
      ¬ (m.isBoundary start = true ∧ m.isBoundary stop = true)) :
    m.slice start stop = .error .splitCharacter := by
  unfold slice
  apply if_neg
  intro hCuts
  simp only [Bool.and_eq_true, decide_eq_true_eq] at hCuts
  exact hNotCut ⟨hCuts.1.2, hCuts.2⟩

/- A cursor inside a character breaks the loop off. -/
theorem replaceFrom_of_not_isBoundary
    {m : CodeMap}
    {offset : Nat}
    (found : List Match)
    (memory : σ)
    (hNotCut : m.isBoundary offset = false) :
    m.replaceFrom replacer offset found memory =
      .error .splitCharacter := by
  have hSlice (stop : Nat) :
      m.slice offset stop = .error .splitCharacter :=
    slice_of_not_isBoundary (by simp [hNotCut])
  induction found generalizing memory with
  | nil =>
      rw [replaceFrom, hSlice]
      rfl
  | cons first later ih =>
      rcases hAnswer : m.answerTo replacer first memory with
        ⟨_ | text, after⟩
      · rw [(replaceFrom_of_none offset later hAnswer).1]
        exact ih after
      · rw [(replaceFrom_of_some offset later hAnswer).1, hSlice]
        rfl

/- An edit inside of characters breaks the loop off. -/
theorem replaceFrom_of_not_isWhole
    {m : CodeMap}
    (offset : Nat)
    (found : List Match)
    (memory : σ)
    (hSplit :
      ¬ ∀ e ∈ m.chosen replacer found memory,
        m.isWhole e = true) :
    m.replaceFrom replacer offset found memory =
      .error .splitCharacter := by
  induction found generalizing offset memory with
  | nil => exact absurd (by simp [chosen]) hSplit
  | cons first later ih =>
      rcases hAnswer : m.answerTo replacer first memory with
        ⟨_ | text, after⟩
      · rcases replaceFrom_of_none offset later hAnswer with
          ⟨hLoop, hChosen⟩
        rw [hChosen] at hSplit
        rw [hLoop]
        exact ih offset after hSplit
      · rcases replaceFrom_of_some offset later hAnswer with
          ⟨hLoop, hChosen⟩
        rw [hChosen, List.forall_mem_cons] at hSplit
        rw [hLoop]
        have hRest :
            m.slice offset first.start = .error .splitCharacter ∨
              m.replaceFrom replacer first.stop later after =
                .error .splitCharacter := by
          by_cases hStart : m.isBoundary first.start = true
          · by_cases hStop : m.isBoundary first.stop = true
            · refine Or.inr (ih first.stop after ?_)
              intro hLater
              exact hSplit
                ⟨by simp [isWhole, hStart, hStop], hLater⟩
            · exact Or.inr
                (replaceFrom_of_not_isBoundary later after
                  (by simpa using hStop))
          · exact Or.inl
              (slice_of_not_isBoundary fun hCuts =>
                hStart hCuts.2)
        rcases hRest with hSlice | hLater
        · rw [hSlice]
          rfl
        · rw [hLater]
          cases hSlice : m.slice offset first.start with
          | ok kept => rfl
          | error fault =>
              unfold slice at hSlice
              split_ifs at hSlice
              cases hSlice
              rfl

/- Edits of whole characters are made, and counted. -/
theorem replaceFrom_of_isWhole
    {offset : Nat}
    (found : List Match)
    (memory : σ)
    (hOffset : (ofText code).isBoundary offset = true)
    (hOrder :
      inOrder offset
        ((ofText code).chosen replacer found memory) = true)
    (hWhole :
      ∀ e ∈ (ofText code).chosen replacer found memory,
        (ofText code).isWhole e = true) :
    ∃ text,
      (ofText code).replaceFrom replacer offset found memory =
          .ok (text,
            ((ofText code).chosen replacer found
              memory).length) ∧
        bytesOf text =
          editedFrom offset ((bytesOf code).drop offset)
            ((ofText code).chosen replacer found memory) := by
  induction found generalizing offset memory with
  | nil =>
      have hSize := le_size_of_isBoundary hOffset
      rcases exists_slice hSize hOffset (isBoundary_size _) with
        ⟨text, hSlice, hBytes⟩
      refine ⟨text, ?_, ?_⟩
      · rw [replaceFrom, hSlice]
        rfl
      · rw [hBytes, ← length_bytes, bytes_ofText,
          List.take_of_length_le (by simp)]
        rfl
  | cons first later ih =>
      rcases hAnswer :
          (ofText code).answerTo replacer first memory with
        ⟨_ | text, after⟩
      · rcases replaceFrom_of_none offset later hAnswer with
          ⟨hLoop, hChosen⟩
        rw [hChosen] at hOrder hWhole ⊢
        rw [hLoop]
        exact ih after hOffset hOrder hWhole
      · rcases replaceFrom_of_some offset later hAnswer with
          ⟨hLoop, hChosen⟩
        rw [hChosen] at hOrder hWhole ⊢
        rw [hLoop]
        rcases List.forall_mem_cons.mp hWhole with
          ⟨hHere, hLater⟩
        rcases Bool.and_eq_true_iff.mp hHere with
          ⟨hStart, hStop⟩
        simp only [inOrder, Bool.and_eq_true, decide_eq_true_eq]
          at hOrder
        rcases hOrder with ⟨⟨hAfter, hLonger⟩, hOrder⟩
        rcases exists_slice hAfter hOffset hStart with
          ⟨kept, hSlice, hKept⟩
        rcases ih after hStop hOrder hLater with
          ⟨rest, hRest, hBytes⟩
        refine ⟨kept ++ (text ++ rest), ?_, ?_⟩
        · rw [hSlice, hRest]
          rfl
        · have hSkip :
              offset + (first.stop - offset) = first.stop := by
            omega
          rw [bytesOf_append, bytesOf_append, hKept, hBytes,
            editedFrom, List.drop_drop, hSkip,
            List.append_assoc]

end CodeMap

end Devirt

------------------------------------------------------------
-- What Is Kept
------------------------------------------------------------

namespace Devirt

open Scanner Pattern

namespace CodeMap

theorem isCodeBetween_iff
    {m : CodeMap}
    {start stop : Nat} :
    m.isCodeBetween start stop = true ↔
      ∀ c ∈ (m.cells.toList.drop start).take (stop - start),
        c.isCode = true := by
  rw [isCodeBetween, ← Array.all_toList, Array.toList_extract,
    List.all_eq_true]

/- Every byte of an edit is code. -/
theorem isCode_of_isCodeBetween
    {m : CodeMap}
    {start stop offset : Nat}
    (hCode : m.isCodeBetween start stop = true)
    (hFrom : start ≤ offset)
    (hTo : offset < stop)
    (hInside : stop ≤ m.size) :
    m.isCode offset = true := by
  rcases exists_byte? (Nat.lt_of_lt_of_le hTo hInside) with
    ⟨b, hByte⟩
  have hCell := (masked_of_code hCode hFrom hTo hByte).1
  unfold HasCode at hCell
  rw [isCode, hCell]

theorem literalBytes_append
    (left right : List Cell) :
    literalBytes (left ++ right) =
      literalBytes left ++ literalBytes right := by
  simp [literalBytes]

/- The bytes that are not code are some of all. -/
theorem literalBytes_sublist
    (cells : List Cell) :
    (literalBytes cells).Sublist (cells.map (·.byte)) :=
  List.Sublist.map _ List.filter_sublist

/- Edits in code keep what is not code. -/
theorem literalBytes_sublist_editedFrom
    {m : CodeMap}
    {edits : List Edit}
    {offset : Nat}
    (hOrder : inOrder offset edits = true)
    (hCode :
      ∀ e ∈ edits, m.isCodeBetween e.start e.stop = true) :
    (literalBytes (m.cells.toList.drop offset)).Sublist
      (editedFrom offset (m.bytes.drop offset) edits) := by
  induction edits generalizing offset with
  | nil =>
      rw [editedFrom, CodeMap.bytes, ← List.map_drop]
      exact literalBytes_sublist _
  | cons e later ih =>
      rcases List.forall_mem_cons.mp hCode with ⟨hHere, hLater⟩
      simp only [inOrder, Bool.and_eq_true, decide_eq_true_eq]
        at hOrder
      rcases hOrder with ⟨⟨hAfter, hLonger⟩, hOrder⟩
      have hReplaced :
          literalBytes
            ((m.cells.toList.drop e.start).take
              (e.stop - e.start)) = [] := by
        rw [literalBytes, List.map_eq_nil_iff,
          List.filter_eq_nil_iff]
        intro c hMember
        simp [isCodeBetween_iff.mp hHere c hMember]
      have hKept :=
        literalBytes_sublist
          ((m.cells.toList.drop offset).take
            (e.start - offset))
      rw [List.map_take, List.map_drop] at hKept
      have hSkip : offset + (e.stop - offset) = e.stop := by
        omega
      rw [Rule.drop_eq_parts _ hAfter hLonger,
        literalBytes_append, literalBytes_append, hReplaced,
        List.nil_append, editedFrom, List.drop_drop, hSkip]
      exact
        (hKept.trans (List.sublist_append_left _ _)).append
          (ih hOrder hLater)

end CodeMap

end Devirt

------------------------------------------------------------
-- Rules
------------------------------------------------------------

namespace Devirt

open Scanner Pattern CodeMap

namespace Rule

/- The replacements of a rule, which remembers nothing. -/
def replacer (r : Rule) (m : CodeMap) : Replacer Unit :=
  fun found =>
    return (r.replace m.masked found).map String.ofList

/- The answer of a rule is the text of its edit. -/
theorem answerTo_replacer
    (r : Rule)
    (m : CodeMap)
    (found : Match) :
    m.answerTo (r.replacer m) found () =
      ((r.edit? m found).map (·.replacement), ()) := by
  unfold answerTo edit? replacer
  by_cases hCode :
      m.isCodeBetween found.start found.stop = true
  · rw [if_pos hCode, if_pos hCode]
    cases r.replace m.masked found with
    | none => rfl
    | some cs => rfl
  · rw [if_neg hCode, if_neg hCode]
    rfl

theorem eq_of_edit?
    {r : Rule}
    {m : CodeMap}
    {found : Match}
    {e : Edit}
    (hEdit : r.edit? m found = some e) :
    e = ⟨found.start, found.stop, e.replacement⟩ := by
  unfold edit? at hEdit
  split_ifs at hEdit
  rcases Option.map_eq_some_iff.mp hEdit with ⟨cs, -, rfl⟩
  rfl

theorem chosen_eq_filterMap
    (r : Rule)
    (m : CodeMap)
    (found : List Match) :
    m.chosen (r.replacer m) found () =
      found.filterMap (r.edit? m) := by
  induction found with
  | nil => rfl
  | cons first later ih =>
      rw [chosen, answerTo_replacer]
      cases hEdit : r.edit? m first with
      | none =>
          rw [List.filterMap_cons_none hEdit]
          exact ih
      | some e =>
          rw [List.filterMap_cons_some hEdit, ← ih,
            eq_of_edit? hEdit]
          rfl

/- To apply a rule is to replace what its pattern finds. -/
theorem apply_eq_replaceFrom
    (r : Rule)
    (code : String) :
    let m := ofText code
    r.apply code =
      m.replaceFrom (r.replacer m) 0
        (r.pattern.all m.masked) () := by
  intro m
  have hChosen :
      m.chosen (r.replacer m) (r.pattern.all m.masked) () =
        r.edits m :=
    r.chosen_eq_filterMap m _
  by_cases hWhole : ∀ e ∈ r.edits m, m.isWhole e = true
  · have hOrder :
        inOrder 0
          (m.chosen (r.replacer m) (r.pattern.all m.masked)
            ()) = true := by
      rw [hChosen]
      exact r.edits_inOrder m
    have hAllWhole :
        ∀ e ∈ m.chosen (r.replacer m) (r.pattern.all m.masked)
            (),
          m.isWhole e = true := by
      rwa [hChosen]
    rcases replaceFrom_of_isWhole _ _
        (isBoundary_zero (cuttable_ofText code)) hOrder
        hAllWhole with
      ⟨text, hLoop, hBytes⟩
    rw [hChosen, List.drop_zero] at hBytes
    have hText : text = r.edited code := by
      rw [Rule.edited, bytes_ofText, ← hBytes, textOf_bytesOf]
    rw [apply_of_isWhole hWhole, hLoop, hChosen, hText]
  · rw [apply_of_not_isWhole hWhole,
      replaceFrom_of_not_isWhole 0 _ () (by rwa [hChosen])]

end Rule

end Devirt

------------------------------------------------------------
-- Replacements
------------------------------------------------------------

namespace Devirt

open Scanner Pattern CodeMap

/-
  What replacing matches in a script by some edits amounts to.
-/
structure Replaces
    (code : String)
    (found : List Match)
    (edits : List Edit)
    (outcome : Except Fault (String × Nat)) :
    Prop where
  /- the ranges are some of those found, in order and apart -/
  ranges :
    (edits.map Edit.range).Sublist (found.map Match.range)
  apart :
    edits.Pairwise fun first later => first.stop ≤ later.start
  /- every one of them lies in the script and is all code -/
  allCode :
    ∀ e ∈ edits,
      e.start ≤ e.stop ∧ e.stop ≤ (ofText code).size ∧
        ∀ offset, e.start ≤ offset → offset < e.stop →
          (ofText code).isCode offset = true
  /- they are replaced, and all else is kept where it was -/
  result :
    ∀ text count, outcome = .ok (text, count) →
      count = edits.length ∧
        Rewrites 0 edits code text ∧
        (literalBytes (ofText code).cells.toList).Sublist
          (bytesOf text)
  /- it breaks off at the ends inside of characters alone -/
  breaksOff :
    ∀ fault, outcome = .error fault ↔
      fault = .splitCharacter ∧
        ∃ e ∈ edits,
          InsideCharacter code e.start ∨
            InsideCharacter code e.stop
  ascii :
    IsAscii (bytesOf code) → ∃ result, outcome = .ok result

namespace CodeMap

variable {σ : Type}

/- An edit that is not whole ends inside of a character. -/
theorem not_isWhole_iff
    {code : String}
    {e : Edit}
    (hOrder : e.start ≤ e.stop)
    (hInside : e.stop ≤ (ofText code).size) :
    ¬ (ofText code).isWhole e = true ↔
      InsideCharacter code e.start ∨
        InsideCharacter code e.stop := by
  rw [← isBoundary_eq_false_iff (Nat.le_trans hOrder hInside),
    ← isBoundary_eq_false_iff hInside, isWhole,
    Bool.and_eq_true, not_and_or, Bool.not_eq_true,
    Bool.not_eq_true]

/- The masked text has one byte for each byte of the script. -/
theorem bytesOf_masked
    (m : CodeMap) :
    bytesOf (String.ofList m.masked) = m.masked.map byte :=
  bytesOf_ofList m.small_masked

/- Edits of whole characters rewrite the code of a script. -/
theorem replaceFrom_rewrites
    {code : String}
    {replacer : Replacer σ}
    {memory : σ}
    {found : List Match}
    (hOrder :
      inOrder 0
        ((ofText code).chosen replacer found memory) = true)
    (hWhole :
      ∀ e ∈ (ofText code).chosen replacer found memory,
        (ofText code).isWhole e = true) :
    ∃ text,
      (ofText code).replaceFrom replacer 0 found memory =
          .ok (text,
            ((ofText code).chosen replacer found
              memory).length) ∧
        Rewrites 0 ((ofText code).chosen replacer found memory)
          code text ∧
        (literalBytes (ofText code).cells.toList).Sublist
          (bytesOf text) := by
  have hStart : (ofText code).isBoundary 0 = true :=
    isBoundary_zero (cuttable_ofText code)
  rcases replaceFrom_of_isWhole found memory hStart hOrder
      hWhole with
    ⟨text, hLoop, hBytes⟩
  rcases rewrites_of_isWhole hOrder hWhole hStart
      (List.drop_zero (l := bytesOf code)).symm with
    ⟨same, hRewrites, hSame⟩
  rw [List.drop_zero] at hBytes
  obtain rfl : text = same :=
    bytesOf_injective (hBytes.trans hSame.symm)
  refine ⟨text, hLoop, hRewrites, ?_⟩
  have hLiterals :=
    literalBytes_sublist_editedFrom hOrder
      fun e hMember => (mem_chosen hMember).1
  rwa [List.drop_zero, List.drop_zero, bytes_ofText,
    ← hBytes] at hLiterals

/- The loop replaces what was chosen, and breaks off else. -/
theorem replaceFrom_replaces
    {code : String}
    {found : List Match}
    (replacer : Replacer σ)
    (memory : σ)
    (hFound : Ascend (ofText code).size found) :
    Replaces code found
      ((ofText code).chosen replacer found memory)
      ((ofText code).replaceFrom replacer 0 found memory) := by
  have hOrder :
      inOrder 0
        ((ofText code).chosen replacer found memory) = true :=
    chosen_inOrder memory hFound
  have hSplit :
      (∃ e ∈ (ofText code).chosen replacer found memory,
          InsideCharacter code e.start ∨
            InsideCharacter code e.stop) ↔
        ¬ ∀ e ∈ (ofText code).chosen replacer found memory,
          (ofText code).isWhole e = true := by
    rw [Classical.not_forall]
    simp only [Classical.not_imp]
    apply exists_congr
    intro e
    apply and_congr_right
    intro hMember
    have hInside := chosen_inside hFound hMember
    exact (not_isWhole_iff hInside.1 hInside.2).symm
  have hAllCode :
      ∀ e ∈ (ofText code).chosen replacer found memory,
        e.start ≤ e.stop ∧ e.stop ≤ (ofText code).size ∧
          ∀ offset, e.start ≤ offset → offset < e.stop →
            (ofText code).isCode offset = true := by
    intro e hMember
    have hInside := chosen_inside hFound hMember
    exact ⟨hInside.1, hInside.2, fun _ hFrom hTo =>
      isCode_of_isCodeBetween (mem_chosen hMember).1 hFrom hTo
        hInside.2⟩
  by_cases hWhole :
      ∀ e ∈ (ofText code).chosen replacer found memory,
        (ofText code).isWhole e = true
  · rcases replaceFrom_rewrites hOrder hWhole with
      ⟨text, hLoop, hKept⟩
    rw [hLoop]
    refine ⟨chosen_sublist found memory,
      chosen_apart memory hFound, hAllCode, ?_, ?_,
      fun _ => ⟨_, rfl⟩⟩
    · intro result count hResult
      cases hResult
      exact ⟨rfl, hKept⟩
    · intro fault
      rw [hSplit]
      exact iff_of_false nofun fun hBroken => hBroken.2 hWhole
  · rw [replaceFrom_of_not_isWhole 0 found memory hWhole]
    refine ⟨chosen_sublist found memory,
      chosen_apart memory hFound, hAllCode, ?_, ?_, ?_⟩
    · intro result count hResult
      cases hResult
    · intro fault
      rw [hSplit]
      constructor
      · rintro ⟨⟩
        exact ⟨rfl, hWhole⟩
      · rintro ⟨rfl, -⟩
        rfl
    · intro hAscii
      refine absurd ?_ hWhole
      intro e hMember
      have hInside := chosen_inside hFound hMember
      exact Bool.and_eq_true_iff.mpr
        ⟨isBoundary_of_isAscii hAscii
            (Nat.le_trans hInside.1 hInside.2),
          isBoundary_of_isAscii hAscii hInside.2⟩

/-
  Whatever finds matches in the masked text of a script, one
  behind the other, and whatever replaces them: the chosen
  ranges are all code, and what is between them is kept.  The
  rules of the project do just that with what their patterns
  find.
-/
theorem replaceFrom_replacesCode
    (code : String)
    (replacer : Replacer σ)
    (memory : σ)
    (found : List Match)
    (hFound : Ascend (ofText code).masked.length found) :
    let m := ofText code
    (bytesOf (String.ofList m.masked)).length =
        (bytesOf code).length ∧
      Replaces code found (m.chosen replacer found memory)
        (m.replaceFrom replacer 0 found memory) ∧
      (∀ e ∈ m.chosen replacer found memory,
        ∃ f ∈ found, ∃ before : σ,
          f.range = e.range ∧
            ((replacer f).run before).1 =
              some e.replacement) ∧
      ∀ r : Rule,
        Ascend m.masked.length (r.pattern.all m.masked) ∧
          r.apply code =
            m.replaceFrom (r.replacer m) 0
              (r.pattern.all m.masked) () := by
  intro m
  refine ⟨?_, ?_, ?_, ?_⟩
  · rw [bytesOf_masked, List.length_map, length_masked,
      ← length_bytes, bytes_ofText]
  · rw [length_masked] at hFound
    exact replaceFrom_replaces replacer memory hFound
  · intro e hMember
    exact (mem_chosen hMember).2
  · intro r
    exact ⟨(all_lined _ _).ascend.1, r.apply_eq_replaceFrom code⟩

/- A replacer that numbers the matches it is asked for. -/
def numbering : Replacer Nat := fun _ =>
  modifyGet fun next => (some (toString next), next + 1)

/- The match inside of a literal is not asked for. -/
theorem numbering_replacesCode :
    let code := "a+'b'+c"
    let m := ofText code
    let found : List Match :=
      [⟨0, 1, []⟩, ⟨3, 4, []⟩, ⟨6, 7, []⟩]
    Ascend m.masked.length found ∧
      m.replaceFrom numbering 0 found 0 =
        .ok ("0+'b'+1", 2) ∧
      Replaces code found (m.chosen numbering found 0)
        (.ok ("0+'b'+1", 2)) := by
  intro code m found
  have hFound : Ascend m.masked.length found :=
    ⟨by decide +kernel, by decide +kernel⟩
  have hResult :
      m.replaceFrom numbering 0 found 0 =
        .ok ("0+'b'+1", 2) := by
    decide +kernel
  have hReplaces :=
    (replaceFrom_replacesCode code numbering 0 found hFound).2.1
  rw [hResult] at hReplaces
  exact ⟨hFound, hResult, hReplaces⟩

end CodeMap

end Devirt
