/-
  Blank characters and the trimming of texts.

  A character is blank when it has the Unicode property `White_Space`.  Texts are
  trimmed as lists of characters, so what is left is a sublist of what was given.

  Key definitions include:
    * `Text.isBlank`
    * `Text.trimStart`, `Text.trimEnd`, `Text.trim`, `Text.trim_surrounded`
    * `Text.isBlankText`
-/

namespace Devirt

namespace Text

------------------------------------------------------------
-- Blank Characters
------------------------------------------------------------

/-
  The characters with the property `White_Space`.
-/
def isBlank (c : Char) : Bool :=
  let n := c.toNat
  (9 ≤ n && n ≤ 13) || n == 0x20 || n == 0x85 || n == 0xA0 || n == 0x1680
    || (0x2000 ≤ n && n ≤ 0x200A) || n == 0x2028 || n == 0x2029
    || n == 0x202F || n == 0x205F || n == 0x3000

------------------------------------------------------------
-- Trimming
------------------------------------------------------------

/-
  Drops the blank characters at the end of a list.
-/
def dropEnd
    (p : Char → Bool)
    (cs : List Char) :
    List Char :=
  (cs.reverse.dropWhile p).reverse

def trimStart (s : String) : String :=
  String.ofList (s.toList.dropWhile isBlank)

def trimEnd (s : String) : String :=
  String.ofList (dropEnd isBlank s.toList)

def trim (s : String) : String :=
  String.ofList (dropEnd isBlank (s.toList.dropWhile isBlank))

/-
  A text with nothing but blank characters.
-/
def isBlankText (s : String) : Bool :=
  s.toList.all isBlank

/-
  The text without any blank character.
-/
def squeeze (s : String) : String :=
  String.ofList (s.toList.filter fun c => !isBlank c)

/- What begins with no blank keeps its beginning. -/
theorem dropWhile_isBlank
    {cs : List Char}
    (hNone : ∀ c ∈ cs, isBlank c = false) :
    cs.dropWhile isBlank = cs := by
  cases cs with
  | nil => rfl
  | cons c cs =>
      rw [List.dropWhile_cons_of_neg]
      simp [hNone c List.mem_cons_self]

/- The blanks around a text without blanks are all that is trimmed. -/
theorem trim_surrounded
    {before cs after : List Char}
    (hBefore : ∀ c ∈ before, isBlank c = true)
    (hNone : ∀ c ∈ cs, isBlank c = false)
    (hAfter : ∀ c ∈ after, isBlank c = true) :
    trim (String.ofList (before ++ (cs ++ after))) = String.ofList cs := by
  have hReversed : ∀ c ∈ after.reverse, isBlank c = true := by simpa using hAfter
  have hEnd : dropEnd isBlank (cs ++ after) = cs := by
    rw [dropEnd, List.reverse_append, List.dropWhile_append_of_pos hReversed,
      dropWhile_isBlank (by simpa using hNone), List.reverse_reverse]
  rw [trim, String.toList_ofList, List.dropWhile_append_of_pos hBefore]
  cases cs with
  | nil =>
      have hNothing : (after ++ []).dropWhile isBlank = [] :=
        List.dropWhile_append_of_pos hAfter
      rw [List.nil_append, ← List.append_nil after, hNothing]
      rfl
  | cons c cs =>
      have hFirst : ¬ isBlank c = true := by simp [hNone c List.mem_cons_self]
      rw [List.cons_append, List.dropWhile_cons_of_neg hFirst, ← List.cons_append, hEnd]

/- Blanks are no letters, so they have no case. -/
theorem toUpper_of_isBlank
    {c : Char}
    (hBlank : isBlank c = true) :
    c.toUpper = c := by
  unfold Char.toUpper
  rw [dif_neg]
  rintro ⟨hLow, hHigh⟩
  simp only [isBlank, Bool.or_eq_true, Bool.and_eq_true, decide_eq_true_eq,
    beq_iff_eq] at hBlank
  have hCode : c.toNat = c.val.toNat := rfl
  have hFrom : 97 ≤ c.val.toNat := hLow
  have hTo : c.val.toNat ≤ 122 := hHigh
  omega

------------------------------------------------------------
-- Prefixes, Suffixes and Occurrences
------------------------------------------------------------

/-
  What follows a given beginning of a list, if the list begins so.
-/
def dropPrefix? {α : Type} [BEq α] : List α → List α → Option (List α)
  | [], rest => some rest
  | _ :: _, [] => none
  | p :: ps, c :: cs => if p == c then dropPrefix? ps cs else none

/-
  Whether one list begins another.
-/
def startsWith {α : Type} [BEq α] (lead cs : List α) : Bool :=
  (dropPrefix? lead cs).isSome

/-
  Whether one list ends another.
-/
def endsWith {α : Type} [BEq α] (tail cs : List α) : Bool :=
  startsWith tail.reverse cs.reverse

/-
  Whether one list occurs in another as a contiguous part.
-/
def occursIn {α : Type} [BEq α] (part : List α) : List α → Bool
  | [] => startsWith part []
  | c :: cs => startsWith part (c :: cs) || occursIn part cs

end Text

end Devirt
