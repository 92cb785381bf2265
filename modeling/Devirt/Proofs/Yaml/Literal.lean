import Devirt.Proofs.Decimal.Numerals
import Devirt.Proofs.Yaml.Plain

/-
  Literal blocks are read as they were written.

  A text of several lines is written line by line, each moved to
  a column, and a sign says what becomes of the line ends behind
  it.  The reader takes the indentation away and finds the end
  of the block at the next key, which begins before that column.

  Main declarations:
    * `Yaml.closed`, a text with the end of its last line
    * `Yaml.Lines`, `Yaml.blockLines_lines`
    * `Yaml.readBlock_text`
-/

------------------------------------------------------------
-- Lines
------------------------------------------------------------

namespace Devirt

namespace Yaml

/- Lines that are moved to a column. -/
def moved (column : Nat) (fresh : Bool) (cs : List Char) :
    List Char :=
  indented column (fun c => [c]) fresh cs

/-
  Lines of text, each with its end and the empty lines behind
  it.
-/
inductive Lines : List Char → Prop where
  | nil : Lines []
  | line
      {text blanks cs : List Char}
      {e : Char}
      (hSome : text ≠ [])
      (hText : ∀ c ∈ text, isBreak c = false)
      (hEnd : isBreak e = true)
      (hBlanks : ∀ c ∈ blanks, isBreak c = true)
      (hMore : Lines cs) :
      Lines (text ++ e :: (blanks ++ cs))

theorem Lines.head
    {cs : List Char}
    (hLines : Lines cs) :
    ∀ c ∈ cs.head?, isBreak c = false := by
  cases hLines with
  | nil => simp
  | @line text blanks cs e hSome hText hEnd hBlanks hMore =>
      intro c hHead
      cases text with
      | nil => exact absurd rfl hSome
      | cons b text =>
          simp only [List.cons_append, List.head?_cons,
            Option.mem_some] at hHead
          exact hHead ▸ hText b (by simp)

section Moved

variable (column : Nat)

@[simp]
theorem moved_nil
    (fresh : Bool) :
    moved column fresh [] = [] :=
  rfl

theorem moved_break
    {c : Char}
    (fresh : Bool)
    (cs : List Char)
    (hBreak : isBreak c = true) :
    moved column fresh (c :: cs) = c :: moved column true cs := by
  simp [moved, indented, hBreak]

theorem moved_breaks
    {run : List Char}
    (cs : List Char)
    (hRun : ∀ c ∈ run, isBreak c = true) :
    moved column true (run ++ cs) =
      run ++ moved column true cs := by
  induction run with
  | nil => rfl
  | cons c run ih =>
      rw [List.cons_append, List.cons_append,
        moved_break column true _ (hRun c (by simp)),
        ih (fun b hMember => hRun b (by simp [hMember]))]

theorem moved_text
    {text : List Char}
    (cs : List Char)
    (hText : ∀ c ∈ text, isBreak c = false) :
    moved column false (text ++ cs) =
      text ++ moved column false cs := by
  induction text with
  | nil => rfl
  | cons c text ih =>
      have hRest :=
        ih (fun b hMember => hText b (by simp [hMember]))
      have hFirst : isBreak c = false := hText c (by simp)
      simp only [moved] at hRest ⊢
      simp [indented, hFirst, hRest]

theorem moved_fresh
    {cs : List Char}
    (hSome : cs ≠ [])
    (hHead : ∀ c ∈ cs.head?, isBreak c = false) :
    moved column true cs =
      List.replicate column ' ' ++ moved column false cs := by
  cases cs with
  | nil => exact absurd rfl hSome
  | cons c cs =>
      simp [moved, indented, hHead c (by simp)]

/- A line end behind a text is not moved. -/
theorem moved_append_break
    (fresh : Bool)
    (cs : List Char)
    {c : Char}
    (hBreak : isBreak c = true) :
    moved column fresh (cs ++ [c]) = moved column fresh cs ++ [c] := by
  induction cs generalizing fresh with
  | nil => rw [List.nil_append, moved_break column _ _ hBreak]; rfl
  | cons b cs ih =>
      have hTrue := ih true
      have hFalse := ih false
      simp only [moved] at hTrue hFalse ⊢
      rw [List.cons_append, indented, indented]
      split_ifs <;> simp [hTrue, hFalse]

theorem mem_moved
    {column : Nat}
    {fresh : Bool}
    {c : Char}
    {cs : List Char}
    (hMember : c ∈ moved column fresh cs) :
    c ∈ cs ∨ c = ' ' := by
  induction cs generalizing fresh with
  | nil => cases hMember
  | cons b cs ih =>
      simp only [moved] at hMember ih
      unfold indented at hMember
      split_ifs at hMember with hBreak hFresh
      · rcases List.mem_cons.mp hMember with rfl | hRest
        · exact Or.inl (by simp)
        · exact (ih hRest).imp_left (List.mem_cons_of_mem b)
      · simp only [List.append_assoc, List.mem_append,
          List.mem_singleton] at hMember
        rcases hMember with hBlank | rfl | hRest
        · exact Or.inr (List.eq_of_mem_replicate hBlank)
        · exact Or.inl (by simp)
        · exact (ih hRest).imp_left (List.mem_cons_of_mem b)
      · simp only [List.nil_append, List.mem_append,
          List.mem_singleton] at hMember
        rcases hMember with rfl | hRest
        · exact Or.inl (by simp)
        · exact (ih hRest).imp_left (List.mem_cons_of_mem b)

end Moved

/-
  Where lines begin behind their indentation; without any line,
  the place of the next key.
-/
def blockStart
    (column line : Nat)
    (cs rest : List Char) :
    Place :=
  if cs.isEmpty then
    nextPlace line rest
  else
    ⟨moved column false cs ++ rest, line, column⟩

theorem length_le_moved
    (column : Nat)
    (fresh : Bool)
    (cs : List Char) :
    cs.length ≤ (moved column fresh cs).length := by
  induction cs generalizing fresh with
  | nil => simp
  | cons c cs ih =>
      have hTrue := ih true
      have hFalse := ih false
      simp only [moved] at hTrue hFalse ⊢
      unfold indented
      split_ifs <;>
        simp only [List.length_cons, List.length_append] <;>
        omega

theorem moved_ne_nil
    (column : Nat)
    (fresh : Bool)
    {cs : List Char}
    (hSome : cs ≠ []) :
    moved column fresh cs ≠ [] := by
  have hLength := length_le_moved column fresh cs
  rintro hNone
  rw [hNone] at hLength
  exact hSome (List.eq_nil_of_length_eq_zero (by simpa using hLength))

/- Moved lines end as the lines do. -/
theorem getLast?_moved
    (column : Nat)
    (fresh : Bool)
    {cs : List Char}
    (hSome : cs ≠ []) :
    (moved column fresh cs).getLast? = cs.getLast? := by
  induction cs generalizing fresh with
  | nil => exact absurd rfl hSome
  | cons c cs ih =>
      by_cases hLast : cs = []
      · subst hLast
        unfold moved indented indented
        split_ifs <;> simp
      · have hStep :
            ∃ first other,
              moved column fresh (c :: cs) =
                first ++ moved column other cs := by
          simp only [moved]
          rw [indented]
          split_ifs
          · exact ⟨[c], true, rfl⟩
          · exact ⟨_, false, rfl⟩
          · exact ⟨_, false, rfl⟩
        rcases hStep with ⟨first, other, hStep⟩
        rw [hStep,
          List.getLast?_append_of_ne_nil _
            (moved_ne_nil column other hLast), ih other hLast,
          ← List.singleton_append,
          List.getLast?_append_of_ne_nil _ hLast]

theorem length_le_blockStart
    (column line : Nat)
    (cs rest : List Char) :
    cs.length < (blockStart column line cs rest).rest.length + 1 := by
  unfold blockStart
  split_ifs with hNone
  · rw [List.isEmpty_iff] at hNone
    simp [hNone]
  · have hMoved := length_le_moved column false cs
    simp only [List.length_append]
    omega

section Reading

variable {bound column : Nat}
variable {cs rest : List Char}

/- Blanks are skipped up to the column of the block. -/
theorem blankLines_spaces
    (indent : Option Nat)
    (deepest line other k : Nat)
    (cs : List Char)
    (hInside : indent.all (other + k ≤ ·) = true) :
    blankLines indent deepest line other
        (List.replicate k ' ' ++ cs) =
      blankLines indent deepest line (other + k) cs := by
  induction k generalizing other with
  | zero => rfl
  | succ k ih =>
      have hHere : indent.all (other < ·) = true := by
        cases indent with
        | none => rfl
        | some n =>
            simp only [Option.all_some, decide_eq_true_eq]
              at hInside ⊢
            omega
      have hStep :
          blankLines indent deepest line other
              (' ' :: (List.replicate k ' ' ++ cs)) =
            blankLines indent deepest line (other + 1)
              (List.replicate k ' ' ++ cs) := by
        simp [blankLines, hHere]
      rw [List.replicate_succ, List.cons_append, hStep, ih]
      · rw [Nat.add_right_comm, Nat.add_assoc]
      · rw [Nat.add_right_comm, Nat.add_assoc]
        exact hInside

/- At the column of the block, what is no line end is text. -/
theorem blankLines_text
    (deepest line : Nat)
    {c : Char}
    (cs : List Char)
    (hBreak : isBreak c = false) :
    blankLines (some column) deepest line column (c :: cs) =
      some ([], max deepest column, ⟨c :: cs, line, column⟩) := by
  simp [blankLines, hBreak]

theorem blankLines_key
    (deepest line : Nat)
    (hAhead : Ahead bound rest)
    (hBound : bound < column) :
    ∃ d,
      blankLines (some column) deepest line 0 rest =
        some ([], d, nextPlace line rest) := by
  rcases hAhead with rfl | ⟨k, c, cs, rfl, hColumn, hLower⟩
  · exact ⟨max deepest 0, rfl⟩
  · rcases not_isGap (isGap_of_isLower hLower) with
      ⟨hBreak, -, hBlank, hTab⟩
    refine ⟨max deepest k, ?_⟩
    rw [nextPlace_key line k cs hLower, blankLines_spaces]
    · simp [blankLines, hBreak, hBlank, hTab]
    · simp only [Option.all_some, decide_eq_true_eq]
      omega

/- Empty lines and the indentation behind them. -/
theorem blankLines_run
    (deepest line : Nat)
    {run : List Char}
    (hRun : ∀ c ∈ run, isBreak c = true)
    (hLines : Lines cs)
    (hAhead : Ahead bound rest)
    (hBound : bound < column) :
    ∃ d,
      blankLines (some column) deepest line 0
          (run ++ (moved column true cs ++ rest)) =
        some
          (run, d,
            blockStart column (line + run.length) cs rest) := by
  induction run generalizing deepest line with
  | nil =>
      cases cs with
      | nil =>
          simpa [blockStart] using
            blankLines_key deepest line hAhead hBound
      | cons c cs =>
          have hFirst : isBreak c = false :=
            hLines.head c (by simp)
          refine ⟨max deepest column, ?_⟩
          rw [moved_fresh column (by simp) hLines.head,
            List.nil_append, List.append_assoc,
            blankLines_spaces _ _ _ _ _ _ (by simp)]
          have hText :
              moved column false (c :: cs) =
                c :: moved column false cs := by
            simp [moved, indented, hFirst]
          rw [hText, List.cons_append, Nat.zero_add,
            blankLines_text _ _ _ hFirst]
          simp [blockStart, hText]
  | cons c run ih =>
      have hBreak : isBreak c = true := hRun c (by simp)
      have hOther : c ≠ ' ' ∧ c ≠ '\t' := by
        constructor <;>
          (rintro rfl; exact absurd hBreak (by decide))
      rcases ih (max deepest 0) (line + 1)
          (fun b hMember => hRun b (by simp [hMember])) with
        ⟨d, hRest⟩
      refine ⟨d, ?_⟩
      simp only [List.cons_append, blankLines, hBreak,
        beq_eq_false_iff_ne.mpr hOther.1,
        beq_eq_false_iff_ne.mpr hOther.2, Bool.false_and,
        Bool.false_eq_true, if_false, if_true, hRest,
        Option.map_some, List.length_cons]
      rw [Nat.add_right_comm, Nat.add_assoc]

/- A text split into what stands before and at its end. -/
structure Split (body lineEnd blanks : List Char) : Prop where
  solid : ∀ c ∈ body.getLast?, isBreak c = false
  breaks : ∀ c ∈ lineEnd ++ blanks, isBreak c = true

/-
  The lines of a block.  The induction is on the lines: the end
  of each and the empty lines behind it are handed on to the
  next.
-/
theorem blockLines_lines
    {fuel : Nat}
    (line : Nat)
    (afterBlank : Bool)
    {lineEnd blanks : List Char}
    (hLines : Lines cs)
    (hAhead : Ahead bound rest)
    (hBound : bound < column)
    (hBreaks : ∀ c ∈ lineEnd ++ blanks, isBreak c = true)
    (hFuel : cs.length < fuel) :
    ∃ body e more l,
      blockLines false column fuel afterBlank lineEnd blanks
          (blockStart column line cs rest) =
        some (body, e, more, nextPlace l rest) ∧
      body ++ (e ++ more) = lineEnd ++ (blanks ++ cs) ∧
        Split body e more ∧
          (cs = [] → body = [] ∧ e = lineEnd) ∧
            (cs ≠ [] → body ≠ [] ∧ e.length = 1) := by
  induction hLines generalizing fuel line afterBlank lineEnd
    blanks with
  | nil =>
      cases fuel with
      | zero => simp at hFuel
      | succ fuel =>
          have hColumn := hAhead.nextPlace_column line
          have hBefore : (nextPlace line rest).column ≠ column := by
            omega
          refine
            ⟨[], lineEnd, blanks, line, ?_, by simp,
              ⟨by simp, hBreaks⟩, by simp, by simp⟩
          simp [blockLines, blockStart, hBefore]
  | @line text blanks' cs e hSome hText hEnd hBlanks hMore ih =>
      cases fuel with
      | zero => omega
      | succ fuel =>
          have hStart :
              blockStart column line
                  (text ++ e :: (blanks' ++ cs)) rest =
                ⟨text ++ e ::
                    (blanks' ++ (moved column true cs ++ rest)),
                  line, column⟩ := by
            simp [blockStart, moved_text column _ hText,
              moved_break column _ _ hEnd,
              moved_breaks column _ hBlanks]
          have hStops :
              ∀ c ∈ (e :: (blanks' ++
                  (moved column true cs ++ rest))).head?,
                (!isBreak c) = false := by
            simpa using hEnd
          rcases Decimal.takeWhile_run
              (p := fun c => !isBreak c)
              (by simpa using hText) hStops with
            ⟨hTake, hDrop⟩
          rcases blankLines_run 0 (line + 1) hBlanks hMore hAhead
              hBound with ⟨d, hBlankLines⟩
          have hLess : cs.length < fuel := by
            simp only [List.length_append, List.length_cons]
              at hFuel
            omega
          have hNext :
              ∀ c ∈ [e] ++ blanks', isBreak c = true := by
            simpa [hEnd] using hBlanks
          rcases ih (line + 1 + blanks'.length)
              (text.head?.any isSpace) hNext hLess with
            ⟨body, e', more, l, hRest, hParts, hSplit, hNone,
              hSomeMore⟩
          refine
            ⟨lineEnd ++ blanks ++ text ++ body, e', more, l, ?_,
              ?_, ⟨?_, hSplit.breaks⟩, by simp, ?_⟩
          · have hHead :
                (text ++ e ::
                    (blanks' ++
                      (moved column true cs ++ rest))).head? =
                  text.head? := by
              cases text with
              | nil => exact absurd rfl hSome
              | cons c text => rfl
            have hNotEmpty :
                (text ++ e ::
                    (blanks' ++
                      (moved column true cs ++ rest))).isEmpty =
                  false := by
              simp
            rw [hStart, blockLines]
            simp only [bne_self_eq_false, hNotEmpty, Bool.or_false,
              Bool.false_eq_true, if_false, hTake, hDrop, hHead,
              List.drop_one, List.tail_cons, List.take_succ_cons,
              List.take_zero, hBlankLines, hRest, Option.map_some,
              Bool.false_and, joinLines]
          · rw [List.append_assoc, List.append_assoc,
              List.append_assoc, hParts]
            simp
          · intro c hLast
            by_cases hEmpty : body = []
            · subst hEmpty
              rw [List.append_nil,
                List.getLast?_append_of_ne_nil _ hSome] at hLast
              exact hText c (List.mem_of_getLast? hLast)
            · rw [List.getLast?_append_of_ne_nil _ hEmpty]
                at hLast
              exact hSplit.solid c hLast
          · intro _
            refine ⟨by simp [hSome], ?_⟩
            by_cases hEmpty : cs = []
            · rw [(hNone hEmpty).2]
              rfl
            · exact (hSomeMore hEmpty).2

end Reading

end Yaml

end Devirt

------------------------------------------------------------
-- Literal Blocks
------------------------------------------------------------

namespace Devirt

namespace Yaml

/- A text with the end of its last line. -/
def closed (cs : List Char) : List Char :=
  if cs.getLast?.any isBreak then cs else cs ++ ['\n']

theorem closed_last
    (cs : List Char) :
    ∀ c ∈ (closed cs).getLast?, isBreak c = true := by
  intro c hLast
  unfold closed at hLast
  split_ifs at hLast with hBreak
  · rw [Option.mem_def.mp hLast] at hBreak
    exact hBreak
  · rw [List.getLast?_concat, Option.mem_some] at hLast
    exact hLast ▸ rfl

theorem mem_closed
    {c : Char}
    {cs : List Char}
    (hMember : c ∈ closed cs) :
    c ∈ cs ∨ c = '\n' := by
  unfold closed at hMember
  split_ifs at hMember
  · exact Or.inl hMember
  · simpa using hMember

/- A text that ends with a line end is made of lines. -/
theorem exists_lines
    {cs : List Char}
    (hLast : ∀ c ∈ cs.getLast?, isBreak c = true) :
    ∃ run lines,
      cs = run ++ lines ∧ (∀ c ∈ run, isBreak c = true) ∧
        Lines lines := by
  induction hLength : cs.length using Nat.strongRecOn
    generalizing cs with
  | ind n ih =>
      rcases exists_run isBreak cs with
        ⟨run, lines, rfl, hRun, hFirst⟩
      refine ⟨run, lines, rfl, hRun, ?_⟩
      rcases exists_run (fun c => !isBreak c) lines with
        ⟨text, rest, rfl, hText, hRest⟩
      have hText : ∀ c ∈ text, isBreak c = false := by
        simpa using hText
      cases rest with
      | nil =>
          have hNone : text = [] := by
            by_contra hSome
            have hEnd :=
              hLast (text.getLast hSome) (by
                rw [List.append_nil,
                  List.getLast?_append_of_ne_nil _ hSome,
                  List.getLast?_eq_some_getLast hSome]
                rfl)
            simp [hText _ (List.getLast_mem hSome)] at hEnd
          rw [hNone]
          exact Lines.nil
      | cons e rest =>
          have hEnd : isBreak e = true := by
            simpa using hRest e (by simp)
          have hSome : text ≠ [] := by
            rintro rfl
            have hNoBreak := hFirst e (by simp)
            simp [hEnd] at hNoBreak
          have hBehind : ∀ c ∈ rest.getLast?, isBreak c = true := by
            intro c hMember
            cases rest with
            | nil => simp at hMember
            | cons b rest =>
                apply hLast c
                rw [List.getLast?_append_of_ne_nil _ (by simp),
                  List.getLast?_append_of_ne_nil _ (by simp),
                  ← List.singleton_append,
                  List.getLast?_append_of_ne_nil _ (by simp)]
                exact hMember
          have hLess : rest.length < n := by
            rw [← hLength]
            simp only [List.length_append, List.length_cons]
            omega
          rcases ih rest.length hLess hBehind rfl with
            ⟨blanks, more, rfl, hBlanks, hMore⟩
          exact Lines.line hSome hText hEnd hBlanks hMore

/- The signs behind the bar are read as they are meant. -/
def chompingOf (cs : List Char) : Chomping :=
  let ends := (cs.reverse.takeWhile isBreak).length
  if ends = 0 then .strip
  else if ends = 1 ∧ cs.length ≠ 1 then .clip
  else .keep

/- Whether the first line does not show the indentation. -/
def needsHint (cs : List Char) : Bool :=
  cs.head?.any fun c => c == ' ' || isBreak c

theorem readHints_hintsOf
    (cs rest : List Char) :
    readHints (hintsOf 2 cs ++ '\n' :: rest) =
      (chompingOf cs, if needsHint cs then some 2 else none,
        '\n' :: rest) := by
  have hDigits : Nat.toDigits 10 2 = ['2'] := rfl
  unfold hintsOf chompingOf needsHint
  dsimp only
  rw [hDigits]
  split_ifs <;> rfl

theorem length_takeWhile_split
    {body lineEnd blanks : List Char}
    (hSplit : Split body lineEnd blanks) :
    ((body ++ (lineEnd ++ blanks)).reverse.takeWhile
      isBreak).length = (lineEnd ++ blanks).length := by
  rw [List.reverse_append]
  have hRun :
      ∀ c ∈ (lineEnd ++ blanks).reverse, isBreak c = true := by
    intro c hMember
    exact hSplit.breaks c (List.mem_reverse.mp hMember)
  have hStops :
      ∀ c ∈ body.reverse.head?, isBreak c = false := by
    rw [List.head?_reverse]
    exact hSplit.solid
  rw [(Decimal.takeWhile_run hRun hStops).1, List.length_reverse]

/- What becomes of the line ends gives the text back. -/
theorem chomping_text
    {cs body lineEnd blanks : List Char}
    (hParts : body ++ (lineEnd ++ blanks) = closed cs)
    (hSplit : Split body lineEnd blanks)
    (hEnd : body ≠ [] → lineEnd.length = 1) :
    (body ++
      match chompingOf cs with
      | .strip => []
      | .clip => lineEnd
      | .keep => lineEnd ++ blanks) =
      cs := by
  have hCount := length_takeWhile_split hSplit
  rw [hParts] at hCount
  unfold closed at hParts hCount
  unfold chompingOf
  by_cases hBreak : cs.getLast?.any isBreak
  · rw [if_pos hBreak] at hParts hCount
    have hSomeEnds : (cs.reverse.takeWhile isBreak).length ≠ 0 := by
      rw [← List.head?_reverse] at hBreak
      cases hReverse : cs.reverse with
      | nil => simp [hReverse] at hBreak
      | cons c others =>
          rw [hReverse] at hBreak
          have hFirst : isBreak c = true := hBreak
          simp [hFirst]
    rw [if_neg hSomeEnds]
    split_ifs with hOne
    · -- one line end behind some text
      have hLong : body ≠ [] := by
        rintro rfl
        rw [List.nil_append] at hParts
        rw [hParts, hOne.1] at hCount
        omega
      have hNone : blanks = [] := by
        rw [hOne.1, List.length_append, hEnd hLong] at hCount
        exact List.eq_nil_of_length_eq_zero (by omega)
      rw [hNone, List.append_nil] at hParts
      exact hParts
    · exact hParts
  · rw [if_neg hBreak] at hParts hCount
    have hNoEnds : cs.reverse.takeWhile isBreak = [] := by
      rw [← List.head?_reverse] at hBreak
      cases hReverse : cs.reverse with
      | nil => rfl
      | cons c others =>
          rw [hReverse] at hBreak
          have hFirst : isBreak c = false := by
            simpa using hBreak
          simp [hFirst]
    have hFeed : isBreak '\n' = true := rfl
    rw [hNoEnds, List.length_nil, if_pos rfl]
    rw [List.reverse_append, List.reverse_singleton,
      List.singleton_append, List.takeWhile_cons, hFeed, if_pos rfl,
      hNoEnds, List.length_singleton] at hCount
    have hBody :=
      (List.append_inj' hParts (by simpa using hCount.symm)).1
    rw [hBody, List.append_nil]

theorem head?_closed
    {cs : List Char}
    (hSome : cs ≠ []) :
    (closed cs).head? = cs.head? := by
  unfold closed
  cases cs with
  | nil => exact absurd rfl hSome
  | cons c cs => split_ifs <;> rfl

/- The indentation of a block is found or given. -/
theorem blankLines_first
    {cs run lines rest : List Char}
    (line : Nat)
    (hSome : cs ≠ [])
    (hTab : cs.head? ≠ some '\t')
    (hParts : closed cs = run ++ lines)
    (hRun : ∀ c ∈ run, isBreak c = true)
    (hLines : Lines lines)
    (hAhead : Ahead 2 rest) :
    ∃ deepest l,
      blankLines
          ((if needsHint cs then some 2 else none).map (3 - 1 + ·))
          0 line 0 (moved 4 true (closed cs) ++ rest) =
        some (run, deepest, blockStart 4 l lines rest) ∧
      ((if needsHint cs then some 2 else none).map
        (3 - 1 + ·)).getD (max deepest (max 3 1)) = 4 := by
  by_cases hHint : needsHint cs = true
  · rcases blankLines_run 0 line hRun hLines hAhead
        (show 2 < 4 by decide) with ⟨d, hRead⟩
    refine ⟨d, line + run.length, ?_, ?_⟩
    · rw [if_pos hHint, hParts, moved_breaks 4 lines hRun,
        List.append_assoc]
      exact hRead
    · rw [if_pos hHint]
      rfl
  · rw [Bool.not_eq_true] at hHint
    have hHead := head?_closed hSome
    cases cs with
    | nil => exact absurd rfl hSome
    | cons c cs =>
        simp only [needsHint, List.head?_cons, Option.any_some,
          Bool.or_eq_false_iff, beq_eq_false_iff_ne] at hHint
        have hOther : c ≠ '\t' := by simpa using hTab
        have hNoRun : run = [] := by
          cases run with
          | nil => rfl
          | cons b run =>
              rw [hParts, List.cons_append, List.head?_cons,
                List.head?_cons, Option.some.injEq] at hHead
              have hBreak := hRun b (by simp)
              simp [hHead, hHint.2] at hBreak
        subst hNoRun
        rw [List.nil_append] at hParts
        rw [hParts, List.head?_cons] at hHead
        cases lines with
        | nil => simp at hHead
        | cons b lines =>
            simp only [List.head?_cons, Option.some.injEq] at hHead
            subst hHead
            have hText :
                moved 4 false (b :: lines) =
                  b :: moved 4 false lines := by
              simp [moved, indented, hHint.2]
            have hNeeds : needsHint (b :: cs) = false := by
              simp [needsHint, hHint]
            refine ⟨4, line, ?_, ?_⟩
            · rw [hNeeds, hParts,
                moved_fresh 4 (by simp) hLines.head, hText,
                List.append_assoc, blankLines_spaces]
              · simp [blankLines, hHint, hOther, blockStart, hText]
              · rfl
            · rw [hNeeds]
              rfl

/- A literal block is read as its text. -/
theorem readBlock_text
    {cs rest : List Char}
    (line other : Nat)
    (hSome : cs ≠ [])
    (hTab : cs.head? ≠ some '\t')
    (hAhead : Ahead 2 rest) :
    ∃ l,
      readBlock false 3
          ⟨'|' :: (hintsOf 2 cs ++
              '\n' :: (moved 4 true (closed cs) ++ rest)),
            line, other⟩ =
        some (String.ofList cs, nextPlace l rest) := by
  rcases exists_lines (closed_last cs) with
    ⟨run, lines, hParts, hRun, hLines⟩
  rcases blankLines_first (line + 1) hSome hTab hParts hRun hLines
      hAhead with ⟨deepest, l, hFirst, hIndent⟩
  have hFuel := length_le_blockStart 4 l lines rest
  have hBreaks : ∀ c ∈ [] ++ run, isBreak c = true := hRun
  rcases blockLines_lines l false hLines hAhead
      (show 2 < 4 by decide) hBreaks hFuel with
    ⟨body, e, more, l', hLinesRead, hSame, hSplit, hNone, hEnd⟩
  rw [List.nil_append, ← hParts] at hSame
  have hText :=
    chomping_text hSame hSplit (fun hBody =>
      (hEnd (fun hEmpty => hBody (hNone hEmpty).1)).2)
  have hHeader (body : List Char) :
      skipHeaderEnd ('\n' :: body) = some body := rfl
  refine ⟨l', ?_⟩
  simp only [readBlock, List.drop_one, List.tail_cons,
    readHints_hintsOf, hHeader, Option.bind_eq_bind,
    Option.bind_some, hFirst, hIndent, hLinesRead]
  exact
    congrArg
      (fun text => some (String.ofList text, nextPlace l' rest))
      hText

end Yaml

end Devirt
