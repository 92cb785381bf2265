import Devirt.Proofs.Yaml.Plain
import Mathlib.Tactic.Ring

/-
  Quoted texts are read as they were written.

  Between single quotes a quote is written twice and lines are
  moved to a column; the reader takes the blanks before and
  behind a line end away, so a text may have none there.
  Between double quotes whatever cannot stand for itself is
  escaped, and the reader undoes each escape.

  Main declarations:
    * `Yaml.Quotable`, `Yaml.Runs`, `Yaml.readSingle_text`
    * `Yaml.escapeChar_spec`, `Yaml.readDouble_text`
-/

------------------------------------------------------------
-- Texts in Single Quotes
------------------------------------------------------------

namespace Devirt

namespace Yaml

/- A quote inside quotes is written twice. -/
def twice (c : Char) : List Char :=
  if c == '\'' then ['\'', '\''] else [c]

/-
  What stands between single quotes.  The flag says that a line
  begins, whose text is still to be moved to its column.
-/
def singleText (column : Nat) : Bool → List Char → List Char
  | fresh, [] => if fresh then List.replicate column ' ' else []
  | fresh, c :: cs =>
    if isBreak c then
      c :: singleText column true cs
    else
      (if fresh then List.replicate column ' ' else []) ++
        (twice c ++ singleText column false cs)

theorem singleText_eq
    (column : Nat)
    (fresh : Bool)
    {cs : List Char}
    (hSome : cs ≠ []) :
    singleText column fresh cs =
      indented column twice fresh cs ++
        if cs.getLast?.any isBreak then
          List.replicate column ' '
        else
          [] := by
  induction cs generalizing fresh with
  | nil => exact absurd rfl hSome
  | cons c cs ih =>
      unfold singleText indented
      by_cases hLast : cs = []
      · subst hLast
        split_ifs <;> simp_all [singleText, indented]
      · rw [ih true hLast, ih false hLast]
        have hSame :
            (c :: cs).getLast? = cs.getLast? := by
          rw [← List.singleton_append,
            List.getLast?_append_of_ne_nil _ hLast]
        rw [hSame]
        split_ifs <;> simp

theorem writeSingle_eq
    (column : Nat)
    (cs : List Char) :
    writeSingle column cs =
      '\'' :: (singleText column false cs ++ ['\'']) := by
  by_cases hNone : cs = []
  · subst hNone
    rfl
  · rw [singleText_eq column false hNone]
    simp only [writeSingle, List.cons_append, List.nil_append]
    rfl

/- Texts that may be written in single quotes. -/
structure Quotable (cs : List Char) : Prop where
  printable : ∀ c ∈ cs, isPrintable c = true
  noFeed : '\n' ∉ cs
  before : hasPair (· == ' ') isBreak cs = false
  behind : hasPair isBreak (· == ' ') cs = false

theorem Quotable.append
    (as : List Char)
    {bs : List Char}
    (hText : Quotable (as ++ bs)) :
    Quotable bs :=
  ⟨fun c hMember => hText.printable c (by simp [hMember]),
    fun hMember => hText.noFeed (by simp [hMember]),
    hasPair_append as hText.before,
    hasPair_append as hText.behind⟩

theorem quotedGap_spaces
    (line column k : Nat)
    {c : Char}
    (cs : List Char)
    (hOther : isGap c = false) :
    quotedGap
        ⟨List.replicate k ' ' ++ c :: cs, line, column⟩ =
      some
        (List.replicate k ' ', ⟨c :: cs, line, column + k⟩) := by
  simp [quotedGap, readGap_spaces _ _ _ _ _ hOther]

/-
  A text as it is read between quotes: blanks by runs, line ends
  by runs, and all other characters one by one.
-/
inductive Runs : List Char → Prop where
  | nil : Runs []
  | char
      {c : Char}
      {cs : List Char}
      (hSolid : isGap c = false)
      (hMore : Runs cs) :
      Runs (c :: cs)
  | blanks
      {cs : List Char}
      (k : Nat)
      (hFirst : ∀ c ∈ cs.head?, isGap c = false)
      (hMore : Runs cs) :
      Runs (List.replicate (k + 1) ' ' ++ cs)
  | breaks
      {c : Char}
      {run cs : List Char}
      (hRun : ∀ b ∈ c :: run, isBreak b = true)
      (hFeed : c ≠ '\n')
      (hFirst : ∀ b ∈ cs.head?, isGap b = false)
      (hMore : Runs cs) :
      Runs (c :: (run ++ cs))

theorem Quotable.solid_blanks
    {k : Nat}
    {cs : List Char}
    (hText : Quotable (List.replicate (k + 1) ' ' ++ cs))
    (hFirst : ∀ c ∈ cs.head?, c ≠ ' ') :
    ∀ c ∈ cs.head?, isGap c = false := by
  intro c hHead
  cases cs with
  | nil => simp at hHead
  | cons b cs =>
      simp only [List.head?_cons, Option.mem_some] at hHead
      subst hHead
      have hBefore := hText.before
      rw [List.replicate_succ', List.append_assoc] at hBefore
      have hBreak := hasPair_inside _ hBefore rfl
      by_contra hGap
      rw [Bool.not_eq_false] at hGap
      rcases isGap_printable (hText.printable b (by simp))
          hGap with hBlank | hOther
      · exact hFirst b (by simp) hBlank
      · simp [hOther] at hBreak

theorem Quotable.solid_breaks
    {c : Char}
    {run cs : List Char}
    (hText : Quotable (c :: (run ++ cs)))
    (hRun : ∀ b ∈ c :: run, isBreak b = true)
    (hFirst : ∀ b ∈ cs.head?, isBreak b = false) :
    ∀ b ∈ cs.head?, isGap b = false := by
  intro b hHead
  cases cs with
  | nil => simp at hHead
  | cons d cs =>
      simp only [List.head?_cons, Option.mem_some] at hHead
      subst hHead
      have hLast : (c :: run) ≠ [] := List.cons_ne_nil _ _
      have hBehind := hText.behind
      rw [← List.cons_append, ← List.dropLast_append_getLast hLast,
        List.append_assoc] at hBehind
      have hBlank :=
        hasPair_inside _ hBehind
          (hRun _ (List.getLast_mem hLast))
      by_contra hGap
      rw [Bool.not_eq_false] at hGap
      rcases isGap_printable (hText.printable d (by simp))
          hGap with rfl | hOther
      · exact absurd hBlank (by decide)
      · simp [hFirst d (by simp)] at hOther

theorem Quotable.runs
    {cs : List Char}
    (hText : Quotable cs) :
    Runs cs := by
  induction hLength : cs.length using Nat.strongRecOn
    generalizing cs with
  | ind n ih =>
      cases cs with
      | nil => exact Runs.nil
      | cons c cs =>
          by_cases hSolid : isGap c = false
          · exact
              Runs.char hSolid
                (ih cs.length (by simp at hLength; omega)
                  (Quotable.append [c] hText) rfl)
          · rw [Bool.not_eq_false] at hSolid
            have hPrintable := hText.printable c (by simp)
            rcases isGap_printable hPrintable hSolid with
              hBlank | hBreak
            · rcases exists_spaces (c :: cs) with
                ⟨k, more, hParts, hFirst⟩
              cases k with
              | zero =>
                  rw [List.replicate_zero, List.nil_append]
                    at hParts
                  subst hParts
                  exact absurd hBlank (hFirst c (by simp))
              | succ k =>
                  rw [hParts] at hText hLength ⊢
                  refine
                    Runs.blanks k (hText.solid_blanks hFirst)
                      (ih more.length ?_ (hText.append _) rfl)
                  simp only [List.length_append,
                    List.length_replicate] at hLength
                  omega
            · rcases exists_run isBreak cs with
                ⟨run, more, rfl, hRun, hFirst⟩
              have hAll : ∀ b ∈ c :: run, isBreak b = true := by
                simpa [hBreak] using hRun
              refine
                Runs.breaks hAll ?_
                  (hText.solid_breaks hAll hFirst)
                  (ih more.length ?_
                    (Quotable.append (c :: run) hText) rfl)
              · rintro rfl
                exact hText.noFeed (by simp)
              · simp only [List.length_cons, List.length_append]
                  at hLength
                omega

section Single

variable {column : Nat}
variable {cs rest : List Char}

theorem singleText_fresh
    (column : Nat)
    (hFirst : ∀ c ∈ cs.head?, isBreak c = false) :
    singleText column true cs =
      List.replicate column ' ' ++ singleText column false cs := by
  cases cs with
  | nil => simp [singleText]
  | cons c cs => simp [singleText, hFirst c (by simp)]

theorem singleText_spaces
    (column k : Nat)
    (cs : List Char) :
    singleText column false (List.replicate k ' ' ++ cs) =
      List.replicate k ' ' ++ singleText column false cs := by
  induction k with
  | zero => rfl
  | succ k ih =>
      rw [List.replicate_succ, List.cons_append,
        List.cons_append, ← ih]
      simp [singleText, twice, isBreak]

theorem singleText_begins
    (column : Nat)
    (rest : List Char)
    (hFirst : ∀ c ∈ cs.head?, isGap c = false) :
    ∃ c more,
      singleText column false cs ++ '\'' :: rest = c :: more ∧
        isGap c = false := by
  cases cs with
  | nil => exact ⟨'\'', rest, rfl, rfl⟩
  | cons c cs =>
      have hOther := hFirst c (by simp)
      have hBreak := (not_isGap hOther).1
      simp only [singleText, twice, hBreak, Bool.false_eq_true,
        if_false, List.nil_append]
      split_ifs
      · exact ⟨'\'', _, rfl, rfl⟩
      · exact ⟨c, _, rfl, hOther⟩

/- Line ends inside quotes, and the indentation behind them. -/
theorem breaks_single
    (line : Nat)
    {run : List Char}
    (hRun : ∀ c ∈ run, isBreak c = true)
    (hFirst : ∀ c ∈ cs.head?, isGap c = false) :
    readGap.breaks 0 line 0
        (singleText column true (run ++ cs) ++ '\'' :: rest) =
      some
        (run,
          ⟨singleText column false cs ++ '\'' :: rest,
            line + run.length, column⟩) := by
  induction run generalizing line with
  | nil =>
      rcases singleText_begins column rest hFirst with
        ⟨c, more, hBegins, hOther⟩
      rw [List.nil_append, singleText_fresh column
        (fun c hMember => (not_isGap (hFirst c hMember)).1),
        List.append_assoc, hBegins,
        breaks_spaces _ _ _ _ _ hOther]
      simp
  | cons c run ih =>
      have hBreak : isBreak c = true := hRun c (by simp)
      have hMore :=
        ih (line + 1)
          (fun b hMember => hRun b (by simp [hMember]))
      simp only [List.cons_append, singleText, hBreak, if_true,
        readGap.breaks, hMore, Option.map_some, List.length_cons]
      congr 3
      omega

/- Line ends other than line feeds are not folded. -/
theorem foldBreaks_eq
    {c : Char}
    (run : List Char)
    (hFeed : c ≠ '\n') :
    foldBreaks (c :: run) = c :: run := by
  unfold foldBreaks
  split <;> simp_all

theorem atMarker_behind
    (mark : Char)
    (cs : List Char)
    (line : Nat)
    {column : Nat}
    (hColumn : 0 < column) :
    Place.atMarker mark ⟨cs, line, column⟩ = false := by
  simp [Place.atMarker, Nat.ne_of_gt hColumn]

/- A gap inside quotes is read as a whole. -/
theorem singleBody_gap
    {fuel line other : Nat}
    {done gap : List Char}
    {after : Place}
    {c : Char}
    (hColumn : 0 < other)
    (hGap : isGap c = true)
    (hRead :
      quotedGap ⟨c :: rest, line, other⟩ = some (gap, after)) :
    singleBody (fuel + 1) done ⟨c :: rest, line, other⟩ =
      singleBody fuel (gap.reverse ++ done) after := by
  have hQuote : c ≠ '\'' := by
    rintro rfl
    exact absurd hGap (by decide)
  rw [singleBody]
  simp only [atMarker_behind _ _ _ hColumn, Bool.or_false,
    Bool.false_eq_true, if_false]
  split
  · next hNone => cases hNone
  · next hTwice =>
      cases hTwice
      exact absurd rfl hQuote
  · next hOnce =>
      cases hOnce
      exact absurd rfl hQuote
  · next hSame =>
      cases hSame
      simp only [hGap, if_true, hRead]

/- A character between quotes is read in one step. -/
theorem singleBody_twice
    {fuel line other : Nat}
    {done : List Char}
    {c : Char}
    (hColumn : 0 < other)
    (hOther : isGap c = false) :
    singleBody (fuel + 1) done ⟨twice c ++ rest, line, other⟩ =
      singleBody fuel (c :: done)
        ⟨rest, line, other + (twice c).length⟩ := by
  rw [singleBody]
  simp only [atMarker_behind _ _ _ hColumn, Bool.or_false,
    Bool.false_eq_true, if_false]
  by_cases hQuote : c = '\''
  · subst hQuote
    rfl
  · have hOnce : twice c = [c] := by simp [twice, hQuote]
    rw [hOnce]
    simp only [List.cons_append, List.nil_append]
    split
    · next hNone => cases hNone
    · next hSame =>
        cases hSame
        exact absurd rfl hQuote
    · next hSame =>
        cases hSame
        exact absurd rfl hQuote
    · next hSame =>
        cases hSame
        simp only [hOther, Bool.false_eq_true, if_false]
        rfl

/-
  A text in single quotes is read up to the closing quote, run
  by run.
-/
theorem singleBody_runs
    {fuel : Nat}
    (line other : Nat)
    (done : List Char)
    (hRuns : Runs cs)
    (hColumn : 0 < column)
    (hOther : 0 < other)
    (hFuel : cs.length < fuel) :
    ∃ l k,
      singleBody fuel done
          ⟨singleText column false cs ++ '\'' :: '\n' :: rest, line,
            other⟩ =
        some
          (String.ofList (done.reverse ++ cs),
            ⟨'\n' :: rest, l, k⟩) := by
  induction hRuns generalizing done fuel line other with
  | nil =>
      cases fuel with
      | zero => simp at hFuel
      | succ fuel =>
          refine ⟨line, other + 1, ?_⟩
          rw [singleBody]
          simp [singleText, atMarker_behind _ _ _ hOther,
            Place.skip]
  | @char c cs hSolid hMore ih =>
      cases fuel with
      | zero => simp at hFuel
      | succ fuel =>
          have hBreak := (not_isGap hSolid).1
          have hStep :
              singleText column false (c :: cs) =
                twice c ++ singleText column false cs := by
            simp [singleText, hBreak]
          rcases ih line _ (c :: done)
              (Nat.add_pos_left hOther (twice c).length)
              (Nat.lt_of_succ_lt_succ hFuel) with ⟨l, k, hRest⟩
          refine ⟨l, k, ?_⟩
          rw [hStep, List.append_assoc,
            singleBody_twice hOther hSolid, hRest]
          simp
  | @blanks cs n hFirst hMore ih =>
      cases fuel with
      | zero => simp at hFuel
      | succ fuel =>
          rcases singleText_begins column ('\n' :: rest)
              hFirst with ⟨c, more, hBegins, hSolid⟩
          have hGap :=
            quotedGap_spaces line other (n + 1) more hSolid
          rw [← hBegins] at hGap
          have hLess : cs.length < fuel := by
            simp only [List.length_append,
              List.length_replicate] at hFuel
            omega
          rcases ih line _
              ((List.replicate (n + 1) ' ').reverse ++ done)
              (Nat.add_pos_left hOther (n + 1)) hLess with
            ⟨l, k, hRest⟩
          refine ⟨l, k, ?_⟩
          rw [singleText_spaces, List.append_assoc]
          rw [List.replicate_succ] at hGap hRest ⊢
          rw [List.cons_append] at hGap ⊢
          rw [singleBody_gap hOther rfl hGap, hRest]
          simp
  | @breaks c run cs hRun hFeed hFirst hMore ih =>
      cases fuel with
      | zero => simp at hFuel
      | succ fuel =>
          have hBreak : isBreak c = true := hRun c (by simp)
          have hGap :
              quotedGap
                  ⟨c :: (singleText column true (run ++ cs) ++
                    '\'' :: '\n' :: rest), line, other⟩ =
                some
                  (c :: run,
                    ⟨singleText column false cs ++
                        '\'' :: '\n' :: rest,
                      line + 1 + run.length, column⟩) := by
            have hTail : ∀ b ∈ run, isBreak b = true :=
              fun b hMember => hRun b (by simp [hMember])
            simp only [quotedGap, readGap, hBreak, if_true,
              breaks_single (line + 1) hTail hFirst,
              Option.map_some]
            simp [foldBreaks_eq run hFeed]
          have hLess : cs.length < fuel := by
            simp only [List.length_cons, List.length_append]
              at hFuel
            omega
          rcases ih (line + 1 + run.length) _
              ((c :: run).reverse ++ done) hColumn hLess with ⟨l, k, hRest⟩
          refine ⟨l, k, ?_⟩
          have hStep :
              singleText column false (c :: (run ++ cs)) =
                c :: singleText column true (run ++ cs) := by
            simp [singleText, hBreak]
          rw [hStep, List.cons_append,
            singleBody_gap hOther (by simp [isGap, hBreak]) hGap,
            hRest]
          simp

theorem length_le_singleText
    (column : Nat)
    (fresh : Bool)
    (cs : List Char) :
    cs.length ≤ (singleText column fresh cs).length := by
  induction cs generalizing fresh with
  | nil => simp
  | cons c cs ih =>
      have hTwice : 1 ≤ (twice c).length := by
        unfold twice
        split_ifs <;> simp
      have hFresh := ih true
      have hSame := ih false
      unfold singleText
      split_ifs <;>
        simp only [List.length_cons, List.length_append] <;> omega

theorem mem_singleText
    {c : Char}
    {fresh : Bool}
    (hMember : c ∈ singleText column fresh cs) :
    c ∈ cs ∨ c = ' ' ∨ c = '\'' := by
  have hIndent
      {fresh : Bool}
      (hBlank :
        c ∈ if fresh then List.replicate column ' ' else []) :
      c = ' ' := by
    split_ifs at hBlank
    · exact List.eq_of_mem_replicate hBlank
    · cases hBlank
  induction cs generalizing fresh with
  | nil => exact Or.inr (Or.inl (hIndent hMember))
  | cons b cs ih =>
      have hMore
          (hRest : c ∈ cs ∨ c = ' ' ∨ c = '\'') :
          c ∈ b :: cs ∨ c = ' ' ∨ c = '\'' :=
        hRest.imp_left (List.mem_cons_of_mem b)
      rw [singleText] at hMember
      by_cases hBreak : isBreak b = true
      · rw [if_pos hBreak] at hMember
        rcases List.mem_cons.mp hMember with rfl | hRest
        · exact Or.inl (by simp)
        · exact hMore (ih hRest)
      · rw [if_neg hBreak] at hMember
        rcases List.mem_append.mp hMember with hBlank | hMember
        · exact Or.inr (Or.inl (hIndent hBlank))
        · rcases List.mem_append.mp hMember with hFirst | hRest
          · unfold twice at hFirst
            split_ifs at hFirst
            · exact Or.inr (Or.inr (by simpa using hFirst))
            · exact Or.inl (by simp_all)
          · exact hMore (ih hRest)

/- A text in single quotes is read as the text. -/
theorem readSingle_text
    (rest : List Char)
    (line other : Nat)
    (hText : Quotable cs)
    (hColumn : 0 < column) :
    ∃ l k,
      readSingle ⟨writeSingle column cs ++ '\n' :: rest, line,
          other⟩ =
        some (String.ofList cs, ⟨'\n' :: rest, l, k⟩) := by
  have hLength := length_le_singleText column false cs
  rw [writeSingle_eq]
  simp only [List.cons_append, List.append_assoc,
    List.nil_append, readSingle, Place.skip, List.drop_one,
    List.tail_cons]
  apply singleBody_runs _ _ [] hText.runs hColumn
    (Nat.succ_pos _)
  simp only [List.length_cons, List.length_append]
  omega

end Single

end Yaml

end Devirt

------------------------------------------------------------
-- Texts in Double Quotes
------------------------------------------------------------

namespace Devirt

namespace Yaml

theorem hexDigit?_hexChar
    {n : Nat}
    (hDigit : n < 16) :
    Json.hexDigit? (hexChar n) = some n := by
  revert n
  decide

theorem length_hexText
    (width n : Nat) :
    (hexText width n).length = width := by
  induction width with
  | zero => rfl
  | succ width ih => rw [hexText, List.length_cons, ih]

/- Digits are added to a number from the first to the last. -/
theorem foldlM_hexText
    (width n start : Nat) :
    (hexText width n).foldlM
        (fun n c => (Json.hexDigit? c).map (16 * n + ·)) start =
      some (16 ^ width * start + n % 16 ^ width) := by
  induction width generalizing start with
  | zero => simp [hexText, Nat.mod_one]
  | succ width ih =>
      have hDigit :=
        hexDigit?_hexChar (n := n / 16 ^ width % 16)
          (Nat.mod_lt _ (by decide))
      have hSum :
          16 ^ width * (16 * start + n / 16 ^ width % 16) +
              n % 16 ^ width =
            16 ^ (width + 1) * start + n % 16 ^ (width + 1) := by
        rw [Nat.pow_succ, Nat.mod_mul]
        ring
      simp only [hexText, List.foldlM_cons, Nat.pow_eq, hDigit,
        Option.map_some, Option.bind_eq_bind, Option.bind_some,
        ih, hSum]

theorem hexEscape_hexText
    (width : Nat)
    (c : Char)
    (rest : List Char)
    (hWidth : c.toNat < 16 ^ width) :
    hexEscape width (hexText width c.toNat ++ rest) =
      some (c, width + 2) := by
  have hTake :
      (hexText width c.toNat ++ rest).take width =
        hexText width c.toNat :=
    List.take_left' (length_hexText width c.toNat)
  have hValid : c.toNat.isValidChar := c.valid
  simp [hexEscape, hTake, foldlM_hexText, length_hexText,
    Nat.mod_eq_of_lt hWidth, hValid]

theorem escape_short
    (rest : List Char) :
    ∀ e ∈ shortEscapes, escape (e.2 :: rest) = some (e.1, 2) := by
  simp [shortEscapes, escape]

/- Every escape is read as the character it stands for. -/
theorem escapeChar_spec
    (c : Char) :
    (escapeChar c = [c] ∧ isBreak c = false ∧ c ≠ '\t' ∧
        c ≠ '"' ∧ c ≠ '\\') ∨
      ∃ d name,
        escapeChar c = '\\' :: d :: name ∧ isBreak d = false ∧
          ∀ rest,
            escape (d :: (name ++ rest)) =
              some (c, name.length + 2) := by
  unfold escapeChar
  split_ifs with hStands
  · simp only [Bool.and_eq_true, Bool.not_eq_true', bne_iff_ne]
      at hStands
    rcases hStands with
      ⟨⟨⟨hPrintable, hBreak⟩, hQuote⟩, hSlash⟩
    refine Or.inl ⟨rfl, hBreak, ?_, hQuote, hSlash⟩
    rintro rfl
    exact absurd hPrintable (by decide)
  · right
    split
    · next e letter hFound =>
        have hMember := List.mem_of_find?_eq_some hFound
        have hSame : e = c := by
          simpa using List.find?_some hFound
        subst hSame
        refine ⟨letter, [], rfl, ?_, ?_⟩
        · have hLetters :
              ∀ e ∈ shortEscapes, isBreak e.2 = false := by
            decide
          exact hLetters _ hMember
        · intro rest
          exact escape_short rest _ hMember
    · dsimp only
      split_ifs with hByte hWord
      · refine ⟨'x', hexText 2 c.toNat, rfl, rfl, ?_⟩
        intro rest
        rw [length_hexText]
        exact hexEscape_hexText 2 c rest (by omega)
      · refine ⟨'u', hexText 4 c.toNat, rfl, rfl, ?_⟩
        intro rest
        rw [length_hexText]
        exact hexEscape_hexText 4 c rest (by omega)
      · refine ⟨'U', hexText 8 c.toNat, rfl, rfl, ?_⟩
        intro rest
        rw [length_hexText]
        refine hexEscape_hexText 8 c rest ?_
        have hValid : c.toNat.isValidChar := c.valid
        rcases hValid with hLow | ⟨-, hHigh⟩ <;> omega

section Double

variable {cs rest : List Char}

theorem escapeChar_begins
    {c : Char}
    (hOther : c ≠ ' ') :
    ∃ d more, escapeChar c = d :: more ∧ isGap d = false := by
  rcases escapeChar_spec c with
    ⟨hStands, hBreak, hTab, -⟩ | ⟨d, name, hEscape, -⟩
  · exact
      ⟨c, [], hStands,
        by simp [isGap, isSpace, hBreak, hTab, hOther]⟩
  · exact ⟨'\\', _, hEscape, rfl⟩

/- However a character is written, it is read in one step. -/
theorem doubleBody_escapeChar
    {fuel line column : Nat}
    {done : List Char}
    {c : Char}
    (hColumn : 0 < column)
    (hOther : c ≠ ' ') :
    doubleBody (fuel + 1) done
        ⟨escapeChar c ++ rest, line, column⟩ =
      doubleBody fuel (c :: done)
        ⟨rest, line, column + (escapeChar c).length⟩ := by
  rw [doubleBody]
  simp only [atMarker_behind _ _ _ hColumn, Bool.or_false,
    Bool.false_eq_true, if_false]
  rcases escapeChar_spec c with
    ⟨hStands, hBreak, hTab, hQuote, hSlash⟩ |
      ⟨d, name, hEscape, hBreak, hRead⟩
  · have hSolid : isGap c = false := by
      simp [isGap, isSpace, hBreak, hTab, hOther]
    rw [hStands]
    simp only [List.cons_append, List.nil_append, hSolid,
      Bool.false_eq_true, if_false]
    rfl
  · rw [hEscape]
    simp only [List.cons_append, List.head?_cons, Option.any_some,
      hBreak, Bool.false_eq_true, if_false, hRead rest]
    simp [Place.skip]

theorem doubleBody_spaces
    {fuel line column k : Nat}
    {done : List Char}
    {c : Char}
    {more : List Char}
    (hColumn : 0 < column)
    (hOther : isGap c = false) :
    doubleBody (fuel + 1) done
        ⟨List.replicate (k + 1) ' ' ++ c :: more, line, column⟩ =
      doubleBody fuel (List.replicate (k + 1) ' ' ++ done)
        ⟨c :: more, line, column + (k + 1)⟩ := by
  have hGap := quotedGap_spaces line column (k + 1) more hOther
  rw [doubleBody]
  simp only [atMarker_behind _ _ _ hColumn, Bool.or_false,
    Bool.false_eq_true, if_false]
  simp only [List.replicate_succ, List.cons_append] at hGap ⊢
  simp only [hGap, ← List.replicate_succ,
    List.reverse_replicate]
  rfl

theorem flatMap_spaces
    (k : Nat)
    (cs : List Char) :
    (List.replicate k ' ' ++ cs).flatMap escapeChar =
      List.replicate k ' ' ++ cs.flatMap escapeChar := by
  induction k with
  | zero => rfl
  | succ k ih =>
      have hBlank : escapeChar ' ' = [' '] := by decide
      rw [List.replicate_succ, List.cons_append, List.flatMap_cons,
        hBlank, ih]
      rfl

/-
  A text in double quotes is read up to the closing quote.  The
  induction is on the length of the text, since blanks are read
  by runs.
-/
theorem doubleBody_text
    {fuel : Nat}
    (line column : Nat)
    (done : List Char)
    (hColumn : 0 < column)
    (hFuel : cs.length < fuel) :
    ∃ k,
      doubleBody fuel done
          ⟨cs.flatMap escapeChar ++ '"' :: rest, line, column⟩ =
        some
          (String.ofList (done.reverse ++ cs),
            ⟨rest, line, k⟩) := by
  induction hLength : cs.length using Nat.strongRecOn
    generalizing cs done fuel column with
  | ind n ih =>
      cases fuel with
      | zero => omega
      | succ fuel =>
          rcases exists_spaces cs with ⟨k, more, rfl, hFirst⟩
          cases k with
          | zero =>
              rw [List.replicate_zero, List.nil_append]
                at hLength hFuel ⊢
              cases more with
              | nil =>
                  refine ⟨column + 1, ?_⟩
                  rw [doubleBody]
                  simp [atMarker_behind _ _ _ hColumn, Place.skip]
              | cons c more =>
                  rw [List.length_cons] at hLength hFuel
                  have hLess : more.length < fuel := by omega
                  rcases ih more.length (by omega) _ (c :: done)
                      (Nat.add_pos_left hColumn
                        (escapeChar c).length) hLess rfl with
                    ⟨k, hRest⟩
                  refine ⟨k, ?_⟩
                  rw [List.flatMap_cons, List.append_assoc,
                    doubleBody_escapeChar hColumn
                      (hFirst c (by simp)), hRest]
                  simp
          | succ k =>
              have hBegins :
                  ∃ d others,
                    more.flatMap escapeChar ++ '"' :: rest =
                        d :: others ∧
                      isGap d = false := by
                cases more with
                | nil => exact ⟨'"', rest, rfl, rfl⟩
                | cons c more =>
                    rcases escapeChar_begins
                        (hFirst c (by simp)) with
                      ⟨d, others, hEscape, hSolid⟩
                    rw [List.flatMap_cons, hEscape]
                    exact ⟨d, _, rfl, hSolid⟩
              rcases hBegins with ⟨d, others, hBegins, hSolid⟩
              rw [List.length_append, List.length_replicate]
                at hLength hFuel
              have hLess : more.length < fuel := by omega
              rcases ih more.length (by omega) _
                  (List.replicate (k + 1) ' ' ++ done)
                  (Nat.add_pos_left hColumn (k + 1)) hLess
                  rfl with ⟨l, hRest⟩
              refine ⟨l, ?_⟩
              rw [hBegins] at hRest
              rw [flatMap_spaces, List.append_assoc, hBegins,
                doubleBody_spaces hColumn hSolid, hRest]
              simp

theorem length_le_escaped
    (cs : List Char) :
    cs.length ≤ (cs.flatMap escapeChar).length := by
  induction cs with
  | nil => simp
  | cons c cs ih =>
      have hWritten : 1 ≤ (escapeChar c).length := by
        rcases escapeChar_spec c with
          ⟨hStands, -⟩ | ⟨d, name, hEscape, -⟩
        · simp [hStands]
        · simp [hEscape]
      rw [List.flatMap_cons, List.length_append,
        List.length_cons]
      omega

/- A text in double quotes is read as the text. -/
theorem readDouble_text
    (cs rest : List Char)
    (line column : Nat) :
    ∃ k,
      readDouble ⟨writeDouble cs ++ rest, line, column⟩ =
        some (String.ofList cs, ⟨rest, line, k⟩) := by
  have hLength := length_le_escaped cs
  simp only [writeDouble, List.cons_append, List.append_assoc,
    List.nil_append, readDouble, Place.skip, List.drop_one,
    List.tail_cons]
  apply doubleBody_text _ _ [] (Nat.succ_pos _)
  simp only [List.length_cons, List.length_append]
  omega

/- What is written between double quotes is printable. -/
theorem printable_hexText
    {width n : Nat}
    {d : Char}
    (hMember : d ∈ hexText width n) :
    isPrintable d = true := by
  have hDigits :
      ∀ m : Fin 16, isPrintable (hexChar m) = true := by
    decide
  induction width with
  | zero => cases hMember
  | succ width ih =>
      rcases List.mem_cons.mp hMember with rfl | hRest
      · exact
          hDigits
            ⟨n / Nat.pow 16 width % 16,
              Nat.mod_lt _ (by decide)⟩
      · exact ih hRest

theorem printable_escapeChar
    {c d : Char}
    (hMember : d ∈ escapeChar c) :
    isPrintable d = true := by
  have hSlash
      {name : List Char}
      (hName : ∀ b ∈ name, isPrintable b = true)
      (hMember : d ∈ '\\' :: name) :
      isPrintable d = true := by
    rcases List.mem_cons.mp hMember with rfl | hRest
    · rfl
    · exact hName d hRest
  unfold escapeChar at hMember
  split_ifs at hMember with hStands
  · simp only [Bool.and_eq_true] at hStands
    rw [List.mem_singleton.mp hMember]
    exact hStands.1.1.1
  · split at hMember
    · next e letter hFound =>
        have hLetters :
            ∀ e ∈ shortEscapes, isPrintable e.2 = true := by
          decide
        have hLetter :=
          hLetters _ (List.mem_of_find?_eq_some hFound)
        exact hSlash (by simpa using hLetter) hMember
    · dsimp only at hMember
      have hHex
          {b : Char}
          {width n : Nat}
          (hFirst : isPrintable b = true)
          (hMember : d ∈ '\\' :: b :: hexText width n) :
          isPrintable d = true := by
        apply hSlash _ hMember
        intro a hName
        rcases List.mem_cons.mp hName with rfl | hRest
        · exact hFirst
        · exact printable_hexText hRest
      split_ifs at hMember
      · exact hHex rfl hMember
      · exact hHex rfl hMember
      · exact hHex rfl hMember

end Double

end Yaml

end Devirt
