import Devirt.Proofs.Restoration.Numerals
import Devirt.Proofs.Source.Cutting
import Devirt.Proofs.Source.Resuming

/-
  Scripts with their hexadecimal numerals written in decimal.

  The relation keeps the cells of a script, except for numerals
  that are code and stand apart; all of these are written in
  decimal.  The scanner reads the result as it has read the
  script: a numeral is a word that is no keyword, whatever its
  digits are, and slashes look ahead over it.  No numeral is
  left that could be written in decimal.

  Main declarations:
    * `IsApart`, `Collapses`, `Collapses.unique`
    * `Collapses.scan_eq`, `Collapses.again`
-/

------------------------------------------------------------
-- Numerals of Code
------------------------------------------------------------

namespace Devirt

open Scanner CodeMap

namespace HexNumeral

/- A numeral that is code. -/
def cells (n : HexNumeral) : List Cell :=
  codeCells (n.text.map byte)

/- The same number in decimal. -/
def decimalCells (n : HexNumeral) : List Cell :=
  codeCells (n.decimal.map byte)

theorem isIdentifier_text
    (n : HexNumeral) :
    ∀ b ∈ n.text.map byte, isIdentifier b = true := by
  intro b hMember
  rcases List.mem_map.mp hMember with ⟨c, hChar, rfl⟩
  exact isIdentifier_of_continuesWord (n.text_continues c hChar)

theorem isDecimal_byte
    {c : Char}
    (hDigit : c.isDigit = true) :
    isDecimal (byte c) = true :=
  forall_ascii
    (motive := fun c => c.isDigit = true → isDecimal (byte c) = true)
    (by decide) (ascii_of_isDigit hDigit) hDigit

theorem isDecimal_decimal
    (n : HexNumeral) :
    ∀ b ∈ n.decimal.map byte, isDecimal b = true := by
  intro b hMember
  rcases List.mem_map.mp hMember with ⟨c, hChar, rfl⟩
  exact isDecimal_byte (n.decimal_isDigit c hChar)

theorem isIdentifier_decimal
    (n : HexNumeral) :
    ∀ b ∈ n.decimal.map byte, isIdentifier b = true :=
  fun b hMember =>
    isIdentifier_of_isDecimal (n.isDecimal_decimal b hMember)

theorem exists_decimal
    (n : HexNumeral) :
    ∃ b bs, n.decimal.map byte = b :: bs ∧ isDecimal b = true := by
  cases hDigits : n.decimal.map byte with
  | nil =>
      exact
        absurd (List.map_eq_nil_iff.mp hDigits)
          Nat.toDigits_ne_nil
  | cons b bs =>
      exact
        ⟨b, bs, rfl,
          n.isDecimal_decimal b (by simp [hDigits])⟩

theorem text_digit
    (n : HexNumeral) :
    BeginsWithDigit (n.text.map byte) :=
  ⟨byte '0', rfl, by decide⟩

theorem decimal_digit
    (n : HexNumeral) :
    BeginsWithDigit (n.decimal.map byte) := by
  rcases n.exists_decimal with ⟨b, bs, hDigits, hDigit⟩
  rw [hDigits]
  exact ⟨b, rfl, hDigit⟩

theorem plain_zero : IsPlain (byte '0') :=
  plain_of_char (by decide) (by decide)

theorem map_byte_injective
    {cs ds : List Char}
    (hLeft : ∀ c ∈ cs, c.toNat < 128)
    (hRight : ∀ c ∈ ds, c.toNat < 128)
    (hSame : cs.map byte = ds.map byte) :
    cs = ds := by
  rw [← bytesOf_ofList hLeft, ← bytesOf_ofList hRight] at hSame
  exact String.ofList_injective (bytesOf_injective hSame)

/- Where a numeral ends is known from what follows it. -/
theorem cells_append_inj
    {n n' : HexNumeral}
    {rest rest' : List Cell}
    (hSame : n.cells ++ rest = n'.cells ++ rest')
    (hEnds : ∀ c ∈ rest.head?, continuesWord c.byte = false)
    (hEnds' : ∀ c ∈ rest'.head?, continuesWord c.byte = false) :
    n = n' ∧ rest = rest' := by
  have hRun :
      ∀ (n : HexNumeral), ∀ c ∈ n.cells,
        continuesWord c.byte = true := by
    intro n c hMember
    rcases List.mem_map.mp hMember with ⟨b, hByte, rfl⟩
    rcases List.mem_map.mp hByte with ⟨d, hChar, rfl⟩
    exact n.text_continues d hChar
  have hTaken :
      ∀ (n : HexNumeral) (rest : List Cell),
        (∀ c ∈ rest.head?, continuesWord c.byte = false) →
          (n.cells ++ rest).takeWhile
            (fun c => continuesWord c.byte) = n.cells := by
    intro n rest hEnds
    rw [List.takeWhile_append_of_pos (hRun n)]
    cases rest with
    | nil => simp
    | cons c rest => simp [hEnds c rfl]
  have hCells : n.cells = n'.cells := by
    rw [← hTaken n rest hEnds, hSame, hTaken n' rest' hEnds']
  have hBytes := congrArg (List.map Cell.byte) hCells
  rw [cells, cells, codeCells_bytes, codeCells_bytes] at hBytes
  have hTexts :=
    map_byte_injective n.text_ascii n'.text_ascii hBytes
  refine ⟨ext_of_text hTexts, ?_⟩
  rw [hCells] at hSame
  exact List.append_cancel_left hSame

/- A numeral has a zero first, and then no digit. -/
theorem second_of_cells
    {n : HexNumeral}
    {c d : Cell}
    {more rest : List Cell}
    (hCells : c :: d :: more = n.cells ++ rest) :
    continuesWord d.byte = true ∧ isDecimal d.byte = false := by
  have hSecond : d = ⟨byte n.mark, true⟩ :=
    (List.cons.inj (List.cons.inj hCells).2).1
  have hMark : n.mark = 'x' ∨ n.mark = 'X' := by
    simpa using n.mark_mem
  rw [hSecond]
  rcases hMark with hMark | hMark <;> rw [hMark] <;> decide

theorem isIdentifier_cells
    (n : HexNumeral) :
    ∀ c ∈ n.cells, isIdentifier c.byte = true := by
  intro c hMember
  rcases List.mem_map.mp hMember with ⟨b, hByte, rfl⟩
  exact n.isIdentifier_text b hByte

/- The last byte of a numeral. -/
theorem cells_last
    (n : HexNumeral)
    (before : List UInt8) :
    n.cells.getLast?.map (·.byte) =
      ((n.text.map byte).reverse ++ before).head? := by
  have hText : (n.text.map byte).reverse ≠ [] := by
    simp [HexNumeral.text]
  rw [List.head?_append_of_ne_nil _ hText, List.head?_reverse,
    ← List.getLast?_map, cells, codeCells_bytes]

end HexNumeral

------------------------------------------------------------
-- The Relation
------------------------------------------------------------

/- Nothing, or code that sets apart what follows it. -/
def SetsApart (before : Option Cell) : Prop :=
  ∀ c ∈ before,
    c.isCode = true ∧ isIdentifier c.byte = false ∧
      c.byte ≠ byte '.'

/- No word ends right before what is set apart. -/
theorem SetsApart.trailingWord_eq
    {before : Option Cell}
    {last : List UInt8}
    (hBefore : SetsApart before)
    (hSame : before.map (·.byte) = last.head?) :
    trailingWord last = [] := by
  cases last with
  | nil => rfl
  | cons b last =>
      rcases Option.map_eq_some_iff.mp hSame with ⟨c, hCell, rfl⟩
      rw [trailingWord_cons, (hBefore c hCell).2.1]
      rfl

/- What lies between neither goes on before nor behind. -/
structure IsApart
    (before : Option Cell)
    (rest : List Cell) : Prop where
  before : SetsApart before
  rest : ∀ c ∈ rest.head?, continuesWord c.byte = false

/-
  Cells become others, from a cell on: numerals that are apart
  are written in decimal, and their number is counted.
-/
inductive Collapses :
    Option Cell → List Cell → List Cell → Nat → Prop where
  | done
      (before : Option Cell) :
      Collapses before [] [] 0
  | keep
      {before : Option Cell}
      {c : Cell}
      {cells out : List Cell}
      {count : Nat}
      (hNone :
        ∀ (n : HexNumeral) (rest : List Cell),
          c :: cells = n.cells ++ rest → ¬ IsApart before rest)
      (hRest : Collapses (some c) cells out count) :
      Collapses before (c :: cells) (c :: out) count
  | collapse
      {before : Option Cell}
      {rest out : List Cell}
      {count : Nat}
      (n : HexNumeral)
      (hApart : IsApart before rest)
      (hRest : Collapses n.cells.getLast? rest out count) :
      Collapses before (n.cells ++ rest) (n.decimalCells ++ out)
        (count + 1)

namespace Collapses

variable {before : Option Cell}
variable {cells out : List Cell}
variable {count : Nat}

/- Where no numeral is apart, the next cell is kept. -/
theorem kept
    (hCollapses : Collapses before cells out count)
    (hNone :
      ∀ (n : HexNumeral) (rest : List Cell),
        cells = n.cells ++ rest → ¬ IsApart before rest) :
    (cells = [] ∧ out = [] ∧ count = 0) ∨
      ∃ c later others,
        cells = c :: later ∧ out = c :: others ∧
          Collapses (some c) later others count := by
  cases hCollapses with
  | done => exact Or.inl ⟨rfl, rfl, rfl⟩
  | keep hNone hRest => exact Or.inr ⟨_, _, _, rfl, rfl, hRest⟩
  | collapse n hApart hRest =>
      exact absurd hApart (hNone n _ rfl)

/- Only code begins numerals, and only with a zero. -/
theorem kept_of_ne
    {c : Cell}
    (hCollapses : Collapses before (c :: cells) out count)
    (hOther : c ≠ ⟨byte '0', true⟩) :
    ∃ others,
      out = c :: others ∧ Collapses (some c) cells others count := by
  have hNone :
      ∀ (n : HexNumeral) (rest : List Cell),
        c :: cells = n.cells ++ rest → ¬ IsApart before rest := by
    intro n rest hSame
    exact absurd (List.cons.inj hSame).1 hOther
  rcases hCollapses.kept hNone with
    ⟨hNil, -⟩ | ⟨_, _, others, hSame, hOut, hRest⟩
  · cases hNil
  · rcases List.cons.inj hSame with ⟨rfl, rfl⟩
    exact ⟨others, hOut, hRest⟩

/- Literals are kept. -/
theorem kept_literals
    {bytes : List UInt8}
    (hCollapses :
      Collapses before (bytes.map (Cell.mk · false) ++ cells) out
        count) :
    ∃ index others,
      out = bytes.map (Cell.mk · false) ++ others ∧
        Collapses index cells others count := by
  induction bytes generalizing before out with
  | nil => exact ⟨before, out, rfl, hCollapses⟩
  | cons b bytes ih =>
      rcases hCollapses.kept_of_ne (by simp) with
        ⟨others, rfl, hRest⟩
      rcases ih hRest with ⟨index, later, rfl, hLater⟩
      exact ⟨index, later, rfl, hLater⟩

/- Bytes that are no digits come first in both or in none. -/
theorem head?_iff
    {mark : UInt8}
    (hCollapses : Collapses before cells out count)
    (hMark : isDecimal mark = false) :
    (out.map (·.byte)).head? = some mark ↔
      (cells.map (·.byte)).head? = some mark := by
  cases hCollapses with
  | done => exact Iff.rfl
  | keep hNone hRest => exact Iff.rfl
  | @collapse _ rest out count n hApart hRest =>
      rcases n.exists_decimal with ⟨b, bs, hDigits, hDigit⟩
      have hOther : b ≠ mark := by
        rintro rfl
        rw [hDigit] at hMark
        cases hMark
      have hZero : byte '0' ≠ mark := by
        rintro rfl
        exact absurd hMark (by decide)
      simp [HexNumeral.decimalCells, HexNumeral.cells, hDigits,
        HexNumeral.text, hOther, hZero]

/-
  A regular expression is closed in both or in none: the digits
  of a numeral neither open nor close anything.
-/
theorem isSome_regexLength?
    (hCollapses : Collapses before cells out count)
    (inClass escaped : Bool)
    {n m : Nat}
    (hZero : m = 0 ↔ n = 0) :
    (regexLength? inClass escaped m (out.map (·.byte))).isSome =
      (regexLength? inClass escaped n
        (cells.map (·.byte))).isSome := by
  induction hCollapses generalizing inClass escaped n m with
  | done => rfl
  | @keep before c cells out count hNone hRest ih =>
      have hNext : m + 1 = 0 ↔ n + 1 = 0 := by omega
      rw [List.map_cons, List.map_cons]
      cases escaped with
      | true => exact ih inClass false hNext
      | false =>
          simp only [regexLength?]
          split_ifs <;> first | exact ih _ _ hNext | simp_all
  | @collapse before rest out count numeral hApart hRest ih =>
      rcases numeral.exists_decimal with ⟨b, bs, hDigits, -⟩
      rw [List.map_append, List.map_append, HexNumeral.cells,
        HexNumeral.decimalCells, codeCells_bytes,
        codeCells_bytes,
        regexLength?_word _ _ _ _ numeral.isIdentifier_decimal
          (by simp [hDigits]),
        regexLength?_word _ _ _ _ numeral.isIdentifier_text
          (by simp [HexNumeral.text])]
      apply ih
      simp [hDigits, HexNumeral.text]

------------------------------------------------------------
-- Scanning Again
------------------------------------------------------------

/- What follows a slash looks the same in both. -/
theorem looksAlike
    {s : State}
    {last after : List UInt8}
    (hCollapses :
      Collapses before
        (scan (step s last slash after).2 (slash :: last) after)
        out count)
    (hTop : s.mode = .top) :
    LooksAlike s last after (out.map (·.byte)) := by
  refine ⟨?_, ?_, ?_⟩
  · intro mark hMark
    have hDigit : isDecimal mark = false := by
      rcases List.mem_pair.mp hMark with rfl | rfl <;> decide
    have hHead := hCollapses.head?_iff hDigit
    rwa [scan_bytes] at hHead
  · intro n hMode
    have hLength := regexLength?_of_step hTop hMode
    rcases regexLength?_body hLength with
      ⟨body, rest, rfl, hSum, hOther⟩
    have hState :
        (step s last slash (body ++ slash :: rest)).2 =
          ⟨.regex body.length,
            (step s last slash (body ++ slash :: rest)).2.last⟩ := by
      rw [← Nat.zero_add body.length, ← hSum, ← hMode]
    rw [hState, scan_regex] at hCollapses
    rcases hCollapses.kept_literals with
      ⟨index, others, rfl, hBehind⟩
    rcases hBehind.kept_of_ne (by decide) with ⟨later, rfl, -⟩
    simpa [Function.comp_def] using hOther (later.map (·.byte))
  · intro hNone
    have hSame :=
      hCollapses.isSome_regexLength? false false (n := 0) Iff.rfl
    rw [scan_bytes, hNone] at hSame
    exact Option.isNone_iff_eq_none.mp (by simpa using hSame)

/- The scanner finds in the result what the relation says. -/
theorem scan_eq
    {s t : State}
    {last behind bytes : List UInt8}
    (hCollapses : Collapses before cells out count)
    (hBefore : before.map (·.byte) = last.head?)
    (hCells : cells = scan s last bytes)
    (hAlike : Alike s t last behind)
    (hFits : s.mode.Fits bytes) :
    scan t behind (out.map (·.byte)) = out := by
  induction hCollapses generalizing s t last behind bytes with
  | done => rfl
  | @keep before c cells out count hNone hRest ih =>
      cases bytes with
      | nil => cases hCells
      | cons b after =>
          rw [scan_cons] at hCells
          rcases List.cons.inj hCells with ⟨rfl, rfl⟩
          have hLooks :
              s.mode = .top → b = slash →
                LooksAlike s last after (out.map (·.byte)) := by
            rintro hTop rfl
            exact hRest.looksAlike hTop
          have hStep := hAlike.step hLooks
          rw [List.map_cons, scan_cons, hStep.1,
            ih rfl rfl hStep.2 (step_fits last hFits)]
  | @collapse before rest out count n hApart hRest ih =>
      have hText : n.text.map byte ≠ [] := by
        simp [HexNumeral.text]
      have hDecimal : n.decimal.map byte ≠ [] := by
        rcases n.exists_decimal with ⟨b, bs, hDigits, -⟩
        simp [hDigits]
      have hBytes :
          bytes = n.text.map byte ++ rest.map (·.byte) := by
        rw [← scan_bytes s last bytes, ← hCells,
          List.map_append, HexNumeral.cells, codeCells_bytes]
      subst hBytes
      have hTop : s.mode = .top :=
        mode_of_plain hFits HexNumeral.plain_zero hCells
      rcases s with ⟨mode, known⟩
      rcases t with ⟨mode', known'⟩
      have hMode : mode' = mode := hAlike.mode_eq
      have hTop : mode = .top := hTop
      subst hMode
      subst hTop
      rw [scan_word known last _ n.isIdentifier_text hText]
        at hCells
      have hLater := List.append_cancel_left hCells
      have hLast := hApart.before.trailingWord_eq hBefore
      have hAfter :=
        alike_of_digits n.isIdentifier_text
          n.isIdentifier_decimal n.text_digit n.decimal_digit
          hLast (hAlike.words.eq_nil hLast)
      rw [List.map_append, HexNumeral.decimalCells,
        codeCells_bytes,
        scan_word known' behind _ n.isIdentifier_decimal
          hDecimal,
        ih (n.cells_last last) hLater hAfter trivial]

------------------------------------------------------------
-- Normal Forms
------------------------------------------------------------

/- Cells become one list of cells only. -/
theorem unique
    {out' : List Cell}
    {count' : Nat}
    (hCollapses : Collapses before cells out count)
    (hOther : Collapses before cells out' count') :
    out' = out ∧ count' = count := by
  induction hCollapses generalizing out' count' with
  | done =>
      rcases hOther.kept (by
          intro n rest hNil
          cases hNil) with
        ⟨-, hOut, hCount⟩ | ⟨_, _, _, hCons, -⟩
      · exact ⟨hOut, hCount⟩
      · cases hCons
  | @keep before c cells out count hNone hRest ih =>
      rcases hOther.kept hNone with
        ⟨hNil, -⟩ | ⟨_, _, others, hSame, rfl, hLater⟩
      · cases hNil
      · rcases List.cons.inj hSame with ⟨rfl, rfl⟩
        rcases ih hLater with ⟨rfl, rfl⟩
        exact ⟨rfl, rfl⟩
  | @collapse before rest out count n hApart hRest ih =>
      generalize hCells : n.cells ++ rest = cells at hOther
      cases hOther with
      | done => cases hCells
      | keep hNone hLater =>
          exact absurd hApart (hNone n rest hCells.symm)
      | @collapse _ rest' out' count' n' hApart' hLater =>
          rcases HexNumeral.cells_append_inj hCells hApart.rest
              hApart'.rest with
            ⟨rfl, rfl⟩
          rcases ih hLater with ⟨rfl, rfl⟩
          exact ⟨rfl, rfl⟩

/- Behind the byte of a word nothing is set apart. -/
theorem not_isApart
    {c : Cell}
    (rest : List Cell)
    (hWord : isIdentifier c.byte = true) :
    ¬ IsApart (some c) rest := by
  intro hApart
  rw [(hApart.before c rfl).2.1] at hWord
  cases hWord

/- The rest of a word is kept, up to what follows it. -/
theorem kept_word
    {c : Cell}
    {word others : List Cell}
    (hCollapses : Collapses (some c) cells (word ++ others) count)
    (hFirst : isIdentifier c.byte = true)
    (hWord : ∀ d ∈ word, isIdentifier d.byte = true) :
    ∃ rest,
      cells = word ++ rest ∧ rest.head? = others.head? := by
  induction word generalizing c cells with
  | nil =>
      rcases hCollapses.kept fun _ rest _ =>
          not_isApart rest hFirst with
        ⟨rfl, hOut, -⟩ | ⟨d, later, more, rfl, hOut, -⟩
      · exact ⟨[], rfl, by rw [show others = [] from hOut]⟩
      · exact
          ⟨d :: later, rfl,
            by rw [show others = d :: more from hOut]; rfl⟩
  | cons d word ih =>
      rcases List.forall_mem_cons.mp hWord with ⟨hHere, hLater⟩
      rcases hCollapses.kept fun _ rest _ =>
          not_isApart rest hFirst with
        ⟨-, hOut, -⟩ | ⟨_, later, more, rfl, hOut, hRest⟩
      · cases hOut
      · rcases List.cons.inj hOut with ⟨rfl, rfl⟩
        rcases ih hRest hHere hLater with ⟨rest, rfl, hHead⟩
        exact ⟨rest, rfl, hHead⟩

/- Nothing is set apart behind a word. -/
theorem not_setsApart_run
    {run : List UInt8}
    (hRun : ∀ b ∈ run, isIdentifier b = true)
    (hSome : run ≠ []) :
    ¬ SetsApart (codeCells run).getLast? := by
  intro hApart
  have hLast := hRun _ (List.getLast_mem hSome)
  rw [codeCells, List.getLast?_map,
    List.getLast?_eq_some_getLast hSome] at hApart
  rw [(hApart _ rfl).2.1] at hLast
  cases hLast

/- Numerals in decimal are kept. -/
theorem keep_decimal
    {digits : List UInt8}
    (hDigits : ∀ b ∈ digits, isDecimal b = true)
    (hSome : digits ≠ [])
    (hEnds : ∀ c ∈ out.head?, continuesWord c.byte = false)
    (hRest : Collapses (codeCells digits).getLast? out out 0) :
    Collapses before (codeCells digits ++ out)
      (codeCells digits ++ out) 0 := by
  induction digits generalizing before with
  | nil => exact absurd rfl hSome
  | cons b digits ih =>
      rcases List.forall_mem_cons.mp hDigits with
        ⟨-, hLater⟩
      cases digits with
      | nil =>
          refine .keep ?_ hRest
          intro n rest hCells
          cases out with
          | nil => cases hCells
          | cons c out =>
              have hSecond := HexNumeral.second_of_cells hCells
              rw [hEnds c rfl] at hSecond
              cases hSecond.1
      | cons d digits =>
          refine .keep ?_ (ih hLater (by simp) hRest)
          intro n rest hCells
          have hSecond := HexNumeral.second_of_cells hCells
          rw [hLater d List.mem_cons_self] at hSecond
          cases hSecond.2

/- What was written in decimal stays as it is. -/
theorem again
    {behind : Option Cell}
    (hCollapses : Collapses before cells out count)
    (hSame : SetsApart behind ↔ SetsApart before) :
    Collapses behind out out 0 := by
  induction hCollapses generalizing behind with
  | done => exact .done behind
  | @keep before c cells out count hNone hRest ih =>
      refine .keep ?_ (ih Iff.rfl)
      intro n rest hCells hApart
      -- the numeral was there before
      rcases List.cons.inj hCells with ⟨rfl, hOut⟩
      rw [hOut] at hRest
      have hWord :
          ∀ d ∈ n.cells.tail, isIdentifier d.byte = true := by
        intro d hMember
        exact n.isIdentifier_cells d (List.mem_of_mem_tail hMember)
      rcases hRest.kept_word (by decide) hWord with
        ⟨rest', rfl, hHead⟩
      refine hNone n rest' rfl ⟨hSame.mp hApart.before, ?_⟩
      rw [hHead]
      exact hApart.rest
  | @collapse before rest out count n hApart hRest ih =>
      have hText : n.text.map byte ≠ [] := by
        simp [HexNumeral.text]
      have hDecimal : n.decimal.map byte ≠ [] := by
        rcases n.exists_decimal with ⟨b, bs, hDigits, -⟩
        simp [hDigits]
      have hLast :
          SetsApart n.decimalCells.getLast? ↔
            SetsApart n.cells.getLast? :=
        iff_of_false
          (not_setsApart_run n.isIdentifier_decimal hDecimal)
          (not_setsApart_run n.isIdentifier_text hText)
      have hCells : n.cells ≠ [] := by
        simp [HexNumeral.cells, HexNumeral.text, codeCells]
      have hEnds :
          ∀ c ∈ out.head?, continuesWord c.byte = false := by
        rw [List.getLast?_eq_some_getLast hCells] at hRest
        have hNothing : Collapses _ rest ([] ++ out) count := hRest
        rcases hNothing.kept_word
            (n.isIdentifier_cells _ (List.getLast_mem hCells))
            (by simp) with
          ⟨rest', hRest', hHead⟩
        rw [← hHead, ← show rest = rest' from hRest']
        exact hApart.rest
      exact
        keep_decimal n.isDecimal_decimal hDecimal hEnds (ih hLast)

end Collapses

end Devirt
