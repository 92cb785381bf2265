import Devirt.Proofs.Source.Operands

/-
  The rest of a script, scanned from anew.

  Where the scanner is at the top level, it could begin anew
  but for what it remembers: the last significant byte.  This
  matters up to the next significant byte only, and only if
  that is a slash.  Behind an operand the slash divides, while
  a scan that begins there takes it for the beginning of a
  regular expression, if one can be closed on the line.  So the
  two scans tell all bytes apart in the same way unless the
  rest begins with blanks, comments and such a slash.

  Main declarations:
    * `Scanner.Alike.scan_eq`, `Scanner.scan_quoted_eq`
    * `Scanner.IsGap`, `Scanner.exists_gap`
    * `Scanner.BeginsWithRegex`
    * `Scanner.scan_initial_eq_iff`
-/

------------------------------------------------------------
-- Runs from Different States
------------------------------------------------------------

namespace Devirt

namespace Scanner

open CodeMap

/- The same bytes ahead look alike. -/
theorem looksAlike_refl
    {s : State}
    (before after : List UInt8)
    (hTop : s.mode = .top) :
    LooksAlike s before after after where
  head := fun _ _ => Iff.rfl
  length := fun _ hMode => regexLength?_of_step hTop hMode
  none := fun hNone => hNone

/- The same bytes are read alike from states that are alike. -/
theorem Alike.scan_eq
    {s t : State}
    {before behind bytes : List UInt8}
    (hAlike : Alike s t before behind) :
    scan t behind bytes = scan s before bytes := by
  induction bytes generalizing s t before behind with
  | nil => rfl
  | cons b after ih =>
      have hLooks :
          s.mode = .top → b = slash →
            LooksAlike s before after after :=
        fun hTop _ => looksAlike_refl before after hTop
      have hStep := hAlike.step hLooks
      rw [scan_cons, scan_cons, hStep.1, ih hStep.2]

/- Within a string nothing is known of what came before it. -/
theorem scan_quoted_eq
    (q : UInt8)
    (last other : Option (List UInt8))
    (before bytes : List UInt8) :
    scan ⟨.quoted q, other⟩ before bytes =
        scan ⟨.quoted q, last⟩ before bytes ∧
      scan ⟨.escaped q, other⟩ before bytes =
        scan ⟨.escaped q, last⟩ before bytes := by
  induction bytes generalizing before with
  | nil => exact ⟨rfl, rfl⟩
  | cons b after ih =>
      rcases ih (b :: before) with ⟨hQuoted, hEscaped⟩
      refine ⟨?_, ?_⟩
      · rw [scan_cons, scan_cons]
        simp only [step]
        split_ifs
        · rfl
        · rw [hEscaped]
        · rfl
        · rw [hQuoted]
      · rw [scan_cons, scan_cons]
        simp only [step]
        rw [hQuoted]

------------------------------------------------------------
-- Gaps
------------------------------------------------------------

/-
  A blank or a comment, as the scanner reads it: a line comment
  ends with a line feed, a block comment with the first slash
  behind an asterisk, be it the opening one.
-/
inductive IsGapPart : List UInt8 → Prop where
  | blank
      {b : UInt8}
      (hSpace : isSpace b = true) :
      IsGapPart [b]
  | lineComment
      {body : List UInt8}
      (hLine : lineFeed ∉ body) :
      IsGapPart (slash :: slash :: (body ++ [lineFeed]))
  | blockComment
      {body : List UInt8}
      (hMark : body.head? = some asterisk)
      (hClose : body.getLast? = some asterisk)
      (hOpen : ¬ [asterisk, slash] <:+: body) :
      IsGapPart (slash :: (body ++ [slash]))

inductive IsGap : List UInt8 → Prop where
  | nil : IsGap []
  | append
      {part rest : List UInt8}
      (hPart : IsGapPart part)
      (hRest : IsGap rest) :
      IsGap (part ++ rest)

/- What can stand behind a gap. -/
inductive EndsGap : List UInt8 → Prop where
  | nothing : EndsGap []
  | lineComment
      {body : List UInt8}
      (hLine : lineFeed ∉ body) :
      EndsGap (slash :: slash :: body)
  | blockComment
      {body : List UInt8}
      (hMark : body.head? = some asterisk)
      (hOpen : ¬ [asterisk, slash] <:+: body) :
      EndsGap (slash :: body)
  | significant
      {b : UInt8}
      {rest : List UInt8}
      (hSpace : isSpace b = false)
      (hComment :
        b = slash →
          rest.head? ≠ some slash ∧ rest.head? ≠ some asterisk) :
      EndsGap (b :: rest)

/-
  Either a pair of bytes occurs nowhere in a row, or there is
  a first place where it does.
-/
theorem first_pair
    {α : Type}
    (a b : α)
    (bytes : List α) :
    ¬ [a, b] <:+: bytes ∨
      ∃ front rest,
        bytes = front ++ b :: rest ∧
          front.getLast? = some a ∧ ¬ [a, b] <:+: front := by
  induction bytes with
  | nil => exact Or.inl (by simp)
  | cons first bytes ih =>
      by_cases hHere : [a, b] <+: first :: bytes
      · rcases List.cons_prefix_cons.mp hHere with
          ⟨rfl, rest, rfl⟩
        refine Or.inr ⟨[a], rest, rfl, rfl, ?_⟩
        intro hInfix
        have hLength := hInfix.length_le
        simp at hLength
      · rcases ih with hNone | ⟨front, rest, rfl, hLast, hOpen⟩
        · left
          rw [List.infix_cons_iff]
          exact not_or.mpr ⟨hHere, hNone⟩
        · refine Or.inr ⟨first :: front, rest, rfl, ?_, ?_⟩
          · rw [List.getLast?_cons, hLast]
            rfl
          · rw [List.infix_cons_iff]
            refine not_or.mpr ⟨?_, hOpen⟩
            intro hPrefix
            exact
              hHere (hPrefix.trans (List.prefix_append _ (b :: rest)))

/- A line comment ends with the first line feed, if there is one. -/
theorem lineComment_cases
    (body : List UInt8) :
    EndsGap (slash :: slash :: body) ∨
      ∃ part later,
        IsGapPart part ∧ slash :: slash :: body = part ++ later := by
  by_cases hFeed : lineFeed ∈ body
  · rcases List.eq_append_cons_of_mem hFeed with
      ⟨line, later, rfl, hLine⟩
    exact Or.inr ⟨_, later, .lineComment hLine, by simp⟩
  · exact Or.inl (.lineComment hFeed)

theorem blockComment_cases
    {bytes : List UInt8}
    (hMark : bytes.head? = some asterisk) :
    EndsGap (slash :: bytes) ∨
      ∃ part later,
        IsGapPart part ∧ slash :: bytes = part ++ later := by
  rcases first_pair asterisk slash bytes with
    hOpen | ⟨body, later, rfl, hClose, hOpen⟩
  · exact Or.inl (.blockComment hMark hOpen)
  · have hBody : body.head? = some asterisk := by
      cases body with
      | nil => cases hClose
      | cons b body => exact hMark
    exact
      Or.inr
        ⟨_, later, .blockComment hBody hClose hOpen, by simp⟩

/- Bytes begin with a part of a gap, or there is none. -/
theorem endsGap_or_gapPart
    (bytes : List UInt8) :
    EndsGap bytes ∨
      ∃ part later, IsGapPart part ∧ bytes = part ++ later := by
  cases bytes with
  | nil => exact Or.inl .nothing
  | cons b bytes =>
      by_cases hSpace : isSpace b = true
      · exact Or.inr ⟨[b], bytes, .blank hSpace, rfl⟩
      · by_cases hLine : b = slash ∧ bytes.head? = some slash
        · obtain ⟨body, rfl⟩ := List.head?_eq_some_iff.mp hLine.2
          rw [hLine.1]
          exact lineComment_cases body
        · by_cases hBlock : b = slash ∧ bytes.head? = some asterisk
          · rw [hBlock.1]
            exact blockComment_cases hBlock.2
          · refine
              Or.inl
                (.significant (Bool.eq_false_iff.mpr hSpace) ?_)
            intro hHere
            exact
              ⟨fun hNext => hLine ⟨hHere, hNext⟩,
                fun hNext => hBlock ⟨hHere, hNext⟩⟩

theorem IsGapPart.length_pos
    {part : List UInt8}
    (hPart : IsGapPart part) :
    0 < part.length := by
  cases hPart <;> exact Nat.succ_pos _

/- Every rest of a script begins with a gap, if an empty one. -/
theorem exists_gap
    (bytes : List UInt8) :
    ∃ gap rest,
      bytes = gap ++ rest ∧ IsGap gap ∧ EndsGap rest := by
  rcases endsGap_or_gapPart bytes with
    hEnds | ⟨part, later, hPart, hBytes⟩
  · exact ⟨[], bytes, rfl, .nil, hEnds⟩
  · have hShorter : later.length < bytes.length := by
      have hPos := hPart.length_pos
      rw [hBytes, List.length_append]
      omega
    rcases exists_gap later with ⟨gap, rest, rfl, hGap, hEnds⟩
    exact
      ⟨part ++ gap, rest, by rw [hBytes, List.append_assoc],
        .append hPart hGap, hEnds⟩
  termination_by bytes.length

------------------------------------------------------------
-- Reading Gaps
------------------------------------------------------------

variable {last : Option (List UInt8)}
variable {before ahead : List UInt8}

/-
  A block comment goes on while no slash stands behind an
  asterisk; the bytes of the comment read before come first.
-/
theorem reads_blockBytes
    {bytes : List UInt8}
    (front : List UInt8)
    (hOpen : ¬ [asterisk, slash] <:+: front ++ bytes) :
    Reads
      ⟨.blockComment (front.getLast? == some asterisk), last⟩
      before bytes ahead (literalCells bytes)
      ⟨.blockComment ((front ++ bytes).getLast? == some asterisk),
        last⟩ := by
  induction bytes generalizing front before with
  | nil =>
      rw [List.append_nil]
      exact .nil _ _ _
  | cons b bytes ih =>
      have hFront : front ++ b :: bytes = (front ++ [b]) ++ bytes := by
        simp
      have hStays :
          (b == slash && front.getLast? == some asterisk) =
            false := by
        rw [Bool.eq_false_iff]
        intro hBoth
        simp only [Bool.and_eq_true, beq_iff_eq] at hBoth
        rcases hBoth with ⟨rfl, hLast⟩
        rcases List.getLast?_eq_some_iff.mp hLast with
          ⟨earlier, rfl⟩
        exact hOpen ⟨earlier, bytes, by simp⟩
      have hNext :
          (b == asterisk) =
            ((front ++ [b]).getLast? == some asterisk) := by
        rw [List.getLast?_concat]
        rfl
      rw [hFront] at hOpen ⊢
      refine .cons ?_ (ih (front ++ [b]) hOpen)
      simp only [step, hStays, Bool.false_eq_true, if_false, hNext]

/- An asterisk behind a slash opens a block comment. -/
theorem reads_blockStart
    {body : List UInt8}
    (hMark : body.head? = some asterisk)
    (hOpen : ¬ [asterisk, slash] <:+: body) :
    Reads ⟨.top, last⟩ before (slash :: body) ahead
      (literalCells (slash :: body))
      ⟨.blockComment (body.getLast? == some asterisk), last⟩ := by
  obtain ⟨bytes, rfl⟩ := List.head?_eq_some_iff.mp hMark
  exact .cons rfl (reads_blockBytes [] hOpen)

/-
  A gap leads from the top level to the top level, and what is
  made of it hangs on nothing before it.
-/
theorem exists_reads_gapPart
    {part : List UInt8}
    (hPart : IsGapPart part) :
    ∃ cells,
      ∀ last before ahead,
        Reads ⟨.top, last⟩ before part ahead cells
          ⟨.top, last⟩ := by
  cases hPart with
  | blank hSpace =>
      exact ⟨_, fun last before ahead => reads_space hSpace⟩
  | lineComment hLine =>
      exact
        ⟨_, fun last before ahead =>
          .cons rfl
            (.cons rfl ((reads_lineBody hLine).append (.one rfl)))⟩
  | @blockComment body hMark hClose hOpen =>
      refine
        ⟨literalCells (slash :: body) ++ [⟨slash, false⟩],
          fun last before ahead => ?_⟩
      have hStart :
          Reads ⟨.top, last⟩ before (slash :: body)
            ([slash] ++ ahead) (literalCells (slash :: body))
            ⟨.blockComment (body.getLast? == some asterisk), last⟩ :=
        reads_blockStart hMark hOpen
      rw [hClose, beq_self_eq_true] at hStart
      exact hStart.append (.one rfl)

theorem exists_reads_isGap
    {gap : List UInt8}
    (hGap : IsGap gap) :
    ∃ cells,
      ∀ last before ahead,
        Reads ⟨.top, last⟩ before gap ahead cells
          ⟨.top, last⟩ := by
  induction hGap with
  | nil => exact ⟨[], fun last before ahead => .nil _ _ _⟩
  | append hPart _ ih =>
      rcases exists_reads_gapPart hPart with ⟨cells, hReads⟩
      rcases ih with ⟨others, hRest⟩
      exact
        ⟨cells ++ others, fun last before ahead =>
          (hReads _ _ _).append (hRest _ _ _)⟩

------------------------------------------------------------
-- Beginning Anew
------------------------------------------------------------

/-
  Behind blanks and comments, a slash could begin a regular
  expression that is closed on its line.
-/
def BeginsWithRegex (bytes : List UInt8) : Prop :=
  ∃ gap rest length,
    bytes = gap ++ slash :: rest ∧ IsGap gap ∧
      rest.head? ≠ some asterisk ∧
        regexLength? false false 0 rest = some length

/- A regular expression begins with a byte that is no slash. -/
theorem exists_cons_of_regexLength?
    {rest : List UInt8}
    {length : Nat}
    (hLength : regexLength? false false 0 rest = some length) :
    ∃ n b more,
      length = n + 1 ∧ rest = b :: more ∧ b ≠ slash := by
  have hEmpty :
      ∀ more, regexLength? false false 0 (slash :: more) = none :=
    fun _ => rfl
  rcases regexLength?_body hLength with ⟨body, more, rfl, hSum, -⟩
  cases body with
  | nil =>
      rw [List.nil_append, hEmpty] at hLength
      cases hLength
  | cons b body =>
      refine ⟨body.length, b, _, by simpa using hSum, rfl, ?_⟩
      rintro rfl
      rw [List.cons_append, hEmpty] at hLength
      cases hLength

/-
  What divides behind an operand begins a regular expression
  for a scan from anew, and the byte behind it is read apart.
-/
theorem scan_regex_ne
    {rest : List UInt8}
    {length : Nat}
    (behind : List UInt8)
    (hOperand : regexAllowed last = false)
    (hMark : rest.head? ≠ some asterisk)
    (hLength : regexLength? false false 0 rest = some length) :
    scan ⟨.top, none⟩ behind (slash :: rest) ≠
      scan ⟨.top, last⟩ before (slash :: rest) := by
  rcases exists_cons_of_regexLength? hLength with
    ⟨n, b, more, rfl, rfl, hOther⟩
  have hQuote : isQuote slash = false := by decide
  have hSpace : isSpace slash = false := by decide
  have hAsterisk : b ≠ asterisk := by simpa using hMark
  have hAnew :
      step ⟨.top, none⟩ behind slash (b :: more) =
        (true, ⟨.regex (n + 1), none⟩) := by
    simp [step, stepTop, hQuote, hOther, hAsterisk, regexAllowed,
      hLength]
  have hWhole :
      step ⟨.top, last⟩ before slash (b :: more) =
        (true, ⟨.top, some (slash :: before)⟩) := by
    simp [step, stepTop, hQuote, hSpace, hOther, hAsterisk,
      hOperand]
  intro hSame
  rw [scan_cons, hAnew, scan_cons, scan_cons, hWhole,
    scan_cons] at hSame
  have hCells := List.cons.inj (List.cons.inj hSame).2
  have hCode : false = (stepTop _ _ b more).1 :=
    congrArg Cell.isCode hCells.1
  rw [stepTop_isCode _ _ _ hOther] at hCode
  cases hCode

/- Any other significant byte is read alike, and so is the rest. -/
theorem scan_significant
    {other : Option (List UInt8)}
    {behind rest : List UInt8}
    {b : UInt8}
    (hWords : WordsAlike before behind)
    (hSpace : isSpace b = false)
    (hComment :
      b = slash →
        rest.head? ≠ some slash ∧ rest.head? ≠ some asterisk)
    (hRegex :
      b = slash → regexLength? false false 0 rest = none) :
    scan ⟨.top, other⟩ behind (b :: rest) =
      scan ⟨.top, last⟩ before (b :: rest) := by
  rw [scan_cons, scan_cons]
  cases hQuote : isQuote b with
  | true =>
      have hOpens :
          ∀ last before,
            step ⟨.top, last⟩ before b rest =
              (true, ⟨.quoted b, last⟩) := by
        intro last before
        simp [step, stepTop, hQuote]
      have hAlike :
          Alike ⟨.quoted b, last⟩ ⟨.quoted b, last⟩ (b :: before)
            (b :: behind) :=
        ⟨rfl, rfl, hWords.cons b⟩
      rw [hOpens, hOpens, (scan_quoted_eq b last other _ rest).1,
        hAlike.scan_eq]
  | false =>
      have hStays :
          ∀ last before,
            step ⟨.top, last⟩ before b rest =
              (true, ⟨.top, some (b :: before)⟩) := by
        intro last before
        by_cases hSlash : b = slash
        · rcases hComment hSlash with ⟨hLine, hBlock⟩
          subst hSlash
          simp [step, stepTop, hQuote, hSpace, hLine, hBlock,
            hRegex rfl]
        · simp [step, stepTop, hQuote, hSpace, hSlash]
      have hAlike :
          Alike ⟨.top, some (b :: before)⟩
            ⟨.top, some (b :: behind)⟩ (b :: before)
            (b :: behind) :=
        ⟨rfl, hWords.regexAllowed_eq b, hWords.cons b⟩
      rw [hStays, hStays, hAlike.scan_eq]

/- What is read to the end of a script makes up its cells. -/
theorem Reads.scan_end
    {s t : State}
    {bytes : List UInt8}
    {cells : List Cell}
    (hReads : Reads s before bytes [] cells t) :
    scan s before bytes = cells := by
  have hScan := hReads.scan_eq
  rwa [List.append_nil, scan, scan, List.zipWith_nil_left,
    List.append_nil] at hScan

/-
  Behind an operand that ends with no part of a name, a scan
  from anew tells the bytes of the rest apart as the scan of
  the whole does, unless it begins with a regular expression.
-/
theorem scan_initial_eq_iff
    (bytes : List UInt8)
    (hOperand : regexAllowed last = false)
    (hApart : trailingWord before = []) :
    scan State.initial [] bytes = scan ⟨.top, last⟩ before bytes ↔
      ¬ BeginsWithRegex bytes := by
  have hInitial : State.initial = ⟨.top, none⟩ := rfl
  rw [hInitial]
  constructor
  · rintro hSame ⟨gap, rest, length, rfl, hGap, hMark, hLength⟩
    rcases exists_reads_isGap hGap with ⟨cells, hReads⟩
    rw [(hReads none [] _).scan_eq, (hReads last before _).scan_eq]
      at hSame
    exact
      scan_regex_ne _ hOperand hMark hLength
        (List.append_cancel_left hSame)
  · intro hNone
    rcases exists_gap bytes with ⟨gap, rest, rfl, hGap, hEnds⟩
    rcases exists_reads_isGap hGap with ⟨cells, hReads⟩
    rw [(hReads none [] rest).scan_eq,
      (hReads last before rest).scan_eq]
    congr 1
    cases hEnds with
    | nothing => rfl
    | lineComment hLine =>
        have hOpen :
            ∀ last before,
              Reads ⟨.top, last⟩ before (slash :: slash :: _) []
                (literalCells (slash :: slash :: _))
                ⟨.lineComment, last⟩ :=
          fun last before =>
            .cons rfl (.cons rfl (reads_lineBody hLine))
        rw [(hOpen none _).scan_end, (hOpen last _).scan_end]
    | blockComment hMark hOpen =>
        rw [(reads_blockStart hMark hOpen).scan_end,
          (reads_blockStart hMark hOpen).scan_end]
    | significant hSpace hComment =>
        have hWords :
            WordsAlike (gap.reverse ++ before) (gap.reverse ++ []) := by
          refine Or.inl ?_
          rw [List.append_nil, trailingWord_append _ hApart]
        refine scan_significant hWords hSpace hComment ?_
        intro hSlash
        by_contra hSome
        rcases Option.ne_none_iff_exists'.mp hSome with
          ⟨length, hLength⟩
        exact
          hNone
            ⟨gap, _, length, by rw [hSlash], hGap,
              (hComment hSlash).2, hLength⟩

end Scanner

end Devirt
