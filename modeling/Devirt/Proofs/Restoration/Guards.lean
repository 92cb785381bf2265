import Devirt.Proofs.Restoration.Faultless
import Devirt.Proofs.Source.Brackets
import Devirt.Proofs.Source.Showing

/-
  Which guards are removed.

  A call of a function where it is written is found by its
  first characters, and no other begins among these, so every
  place that opens a call is tried.  From there on, brackets
  are counted, and nothing before the call is looked at.  A
  guard is a call with a mark that takes at most half of the
  script; all guards are removed that no earlier one reaches.
  What stands before a guard may well need it.

  Main declarations:
    * `Wrapper.moved`, `Wrapper.at?_behind`
    * `Wrapper.opensCall`, `Wrapper.exists_match_iff`
    * `Wrapper.IsTaken`, `Wrapper.mem_guardsFrom_iff`
    * `Wrapper.IsMarkedCall`, `stripGuards_removes`
    * `Wrapper.StandsFree`, `operands_removed`
-/

------------------------------------------------------------
-- Calls from an Offset On
------------------------------------------------------------

namespace Devirt

open Scanner CodeMap Pattern

namespace Wrapper

/- The offsets of a call in a script that begins earlier. -/
def moved (start : Nat) (w : Wrapper) : Wrapper :=
  ⟨start + w.start, start + w.stop, start + w.bodyOpen,
    start + w.bodyClose⟩

variable (m : CodeMap)
variable (start : Nat)

theorem functionEnd?_behind
    (first bodyClose : Nat) :
    functionEnd? matchingClose m (start + first)
        (start + bodyClose) =
      Option.map (fun finish => (start + finish.1, finish.2)) <$>
        functionEnd? matchingClose (m.behind start) first
          bodyClose := by
  simp only [functionEnd?, byteAt_behind, matchingClose_behind,
    map_bind]
  congr 1
  funext b
  split_ifs
  · simp only [bind_map_left, map_bind]
    congr 1
    funext close
    cases close with
    | none => rfl
    | some close =>
        simp only [Option.map_some, Nat.add_lt_add_iff_left]
        split_ifs <;> rfl
  · rfl

theorem callEnd?_behind
    (hInside : start ≤ m.size)
    (bodyClose stop : Nat)
    (isBracketed : Bool) :
    callEnd? matchingClose m (start + bodyClose) (start + stop)
        isBracketed =
      Option.map (start + ·) <$>
        callEnd? matchingClose (m.behind start) bodyClose stop
          isBracketed := by
  simp only [callEnd?, byte?_behind, skipSpace_behind,
    matchingClose_behind, Nat.add_assoc,
    bytesBetween_behind m start hInside]
  split_ifs
  · simp only [bind_map_left, map_bind, map_pure]
    congr 1
    funext close
    cases close <;> rfl
  · simp only [map_bind]
    congr 1
    funext tail
    split_ifs <;> rfl
  · rfl

theorem afterSemicolon_behind
    (stop : Nat) :
    afterSemicolon m (start + stop) =
      start + afterSemicolon (m.behind start) stop := by
  simp only [afterSemicolon, byte?_behind, skipSpace_behind]
  split_ifs <;> rfl

/- A call is found from its own beginning on. -/
theorem at?_behind
    (hInside : start ≤ m.size) :
    at? matchingClose m start =
      Option.map (moved start) <$>
        at? matchingClose (m.behind start) 0 := by
  have hNext := nextCode_behind m start (byte '{') 0
  rw [Nat.add_zero] at hNext
  simp only [at?, hNext]
  cases (m.behind start).nextCode 0 (byte '{') with
  | none => rfl
  | some bodyOpen =>
      simp only [Option.map_some, matchingClose_behind,
        bind_map_left, map_bind]
      congr 1
      funext close
      cases close with
      | none => rfl
      | some bodyClose =>
          have hFunction :=
            functionEnd?_behind m start 0 bodyClose
          rw [Nat.add_zero] at hFunction
          simp only [Option.map_some, hFunction, bind_map_left,
            map_bind]
          congr 1
          funext finish
          cases finish with
          | none => rfl
          | some finish =>
              simp only [Option.map_some,
                callEnd?_behind m start hInside, bind_map_left,
                map_bind]
              congr 1
              funext stop
              cases stop with
              | none => rfl
              | some stop =>
                  simp only [Option.map_some,
                    afterSemicolon_behind]
                  rfl

------------------------------------------------------------
-- Beginnings of Calls
------------------------------------------------------------

/- What follows the brackets and the arrow of a function. -/
def behindArrow? (cs : List Char) : Option (List Char) :=
  (behindMark? "(" cs).bind fun cs =>
    (behindMark? ")" cs).bind (behindMark? "=>")

/- Whether a text begins with a function that may be called. -/
def opensCall : List Char → Bool
  | [] => false
  | c :: cs =>
    (oneOf ['(', '!'] c && wordAhead "function" cs) ||
      (c == '(' && (behindArrow? cs).isSome)

def arrow : Pattern :=
  seq (seq blanks (literal "("))
    (seq (seq blanks (literal ")")) (seq blanks (literal "=>")))

theorem reads_arrow :
    Reads arrow behindArrow? :=
  (reads_mark rfl rfl).seq
    ((reads_mark rfl rfl).seq (reads_mark rfl rfl))

theorem isSome_matchThen_one
    {α : Type}
    {p : Char → Bool}
    {q : Pattern}
    {offset : Nat}
    {before : Option Char}
    {c : Char}
    {cs : List Char}
    {groups : Groups}
    {next : Place → Groups → Option α} :
    (matchThen (seq (one p) q) ⟨offset, before, c :: cs⟩ groups
        next).isSome =
      (p c &&
        (matchThen q ⟨offset + 1, some c, cs⟩ groups
          next).isSome) := by
  cases hClass : p c <;> simp [matchThen, hClass]

/- The rule finds a beginning wherever there is one to read. -/
theorem isSome_matchFrom_beginning
    {text : List Char}
    {here : Place}
    (hText : here.OnText text)
    (hSmall : Small text) :
    (matchFrom beginning here).isSome = opensCall here.rest := by
  rcases here with ⟨offset, before, rest⟩
  cases rest with
  | nil => rfl
  | cons c cs =>
      have hNext := hText.next
      let last := fun (there : Place) (groups : Groups) =>
        some ((⟨offset, there.offset, groups⟩ : Match), there)
      have hWord :
          (matchThen
            (seq (seq blanks (literal "function")) edge)
            ⟨offset + 1, some c, cs⟩ [] last).isSome =
            wordAhead "function" cs := by
        have hReads :
            Reads (seq blanks (literal "function"))
              (behindMark? "function") :=
          reads_mark rfl rfl
        rcases hReads.matchThen_word rfl rfl hNext hSmall []
            last with ⟨hAhead, there, hMatch⟩ | ⟨hNone, hMatch⟩
        · rw [hMatch]
          exact hAhead.symm
        · rw [hMatch]
          exact hNone.symm
      have hArrow :
          (matchThen arrow ⟨offset + 1, some c, cs⟩ []
            last).isSome =
            (behindArrow? cs).isSome := by
        cases hRead : behindArrow? cs with
        | none =>
            rw [reads_arrow.matchThen_of_none
              (hNext.small hSmall) hRead]
            rfl
        | some behind =>
            rcases reads_arrow.matchThen_of_some hNext hSmall
                hRead with ⟨there, -, -, hMatch⟩
            rw [hMatch]
            rfl
      rw [matchFrom, beginning, matchThen_alt, Option.isSome_or,
        opensCall, ← hWord, ← hArrow]
      exact
        congrArg₂ or
          (isSome_matchThen_one
            (q := sequence [blanks, literal "function", edge]))
          (isSome_matchThen_one
            (q :=
              sequence
                [ blanks, char '(', blanks, char ')', blanks
                , literal "=>" ]))

/- The marks that a call may begin with. -/
def callMarks : List Char := ['(', '!']

/- No call begins where there is no mark for one. -/
theorem opensCall_drop
    {cs rest : List Char}
    {k : Nat}
    (hOutside : ∀ c ∈ cs, c ∉ callMarks)
    (hInside : k < cs.length) :
    opensCall ((cs ++ rest).drop k) = false := by
  rw [List.drop_append_of_le_length (Nat.le_of_lt hInside),
    List.drop_eq_getElem_cons hInside, List.cons_append]
  have hMark := hOutside cs[k] (List.getElem_mem hInside)
  simp only [callMarks, List.mem_cons, List.not_mem_nil, or_false,
    not_or] at hMark
  simp [opensCall, oneOf, hMark]

theorem not_mem_callMarks_of_isBlank
    {c : Char}
    (hBlank : Text.isBlank c = true) :
    c ∉ callMarks :=
  not_mem_of_class (by decide) hBlank

/-
  Inside the beginning of a function with an arrow, a bracket
  opens, but it is closed at once.
-/
theorem opensCall_drop_arrow
    {gap₁ gap₂ more rest : List Char}
    {k : Nat}
    (hGap₁ : ∀ c ∈ gap₁, Text.isBlank c = true)
    (hGap₂ : ∀ c ∈ gap₂, Text.isBlank c = true)
    (hMore : ∀ c ∈ more, c ∉ callMarks)
    (hInside :
      k < (gap₁ ++ ('(' :: (gap₂ ++ (')' :: more)))).length) :
    opensCall
        ((gap₁ ++ ('(' :: (gap₂ ++ (')' :: more))) ++ rest).drop
          k) =
      false := by
  rcases Nat.lt_trichotomy k gap₁.length with
    hFirst | hBracket | hLast
  -- only the bracket in between has a mark
  · rw [List.append_assoc]
    exact
      opensCall_drop
        (fun c hMember =>
          not_mem_callMarks_of_isBlank (hGap₁ c hMember)) hFirst
  · have hDrop :
        (gap₁ ++ ('(' :: (gap₂ ++ (')' :: more))) ++ rest).drop
            gap₁.length =
          '(' :: (gap₂ ++ (')' :: (more ++ rest))) := by
      simp
    have hFunction :
        wordAhead "function" (gap₂ ++ (')' :: (more ++ rest))) =
          false := by
      rw [wordAhead, behindMark?_append _ _ hGap₂]
      rfl
    have hArrow :
        behindArrow? (gap₂ ++ (')' :: (more ++ rest))) =
          none := by
      rw [behindArrow?, behindMark?_append _ _ hGap₂]
      rfl
    rw [hBracket, hDrop, opensCall, hFunction, hArrow]
    simp
  · have hDrop :
        gap₁ ++ ('(' :: (gap₂ ++ (')' :: more))) ++ rest =
          (gap₁ ++ ['(']) ++ ((gap₂ ++ (')' :: more)) ++ rest) := by
      simp
    have hSkip : (gap₁ ++ ['(']).length ≤ k := by
      rw [List.length_append]
      exact hLast
    rw [hDrop, List.drop_append, List.drop_of_length_le hSkip,
      List.nil_append]
    apply opensCall_drop
    · intro c hMember
      rcases List.mem_append.mp hMember with hGap | hBehind
      · exact not_mem_callMarks_of_isBlank (hGap₂ c hGap)
      · rcases List.mem_cons.mp hBehind with rfl | hLater
        · decide
        · exact hMore c hLater
    · simp only [List.length_append, List.length_cons,
        List.length_nil] at hInside ⊢
      omega

/- No call begins inside the beginning of another one. -/
theorem no_call_within
    {text : List Char}
    {found : Match}
    {first last place : Place}
    (hLocated : Located beginning text found first last)
    (hPlace : place.OnText text)
    (hAfter : found.start < place.offset)
    (hBefore : place.offset < found.stop) :
    opensCall place.rest = false := by
  rcases hLocated.leads with
    ⟨_, _, ⟨c, cs, hRest, -, rfl, -⟩, hFunction⟩ |
      ⟨_, _, ⟨c, cs, hRest, -, rfl, -⟩, p₁, _, h₁, p₂, _, h₂, p₃,
        _, h₃, p₄, _, h₄, h₅⟩
  · rcases hFunction.passage with ⟨more, hMore⟩
    have hParts : first.rest = (c :: more) ++ last.rest := by
      rw [hRest, List.cons_append]
      exact congrArg (c :: ·) hMore.rest_eq
    rcases hLocated.exists_drop hParts hPlace hAfter hBefore with
      ⟨k, hPositive, hInside, hHere⟩
    match k, hPositive with
    | k + 1, _ =>
        rw [hHere, List.cons_append, List.drop_succ_cons]
        exact
          opensCall_drop (hMore.outside callMarks (by decide))
            (Nat.lt_of_succ_lt_succ hInside)
  · rcases h₁.many with ⟨gap₁, hGap₁, -, hClass₁⟩
    rcases (show Leads (literal "(") _ _ _ _ from h₂).literal with
      ⟨hOpen, -⟩
    rcases h₃.many with ⟨gap₂, hGap₂, -, hClass₂⟩
    rcases (show Leads (literal ")") _ _ _ _ from h₄).literal with
      ⟨hClose, -⟩
    rcases h₅.passage with ⟨more, hMore⟩
    have hParts :
        first.rest =
          (c :: (gap₁ ++ ('(' :: (gap₂ ++ (')' :: more))))) ++
            last.rest := by
      have hBehind :=
        (hGap₁.seq (hOpen.seq (hGap₂.seq (hClose.seq
          hMore)))).rest_eq
      rw [hRest, List.cons_append]
      exact congrArg (c :: ·) hBehind
    rcases hLocated.exists_drop hParts hPlace hAfter hBefore with
      ⟨k, hPositive, hInside, hHere⟩
    match k, hPositive with
    | k + 1, _ =>
        rw [hHere, List.cons_append, List.drop_succ_cons]
        exact
          opensCall_drop_arrow hClass₁ hClass₂
            (hMore.outside callMarks (by decide))
            (Nat.lt_of_succ_lt_succ hInside)

/- Matches begin just where the rest of a text opens a call. -/
theorem exists_match_iff
    {text : List Char}
    {start : Nat}
    (hSmall : Small text) :
    (∃ found ∈ beginning.all text, found.start = start) ↔
      opensCall (text.drop start) = true := by
  constructor
  · rintro ⟨found, hFound, rfl⟩
    rcases all_finds hFound with ⟨here, there, hFinds⟩
    have hSome := isSome_matchFrom_beginning hFinds.onText hSmall
    rw [hFinds.matches_eq, hFinds.onText.rest_eq,
      ← hFinds.located.start_eq] at hSome
    exact hSome.symm
  · intro hOpens
    have hInside : start ≤ text.length := by
      by_contra hBeyond
      rw [List.drop_of_length_le (by omega)] at hOpens
      cases hOpens
    rcases exists_place hInside with ⟨here, hText, rfl⟩
    rw [← hText.rest_eq,
      ← isSome_matchFrom_beginning hText hSmall,
      Option.isSome_iff_exists] at hOpens
    rcases hOpens with ⟨⟨found, there⟩, hMatch⟩
    have hFinds : Finds beginning text found here there :=
      ⟨hText, hMatch⟩
    rcases hFinds.mem_all with
      hMember | ⟨other, hOther, hAfter, hBefore⟩
    · exact ⟨found, hMember, hFinds.located.start_eq⟩
    · rcases all_located hOther with ⟨first, last, hLocated⟩
      have hNone := no_call_within hLocated hText hAfter hBefore
      rw [← isSome_matchFrom_beginning hText hSmall, hMatch]
        at hNone
      cases hNone

------------------------------------------------------------
-- Guards in a Row
------------------------------------------------------------

/-
  A call that begins at one of some offsets is taken for a
  guard: it has a mark, and the last guard does not reach it.
-/
structure IsTaken
    (m : CodeMap)
    (last start : Nat)
    (w : Wrapper) : Prop where
  call : at? matchingClose m start = .ok (some w)
  marked : isGuard m w = .ok true
  after : last ≤ start

/- A match is passed over, or the call at it is the next guard. -/
theorem guardsFrom_cons
    {m : CodeMap}
    {last : Nat}
    {one : Match}
    {rest : List Match}
    {guards : List Wrapper}
    (hCode : m.isCode one.start = true)
    (hGuards :
      guardsFrom matchingClose m last (one :: rest) =
        .ok guards) :
    ((∀ w, ¬ IsTaken m last one.start w) ∧
        guardsFrom matchingClose m last rest = .ok guards) ∨
      ∃ w later,
        IsTaken m last one.start w ∧ guards = w :: later ∧
          guardsFrom matchingClose m w.stop rest =
            .ok later := by
  unfold guardsFrom at hGuards
  rw [hCode] at hGuards
  split_ifs at hGuards with hSkipped
  · have hBefore : one.start < last := by simpa using hSkipped
    exact
      Or.inl
        ⟨fun w hTaken => by have := hTaken.after; omega, hGuards⟩
  · have hAfter : last ≤ one.start := by simpa using hSkipped
    cases hCall : at? matchingClose m one.start with
    | error fault => simp [hCall, bind, Except.bind] at hGuards
    | ok found =>
        rw [hCall] at hGuards
        cases found with
        | none =>
            refine Or.inl ⟨?_, hGuards⟩
            intro w hTaken
            have hOther := hTaken.call
            rw [hCall] at hOther
            cases hOther
        | some w =>
            have hSame :
                ∀ other, IsTaken m last one.start other →
                  other = w := by
              intro other hTaken
              have hOther := hTaken.call
              rw [hCall] at hOther
              cases hOther
              rfl
            cases hMarked : isGuard m w with
            | error fault =>
                simp [hMarked, bind, Except.bind] at hGuards
            | ok isOne =>
                cases isOne with
                | false =>
                    refine Or.inl ⟨?_, ?_⟩
                    · intro other hTaken
                      have hOther := hTaken.marked
                      rw [hSame other hTaken, hMarked] at hOther
                      cases hOther
                    · simpa [hMarked, bind, Except.bind]
                        using hGuards
                | true =>
                    cases hLater :
                        guardsFrom matchingClose m w.stop
                          rest with
                    | error fault =>
                        simp [hMarked, hLater, bind, Except.bind]
                          at hGuards
                    | ok later =>
                        refine
                          Or.inr
                            ⟨w, later, ⟨hCall, hMarked, hAfter⟩,
                              ?_, hLater⟩
                        simpa [hMarked, hLater, bind, Except.bind,
                          pure, Except.pure, eq_comm] using hGuards

/-
  Guards are the calls that have a mark and that no earlier
  guard reaches.
-/
theorem mem_guardsFrom_iff
    {m : CodeMap}
    {last : Nat}
    {found : List Match}
    {guards : List Wrapper}
    (hSorted : found.Pairwise (·.start < ·.start))
    (hCode : ∀ one ∈ found, m.isCode one.start = true)
    (hCalls :
      ∀ one ∈ found, ∀ w,
        at? matchingClose m one.start = .ok (some w) →
          w.start = one.start ∧ w.start ≤ w.stop)
    (hGuards :
      guardsFrom matchingClose m last found = .ok guards)
    (w : Wrapper) :
    w ∈ guards ↔
      (∃ one ∈ found, one.start = w.start) ∧
        IsTaken m last w.start w ∧
          ∀ other ∈ guards,
            other.start < w.start → other.stop ≤ w.start := by
  induction found generalizing last guards w with
  | nil =>
      cases hGuards
      simp
  | cons one rest ih =>
      rcases List.pairwise_cons.mp hSorted with
        ⟨hFirst, hRest⟩
      rcases List.forall_mem_cons.mp hCode with
        ⟨hOne, hRestCode⟩
      rcases List.forall_mem_cons.mp hCalls with
        ⟨hCall, hRestCalls⟩
      rcases guardsFrom_cons hOne hGuards with
        ⟨hNone, hLater⟩ | ⟨guard, later, hGuard, rfl, hLater⟩
      -- nothing is taken at this match
      · rw [ih hRest hRestCode hRestCalls hLater]
        constructor
        · rintro ⟨⟨other, hOther, hStart⟩, hTaken⟩
          exact
            ⟨⟨other, List.mem_cons_of_mem _ hOther, hStart⟩,
              hTaken⟩
        · rintro ⟨⟨other, hOther, hStart⟩, hTaken, hApart⟩
          rcases List.mem_cons.mp hOther with rfl | hBehind
          · rw [← hStart] at hTaken
            exact absurd hTaken (hNone w)
          · exact ⟨⟨other, hBehind, hStart⟩, hTaken, hApart⟩
      -- a guard, behind whose end the others have to begin
      · have hIh := ih hRest hRestCode hRestCalls hLater
        rcases hCall guard hGuard.call with ⟨hStart, hOrder⟩
        have hAfter := hGuard.after
        constructor
        · intro hMember
          rcases List.mem_cons.mp hMember with rfl | hBehind
          · refine
              ⟨⟨one, List.mem_cons_self, hStart.symm⟩, ?_, ?_⟩
            · rwa [hStart]
            · intro other hOther hEarlier
              rcases List.mem_cons.mp hOther with
                rfl | hOtherBehind
              · omega
              · have hReached :=
                  ((hIh other).mp hOtherBehind).2.1.after
                omega
          · rcases (hIh w).mp hBehind with
              ⟨⟨other, hOther, hOtherStart⟩, hTaken, hApart⟩
            have hReached := hTaken.after
            refine
              ⟨⟨other, List.mem_cons_of_mem _ hOther,
                  hOtherStart⟩,
                ⟨hTaken.call, hTaken.marked, by omega⟩, ?_⟩
            intro earlier hEarlier
            rcases List.mem_cons.mp hEarlier with rfl | hBetween
            · exact fun _ => hReached
            · exact hApart earlier hBetween
        · rintro ⟨⟨other, hOther, hOtherStart⟩, hTaken, hApart⟩
          rcases List.mem_cons.mp hOther with rfl | hBehind
          · have hCalls := hTaken.call
            rw [← hOtherStart, hGuard.call] at hCalls
            cases hCalls
            exact List.mem_cons_self
          · have hLess := hFirst other hBehind
            have hReached :=
              hApart guard List.mem_cons_self (by omega)
            refine List.mem_cons_of_mem _ ((hIh w).mpr ?_)
            exact
              ⟨⟨other, hBehind, hOtherStart⟩,
                ⟨hTaken.call, hTaken.marked, hReached⟩,
                fun earlier hEarlier =>
                  hApart earlier
                    (List.mem_cons_of_mem _ hEarlier)⟩

------------------------------------------------------------
-- Removed Guards
------------------------------------------------------------

/- Whether a text has a mark of guards. -/
def hasMark (text : String) : Bool :=
  guardMarks.any fun mark =>
    Text.occursIn mark.toList text.toList

/-
  A script begins with a call of a function where it is
  written, and this call has a mark of guards.
-/
structure IsMarkedCall (m : CodeMap) (w : Wrapper) : Prop where
  opens : opensCall m.masked = true
  call : at? matchingClose m 0 = .ok (some w)
  marked : hasMark (textOf (m.bytes.take w.stop)) = true

/- Where a match begins, the script can be cut. -/
theorem isBoundary_start
    {m : CodeMap}
    {one : Match}
    (hOne : one ∈ beginning.all m.masked) :
    m.isCode one.start = true ∧
      m.isBoundary one.start = true := by
  rcases hasCode_start hOne with ⟨b, hCode, hAscii⟩
  exact
    ⟨hCode.isCode_eq, isBoundary_of_ascii hCode.byte?_eq hAscii⟩

/- The call at a match encloses the body of its function. -/
theorem encloses_of_call
    {code : String}
    {one : Match}
    {w : Wrapper}
    (hOne : one ∈ beginning.all (ofText code).masked)
    (hCall :
      at? matchingClose (ofText code) one.start =
        .ok (some w)) :
    Encloses (ofText code) one.start w := by
  rcases hasCode_start hOne with ⟨b, hCode, -⟩
  rcases (at?_settles (bytesOf_cuttable code)
      hCode.of_byte?).strict_eq_usual with
    ⟨found, hFound, -, hUsual⟩
  have hSame : found = some w :=
    Except.ok.inj (hUsual.symm.trans hCall)
  exact hFound w hSame

theorem isGuard_iff
    {m : CodeMap}
    {w : Wrapper}
    (hStart : m.isBoundary w.start = true)
    (hEncloses : Encloses m w.start w) :
    isGuard m w = .ok true ↔
      (w.stop - w.start) * 2 ≤ m.size ∧
        hasMark
            (textOf
              ((m.bytes.drop w.start).take
                (w.stop - w.start))) =
          true := by
  rw [isGuard,
    slice_eq hEncloses.start_le_stop hStart
      hEncloses.stop_boundary]
  simp [hasMark, bind, Except.bind, pure, Except.pure]

/- A call of a script is one of the rest from its start on. -/
theorem at?_eq_iff
    {m : CodeMap}
    {w : Wrapper}
    (hInside : w.start ≤ m.size) :
    at? matchingClose m w.start = .ok (some w) ↔
      ∃ v,
        at? matchingClose (m.behind w.start) 0 = .ok (some v) ∧
          v.moved w.start = w := by
  rw [at?_behind m w.start hInside]
  cases at? matchingClose (m.behind w.start) 0 with
  | error fault => simp
  | ok found => cases found <;> simp

theorem stop_eq_of_moved
    {v w : Wrapper}
    (hMoved : v.moved w.start = w) :
    v.stop = w.stop - w.start := by
  have hStop : w.start + v.stop = w.stop :=
    congrArg Wrapper.stop hMoved
  omega

/- A call is taken for a guard by what follows its start. -/
theorem isTaken_iff
    {code : String}
    {w : Wrapper} :
    ((∃ one ∈ beginning.all (ofText code).masked,
          one.start = w.start) ∧
        IsTaken (ofText code) 0 w.start w) ↔
      (∃ v,
          IsMarkedCall ((ofText code).behind w.start) v ∧
            v.moved w.start = w) ∧
        (w.stop - w.start) * 2 ≤ (ofText code).size := by
  have hMatch :
      (∃ one ∈ beginning.all (ofText code).masked,
          one.start = w.start) ↔
        opensCall ((ofText code).masked.drop w.start) = true :=
    exists_match_iff (small_masked _)
  constructor
  · rintro ⟨⟨one, hOne, hStart⟩, hTaken⟩
    have hCall := hTaken.call
    rw [← hStart] at hCall
    have hEncloses := encloses_of_call hOne hCall
    have hBoundary := (isBoundary_start hOne).2
    rw [hStart] at hEncloses hBoundary
    rcases (isGuard_iff hBoundary hEncloses).mp
        hTaken.marked with ⟨hSize, hMark⟩
    rcases (at?_eq_iff (le_size_of_isBoundary hBoundary)).mp
        hTaken.call with ⟨v, hBehind, hMoved⟩
    refine ⟨⟨v, ⟨?_, hBehind, ?_⟩, hMoved⟩, hSize⟩
    · rw [masked_behind]
      exact hMatch.mp ⟨one, hOne, hStart⟩
    · rwa [bytes_behind, stop_eq_of_moved hMoved]
  · rintro ⟨⟨v, hMarked, hMoved⟩, hSize⟩
    have hOpens := hMarked.opens
    rw [masked_behind] at hOpens
    rcases hMatch.mpr hOpens with ⟨one, hOne, hStart⟩
    have hBoundary := (isBoundary_start hOne).2
    rw [hStart] at hBoundary
    have hCall :=
      (at?_eq_iff (le_size_of_isBoundary hBoundary)).mpr
        ⟨v, hMarked.call, hMoved⟩
    have hEncloses :
        Encloses (ofText code) w.start w := by
      rw [← hStart]
      rw [← hStart] at hCall
      exact encloses_of_call hOne hCall
    have hMark := hMarked.marked
    rw [bytes_behind, stop_eq_of_moved hMoved] at hMark
    exact
      ⟨⟨one, hOne, hStart⟩, hCall,
        (isGuard_iff hBoundary hEncloses).mpr ⟨hSize, hMark⟩,
        Nat.zero_le _⟩

/- The guards of a script are calls that begin at a match. -/
theorem mem_guards_iff
    {code : String}
    {last : Nat}
    {guards : List Wrapper}
    (hGuards :
      guardsFrom matchingClose (ofText code) last
          (beginning.all (ofText code).masked) =
        .ok guards)
    (w : Wrapper) :
    w ∈ guards ↔
      (∃ one ∈ beginning.all (ofText code).masked,
          one.start = w.start) ∧
        IsTaken (ofText code) last w.start w ∧
          ∀ other ∈ guards,
            other.start < w.start → other.stop ≤ w.start := by
  have hSorted :=
    ((all_lined beginning (ofText code).masked).pairwise
      (by decide)).1
  exact
    mem_guardsFrom_iff hSorted
      (fun one hOne => (isBoundary_start hOne).1)
      (fun one hOne v hCall =>
        let hEncloses := encloses_of_call hOne hCall
        ⟨hEncloses.start_eq, hEncloses.start_le_stop⟩)
      hGuards w

end Wrapper

/- The pass over guards completes, with the guards it finds. -/
theorem Wrapper.stripGuards_eq
    (code : String) :
    ∃ (guards : List Wrapper) (stripped : String),
      guardsFrom matchingClose (ofText code) 0
            (beginning.all (ofText code).masked) =
          .ok guards ∧
        inOrder 0 (guards.map removal) = true ∧
          stripGuards code = .ok (stripped, guards.length) ∧
            (ofText code).applyEdits (guards.map removal) =
              .ok stripped := by
  rcases guardsFrom_settles code 0
      (fun _ hMember => hMember) |>.strict_eq_usual with
    ⟨guards, ⟨hOrder, hWhole⟩, -, hGuards⟩
  have hEdited :
      (ofText code).applyEdits (guards.map removal) =
        .ok (textOf (editedFrom 0 (ofText code).bytes
          (guards.map removal))) := by
    simp only [applyEdits, hOrder, hWhole, Bool.and_self,
      if_true]
  refine ⟨guards, _, hGuards, hOrder, ?_, hEdited⟩
  have hStripped :
      ((ofText code).applyEdits (guards.map removal)).map
          (·, guards.length) =
        stripGuards code := by
    simp only [stripGuards, stripGuardsBy, hGuards, bind,
      Except.bind]
    rfl
  rw [← hStripped, hEdited]
  rfl

/-
  The pass over guards completes on every script and takes out
  the calls that have a mark, are at most half of the script
  and are not reached by an earlier guard.  Apart from this, a
  call is judged by the script from its own start on.
-/
theorem stripGuards_removes
    (code : String) :
    ∃ (guards : List Wrapper) (stripped : String),
      Wrapper.stripGuards code =
          .ok (stripped, guards.length) ∧
        (ofText code).applyEdits
              (guards.map Wrapper.removal) =
            .ok stripped ∧
          ∀ w,
            w ∈ guards ↔
              (∃ v,
                Wrapper.IsMarkedCall
                    ((ofText code).behind w.start) v ∧
                  v.moved w.start = w) ∧
                (w.stop - w.start) * 2 ≤ (ofText code).size ∧
                  ∀ other ∈ guards,
                    other.start < w.start →
                      other.stop ≤ w.start := by
  rcases Wrapper.stripGuards_eq code with
    ⟨guards, stripped, hGuards, -, hStripped, hEdited⟩
  refine ⟨guards, stripped, hStripped, hEdited, ?_⟩
  intro w
  rw [Wrapper.mem_guards_iff hGuards, ← and_assoc,
    Wrapper.isTaken_iff, and_assoc]

end Devirt

------------------------------------------------------------
-- Operands
------------------------------------------------------------

namespace Devirt

open Scanner CodeMap

namespace Wrapper

/- The bytes behind which an expression is not at its end. -/
def operatorBytes : List UInt8 := bytesOf "=([,?:!~+-*/%&|^<>"

/-
  Nothing goes on at an offset: the last byte of code before
  it, blanks apart, is no operator, and if it belongs to a
  name, a line ends in between.
-/
def StandsFree (m : CodeMap) (start : Nat) : Prop :=
  let before := (m.cells.toList.take start).reverse
  let between :=
    before.takeWhile fun c => !(c.isCode && !isSpace c.byte)
  ∀ c ∈ before[between.length]?,
    c.byte ∉ operatorBytes ∧
      (isIdentifier c.byte = true →
        ∃ d ∈ between, d.byte = byte '\n')

instance (m : CodeMap) (start : Nat) :
    Decidable (StandsFree m start) :=
  inferInstanceAs (Decidable (∀ c ∈ _, _ ∧ (_ → _)))

/- A guard is removed though something goes on with it. -/
def RemovesOperand
    (code next : String)
    (w : Wrapper) : Prop :=
  let m := ofText code
  stripGuards code = .ok (next, 1) ∧
    guardsFrom matchingClose m 0 (beginning.all m.masked) =
        .ok [w] ∧
      ¬ StandsFree m w.start

instance (code next : String) (w : Wrapper) :
    Decidable (RemovesOperand code next w) :=
  inferInstanceAs (Decidable (_ ∧ _ ∧ _))

end Wrapper

/- Guards that are a value of a variable and an argument. -/
def guardAsValue : String :=
  "var x = (function()\x7bdebugger\x7d)();var y = 1; var z = 2;"

def guardAsArgument : String :=
  "f((function()\x7bdebugger\x7d)(), 1);var y = 1; var z = 2;"

/- What is left of the statements is no script. -/
theorem operands_removed :
    Wrapper.RemovesOperand guardAsValue
        "var x = var y = 1; var z = 2;" ⟨8, 33, 19, 28⟩ ∧
      Wrapper.RemovesOperand guardAsArgument
        "f(, 1);var y = 1; var z = 2;" ⟨2, 26, 13, 22⟩ := by
  refine ⟨?_, ?_⟩ <;> decide +kernel

end Devirt
