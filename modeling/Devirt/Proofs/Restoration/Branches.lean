import Devirt.Proofs.Pattern.Readers
import Devirt.Proofs.Source.Showing
import Devirt.Restoration.Cleanup

/-
  Which branches are dropped.

  A branch that does nothing is read in one way only, up to its
  braces.  Blanks and a semicolon behind these go with it, and
  no other branch begins inside of it, so the rule removes
  every branch that it could read: just those that begin where
  no word goes on, are all code and have no other side.  What
  stands before a branch is not looked at.  If that is a
  statement that waits for its body, the next statement is
  taken for it.

  Main declarations:
    * `Cleanup.behindBranch?`, `Cleanup.reads_braces`,
      `Cleanup.emptyBranch_matchFrom`
    * `Cleanup.no_branch_within`
    * `Cleanup.DropsBranch`, `dropEmptyBranches_drops`
    * `Cleanup.FreeStanding`, `bodies_dropped`
-/

------------------------------------------------------------
-- Reading Branches
------------------------------------------------------------

namespace Devirt

open Pattern

namespace Cleanup

/- What follows a plain condition and the bracket behind it. -/
def behindCondition? (cs : List Char) : Option (List Char) :=
  let chain := (cs.dropWhile Text.isBlank).dropWhile (· == '!')
  if 1 ≤ (chain.takeWhile isChain).length then
    behindMark? ")" (chain.dropWhile isChain)
  else
    none

/- What follows the braces of a branch that does nothing. -/
def behindBraces? (cs : List Char) : Option (List Char) := do
  let cs ← Text.dropPrefix? "if".toList cs
  let cs ← behindMark? "(" cs
  let cs ← behindCondition? cs
  let cs ← behindMark? "\x7b" cs
  behindMark? "\x7d" cs

/- What follows blanks and a semicolon, if there is one. -/
def behindSemicolon (cs : List Char) : List Char :=
  let cs := cs.dropWhile Text.isBlank
  (Text.dropPrefix? ";".toList cs).getD cs

/- What follows a branch that does nothing. -/
def behindBranch? (cs : List Char) : Option (List Char) :=
  (behindBraces? cs).map behindSemicolon

------------------------------------------------------------
-- The Matcher on Branches
------------------------------------------------------------

/- What is no part of a condition. -/
theorem isChain_ascii
    {c : Char}
    (hAscii : c.toNat < 128)
    (hChain : isChain c = true) :
    Text.isBlank c = false ∧ c ≠ '!' ∧ c ≠ '(' ∧ c ≠ ')' := by
  have hAll :
      ∀ n < 128, isChain (Char.ofNat n) = true →
        Text.isBlank (Char.ofNat n) = false ∧
          Char.ofNat n ≠ '!' ∧ Char.ofNat n ≠ '(' ∧
            Char.ofNat n ≠ ')' := by
    decide +kernel
  have hHere := hAll c.toNat hAscii
  rw [Char.ofNat_toNat] at hHere
  exact hHere hChain

def condition : Pattern :=
  sequence
    [ blanks, many (· == '!') 0 none, many isChain 1 none
    , seq blanks (literal ")") ]

theorem reads_condition :
    Reads condition behindCondition? := by
  -- from the end on: no repetition can go on into what follows
  have hClose :
      Reads (seq blanks (literal ")")) (behindMark? ")") :=
    reads_mark rfl rfl
  have hChain :=
    hClose.behindMany isChain 1 (by
      intro c cs hAscii hClass
      rcases isChain_ascii hAscii hClass with
        ⟨hBlank, -, -, hOther⟩
      simp [behindMark?, hBlank, Text.dropPrefix?, hOther.symm])
  have hBangs :=
    hChain.behindMany (· == '!') 0 (by
      intro c cs hAscii hBang
      have hNone : isChain c = false := by
        rw [Bool.eq_false_iff]
        intro hClass
        exact
          (isChain_ascii hAscii hClass).2.1 (beq_iff_eq.mp hBang)
      simp [hNone])
  have hBlanks :=
    hBangs.behindMany Text.isBlank 0 (by
      intro c cs hAscii hBlank
      have hNone : isChain c = false := by
        rw [Bool.eq_false_iff]
        intro hClass
        rw [(isChain_ascii hAscii hClass).1] at hBlank
        cases hBlank
      have hOther : (c == '!') = false := by
        rw [beq_eq_false_iff_ne]
        rintro rfl
        cases hBlank
      simp [hNone, hOther])
  exact hBlanks.congr fun cs => by simp [behindCondition?]

/- A branch up to its braces. -/
def braces : Pattern :=
  sequence
    [ literal "if", seq blanks (literal "("), condition
    , seq blanks (literal "\x7b"), seq blanks (literal "\x7d") ]

theorem reads_braces :
    Reads braces behindBraces? :=
  (reads_literal "if").seq
    ((reads_mark rfl rfl).seq
      (reads_condition.seq
        ((reads_mark rfl rfl).seq (reads_mark rfl rfl))))

/- The other side of a branch, which is remembered. -/
def otherSide : Pattern :=
  group 1 (seq (seq blanks (literal "else")) edge)

/- The pattern has its parts in a row. -/
theorem matchThen_emptyBranch
    {α : Type}
    (here : Place)
    (groups : Groups)
    (next : Place → Groups → Option α) :
    matchThen emptyBranch.pattern here groups next =
      matchThen
        (sequence
          [ edge, braces, blanks, optional (literal ";")
          , optional otherSide ]) here groups next :=
  rfl

/- The other side is remembered just if it comes next. -/
theorem matchThen_otherSide
    {α : Type}
    {text : List Char}
    {here : Place}
    (hText : here.OnText text)
    (hSmall : Small text)
    (next : Place → Groups → α) :
    ∃ there groups,
      matchThen (Pattern.optional otherSide) here []
          (fun there groups => some (next there groups)) =
        some (next there groups) ∧
      if wordAhead "else" here.rest then
        groups = [(1, here.offset, there.offset)]
      else
        there = here ∧ groups = [] := by
  have hReads :
      Reads (seq blanks (literal "else"))
        (behindMark? "else") :=
    reads_mark rfl rfl
  rw [Pattern.optional, matchThen_alt]
  rcases hReads.matchThen_word rfl rfl hText hSmall []
      (fun there groups =>
        some
          (next there
            ((1, here.offset, there.offset) :: groups))) with
    ⟨hAhead, there, hMatch⟩ | ⟨hNone, hMatch⟩
  · refine ⟨there, [(1, here.offset, there.offset)], ?_, ?_⟩
    · exact congrArg (Option.or · (some (next here []))) hMatch
    · rw [hAhead]
      rfl
  · refine ⟨here, [], ?_, ?_⟩
    · exact congrArg (Option.or · (some (next here []))) hMatch
    · rw [hNone]
      exact ⟨rfl, rfl⟩

/- Where the reading of a branch may end. -/
def EndsBranch (there : Place) : Prop :=
  there.before = some ';' ∨
    ∀ c ∈ there.rest.head?, Text.isBlank c = false

/-
  Behind the braces, the matcher takes blanks and a semicolon,
  and the other side if it comes next.
-/
theorem matchThen_branchEnd
    {α : Type}
    {text : List Char}
    {here : Place}
    (hText : here.OnText text)
    (hSmall : Small text)
    (next : Place → Groups → α) :
    ∃ there last groups,
      there.OnText text ∧
        there.rest = behindSemicolon here.rest ∧
          EndsBranch there ∧
            matchThen
                (sequence
                  [ blanks, Pattern.optional (literal ";")
                  , Pattern.optional otherSide ])
                here []
                (fun there groups => some (next there groups)) =
              some (next last groups) ∧
            if wordAhead "else" there.rest then
              groups = [(1, there.offset, last.offset)]
            else
              last = there ∧ groups = [] := by
  -- all that follows may be left out, so nothing is given back
  let behind := fun (there : Place) (groups : Groups) =>
    matchThen (Pattern.optional otherSide) there groups
      fun there groups => some (next there groups)
  have hBehind :
      ∀ there, (behind there []).isSome = true :=
    fun there => isSome_matchThen_optional rfl
  let onward := fun (there : Place) (groups : Groups) =>
    matchThen (Pattern.optional (literal ";")) there groups
      behind
  have hOnward :
      ∀ there, (onward there []).isSome = true :=
    fun there => isSome_matchThen_optional (hBehind there)
  rcases matchThen_farthest Text.isBlank here [] hOnward with
    ⟨between, hPasses, hBetween, hBlanks⟩
  have hTextBetween := hPasses.onText hText
  rcases (reads_literal ";").matchThen_optional hTextBetween
      hSmall hBehind with ⟨there, hRest, hLast, hSemicolon⟩
  have hTextThere : there.OnText text := by
    rcases hLast with rfl | hLeads
    · exact hTextBetween
    · exact hLeads.onText hTextBetween
  rcases matchThen_otherSide hTextThere hSmall next with
    ⟨last, groups, hElse, hGroups⟩
  refine
    ⟨there, last, groups, hTextThere, ?_, ?_, ?_, hGroups⟩
  · rw [hRest, hBetween]
    rfl
  · rcases hLast with rfl | hLeads
    · refine Or.inr fun c hHead => ?_
      have hFirst :=
        List.head?_dropWhile_not Text.isBlank here.rest
      rw [hBetween] at hHead
      rwa [hHead] at hFirst
    · exact Or.inl (hLeads.literal_before hTextBetween rfl)
  · exact hBlanks.trans (hSemicolon.trans hElse)

/-
  The matcher finds a branch where there is one to read, and
  ends behind it unless the other side comes next.
-/
theorem emptyBranch_matchFrom
    {text rest : List Char}
    {here : Place}
    (hText : here.OnText text)
    (hSmall : Small text)
    (hEdge : isEdge here = true)
    (hBranch : behindBranch? here.rest = some rest) :
    ∃ there last groups,
      there.OnText text ∧ there.rest = rest ∧
        EndsBranch there ∧
          matchFrom emptyBranch.pattern here =
            some (⟨here.offset, last.offset, groups⟩, last) ∧
          if wordAhead "else" rest then
            groups = [(1, there.offset, last.offset)]
          else
            last = there ∧ groups = [] := by
  rcases Option.map_eq_some_iff.mp hBranch with
    ⟨behind, hBraces, rfl⟩
  rcases reads_braces.matchThen_of_some hText hSmall hBraces with
    ⟨between, hLeads, rfl, hMatch⟩
  rcases matchThen_branchEnd (hLeads.onText hText) hSmall
      fun (there : Place) (groups : Groups) =>
        ((⟨here.offset, there.offset, groups⟩ : Match), there) with
    ⟨there, last, groups, hThere, hRest, hEnds, hEnd, hGroups⟩
  rw [hRest] at hGroups
  refine
    ⟨there, last, groups, hThere, hRest, hEnds, ?_, hGroups⟩
  rw [matchFrom, matchThen_emptyBranch]
  simp only [Pattern.sequence, matchThen, hEdge, if_true] at hEnd ⊢
  rw [hMatch]
  exact hEnd

/- Where no branch can be read, the matcher finds none. -/
theorem emptyBranch_matchFrom_none
    {text : List Char}
    {here : Place}
    (hText : here.OnText text)
    (hSmall : Small text)
    (hNone :
      isEdge here = false ∨ behindBranch? here.rest = none) :
    matchFrom emptyBranch.pattern here = none := by
  rw [matchFrom, matchThen_emptyBranch]
  rcases hNone with hEdge | hBranch
  · simp [Pattern.sequence, matchThen, hEdge]
  · have hBraces : behindBraces? here.rest = none :=
      Option.map_eq_none_iff.mp hBranch
    simp only [Pattern.sequence, matchThen]
    rw [reads_braces.matchThen_of_none (hText.small hSmall) hBraces]
    simp

------------------------------------------------------------
-- Branches Inside Branches
------------------------------------------------------------

/-
  The characters of a branch: those of its condition are the
  only ones that could begin another branch.
-/
structure BranchParts
    (passed : List Char)
    (opening chain gap closing : List Char) : Prop where
  passed_eq :
    passed =
      'i' :: 'f' ::
        (opening ++ (chain ++ (gap ++ (')' :: closing))))
  opening_outside : 'i' ∉ opening
  chain_class : ∀ c ∈ chain, isChain c = true
  gap_class : ∀ c ∈ gap, Text.isBlank c = true
  closing_outside : 'i' ∉ closing

theorem emptyBranch_parts
    {text : List Char}
    {found : Match}
    {here there : Place}
    (hLocated :
      Located emptyBranch.pattern text found here there) :
    ∃ passed opening chain gap closing,
      here.rest = passed ++ there.rest ∧
        BranchParts passed opening chain gap closing := by
  rcases hLocated.leads with
    ⟨_, _, ⟨-, rfl, rfl⟩, p₁, _, hIf, p₂, _, h₁, p₃, _, h₂, p₄, _,
      h₃, p₅, _, h₄, p₆, _, ⟨n₁, hChain, -⟩, p₇, _, ⟨n₂, hGap, -⟩,
      p₈, _, hClose, hEnd⟩
  rcases h₁.passage with ⟨blanks₁, h₁⟩
  rcases h₂.passage with ⟨bracket, h₂⟩
  rcases h₃.passage with ⟨blanks₂, h₃⟩
  rcases h₄.passage with ⟨bangs, h₄⟩
  rcases hChain.passage with ⟨chain, hChainRest, -, hChainClass⟩
  rcases hGap.passage with ⟨gap, hGapRest, -, hGapClass⟩
  rcases (show Leads (literal ")") _ _ _ _ from hClose).literal with
    ⟨hClose, -⟩
  rcases hEnd.passage with ⟨closing, hEnd⟩
  have hOpening := h₁.seq (h₂.seq (h₃.seq h₄))
  refine
    ⟨_, blanks₁ ++ (bracket ++ (blanks₂ ++ bangs)), chain, gap,
      closing, ?_, rfl, ?_, hChainClass, hGapClass, ?_⟩
  · rw [hIf.literal.1.rest_eq, hOpening.rest_eq, hChainRest,
      hGapRest, hClose.rest_eq, hEnd.rest_eq]
    simp
  · intro hMember
    exact
      hOpening.outside ['i'] (by decide) _ hMember
        (List.mem_singleton.mpr rfl)
  · intro hMember
    exact
      hEnd.outside ['i'] (by decide) _ hMember
        (List.mem_singleton.mpr rfl)

theorem begins_of_behindBraces?
    {cs rest : List Char}
    (hBraces : behindBraces? cs = some rest) :
    ∃ behind inner,
      cs = 'i' :: 'f' :: behind ∧
        behindMark? "(" behind = some inner := by
  rcases Option.bind_eq_some_iff.mp hBraces with
    ⟨behind, hIf, hBehind⟩
  rcases Option.bind_eq_some_iff.mp hBehind with
    ⟨inner, hInner, -⟩
  exact
    ⟨behind, inner, (Text.dropPrefix?_eq_some_iff _ _ _).mp hIf,
      hInner⟩

/-
  Behind the characters of a condition comes no opening
  bracket, for a closing one comes first.
-/
theorem behindMark?_inCondition
    {chain gap rest behind : List Char}
    (hNotEmpty : chain ≠ [])
    (hChain : ∀ c ∈ chain, isChain c = true)
    (hAscii : Small chain)
    (hGap : ∀ c ∈ gap, Text.isBlank c = true)
    (hSplit :
      chain ++ (gap ++ (')' :: rest)) = 'i' :: 'f' :: behind) :
    behindMark? "(" behind = none := by
  match chain, hNotEmpty with
  -- the keyword would go on behind the condition
  | [c], _ =>
      rcases List.cons.inj hSplit with ⟨-, hSplit⟩
      cases gap with
      | nil => cases hSplit
      | cons g gap =>
          rcases List.cons.inj hSplit with ⟨rfl, -⟩
          cases hGap 'f' List.mem_cons_self
  | [c, c'], _ =>
      rcases List.cons.inj hSplit with ⟨-, hSplit⟩
      rcases List.cons.inj hSplit with ⟨-, hSplit⟩
      rw [← hSplit]
      exact behindMark?_append "(" (')' :: rest) hGap
  -- the condition goes on behind the keyword
  | c :: c' :: d :: more, _ =>
      have hMember : d ∈ c :: c' :: d :: more := by simp
      rcases isChain_ascii (hAscii d hMember)
          (hChain d hMember) with ⟨hBlank, -, hOther, -⟩
      rcases List.cons.inj hSplit with ⟨-, hSplit⟩
      rcases List.cons.inj hSplit with ⟨-, hSplit⟩
      rw [← hSplit]
      simp [behindMark?, hBlank, Text.dropPrefix?, hOther.symm]

/- Only the condition of a branch could begin another one. -/
theorem BranchParts.inCondition
    {passed opening chain gap closing : List Char}
    {k : Nat}
    (hParts : BranchParts passed opening chain gap closing)
    (hAfter : 0 < k)
    (hBegins : passed[k]? = some 'i') :
    ∃ j < chain.length,
      passed.drop k =
        chain.drop j ++ (gap ++ (')' :: closing)) := by
  rw [hParts.passed_eq] at hBegins ⊢
  match k, hAfter with
  | 1, _ => cases hBegins
  | k + 2, _ =>
      simp only [List.getElem?_cons_succ] at hBegins
      simp only [List.drop_succ_cons]
      rcases Nat.lt_or_ge k opening.length with hFirst | hFirst
      · rw [List.getElem?_append_left hFirst] at hBegins
        exact
          absurd (List.mem_of_getElem? hBegins)
            hParts.opening_outside
      rw [List.getElem?_append_right hFirst] at hBegins
      rcases Nat.lt_or_ge (k - opening.length) chain.length with
        hShort | hLong
      · refine ⟨k - opening.length, hShort, ?_⟩
        rw [List.drop_append, List.drop_of_length_le hFirst,
          List.nil_append,
          List.drop_append_of_le_length (Nat.le_of_lt hShort)]
      · rw [List.getElem?_append_right hLong] at hBegins
        have hMember := List.mem_of_getElem? hBegins
        rcases List.mem_append.mp hMember with hGap | hClosing
        · cases hParts.gap_class 'i' hGap
        · rcases List.mem_cons.mp hClosing with hClose | hClosing
          · cases hClose
          · exact absurd hClosing hParts.closing_outside

/- No branch begins inside of another one. -/
theorem BranchParts.behindBraces?_within
    {passed opening chain gap closing rest : List Char}
    {k : Nat}
    (hParts : BranchParts passed opening chain gap closing)
    (hSmall : Small passed)
    (hAfter : 0 < k)
    (hInside : k < passed.length) :
    behindBraces? ((passed ++ rest).drop k) = none := by
  rw [Option.eq_none_iff_forall_not_mem]
  intro last hBraces
  rcases begins_of_behindBraces? hBraces with
    ⟨behind, inner, hSplit, hInner⟩
  rw [List.drop_append_of_le_length (Nat.le_of_lt hInside)]
    at hSplit
  have hBegins : passed[k]? = some 'i' := by
    have hHead := congrArg List.head? hSplit
    rw [List.head?_append_of_ne_nil _
      (by simpa [List.drop_eq_nil_iff] using hInside),
      List.head?_drop] at hHead
    exact hHead
  rcases hParts.inCondition hAfter hBegins with
    ⟨j, hShort, hDrop⟩
  rw [hDrop, List.append_assoc, List.append_assoc] at hSplit
  have hWithin : ∀ c ∈ chain.drop j, c ∈ chain ∧ c ∈ passed := by
    intro c hMember
    have hChain := List.mem_of_mem_drop hMember
    refine ⟨hChain, ?_⟩
    rw [hParts.passed_eq]
    simp [hChain]
  rw [behindMark?_inCondition
    (by simpa [List.drop_eq_nil_iff] using hShort)
    (fun c hMember =>
      hParts.chain_class c (hWithin c hMember).1)
    (fun c hMember => hSmall c (hWithin c hMember).2)
    hParts.gap_class hSplit] at hInner
  cases hInner

end Cleanup

end Devirt

------------------------------------------------------------
-- Dropped Branches
------------------------------------------------------------

namespace Devirt

open Scanner Pattern CodeMap

namespace Cleanup

/-
  An edit drops a branch that does nothing.  The branch begins
  where no word goes on and has no other side, and all of it is
  code.
-/
structure DropsBranch (m : CodeMap) (e : Edit) : Prop where
  begins :
    ∀ c ∈ (m.masked.take e.start).getLast?,
      Text.isWord c = false
  inside : e.stop ≤ m.size
  reads :
    behindBranch? (m.masked.drop e.start) =
      some (m.masked.drop e.stop)
  alone : wordAhead "else" (m.masked.drop e.stop) = false
  isCode : m.isCodeBetween e.start e.stop = true
  replacement_eq : e.replacement = ""

/- A branch begins with a word. -/
theorem head?_of_behindBranch?
    {cs rest : List Char}
    (hBranch : behindBranch? cs = some rest) :
    cs.head? = some 'i' := by
  rcases Option.map_eq_some_iff.mp hBranch with
    ⟨behind, hBraces, -⟩
  rcases begins_of_behindBraces? hBraces with ⟨_, _, rfl, -⟩
  rfl

/- What an edit drops is found by the rule. -/
theorem DropsBranch.finds
    {m : CodeMap}
    {e : Edit}
    (hDrops : DropsBranch m e) :
    ∃ here there,
      Finds emptyBranch.pattern m.masked ⟨e.start, e.stop, []⟩
          here there ∧
        there.OnText m.masked ∧ EndsBranch there ∧
          here.offset = e.start ∧ there.offset = e.stop := by
  have hHead := head?_of_behindBranch? hDrops.reads
  rw [List.head?_drop] at hHead
  have hStart := (List.getElem?_eq_some_iff.mp hHead).1
  rcases exists_place (Nat.le_of_lt hStart) with
    ⟨here, hHere, hOffset⟩
  have hBranch := hDrops.reads
  rw [← hOffset, ← hHere.rest_eq] at hBranch
  have hEdge : isEdge here = true := by
    rw [isEdge_iff_of_word (head?_of_behindBranch? hBranch) rfl,
      hHere.before_eq, hOffset]
    exact hDrops.begins
  rcases emptyBranch_matchFrom hHere (small_masked m) hEdge
      hBranch with
    ⟨there, last, groups, hThere, hRest, hEnds, hMatch, hGroups⟩
  rw [hDrops.alone] at hGroups
  rcases hGroups with ⟨rfl, rfl⟩
  have hStop : last.offset = e.stop := by
    have hLength := congrArg List.length hRest
    have hInside := hThere.inside
    have hStopInside := hDrops.inside
    rw [hThere.rest_eq, List.length_drop, List.length_drop,
      length_masked] at hLength
    rw [length_masked] at hInside
    omega
  rw [hOffset, hStop] at hMatch
  exact
    ⟨here, last, ⟨hHere, hMatch⟩, hThere, hEnds, hOffset, hStop⟩

/- What the rule finds and replaces is dropped. -/
theorem dropsBranch_of_finds
    {m : CodeMap}
    {e : Edit}
    {found : Match}
    {here there : Place}
    (hFinds : Finds emptyBranch.pattern m.masked found here there)
    (hEdit : emptyBranch.edit? m found = some e) :
    DropsBranch m e := by
  have hHere := hFinds.onText
  have hMatch := hFinds.matches_eq
  cases hEdge : isEdge here with
  | false =>
      rw [emptyBranch_matchFrom_none hHere (small_masked m)
        (Or.inl hEdge)] at hMatch
      cases hMatch
  | true =>
      cases hBranch : behindBranch? here.rest with
      | none =>
          rw [emptyBranch_matchFrom_none hHere (small_masked m)
            (Or.inr hBranch)] at hMatch
          cases hMatch
      | some rest =>
          rcases emptyBranch_matchFrom hHere (small_masked m)
              hEdge hBranch with
            ⟨last, other, groups, hLast, rfl, -, hSame, hGroups⟩
          rw [hSame] at hMatch
          cases hMatch
          unfold Rule.edit? at hEdit
          split_ifs at hEdit with hCode
          rw [hLast.rest_eq, hHere.rest_eq] at hBranch
          cases hElse : wordAhead "else" last.rest with
          | true =>
              rw [hElse] at hGroups
              rw [hGroups] at hEdit
              simp [emptyBranch, Match.group?] at hEdit
          | false =>
              rw [hElse] at hGroups
              rcases hGroups with ⟨rfl, rfl⟩
              cases hEdit
              have hBegins :=
                (isEdge_iff_of_word
                  (head?_of_behindBranch? (hHere.rest_eq ▸ hBranch))
                  rfl).mp hEdge
              rw [hHere.before_eq] at hBegins
              exact
                { begins := hBegins
                  inside := by
                    simpa using hLast.inside
                  reads := hBranch
                  alone := hLast.rest_eq ▸ hElse
                  isCode := hCode
                  replacement_eq := rfl }

/- A place inside of a found branch has none of its own. -/
theorem no_branch_within
    {text : List Char}
    {found : Match}
    {first last place : Place}
    (hLocated :
      Located emptyBranch.pattern text found first last)
    (hSmall : Small text)
    (hPlace : place.OnText text)
    (hAfter : found.start < place.offset)
    (hBefore : place.offset < found.stop) :
    behindBranch? place.rest = none := by
  rcases emptyBranch_parts hLocated with
    ⟨passed, opening, chain, gap, closing, hRest, hParts⟩
  rcases hLocated.exists_drop hRest hPlace hAfter hBefore with
    ⟨k, hPositive, hInside, hHere⟩
  have hPassed : Small passed := by
    intro c hMember
    apply hLocated.onText.small hSmall
    rw [hRest]
    exact List.mem_append_left _ hMember
  rw [behindBranch?, hHere,
    hParts.behindBraces?_within hPassed hPositive hInside]
  rfl

/- The edits of the rule are those that drop a branch. -/
theorem mem_edits_emptyBranch
    {m : CodeMap}
    {e : Edit} :
    e ∈ emptyBranch.edits m ↔ DropsBranch m e := by
  rw [Rule.edits_eq_filterMap, List.mem_filterMap]
  constructor
  · rintro ⟨found, hFound, hEdit⟩
    rcases all_finds hFound with ⟨here, there, hFinds⟩
    exact dropsBranch_of_finds hFinds hEdit
  · intro hDrops
    rcases hDrops.finds with
      ⟨here, there, hFinds, -, -, hOffset, -⟩
    refine ⟨⟨e.start, e.stop, []⟩, ?_, ?_⟩
    · rcases hFinds.mem_all with
        hMember | ⟨other, hOther, hAfter, hBefore⟩
      · exact hMember
      · rcases all_located hOther with ⟨first, last, hLocated⟩
        have hNone :=
          no_branch_within hLocated (small_masked m)
            hFinds.onText hAfter hBefore
        rw [hFinds.onText.rest_eq, hOffset, hDrops.reads]
          at hNone
        cases hNone
    · rcases e with ⟨start, stop, replacement⟩
      have hReplacement : replacement = "" :=
        hDrops.replacement_eq
      simp [Rule.edit?, hDrops.isCode, emptyBranch,
        Match.group?, hReplacement]

/- A branch ends where the script can be cut. -/
theorem EndsBranch.isBoundary
    {code : String}
    {there : Place}
    (hEnds : EndsBranch there)
    (hText : there.OnText (ofText code).masked) :
    (ofText code).isBoundary there.offset = true := by
  rcases hEnds with hSemicolon | hNotBlank
  · rcases hText.getElem?_of_before hSemicolon with
      ⟨hPositive, hShown⟩
    have hCut := (isBoundary_of_shown hShown (by decide)).2
    rwa [Nat.sub_add_cancel hPositive] at hCut
  · have hHead := hText.head?_rest
    cases hNext : there.rest.head? with
    | none =>
        have hInside := hText.inside
        rw [hNext] at hHead
        have hEnd := List.getElem?_eq_none_iff.mp hHead.symm
        rw [length_masked] at hInside hEnd
        rw [Nat.le_antisymm hInside hEnd]
        exact isBoundary_size _
    | some c =>
        rw [hNext] at hHead
        refine (isBoundary_of_shown hHead.symm ?_).1
        rintro rfl
        cases hNotBlank ' ' hNext

theorem DropsBranch.isWhole
    {code : String}
    {e : Edit}
    (hDrops : DropsBranch (ofText code) e) :
    (ofText code).isWhole e = true := by
  have hHead := head?_of_behindBranch? hDrops.reads
  rw [List.head?_drop] at hHead
  rcases hDrops.finds with
    ⟨here, there, -, hThere, hEnds, -, hStop⟩
  have hCut := hEnds.isBoundary hThere
  rw [hStop] at hCut
  simp [CodeMap.isWhole, hCut,
    (isBoundary_of_shown hHead (by decide)).1]

end Cleanup

/-
  The pass over branches completes on every script.  It makes
  the edits that drop a branch, all of them and no others; of
  what stands before a branch, only one character counts.
-/
theorem dropEmptyBranches_drops
    (code : String) :
    Cleanup.dropEmptyBranches code =
        .ok
          (Cleanup.emptyBranch.edited code,
            (Cleanup.emptyBranch.edits (ofText code)).length) ∧
      ∀ e,
        e ∈ Cleanup.emptyBranch.edits (ofText code) ↔
          Cleanup.DropsBranch (ofText code) e := by
  refine ⟨?_, fun e => Cleanup.mem_edits_emptyBranch⟩
  apply Rule.apply_of_isWhole
  intro e hEdit
  exact (Cleanup.mem_edits_emptyBranch.mp hEdit).isWhole

end Devirt

------------------------------------------------------------
-- Bodies of Statements
------------------------------------------------------------

namespace Devirt

open CodeMap Pattern

namespace Cleanup

/- The word that a text ends with, given from its end on. -/
def wordBefore (reversed : List Char) : String :=
  String.ofList (reversed.takeWhile isName).reverse

/-
  What stands before the round bracket that is open at the end
  of a text, given from its end on.
-/
def beforeBracket? : Nat → List Char → Option (List Char)
  | _, [] => none
  | depth, ')' :: cs => beforeBracket? (depth + 1) cs
  | 0, '(' :: cs => some cs
  | depth + 1, '(' :: cs => beforeBracket? depth cs
  | depth, _ :: cs => beforeBracket? depth cs

/-
  What stands before the brackets that a text ends with, given
  from its end on.
-/
def beforeHeader? : List Char → Option (List Char)
  | ')' :: cs =>
    (beforeBracket? 0 cs).map (·.dropWhile Text.isBlank)
  | _ => none

/-
  A statement that is not the body of another: no keyword
  stands before it that waits for a body, nor the header of a
  branch or a loop.
-/
def FreeStanding (m : CodeMap) (start : Nat) : Prop :=
  let before :=
    (m.masked.take start).reverse.dropWhile Text.isBlank
  wordBefore before ∉ ["else", "do"] ∧
    ∀ header ∈ beforeHeader? before,
      wordBefore header ∉ ["if", "for", "while", "with"]

instance (m : CodeMap) (start : Nat) :
    Decidable (FreeStanding m start) :=
  inferInstanceAs (Decidable (_ ∧ _))

/- A script loses the body of a statement. -/
def LosesBody (code next : String) : Prop :=
  dropEmptyBranches code = .ok (next, 1) ∧
    ∃ e ∈ emptyBranch.edits (ofText code),
      ¬ FreeStanding (ofText code) e.start

instance (code next : String) :
    Decidable (LosesBody code next) :=
  inferInstanceAs (Decidable (_ ∧ _))

end Cleanup

/-
  Branches that are bodies: of the other side of a branch, and
  of a loop.
-/
def branchBehindElse : String :=
  "if (a) b(); else if (c) \x7b\x7d d();"

def branchInLoop : String := "while (x) if (c) \x7b\x7d d();"

/- The call behind the branch becomes the body in its place. -/
theorem bodies_dropped :
    Cleanup.LosesBody branchBehindElse "if (a) b(); else d();" ∧
      Cleanup.LosesBody branchInLoop "while (x) d();" := by
  refine ⟨?_, ?_⟩ <;> decide +kernel

end Devirt
