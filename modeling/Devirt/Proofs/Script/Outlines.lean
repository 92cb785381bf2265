import Devirt.Script.Parser
import Devirt.Source.CodeMap
import Mathlib.Data.List.Basic

/-
  What a text and a tree have in common where switch statements
  are counted.

  Of a list of tokens only a few signs matter: the words of a
  switch statement and the brackets around its subject and its
  cases.  An outline arranges signs as constructs do, and says
  how many labels stand outside of all brackets and how many
  cases the widest switch statement has.  Of trees only the
  number of cases of the widest switch statement matters, and
  whether a member is named by one of the words.

  Main declarations:
    * `Sign`, `Token.sign`
    * `Outline`
    * `Tree.widest`, `Tree.borrows`
    * `Covers`, `Depicts`
-/

------------------------------------------------------------
-- Signs
------------------------------------------------------------

namespace Devirt

namespace Script

open CodeMap (Bracket)

/- The words that only switch statements are made of. -/
def switchWords : List String := ["switch", "case", "default"]

/- What a token means where switch statements are counted. -/
inductive Sign where
  | switchWord
  | label
  | opening (k : Bracket)
  | closing (k : Bracket)
  | other
  deriving DecidableEq

namespace Sign

def ofWord (x : String) : Sign :=
  if x = "switch" then switchWord
  else if x = "case" ∨ x = "default" then label
  else other

def ofMark (m : String) : Sign :=
  if m = "(" then opening .round
  else if m = ")" then closing .round
  else if m = "\x7b" then opening .curly
  else if m = "\x7d" then closing .curly
  else other

theorem ofWord_of_notMem
    {x : String}
    (hOther : x ∉ switchWords) :
    ofWord x = other := by
  simp only [switchWords, List.mem_cons, List.not_mem_nil,
    or_false, not_or] at hOther
  simp [ofWord, hOther]

end Sign

/- A secret name is told by the word behind its mark. -/
def Token.sign : Token → Sign
  | .word x _ => Sign.ofWord x
  | .secret x => Sign.ofWord x
  | .mark m => Sign.ofMark m
  | _ => .other

------------------------------------------------------------
-- Outlines
------------------------------------------------------------

/-
  Signs that are arranged as in a script.  The numbers say how
  many labels stand in no brackets, and how many cases the
  widest switch statement has.
-/
inductive Outline : List Sign → Nat → Nat → Prop where
  | nil : Outline [] 0 0
  | other : Outline [.other] 0 0
  | label : Outline [.label] 1 0
  | append
      {signs more : List Sign}
      {labels moreLabels width moreWidth : Nat}
      (hSigns : Outline signs labels width)
      (hMore : Outline more moreLabels moreWidth) :
      Outline (signs ++ more) (labels + moreLabels)
        (max width moreWidth)
  | enclosed
      {signs : List Sign}
      {width : Nat}
      (k : Bracket)
      (hSigns : Outline signs 0 width) :
      Outline (.opening k :: signs ++ [.closing k]) 0 width
  | switch
      {subject cases : List Sign}
      {labels width caseWidth : Nat}
      (hSubject : Outline subject 0 width)
      (hCases : Outline cases labels caseWidth) :
      Outline
        (.switchWord ::
          (.opening .round :: subject ++ [.closing .round]) ++
          (.opening .curly :: cases ++ [.closing .curly]))
        0 (max labels (max width caseWidth))

/- An outline says what equal signs and numbers say. -/
theorem Outline.cast
    {signs others : List Sign}
    {labels otherLabels width otherWidth : Nat}
    (hOutline : Outline signs labels width)
    (hSigns : signs = others)
    (hLabels : labels = otherLabels)
    (hWidth : width = otherWidth) :
    Outline others otherLabels otherWidth := by
  subst hSigns hLabels hWidth
  exact hOutline

------------------------------------------------------------
-- Trees
------------------------------------------------------------

/- Whether a member has one of the words for its name. -/
def isSwitchUnits (s : Units) : Bool :=
  switchWords.any fun w => s == Units.ofString w

/-
  Whether a node is named by one of the words of switch
  statements, as members may be.
-/
def Label.borrows : Label → Bool
  | .select x => switchWords.contains x
  | .selectPrivate x => switchWords.contains x
  | .selectSuper x => switchWords.contains x
  | .testPrivate x => switchWords.contains x
  | .linkSelect _ x => switchWords.contains x
  | .linkPrivate _ x => switchWords.contains x
  | .keyPrivate x => switchWords.contains x
  | .keyText s => isSwitchUnits s
  | .shorthand x => isSwitchUnits (Units.ofString x)
  | .withDefault x => isSwitchUnits (Units.ofString x)
  | _ => false

/- Whether a node may have parts. -/
def Label.isLeaf : Label → Bool
  | .absent => true
  | .shorthand _ => true
  | _ => false

/-
  Whether a node is nothing but its parts where switch
  statements are counted.
-/
def Label.isPlain (l : Label) : Bool :=
  l ≠ .switch && !l.isLeaf && !l.borrows

namespace Tree

/- The cases of a node, if it is a switch statement. -/
def caseCount : Tree → Nat
  | node .switch (_ :: cases) => cases.length
  | _ => 0

theorem caseCount_of_ne
    {l : Label}
    {ps : List Tree}
    (hOther : l ≠ .switch) :
    caseCount (.node l ps) = 0 := by
  unfold caseCount
  split
  · next hSame =>
      exact absurd (Tree.node.inj hSame).1 hOther
  · rfl

theorem caseCount_nil
    (l : Label) :
    caseCount (.node l []) = 0 := by
  unfold caseCount
  split
  · next hSame => cases (Tree.node.inj hSame).2
  · rfl

mutual

/- The number of cases of the widest switch statement. -/
def widest : Tree → Nat
  | node l ps => max (caseCount (node l ps)) (widestOf ps)

def widestOf : List Tree → Nat
  | [] => 0
  | t :: ts => max (widest t) (widestOf ts)

end

mutual

/- Whether some member is named by a word of the statements. -/
def borrows : Tree → Bool
  | node l ps => l.borrows || anyBorrows ps

def anyBorrows : List Tree → Bool
  | [] => false
  | t :: ts => borrows t || anyBorrows ts

end

mutual

/- Whether the leaves of a tree have no parts. -/
def isTidy : Tree → Bool
  | node l ps => (!l.isLeaf || ps.isEmpty) && allTidy ps

def allTidy : List Tree → Bool
  | [] => true
  | t :: ts => isTidy t && allTidy ts

end

variable {ts us : List Tree}

theorem widestOf_append
    (ts us : List Tree) :
    widestOf (ts ++ us) = max (widestOf ts) (widestOf us) := by
  induction ts with
  | nil => simp [widestOf]
  | cons t ts ih => simp [widestOf, ih, Nat.max_assoc]

theorem anyBorrows_append
    (ts us : List Tree) :
    anyBorrows (ts ++ us) =
      (anyBorrows ts || anyBorrows us) := by
  induction ts with
  | nil => simp [anyBorrows]
  | cons t ts ih => simp [anyBorrows, ih, Bool.or_assoc]

theorem allTidy_append
    (ts us : List Tree) :
    allTidy (ts ++ us) = (allTidy ts && allTidy us) := by
  induction ts with
  | nil => simp [allTidy]
  | cons t ts ih => simp [allTidy, ih, Bool.and_assoc]

theorem widestOf_perm
    (hPerm : ts.Perm us) :
    widestOf ts = widestOf us := by
  induction hPerm with
  | nil => rfl
  | cons t _ ih => simp [widestOf, ih]
  | swap t u ts => simp [widestOf, Nat.max_left_comm]
  | trans _ _ ihFirst ihSecond => rw [ihFirst, ihSecond]

theorem anyBorrows_perm
    (hPerm : ts.Perm us) :
    anyBorrows ts = anyBorrows us := by
  induction hPerm with
  | nil => rfl
  | cons t _ ih => simp [anyBorrows, ih]
  | swap t u ts => simp [anyBorrows, Bool.or_left_comm]
  | trans _ _ ihFirst ihSecond => rw [ihFirst, ihSecond]

theorem allTidy_perm
    (hPerm : ts.Perm us) :
    allTidy ts = allTidy us := by
  induction hPerm with
  | nil => rfl
  | cons t _ ih => simp [allTidy, ih]
  | swap t u ts => simp [allTidy, Bool.and_left_comm]
  | trans _ _ ihFirst ihSecond => rw [ihFirst, ihSecond]

end Tree

------------------------------------------------------------
-- Trees Made of Trees
------------------------------------------------------------

open Devirt.Script.Tree

/-
  Trees that were made of others, so that nothing that matters
  was lost and no switch statement was added.
-/
structure Covers (ts us : List Tree) : Prop where
  tidy : allTidy ts = true → allTidy us = true
  widest_eq : allTidy ts = true → widestOf us = widestOf ts
  borrows_of :
    allTidy ts = true →
      anyBorrows us = false → anyBorrows ts = false

namespace Covers

variable {ts us vs ws ps : List Tree}
variable {l : Label}

theorem refl (ts : List Tree) : Covers ts ts :=
  ⟨id, fun _ => rfl, fun _ => id⟩

theorem trans
    (hFirst : Covers ts us)
    (hSecond : Covers us vs) :
    Covers ts vs where
  tidy := fun hTidy => hSecond.tidy (hFirst.tidy hTidy)
  widest_eq := fun hTidy => by
    rw [hSecond.widest_eq (hFirst.tidy hTidy),
      hFirst.widest_eq hTidy]
  borrows_of := fun hTidy hNone =>
    hFirst.borrows_of hTidy
      (hSecond.borrows_of (hFirst.tidy hTidy) hNone)

theorem perm
    (hPerm : ts.Perm us) :
    Covers ts us where
  tidy := fun hTidy => by rw [← allTidy_perm hPerm, hTidy]
  widest_eq := fun _ => (widestOf_perm hPerm).symm
  borrows_of := fun _ hNone => by
    rw [anyBorrows_perm hPerm, hNone]

theorem append
    (hFirst : Covers ts us)
    (hSecond : Covers vs ws) :
    Covers (ts ++ vs) (us ++ ws) := by
  refine ⟨?_, ?_, ?_⟩ <;>
    simp only [allTidy_append, widestOf_append,
      anyBorrows_append, Bool.and_eq_true, Bool.or_eq_false_iff]
  · rintro ⟨hOne, hOther⟩
    exact ⟨hFirst.tidy hOne, hSecond.tidy hOther⟩
  · rintro ⟨hOne, hOther⟩
    rw [hFirst.widest_eq hOne, hSecond.widest_eq hOther]
  · rintro ⟨hOne, hOther⟩ ⟨hNone, hNoOther⟩
    exact ⟨hFirst.borrows_of hOne hNone,
      hSecond.borrows_of hOther hNoOther⟩

theorem append_right
    (hFirst : Covers ts us)
    (vs : List Tree) :
    Covers (ts ++ vs) (us ++ vs) :=
  hFirst.append (refl vs)

theorem cons
    {t u : Tree}
    (hFirst : Covers [t] [u])
    (hRest : Covers ts us) :
    Covers (t :: ts) (u :: us) :=
  hFirst.append hRest

/- The parts of a node become the node. -/
theorem node
    (ps : List Tree)
    (hPlain : l.isPlain = true) :
    Covers ps [.node l ps] := by
  simp only [Label.isPlain, Bool.and_eq_true,
    Bool.not_eq_true', decide_eq_true_eq] at hPlain
  rcases hPlain with ⟨⟨hSwitch, hLeaf⟩, hBorrows⟩
  refine ⟨?_, ?_, ?_⟩
  · intro hTidy
    simp [allTidy, isTidy, hLeaf, hTidy]
  · intro _
    simp [widestOf, widest, caseCount_of_ne hSwitch]
  · intro _ hNone
    simpa [anyBorrows, borrows, hBorrows] using hNone

theorem ofNode
    (ps : List Tree)
    (hPlain : l.isPlain = true) :
    Covers [.node l ps] ps := by
  simp only [Label.isPlain, Bool.and_eq_true,
    Bool.not_eq_true', decide_eq_true_eq] at hPlain
  rcases hPlain with ⟨⟨hSwitch, hLeaf⟩, hBorrows⟩
  refine ⟨?_, ?_, ?_⟩
  · intro hTidy
    simpa [allTidy, isTidy, hLeaf] using hTidy
  · intro _
    simp [widestOf, widest, caseCount_of_ne hSwitch]
  · intro _ hNone
    simp [anyBorrows, borrows, hBorrows, hNone]

/- What was read in order becomes a node. -/
theorem built
    (ps ts : List Tree)
    (hPlain : l.isPlain = true) :
    Covers (ps.reverse ++ ts) (.node l ps :: ts) :=
  ((perm (List.reverse_perm ps)).trans
    (node ps hPlain)).append_right ts

/- What was read in order, and is kept in reverse. -/
theorem gathered
    (done ts : List Tree)
    (hPlain : l.isPlain = true) :
    Covers (done ++ ts) (.node l done.reverse :: ts) :=
  ((perm (List.reverse_perm done).symm).trans
    (node done.reverse hPlain)).append_right ts

theorem reversed
    (done ts : List Tree) :
    Covers (done ++ ts) (done.reverse ++ ts) :=
  (perm (List.reverse_perm done).symm).append_right ts

/- What was read before and behind the first part. -/
theorem headed
    (t : Tree)
    (ps ts : List Tree)
    (hPlain : l.isPlain = true) :
    Covers (ps ++ t :: ts) (.node l (t :: ps) :: ts) :=
  (perm List.perm_middle).trans
    ((node (t :: ps) hPlain).append_right ts)

/- A node without parts is there without a sign. -/
theorem leaf
    (l : Label)
    (ts : List Tree) :
    Covers ts (.node l [] :: ts) := by
  refine ⟨?_, ?_, ?_⟩
  · intro hTidy
    simp [allTidy, isTidy, hTidy]
  · intro _
    simp [widestOf, widest, caseCount_nil]
  · intro _ hNone
    rw [anyBorrows, Bool.or_eq_false_iff] at hNone
    exact hNone.2

/- A name that was read goes into its node. -/
theorem named
    {k : Label}
    (ps ts : List Tree)
    (hBorrows : k.borrows = l.borrows)
    (hLeaf : l.isLeaf = false)
    (hOther : l ≠ .switch) :
    Covers (.node k [] :: (ps ++ ts)) (.node l ps :: ts) := by
  have hNode : Covers (.node k [] :: ps) [.node l ps] := by
    refine ⟨?_, ?_, ?_⟩
    · simp [allTidy, isTidy, hLeaf]
    · intro _
      simp [widestOf, widest, caseCount_of_ne hOther,
        caseCount_nil]
    · intro _ hNone
      simpa [anyBorrows, borrows, hBorrows] using hNone
  exact hNode.append_right ts

/- A part that was left out says nothing. -/
theorem ofAbsent
    (ps ts : List Tree) :
    Covers (.node .absent ps :: ts) ts := by
  refine ⟨?_, ?_, ?_⟩ <;>
    simp +contextual [allTidy, isTidy, widestOf, widest,
      caseCount, anyBorrows, borrows, Label.isLeaf,
      Label.borrows]

end Covers

------------------------------------------------------------
-- Signs of Trees
------------------------------------------------------------

/-
  Signs from which trees were read.  Nothing is said of trees
  with members that are named by the words of switch statements.
-/
structure Depicts
    (labels : Nat)
    (ts : List Tree)
    (signs : List Sign) :
    Prop where
  tidy : allTidy ts = true
  outline :
    anyBorrows ts = false → Outline signs labels (widestOf ts)

namespace Depicts

variable {ts us : List Tree}
variable {signs more : List Sign}
variable {labels moreLabels : Nat}

theorem nil : Depicts 0 [] [] :=
  ⟨rfl, fun _ => .nil⟩

theorem other : Depicts 0 [] [.other] :=
  ⟨rfl, fun _ => .other⟩

theorem label : Depicts 1 [] [.label] :=
  ⟨rfl, fun _ => .label⟩

theorem covers
    (hSigns : Depicts labels ts signs)
    (hCovers : Covers ts us) :
    Depicts labels us signs where
  tidy := hCovers.tidy hSigns.tidy
  outline := fun hNone => by
    rw [hCovers.widest_eq hSigns.tidy]
    exact hSigns.outline (hCovers.borrows_of hSigns.tidy hNone)

theorem append
    (hSigns : Depicts labels ts signs)
    (hMore : Depicts moreLabels us more) :
    Depicts (labels + moreLabels) (us ++ ts)
      (signs ++ more) where
  tidy := by
    rw [allTidy_append, hSigns.tidy, hMore.tidy]
    rfl
  outline := fun hNone => by
    rw [anyBorrows_append, Bool.or_eq_false_iff] at hNone
    rw [widestOf_append, Nat.max_comm]
    exact (hSigns.outline hNone.2).append
      (hMore.outline hNone.1)

theorem enclosed
    (k : Bracket)
    (hSigns : Depicts 0 ts signs) :
    Depicts 0 ts (.opening k :: signs ++ [.closing k]) :=
  ⟨hSigns.tidy, fun hNone => (hSigns.outline hNone).enclosed k⟩

theorem switch
    {e : Tree}
    {cs : List Tree}
    {subject cases : List Sign}
    (hSubject : Depicts 0 [e] subject)
    (hCases : Depicts cs.length cs cases) :
    Depicts 0 [.switch e cs]
      (.switchWord ::
        (.opening .round :: subject ++ [.closing .round]) ++
        (.opening .curly :: cases ++ [.closing .curly])) where
  tidy := by
    have hParts := hSubject.tidy
    simp only [allTidy, Bool.and_true] at hParts
    simp [allTidy, isTidy, Label.isLeaf, hParts, hCases.tidy]
  outline := fun hNone => by
    simp only [anyBorrows, borrows, Bool.or_false,
      Bool.or_eq_false_iff] at hNone
    have hFirst := hSubject.outline (by
      simpa [anyBorrows] using hNone.2.1)
    have hSecond := hCases.outline hNone.2.2
    refine (hFirst.switch hSecond).cast rfl rfl ?_
    simp [widestOf, widest, caseCount]

/- The name of a member is told by its node. -/
theorem ofName
    {l : Label}
    {x : String}
    (hBorrows : x ∈ switchWords → l.borrows = true) :
    Depicts 0 [.node l []] [Sign.ofWord x] where
  tidy := by simp [allTidy, isTidy]
  outline := fun hNone => by
    have hOwn : l.borrows = false := by
      simpa [anyBorrows, borrows] using hNone
    have hWord : x ∉ switchWords := by
      intro hMember
      rw [hBorrows hMember] at hOwn
      cases hOwn
    rw [Sign.ofWord_of_notMem hWord]
    simpa [widestOf, widest, caseCount_nil] using Outline.other

theorem named
    {l : Label}
    {x : String}
    (hBorrows : l.borrows = switchWords.contains x) :
    Depicts 0 [.node l []] [Sign.ofWord x] := by
  refine ofName fun hMember => ?_
  rw [hBorrows]
  simpa using hMember

end Depicts

------------------------------------------------------------
-- Patterns
------------------------------------------------------------

namespace Tree

theorem inner_covers
    (t : Tree) :
    Covers [t] [inner t] := by
  induction t using inner.induct with
  | case1 e ih =>
      rw [inner]
      exact (Covers.ofNode [e] rfl).trans ih
  | case2 t hOther =>
      rw [inner]
      · exact Covers.refl [t]
      · exact hOther

theorem simpleTarget?_covers
    {c : Context}
    {t p : Tree}
    (hTarget : simpleTarget? c t = some p) :
    Covers [t] [p] := by
  have hInner := inner_covers t
  unfold simpleTarget? at hTarget
  split at hTarget
  · next x hName =>
      rw [hName] at hInner
      split at hTarget
      · cases hTarget
        exact hInner
      · cases hTarget
  · next e hOther =>
      split at hTarget
      · cases hTarget
        exact hInner
      · cases hTarget

/- What becomes a node of another kind with the same parts. -/
theorem relabel_covers
    {l k : Label}
    {ps qs : List Tree}
    (hParts : Covers ps qs)
    (hOld : l.isPlain = true)
    (hNew : k.isPlain = true) :
    Covers [.node l ps] [.node k qs] :=
  ((Covers.ofNode ps hOld).trans hParts).trans
    (Covers.node qs hNew)

/- A member that is named like its value becomes two nodes. -/
theorem shortProperty_covers
    (x : String)
    (ps : List Tree) :
    Covers [.node (.withDefault x) ps]
      [shortProperty x (.node .defaulted (.name x :: ps))] := by
  refine ⟨?_, ?_, ?_⟩ <;>
    simp +contextual [shortProperty, allTidy, isTidy, widestOf,
      widest, caseCount, anyBorrows, borrows, Label.isLeaf,
      Label.borrows]

theorem shorthand_covers
    (x : String)
    (ps : List Tree) :
    Covers [.node (.shorthand x) ps]
      [shortProperty x (.name x)] := by
  refine ⟨?_, ?_, ?_⟩ <;>
    simp +contextual [shortProperty, allTidy, isTidy, widestOf,
      widest, caseCount, anyBorrows, borrows, Label.isLeaf,
      Label.borrows]

theorem absent_covers
    (ps : List Tree) :
    Covers [.node .absent ps] [absent] := by
  refine ⟨?_, ?_, ?_⟩ <;>
    simp +contextual [allTidy, isTidy, widestOf,
      widest, caseCount, anyBorrows, borrows, Label.isLeaf,
      Label.borrows]

mutual

/- Patterns have what the expressions had that they were. -/
theorem toElement?_covers
    {isStrict : Bool}
    {t p : Tree}
    (hElement : toElement? isStrict t = some p) :
    Covers [t] [p] := by
  unfold toElement? at hElement
  split at hElement
  · next items =>
      rcases Option.map_eq_some_iff.mp hElement with
        ⟨ps, hItems, rfl⟩
      exact relabel_covers (toElements?_covers hItems) rfl rfl
  · next properties =>
      rcases Option.map_eq_some_iff.mp hElement with
        ⟨ps, hProperties, rfl⟩
      exact relabel_covers (toProperties?_covers hProperties)
        rfl rfl
  · next e =>
      split at hElement
      · rcases Option.map_eq_some_iff.mp hElement with
          ⟨q, hTarget, rfl⟩
        exact relabel_covers (toElement?_covers hTarget) rfl rfl
      · cases hElement
  · next target value =>
      cases hElement
      exact relabel_covers (Covers.refl _) rfl rfl
  · next parts =>
      cases hElement
      exact absent_covers parts
  · split at hElement
    · cases hElement
      exact Covers.refl [t]
    · cases hElement
termination_by sizeOf t

theorem toElements?_covers
    {isStrict : Bool}
    {ts ps : List Tree}
    (hElements : toElements? isStrict ts = some ps) :
    Covers ts ps := by
  cases ts with
  | nil =>
      cases hElements
      exact Covers.refl []
  | cons t ts =>
      unfold toElements? at hElements
      extract_lets fits at hElements
      split at hElements
      · rcases Option.bind_eq_some_iff.mp hElements with
          ⟨p, hFirst, hMore⟩
        rcases Option.bind_eq_some_iff.mp hMore with
          ⟨qs, hRest, hList⟩
        cases hList
        exact (toElement?_covers hFirst).cons
          (toElements?_covers hRest)
      · cases hElements
termination_by sizeOf ts

theorem toProperty?_covers
    {isStrict : Bool}
    {t p : Tree}
    (hProperty : toProperty? isStrict t = some p) :
    Covers [t] [p] := by
  unfold toProperty? at hProperty
  split at hProperty
  · next x parts =>
      split at hProperty
      · cases hProperty
      · cases hProperty
        exact shorthand_covers x parts
  · next x e =>
      split at hProperty
      · cases hProperty
      · cases hProperty
        exact shortProperty_covers x [e]
  · next key value =>
      split at hProperty
      · rcases Option.map_eq_some_iff.mp hProperty with
          ⟨q, hValue, rfl⟩
        exact relabel_covers
          ((Covers.refl [key]).append (toElement?_covers hValue))
          rfl rfl
      · cases hProperty
  · next e =>
      split at hProperty
      · cases hProperty
        exact relabel_covers (Covers.refl [e]) rfl rfl
      · cases hProperty
  · cases hProperty
termination_by sizeOf t

theorem toProperties?_covers
    {isStrict : Bool}
    {ts ps : List Tree}
    (hProperties : toProperties? isStrict ts = some ps) :
    Covers ts ps := by
  cases ts with
  | nil =>
      cases hProperties
      exact Covers.refl []
  | cons t ts =>
      unfold toProperties? at hProperties
      extract_lets fits at hProperties
      split at hProperties
      · rcases Option.bind_eq_some_iff.mp hProperties with
          ⟨p, hFirst, hMore⟩
        rcases Option.bind_eq_some_iff.mp hMore with
          ⟨qs, hRest, hList⟩
        cases hList
        exact (toProperty?_covers hFirst).cons
          (toProperties?_covers hRest)
      · cases hProperties
termination_by sizeOf ts

end

theorem toPattern?_covers
    {isStrict : Bool}
    {t p : Tree}
    (hPattern : toPattern? isStrict t = some p) :
    Covers [t] [p] := by
  unfold toPattern? at hPattern
  split at hPattern
  · exact toElement?_covers hPattern
  · cases hPattern

theorem toParam?_covers
    {isStrict : Bool}
    {t p : Tree}
    (hParam : toParam? isStrict t = some p) :
    Covers [t] [p] := by
  unfold toParam? at hParam
  split at hParam
  · split at hParam
    · cases hParam
    · cases hParam
      exact Covers.refl _
  · split at hParam
    · cases hParam
    · cases hParam
      exact relabel_covers (Covers.refl _) rfl rfl
  · exact toPattern?_covers hParam

theorem toParams_covers
    {isStrict : Bool}
    {ts ps : List Tree}
    (hParams : ts.mapM (toParam? isStrict) = some ps) :
    Covers ts ps := by
  induction ts generalizing ps with
  | nil =>
      cases hParams
      exact Covers.refl []
  | cons t ts ih =>
      rw [List.mapM_cons] at hParams
      rcases Option.bind_eq_some_iff.mp hParams with
        ⟨p, hFirst, hMore⟩
      rcases Option.bind_eq_some_iff.mp hMore with
        ⟨qs, hRest, hList⟩
      cases hList
      exact (toParam?_covers hFirst).cons (ih hRest)

end Tree

end Script

end Devirt
