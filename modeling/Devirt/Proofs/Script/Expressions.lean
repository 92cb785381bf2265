import Devirt.Proofs.Script.Functions

/-
  Expressions, and the signs of their tokens.

  An expression may turn out to be the parameters of an arrow
  function or the target of an assignment after it was read.
  What is made of it then covers what it was, so the signs that
  were taken still fit.

  Main declarations:
    * `Grammar.primary_draws`, `Grammar.leftSide_draws`
    * `Grammar.unary_draws`, `Grammar.binary_draws`
    * `Grammar.assignment_draws`
-/

------------------------------------------------------------
-- Lists and Objects
------------------------------------------------------------

namespace Devirt

namespace Script

namespace Grammar

open Parse
open CodeMap (Bracket)

variable {parse : Goal → Parse Tree}

section

variable (hParse : ∀ g, Draws (parse g) one)

include hParse

theorem spread_draws :
    Draws (Tree.spread <$> parse .assignment) one := by
  intro known labels ts
  refine Reads.map ?_
  refine Reads.ofBind ?_
  refine Reads.draws (hParse .assignment) fun e => ?_
  refine Reads.give ?_
  exact Covers.built [e] ts rfl

theorem coverArguments_closes :
    Closes .round (coverArguments parse) id := by
  intro known labels ts
  refine Reads.within (Reads.loop
    (After (Opened .round (After known labels ts)) 0)
    fun done => ?_)
  refine Reads.ifEat (.closing rfl) ?_ ?_
  · exact Reads.stop (Covers.reversed done ts)
  refine Reads.ifEat (.other rfl)
    (Reads.draws (spread_draws hParse) ?item)
    (Reads.draws (hParse .assignment) ?item)
  intro e
  refine Reads.ifEat (.closing rfl) ?_ ?_
  · exact Reads.stop (Covers.reversed (e :: done) ts)
  · refine Reads.expect (.other rfl) ?_
    exact Reads.goOn (Covers.refl _)

theorem arguments_closes :
    Closes .round (arguments parse) id :=
  fun known labels ts =>
    (coverArguments_closes hParse known labels ts).settled

theorem arrayLiteral_draws :
    Draws (arrayLiteral parse) one := by
  intro known labels ts
  refine Reads.within (Reads.loop (a := [])
    (fun done => After known labels (done ++ ts))
    fun done => ?_)
  refine Reads.ifEat (.other rfl) ?_ ?_
  · exact Reads.stop (Covers.gathered done ts rfl)
  refine Reads.ifEat (.other rfl) ?_ ?_
  · exact Reads.goOn (Covers.leaf .absent _)
  refine Reads.eat (.other rfl) fun isSpread => ?_
  refine Reads.draws (hParse .assignment) fun e => ?_
  have hRest :
      ∀ u,
        Covers (e :: (done ++ ts)) (u :: (done ++ ts)) →
          Reads anywhere (After known labels (e :: (done ++ ts)))
            (do
              if ← eat "]" then
                return .inr (.array (u :: done).reverse)
              else
                expect ","
                if isSpread then
                  modify fun s => { s with noPattern := true }
                return .inl (u :: done))
            (Sum.elim (fun done => After known labels (done ++ ts))
              fun t => After known labels (one t ++ ts)) := by
    intro u hCovers
    refine Reads.ifEat (.other rfl) ?_ ?_
    · exact Reads.stop
        (hCovers.trans (Covers.gathered (u :: done) ts rfl))
    refine Reads.expect (.other rfl) ?_
    refine Reads.ite (fun _ => ?_) fun _ => Reads.goOn hCovers
    exact Reads.modify (fun _ => rfl) (Reads.goOn hCovers)
  cases isSpread with
  | true => exact hRest (.spread e) (Covers.built [e] _ rfl)
  | false => exact hRest e (Covers.refl _)

omit hParse in
/- The key of a member that is named by a word. -/
theorem propertyKey_word
    {x : String}
    {escaped : Bool}
    (known : List Sign → Prop)
    (labels : Nat)
    (ts : List Tree) :
    Reads (atToken (.word x escaped)) (After known labels ts)
      (propertyKey parse)
      fun key signs =>
        key = keyText x ∧
          After known labels (keyText x :: ts) signs := by
  refine Reads.tokenAt ?_
  exact Reads.advance (.depicts (keyText_depicts x))
    (Reads.pure fun signs hSigns => ⟨rfl, hSigns⟩)

omit hParse in
/- A member that is named like its value has its name twice. -/
theorem withDefault_covers
    (x : String)
    (e : Tree)
    (ts : List Tree) :
    Covers (e :: keyText x :: ts)
      (.node (.withDefault x) [e] :: ts) := by
  have hParts :
      Covers [keyText x, e] [.node (.withDefault x) [e]] := by
    refine ⟨?_, ?_, ?_⟩ <;>
      simp +contextual [keyText, Tree.allTidy, Tree.isTidy,
        Tree.widestOf, Tree.widest, Tree.caseCount,
        Tree.anyBorrows, Tree.borrows, Label.isLeaf,
        Label.borrows]
  exact (Covers.perm (List.Perm.swap _ _ _)).trans
    (hParts.append_right ts)

omit hParse in
theorem shorthand_covers
    (x : String)
    (ts : List Tree) :
    Covers (keyText x :: ts)
      (.node (.shorthand x) [] :: ts) := by
  have hName :
      Covers [keyText x] [.node (.shorthand x) []] := by
    refine ⟨?_, ?_, ?_⟩ <;>
      simp +contextual [keyText, Tree.allTidy, Tree.isTidy,
        Tree.widestOf, Tree.widest, Tree.caseCount,
        Tree.anyBorrows, Tree.borrows, Label.isLeaf,
        Label.borrows]
  exact hName.append_right ts

theorem propertyAfter_draws
    (m : Modifiers)
    (start : List Char) :
    Draws (propertyAfter parse m start) one := by
  intro known labels ts
  refine Reads.plainToken fun first => ?_
  have hKey :
      Reads (atToken first) (After known labels ts)
        (propertyKey parse) fun key signs =>
          (∀ x e, first = .word x e → key = keyText x) ∧
            After known labels (key :: ts) signs := by
    cases first with
    | word x escaped =>
        refine (propertyKey_word known labels ts).weaken
          fun key signs hSigns => ?_
        rcases hSigns with ⟨rfl, hAfter⟩
        refine ⟨fun y e hSame => ?_, hAfter⟩
        cases hSame
        rfl
    | _ =>
        exact (Reads.anyAt
          (propertyKey_draws hParse known labels ts)).weaken
            fun _ _ hSigns => ⟨nofun, hSigns⟩
  refine Reads.bind hKey fun key => Reads.fact fun hWord => ?_
  refine Reads.still (Still.isMark _) fun isCall => ?_
  refine Reads.either ?_ ?_
  · refine Reads.draws (function_draws hParse _) fun f => ?_
    exact Reads.give (Covers.built [key, f] ts rfl)
  refine Reads.ifEat (.other rfl) ?_ ?_
  · refine Reads.draws (hParse .assignment) fun e => ?_
    exact Reads.give (Covers.built [key, e] ts rfl)
  split
  · next x escaped =>
      rw [hWord x escaped rfl]
      refine Reads.still Still.context fun c => ?_
      refine Reads.require fun _ => ?_
      refine Reads.ifEat (.other rfl) ?_ ?_
      · refine Reads.draws (value_draws hParse) fun e => ?_
        refine Reads.modify (fun _ => rfl) ?_
        exact Reads.give (withDefault_covers x e ts)
      · exact Reads.give (shorthand_covers x ts)
  · exact Reads.fail

theorem objectMember_draws :
    Draws (objectMember parse) one := by
  intro known labels ts
  refine Reads.ifEat (.other rfl) ?_ ?_
  · refine Reads.draws (hParse .assignment) fun e => ?_
    exact Reads.give (Covers.built [e] ts rfl)
  · refine Reads.still Still.current fun l => ?_
    refine Reads.draws modifiers_draws fun m => ?_
    exact propertyAfter_draws hParse m _ known labels ts

theorem objectLiteral_closes :
    Closes .curly (objectLiteral parse) one := by
  intro known labels ts
  refine Reads.within (Reads.loop (a := [])
    (After (Opened .curly (After known labels ts)) 0)
    fun done => ?_)
  extract_lets finish
  have hFinish :
      ∀ ps,
        Reads anywhere (After known labels (ps ++ ts)) (finish ps)
          (Sum.elim
            (After (Opened .curly (After known labels ts)) 0)
            fun t => After known labels (one t ++ ts)) := by
    intro ps
    refine Reads.still (Still.isMark _) fun isTarget => ?_
    refine Reads.require fun _ => ?_
    exact Reads.stop (Covers.gathered ps ts rfl)
  refine Reads.ifEat (.closing rfl) (hFinish done) ?_
  refine Reads.draws (objectMember_draws hParse) fun p => ?_
  refine Reads.ifEat (.closing rfl) (hFinish (p :: done)) ?_
  refine Reads.expect (.other rfl) ?_
  exact Reads.goOn (Covers.refl _)

------------------------------------------------------------
-- Parentheses
------------------------------------------------------------

omit hParse in
theorem toParams_turns (es : List Tree) :
    Turns anywhere es (toParams es) id := by
  intro known labels ts
  refine Reads.still Still.get fun s => ?_
  refine Reads.require fun _ => ?_
  split
  · next ps hParams =>
      refine Reads.require fun _ => ?_
      exact Reads.give
        ((Tree.toParams_covers hParams).append_right ts)
  · exact Reads.fail

omit hParse in
theorem arrowFollows_still : Still arrowFollows :=
  (Still.isMark _).bind fun _ =>
    Still.newlineBefore.bind fun _ => Still.pure _

theorem parenItems_closes :
    Closes .round (parenItems parse) Prod.fst := by
  intro known labels ts
  refine Reads.within (Reads.loop (a := [])
    (After (Opened .round (After known labels ts)) 0)
    fun done => ?_)
  refine Reads.ifEat (.closing rfl) ?_ ?_
  · exact Reads.stop (Covers.reversed done ts)
  refine Reads.ifEat (.other rfl) ?_ ?_
  · refine Reads.draws (hParse .binder) fun target => ?_
    refine Reads.expect (.closing rfl) ?_
    exact Reads.stop
      ((Covers.built [target] (done ++ ts) rfl).trans
        (Covers.reversed (.node .rest [target] :: done) ts))
  refine Reads.draws (hParse .assignment) fun e => ?_
  refine Reads.ifEat (.closing rfl) ?_ ?_
  · exact Reads.stop (Covers.reversed (e :: done) ts)
  · refine Reads.expect (.other rfl) ?_
    exact Reads.goOn (Covers.refl _)

omit hParse in
theorem joinCommas_covers (es : List Tree) :
    Covers es [joinCommas es] := by
  cases es with
  | nil => exact Covers.leaf .absent []
  | cons e es =>
      induction es generalizing e with
      | nil => exact Covers.refl [e]
      | cons f es ih =>
          exact ((Covers.node (l := .comma) [e, f]
            rfl).append_right es).trans (ih (.comma e f))

omit hParse in
theorem parenParams_turns (es : List Tree) :
    Turns anywhere es (parenParams es) id := by
  intro known labels ts
  unfold parenParams
  split
  · next r hLast =>
      have hWhole := List.dropLast_append_getLast? _ hLast
      have hParts :
          Covers (es ++ ts)
            (es.dropLast ++ (.node .rest r :: ts)) := by
        refine Covers.perm (List.Perm.of_eq ?_)
        conv_lhs => rw [← hWhole]
        simp
      refine Reads.turns (toParams_turns es.dropLast) hParts
        fun ps => ?_
      refine Reads.give (Covers.perm (List.Perm.of_eq ?_))
      simp
  · exact toParams_turns es known labels ts

theorem parenthesized_turns :
    Turns (atToken (.mark "(")) [] (parenthesized parse)
      one := by
  intro known labels ts
  refine Reads.still Still.get fun s => ?_
  refine Reads.advance (.opening rfl) ?_
  refine Reads.get fun u => ?_
  refine Reads.set (fun place hAt => hAt.2.symm) ?_
  refine Reads.anyAt ?_
  refine Reads.bind (parenItems_closes hParse known labels ts)
    fun ⟨es, isParams⟩ => ?_
  refine Reads.still arrowFollows_still fun isArrow => ?_
  refine Reads.either ?_ ?_
  · refine Reads.turns (parenParams_turns es) (Covers.refl _)
      fun ps => ?_
    refine Reads.modify (fun _ => rfl) ?_
    exact arrowBody_turns hParse _ ps known labels ts
  · refine Reads.still Still.get fun v => ?_
    refine Reads.require fun _ => ?_
    refine Reads.modify (fun _ => rfl) ?_
    exact Reads.give
      (((joinCommas_covers es).append_right ts).trans
        (Covers.built [joinCommas es] ts rfl))

------------------------------------------------------------
-- Words
------------------------------------------------------------

theorem functionExpression_turns (isAsync : Bool) :
    Turns
      (fun place =>
        isAsync = true → atToken (.word "async" false) place)
      [] (functionExpression parse isAsync) one := by
  intro known labels ts
  refine Reads.still Still.current fun l => ?_
  extract_lets start fromWord
  have hWord :
      Reads anywhere (After known labels ts) (fromWord ())
        fun t => After known labels (one t ++ ts) := by
    refine Reads.expectWord (.other rfl) ?_
    refine Reads.eat (.other rfl) fun isGenerator => ?_
    refine Reads.still Still.token fun t => ?_
    extract_lets hasName fromName
    have hName :
        ∀ name,
          Reads anywhere (After known labels ts) (fromName name)
            fun t => After known labels (one t ++ ts) := by
      intro name
      refine Reads.draws (function_draws hParse _) fun f => ?_
      exact Reads.require fun _ => Reads.give (Covers.refl _)
    refine Reads.either ?_ ?_
    · exact Reads.draws
        (Reads.map_draws
          (fun known labels ts =>
            (bindingName_draws known labels ts).within) some)
        hName
    · exact Reads.draws (Reads.pure_draws _) hName
  refine Reads.ite (fun hAsync => ?_) fun _ => Reads.anyAt hWord
  refine Reads.of_at (fun _ hAt => hAt hAsync) ?_
  exact Reads.advance (.other rfl) hWord

omit hParse in
/- What it means that an asynchronous function begins here. -/
theorem asyncFunctionFollows_tells
    {At : Place → Prop} :
    Tells At asyncFunctionFollows fun b place =>
      b = true → atToken (.word "async" false) place := by
  refine (Tells.isWord _).bind fun isAsync => ?_
  split
  · next hAsync =>
      refine (Tells.ofStill Still.peek?).bind fun next => ?_
      split
      · split <;> exact Tells.pure fun _ hAt _ => hAt.1.2 hAsync
      · exact Tells.pure fun _ _ => nofun
  · exact Tells.pure fun _ _ => nofun

theorem wordExpression_turns (x : String) :
    Turns (atToken (.word x false)) [] (wordExpression parse x)
      one := by
  intro known labels ts
  unfold wordExpression
  split
  · exact Reads.advance (.other rfl)
      (Reads.give (Covers.leaf .this ts))
  · exact Reads.advance (.other rfl)
      (Reads.give (Covers.leaf .null ts))
  · exact Reads.advance (.other rfl)
      (Reads.give (Covers.leaf (.bool true) ts))
  · exact Reads.advance (.other rfl)
      (Reads.give (Covers.leaf (.bool false) ts))
  · exact Reads.of_at (fun _ _ hFalse => by cases hFalse)
      (functionExpression_turns hParse false known labels ts)
  · exact klass_turns hParse false known labels ts
  · refine Reads.ifTold asyncFunctionFollows_tells ?_ ?_
    · exact Reads.of_at (fun _ hAt _ => hAt)
        (functionExpression_turns hParse true known labels ts)
    · refine Reads.draws identifier_draws fun y => ?_
      exact Reads.give (Covers.leaf (.name y) ts)

theorem primary_draws : Draws (primary parse) one := by
  intro known labels ts
  refine Reads.token fun t hBare => ?_
  split
  · next x escaped =>
      refine Reads.ite (fun _ => ?_) fun hPlain => ?_
      · refine Reads.draws identifier_draws fun y => ?_
        exact Reads.give (Covers.leaf (.name y) ts)
      · rw [Bool.not_eq_true] at hPlain
        subst hPlain
        exact wordExpression_turns hParse x known labels ts
  · next x isLegacy =>
      refine Reads.still Still.isStrict fun strict => ?_
      refine Reads.require fun _ => ?_
      exact Reads.advance (.other rfl)
        (Reads.give (Covers.leaf (.number x) ts))
  · next n =>
      exact Reads.advance (.other rfl)
        (Reads.give (Covers.leaf (.bigint n) ts))
  · next s isLegacy isPlain =>
      refine Reads.still Still.isStrict fun strict => ?_
      refine Reads.require fun _ => ?_
      exact Reads.advance (.other rfl)
        (Reads.give (Covers.leaf (.string s) ts))
  · exact hBare.elim
  · exact parenthesized_turns hParse known labels ts
  · exact Reads.advance (.other rfl)
      (arrayLiteral_draws hParse known labels ts)
  · exact Reads.advance (.opening rfl)
      (objectLiteral_closes hParse known labels ts)
  · exact absurd rfl hBare.1
  · exact absurd rfl hBare.2
  · exact Reads.fail

------------------------------------------------------------
-- Members
------------------------------------------------------------

omit hParse in
theorem useSecret_still (x : String) : Still (useSecret x) :=
  Still.context.bind fun _ =>
    (Still.require _).bind fun _ => Still.modify fun _ => rfl

omit hParse in
theorem memberName_draws :
    Draws memberName fun x => [.node (.selectSuper x) []] := by
  intro known labels ts
  refine Reads.plainToken fun t => ?_
  split
  · next x escaped =>
      exact Reads.advance
        (.depicts (.named (l := .selectSuper x) rfl))
        (Reads.give (Covers.refl _))
  · exact Reads.fail

/- A step is the expression with a member, or nothing new. -/
theorem memberStep_turns (e : Tree) :
    Turns anywhere [e] (memberStep parse e)
      fun step => [step.getD e] := by
  intro known labels ts
  refine Reads.ifEat (.other rfl) ?_ ?_
  · refine Reads.plainToken fun t => ?_
    split
    · next x =>
        refine Reads.advance
          (.depicts (.named (l := .selectPrivate x) rfl)) ?_
        refine Reads.still (useSecret_still x) fun _ => ?_
        refine Reads.give (Covers.named [e] ts rfl rfl nofun)
    · refine Reads.anyAt ?_
      refine Reads.draws memberName_draws fun x => ?_
      refine Reads.give (Covers.named [e] ts rfl rfl nofun)
  refine Reads.ifEat (.other rfl) ?_ ?_
  · refine Reads.draws (expression_draws hParse) fun i => ?_
    refine Reads.expect (.other rfl) ?_
    exact Reads.give (Covers.built [e, i] ts rfl)
  · refine Reads.token fun t hBare => ?_
    split
    · exact hBare.elim
    · exact Reads.give (Covers.refl _)

theorem chainLink_draws (optional : Bool) :
    Draws (chainLink parse optional) Option.toList := by
  intro known labels ts
  refine Reads.ifEat (.other rfl) ?_ ?_
  · refine Reads.draws (expression_draws hParse) fun i => ?_
    refine Reads.expect (.other rfl) ?_
    exact Reads.give (Covers.built [i] ts rfl)
  refine Reads.ifEat (.opening rfl) ?_ ?_
  · refine Reads.bind (arguments_closes hParse known labels ts)
      fun es => ?_
    exact Reads.give ((Covers.node es rfl).append_right ts)
  refine Reads.either ?_ ?_
  · refine Reads.token fun t hBare => ?_
    split
    · next x =>
        refine Reads.advance
          (.depicts (.named (l := .linkPrivate true x) rfl)) ?_
        refine Reads.still (useSecret_still x) fun _ => ?_
        exact Reads.give (Covers.refl _)
    · exact hBare.elim
    · refine Reads.anyAt ?_
      refine Reads.draws memberName_draws fun x => ?_
      exact Reads.give (Covers.named [] ts rfl rfl nofun)
  refine Reads.ifEat (.other rfl) ?_ ?_
  · refine Reads.plainToken fun t => ?_
    split
    · next x =>
        refine Reads.advance
          (.depicts (.named (l := .linkPrivate false x) rfl)) ?_
        refine Reads.still (useSecret_still x) fun _ => ?_
        exact Reads.give (Covers.refl _)
    · refine Reads.anyAt ?_
      refine Reads.draws memberName_draws fun x => ?_
      exact Reads.give (Covers.named [] ts rfl rfl nofun)
  · refine Reads.token fun t hBare => ?_
    split
    · exact hBare.elim
    · exact Reads.give (Covers.refl _)

theorem chainLinks_draws :
    Draws (chainLinks parse) id := by
  intro known labels ts
  refine Reads.loop (a := [])
    (fun done => After known labels (done ++ ts))
    fun done => ?_
  refine Reads.eat (.other rfl) fun optional => ?_
  refine Reads.draws (chainLink_draws hParse optional)
    fun link => ?_
  cases link with
  | some link => exact Reads.goOn (Covers.refl _)
  | none => exact Reads.stop (Covers.reversed done ts)

theorem afterPrimary_turns (first : Tree) :
    Turns anywhere [first] (afterPrimary parse first) one := by
  intro known labels ts
  refine Reads.loop (fun e => After known labels (e :: ts))
    fun e => ?_
  refine Reads.ifMark ?_ ?_
  · refine Reads.anyAt ?_
    refine Reads.draws (chainLinks_draws hParse) fun links => ?_
    exact Reads.stop (Covers.headed e links ts rfl)
  refine Reads.ifEat (.opening rfl) ?_ ?_
  · refine Reads.bind
      (arguments_closes hParse known labels (e :: ts))
      fun es => ?_
    exact Reads.goOn (Covers.headed e es ts rfl)
  refine Reads.turns (memberStep_turns hParse e) (Covers.refl _)
    fun step => ?_
  cases step with
  | some next => exact Reads.goOn (Covers.refl _)
  | none => exact Reads.stop (Covers.refl _)

theorem membersAfter_turns (first : Tree) :
    Turns anywhere [first] (membersAfter parse first) one := by
  intro known labels ts
  refine Reads.loop (fun e => After known labels (e :: ts))
    fun e => ?_
  refine Reads.turns (memberStep_turns hParse e) (Covers.refl _)
    fun step => ?_
  cases step with
  | some next => exact Reads.goOn (Covers.refl _)
  | none => exact Reads.stop (Covers.refl _)

theorem superExpression_turns :
    Turns (atToken (.word "super" false)) []
      (superExpression parse) one := by
  intro known labels ts
  refine Reads.advance (.other rfl) ?_
  refine Reads.still Still.context fun c => ?_
  refine Reads.ifEat (.other rfl) ?_ ?_
  · refine Reads.require fun _ => ?_
    refine Reads.draws memberName_draws fun x => ?_
    exact Reads.give (Covers.refl _)
  refine Reads.ifEat (.other rfl) ?_ ?_
  · refine Reads.require fun _ => ?_
    refine Reads.draws (expression_draws hParse) fun i => ?_
    refine Reads.expect (.other rfl) ?_
    exact Reads.give (Covers.built [i] ts rfl)
  · refine Reads.require fun _ => ?_
    refine Reads.expect (.opening rfl) ?_
    refine Reads.bind (arguments_closes hParse known labels ts)
      fun es => ?_
    exact Reads.give ((Covers.node es rfl).append_right ts)

------------------------------------------------------------
-- Calls
------------------------------------------------------------

theorem importCall_turns :
    Turns (atToken (.word "import" false)) []
      (importCall parse) one := by
  intro known labels ts
  refine Reads.advance (.other rfl) ?_
  refine Reads.expect (.opening rfl) ?_
  refine Reads.draws (value_draws hParse) fun e => ?_
  refine Reads.expect (.closing rfl) ?_
  exact Reads.give (Covers.built [e] ts rfl)

theorem creation_draws : Draws (creation parse) one := by
  intro known labels ts
  refine Reads.expectWord (.other rfl) ?_
  refine Reads.ifEat (.other rfl) ?_ ?_
  · refine Reads.expectWord (.other rfl) ?_
    refine Reads.still Still.context fun c => ?_
    exact Reads.require fun _ =>
      Reads.give (Covers.leaf .newTarget ts)
  refine Reads.isWord fun isNew => ?_
  refine Reads.isWord fun isSuper => ?_
  extract_lets fromCallee
  have hNone : Draws (Pure.pure ([] : List Tree)) id :=
    fun _ _ _ => Reads.give (Covers.refl _)
  have hCallee :
      ∀ callee,
        Reads anywhere (After known labels (one callee ++ ts))
          (fromCallee callee)
          fun t => After known labels (one t ++ ts) := by
    intro callee
    refine Reads.require fun _ => ?_
    refine Reads.turns (membersAfter_turns hParse callee)
      (Covers.refl _) fun e => ?_
    refine Reads.ifEat (.opening rfl)
      (Reads.bind
        (arguments_closes hParse known labels (e :: ts)) ?rest)
      (Reads.draws hNone ?rest)
    intro es
    exact Reads.give (Covers.headed e es ts rfl)
  refine Reads.either ?_ ?_
  · exact Reads.draws (hParse .creation) hCallee
  refine Reads.ite (fun hSuper => ?_) fun _ => ?_
  · refine Reads.turns
      (fun known labels ts =>
        Reads.of_at (fun _ hAt => hAt.2 hSuper)
          (superExpression_turns hParse known labels ts))
      (Covers.refl _) hCallee
  · exact Reads.draws (primary_draws hParse) hCallee

theorem leftSide_draws : Draws (leftSide parse) one := by
  intro known labels ts
  refine Reads.isWord fun isNew => ?_
  refine Reads.isWord fun isSuper => ?_
  refine Reads.isWord fun isImport => ?_
  extract_lets fromFirst
  have hFirst :
      ∀ first,
        Reads anywhere (After known labels (one first ++ ts))
          (fromFirst first)
          fun t => After known labels (one t ++ ts) := by
    intro first
    refine Reads.still (Still.isMark _) fun isChain => ?_
    refine Reads.either ?_ ?_
    · exact Reads.give (Covers.refl _)
    · exact afterPrimary_turns hParse first known labels ts
  refine Reads.either ?_ ?_
  · exact Reads.draws (hParse .creation) hFirst
  refine Reads.ite (fun hSuper => ?_) fun _ => ?_
  · refine Reads.turns
      (fun known labels ts =>
        Reads.of_at (fun _ hAt => hAt.1.2 hSuper)
          (superExpression_turns hParse known labels ts))
      (Covers.refl _) hFirst
  refine Reads.ite (fun hImport => ?_) fun _ => ?_
  · refine Reads.turns
      (fun known labels ts =>
        Reads.of_at (fun _ hAt => hAt.2 hImport)
          (importCall_turns hParse known labels ts))
      (Covers.refl _) hFirst
  · exact Reads.draws (primary_draws hParse) hFirst

------------------------------------------------------------
-- Operators
------------------------------------------------------------

omit hParse in
theorem simpleTarget_tells
    {At : Place → Prop}
    (t : Tree) :
    Tells At (simpleTarget t) fun p _ => Covers [t] [p] := by
  refine (Tells.ofStill Still.context).bind fun c => ?_
  split
  · next target hTarget =>
      exact Tells.pure fun _ _ =>
        Tree.simpleTarget?_covers hTarget
  · exact Tells.fail

theorem updateExpression_draws :
    Draws (updateExpression parse) one := by
  intro known labels ts
  have hTarget :
      ∀ up before e,
        Reads anywhere (After known labels (one e ++ ts))
          (do return .update up before (← simpleTarget e))
          fun t => After known labels (one t ++ ts) := by
    intro up before e
    refine Reads.turns (simpleTarget_tells e).turns
      (Covers.refl _) fun target => ?_
    exact Reads.give (Covers.built [target] ts rfl)
  refine Reads.ifEat (.other rfl)
    (Reads.draws (hParse .unary) (hTarget true true)) ?_
  refine Reads.ifEat (.other rfl)
    (Reads.draws (hParse .unary) (hTarget false true)) ?_
  refine Reads.draws (leftSide_draws hParse) fun e => ?_
  refine Reads.still Still.newlineBefore fun newline => ?_
  refine Reads.either (Reads.give (Covers.refl _))
    ?_
  refine Reads.ifEat (.other rfl) (hTarget true false e) ?_
  refine Reads.ifEat (.other rfl) (hTarget false false e) ?_
  exact Reads.give (Covers.refl _)

omit hParse in
theorem sign_of_unaryOp?
    {t : Token}
    {op : UnaryOp}
    (hOp : unaryOp? t = some op) :
    t.sign = .other := by
  unfold unaryOp? at hOp
  split at hOp <;> first | rfl | cases hOp

theorem unary_draws : Draws (unary parse) one := by
  intro known labels ts
  refine Reads.plainToken fun t => ?_
  split
  · next op hOp =>
      refine Reads.advance (.other (sign_of_unaryOp? hOp)) ?_
      refine Reads.draws (hParse .unary) fun e => ?_
      refine Reads.still Still.isStrict fun strict => ?_
      refine Reads.require fun _ => ?_
      exact Reads.give (Covers.built [e] ts rfl)
  · refine Reads.still Still.context fun c => ?_
    refine Reads.isWord fun isAwait => ?_
    refine Reads.ite (fun hAwait => ?_) fun _ => ?_
    · rw [Bool.and_eq_true] at hAwait
      refine Reads.still Still.context fun inner => ?_
      refine Reads.require fun _ => ?_
      refine Reads.of_at (fun _ hAt => hAt.2 hAwait.2) ?_
      refine Reads.advance (.other rfl) ?_
      refine Reads.draws (hParse .unary) fun e => ?_
      exact Reads.give (Covers.built [e] ts rfl)
    · exact Reads.anyAt
        (updateExpression_draws hParse known labels ts)

theorem exponent_draws : Draws (exponent parse) one := by
  intro known labels ts
  refine Reads.draws (unary_draws hParse) fun base => ?_
  refine Reads.ask (Tells.isMark _) fun isPower => ?_
  refine Reads.ite (fun hPower => ?_) fun _ => ?_
  · rw [Bool.and_eq_true] at hPower
    refine Reads.require fun _ => ?_
    refine Reads.of_at (fun _ hAt => hAt.2 hPower.2) ?_
    refine Reads.advance (.other rfl) ?_
    refine Reads.draws (hParse .exponent) fun e => ?_
    exact Reads.give (Covers.built [base, e] ts rfl)
  · exact Reads.give (Covers.refl _)

omit hParse in
/- An operator is no bracket and no word of a statement. -/
theorem operatorOf_tells
    {At : Place → Prop}
    {level : List (String × Operator)}
    (hLevel : ∀ o ∈ level, Sign.ofMark o.1 = .other) :
    Tells At (operatorOf level) fun op place =>
      op.isSome = true → place.1.sign = .other := by
  have hSign :
      ∀ {t : Token} {place : Place},
        atToken t place → t.sign = .other →
          place.1.sign = .other := by
    intro t place hAt hOther
    rw [← hOther]
    exact congrArg Token.sign hAt
  refine Tells.token.bind fun t => ?_
  split
  · next m =>
      refine Tells.pure fun place hAt hSome => ?_
      rw [Option.isSome_map] at hSome
      rcases List.find?_isSome.mp hSome with ⟨o, hMember, hSame⟩
      refine hSign hAt.2 ?_
      rw [Token.sign, ← beq_iff_eq.mp hSame]
      exact hLevel o hMember
  · exact Tells.pure fun place hAt _ => hSign hAt.2 rfl
  · refine (Tells.ofStill Still.context).bind fun c => ?_
    split
    · exact Tells.pure fun place hAt _ => hSign hAt.1.2 rfl
    · exact Tells.pure fun _ _ hSome =>
        absurd hSome Bool.false_ne_true
  · exact Tells.pure fun _ _ hSome =>
      absurd hSome Bool.false_ne_true

omit hParse in
theorem combine_turns
    (op : Operator)
    (a b : Tree) :
    Turns anywhere [b, a] (combine op a b) one := by
  intro known labels ts
  unfold combine
  split
  · exact Reads.give (Covers.built [a, b] ts rfl)
  · exact Reads.require fun _ =>
      Reads.give (Covers.built [a, b] ts rfl)
  · exact Reads.require fun _ =>
      Reads.give (Covers.built [a, b] ts rfl)

omit hParse in
theorem secretTest_draws
    {operand : Parse Tree}
    (hOperand : Draws operand one) :
    Draws (secretTest operand) Option.toList := by
  intro known labels ts
  refine Reads.plainToken fun t => ?_
  split
  · next x =>
      refine Reads.advance
        (.depicts (.named (l := .testPrivate x) rfl)) ?_
      refine Reads.still (useSecret_still x) fun _ => ?_
      refine Reads.still Still.context fun c => ?_
      refine Reads.require fun _ => ?_
      refine Reads.expectWord (.other rfl) ?_
      refine Reads.draws hOperand fun e => ?_
      refine Reads.give ?_
      exact (Covers.perm (List.Perm.swap _ _ _)).trans
        (Covers.named [e] ts rfl rfl nofun)
  · exact Reads.give (Covers.refl _)

theorem binaryFrom_draws
    (ls : List (List (String × Operator)))
    (hLevels :
      ∀ level ∈ ls, ∀ o ∈ level, Sign.ofMark o.1 = .other) :
    Draws (binaryFrom parse ls) one := by
  induction ls with
  | nil => exact exponent_draws hParse
  | cons level tighter ih =>
      have hOperand :=
        ih fun l hMember => hLevels l (List.mem_cons_of_mem _ hMember)
      have hLevel := hLevels level List.mem_cons_self
      intro known labels ts
      unfold binaryFrom
      extract_lets operand isRelational fromFirst
      have hFirst :
          ∀ first,
            Reads anywhere (After known labels (one first ++ ts))
              (fromFirst first)
              fun t => After known labels (one t ++ ts) := by
        intro first
        refine Reads.either (Reads.give (Covers.refl _))
          ?_
        refine Reads.loop
          (fun e => After known labels (e :: ts)) fun e => ?_
        refine Reads.ask (operatorOf_tells hLevel) fun op => ?_
        split
        · next op =>
            refine Reads.advanceSign
              (fun _ hAt => hAt.2 rfl) (.other rfl) ?_
            refine Reads.draws hOperand fun f => ?_
            refine Reads.turns (combine_turns op e f)
              (Covers.refl _) fun t => ?_
            exact Reads.goOn (Covers.refl _)
        · exact Reads.stop (Covers.refl _)
      refine Reads.either ?_ ?_
      · refine Reads.draws (secretTest_draws hOperand)
          fun test => ?_
        cases test with
        | some e =>
            refine Reads.bind (Reads.give (Covers.refl _)) hFirst
        | none => exact Reads.draws hOperand hFirst
      · exact Reads.draws hOperand hFirst

theorem binary_draws : Draws (binary parse) one :=
  binaryFrom_draws hParse levels (by decide)

theorem conditional_draws : Draws (conditional parse) one := by
  intro known labels ts
  refine Reads.draws (binary_draws hParse) fun test => ?_
  refine Reads.either (Reads.give (Covers.refl _))
    ?_
  refine Reads.ifEat (.other rfl) ?_ ?_
  · refine Reads.draws (value_draws hParse) fun yes => ?_
    refine Reads.expect (.other rfl) ?_
    refine Reads.draws
      (fun known labels ts =>
        (hParse .assignment known labels ts).settled)
      fun no => ?_
    exact Reads.give (Covers.built [test, yes, no] ts rfl)
  · exact Reads.give (Covers.refl _)

------------------------------------------------------------
-- Assignments
------------------------------------------------------------

omit hParse in
theorem sign_of_assignOp?
    {t : Token}
    {op : AssignOp}
    (hOp : assignOp? t = some op) :
    t.sign = .other := by
  unfold assignOp? at hOp
  split at hOp <;> first | rfl | cases hOp

omit hParse in
/- The target of an assignment is made of its left side. -/
theorem target_tells
    {At : Place → Prop}
    (op : AssignOp)
    (t : Tree) :
    Tells At (target op t) fun p _ => Covers [t] [p] := by
  refine Tells.get.bind fun s => ?_
  split
  · refine (Tells.ofStill (Still.require _)).bind fun _ => ?_
    split
    · next p hPattern =>
        refine (Tells.set fun place hAt => hAt.1.2).bind
          fun _ => ?_
        exact Tells.pure fun _ _ =>
          Tree.toPattern?_covers hPattern
    · exact Tells.fail
  · refine (Tells.ofStill (Still.require _)).bind fun _ => ?_
    exact simpleTarget_tells t

theorem yieldExpression_turns :
    Turns (atToken (.word "yield" false)) []
      (yieldExpression parse) one := by
  intro known labels ts
  have hEnd :
      Covers ts (one (.node .yield [.absent]) ++ ts) :=
    (Covers.leaf .absent ts).trans
      (Covers.built [.absent] ts rfl)
  have hValue :
      Draws (settled (parse .assignment)) one :=
    fun known labels ts =>
      (hParse .assignment known labels ts).settled
  refine Reads.still Still.context fun c => ?_
  refine Reads.require fun _ => ?_
  refine Reads.advance (.other rfl) ?_
  refine Reads.still Still.newlineBefore fun newline => ?_
  refine Reads.ite (fun _ => Reads.give hEnd) fun _ => ?_
  refine Reads.ifEat (.other rfl) ?_ ?_
  · refine Reads.draws hValue fun e => ?_
    exact Reads.give (Covers.built [e] ts rfl)
  refine Reads.plainToken fun t => Reads.anyAt ?_
  extract_lets fromEnd
  have hRest :
      ∀ ends,
        Reads anywhere (After known labels ts) (fromEnd ends)
          fun t => After known labels (one t ++ ts) := by
    intro ends
    refine Reads.ite (fun _ => Reads.give hEnd) fun _ => ?_
    refine Reads.draws hValue fun e => ?_
    exact Reads.give (Covers.built [e] ts rfl)
  split <;> exact Reads.draws (Reads.pure_draws _) hRest

theorem nameArrow_draws :
    Draws (nameArrow parse) Option.toList := by
  intro known labels ts
  refine Reads.still Still.current fun l => ?_
  refine Reads.plainToken fun t => Reads.anyAt ?_
  extract_lets fromAnswer
  have hRest :
      ∀ isArrowNext,
        Reads anywhere (After known labels ts)
          (fromAnswer isArrowNext)
          fun f : Option Tree =>
            After known labels (f.toList ++ ts) := by
    intro isArrowNext
    refine Reads.ite (fun _ => ?_) fun _ =>
      Reads.give (Covers.refl _)
    refine Reads.draws bindingName_draws fun x => ?_
    refine Reads.turns (arrowBody_turns hParse _ [.name x])
      (Covers.leaf (.name x) ts) fun f => ?_
    exact Reads.give (Covers.refl _)
  split
  · refine Reads.still Still.peek? fun next => ?_
    split
    · split <;> exact Reads.draws (Reads.pure_draws _) hRest
    · exact Reads.draws (Reads.pure_draws _) hRest
  · exact Reads.draws (Reads.pure_draws _) hRest

omit hParse in
theorem asyncArrowFollows_still : Still asyncArrowFollows := by
  refine Still.token.bind fun t => ?_
  split
  · refine Still.peek?.bind fun next => ?_
    split
    · split <;> first | exact Still.fail | exact Still.pure _
    · exact Still.fail
  · exact Still.pure _

theorem asyncArrow_draws : Draws (asyncArrow parse) one := by
  intro known labels ts
  refine Reads.still Still.current fun l => ?_
  refine Reads.expectWord (.other rfl) ?_
  have hParams :
      Draws
        (do
          if ← isMark "(" then params parse
          else return [.name (← bindingName)])
        id := by
    intro known labels ts
    refine Reads.ifMark
      (Reads.anyAt (params_draws hParse known labels ts)) ?_
    refine Reads.draws bindingName_draws fun x => ?_
    exact Reads.give (Covers.leaf (.name x) ts)
  refine Reads.draws
    (fun known labels ts =>
      (hParams known labels ts).inScope.within) fun ps => ?_
  exact arrowBody_turns hParse _ ps known labels ts

theorem assignmentOrLess_draws :
    Draws (assignmentOrLess parse) one := by
  intro known labels ts
  refine Reads.get fun before => ?_
  refine Reads.set (fun place hAt => hAt.2.symm) ?_
  refine Reads.anyAt ?_
  refine Reads.draws (conditional_draws hParse) fun left => ?_
  refine Reads.either ?_ ?_
  · exact Reads.modify (fun _ => rfl)
      (Reads.give (Covers.refl _))
  refine Reads.plainToken fun t => ?_
  split
  · next op hOp =>
      refine Reads.ask (target_tells op left) fun p => ?_
      refine Reads.factAt fun hTarget => ?_
      refine Reads.advance (.other (sign_of_assignOp? hOp)) ?_
      refine Reads.draws
        (fun known labels ts =>
          (hParse .assignment known labels ts).settled)
        fun v => ?_
      refine Reads.modify (fun _ => rfl) ?_
      refine Reads.give ?_
      exact ((Covers.refl [v]).append
        (hTarget.append_right ts)).trans
          (Covers.built [p, v] ts rfl)
  · refine Reads.still Still.get fun s => ?_
    refine Reads.require fun _ => ?_
    exact Reads.modify (fun _ => rfl)
      (Reads.give (Covers.refl _))

theorem assignment_draws : Draws (assignment parse) one := by
  intro known labels ts
  refine Reads.still Still.context fun c => ?_
  refine Reads.isWord fun isYield => ?_
  refine Reads.ite (fun hYield => ?_) fun _ => Reads.anyAt ?_
  · rw [Bool.and_eq_true] at hYield
    exact Reads.of_at (fun _ hAt => hAt.2 hYield.2)
      (yieldExpression_turns hParse known labels ts)
  refine Reads.still asyncArrowFollows_still fun isAsync => ?_
  refine Reads.either
    (asyncArrow_draws hParse known labels ts) ?_
  refine Reads.draws (nameArrow_draws hParse) fun f => ?_
  cases f with
  | some f => exact Reads.give (Covers.refl _)
  | none => exact assignmentOrLess_draws hParse known labels ts

end

end Grammar

end Script

end Devirt
