import Devirt.Proofs.Script.Expressions

/-
  Statements, and the signs of the tokens of a script.

  Only a switch statement takes its word and its labels, and
  each of its cases begins with one label.  By induction on how
  deep constructs are nested, every reader of a construct draws
  the trees that it gives, and a script that can be read is read
  to its end.

  Main declarations:
    * `Grammar.switchStatement_turns`
    * `Grammar.parseWithin_draws`
    * `Tree.parse?_depicts`
-/

------------------------------------------------------------
-- Declarations
------------------------------------------------------------

namespace Devirt

namespace Script

namespace Grammar

open Parse
open CodeMap (Bracket)

variable {parse : Goal → Parse Tree}

/- The current token is of no interest. -/
def atOther : Place → Prop :=
  fun place => place.1.sign = .other

theorem atOther_of_atToken
    {t : Token}
    {place : Place}
    (hAt : atToken t place)
    (hOther : t.sign = .other) :
    atOther place := by
  unfold atOther
  rw [← hOther]
  exact congrArg Token.sign hAt

section

variable (hParse : ∀ g, Draws (parse g) one)

include hParse

theorem blockItems_draws (scope : Scope) :
    Draws (blockItems parse scope) id := by
  intro known labels ts
  refine Reads.expect (.opening rfl) ?_
  exact (itemsUntil_draws (hParse .item) known labels []
    ts).inScope

theorem block_draws : Draws (block parse) one := by
  intro known labels ts
  refine Reads.map ?_
  refine (blockItems_draws hParse _ known labels ts).weaken
    fun body signs hSigns => ?_
  exact hSigns.covers ((Covers.node body rfl).append_right ts)

omit hParse in
theorem forM_still
    {f : String → Parse PUnit}
    (hEach : ∀ x, Still (f x))
    (xs : List String) :
    Still (xs.forM f) := by
  induction xs with
  | nil => exact Still.pure _
  | cons x xs ih => exact (hEach x).bind fun _ => ih

omit hParse in
theorem declareHoisted_still (x : String) :
    Still (declareHoisted x) := by
  refine Tells.toStill ?_
  refine Tells.get.bind fun s => ?_
  split
  · exact Tells.set fun place hAt => hAt.2
  · exact Tells.fail

omit hParse in
theorem declareLocal_still (x : String) :
    Still (declareLocal x) := by
  refine Tells.toStill ?_
  refine Tells.get.bind fun s => ?_
  split
  · refine (Tells.ofStill (Still.require _)).bind fun _ => ?_
    refine (Tells.ofStill (Still.require _)).bind fun _ => ?_
    exact Tells.set fun place hAt => hAt.1.1.2
  · exact Tells.fail

omit hParse in
theorem declareFunction_still (x : String) (isPlain : Bool) :
    Still (declareFunction x isPlain) := by
  refine Tells.toStill ?_
  refine Tells.get.bind fun s => ?_
  split
  · split
    · refine (Tells.ofStill (Still.require _)).bind fun _ => ?_
      exact Tells.set fun place hAt => hAt.1.2
    · split
      · exact Tells.pure fun _ _ => trivial
      · refine (Tells.ofStill (Still.require _)).bind fun _ => ?_
        exact Tells.set fun place hAt => hAt.1.2
  · exact Tells.fail

omit hParse in
theorem declareNames_still (kind : Declaration) (t : Tree) :
    Still (declareNames kind t) := by
  unfold declareNames
  dsimp only
  split
  · exact forM_still declareHoisted_still _
  · exact (Still.require _).bind fun _ =>
      forM_still declareLocal_still _

theorem declarator_draws (kind : Declaration) :
    Draws (declarator parse kind) one := by
  intro known labels ts
  refine Reads.draws (hParse .binder) fun t => ?_
  refine Reads.still (declareNames_still kind t) fun _ => ?_
  refine Reads.ifEat (.other rfl)
    (Reads.draws
      (fun known labels ts =>
        (hParse .assignment known labels ts).settled) ?rest)
    (Reads.draws Reads.absent_draws ?rest)
  intro v
  exact Reads.give (Covers.built [t, v] ts rfl)

theorem declarators_draws (kind : Declaration) :
    Draws (declarators parse kind) id := by
  intro known labels ts
  refine Reads.draws (declarator_draws hParse kind)
    fun first => ?_
  refine Reads.bind
    (Reads.loop (a := [first])
      (fun done => After known labels (done ++ ts))
      fun done => ?_ :
      Reads _ _ _ fun ds => After known labels (ds ++ ts))
    fun ds => Reads.require fun _ => Reads.give (Covers.refl _)
  refine Reads.still Still.newlineBefore fun newline => ?_
  refine Reads.either
    (Reads.stop (Covers.reversed done ts)) ?_
  refine Reads.ifEat (.other rfl) ?_
    (Reads.stop (Covers.reversed done ts))
  refine Reads.draws (declarator_draws hParse kind)
    fun d => ?_
  exact Reads.goOn (Covers.refl _)

theorem declaration_turns (kind : Declaration) :
    Turns atOther [] (declaration parse kind) one := by
  intro known labels ts
  refine Reads.advanceSign (fun _ hAt => hAt) (.other rfl) ?_
  refine Reads.draws (declarators_draws hParse kind)
    fun ds => ?_
  refine Reads.require fun _ => ?_
  refine Reads.draws endStatement_draws fun _ => ?_
  exact Reads.give ((Covers.node ds rfl).append_right ts)

omit hParse in
theorem letDeclares_tells
    {At : Place → Prop} :
    Tells At letDeclares fun b place =>
      b = true → atToken (.word "let" false) place := by
  refine (Tells.isWord _).bind fun isLet => ?_
  split
  · next hLet =>
      refine (Tells.ofStill Still.peek?).bind fun next => ?_
      split
      · split <;> exact Tells.pure fun _ hAt _ => hAt.1.2 hLet
      · exact Tells.pure fun _ _ => nofun
  · exact Tells.pure fun _ _ => nofun

omit hParse in
theorem declarationKind?_tells
    {At : Place → Prop} :
    Tells At declarationKind? fun kind place =>
      kind.isSome = true → atOther place := by
  refine (Tells.isWord _).bind fun isVar => ?_
  split
  · next hVar =>
      exact Tells.pure fun _ hAt _ =>
        atOther_of_atToken (hAt.2 hVar) rfl
  refine (Tells.isWord _).bind fun isConst => ?_
  split
  · next hConst =>
      exact Tells.pure fun _ hAt _ =>
        atOther_of_atToken (hAt.2 hConst) rfl
  refine letDeclares_tells.bind fun isLet => ?_
  split
  · next hLet =>
      exact Tells.pure fun _ hAt _ =>
        atOther_of_atToken (hAt.2 hLet) rfl
  · exact Tells.pure fun _ _ => nofun

theorem functionDeclaration_turns (isAsync : Bool) :
    Turns
      (fun place =>
        isAsync = true → atToken (.word "async" false) place)
      [] (functionDeclaration parse isAsync) one := by
  intro known labels ts
  refine Reads.still Still.current fun l => ?_
  extract_lets start fromWord
  have hWord :
      Reads anywhere (After known labels ts) (fromWord ())
        fun t => After known labels (one t ++ ts) := by
    refine Reads.expectWord (.other rfl) ?_
    refine Reads.eat (.other rfl) fun isGenerator => ?_
    refine Reads.draws bindingName_draws fun x => ?_
    refine Reads.still (declareFunction_still x _) fun _ => ?_
    refine Reads.draws (function_draws hParse _) fun f => ?_
    exact Reads.give (Covers.built [f] ts rfl)
  refine Reads.ite (fun hAsync => ?_) fun _ => Reads.anyAt hWord
  refine Reads.of_at (fun _ hAt => hAt hAsync) ?_
  exact Reads.advance (.other rfl) hWord

theorem classDeclaration_turns :
    Turns (atToken (.word "class" false)) []
      (classDeclaration parse) one := by
  intro known labels ts
  refine Reads.turns (klass_turns hParse true) (Covers.refl _)
    fun c => ?_
  extract_lets finish
  split
  · refine Reads.still (declareLocal_still _) fun _ => ?_
    exact Reads.give (Covers.built [c] ts rfl)
  · exact Reads.bind Reads.fail fun _ =>
      Reads.give (Covers.built [c] ts rfl)

------------------------------------------------------------
-- Loops
------------------------------------------------------------

theorem loopBody_draws : Draws (loopBody parse) one :=
  fun known labels ts => (hParse .statement known labels ts).within

/- A subject with the parentheses around it. -/
theorem condition_reads (known : List Sign → Prop) :
    Reads anywhere known (condition parse)
      fun e => Enclosed .round known 0 [e] := by
  refine Reads.expect (.opening rfl) ?_
  refine Reads.draws (expression_draws hParse) fun e => ?_
  exact Reads.expect (.enclosing rfl)
    (Reads.pure fun _ hSigns => hSigns)

theorem condition_draws : Draws (condition parse) one :=
  fun _ _ _ =>
    (condition_reads hParse _).weaken fun _ _ => Enclosed.after

theorem whileStatement_turns :
    Turns atOther [] (whileStatement parse) one := by
  intro known labels ts
  refine Reads.advanceSign (fun _ hAt => hAt) (.other rfl) ?_
  refine Reads.draws (condition_draws hParse) fun test => ?_
  refine Reads.draws (loopBody_draws hParse) fun body => ?_
  exact Reads.give (Covers.built [test, body] ts rfl)

theorem doStatement_turns :
    Turns atOther [] (doStatement parse) one := by
  intro known labels ts
  refine Reads.advanceSign (fun _ hAt => hAt) (.other rfl) ?_
  refine Reads.draws (loopBody_draws hParse) fun body => ?_
  refine Reads.expectWord (.other rfl) ?_
  refine Reads.draws (condition_draws hParse) fun test => ?_
  refine Reads.eat (.other rfl) fun _ => ?_
  exact Reads.give (Covers.built [body, test] ts rfl)

/- What may be left out before a mark, which is taken too. -/
theorem optionalUntil_reads
    {m : String}
    {known : List Sign → Prop}
    {labels : Nat}
    {ts : List Tree}
    {next : List Tree → List Sign → Prop}
    (hShifts :
      ∀ us,
        Shifts (Sign.ofMark m) (After known labels us) (next us)) :
    Reads anywhere (After known labels ts)
      (optionalUntil parse m) fun t => next (t :: ts) := by
  have hAbsent :
      Shifts (Sign.ofMark m) (After known labels ts)
        (next (.absent :: ts)) :=
    fun signs hSigns =>
      hShifts _ signs (hSigns.covers (Covers.leaf .absent ts))
  refine Reads.ifEat hAbsent (Reads.pure fun _ => id) ?_
  refine Reads.draws (expression_draws hParse) fun e => ?_
  exact Reads.expect (hShifts _) (Reads.pure fun _ => id)

/- The rest of the head of a loop, and its body. -/
theorem countingLoop_reads
    (first : Tree)
    (known : List Sign → Prop)
    (labels : Nat)
    (ts : List Tree) :
    Reads anywhere
      (After (Opened .round (After known labels ts)) 0 [first])
      (countingLoop parse first)
      fun t => After known labels (t :: ts) := by
  refine Reads.expect (.other rfl) ?_
  refine Reads.bind
    (optionalUntil_reads hParse fun us => .other rfl)
    fun test => ?_
  refine Reads.bind
    (optionalUntil_reads hParse fun us => .closing rfl)
    fun next => ?_
  refine Reads.draws (loopBody_draws hParse) fun body => ?_
  exact Reads.give (Covers.built [first, test, next, body] ts rfl)

theorem memberLoop_reads
    (isAwait : Bool)
    (target : Tree)
    (known : List Sign → Prop)
    (labels : Nat)
    (ts : List Tree) :
    Reads anywhere
      (After (Opened .round (After known labels ts)) 0 [target])
      (memberLoop parse isAwait target)
      fun t => After known labels (t :: ts) := by
  refine Reads.ifEatWord (.other rfl) ?_ ?_
  · refine Reads.draws (value_draws hParse) fun e => ?_
    refine Reads.expect (.closing rfl) ?_
    refine Reads.draws (loopBody_draws hParse) fun body => ?_
    exact Reads.give (Covers.built [target, e, body] ts rfl)
  · refine Reads.require fun _ => ?_
    refine Reads.expectWord (.other rfl) ?_
    refine Reads.draws (expression_draws hParse) fun e => ?_
    refine Reads.expect (.closing rfl) ?_
    refine Reads.draws (loopBody_draws hParse) fun body => ?_
    exact Reads.give (Covers.built [target, e, body] ts rfl)

omit hParse in
theorem overFollows_still : Still overFollows :=
  (Still.isWord _).bind fun _ =>
    (Still.isWord _).bind fun _ => Still.pure _

theorem declaringLoop_reads
    (isAwait : Bool)
    (kind : Declaration)
    (known : List Sign → Prop)
    (labels : Nat)
    (ts : List Tree) :
    Reads atOther
      (After (Opened .round (After known labels ts)) 0 [])
      (declaringLoop parse isAwait kind)
      fun t => After known labels (t :: ts) := by
  refine Reads.advanceSign (fun _ hAt => hAt) (.other rfl) ?_
  refine Reads.draws
    (fun known labels ts =>
      (declarators_draws hParse kind known labels ts).within)
    fun ds => ?_
  extract_lets counting
  have hCounting :
      Reads anywhere
        (After (Opened .round (After known labels ts)) 0
          (ds ++ []))
        (counting ()) fun t => After known labels (t :: ts) := by
    refine Reads.require fun _ => ?_
    exact Reads.of_covers
      ((Covers.node ds rfl).append_right [])
      (countingLoop_reads hParse (.node (.declare kind) ds) known
        labels ts)
  split
  · next d =>
      refine Reads.still overFollows_still fun isOver => ?_
      refine Reads.ite (fun _ => ?_) fun _ => hCounting
      exact Reads.of_covers (Covers.node [d] rfl)
        (memberLoop_reads hParse isAwait
          (.node (.declare kind) [d]) known labels ts)
  · exact hCounting

theorem expressionLoop_reads
    (isAwait : Bool)
    (known : List Sign → Prop)
    (labels : Nat)
    (ts : List Tree) :
    Reads anywhere
      (After (Opened .round (After known labels ts)) 0 [])
      (expressionLoop parse isAwait)
      fun t => After known labels (t :: ts) := by
  refine Reads.get fun s => ?_
  refine Reads.still (Still.isWord _) fun startsWithAsync => ?_
  refine Reads.set (fun place hAt => hAt.2.symm) ?_
  refine Reads.anyAt ?_
  refine Reads.draws
    (fun known labels ts =>
      (coverExpression_draws hParse known labels ts).within)
    fun e => ?_
  refine Reads.still overFollows_still fun isOver => ?_
  refine Reads.either ?_ ?_
  · refine Reads.still (Still.isWord _) fun isOf => ?_
    refine Reads.require fun _ => ?_
    have hInner : Covers (one e) (one e.inner ++ []) :=
      Tree.inner_covers e
    refine Reads.turns (target_tells .plain e.inner).turns hInner
      fun t => ?_
    refine Reads.modify (fun _ => rfl) ?_
    exact memberLoop_reads hParse isAwait t known labels ts
  · refine Reads.still Still.get fun u => ?_
    refine Reads.require fun _ => ?_
    refine Reads.modify (fun _ => rfl) ?_
    exact countingLoop_reads hParse e known labels ts

theorem forHead_reads
    (isAwait : Bool)
    (known : List Sign → Prop)
    (labels : Nat)
    (ts : List Tree) :
    Reads anywhere
      (After (Opened .round (After known labels ts)) 0 [])
      (forHead parse isAwait)
      fun t => After known labels (t :: ts) := by
  refine Reads.ifMark ?_ ?_
  · refine Reads.require fun _ => Reads.anyAt ?_
    exact Reads.of_covers (Covers.leaf .absent [])
      (countingLoop_reads hParse .absent known labels ts)
  refine Reads.ask declarationKind?_tells fun kind => ?_
  split
  · next kind =>
      exact Reads.of_at (fun _ hAt => hAt.2 rfl)
        (declaringLoop_reads hParse isAwait kind known labels ts)
  · exact Reads.anyAt
      (expressionLoop_reads hParse isAwait known labels ts)

theorem forStatement_turns :
    Turns atOther [] (forStatement parse) one := by
  intro known labels ts
  refine Reads.advanceSign (fun _ hAt => hAt) (.other rfl) ?_
  refine Reads.still Still.context fun c => ?_
  extract_lets fromAwait
  have hHead :
      ∀ isAwait,
        Reads anywhere (After known labels ts)
          (fromAwait isAwait)
          fun t => After known labels (one t ++ ts) := by
    intro isAwait
    refine Reads.expect (.opening rfl) ?_
    exact (forHead_reads hParse isAwait known labels ts).inScope
  refine Reads.either ?_ ?_
  · exact Reads.eatWord (.other rfl) hHead
  · exact Reads.draws (Reads.pure_draws _) hHead

------------------------------------------------------------
-- Branches
------------------------------------------------------------

theorem ifStatement_turns :
    Turns atOther [] (ifStatement parse) one := by
  intro known labels ts
  refine Reads.advanceSign (fun _ hAt => hAt) (.other rfl) ?_
  refine Reads.draws (condition_draws hParse) fun test => ?_
  refine Reads.draws (hParse .statement) fun yes => ?_
  refine Reads.ifEatWord (.other rfl)
    (Reads.draws (hParse .statement) ?rest)
    (Reads.draws Reads.absent_draws ?rest)
  intro no
  exact Reads.give (Covers.built [test, yes, no] ts rfl)

theorem caseBody_draws : Draws (caseBody parse) id := by
  intro known labels ts
  refine Reads.loop (a := [])
    (fun done => After known labels (done ++ ts))
    fun done => ?_
  refine Reads.still (Still.isWord _) fun isCase => ?_
  refine Reads.still (Still.isWord _) fun isDefault => ?_
  refine Reads.still (Still.isMark _) fun isEnd => ?_
  refine Reads.either
    (Reads.stop (Covers.reversed done ts)) ?_
  refine Reads.draws (hParse .item) fun t => ?_
  exact Reads.goOn (Covers.refl _)

/- Each case has a label of its own outside of brackets. -/
theorem cases_reads (known : List Sign → Prop) :
    Reads anywhere (After (Opened .curly known) 0 [])
      (cases parse)
      fun cs => Enclosed .curly known cs.length cs := by
  refine Reads.loop (a := ([], false))
    (fun state =>
      After (Opened .curly known) state.1.length state.1)
    fun ⟨done, hasDefault⟩ => ?_
  refine Reads.ifEat (.enclosing rfl) ?_ ?_
  · refine Reads.pure fun signs hSigns => ?_
    rcases hSigns with ⟨old, inner, rfl, hOld, hInner⟩
    refine ⟨old, inner, rfl, hOld, ?_⟩
    rw [List.length_reverse]
    exact hInner.covers
      (Covers.perm (List.reverse_perm done).symm)
  refine Reads.ifEatWord (.label rfl) ?_ ?_
  · refine Reads.draws (expression_draws hParse) fun test => ?_
    refine Reads.expect (.other rfl) ?_
    refine Reads.draws (caseBody_draws hParse) fun body => ?_
    exact Reads.pure fun _ hSigns =>
      hSigns.covers (Covers.headed test body done rfl)
  · refine Reads.expectWord (.label rfl) ?_
    refine Reads.require fun _ => ?_
    refine Reads.expect (.other rfl) ?_
    refine Reads.draws (caseBody_draws hParse) fun body => ?_
    refine Reads.pure fun _ hSigns => hSigns.covers ?_
    exact ((Covers.refl body).append
      (Covers.leaf .absent done)).trans
        (Covers.headed .absent body done rfl)

theorem switchStatement_turns :
    Turns (atToken (.word "switch" false)) []
      (switchStatement parse) one := by
  intro known labels ts
  refine Reads.advance (.behind rfl) ?_
  refine Reads.bind (condition_reads hParse _) fun e => ?_
  refine Reads.expect (.opening rfl) ?_
  refine Reads.bind (cases_reads hParse _).inScope.within
    fun cs => ?_
  exact Reads.pure fun _ => Enclosed.switch

------------------------------------------------------------
-- Jumps
------------------------------------------------------------

omit hParse in
theorem jumpLabel_draws : Draws jumpLabel fun _ => [] := by
  intro known labels ts
  refine Reads.still Still.newlineBefore fun newline => ?_
  refine Reads.either (Reads.give (Covers.refl _))
    ?_
  refine Reads.plainToken fun t => Reads.anyAt ?_
  split
  · exact Reads.map_draws identifier_draws some known labels ts
  · exact Reads.give (Covers.refl _)

omit hParse in
theorem breakStatement_turns :
    Turns atOther [] breakStatement one := by
  intro known labels ts
  refine Reads.advanceSign (fun _ hAt => hAt) (.other rfl) ?_
  refine Reads.draws jumpLabel_draws fun label => ?_
  refine Reads.still Still.context fun c => ?_
  refine Reads.require fun _ => ?_
  refine Reads.draws endStatement_draws fun _ => ?_
  exact Reads.give (Covers.leaf (.breakFrom label) ts)

omit hParse in
theorem continueStatement_turns :
    Turns atOther [] continueStatement one := by
  intro known labels ts
  refine Reads.advanceSign (fun _ hAt => hAt) (.other rfl) ?_
  refine Reads.draws jumpLabel_draws fun label => ?_
  refine Reads.still Still.context fun c => ?_
  refine Reads.require fun _ => ?_
  refine Reads.draws endStatement_draws fun _ => ?_
  exact Reads.give (Covers.leaf (.continueTo label) ts)

omit hParse in
theorem statementEnds_still : Still statementEnds := by
  refine Still.token.bind fun t => ?_
  split
  · exact Still.newlineBefore.bind fun _ => Still.pure _
  · exact Still.pure _
  · exact Still.newlineBefore

theorem returnStatement_turns :
    Turns atOther [] (returnStatement parse) one := by
  intro known labels ts
  refine Reads.still Still.context fun c => ?_
  refine Reads.require fun _ => ?_
  refine Reads.advanceSign (fun _ hAt => hAt) (.other rfl) ?_
  refine Reads.still statementEnds_still fun ends => ?_
  refine Reads.either (Reads.draws Reads.absent_draws ?rest)
    (Reads.draws (expression_draws hParse) ?rest)
  intro e
  refine Reads.draws endStatement_draws fun _ => ?_
  exact Reads.give (Covers.built [e] ts rfl)

theorem throwStatement_turns :
    Turns atOther [] (throwStatement parse) one := by
  intro known labels ts
  refine Reads.advanceSign (fun _ hAt => hAt) (.other rfl) ?_
  refine Reads.still Still.newlineBefore fun newline => ?_
  refine Reads.require fun _ => ?_
  refine Reads.draws (expression_draws hParse) fun e => ?_
  refine Reads.draws endStatement_draws fun _ => ?_
  exact Reads.give (Covers.built [e] ts rfl)

------------------------------------------------------------
-- Handlers
------------------------------------------------------------

theorem handler_draws : Draws (handler parse) one := by
  intro known labels ts
  refine Reads.ifEat (.opening rfl) ?_ ?_
  · refine Reads.draws (hParse .binder) fun t => ?_
    refine Reads.expect (.closing rfl) ?_
    refine Reads.require fun _ => ?_
    refine Reads.draws (blockItems_draws hParse _) fun body => ?_
    refine Reads.give ?_
    exact ((Covers.node body rfl).append_right (t :: ts)).trans
      (Covers.built [t, .block body] ts rfl)
  · refine Reads.draws (block_draws hParse) fun b => ?_
    refine Reads.give ?_
    exact ((Covers.refl [b]).append (Covers.leaf .absent ts)).trans
      (Covers.built [.absent, b] ts rfl)

theorem tryStatement_turns :
    Turns atOther [] (tryStatement parse) one := by
  intro known labels ts
  refine Reads.advanceSign (fun _ hAt => hAt) (.other rfl) ?_
  refine Reads.draws (block_draws hParse) fun body => ?_
  refine Reads.eatWord (.other rfl) fun hasHandler => ?_
  refine Reads.either
    (Reads.draws (handler_draws hParse) ?rest)
    (Reads.draws Reads.absent_draws ?rest)
  intro h
  refine Reads.eatWord (.other rfl) fun hasFinalizer => ?_
  refine Reads.either (Reads.draws (block_draws hParse) ?last)
    (Reads.draws Reads.absent_draws ?last)
  intro f
  refine Reads.require fun _ => ?_
  exact Reads.give (Covers.built [body, h, f] ts rfl)

theorem withStatement_turns :
    Turns atOther [] (withStatement parse) one := by
  intro known labels ts
  refine Reads.still Still.isStrict fun strict => ?_
  refine Reads.require fun _ => ?_
  refine Reads.advanceSign (fun _ hAt => hAt) (.other rfl) ?_
  refine Reads.draws (condition_draws hParse) fun e => ?_
  refine Reads.draws (hParse .statement) fun body => ?_
  exact Reads.give (Covers.built [e, body] ts rfl)

theorem labelledStatement_draws :
    Draws (labelledStatement parse) one := by
  intro known labels ts
  refine Reads.draws identifier_draws fun x => ?_
  refine Reads.still Still.context fun c => ?_
  refine Reads.require fun _ => ?_
  refine Reads.still Still.current fun l => ?_
  refine Reads.expect (.other rfl) ?_
  refine Reads.draws
    (fun known labels ts =>
      (hParse .statement known labels ts).within) fun body => ?_
  exact Reads.give (Covers.built [body] ts rfl)

------------------------------------------------------------
-- All Statements
------------------------------------------------------------

omit hParse in
theorem labelFollows_still : Still labelFollows := by
  refine Still.token.bind fun t => ?_
  split
  · refine Still.peek?.bind fun next => ?_
    split
    · split <;> exact Still.pure _
    · exact Still.pure _
  · exact Still.pure _

omit hParse in
theorem looksDeclared_still : Still looksDeclared := by
  refine Still.peek?.bind fun next => ?_
  refine (Still.isWord _).bind fun isFunction => ?_
  refine (Still.isWord _).bind fun isClass => ?_
  split
  · exact Still.pure _
  refine (Still.isWord _).bind fun isAsync => ?_
  split
  · split <;> exact Still.pure _
  refine (Still.isWord _).bind fun isLet => ?_
  split
  · split <;> exact Still.pure _
  · exact Still.pure _

theorem expressionStatement_draws :
    Draws (expressionStatement parse) one := by
  intro known labels ts
  refine Reads.still looksDeclared_still fun isDeclared => ?_
  refine Reads.require fun _ => ?_
  refine Reads.draws (expression_draws hParse) fun e => ?_
  refine Reads.draws endStatement_draws fun _ => ?_
  exact Reads.give (Covers.built [e] ts rfl)

/- A statement whose first word means nothing of its own. -/
theorem freeStatement_draws :
    Draws
      (do
        if ← labelFollows then labelledStatement parse
        else expressionStatement parse)
      one := by
  intro known labels ts
  refine Reads.still labelFollows_still fun isLabel => ?_
  refine Reads.either ?_ ?_
  · exact labelledStatement_draws hParse known labels ts
  · exact expressionStatement_draws hParse known labels ts

theorem wordStatement_turns (x : String) :
    Turns (atToken (.word x false)) [] (wordStatement parse x)
      one := by
  intro known labels ts
  have hOther :
      ∀ {p : Parse Tree},
        Turns atOther [] p one →
          Sign.ofWord x = .other →
            Reads (atToken (.word x false))
              (After known labels ts) p
              fun t => After known labels (one t ++ ts) := by
    intro p hTurns hSign
    exact Reads.of_at
      (fun _ hAt => atOther_of_atToken hAt hSign)
      (hTurns known labels ts)
  unfold wordStatement
  split
  · exact hOther (ifStatement_turns hParse) rfl
  · exact hOther (forStatement_turns hParse) rfl
  · exact hOther (whileStatement_turns hParse) rfl
  · exact hOther (doStatement_turns hParse) rfl
  · exact hOther continueStatement_turns rfl
  · exact hOther breakStatement_turns rfl
  · exact hOther (returnStatement_turns hParse) rfl
  · exact hOther (withStatement_turns hParse) rfl
  · exact switchStatement_turns hParse known labels ts
  · exact hOther (throwStatement_turns hParse) rfl
  · exact hOther (tryStatement_turns hParse) rfl
  · exact hOther (declaration_turns hParse .hoisted) rfl
  · refine Reads.advance (.other rfl) ?_
    refine Reads.draws endStatement_draws fun _ => ?_
    exact Reads.give (Covers.leaf .debugger ts)
  · exact Reads.anyAt (freeStatement_draws hParse known labels ts)

theorem statement_draws : Draws (statement parse) one := by
  intro known labels ts
  refine Reads.plainToken fun t => ?_
  split
  · exact Reads.anyAt (block_draws hParse known labels ts)
  · exact Reads.advance (.other rfl)
      (Reads.give (Covers.leaf .empty ts))
  · next x escaped =>
      refine Reads.ite (fun _ => ?_) fun hPlain => ?_
      · exact Reads.anyAt
          (freeStatement_draws hParse known labels ts)
      · rw [Bool.not_eq_true] at hPlain
        subst hPlain
        exact wordStatement_turns hParse x known labels ts
  · exact Reads.anyAt
      (expressionStatement_draws hParse known labels ts)

theorem item_draws : Draws (item parse) one := by
  intro known labels ts
  refine Reads.ifWord ?_ ?_
  · exact Reads.of_at (fun _ _ => nofun)
      (functionDeclaration_turns hParse false known labels ts)
  refine Reads.ifTold asyncFunctionFollows_tells ?_ ?_
  · exact Reads.of_at (fun _ hAt _ => hAt)
      (functionDeclaration_turns hParse true known labels ts)
  refine Reads.ifWord
    (classDeclaration_turns hParse known labels ts) ?_
  refine Reads.ifWord ?_ ?_
  · exact Reads.of_at
      (fun _ hAt => atOther_of_atToken hAt rfl)
      (declaration_turns hParse .constant known labels ts)
  refine Reads.ifTold letDeclares_tells ?_ ?_
  · exact Reads.of_at
      (fun _ hAt => atOther_of_atToken hAt rfl)
      (declaration_turns hParse .local known labels ts)
  · exact statement_draws hParse known labels ts

end

/- Each construct is read as its signs are arranged. -/
theorem parseWithin_draws
    (depth : Nat)
    (goal : Goal) :
    Draws (parseWithin depth goal) one := by
  induction depth generalizing goal with
  | zero => exact fun _ _ _ => Reads.fail
  | succ depth ih =>
      rw [parseWithin]
      cases goal with
      | assignment => exact assignment_draws ih
      | unary => exact unary_draws ih
      | exponent => exact exponent_draws ih
      | leftSide => exact leftSide_draws ih
      | creation => exact creation_draws ih
      | binder => exact binder_draws ih
      | item => exact item_draws ih
      | statement => exact statement_draws ih

------------------------------------------------------------
-- Programs
------------------------------------------------------------

/- What each step leaves that ends a repetition. -/
theorem loop_ends
    {α β : Type}
    {step : α → Parse (α ⊕ β)}
    {Ended : Parser.State → Prop}
    (hStep :
      ∀ a s b t, step a s = some (.inr b, t) → Ended t)
    {a : α}
    {s t : Parser.State}
    {b : β}
    (hRun : Parse.loop step a s = some (b, t)) :
    Ended t := by
  have hIterate :
      ∀ fuel a s,
        Parse.iterate step fuel a s = some (b, t) → Ended t := by
    intro fuel
    induction fuel with
    | zero => exact fun _ _ => nofun
    | succ fuel ih =>
        intro a s hIterate
        rcases bind_eq_some_iff.mp hIterate with
          ⟨r, u, hFirst, hMore⟩
        cases r with
        | inl a => exact ih a u hMore
        | inr b =>
            cases hMore
            exact hStep a s _ _ hFirst
  rcases bind_eq_some_iff.mp hRun with ⟨l, u, -, hMore⟩
  exact hIterate _ _ _ hMore

/- The items of a program, one more of which is read. -/
def programStep
    (parse : Goal → Parse Tree)
    (done : List Tree) :
    Parse (List Tree ⊕ List Tree) := do
  match ← Parse.token with
  | .stop => return .inr done.reverse
  | _ => return .inl ((← parse .item) :: done)

theorem programStep_ends
    (done : List Tree)
    (s : Parser.State)
    (ts : List Tree)
    (t : Parser.State)
    (hStep : programStep parse done s = some (.inr ts, t)) :
    t.current.token = .stop := by
  rcases bind_eq_some_iff.mp hStep with
    ⟨token, u, hToken, hMore⟩
  have hSame : s.current.token = token ∧ u = s := by
    cases hToken
    exact ⟨rfl, rfl⟩
  rcases hSame with ⟨hSame, rfl⟩
  cases token with
  | stop =>
      cases hMore
      exact hSame
  | _ =>
      rcases bind_eq_some_iff.mp hMore with ⟨item, v, -, hItem⟩
      cases hItem

theorem program_draws
    (hParse : ∀ g, Draws (parse g) one) :
    Draws (program parse) one := by
  intro known labels ts
  refine Reads.draws (directives_draws hParse) fun first => ?_
  have hItems :
      Reads anywhere (After known labels (first ++ ts))
        (Parse.loop (programStep parse) [])
        fun rest => After known labels (rest ++ (first ++ ts)) := by
    refine Reads.loop (a := [])
      (fun done => After known labels (done ++ (first ++ ts)))
      fun done => ?_
    refine Reads.plainToken fun t => Reads.anyAt ?_
    split
    · exact Reads.stop (Covers.reversed done (first ++ ts))
    · refine Reads.draws (hParse .item) fun item => ?_
      exact Reads.goOn (Covers.refl _)
  refine Reads.bind hItems fun rest => ?_
  refine Reads.still Still.isStrict fun isStrict => ?_
  refine Reads.give ?_
  rw [← List.append_assoc]
  refine Covers.append_right ?_ ts
  exact (Covers.perm List.perm_append_comm).trans
    (Covers.node (first ++ rest) rfl)

/- A program is read to the end. -/
theorem program_ends
    {s t : Parser.State}
    {tree : Tree}
    (hRun : program parse s = some (tree, t)) :
    t.current.token = .stop := by
  rcases bind_eq_some_iff.mp hRun with ⟨first, u, -, hMore⟩
  rcases bind_eq_some_iff.mp hMore with ⟨rest, v, hLoop, hLast⟩
  have hEnd := loop_ends programStep_ends hLoop
  rcases bind_eq_some_iff.mp hLast with ⟨b, w, hStrict, hGive⟩
  cases hStrict
  cases hGive
  exact hEnd

end Grammar

theorem bare_drop
    {cs : List Char}
    (hBare : Bare cs) :
    Bare (Lexer.dropInterpreterLine cs) := by
  unfold Lexer.dropInterpreterLine
  split
  · next rest =>
      exact fun c hMember =>
        hBare c (by
          have hKept := (List.dropWhile_sublist _).subset hMember
          simp [hKept])
  · exact hBare

/-
  The tokens of a script that can be read, up to its end, show
  what its tree has.
-/
theorem Tree.parse?_depicts
    {code : String}
    {t : Tree}
    (hBare : Bare code.toList)
    (hParse : parse? code = some t) :
    ∃ ls last rest,
      Taken (Lexer.dropInterpreterLine code.toList) ls rest ∧
        Lexeme.next? rest = some last ∧
          last.token = .stop ∧
            Depicts 0 [t] (ls.map Lexeme.sign) := by
  rcases Option.bind_eq_some_iff.mp hParse with
    ⟨first, hFirst, hRest⟩
  rcases Option.bind_eq_some_iff.mp hRest with
    ⟨⟨tree, last⟩, hRun, hTree⟩
  cases hTree
  have hStart := Lexeme.bare_of_next? (bare_drop hBare) hFirst
  have hSynced :
      Parser.State.Synced
        { current := first
          afterLast := Lexer.dropInterpreterLine code.toList
          taken := 0
          arrowAt := 0
          context := {}
          scopes := [{ isFunction := true }]
          needsPattern := false
          noPattern := false
          secretsUsed := [] } :=
    ⟨hStart.2, hStart.1, first, hFirst, rfl, rfl, id⟩
  rcases Grammar.program_draws
      (Grammar.parseWithin_draws
        (nestingPerToken *
          ((Lexer.dropInterpreterLine code.toList).length + 2)))
      (· = []) 0 [] _ _ _ [] hSynced trivial
      ⟨[], [], rfl, rfl, .nil⟩ hRun with
    ⟨hSynced, signs, ⟨ls, hTaken, rfl⟩, old, new, hSigns, rfl,
      hNew⟩
  rcases hSynced.next with ⟨l, hNext, -, -, hStop⟩
  refine ⟨ls, l, last.afterLast, hTaken, hNext,
    hStop (Grammar.program_ends hRun), ?_⟩
  cases hSigns
  exact hNew

end Script

end Devirt
