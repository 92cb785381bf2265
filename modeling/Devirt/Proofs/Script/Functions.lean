import Devirt.Proofs.Script.Readers

/-
  Functions and classes, and the signs of their tokens.

  A reader of a construct is given a reader for the constructs
  in it.  If that one draws the trees that it gives, the reader
  of the construct does so, too.  Names cannot be words of
  switch statements, but the keys of members can.

  Main declarations:
    * `Grammar.expression_draws`, `Grammar.propertyKey_draws`
    * `Grammar.binder_draws`, `Grammar.directives_draws`
    * `Grammar.function_draws`, `Grammar.arrowBody_turns`
    * `Grammar.klass_turns`
-/

------------------------------------------------------------
-- Expressions, Keys and Names
------------------------------------------------------------

namespace Devirt

namespace Script

namespace Grammar

open Parse
open CodeMap (Bracket)

variable {parse : Goal → Parse Tree}

section

variable (hParse : ∀ g, Draws (parse g) one)

include hParse

theorem value_draws : Draws (value parse) one :=
  fun known labels ts =>
    (hParse .assignment known labels ts).within.settled

theorem coverExpression_draws :
    Draws (coverExpression parse) one := by
  intro known labels ts
  refine Reads.draws (hParse .assignment) fun first => ?_
  refine Reads.loop (fun e => After known labels (e :: ts))
    fun e => ?_
  refine Reads.ifEat (.other rfl) ?_ ?_
  · refine Reads.draws (hParse .assignment) fun next => ?_
    exact Reads.goOn (Covers.built [e, next] ts rfl)
  · exact Reads.stop (Covers.refl _)

theorem expression_draws : Draws (expression parse) one :=
  fun known labels ts =>
    (coverExpression_draws hParse known labels ts).within.settled

omit hParse in
theorem keyText_depicts (x : String) :
    Depicts 0 [keyText x] [Sign.ofWord x] := by
  refine Depicts.ofName fun hMember => ?_
  simp only [Label.borrows, isSwitchUnits, List.any_eq_true]
  exact ⟨x, hMember, beq_self_eq_true _⟩

theorem propertyKey_draws : Draws (propertyKey parse) one := by
  intro known labels ts
  refine Reads.plainToken fun t => ?_
  split
  · next x escaped =>
      exact Reads.advance (.depicts (keyText_depicts x))
        (Reads.give (Covers.refl _))
  · next s isLegacy isPlain =>
      refine Reads.still Still.isStrict fun strict => ?_
      refine Reads.require fun _ => ?_
      refine Reads.advance (.other rfl) ?_
      exact Reads.give (Covers.leaf _ ts)
  · next x isLegacy =>
      refine Reads.still Still.isStrict fun strict => ?_
      refine Reads.require fun _ => ?_
      refine Reads.advance (.other rfl) ?_
      exact Reads.give ((Covers.leaf (.number x) ts).trans
        (Covers.built [.number x] ts rfl))
  · next n =>
      refine Reads.advance (.other rfl) ?_
      exact Reads.give ((Covers.leaf (.bigint n) ts).trans
        (Covers.built [.node (.bigint n) []] ts rfl))
  · refine Reads.advance (.other rfl) ?_
    refine Reads.draws (value_draws hParse) fun e => ?_
    refine Reads.expect (.other rfl) ?_
    exact Reads.give (Covers.built [e] ts rfl)
  · exact Reads.fail

omit hParse in
theorem ofWord_of_canName
    {c : Context}
    {x : String}
    (hName : canName c x = true) :
    Sign.ofWord x = .other := by
  apply Sign.ofWord_of_notMem
  intro hSwitch
  have hReserved : reservedWords.contains x = true := by
    simp only [switchWords, List.mem_cons, List.not_mem_nil,
      or_false] at hSwitch
    rcases hSwitch with rfl | rfl | rfl <;> decide
  simp only [canName, hReserved, Bool.true_or, Bool.not_true,
    Bool.false_eq_true] at hName

omit hParse in
theorem identifier_draws :
    Draws identifier fun _ => [] := by
  intro known labels ts
  refine Reads.plainToken fun t => ?_
  split
  · next x escaped =>
      refine Reads.still Still.context fun c => ?_
      refine Reads.require fun hName => ?_
      rw [Bool.and_eq_true] at hName
      exact Reads.advance
        (.other (ofWord_of_canName hName.1))
        (Reads.give (Covers.refl _))
  · exact Reads.fail

------------------------------------------------------------
-- Binders
------------------------------------------------------------

omit hParse in
theorem bindingName_draws :
    Draws bindingName fun _ => [] := by
  intro known labels ts
  refine Reads.still Still.context fun c => ?_
  refine Reads.draws identifier_draws fun x => ?_
  exact Reads.require fun _ => Reads.give (Covers.refl _)

theorem withDefault_turns (target : Tree) :
    Turns anywhere [target] (withDefault parse target) one := by
  intro known labels ts
  refine Reads.ifEat (.other rfl) ?_ ?_
  · refine Reads.draws (value_draws hParse) fun e => ?_
    exact Reads.give (Covers.built [target, e] ts rfl)
  · exact Reads.give (Covers.refl _)

theorem element_draws : Draws (element parse) one := by
  intro known labels ts
  refine Reads.draws (hParse .binder) fun target => ?_
  exact withDefault_turns hParse target known labels ts

theorem arrayBinder_draws :
    Draws (arrayBinder parse) one := by
  intro known labels ts
  refine Reads.loop (fun done => After known labels (done ++ ts))
    fun done => ?_
  refine Reads.ifEat (.other rfl) ?_ ?_
  · exact Reads.stop (Covers.gathered done ts rfl)
  refine Reads.ifEat (.other rfl) ?_ ?_
  · exact Reads.goOn (Covers.leaf _ _)
  refine Reads.ifEat (.other rfl) ?_ ?_
  · refine Reads.draws (hParse .binder) fun target => ?_
    refine Reads.expect (.other rfl) ?_
    exact Reads.stop
      ((Covers.built [target] (done ++ ts) rfl).trans
        (Covers.gathered (.node .rest [target] :: done) ts rfl))
  · refine Reads.draws (element_draws hParse) fun e => ?_
    refine Reads.ifEat (.other rfl) ?_ ?_
    · exact Reads.stop (Covers.gathered (e :: done) ts rfl)
    · refine Reads.expect (.other rfl) ?_
      exact Reads.goOn (Covers.refl _)

theorem propertyBinder_draws :
    Draws (propertyBinder parse) one := by
  intro known labels ts
  refine Reads.plainToken fun first => ?_
  refine Reads.anyAt ?_
  refine Reads.draws (propertyKey_draws hParse) fun key => ?_
  refine Reads.ifEat (.other rfl) ?_ ?_
  · refine Reads.draws (element_draws hParse) fun e => ?_
    exact Reads.give (Covers.built [key, e] ts rfl)
  · split
    · next x escaped =>
        refine Reads.still Still.context fun c => ?_
        refine Reads.require fun _ => ?_
        refine Reads.turns (withDefault_turns hParse (.name x))
          (Covers.leaf (.name x) _) fun target => ?_
        exact Reads.give (Covers.built [key, target] ts rfl)
    · exact Reads.fail

theorem objectBinder_closes :
    Closes .curly (objectBinder parse) one := by
  intro known labels ts
  refine Reads.loop
    (After (Opened .curly (After known labels ts)) 0)
    fun done => ?_
  refine Reads.ifEat (.closing rfl) ?_ ?_
  · exact Reads.stop (Covers.gathered done ts rfl)
  refine Reads.ifEat (.other rfl) ?_ ?_
  · refine Reads.draws bindingName_draws fun x => ?_
    refine Reads.expect (.closing rfl) ?_
    exact Reads.stop
      (((Covers.leaf (.name x) (done ++ ts)).trans
        (Covers.built [.name x] (done ++ ts) rfl)).trans
          (Covers.gathered (.node .rest [.name x] :: done) ts
            rfl))
  · refine Reads.draws (propertyBinder_draws hParse)
      fun p => ?_
    refine Reads.ifEat (.closing rfl) ?_ ?_
    · exact Reads.stop (Covers.gathered (p :: done) ts rfl)
    · refine Reads.expect (.other rfl) ?_
      exact Reads.goOn (Covers.refl _)

theorem binder_draws : Draws (binder parse) one := by
  intro known labels ts
  refine Reads.ifEat (.other rfl)
    (arrayBinder_draws hParse known labels ts) ?_
  refine Reads.ifEat (.opening rfl)
    (objectBinder_closes hParse known labels ts) ?_
  refine Reads.draws bindingName_draws fun x => ?_
  exact Reads.give (Covers.leaf (.name x) ts)

theorem params_draws : Draws (params parse) id := by
  intro known labels ts
  refine Reads.expect (.opening rfl) ?_
  refine Reads.loop
    (After (Opened .round (After known labels ts)) 0)
    fun done => ?_
  refine Reads.ifEat (.closing rfl) ?_ ?_
  · exact Reads.stop (Covers.reversed done ts)
  refine Reads.ifEat (.other rfl) ?_ ?_
  · refine Reads.draws (hParse .binder) fun target => ?_
    refine Reads.expect (.closing rfl) ?_
    exact Reads.stop
      ((Covers.built [target] (done ++ ts) rfl).trans
        (Covers.reversed (.node .rest [target] :: done) ts))
  · refine Reads.draws (element_draws hParse) fun p => ?_
    refine Reads.ifEat (.closing rfl) ?_ ?_
    · exact Reads.stop (Covers.reversed (p :: done) ts)
    · refine Reads.expect (.other rfl) ?_
      exact Reads.goOn (Covers.refl _)

------------------------------------------------------------
-- Bodies
------------------------------------------------------------

omit hParse in
/- Strict code takes the current numeral as it was read. -/
theorem becomeStrict_draws (endsInMark : Bool) :
    Draws (becomeStrict endsInMark) fun _ => [] := by
  intro known labels ts s a t signs hSynced _ hSigns hRun
  cases hRun
  have hKept :
      ∀ l : Lexeme,
        (keepNumeral l).rest = l.rest ∧
          (keepNumeral l).sign = l.sign ∧
            ((keepNumeral l).token = .stop → l.token = .stop) ∧
              (l.token.IsBare →
                (keepNumeral l).token.IsBare) := by
    intro l
    unfold keepNumeral
    split
    · next x isLegacy hToken =>
        simp [Lexeme.sign, Token.sign, Token.IsBare, hToken]
    · exact ⟨rfl, rfl, id, id⟩
  refine ⟨?_, [], ⟨[], .nil _, rfl⟩, by rwa [List.append_nil]⟩
  rcases hKept s.current with ⟨hRest, hSign, hStop, hBare⟩
  cases endsInMark with
  | true => exact ⟨hSynced.bare, hSynced.bareToken, hSynced.next⟩
  | false =>
      refine ⟨?_, hBare hSynced.bareToken, ?_⟩
      · change Bare (keepNumeral s.current).rest
        rw [hRest]
        exact hSynced.bare
      · rcases hSynced.next with ⟨l, hNext, hEnd, hSame, hLast⟩
        exact ⟨l, hNext, hEnd.trans hRest.symm,
          hSame.trans hSign.symm, fun hHere => hLast (hStop hHere)⟩

theorem directives_draws : Draws (directives parse) id := by
  intro known labels ts
  refine Reads.loop (a := ([], false))
    (fun state => After known labels (state.1 ++ ts))
    fun ⟨done, hasLegacy⟩ => ?_
  refine Reads.plainToken fun t => Reads.anyAt ?_
  split
  · refine Reads.still Still.get fun s => ?_
    refine Reads.draws (hParse .item) fun item => ?_
    split
    · refine Reads.either ?_ ?_
      · refine Reads.require fun _ => ?_
        refine Reads.still Still.get fun u => ?_
        refine Reads.draws (becomeStrict_draws _) fun _ => ?_
        exact Reads.goOn (Covers.refl _)
      · exact Reads.goOn (Covers.refl _)
    · exact Reads.stop (Covers.reversed (item :: done) ts)
  · exact Reads.stop (Covers.reversed done ts)

omit hParse in
theorem itemsUntil_draws
    {item : Parse Tree}
    (hItem : Draws item one)
    (known : List Sign → Prop)
    (labels : Nat)
    (us ts : List Tree) :
    Reads anywhere
      (After (Opened .curly (After known labels ts)) 0 us)
      (itemsUntil "\x7d" item)
      fun items => After known labels (items ++ (us ++ ts)) := by
  refine Reads.loop (a := [])
    (fun done =>
      After (Opened .curly (After known labels ts)) 0
        (done ++ us))
    fun done => ?_
  refine Reads.ifEat (.closing rfl) ?_ ?_
  · refine Reads.stop ?_
    rw [← List.append_assoc]
    exact (Covers.reversed done us).append_right ts
  · refine Reads.draws hItem fun t => ?_
    exact Reads.goOn (Covers.refl _)

theorem body_closes :
    Closes .curly (body parse) Prod.fst := by
  intro known labels ts
  refine Reads.still Still.isStrict fun before => ?_
  refine Reads.draws (directives_draws hParse) fun first => ?_
  refine Reads.still Still.isStrict fun after => ?_
  refine Reads.bind
    (itemsUntil_draws (hParse .item) known labels (first ++ [])
      ts) fun rest => ?_
  refine Reads.give ?_
  rw [List.append_nil, ← List.append_assoc]
  exact (Covers.perm List.perm_append_comm).append_right ts

------------------------------------------------------------
-- Functions
------------------------------------------------------------

omit hParse in
/- The parts of a function in their places. -/
theorem function_covers
    (info : FunctionInfo)
    (ps body ts : List Tree) :
    Covers (body ++ (ps ++ ts))
      (.function info ps body :: ts) := by
  have hParams := Covers.node (l := .params) ps rfl
  have hBody := Covers.node (l := .body) body rfl
  exact (hBody.append (hParams.append_right ts)).trans
    (Covers.built (l := .function info)
      [.node .params ps, .node .body body] ts rfl)

omit hParse in
theorem finish_turns
    (h : Heading)
    (isStrict : Bool)
    (ps body : List Tree) :
    Turns anywhere (body ++ ps) (finish h isStrict ps body)
      one := by
  intro known labels ts
  refine Reads.still (Still.sourceFrom _) fun source => ?_
  refine Reads.give ?_
  rw [List.append_assoc]
  exact function_covers _ ps body ts

theorem afterParams_turns
    (h : Heading)
    (ps : List Tree) :
    Turns anywhere ps (afterParams parse h ps) one := by
  intro known labels ts
  refine Reads.within ?_
  refine Reads.expect (.opening rfl) ?_
  refine Reads.bind
    (body_closes hParse known labels (ps ++ ts)).inScope
    fun ⟨statements, isStrictHere⟩ => ?_
  refine Reads.still Still.context fun c => ?_
  refine Reads.require fun _ => Reads.require fun _ => ?_
  refine Reads.of_covers ?_
    (finish_turns h _ ps statements known labels ts)
  rw [List.append_assoc]
  exact Covers.refl _

theorem paramsOf_draws (h : Heading) :
    Draws (paramsOf parse h) id := by
  intro known labels ts
  unfold paramsOf
  split
  · refine Reads.expect (.opening rfl) ?_
    refine Reads.expect (.closing rfl) ?_
    exact Reads.give (Covers.refl _)
  · refine Reads.expect (.opening rfl) ?_
    refine Reads.draws (element_draws hParse) fun p => ?_
    refine Reads.expect (.closing rfl) ?_
    exact Reads.give (Covers.refl _)
  · exact params_draws hParse known labels ts

theorem function_draws (h : Heading) :
    Draws (function parse h) one := by
  intro known labels ts
  refine Reads.bind
    (paramsOf_draws hParse h known labels ts).inScope.within
    fun ps => ?_
  exact afterParams_turns hParse h ps known labels ts

theorem arrowBody_turns
    (h : Heading)
    (ps : List Tree) :
    Turns anywhere ps (arrowBody parse h ps) one := by
  intro known labels ts
  refine Reads.still Still.newlineBefore fun newline => ?_
  refine Reads.require fun _ => ?_
  refine Reads.expect (.other rfl) ?_
  refine Reads.ifMark ?_ ?_
  · exact Reads.anyAt (afterParams_turns hParse h ps known labels ts)
  · refine Reads.still Still.context fun c => ?_
    refine Reads.within ?_
    refine Reads.still Still.context fun inner => ?_
    refine Reads.require fun _ => ?_
    refine Reads.bind
      (hParse .assignment known labels (ps ++ ts)).settled.inScope
      fun e => ?_
    refine Reads.of_covers ?_
      (finish_turns h _ ps [.node .giveBack [e]] known labels ts)
    exact Covers.built [e] (ps ++ ts) rfl

------------------------------------------------------------
-- Members
------------------------------------------------------------

omit hParse in
theorem namesMember_still : Still namesMember := by
  refine Still.peek?.bind fun next => ?_
  split
  · split <;> exact Still.pure _
  · exact Still.pure _

omit hParse in
/- A modifier is taken if the answers before it say so. -/
theorem ifModifier
    {w : String}
    {p q : Parse α}
    {At : Place → Prop}
    {known : List Sign → Prop}
    {labels : Nat}
    {ts : List Tree}
    {next : α → List Sign → Prop}
    (hYes :
      Reads (atToken (.word w false)) (After known labels ts) p
        next)
    (hNo : Reads anywhere (After known labels ts) q next) :
    Reads At (After known labels ts)
      (isWord w >>= fun isHere =>
        namesMember >>= fun names =>
          if (isHere && !names) = true then p else q)
      next := by
  refine Reads.isWord fun isHere => ?_
  refine Reads.still namesMember_still fun names => ?_
  refine Reads.ite (fun hHere => ?_) fun _ => Reads.anyAt hNo
  rw [Bool.and_eq_true] at hHere
  exact Reads.of_at (fun _ hAt => hAt.2 hHere.1) hYes

omit hParse in
theorem modifiers_draws : Draws modifiers fun _ => [] := by
  intro known labels ts
  refine Reads.ifEat (.other rfl)
    (Reads.give (Covers.refl _)) ?_
  refine ifModifier ?_ ?_
  · refine Reads.still Still.peek? fun next => ?_
    split
    · refine Reads.require fun _ => ?_
      refine Reads.advance (.other rfl) ?_
      refine Reads.eat (.other rfl) fun isGenerator => ?_
      exact Reads.give (Covers.refl _)
    · exact Reads.fail
  refine ifModifier ?_ ?_
  · exact Reads.advance (.other rfl) (Reads.give (Covers.refl _))
  refine ifModifier ?_ ?_
  · exact Reads.advance (.other rfl) (Reads.give (Covers.refl _))
  · exact Reads.give (Covers.refl _)

omit hParse in
theorem endStatement_draws :
    Draws endStatement fun _ => [] := by
  intro known labels ts
  refine Reads.ifEat (.other rfl)
    (Reads.give (Covers.refl _)) ?_
  refine Reads.plainToken fun t => ?_
  split
  · exact Reads.give (Covers.refl _)
  · exact Reads.give (Covers.refl _)
  · refine Reads.still Still.newlineBefore fun newline => ?_
    exact Reads.ofStill (Still.require _) fun _ _ => id

theorem fieldValue_draws : Draws (fieldValue parse) one := by
  intro known labels ts
  refine Reads.ifEat (.other rfl)
    (Reads.draws
      (fun known labels ts =>
        (value_draws hParse known labels ts).within) ?rest)
    (Reads.draws Reads.absent_draws ?rest)
  intro v
  refine Reads.draws endStatement_draws fun _ => ?_
  exact Reads.give (Covers.refl _)

------------------------------------------------------------
-- Classes
------------------------------------------------------------

omit hParse in
/- The trees of a class as far as it has been read. -/
def ClassSoFar.trees (c : ClassSoFar) : List Tree :=
  c.constructor :: c.members

theorem constructorAfter_turns
    (hasParent : Bool)
    (start : List Char)
    (soFar : ClassSoFar) :
    Turns anywhere soFar.trees
      (constructorAfter parse hasParent start soFar)
      ClassSoFar.trees := by
  intro known labels ts
  refine Reads.require fun hAbsent => ?_
  refine Reads.draws (function_draws hParse _) fun f => ?_
  refine Reads.give ?_
  rcases soFar with ⟨⟨l, ps⟩, members, secrets⟩
  dsimp only [Tree.label] at hAbsent
  split at hAbsent
  · exact (Covers.refl [f]).append (Covers.ofAbsent ps _)
  · cases hAbsent

omit hParse in
theorem add_turns
    (soFar : ClassSoFar)
    (m key : Tree)
    (accessor : Option FunctionKind)
    (isStatic : Bool) :
    Turns anywhere (m :: soFar.trees)
      (soFar.add m key accessor isStatic) ClassSoFar.trees := by
  intro known labels ts
  have hAdded :
      Covers (m :: soFar.trees ++ ts)
        (soFar.constructor :: m :: soFar.members ++ ts) :=
    Covers.perm (List.Perm.swap _ _ _)
  unfold ClassSoFar.add
  dsimp only
  split
  · exact Reads.require fun _ => Reads.give hAdded
  · exact Reads.give hAdded

omit hParse in
theorem keyPrivate_depicts (x : String) :
    Depicts 0 [.node (.keyPrivate x) []] [Sign.ofWord x] :=
  Depicts.named rfl

theorem memberKey_draws : Draws (memberKey parse) one := by
  intro known labels ts
  refine Reads.plainToken fun t => ?_
  split
  · next x =>
      refine Reads.require fun _ => ?_
      exact Reads.advance (.depicts (keyPrivate_depicts x))
        (Reads.give (Covers.refl _))
  · exact Reads.anyAt (propertyKey_draws hParse known labels ts)

omit hParse in
/- The word that announces the constructor is no member. -/
theorem memberKey_constructor
    {escaped : Bool}
    (known : List Sign → Prop)
    (labels : Nat)
    (ts : List Tree) :
    Reads (atToken (.word "constructor" escaped))
      (After known labels ts) (memberKey parse)
      fun _ => After known labels ts := by
  refine Reads.tokenAt (Reads.tokenAt ?_)
  exact Reads.advance (.other rfl) (Reads.give (Covers.refl _))

theorem classMember_turns
    (hasParent isStatic : Bool)
    (start : List Char)
    (soFar : ClassSoFar) :
    Turns anywhere soFar.trees
      (classMember parse hasParent isStatic start soFar)
      ClassSoFar.trees := by
  intro known labels ts
  refine Reads.draws modifiers_draws fun m => ?_
  refine Reads.plainToken fun t => ?_
  dsimp only
  generalize hConstructor : (!isStatic && _) = isConstructor
  cases isConstructor with
  | true =>
      rw [Bool.and_eq_true] at hConstructor
      rcases hConstructor with ⟨-, hWord⟩
      split at hWord
      · refine Reads.bind (memberKey_constructor _ _ _)
          fun key => ?_
        refine Reads.ite (fun _ => ?_)
          fun hFalse => absurd rfl hFalse
        refine Reads.require fun _ => ?_
        exact constructorAfter_turns hParse hasParent start soFar
          known labels ts
      · cases hWord
  | false =>
      refine Reads.anyAt ?_
      refine Reads.draws (memberKey_draws hParse) fun key => ?_
      refine Reads.ite
        (fun hTrue => absurd hTrue Bool.false_ne_true)
        fun _ => ?_
      refine Reads.ifMark ?_ ?_
      · refine Reads.require fun _ => Reads.anyAt ?_
        refine Reads.draws (function_draws hParse _) fun f => ?_
        exact Reads.of_covers (Covers.built [key, f] _ rfl)
          (add_turns soFar _ key m.accessor isStatic known labels
            ts)
      · refine Reads.require fun _ => Reads.require fun _ => ?_
        refine Reads.draws (fieldValue_draws hParse) fun v => ?_
        exact Reads.of_covers (Covers.built [key, v] _ rfl)
          (add_turns soFar _ key none isStatic known labels ts)

theorem staticBlock_draws :
    Draws (staticBlock parse) one := by
  intro known labels ts
  refine Reads.expect (.opening rfl) ?_
  refine Reads.bind
    (itemsUntil_draws (hParse .item) known labels []
      ts).inScope.within fun statements => ?_
  exact Reads.give
    ((Covers.node statements rfl).append_right ts)

theorem classElement_turns
    (hasParent : Bool)
    (soFar : ClassSoFar) :
    Turns anywhere soFar.trees
      (classElement parse hasParent soFar) ClassSoFar.trees := by
  intro known labels ts
  refine Reads.still Still.current fun l => ?_
  refine ifModifier ?_ ?_
  · refine Reads.advance (.other rfl) ?_
    refine Reads.ifMark ?_ ?_
    · refine Reads.anyAt ?_
      refine Reads.draws (staticBlock_draws hParse) fun b => ?_
      exact Reads.give (Covers.perm (List.Perm.swap _ _ _))
    · refine Reads.still Still.current fun start => ?_
      exact classMember_turns hParse hasParent true _ soFar known
        labels ts
  · exact classMember_turns hParse hasParent false _ soFar known
      labels ts

theorem classBody_closes (hasParent : Bool) :
    Closes .curly (classBody parse hasParent)
      ClassSoFar.trees := by
  intro known labels ts
  refine Reads.still Still.get fun s => ?_
  refine Reads.still Still.context fun c => ?_
  refine Reads.modify (fun _ => rfl) ?_
  refine Reads.of_covers (Covers.leaf .absent []) ?_
  refine Reads.bind
    (Reads.within (Reads.loop (a := {})
      (fun soFar : ClassSoFar =>
        After (Opened .curly (After known labels ts)) 0
          (soFar.trees ++ []))
      fun soFar => ?_) :
      Reads _ _ _ fun c => After known labels (c.trees ++ ts))
    fun c => ?_
  · refine Reads.ifEat (.closing rfl) (Reads.stop ?_) ?_
    · rw [List.append_nil]
      exact Covers.refl _
    refine Reads.ifEat (.other rfl)
      (Reads.goOn (Covers.refl _)) ?_
    refine Reads.turns (classElement_turns hParse hasParent soFar)
      (Covers.refl _) fun c => ?_
    exact Reads.goOn (Covers.refl _)
  refine Reads.still Still.get fun u => ?_
  refine Reads.require fun _ => ?_
  refine Reads.modify (fun _ => rfl) ?_
  exact Reads.give (Covers.refl _)

omit hParse in
/- The parts of a class in their places. -/
theorem klass_covers
    (x : Option String)
    (source : String)
    (parent : Tree)
    (c : ClassSoFar)
    (ts : List Tree) :
    Covers (c.trees ++ (parent :: ts))
      (.klass x source parent c.constructor c.members.reverse ::
        ts) := by
  have hOrder :
      (c.trees ++ (parent :: ts)).Perm
        (parent :: c.constructor :: c.members.reverse ++ ts) :=
    List.perm_middle.trans
      (((List.reverse_perm c.members).symm.append_right
        ts).cons c.constructor |>.cons parent)
  exact (Covers.perm hOrder).trans
    ((Covers.node _ rfl).append_right ts)

theorem klass_turns (isNamed : Bool) :
    Turns (atToken (.word "class" false)) []
      (klass parse isNamed) one := by
  intro known labels ts
  refine Reads.still Still.current fun l => ?_
  refine Reads.advance (.other rfl) ?_
  refine Reads.within ?_
  refine Reads.plainToken fun t => Reads.anyAt ?_
  -- the rest of a class, from its name and from its parent on
  extract_lets fromName fromWord
  have hNamed :
      ∀ x,
        Reads anywhere (After known labels ts) (fromName x)
          fun t => After known labels (one t ++ ts) := by
    intro x
    refine Reads.ifEatWord (.other rfl)
      (Reads.draws (hParse .leftSide) ?parent)
      (Reads.draws Reads.absent_draws ?parent)
    intro parent
    refine Reads.expect (.opening rfl) ?_
    refine Reads.bind
      (classBody_closes hParse _ known labels (parent :: ts))
      fun c => ?_
    refine Reads.still (Still.sourceFrom _) fun source => ?_
    exact Reads.give (klass_covers x source parent c ts)
  have hRest :
      ∀ hasName,
        Reads anywhere (After known labels ts) (fromWord hasName)
          fun t => After known labels (one t ++ ts) := by
    intro hasName
    refine Reads.require fun _ => ?_
    refine Reads.either ?_ ?_
    · exact Reads.draws (Reads.map_draws bindingName_draws some)
        hNamed
    · exact Reads.draws (Reads.pure_draws _) hNamed
  split
  · exact Reads.draws (Reads.pure_draws _) hRest
  · exact Reads.draws (Reads.pure_draws _) hRest

end

end Grammar

end Script

end Devirt
