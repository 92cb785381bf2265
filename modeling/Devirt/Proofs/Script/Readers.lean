import Devirt.Proofs.Script.Outlines
import Devirt.Proofs.Script.Spelling
import Devirt.Script.Parser

/-
  What a reader of scripts leaves behind it.

  A reader goes on from token to token and never back, as long
  as the text has no slashes and templates.  What is known of
  the signs of the tokens before it is a property of lists of
  signs; a rule for each way to combine readers tells what is
  known after it.  The rules are applied along the text of a
  reader, as its steps are.

  Main declarations:
    * `Taken`, `Synced`
    * `Reads`, and its rules
    * `After`, `Draws`
-/

------------------------------------------------------------
-- Tokens That Were Taken
------------------------------------------------------------

namespace Devirt

namespace Script

open CodeMap (Bracket)

/- Tokens that follow each other in a text. -/
inductive Taken :
    List Char → List Lexeme → List Char → Prop where
  | nil (cs : List Char) : Taken cs [] cs
  | cons
      {cs rest : List Char}
      {l : Lexeme}
      {ls : List Lexeme}
      (hNext : Lexeme.next? cs = some l)
      (hRest : Taken l.rest ls rest) :
      Taken cs (l :: ls) rest

theorem Taken.append
    {cs middle rest : List Char}
    {ls more : List Lexeme}
    (hFirst : Taken cs ls middle)
    (hSecond : Taken middle more rest) :
    Taken cs (ls ++ more) rest := by
  induction hFirst with
  | nil => exact hSecond
  | cons hNext _ ih => exact .cons hNext (ih hSecond)

theorem Taken.bare
    {cs rest : List Char}
    {ls : List Lexeme}
    (hTaken : Taken cs ls rest)
    (hBare : Bare cs) :
    Bare rest := by
  induction hTaken with
  | nil => exact hBare
  | cons hNext _ ih =>
      exact ih (Lexeme.bare_of_next? hBare hNext).2

def Lexeme.sign (l : Lexeme) : Sign := l.token.sign

/- Where a reader stands: its token, and what was left. -/
abbrev Place := Lexeme × List Char

namespace Parser.State

def place (s : Parser.State) : Place :=
  (s.current, s.afterLast)

/-
  The current token is the next one of what is left, but for
  how a numeral counts in strict code.
-/
structure Synced (s : Parser.State) : Prop where
  bare : Bare s.current.rest
  bareToken : s.current.token.IsBare
  next :
    ∃ l,
      Lexeme.next? s.afterLast = some l ∧
        l.rest = s.current.rest ∧
          l.sign = s.current.sign ∧
            (s.current.token = .stop → l.token = .stop)

theorem Synced.of_place
    {s t : Parser.State}
    (hSynced : s.Synced)
    (hSame : t.place = s.place) :
    t.Synced := by
  rcases Prod.mk.inj hSame with ⟨hCurrent, hAfter⟩
  refine ⟨?_, ?_, ?_⟩
  · rw [hCurrent]
    exact hSynced.bare
  · rw [hCurrent]
    exact hSynced.bareToken
  · rw [hCurrent, hAfter]
    exact hSynced.next

end Parser.State

------------------------------------------------------------
-- Readers
------------------------------------------------------------

open Script.Parser (State)

/- Signs of tokens that were taken between two states. -/
def Took (s t : State) (signs : List Sign) : Prop :=
  ∃ ls, Taken s.afterLast ls t.afterLast ∧
    ls.map Lexeme.sign = signs

/-
  Where the place is as said, a reader takes tokens so that the
  signs before it become signs that are known as said.
-/
def Reads
    (At : Place → Prop)
    (known : List Sign → Prop)
    (p : Parse α)
    (next : α → List Sign → Prop) :
    Prop :=
  ∀ s a t signs,
    s.Synced → At s.place → known signs → p s = some (a, t) →
      t.Synced ∧
        ∃ more, Took s t more ∧ next a (signs ++ more)

/- A reader that takes no token. -/
def Still (p : Parse α) : Prop :=
  ∀ s a t, p s = some (a, t) → t.place = s.place

def anywhere : Place → Prop := fun _ => True

/- The current token is a given one. -/
def atToken (t : Token) : Place → Prop :=
  fun place => place.1.token = t

/- What a sign makes of what was known. -/
def Shifts
    (sign : Sign)
    (known next : List Sign → Prop) :
    Prop :=
  ∀ signs, known signs → next (signs ++ [sign])

section Rules

variable {α β : Type}
variable {At : Place → Prop}
variable {known known' : List Sign → Prop}
variable {p : Parse α}
variable {q : α → Parse β}
variable {next : β → List Sign → Prop}

theorem bind_eq_some_iff
    {s u : State}
    {b : β} :
    (p >>= q) s = some (b, u) ↔
      ∃ a t, p s = some (a, t) ∧ q a t = some (b, u) := by
  simp only [bind, StateT.bind, Option.bind_eq_some_iff,
    Prod.exists]

theorem Took.append
    {s t u : State}
    {signs more : List Sign}
    (hFirst : Took s t signs)
    (hSecond : Took t u more) :
    Took s u (signs ++ more) := by
  rcases hFirst with ⟨ls, hTaken, rfl⟩
  rcases hSecond with ⟨ms, hMore, rfl⟩
  exact ⟨ls ++ ms, hTaken.append hMore, List.map_append⟩

theorem took_nil
    {s t : State}
    (hSame : t.place = s.place) :
    Took s t [] := by
  refine ⟨[], ?_, rfl⟩
  rw [(Prod.mk.inj hSame).2]
  exact .nil _

------------------------------------------------------------
-- Readers That Take No Token
------------------------------------------------------------

namespace Still

theorem pure (a : α) : Still (Pure.pure a) := by
  intro s b t hRun
  cases hRun
  rfl

theorem bind
    (hFirst : Still p)
    (hSecond : ∀ a, Still (q a)) :
    Still (p >>= q) := by
  intro s b u hRun
  rcases bind_eq_some_iff.mp hRun with ⟨a, t, hP, hQ⟩
  rw [hSecond a t b u hQ, hFirst s a t hP]

theorem fail : Still (Parse.fail (α := α)) := by
  intro s b t hRun
  cases hRun

theorem get : Still MonadState.get := by
  intro s b t hRun
  cases hRun
  rfl

theorem modify
    {f : State → State}
    (hSame : ∀ s, (f s).place = s.place) :
    Still (modify f) := by
  intro s b t hRun
  cases hRun
  exact hSame s

theorem require (b : Bool) : Still (Parse.require b) := by
  unfold Parse.require
  split
  · exact pure ()
  · exact fail

theorem current : Still Parse.current :=
  get.bind fun _ => pure _

theorem token : Still Parse.token :=
  get.bind fun _ => pure _

theorem context : Still Parse.context :=
  get.bind fun _ => pure _

theorem isStrict : Still Parse.isStrict :=
  get.bind fun _ => pure _

theorem peek? : Still Parse.peek? :=
  get.bind fun _ => pure _

theorem newlineBefore : Still Parse.newlineBefore :=
  current.bind fun _ => pure _

theorem sourceFrom (start : List Char) :
    Still (Parse.sourceFrom start) :=
  get.bind fun _ => pure _

theorem isMark (m : String) : Still (Parse.isMark m) := by
  refine token.bind fun t => ?_
  split <;> exact pure _

theorem isWord (w : String) : Still (Parse.isWord w) := by
  refine token.bind fun t => ?_
  split <;> exact pure _

end Still

/-
  A question that takes no token, and what its answers mean
  where the place is as said.
-/
structure Tells
    (At : Place → Prop)
    (p : Parse α)
    (Told : α → Place → Prop) :
    Prop where
  still :
    ∀ s a t,
      At s.place → p s = some (a, t) → t.place = s.place
  told :
    ∀ s a t,
      At s.place → p s = some (a, t) → Told a s.place

namespace Tells

theorem pure
    {a : α}
    {Told : α → Place → Prop}
    (hTold : ∀ place, At place → Told a place) :
    Tells At (Pure.pure a) Told := by
  refine ⟨fun s b t _ => Still.pure a s b t, ?_⟩
  intro s b t hAt hRun
  cases hRun
  exact hTold s.place hAt

theorem bind
    {Told : α → Place → Prop}
    {Last : β → Place → Prop}
    (hFirst : Tells At p Told)
    (hSecond :
      ∀ a, Tells (fun place => At place ∧ Told a place) (q a)
        Last) :
    Tells At (p >>= q) Last := by
  have hBoth :
      ∀ s b u,
        At s.place → (p >>= q) s = some (b, u) →
          u.place = s.place ∧ Last b s.place := by
    intro s b u hAt hRun
    rcases bind_eq_some_iff.mp hRun with ⟨a, t, hP, hQ⟩
    have hSame := hFirst.still s a t hAt hP
    have hTold := hFirst.told s a t hAt hP
    rw [← hSame] at hAt hTold ⊢
    exact ⟨(hSecond a).still t b u ⟨hAt, hTold⟩ hQ,
      (hSecond a).told t b u ⟨hAt, hTold⟩ hQ⟩
  exact ⟨fun s b u hAt hRun => (hBoth s b u hAt hRun).1,
    fun s b u hAt hRun => (hBoth s b u hAt hRun).2⟩

theorem ofStill
    (hStill : Still p) :
    Tells At p fun _ _ => True :=
  ⟨fun s a t _ => hStill s a t, fun _ _ _ _ _ => trivial⟩

/- Wherever a question is asked. -/
theorem toStill
    (hTells : Tells anywhere p fun _ _ => True) :
    Still p :=
  fun s a t => hTells.still s a t trivial

theorem token :
    Tells At Parse.token fun t place => atToken t place := by
  refine ⟨fun s a t _ => Still.token s a t, ?_⟩
  intro s a t _ hRun
  cases hRun
  rfl

theorem get :
    Tells At MonadState.get fun s place => s.place = place := by
  refine ⟨fun s a t _ => Still.get s a t, ?_⟩
  intro s a t _ hRun
  cases hRun
  rfl

theorem set
    {u : State}
    (hSame : ∀ place, At place → u.place = place) :
    Tells At (MonadStateOf.set u) fun _ _ => True := by
  refine ⟨fun s a t hAt hRun => ?_, fun _ _ _ _ _ => trivial⟩
  cases hRun
  exact hSame s.place hAt

theorem fail
    {Told : α → Place → Prop} :
    Tells At Parse.fail Told :=
  ⟨fun _ _ _ _ => nofun, fun _ _ _ _ => nofun⟩

/- What it means that the current token is a mark. -/
theorem isMark (m : String) :
    Tells At (Parse.isMark m) fun b place =>
      b = true → atToken (.mark m) place := by
  refine token.bind fun t => ?_
  split
  · refine pure fun place hAt hTrue => ?_
    rw [← beq_iff_eq.mp hTrue]
    exact hAt.2
  · exact pure fun _ _ => nofun

theorem isWord (w : String) :
    Tells At (Parse.isWord w) fun b place =>
      b = true → atToken (.word w false) place := by
  refine token.bind fun t => ?_
  split
  · refine pure fun place hAt hTrue => ?_
    simp only [Bool.and_eq_true, beq_iff_eq,
      Bool.not_eq_true'] at hTrue
    rw [← hTrue.1, ← hTrue.2]
    exact hAt.2
  · exact pure fun _ _ => nofun

end Tells

------------------------------------------------------------
-- Rules
------------------------------------------------------------

namespace Reads

theorem of_known
    {next : α → List Sign → Prop}
    (hKnown : ∀ signs, known signs → known' signs)
    (hReads : Reads At known' p next) :
    Reads At known p next := by
  intro s a t signs hSynced hAt hSigns hRun
  exact hReads s a t signs hSynced hAt (hKnown signs hSigns) hRun

theorem anyAt
    {next : α → List Sign → Prop}
    (hReads : Reads anywhere known p next) :
    Reads At known p next := by
  intro s a t signs hSynced _ hSigns hRun
  exact hReads s a t signs hSynced trivial hSigns hRun

theorem weaken
    {first last : α → List Sign → Prop}
    (hReads : Reads At known p first)
    (hLast : ∀ a signs, first a signs → last a signs) :
    Reads At known p last := by
  intro s a t signs hSynced hAt hSigns hRun
  rcases hReads s a t signs hSynced hAt hSigns hRun with
    ⟨hBehind, more, hTook, hFirst⟩
  exact ⟨hBehind, more, hTook, hLast a _ hFirst⟩

theorem bind
    {middle : α → List Sign → Prop}
    (hFirst : Reads At known p middle)
    (hSecond : ∀ a, Reads anywhere (middle a) (q a) next) :
    Reads At known (p >>= q) next := by
  intro s b u signs hSynced hAt hSigns hRun
  rcases bind_eq_some_iff.mp hRun with ⟨a, t, hP, hQ⟩
  rcases hFirst s a t signs hSynced hAt hSigns hP with
    ⟨hMiddle, more, hTook, hKnown⟩
  rcases hSecond a t b u _ hMiddle trivial hKnown hQ with
    ⟨hBehind, others, hTookMore, hNext⟩
  refine ⟨hBehind, more ++ others, hTook.append hTookMore, ?_⟩
  rwa [← List.append_assoc]

/- A reader that takes no token leaves all as it is. -/
theorem still
    (hStill : Still p)
    (hSecond : ∀ a, Reads At known (q a) next) :
    Reads At known (p >>= q) next := by
  intro s b u signs hSynced hAt hSigns hRun
  rcases bind_eq_some_iff.mp hRun with ⟨a, t, hP, hQ⟩
  have hSame := hStill s a t hP
  rcases hSecond a t b u signs (hSynced.of_place hSame)
      (by rwa [hSame]) hSigns hQ with
    ⟨hBehind, more, hTook, hNext⟩
  exact ⟨hBehind, more, (took_nil hSame).append hTook, hNext⟩

theorem ofStill
    {next : α → List Sign → Prop}
    (hStill : Still p)
    (hNext : ∀ a signs, known signs → next a signs) :
    Reads At known p next := by
  intro s a t signs hSynced _ hSigns hRun
  have hSame := hStill s a t hRun
  refine ⟨hSynced.of_place hSame, [], took_nil hSame, ?_⟩
  rw [List.append_nil]
  exact hNext a signs hSigns

theorem fail
    {next : α → List Sign → Prop} :
    Reads At known Parse.fail next := by
  intro s a t signs _ _ _ hRun
  cases hRun

theorem require
    {b : Bool}
    {q : Unit → Parse β}
    (hRest : b = true → Reads At known (q ()) next) :
    Reads At known (Parse.require b >>= q) next := by
  cases b with
  | false =>
      intro s a t signs _ _ _ hRun
      cases hRun
  | true => exact hRest rfl

theorem pure
    {a : α}
    {next : α → List Sign → Prop}
    (hNext : ∀ signs, known signs → next a signs) :
    Reads At known (Pure.pure a) next := by
  intro s b t signs hSynced _ hSigns hRun
  cases hRun
  refine ⟨hSynced, [], took_nil rfl, ?_⟩
  rw [List.append_nil]
  exact hNext signs hSigns

/- What holds beside what is known. -/
theorem fact
    {c : Prop}
    {next : α → List Sign → Prop}
    (hReads : c → Reads At known p next) :
    Reads At (fun signs => c ∧ known signs) p next := by
  intro s a t signs hSynced hAt hSigns hRun
  exact hReads hSigns.1 s a t signs hSynced hAt hSigns.2 hRun

theorem factAt
    {c : Prop}
    {next : α → List Sign → Prop}
    (hReads : c → Reads At known p next) :
    Reads (fun place => At place ∧ c) known p next := by
  intro s a t signs hSynced hAt hSigns hRun
  exact hReads hAt.2 s a t signs hSynced hAt.1 hSigns hRun

theorem ite
    {c : Prop}
    [Decidable c]
    {p q : Parse β}
    (hYes : c → Reads At known p next)
    (hNo : ¬c → Reads At known q next) :
    Reads At known (if c then p else q) next := by
  split
  · next hTrue => exact hYes hTrue
  · next hFalse => exact hNo hFalse

theorem map
    {f : α → β}
    (hReads : Reads At known p fun a => next (f a)) :
    Reads At known (f <$> p) next := by
  rw [← bind_pure_comp]
  exact bind hReads fun a => pure fun _ => id

/- The same, where it does not matter which condition holds. -/
theorem either
    {c : Prop}
    [Decidable c]
    {p q : Parse β}
    (hYes : Reads At known p next)
    (hNo : Reads At known q next) :
    Reads At known (if c then p else q) next :=
  ite (fun _ => hYes) fun _ => hNo

/- A step that only notes something. -/
theorem modify
    {f : State → State}
    {q : PUnit → Parse β}
    (hSame : ∀ s, (f s).place = s.place)
    (hRest : Reads At known (q ⟨⟩) next) :
    Reads At known (modify f >>= q) next :=
  still (Still.modify hSame) fun _ => hRest

/- What is read off the state stays so until it is set. -/
theorem get
    {q : State → Parse β}
    (hRest :
      ∀ s,
        Reads (fun place => At place ∧ place = s.place) known
          (q s) next) :
    Reads At known (MonadState.get >>= q) next := by
  intro s b t signs hSynced hAt hSigns hRun
  rcases bind_eq_some_iff.mp hRun with ⟨a, u, hGet, hQ⟩
  cases hGet
  exact hRest s s b t signs hSynced ⟨hAt, rfl⟩ hSigns hQ

theorem set
    {u : State}
    {q : PUnit → Parse β}
    (hSame : ∀ place, At place → u.place = place)
    (hRest : Reads At known (q ⟨⟩) next) :
    Reads At known (MonadStateOf.set u >>= q) next := by
  intro s b t signs hSynced hAt hSigns hRun
  rcases bind_eq_some_iff.mp hRun with ⟨a, v, hSet, hQ⟩
  cases hSet
  have hPlace := hSame s.place hAt
  rcases hRest u b t signs (hSynced.of_place hPlace)
      (by rwa [hPlace]) hSigns hQ with
    ⟨hBehind, more, hTook, hNext⟩
  exact ⟨hBehind, more, (took_nil hPlace).append hTook, hNext⟩

theorem token
    {q : Token → Parse β}
    (hRest :
      ∀ t, t.IsBare → Reads (atToken t) known (q t) next) :
    Reads At known (Parse.token >>= q) next := by
  intro s b u signs hSynced _ hSigns hRun
  rcases bind_eq_some_iff.mp hRun with ⟨t, v, hToken, hQ⟩
  cases hToken
  exact hRest s.current.token hSynced.bareToken s b u signs
    hSynced rfl hSigns hQ

/- The token, when it does not matter where a text is bare. -/
theorem plainToken
    {q : Token → Parse β}
    (hRest : ∀ t, Reads (atToken t) known (q t) next) :
    Reads At known (Parse.token >>= q) next :=
  token fun t _ => hRest t

/- A token that is known already is that token. -/
theorem tokenAt
    {t : Token}
    {q : Token → Parse β}
    (hRest : Reads (atToken t) known (q t) next) :
    Reads (atToken t) known (Parse.token >>= q) next := by
  intro s b u signs hSynced hAt hSigns hRun
  rcases bind_eq_some_iff.mp hRun with ⟨a, v, hToken, hQ⟩
  cases hToken
  refine hRest s b u signs hSynced hAt hSigns ?_
  rw [← show s.current.token = t from hAt]
  exact hQ

theorem of_at
    {At' : Place → Prop}
    {next : α → List Sign → Prop}
    (hAt : ∀ place, At place → At' place)
    (hReads : Reads At' known p next) :
    Reads At known p next := by
  intro s a t signs hSynced hHere hSigns hRun
  exact hReads s a t signs hSynced (hAt _ hHere) hSigns hRun

/- The answer to a question is kept for later. -/
theorem ask
    {Told : α → Place → Prop}
    (hTells : Tells At p Told)
    (hRest :
      ∀ a,
        Reads (fun place => At place ∧ Told a place) known
          (q a) next) :
    Reads At known (p >>= q) next := by
  intro s b u signs hSynced hAt hSigns hRun
  rcases bind_eq_some_iff.mp hRun with ⟨a, v, hP, hQ⟩
  have hSame := hTells.still s a v hAt hP
  rcases hRest a v b u signs (hSynced.of_place hSame)
      (by rw [hSame]; exact ⟨hAt, hTells.told s a v hAt hP⟩)
      hSigns hQ with
    ⟨hBehind, more, hTook, hNext⟩
  exact ⟨hBehind, more, (took_nil hSame).append hTook, hNext⟩

/- One of two readers follows a question about the token. -/
theorem ifTold
    {t : Token}
    {question : Parse Bool}
    {p q : Parse β}
    (hTells :
      Tells At question fun b place =>
        b = true → atToken t place)
    (hYes : Reads (atToken t) known p next)
    (hNo : Reads At known q next) :
    Reads At known
      (question >>= fun b => if b = true then p else q)
      next := by
  refine ask hTells fun b => ite (fun hTrue => ?_) fun _ => ?_
  · exact of_at (fun _ hAt => hAt.2 hTrue) hYes
  · exact of_at (fun _ hAt => hAt.1) hNo

theorem isWord
    {w : String}
    {q : Bool → Parse β}
    (hRest :
      ∀ b,
        Reads
          (fun place =>
            At place ∧
              (b = true → atToken (.word w false) place))
          known (q b) next) :
    Reads At known (Parse.isWord w >>= q) next :=
  ask (Tells.isWord w) hRest

theorem ifMark
    {m : String}
    {p q : Parse β}
    (hYes : Reads (atToken (.mark m)) known p next)
    (hNo : Reads At known q next) :
    Reads At known
      (Parse.isMark m >>= fun b => if b = true then p else q)
      next :=
  ifTold (Tells.isMark m) hYes hNo

theorem ifWord
    {w : String}
    {p q : Parse β}
    (hYes : Reads (atToken (.word w false)) known p next)
    (hNo : Reads At known q next) :
    Reads At known
      (Parse.isWord w >>= fun b => if b = true then p else q)
      next :=
  ifTold (Tells.isWord w) hYes hNo

/- The current token is taken, and its sign with it. -/
theorem advance
    {t : Token}
    {q : Unit → Parse β}
    (hShifts : Shifts t.sign known known')
    (hRest : Reads anywhere known' (q ()) next) :
    Reads (atToken t) known (Parse.advance >>= q) next := by
  intro s b u signs hSynced hAt hSigns hRun
  rcases bind_eq_some_iff.mp hRun with ⟨a, v, hAdvance, hQ⟩
  rcases bind_eq_some_iff.mp hAdvance with ⟨s', v', hGet, hMore⟩
  cases hGet
  rcases hSynced.next with ⟨l, hNext, hEnd, hSign, -⟩
  have hSignIs : l.sign = t.sign := by
    rw [hSign]
    exact congrArg Token.sign hAt
  cases hHere : Lexeme.next? s.current.rest with
  | none =>
      rw [hHere] at hMore
      cases hMore
  | some after =>
      rw [hHere] at hMore
      cases hMore
      have hBare := Lexeme.bare_of_next? hSynced.bare hHere
      have hMoved :
          State.Synced
            { s with
              current := after
              afterLast := s.current.rest
              taken := s.taken + 1 } :=
        ⟨hBare.2, hBare.1, after, hHere, rfl, rfl, id⟩
      rcases hRest _ b u _ hMoved trivial
          (hShifts signs hSigns) hQ with
        ⟨hBehind, more, hTook, hKnown⟩
      refine ⟨hBehind, [t.sign] ++ more, Took.append ?_ hTook, ?_⟩
      · refine ⟨[l], .cons hNext ?_, ?_⟩
        · rw [hEnd]
          exact .nil _
        · rw [← hSignIs]
          rfl
      · rwa [← List.append_assoc]

/- A token of which nothing is known but its sign. -/
theorem advanceSign
    {sign : Sign}
    {q : Unit → Parse β}
    (hSign : ∀ place, At place → place.1.sign = sign)
    (hShifts : Shifts sign known known')
    (hRest : Reads anywhere known' (q ()) next) :
    Reads At known (Parse.advance >>= q) next := by
  intro s b u signs hSynced hAt hSigns hRun
  have hToken : s.current.token.sign = sign := hSign _ hAt
  refine advance (t := s.current.token) ?_ hRest s b u signs
    hSynced rfl hSigns hRun
  rwa [hToken]

/- A reader at the end of others. -/
theorem ofBind
    {next : α → List Sign → Prop}
    (hReads : Reads At known (p >>= Pure.pure) next) :
    Reads At known p next := by
  rwa [bind_pure] at hReads

theorem ifEat
    {m : String}
    {p q : Parse β}
    (hShifts : Shifts (Sign.ofMark m) known known')
    (hYes : Reads anywhere known' p next)
    (hNo : Reads At known q next) :
    Reads At known
      (Parse.eat m >>= fun b => if b = true then p else q)
      next := by
  have hEat :
      (Parse.eat m >>= fun b => if b = true then p else q) =
        Parse.isMark m >>= fun b =>
          if b = true then Parse.advance >>= fun _ => p
          else q := by
    unfold Parse.eat
    rw [bind_assoc]
    congr 1
    funext b
    cases b <;> simp
  rw [hEat]
  exact ifMark (advance hShifts hYes) hNo

theorem ifEatWord
    {w : String}
    {p q : Parse β}
    (hShifts : Shifts (Sign.ofWord w) known known')
    (hYes : Reads anywhere known' p next)
    (hNo : Reads At known q next) :
    Reads At known
      (Parse.eatWord w >>= fun b => if b = true then p else q)
      next := by
  have hEat :
      (Parse.eatWord w >>= fun b => if b = true then p else q) =
        Parse.isWord w >>= fun b =>
          if b = true then Parse.advance >>= fun _ => p
          else q := by
    unfold Parse.eatWord
    rw [bind_assoc]
    congr 1
    funext b
    cases b <;> simp
  rw [hEat]
  exact ifWord (advance hShifts hYes) hNo

theorem expect
    {m : String}
    {q : Unit → Parse β}
    (hShifts : Shifts (Sign.ofMark m) known known')
    (hRest : Reads anywhere known' (q ()) next) :
    Reads At known (Parse.expect m >>= q) next := by
  have hExpect :
      Parse.expect m >>= q =
        Parse.eat m >>= fun b =>
          if b = true then q () else Parse.fail := by
    unfold Parse.expect
    rw [bind_assoc]
    congr 1
    funext b
    cases b <;> rfl
  rw [hExpect]
  exact ifEat hShifts hRest fail

theorem expectWord
    {w : String}
    {q : Unit → Parse β}
    (hShifts : Shifts (Sign.ofWord w) known known')
    (hRest : Reads anywhere known' (q ()) next) :
    Reads At known (Parse.expectWord w >>= q) next := by
  have hExpect :
      Parse.expectWord w >>= q =
        Parse.eatWord w >>= fun b =>
          if b = true then q () else Parse.fail := by
    unfold Parse.expectWord
    rw [bind_assoc]
    congr 1
    funext b
    cases b <;> rfl
  rw [hExpect]
  exact ifEatWord hShifts hRest fail

/- A mark of no interest that may be there. -/
theorem eat
    {m : String}
    {q : Bool → Parse β}
    (hShifts : Shifts (Sign.ofMark m) known known)
    (hRest : ∀ b, Reads anywhere known (q b) next) :
    Reads At known (Parse.eat m >>= q) next := by
  refine bind (?_ : Reads At known _ fun _ => known) hRest
  refine ofBind ?_
  have hSplit :
      (Parse.eat m >>= Pure.pure : Parse Bool) =
        Parse.eat m >>= fun b =>
          if b = true then Pure.pure true
          else Pure.pure false := by
    congr 1
    funext b
    cases b <;> rfl
  rw [hSplit]
  exact ifEat hShifts (pure fun _ => id) (pure fun _ => id)

theorem eatWord
    {w : String}
    {q : Bool → Parse β}
    (hShifts : Shifts (Sign.ofWord w) known known)
    (hRest : ∀ b, Reads anywhere known (q b) next) :
    Reads At known (Parse.eatWord w >>= q) next := by
  refine bind (?_ : Reads At known _ fun _ => known) hRest
  refine ofBind ?_
  have hSplit :
      (Parse.eatWord w >>= Pure.pure : Parse Bool) =
        Parse.eatWord w >>= fun b =>
          if b = true then Pure.pure true
          else Pure.pure false := by
    congr 1
    funext b
    cases b <;> rfl
  rw [hSplit]
  exact ifEatWord hShifts (pure fun _ => id) (pure fun _ => id)

------------------------------------------------------------
-- Surroundings and Repetition
------------------------------------------------------------

theorem within
    {change : Context → Context}
    {next : α → List Sign → Prop}
    (hReads : Reads At known p next) :
    Reads At known (Parse.within change p) next := by
  refine still Still.get fun old => ?_
  refine modify (fun _ => rfl) ?_
  refine bind hReads fun a => ?_
  exact modify (fun _ => rfl) (pure fun _ => id)

theorem inScope
    {scope : Scope}
    {next : α → List Sign → Prop}
    (hReads : Reads At known p next) :
    Reads At known (Parse.inScope scope p) next := by
  refine modify (fun _ => rfl) ?_
  refine bind hReads fun a => ?_
  exact modify (fun _ => rfl) (pure fun _ => id)

theorem settled
    {next : α → List Sign → Prop}
    (hReads : Reads At known p next) :
    Reads At known (Parse.settled p) next := by
  refine get fun s => ?_
  refine set (fun place hAt => hAt.2.symm) ?_
  have hHere :
      Reads (fun place => At place ∧ place = s.place) known p
        next := by
    intro t a u signs hSynced hAt hSigns hRun
    exact hReads t a u signs hSynced hAt.1 hSigns hRun
  refine bind hHere fun a => ?_
  refine still Still.get fun _ => require fun _ => ?_
  exact modify (fun _ => rfl) (pure fun _ => id)

/-
  What is known before each step of a repetition is known
  after it, or what is to be known at the end.
-/
theorem loop
    {step : α → Parse (α ⊕ β)}
    {a : α}
    (known : α → List Sign → Prop)
    (hStep :
      ∀ a, Reads anywhere (known a) (step a)
        (Sum.elim known next)) :
    Reads At (known a) (Parse.loop step a) next := by
  have hIterate :
      ∀ fuel a,
        Reads anywhere (known a) (Parse.iterate step fuel a)
          next := by
    intro fuel
    induction fuel with
    | zero => exact fun _ => fail
    | succ fuel ih =>
        intro a
        refine bind (hStep a) fun r => ?_
        cases r with
        | inl a => exact ih a
        | inr b => exact pure fun _ => id
  exact still Still.current fun _ => anyAt (hIterate _ a)

end Reads

end Rules

------------------------------------------------------------
-- Trees That Were Read
------------------------------------------------------------

/-
  After signs of which something is known, signs from which
  trees were read, the last ones first.
-/
def After
    (known : List Sign → Prop)
    (labels : Nat)
    (ts : List Tree) :
    List Sign → Prop :=
  fun signs =>
    ∃ old new,
      signs = old ++ new ∧ known old ∧ Depicts labels ts new

/- Signs of which something is known, and one more. -/
def Behind
    (sign : Sign)
    (known : List Sign → Prop) :
    List Sign → Prop :=
  fun signs => ∃ old, signs = old ++ [sign] ∧ known old

/- Behind an opening bracket. -/
abbrev Opened
    (k : Bracket)
    (known : List Sign → Prop) :
    List Sign → Prop :=
  Behind (.opening k) known

/- Trees that stand in brackets. -/
def Enclosed
    (k : Bracket)
    (known : List Sign → Prop)
    (labels : Nat)
    (ts : List Tree) :
    List Sign → Prop :=
  fun signs =>
    ∃ old inner,
      signs = old ++ (.opening k :: inner ++ [.closing k]) ∧
        known old ∧ Depicts labels ts inner

variable {known : List Sign → Prop}
variable {labels : Nat}
variable {ts us : List Tree}

theorem After.covers
    {signs : List Sign}
    (hCovers : Covers ts us)
    (hSigns : After known labels ts signs) :
    After known labels us signs := by
  rcases hSigns with ⟨old, new, rfl, hOld, hNew⟩
  exact ⟨old, new, rfl, hOld, hNew.covers hCovers⟩

theorem After.append
    {signs more : List Sign}
    (hSigns : After known labels ts signs)
    (hMore : Depicts 0 us more) :
    After known labels (us ++ ts) (signs ++ more) := by
  rcases hSigns with ⟨old, new, rfl, hOld, hNew⟩
  exact ⟨old, new ++ more, List.append_assoc _ _ _, hOld,
    hNew.append hMore⟩

/- Trees in brackets join those before the brackets. -/
theorem Enclosed.after
    {k : Bracket}
    {signs : List Sign}
    (hSigns : Enclosed k (After known labels us) 0 ts signs) :
    After known labels (ts ++ us) signs := by
  rcases hSigns with ⟨old, inner, rfl, hOld, hInner⟩
  exact hOld.append (hInner.enclosed k)

/- The brackets of a switch statement, with its word. -/
theorem Enclosed.switch
    {e : Tree}
    {cs : List Tree}
    {signs : List Sign}
    (hSigns :
      Enclosed .curly
        (Enclosed .round
          (Behind .switchWord (After known labels ts)) 0 [e])
        cs.length cs signs) :
    After known labels (.switch e cs :: ts) signs := by
  rcases hSigns with ⟨_, cases, rfl,
    ⟨_, subject, rfl, ⟨old, rfl, hOld⟩, hSubject⟩, hCases⟩
  have hWhole := hOld.append (hSubject.switch hCases)
  simpa using hWhole

namespace Shifts

variable {sign : Sign}

theorem depicts
    (hSign : Depicts 0 us [sign]) :
    Shifts sign (After known labels ts)
      (After known labels (us ++ ts)) :=
  fun _ hSigns => hSigns.append hSign

theorem other
    (hSign : sign = .other) :
    Shifts sign (After known labels ts)
      (After known labels ts) := by
  subst hSign
  exact depicts .other

theorem label
    (hSign : sign = .label) :
    Shifts sign (After known labels ts)
      (After known (labels + 1) ts) := by
  subst hSign
  rintro signs ⟨old, new, rfl, hOld, hNew⟩
  have hMore : Depicts (labels + 1) ts (new ++ [.label]) :=
    hNew.append .label
  exact ⟨old, new ++ [.label], List.append_assoc _ _ _, hOld,
    hMore⟩

theorem behind
    {known : List Sign → Prop}
    {last : Sign}
    (hSign : sign = last) :
    Shifts sign known (Behind last known) := by
  subst hSign
  exact fun signs hKnown => ⟨signs, rfl, hKnown⟩

theorem opening
    {known : List Sign → Prop}
    {k : Bracket}
    (hSign : sign = .opening k) :
    Shifts sign known (After (Opened k known) 0 []) :=
  fun signs hKnown =>
    ⟨signs ++ [sign], [], (List.append_nil _).symm,
      behind hSign signs hKnown, .nil⟩

theorem enclosing
    {known : List Sign → Prop}
    {k : Bracket}
    (hSign : sign = .closing k) :
    Shifts sign (After (Opened k known) labels ts)
      (Enclosed k known labels ts) := by
  subst hSign
  rintro signs ⟨_, inner, rfl, ⟨old, rfl, hOld⟩, hInner⟩
  exact ⟨old, inner, by simp, hOld, hInner⟩

theorem closing
    {k : Bracket}
    (hSign : sign = .closing k) :
    Shifts sign (After (Opened k (After known labels us)) 0 ts)
      (After known labels (ts ++ us)) :=
  fun signs hSigns => (enclosing hSign signs hSigns).after

end Shifts

/- A single tree as the trees of a reader. -/
def one (t : Tree) : List Tree := [t]

/-
  A reader of trees, some of which were read before it and
  become part of its own.
-/
def Turns
    (At : Place → Prop)
    (given : List Tree)
    (p : Parse α)
    (trees : α → List Tree) :
    Prop :=
  ∀ known labels ts,
    Reads At (After known labels (given ++ ts)) p fun a =>
      After known labels (trees a ++ ts)

/- A reader that reads the trees that it gives. -/
abbrev Draws (p : Parse α) (trees : α → List Tree) : Prop :=
  Turns anywhere [] p trees

/- A question whose answer is made of what was read before. -/
theorem Tells.turns
    {given : List Tree}
    {p : Parse α}
    {trees : α → List Tree}
    (hTells :
      Tells anywhere p fun a _ => Covers given (trees a)) :
    Turns anywhere given p trees := by
  intro known labels ts
  refine Reads.ofBind (Reads.ask hTells fun a => ?_)
  refine Reads.factAt fun hCovers => Reads.pure fun _ => ?_
  exact After.covers (hCovers.append_right ts)

/-
  A reader that gives the trees up to a closing bracket, which
  it takes.
-/
def Closes
    (k : Bracket)
    (p : Parse α)
    (trees : α → List Tree) :
    Prop :=
  ∀ known labels ts,
    Reads anywhere (After (Opened k (After known labels ts)) 0 [])
      p fun a => After known labels (trees a ++ ts)

namespace Reads

variable {α β : Type}
variable {At : Place → Prop}
variable {known : List Sign → Prop}
variable {labels : Nat}
variable {ts us : List Tree}

theorem of_covers
    {p : Parse α}
    {next : α → List Sign → Prop}
    (hCovers : Covers ts us)
    (hReads : Reads At (After known labels us) p next) :
    Reads At (After known labels ts) p next := by
  exact of_known (fun _ => After.covers hCovers) hReads

/- The trees of a reader join those before it. -/
theorem draws
    {p : Parse α}
    {q : α → Parse β}
    {trees : α → List Tree}
    {next : β → List Sign → Prop}
    (hFirst : Draws p trees)
    (hRest :
      ∀ a,
        Reads anywhere (After known labels (trees a ++ ts))
          (q a) next) :
    Reads At (After known labels ts) (p >>= q) next :=
  bind (anyAt (hFirst known labels ts)) hRest

/- The trees of a reader replace some of those before it. -/
theorem turns
    {given : List Tree}
    {p : Parse α}
    {q : α → Parse β}
    {trees : α → List Tree}
    {next : β → List Sign → Prop}
    (hFirst : Turns At given p trees)
    (hCovers : Covers us (given ++ ts))
    (hRest :
      ∀ a,
        Reads anywhere (After known labels (trees a ++ ts))
          (q a) next) :
    Reads At (After known labels us) (p >>= q) next :=
  of_covers hCovers (bind (hFirst known labels ts) hRest)

theorem give
    {a : α}
    {trees : α → List Tree}
    (hCovers : Covers ts (trees a)) :
    Reads At (After known labels ts) (Pure.pure a) fun a =>
      After known labels (trees a) :=
  pure fun _ => After.covers hCovers

/- Nothing is read where a part may be left out. -/
theorem pure_draws (a : α) :
    Draws (Pure.pure a) fun _ => [] :=
  fun _ _ _ => give (Covers.refl _)

theorem absent_draws :
    Draws (Pure.pure Tree.absent) one :=
  fun _ _ ts => give (Covers.leaf .absent ts)

/- What is made of a result that is no tree is none either. -/
theorem map_draws
    {p : Parse α}
    (hReads : Draws p fun _ => [])
    (f : α → β) :
    Draws (f <$> p) fun _ => [] :=
  fun known labels ts => map (hReads known labels ts)

/- One more step of a repetition. -/
theorem goOn
    {a : α}
    {trees : α → List Tree}
    {next : β → List Sign → Prop}
    (hCovers : Covers ts (trees a)) :
    Reads At (After known labels ts) (Pure.pure (.inl a))
      (Sum.elim (fun a => After known labels (trees a)) next) :=
  pure fun _ => After.covers hCovers

/- The end of a repetition. -/
theorem stop
    {b : β}
    {trees : β → List Tree}
    {before : α → List Sign → Prop}
    (hCovers : Covers ts (trees b)) :
    Reads At (After known labels ts) (Pure.pure (.inr b))
      (Sum.elim before fun b => After known labels (trees b)) :=
  pure fun _ => After.covers hCovers

end Reads

end Script

end Devirt
