import Devirt.Realm.Call

/-
  What computations give, and what they read again and again.

  A computation may be broken off, and it may ask its
  surroundings, after which the world can be any.  What is said
  of it here is said of the worlds in which it gives a value.
  While code runs, the world may get more objects and
  variables.  What is read of those that were there before
  stays the same, and some conversions of values read nothing
  else.

  Main declarations:
    * `Run.Gives`, `Run.Reads`, `Run.Gives.bind`
    * `World.Grows`, `Steady`, `Steady.bind`
    * `Has`, `Lacks`, `IsNative`
    * `TextOf`, `NumberOf`, `textOf_primitive`
    * `Received`, `received_text`
-/

------------------------------------------------------------
-- Steps
------------------------------------------------------------

namespace Devirt

namespace Realm

variable {α β : Type}

namespace Step

/- If a step gives a value, it does so as is said. -/
def Ends (Q : α → World → Prop) : Step α → Prop
  | .ok a w => Q a w
  | .error _ _ => True
  | .ask _ _ rest => ∀ s w, (rest s w).Ends Q

variable {Q : α → World → Prop}
variable {R : β → World → Prop}

theorem Ends.mono
    {s : Step α}
    {Q' : α → World → Prop}
    (hEnds : s.Ends Q)
    (hWeaker : ∀ a w, Q a w → Q' a w) :
    s.Ends Q' := by
  induction s with
  | ok a w => exact hWeaker a w hEnds
  | error e w => trivial
  | ask r w rest ih => exact fun t w' => ih t w' (hEnds t w')

theorem ends_any
    (s : Step α) :
    s.Ends fun _ _ => True := by
  induction s with
  | ok a w => trivial
  | error e w => trivial
  | ask r w rest ih => exact fun t w' => ih t w'

theorem Ends.bind
    {s : Step α}
    {f : α → World → Step β}
    (hEnds : s.Ends Q)
    (hNext : ∀ a w, Q a w → (f a w).Ends R) :
    (s.bind f).Ends R := by
  induction s with
  | ok a w => exact hNext a w hEnds
  | error e w => trivial
  | ask r w rest ih => exact fun t w' => ih t w' (hEnds t w')

theorem bind_assoc
    {γ : Type}
    (s : Step α)
    (f : α → World → Step β)
    (g : β → World → Step γ) :
    (s.bind f).bind g = s.bind fun a w => (f a w).bind g := by
  induction s with
  | ok a w => rfl
  | error e w => rfl
  | ask r w rest ih =>
      simp only [Step.bind]
      congr 1
      funext t w'
      exact ih t w'

theorem bind_ok
    (s : Step α) :
    s.bind Step.ok = s := by
  induction s with
  | ok a w => rfl
  | error e w => rfl
  | ask r w rest ih =>
      simp only [Step.bind]
      congr 1
      funext t w'
      exact ih t w'

/- What breaks a step off says nothing of its value. -/
theorem Ends.outcome
    {s : Step α}
    (hEnds : s.Ends Q) :
    s.outcome.Ends fun r w => ∀ a, r = .ok a → Q a w := by
  induction s with
  | ok a w =>
      rintro b ⟨⟩
      exact hEnds
  | error e w =>
      rintro b ⟨⟩
  | ask r w rest ih => exact fun t w' => ih t w' (hEnds t w')

end Step

------------------------------------------------------------
-- Computations
------------------------------------------------------------

namespace Run

/- If a computation gives a value, it does so as is said. -/
def Gives (p : Run α) (w : World) (Q : α → World → Prop) : Prop :=
  (p w).Ends Q

/- A computation gives just one value, and changes nothing. -/
def Reads (p : Run α) (w : World) (a : α) : Prop :=
  p.Gives w fun b w' => b = a ∧ w' = w

variable {p : Run α}
variable {f : α → Run β}
variable {w : World}
variable {a : α}
variable {Q : α → World → Prop}
variable {R : β → World → Prop}

theorem Gives.mono
    {Q' : α → World → Prop}
    (hGives : p.Gives w Q)
    (hWeaker : ∀ a w', Q a w' → Q' a w') :
    p.Gives w Q' :=
  Step.Ends.mono hGives hWeaker

theorem gives_any
    (p : Run α)
    (w : World) :
    p.Gives w fun _ _ => True :=
  Step.ends_any (p w)

theorem gives_throw
    (e : Abrupt) :
    (throw e : Run α).Gives w Q :=
  trivial

theorem gives_set
    (w' : World)
    (w : World) :
    (set w' : Run PUnit).Gives w fun _ w'' => w'' = w' :=
  rfl

theorem gives_modify
    (g : World → World)
    (w : World) :
    (modify g : Run PUnit).Gives w fun _ w' => w' = g w :=
  rfl

theorem bind_apply
    (p : Run α)
    (f : α → Run β)
    (w : World) :
    (p >>= f) w = (p w).bind f := by
  change Run.bind p f w = _
  unfold Run.bind
  cases p w <;> rfl

theorem bind_bind
    {γ : Type}
    (p : Run α)
    (f : α → Run β)
    (g : β → Run γ) :
    p >>= f >>= g = p >>= fun a => f a >>= g := by
  funext w
  calc
    (p >>= f >>= g) w = ((p w).bind f).bind g := by
      rw [bind_apply, bind_apply]
    _ = (p w).bind fun a w' => (f a w').bind g :=
      Step.bind_assoc (p w) f g
    _ = (p w).bind fun a => f a >>= g :=
      congrArg (Step.bind (p w))
        (funext fun a => funext fun w' => (bind_apply (f a) g w').symm)
    _ = (p >>= fun a => f a >>= g) w := (bind_apply _ _ w).symm

instance : LawfulMonad Run :=
  LawfulMonad.mk' Run
    (fun p => funext fun w =>
      (bind_apply p Pure.pure w).trans (Step.bind_ok (p w)))
    (fun _ _ => rfl)
    (fun p f g => bind_bind p f g)

theorem Gives.bind
    (hGives : p.Gives w Q)
    (hNext : ∀ a w', Q a w' → (f a).Gives w' R) :
    (p >>= f).Gives w R := by
  unfold Gives
  rw [bind_apply]
  exact Step.Ends.bind hGives hNext

theorem Reads.bind
    (hReads : p.Reads w a)
    (hNext : (f a).Gives w R) :
    (p >>= f).Gives w R := by
  refine Gives.bind hReads ?_
  rintro _ _ ⟨rfl, rfl⟩
  exact hNext

theorem reads_pure
    (a : α)
    (w : World) :
    (pure a : Run α).Reads w a :=
  ⟨rfl, rfl⟩

theorem reads_get
    (w : World) :
    (get : Run World).Reads w w :=
  ⟨rfl, rfl⟩

theorem Gives.outcome
    (hGives : p.Gives w Q) :
    (outcome p).Gives w fun r w' => ∀ a, r = .ok a → Q a w' :=
  Step.Ends.outcome hGives

/- What is never given is followed by nothing. -/
theorem Gives.never
    (hGives : p.Gives w fun _ _ => False) :
    (p >>= f).Gives w R :=
  hGives.bind fun _ _ hNever => hNever.elim

end Run

open Run

theorem gives_throwValue
    {w : World}
    {Q : α → World → Prop}
    (v : Value) :
    (throwValue v : Run α).Gives w Q :=
  gives_throw (.thrown v)

theorem gives_raiseError
    {w : World}
    {Q : α → World → Prop}
    (k : ErrorKind)
    (message : String) :
    (raiseError k message : Run α).Gives w Q :=
  (gives_any _ w).bind fun _ _ _ => gives_throwValue _

theorem gives_resume
    {w : World}
    {Q : α → World → Prop}
    {r : Except Abrupt α}
    (hValue : ∀ a, r = .ok a → Q a w) :
    (resume r).Gives w Q := by
  cases r with
  | ok a => exact hValue a rfl
  | error e => trivial

------------------------------------------------------------
-- Calls
------------------------------------------------------------

theorem reads_checkDepth
    (w : World) :
    checkDepth.Reads w () := by
  refine (reads_get w).bind ?_
  split
  · exact gives_throw _
  · exact reads_pure () _

/- The depth and the rounds are what they were before a call. -/
theorem gives_inCall
    {p : Run α}
    {w : World}
    {Q : α → Prop}
    (hGives :
      p.Gives { w with depth := w.depth + 1, rounds := 0 }
        fun a _ => Q a) :
    (inCall p).Gives w fun a _ => Q a := by
  refine (reads_get w).bind ?_
  refine (gives_set _ w).bind ?_
  rintro _ _ rfl
  refine hGives.outcome.bind fun r w' hValue => ?_
  exact (gives_any _ w').bind fun _ _ _ => gives_resume hValue

end Realm

end Devirt

------------------------------------------------------------
-- Growth
------------------------------------------------------------

namespace Devirt

namespace Realm

/- What is there stays as it is, but there may be more. -/
structure World.Grows (w w' : World) : Prop where
  objects :
    ∀ (r : Ref) (o : Object),
      w.objects[r]? = some o → w'.objects[r]? = some o
  cells :
    ∀ (n : Nat) (c : Cell),
      w.cells[n]? = some c → w'.cells[n]? = some c
  symbols : w'.symbols = w.symbols
  lexicals : w'.lexicals = w.lexicals
  converting : w'.converting = w.converting

namespace World.Grows

variable {w w' w'' : World}

theorem refl
    (w : World) :
    w.Grows w :=
  ⟨fun _ _ hObject => hObject, fun _ _ hCell => hCell, rfl, rfl, rfl⟩

theorem trans
    (hFirst : w.Grows w')
    (hSecond : w'.Grows w'') :
    w.Grows w'' where
  objects := fun r o hObject =>
    hSecond.objects r o (hFirst.objects r o hObject)
  cells := fun n c hCell =>
    hSecond.cells n c (hFirst.cells n c hCell)
  symbols := hSecond.symbols.trans hFirst.symbols
  lexicals := hSecond.lexicals.trans hFirst.lexicals
  converting := hSecond.converting.trans hFirst.converting

/- A new object stands behind those that are there. -/
theorem push
    (w : World)
    (o : Object) :
    w.Grows { w with objects := w.objects.push o } where
  objects := by
    intro r p hObject
    have hOld := (Array.getElem?_eq_some_iff.mp hObject).1
    rw [Array.getElem?_push_lt hOld,
      ← Array.getElem?_eq_getElem hOld]
    exact hObject
  cells := fun _ _ hCell => hCell
  symbols := rfl
  lexicals := rfl
  converting := rfl

/- What is counted is not among what is there. -/
theorem counting
    (hGrows : w.Grows w')
    (depth rounds : Nat) :
    w.Grows { w' with depth, rounds } :=
  ⟨hGrows.objects, hGrows.cells, hGrows.symbols, hGrows.lexicals,
    hGrows.converting⟩

theorem size_le
    (hGrows : w.Grows w') :
    w.objects.size ≤ w'.objects.size := by
  rcases Nat.lt_or_ge w'.objects.size w.objects.size with
    hLess | hLeast
  · have hThere :=
      hGrows.objects _ _ (Array.getElem?_eq_getElem hLess)
    rw [Array.getElem?_eq_none (Nat.le_refl _)] at hThere
    cases hThere
  · exact hLeast

end World.Grows

------------------------------------------------------------
-- Steady Computations
------------------------------------------------------------

variable {α β : Type}
variable {w w' : World}

/- A computation gives just one value, and leaves all that is there. -/
def Run.Yields (p : Run α) (w : World) (a : α) : Prop :=
  p.Gives w fun b w' => b = a ∧ w.Grows w'

section Yields

variable {p : Run α}
variable {f : α → Run β}
variable {a : α}
variable {b : β}

theorem Run.Reads.yields
    (hReads : p.Reads w a) :
    p.Yields w a := by
  refine hReads.mono ?_
  rintro _ _ ⟨rfl, rfl⟩
  exact ⟨rfl, .refl _⟩

/- What follows on a value begins in a larger world. -/
theorem Run.Yields.gives
    {R : β → World → Prop}
    (hYields : p.Yields w a)
    (hNext : ∀ w', w.Grows w' → (f a).Gives w' R) :
    (p >>= f).Gives w R := by
  refine Run.Gives.bind hYields ?_
  rintro _ w' ⟨rfl, hGrows⟩
  exact hNext w' hGrows

theorem Run.Yields.bind
    (hYields : p.Yields w a)
    (hNext : ∀ w', w.Grows w' → (f a).Yields w' b) :
    (p >>= f).Yields w b := by
  refine hYields.gives fun w' hGrows => ?_
  refine (hNext w' hGrows).mono ?_
  rintro _ w'' ⟨rfl, hMore⟩
  exact ⟨rfl, hGrows.trans hMore⟩

end Yields

/- A computation yields the same whenever it is run from now on. -/
def Steady (w : World) (p : Machine → Run α) (a : α) : Prop :=
  ∀ w', w.Grows w' → ∀ n, (p (Machine.within n)).Yields w' a

namespace Steady

variable {p : Machine → Run α}
variable {f : Machine → α → Run β}
variable {a : α}
variable {b : β}

theorem yields
    (hSteady : Steady w p a)
    (n : Nat) :
    (p (Machine.within n)).Yields w a :=
  hSteady w (.refl w) n

theorem later
    (hSteady : Steady w p a)
    (hGrows : w.Grows w') :
    Steady w' p a :=
  fun w'' hMore n => hSteady w'' (hGrows.trans hMore) n

theorem of_reads
    (hReads :
      ∀ w', w.Grows w' → ∀ n, (p (Machine.within n)).Reads w' a) :
    Steady w p a :=
  fun w' hGrows n => (hReads w' hGrows n).yields

theorem pure
    (a : α) :
    Steady w (fun _ => Pure.pure a) a :=
  of_reads fun w' _ _ => Run.reads_pure a w'

theorem bind
    (hFirst : Steady w p a)
    (hNext : Steady w (fun m => f m a) b) :
    Steady w (fun m => p m >>= f m) b :=
  fun w' hGrows n =>
    (hFirst w' hGrows n).bind fun w'' hMore =>
      hNext w'' (hGrows.trans hMore) n

theorem raiseError
    (k : ErrorKind)
    (message : String) :
    Steady w (fun _ => Realm.raiseError k message) a :=
  fun _ _ _ => gives_raiseError _ _

end Steady

------------------------------------------------------------
-- Objects and Variables
------------------------------------------------------------

section Objects

variable {r : Ref}
variable {o : Object}
variable {k : Key}
variable {p : Property}

theorem reads_getObject
    (hObject : w.objects[r]? = some o) :
    (getObject r).Reads w o := by
  refine (Run.reads_get w).bind ?_
  rw [Array.getD_eq_getD_getElem?, hObject]
  exact Run.reads_pure o _

theorem reads_getCell
    {n : Nat}
    {c : Cell}
    (hCell : w.cells[n]? = some c) :
    (getCell n).Reads w c := by
  refine (Run.reads_get w).bind ?_
  rw [Array.getD_eq_getD_getElem?, hCell]
  exact Run.reads_pure c _

theorem reads_lookup
    (r : Ref)
    (k : Key)
    (w : World) :
    (lookup r k).Reads w (lookupIn w.objects k w.objects.size r) := by
  refine (Run.reads_get w).bind ?_
  exact Run.reads_pure _ _

/- A member that is found is found in a larger world. -/
theorem lookupIn_grows
    (hGrows : w.Grows w')
    {fuel more : Nat}
    (hFuel : fuel ≤ more)
    (hFound : lookupIn w.objects k fuel r = some p) :
    lookupIn w'.objects k more r = some p := by
  induction fuel generalizing more r with
  | zero => cases hFound
  | succ fuel ih =>
      obtain ⟨more, rfl⟩ : ∃ n, more = n + 1 :=
        ⟨more - 1, by omega⟩
      unfold lookupIn at hFound ⊢
      cases hObject : w.objects[r]? with
      | none => simp only [hObject, reduceCtorEq] at hFound
      | some o =>
          rw [hGrows.objects r o hObject]
          simp only [hObject] at hFound ⊢
          cases hOwn : o.own? k with
          | some q =>
              simp only [hOwn] at hFound ⊢
              exact hFound
          | none =>
              simp only [hOwn] at hFound ⊢
              cases hProto : o.proto with
              | none => simp only [hProto, reduceCtorEq] at hFound
              | some parent =>
                  simp only [hProto] at hFound ⊢
                  exact ih (by omega) hFound

/- An object has a member, itself or from those behind it. -/
def Has (w : World) (r : Ref) (k : Key) (v : Value) : Prop :=
  ∃ p b, lookupIn w.objects k w.objects.size r = some p ∧
    p.slot = .data v b

/- Neither an object nor those behind it have a member. -/
inductive Lacks (w : World) (k : Key) : Ref → Prop where
  | last
      {r : Ref}
      {o : Object}
      (hObject : w.objects[r]? = some o)
      (hOwn : o.own? k = none)
      (hProto : o.proto = none) :
      Lacks w k r
  | behind
      {r parent : Ref}
      {o : Object}
      (hObject : w.objects[r]? = some o)
      (hOwn : o.own? k = none)
      (hProto : o.proto = some parent)
      (hParent : Lacks w k parent) :
      Lacks w k r

theorem Has.later
    {v : Value}
    (hHas : Has w r k v)
    (hGrows : w.Grows w') :
    Has w' r k v := by
  rcases hHas with ⟨p, b, hFound, hSlot⟩
  exact
    ⟨p, b, lookupIn_grows hGrows hGrows.size_le hFound, hSlot⟩

theorem Lacks.later
    (hLacks : Lacks w k r)
    (hGrows : w.Grows w') :
    Lacks w' k r := by
  induction hLacks with
  | last hObject hOwn hProto =>
      exact .last (hGrows.objects _ _ hObject) hOwn hProto
  | behind hObject hOwn hProto _ ih =>
      exact .behind (hGrows.objects _ _ hObject) hOwn hProto ih

theorem Lacks.lookupIn_eq
    (hLacks : Lacks w k r)
    (fuel : Nat) :
    lookupIn w.objects k fuel r = none := by
  induction hLacks generalizing fuel with
  | last hObject hOwn hProto =>
      cases fuel <;>
        simp only [lookupIn, hObject, hOwn, hProto]
  | behind hObject hOwn hProto _ ih =>
      cases fuel with
      | zero => rfl
      | succ fuel =>
          simp only [lookupIn, hObject, hOwn, hProto]
          exact ih fuel

theorem Has.reads
    {v : Value}
    (hHas : Has w r k v)
    (m : Machine) :
    (getFrom m r k).Reads w v := by
  rcases hHas with ⟨⟨slot, e, c⟩, b, hFound, rfl⟩
  refine (reads_lookup r k w).bind ?_
  rw [hFound]
  exact Run.reads_pure v w

theorem Lacks.reads
    (hLacks : Lacks w k r)
    (m : Machine) :
    (getFrom m r k).Reads w .undefined := by
  refine (reads_lookup r k w).bind ?_
  rw [hLacks.lookupIn_eq]
  exact Run.reads_pure Value.undefined w

theorem Has.steady
    {v : Value}
    (hHas : Has w r k v) :
    Steady w (fun m => getFrom m r k) v :=
  .of_reads fun _ hGrows n =>
    (hHas.later hGrows).reads (Machine.within n)

end Objects

------------------------------------------------------------
-- Functions of the Library
------------------------------------------------------------

/- An object is a function of the library. -/
def IsNative (w : World) (r : Ref) (f : Native) : Prop :=
  ∃ o, w.objects[r]? = some o ∧ o.kind = .native f

section Natives

variable {r : Ref}
variable {f : Native}
variable {this v : Value}
variable {arguments : List Value}

theorem IsNative.later
    (hNative : IsNative w r f)
    (hGrows : w.Grows w') :
    IsNative w' r f := by
  rcases hNative with ⟨o, hObject, hKind⟩
  exact ⟨o, hGrows.objects r o hObject, hKind⟩

theorem IsNative.reads_isCallable
    (hNative : IsNative w r f) :
    (isCallable (.object r)).Reads w true := by
  rcases hNative with ⟨o, hObject, hKind⟩
  refine (reads_getObject hObject).bind ?_
  simp only [Object.isCallable, hKind]
  exact Run.reads_pure true w

theorem IsNative.gives
    {m : Machine}
    {Q : Value → World → Prop}
    (hNative : IsNative w r f)
    (hCall : (callNative m f this arguments).Gives w Q) :
    (callValue m (.object r) this arguments).Gives w Q := by
  rcases hNative with ⟨o, hObject, hKind⟩
  refine (reads_getObject hObject).bind ?_
  simp only [hKind]
  exact (reads_checkDepth w).bind hCall

theorem IsNative.steady
    (hNative : IsNative w r f)
    (hCall : Steady w (fun m => callNative m f this arguments) v) :
    Steady w (fun m => callValue m (.object r) this arguments) v :=
  fun w' hGrows n =>
    (hNative.later hGrows).gives (hCall w' hGrows n)

/- What is called by the evaluator is called one level down. -/
theorem steady_call
    {g : Value}
    (hCall : Steady w (fun m => callValue m g this arguments) v) :
    Steady w (fun m => m.call g this arguments) v := by
  intro w' hGrows n
  cases n with
  | zero => exact Run.gives_throw _
  | succ n => exact hCall w' hGrows n

end Natives

------------------------------------------------------------
-- Texts and Numbers
------------------------------------------------------------

/- A value is always converted to the same text. -/
structure TextOf (w : World) (v : Value) (s : Units) : Prop where
  units : Steady w (fun m => toUnits m v) s
  made : Steady w (fun m => makeText m none [v]) (.string s)

/- A value is always converted to the same number. -/
structure NumberOf (w : World) (v : Value) (x : Float) : Prop where
  number : Steady w (fun m => toNumber m v) x
  made :
    Steady w (fun m => Library.convertToNumber m v) x

theorem TextOf.later
    {v : Value}
    {s : Units}
    (hText : TextOf w v s)
    (hGrows : w.Grows w') :
    TextOf w' v s :=
  ⟨hText.units.later hGrows, hText.made.later hGrows⟩

theorem NumberOf.later
    {v : Value}
    {x : Float}
    (hNumber : NumberOf w v x)
    (hGrows : w.Grows w') :
    NumberOf w' v x :=
  ⟨hNumber.number.later hGrows, hNumber.made.later hGrows⟩

theorem textOf_string
    (w : World)
    (s : Units) :
    TextOf w (.string s) s :=
  ⟨.of_reads fun _ _ _ => ⟨rfl, rfl⟩,
    .of_reads fun _ _ _ => ⟨rfl, rfl⟩⟩

theorem numberOf_number
    (w : World)
    (x : Float) :
    NumberOf w (.number x) x :=
  ⟨.of_reads fun _ _ _ => ⟨rfl, rfl⟩,
    .of_reads fun _ _ _ => ⟨rfl, rfl⟩⟩

/- What is no object is always converted in the same way. -/
theorem textOf_primitive
    (w : World)
    {v : Value}
    (hPrimitive : v.isObject = false) :
    ∃ s, TextOf w v s := by
  cases v with
  | object r => cases hPrimitive
  | string s => exact ⟨s, textOf_string w s⟩
  | symbol id =>
      refine
        ⟨Units.ofString "Symbol(" ++ (w.symbols.getD id none).getD .empty ++
            Units.ofString ")",
          .raiseError _ _, .of_reads fun w' hGrows n => ?_⟩
      rw [← hGrows.symbols]
      exact ⟨rfl, rfl⟩
  | undefined | null | bool b | number x | bigint n =>
      exact
        ⟨_, .of_reads fun _ _ _ => ⟨rfl, rfl⟩,
          .of_reads fun _ _ _ => ⟨rfl, rfl⟩⟩

theorem numberOf_primitive
    (w : World)
    {v : Value}
    (hPrimitive : v.isObject = false) :
    ∃ x, NumberOf w v x := by
  cases v with
  | object r => cases hPrimitive
  | symbol id =>
      exact
        ⟨nan, .raiseError _ _, .raiseError _ _⟩
  | bigint n =>
      obtain ⟨x, hNumber⟩ : ∃ x, Value.ofInt n = .number x := by
        unfold Value.ofInt Value.ofNat
        split <;> exact ⟨_, rfl⟩
      refine ⟨x, .raiseError _ _, .of_reads fun w' _ m => ?_⟩
      refine
        Run.Reads.bind (a := Value.bigint n) ⟨rfl, rfl⟩ ?_
      simp only [hNumber]
      exact ⟨rfl, rfl⟩
  | undefined | null | bool b | number x | string s =>
      exact
        ⟨_, .of_reads fun _ _ _ => ⟨rfl, rfl⟩,
          .of_reads fun _ _ _ => ⟨rfl, rfl⟩⟩

------------------------------------------------------------
-- Receivers
------------------------------------------------------------

/- Texts as objects are converted by what the library has. -/
structure KeepsTexts (w : World) : Prop where
  converts :
    ∃ f,
      Has w Intrinsic.stringProto.ref (Key.ofString "toString")
          (.object f) ∧
        IsNative w f (.stringMethod .toText)
  lacks :
    Lacks w WellKnown.toPrimitive.key Intrinsic.stringProto.ref
  converting : ∀ r ∈ w.converting, r < w.objects.size

section Wrappers

variable {r : Ref}
variable {s : Units}

/- The object that stands for a text. -/
def wrapperOf (s : Units) : Object :=
  { proto := some Intrinsic.stringProto.ref
    kind := .wrapper (.string s) }

theorem toText_key :
    Key.ofString "toString" = .text (Units.ofString "toString") ∧
      Key.ofString "toString" ≠ Key.length := by
  decide +kernel

theorem wrapperOf_own
    (s : Units) :
    (wrapperOf s).own? (Key.ofString "toString") = none := by
  have hOther := toText_key.2
  rw [toText_key.1] at hOther ⊢
  have hNone :
      (wrapperOf s).special?
        (.text (Units.ofString "toString")) = none := by
    change (if _ then _ else none) = none
    rw [if_neg]
    simpa using hOther
  simp only [Object.own?, hNone]
  rfl

/- The method of texts gives the text of its object. -/
theorem steady_textItself
    (hObject : w.objects[r]? = some (wrapperOf s)) :
    (Library.textItself (.object r)).Reads w (.string s) := by
  refine Run.Reads.bind (a := Value.string s) ?_ ⟨rfl, rfl⟩
  exact (reads_getObject hObject).bind ⟨rfl, rfl⟩

/- What a new object inherits was there before. -/
theorem Has.inherited
    {parent : Ref}
    {o : Object}
    {k : Key}
    {v : Value}
    (hHas : Has w parent k v)
    (hOwn : o.own? k = none)
    (hProto : o.proto = some parent) :
    Has { w with objects := w.objects.push o } w.objects.size k v := by
  rcases hHas with ⟨p, b, hFound, hSlot⟩
  refine ⟨p, b, ?_, hSlot⟩
  have hSame := lookupIn_grows (.push w o) (Nat.le_refl _) hFound
  simp only [Array.size_push, lookupIn, Array.getElem?_push_size,
    hOwn, hProto]
  exact hSame

theorem reads_firstPrimitive
    {f : Ref}
    (hObject : w.objects[r]? = some (wrapperOf s))
    (hHas : Has w r (Key.ofString "toString") (.object f))
    (hNative : IsNative w f (.stringMethod .toText))
    (n : Nat) :
    (firstPrimitive (Machine.within n) r ["toString", "valueOf"]).Reads
      w (.string s) := by
  refine (hHas.reads _).bind ?_
  refine hNative.reads_isCallable.bind ?_
  refine Run.Reads.bind (a := Value.string s) ?_ ⟨rfl, rfl⟩
  cases n with
  | zero => exact Run.gives_throw _
  | succ n => exact hNative.gives (steady_textItself hObject)

/- What is done while an object is converted changes nothing. -/
theorem reads_ordinaryPrimitive
    {m : Machine}
    {v : Value}
    (hNew : r ∉ w.converting)
    (hFirst :
      (firstPrimitive m r ["toString", "valueOf"]).Reads
        { w with converting := r :: w.converting } v) :
    (ordinaryPrimitive m r .string).Reads w v := by
  refine (Run.reads_get w).bind ?_
  rw [if_neg (by simpa using hNew)]
  refine (Run.gives_modify _ w).bind ?_
  rintro _ _ rfl
  refine hFirst.outcome.bind fun result w' hResult => ?_
  refine (Run.gives_modify _ w').bind ?_
  rintro _ _ rfl
  apply gives_resume
  intro a hValue
  rcases hResult a hValue with ⟨rfl, rfl⟩
  exact ⟨rfl, rfl⟩

/- The object that stands for a text is converted to it. -/
theorem textOf_wrapper
    {f : Ref}
    (hObject : w.objects[r]? = some (wrapperOf s))
    (hHas : Has w r (Key.ofString "toString") (.object f))
    (hNative : IsNative w f (.stringMethod .toText))
    (hLacks : Lacks w WellKnown.toPrimitive.key r)
    (hNew : r ∉ w.converting) :
    TextOf w (.object r) s := by
  have hUnits : Steady w (fun m => toUnits m (.object r)) s := by
    refine .of_reads fun w' hGrows n => ?_
    refine Run.Reads.bind (a := Value.string s) ?_ ⟨rfl, rfl⟩
    refine Run.Reads.bind (a := (none : Option Value)) ?_ ?_
    · exact ((hLacks.later hGrows).reads _).bind ⟨rfl, rfl⟩
    · rw [← hGrows.converting] at hNew
      have hLater := hHas.later hGrows
      have hMethod := hNative.later hGrows
      refine reads_ordinaryPrimitive hNew ?_
      apply reads_firstPrimitive (f := f)
      · exact hGrows.objects r _ hObject
      · exact hLater
      · exact hMethod
  exact ⟨hUnits, hUnits.bind (.pure _)⟩

end Wrappers

/- What a function sees of the value that it works on. -/
def Received
    (w : World)
    (this : Value)
    (P : World → Value → Prop) :
    Prop :=
  ∀ w', w.Grows w' →
    (thisFor false this).Gives w' fun v w'' =>
      w'.Grows w'' ∧ P w'' v

theorem received_object
    {r : Ref}
    {P : World → Value → Prop}
    (hObject : ∀ w', w.Grows w' → P w' (.object r)) :
    Received w (.object r) P :=
  fun w' hGrows => ⟨.refl w', hObject w' hGrows⟩

/- A text is received as an object that is converted to it. -/
theorem received_text
    (hKeeps : KeepsTexts w)
    (s : Units) :
    Received w (.string s) fun w' v => TextOf w' v s := by
  intro w' hGrows
  rcases hKeeps.converts with ⟨f, hHas, hNative⟩
  refine ⟨.push w' (wrapperOf s), ?_⟩
  refine textOf_wrapper (f := f) Array.getElem?_push_size ?_ ?_ ?_ ?_
  · exact
      (hHas.later hGrows).inherited (wrapperOf_own s) rfl
  · exact (hNative.later hGrows).later (.push w' _)
  · exact
      .behind Array.getElem?_push_size rfl rfl
        ((hKeeps.lacks.later hGrows).later (.push w' _))
  · intro hMember
    have hOld : w'.objects.size < w.objects.size :=
      hKeeps.converting _ (hGrows.converting ▸ hMember)
    exact absurd hGrows.size_le (Nat.not_le.mpr hOld)

end Realm

end Devirt
