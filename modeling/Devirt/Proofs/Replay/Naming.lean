import Devirt.Extraction.Extract
import Devirt.Proofs.Decimal.Numerals
import Devirt.Proofs.Replay.Trees

/-
  The name of an expression tells its tree.

  A name can be read from the left.  A word ends at the first
  blank or parenthesis, an opening parenthesis begins a
  compound operand, and an exclamation mark in front can only
  be a negation.  So the first character of a name tells how
  its tree begins, and what an operand leaves over does not
  depend on how it is read.

  Main declarations:
    * `IsWord`, `Expression.IsPlain`
    * `Expression.render_append_inj`
    * `Value.BuiltFrom`
    * `Instruction.isWord_name_iff`
    * `builtFrom_unambiguous`
-/

------------------------------------------------------------
-- Words
------------------------------------------------------------

namespace Devirt

namespace Replay

/- A character that is neither blank nor a parenthesis. -/
def isSolid (c : Char) : Bool :=
  !(Text.isBlank c || c == '(' || c == ')')

structure IsWord (text : String) : Prop where
  ne_empty : text ≠ ""
  solid : ∀ c ∈ text.toList, isSolid c = true

instance (text : String) : Decidable (IsWord text) :=
  decidable_of_iff
    (text ≠ "" ∧ text.toList.all isSolid = true)
    ⟨fun hWord => ⟨hWord.1, List.all_eq_true.mp hWord.2⟩,
      fun hWord =>
        ⟨hWord.ne_empty, List.all_eq_true.mpr hWord.solid⟩⟩

theorem IsWord.exists_cons
    {text : String}
    (hWord : IsWord text) :
    ∃ c cs, text.toList = c :: cs ∧ isSolid c = true := by
  cases hText : text.toList with
  | nil =>
      exact
        absurd (String.toList_eq_nil_iff.mp hText)
          hWord.ne_empty
  | cons c cs =>
      exact ⟨c, cs, rfl, hWord.solid c (by simp [hText])⟩

/- What stands behind a word, or behind an operand. -/
def Stops (rest : List Char) : Prop :=
  ∀ c ∈ rest.head?, isSolid c = false

/- What stands behind a whole expression. -/
def Closes (rest : List Char) : Prop :=
  ∀ c ∈ rest.head?, c = ')'

theorem Closes.stops
    {rest : List Char}
    (hCloses : Closes rest) :
    Stops rest := by
  intro c hHead
  rw [hCloses c hHead]
  decide

theorem stops_space
    (rest : List Char) :
    Stops (' ' :: rest) := by
  intro c hHead
  cases hHead
  decide

theorem closes_nil : Closes [] := by
  intro c hHead
  cases hHead

theorem closes_parenthesis
    (rest : List Char) :
    Closes (')' :: rest) := by
  intro c hHead
  cases hHead
  rfl

/- Where a word ends is known from what stands behind it. -/
theorem IsWord.append_inj
    {text other : String}
    {rest rest' : List Char}
    (hText : IsWord text)
    (hOther : IsWord other)
    (hStops : Stops rest)
    (hStops' : Stops rest')
    (hSame : text.toList ++ rest = other.toList ++ rest') :
    text = other ∧ rest = rest' := by
  rcases Decimal.run_append_inj hSame hText.solid
      hOther.solid hStops hStops' with ⟨hWord, hRest⟩
  exact ⟨String.toList_inj.mp hWord, hRest⟩

end Replay

end Devirt

------------------------------------------------------------
-- Plain Expressions
------------------------------------------------------------

namespace Devirt

namespace Replay

namespace Expression

/-
  Leaves and operators are words, and no leaf begins like a
  negation.
-/
def IsPlain : Expression → Prop
  | leaf name => IsWord name ∧ name.toList.head? ≠ some '!'
  | binary operator left right =>
      IsWord operator ∧ left.IsPlain ∧ right.IsPlain
  | not operand => operand.IsPlain

instance IsPlain.decide :
    (e : Expression) → Decidable e.IsPlain
  | leaf name =>
      inferInstanceAs
        (Decidable
          (IsWord name ∧ name.toList.head? ≠ some '!'))
  | binary operator left right =>
      have := IsPlain.decide left
      have := IsPlain.decide right
      inferInstanceAs
        (Decidable
          (IsWord operator ∧ left.IsPlain ∧ right.IsPlain))
  | not operand => IsPlain.decide operand

/- The text of an expression as an operand of another one. -/
def operandText (e : Expression) : String :=
  bracket e.isCompound e.render

theorem toList_operandText
    {e : Expression}
    (hCompound : e.isCompound = true) :
    e.operandText.toList =
      '(' :: (e.render.toList ++ [')']) := by
  simp [operandText, bracket, hCompound]

theorem toList_render_binary
    (operator : String)
    (left right : Expression) :
    (binary operator left right).render.toList =
      left.operandText.toList ++
        ' ' :: (operator.toList ++
          ' ' :: right.operandText.toList) := by
  simp [render, operandText]

theorem toList_render_not
    (operand : Expression) :
    (not operand).render.toList =
      '!' :: operand.operandText.toList := by
  simp [render, operandText]

/- An operand does not begin like a negation. -/
theorem operandText_begins
    {e : Expression}
    (hPlain : e.IsPlain) :
    ∃ c cs, e.operandText.toList = c :: cs ∧ c ≠ '!' := by
  cases e with
  | leaf name =>
      rcases hPlain.1.exists_cons with ⟨c, cs, hName, -⟩
      refine ⟨c, cs, hName, ?_⟩
      rintro rfl
      exact hPlain.2 (by simp [hName])
  | binary operator left right =>
      exact ⟨'(', _, toList_operandText rfl, by decide⟩
  | not operand =>
      exact ⟨'(', _, toList_operandText rfl, by decide⟩

------------------------------------------------------------
-- Reading Operands
------------------------------------------------------------

variable {e f left right operand : Expression}
variable {name operator : String}
variable {rest rest' : List Char}

/- An operand that begins with a word is a leaf. -/
theorem leaf_append_inj
    (hName : IsWord name)
    (hPlain : e.IsPlain)
    (hStops : Stops rest)
    (hStops' : Stops rest')
    (hSame :
      name.toList ++ rest = e.operandText.toList ++ rest') :
    leaf name = e ∧ rest = rest' := by
  cases hCompound : e.isCompound with
  | true =>
      rcases hName.exists_cons with ⟨c, cs, hCons, hSolid⟩
      rw [toList_operandText hCompound, hCons] at hSame
      have hHead : c = '(' := (List.cons.inj hSame).1
      rw [hHead] at hSolid
      exact absurd hSolid (by decide)
  | false =>
      cases e with
      | leaf other =>
          rcases hName.append_inj hPlain.1 hStops hStops'
              hSame with ⟨hWord, hRest⟩
          exact ⟨congrArg leaf hWord, hRest⟩
      | binary operator left right => cases hCompound
      | not operand => cases hCompound

/-
  Operands can be told apart as soon as whole expressions can:
  a compound one stands in parentheses.
-/
theorem operandText_append_inj
    (hRender :
      ∀ {rest rest' : List Char},
        Closes rest → Closes rest' →
          e.render.toList ++ rest =
              f.render.toList ++ rest' →
            e = f ∧ rest = rest')
    (hPlain : e.IsPlain)
    (hPlain' : f.IsPlain)
    (hStops : Stops rest)
    (hStops' : Stops rest')
    (hSame :
      e.operandText.toList ++ rest =
        f.operandText.toList ++ rest') :
    e = f ∧ rest = rest' := by
  cases e with
  | leaf name =>
      exact
        leaf_append_inj hPlain.1 hPlain' hStops hStops' hSame
  | _ =>
      cases f with
      | leaf name =>
          rcases leaf_append_inj hPlain'.1 hPlain hStops'
              hStops hSame.symm with ⟨hTree, hRest⟩
          exact ⟨hTree.symm, hRest.symm⟩
      | _ =>
          rw [toList_operandText rfl, toList_operandText rfl]
            at hSame
          simp only [List.cons_append, List.append_assoc,
            List.nil_append, List.cons.injEq, true_and]
            at hSame
          rcases hRender (closes_parenthesis rest)
              (closes_parenthesis rest') hSame with
            ⟨hTree, hRest⟩
          exact ⟨hTree, (List.cons.inj hRest).2⟩

------------------------------------------------------------
-- Telling the Forms Apart
------------------------------------------------------------

/- Behind the left operand of an expression stands a blank. -/
theorem leaf_ne_binary
    (hName : IsWord name)
    (hLeft : left.IsPlain)
    (hCloses : Closes rest) :
    name.toList ++ rest ≠
      (binary operator left right).render.toList ++ rest' := by
  intro hSame
  rw [toList_render_binary, List.append_assoc,
    List.cons_append] at hSame
  have hRest :=
    (leaf_append_inj hName hLeft hCloses.stops
      (stops_space _) hSame).2
  have hBlank : ' ' = ')' := hCloses ' ' (by simp [hRest])
  exact absurd hBlank (by decide)

theorem leaf_ne_not
    (hPlain : (leaf name).IsPlain) :
    name.toList ++ rest ≠
      (not operand).render.toList ++ rest' := by
  intro hSame
  rcases operandText_begins hPlain with ⟨c, cs, hCons, hHead⟩
  have hName : name.toList = c :: cs := hCons
  rw [toList_render_not, hName] at hSame
  exact hHead (List.cons.inj hSame).1

theorem binary_ne_not
    (hLeft : left.IsPlain) :
    (binary operator left right).render.toList ++ rest ≠
      (not operand).render.toList ++ rest' := by
  intro hSame
  rcases operandText_begins hLeft with ⟨c, cs, hCons, hHead⟩
  rw [toList_render_binary, toList_render_not, hCons] at hSame
  exact hHead (List.cons.inj hSame).1

/-
  Whatever closes an expression, its text can be read in one
  way only.
-/
theorem render_append_inj
    (hPlain : e.IsPlain)
    (hPlain' : f.IsPlain)
    (hCloses : Closes rest)
    (hCloses' : Closes rest')
    (hSame :
      e.render.toList ++ rest = f.render.toList ++ rest') :
    e = f ∧ rest = rest' := by
  induction e generalizing f rest rest' with
  | leaf name =>
      cases f with
      | leaf other =>
          exact
            leaf_append_inj hPlain.1 hPlain' hCloses.stops
              hCloses'.stops hSame
      | binary operator left right =>
          exact
            absurd hSame
              (leaf_ne_binary hPlain.1 hPlain'.2.1 hCloses)
      | not operand => exact absurd hSame (leaf_ne_not hPlain)
  | binary operator left right ihLeft ihRight =>
      cases f with
      | leaf other =>
          exact
            absurd hSame.symm
              (leaf_ne_binary hPlain'.1 hPlain.2.1 hCloses')
      | binary operator' left' right' =>
          rcases hPlain with ⟨hWord, hLeft, hRight⟩
          rcases hPlain' with ⟨hWord', hLeft', hRight'⟩
          simp only [toList_render_binary, List.append_assoc,
            List.cons_append] at hSame
          -- the left operand, the operator, the right operand
          rcases operandText_append_inj (ihLeft hLeft hLeft')
              hLeft hLeft' (stops_space _) (stops_space _)
              hSame with ⟨rfl, hBehind⟩
          rcases hWord.append_inj hWord' (stops_space _)
              (stops_space _) (List.cons.inj hBehind).2 with
            ⟨rfl, hLast⟩
          rcases operandText_append_inj
              (ihRight hRight hRight') hRight hRight'
              hCloses.stops hCloses'.stops
              (List.cons.inj hLast).2 with ⟨rfl, hRest⟩
          exact ⟨rfl, hRest⟩
      | not operand =>
          exact absurd hSame (binary_ne_not hPlain.2.1)
  | not operand ih =>
      cases f with
      | leaf other =>
          exact absurd hSame.symm (leaf_ne_not hPlain')
      | binary operator left right =>
          exact absurd hSame.symm (binary_ne_not hPlain'.2.1)
      | not operand' =>
          simp only [toList_render_not, List.cons_append]
            at hSame
          rcases operandText_append_inj
              (e := operand) (f := operand')
              (ih hPlain hPlain') hPlain hPlain'
              hCloses.stops hCloses'.stops
              (List.cons.inj hSame).2 with ⟨rfl, hRest⟩
          exact ⟨rfl, hRest⟩

end Expression

end Replay

end Devirt

------------------------------------------------------------
-- Texts of Numbers
------------------------------------------------------------

namespace Devirt

open Replay

namespace Decimal

theorem isSolid_of_isDigit
    {c : Char}
    (hDigit : c.isDigit = true) :
    isSolid c = true := by
  have hRange : 48 ≤ c.toNat ∧ c.toNat ≤ 57 := by
    simpa [Char.isDigit, UInt32.le_iff_toNat_le] using hDigit
  have hBlank : Text.isBlank c = false := by
    simp only [Text.isBlank, Bool.or_eq_false_iff,
      Bool.and_eq_false_iff, decide_eq_false_iff_not,
      beq_eq_false_iff_ne]
    omega
  have hOpening : c ≠ '(' := by
    rintro rfl
    exact absurd hDigit (by decide)
  have hClosing : c ≠ ')' := by
    rintro rfl
    exact absurd hDigit (by decide)
  simp [isSolid, hBlank, hOpening, hClosing]

theorem solid_toDigits
    (n : Nat) :
    ∀ c ∈ Nat.toDigits 10 n, isSolid c = true :=
  fun _ hMember =>
    isSolid_of_isDigit (Json.isDigit_toDigits hMember)

theorem solid_zeros
    (n : Nat) :
    ∀ c ∈ List.replicate n '0', isSolid c = true := by
  intro c hMember
  rw [List.eq_of_mem_replicate hMember]
  decide

theorem solid_toString
    (n : Int) :
    ∀ c ∈ (toString n).toList, isSolid c = true := by
  change ∀ c ∈ n.repr.toList, isSolid c = true
  cases n with
  | ofNat n =>
      change ∀ c ∈ n.repr.toList, isSolid c = true
      rw [Nat.toList_repr]
      exact solid_toDigits n
  | negSucc n =>
      change
        ∀ c ∈ ("-" ++ (n + 1).repr).toList, isSolid c = true
      rw [String.toList_append, Nat.toList_repr]
      exact
        List.forall_mem_append.mpr
          ⟨List.all_eq_true.mp (by decide), solid_toDigits _⟩

namespace Style

variable {digits : List Char}

theorem solid_positional
    (style : Style)
    (point : Int)
    (hDigits : ∀ c ∈ digits, isSolid c = true) :
    ∀ c ∈ style.positional digits point,
      isSolid c = true := by
  have hMark : isSolid '.' = true := by decide
  have hZero : isSolid '0' = true := by decide
  unfold positional
  dsimp only
  split_ifs <;>
    simp only [List.forall_mem_append, List.forall_mem_cons]
  · exact ⟨hZero, hMark, solid_zeros _, hDigits⟩
  · exact ⟨⟨hDigits, solid_zeros _⟩, hMark, hZero, by simp⟩
  · exact ⟨⟨hDigits, solid_zeros _⟩, by simp⟩
  · exact
      ⟨fun c hMember => hDigits c (List.mem_of_mem_take hMember),
        hMark,
        fun c hMember => hDigits c (List.mem_of_mem_drop hMember)⟩

theorem solid_scientific
    (style : Style)
    (point : Int)
    (hDigits : ∀ c ∈ digits, isSolid c = true) :
    ∀ c ∈ style.scientific digits point,
      isSolid c = true := by
  have hTake : ∀ c ∈ digits.take 1, isSolid c = true :=
    fun c hMember => hDigits c (List.mem_of_mem_take hMember)
  have hDrop : ∀ c ∈ digits.drop 1, isSolid c = true :=
    fun c hMember => hDigits c (List.mem_of_mem_drop hMember)
  have hFraction :
      ∀ c ∈ if digits.length ≤ 1 then []
        else '.' :: digits.drop 1, isSolid c = true := by
    split_ifs
    · simp
    · exact List.forall_mem_cons.mpr ⟨by decide, hDrop⟩
  have hMark :
      ∀ c ∈ if point - 1 < 0 then ['-']
        else if style.plusExponent then ['+'] else [],
        isSolid c = true := by
    split_ifs <;> exact List.all_eq_true.mp (by decide)
  simp only [scientific, List.forall_mem_append,
    List.forall_mem_cons]
  exact
    ⟨⟨⟨hTake, hFraction⟩, by decide, hMark⟩,
      solid_toDigits _⟩

theorem solid_writeDigits
    (style : Style)
    (d : Digits) :
    ∀ c ∈ style.writeDigits d, isSolid c = true := by
  have hDigits : ∀ c ∈ d.text, isSolid c = true :=
    solid_toDigits d.significand
  unfold writeDigits
  split_ifs
  · exact List.all_eq_true.mp (by decide)
  · exact List.all_eq_true.mp (by decide)
  · exact style.solid_positional d.point hDigits
  · exact style.solid_scientific d.point hDigits

end Style

/- The text of a number can be a part of a word. -/
theorem solid_describe
    (x : Float) :
    ∀ c ∈ (describe x).toList, isSolid c = true := by
  have hMagnitude :
      ∀ c ∈ (if x.isInf then plain.infinity
        else String.ofList
          (plain.writeDigits (shortest x))).toList,
        isSolid c = true := by
    split_ifs
    · exact List.all_eq_true.mp (by decide)
    · rw [String.toList_ofList]
      exact plain.solid_writeDigits (shortest x)
  unfold describe
  split_ifs
  · exact solid_toString _
  · simp only [Style.write]
    generalize
      (if x.isInf then plain.infinity
        else String.ofList (plain.writeDigits (shortest x))) =
        magnitude at hMagnitude ⊢
    split_ifs
    · exact List.all_eq_true.mp (by decide)
    · rw [String.toList_append]
      exact
        List.forall_mem_append.mpr
          ⟨List.all_eq_true.mp (by decide), hMagnitude⟩
    · exact hMagnitude

end Decimal

/-
  The name of an extracted instruction is a word, unless its
  label is a text that is none.
-/
theorem Instruction.isWord_name_iff
    (index : Nat)
    (label : Option Literal)
    (shape : Shape) :
    IsWord (ofCase index label shape).name ↔
      ∀ text, label = some (.text text) →
        ∀ c ∈ text.toList, isSolid c = true := by
  have hLead : ∀ c ∈ "op_".toList, isSolid c = true :=
    List.all_eq_true.mp (by decide)
  have hName :
      IsWord (ofCase index label shape).name ↔
        ∀ c ∈ (label.getD
            (.number (Decimal.ofNat index))).describe.toList,
          isSolid c = true := by
    constructor
    · intro hWord
      have hAll := hWord.solid
      rw [ofCase, String.toList_append] at hAll
      exact (List.forall_mem_append.mp hAll).2
    · intro hSolid
      refine ⟨?_, ?_⟩
      · simp [ofCase]
      · rw [ofCase, String.toList_append]
        exact List.forall_mem_append.mpr ⟨hLead, hSolid⟩
  rw [hName]
  match label with
  | none =>
      simpa [Literal.describe] using Decimal.solid_describe _
  | some (.number x) =>
      simpa [Literal.describe] using Decimal.solid_describe x
  | some (.text text) => simp [Literal.describe]

end Devirt

------------------------------------------------------------
-- Names of Values
------------------------------------------------------------

namespace Devirt

namespace Replay

/-
  The values that the constructors make of trees.  A leaf is
  any value that is no expression, and goes by its name.
-/
inductive Value.BuiltFrom : Expression → Value → Prop where
  | leaf
      (v : Value)
      (hKind : v.kind ≠ .expression) :
      BuiltFrom (.leaf v.name) v
  | binary
      {left right : Expression}
      {lhs rhs : Value}
      (operator : String)
      (hLeft : BuiltFrom left lhs)
      (hRight : BuiltFrom right rhs) :
      BuiltFrom (.binary operator left right)
        (Value.binary lhs operator rhs)
  | not
      {operand : Expression}
      {v : Value}
      (hOperand : BuiltFrom operand v) :
      BuiltFrom (.not operand) (Value.unary "!" v)

theorem Value.BuiltFrom.shows
    {e : Expression}
    {v : Value}
    (hBuilt : Value.BuiltFrom e v) :
    v.Shows e := by
  induction hBuilt with
  | leaf v hKind =>
      exact
        ⟨rfl, by simp [hKind, Expression.isCompound]⟩
  | binary operator hLeft hRight ihLeft ihRight =>
      exact ihLeft.binary operator ihRight
  | not hOperand ih => exact ih.unary

/- The operators of mnemonics are words. -/
theorem isWord_of_operator?
    {mnemonic : Mnemonic}
    {operator : String}
    (hOperator : mnemonic.operator? = some operator) :
    IsWord operator := by
  cases mnemonic <;> cases hOperator <;> decide

/-
  Values built from plain trees have the same name just if the
  trees are the same.  Operators that are words are those of
  the mnemonics and the names of extracted instructions, unless
  the label in such a name is a text that is no part of a word.
-/
theorem builtFrom_unambiguous :
    (∀ {e f : Expression} {v w : Value},
        e.IsPlain → f.IsPlain →
          v.BuiltFrom e → w.BuiltFrom f →
            (v.name = w.name ↔ e = f)) ∧
      (∀ {mnemonic : Mnemonic} {operator : String},
        mnemonic.operator? = some operator →
          IsWord operator) ∧
      ∀ (index : Nat) (label : Option Literal) (shape : Shape),
        IsWord (Instruction.ofCase index label shape).name ↔
          ∀ text, label = some (.text text) →
            ∀ c ∈ text.toList, isSolid c = true := by
  refine
    ⟨?_, isWord_of_operator?, Instruction.isWord_name_iff⟩
  intro e f v w hPlain hPlain' hBuilt hBuilt'
  rw [hBuilt.shows.name_eq, hBuilt'.shows.name_eq]
  constructor
  · intro hSame
    have hTexts :
        e.render.toList ++ [] = f.render.toList ++ [] := by
      rw [hSame]
    exact
      (Expression.render_append_inj hPlain hPlain' closes_nil
        closes_nil hTexts).1
  · intro hTree
    rw [hTree]

/- `(!a) op_7 b`, with two cells as leaves. -/
def opaqueOfNegation : Expression :=
  .binary "op_7" (.not (.leaf "a")) (.leaf "b")

/- `!(a op_7 b)` -/
def negationOfOpaque : Expression :=
  .not (.binary "op_7" (.leaf "a") (.leaf "b"))

theorem opaqueOfNegation_named_apart :
    opaqueOfNegation.IsPlain ∧ negationOfOpaque.IsPlain ∧
      (Value.binary (Value.unary "!" (Value.cell "a")) "op_7"
          (Value.cell "b")).name ≠
        (Value.unary "!"
          (Value.binary (Value.cell "a") "op_7"
            (Value.cell "b"))).name ∧
      IsWord "!=" ∧
      IsWord (Instruction.ofCase 0 (some (.number 7)) {}).name :=
    by
  have hPlain : opaqueOfNegation.IsPlain := by decide
  have hPlain' : negationOfOpaque.IsPlain := by decide
  have hFirst : (Value.cell "a").BuiltFrom (.leaf "a") :=
    .leaf (Value.cell "a") (by decide)
  have hSecond : (Value.cell "b").BuiltFrom (.leaf "b") :=
    .leaf (Value.cell "b") (by decide)
  have hSame :=
    builtFrom_unambiguous.1 hPlain hPlain'
      (.binary "op_7" (.not hFirst) hSecond)
      (.not (.binary "op_7" hFirst hSecond))
  have hOperator : Mnemonic.operator? .ne = some "!=" := rfl
  refine
    ⟨hPlain, hPlain', ?_,
      builtFrom_unambiguous.2.1 hOperator,
      (builtFrom_unambiguous.2.2 _ _ _).mpr (by simp)⟩
  intro hName
  exact absurd (hSame.mp hName) (by decide)

end Replay

end Devirt
