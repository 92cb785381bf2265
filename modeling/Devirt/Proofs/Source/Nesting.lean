import Devirt.Proofs.Source.Brackets
import Mathlib.Data.Set.Insert

/-
  Nested brackets.

  Brackets of some kinds are well nested in a list of cells when
  each closing bracket of code comes back to the last opening one
  that is still open, and both are of one kind.  Two brackets are
  partners when what stands between them is well nested.

  In nested code the brackets of each kind are balanced: as many
  are opened as are closed, and in no beginning of it more are
  closed than opened.

  Main declarations:
    * `balance`
    * `Nested`, `Partners`, `Nested.exists_partner`
    * `closesAll`, which decides nesting
    * `Balanced`, `Nested.balanced`
    * `Nested.exists_around`
-/

------------------------------------------------------------
-- Balances
------------------------------------------------------------

namespace Devirt

open Scanner

namespace CodeMap

namespace Bracket

/- An opening bracket that is code. -/
def openingCell (k : Bracket) : Cell := ⟨k.opening, true⟩

/- A closing bracket that is code. -/
def closingCell (k : Bracket) : Cell := ⟨k.closing, true⟩

def all : List Bracket := [round, square, curly]

theorem mem_all
    (k : Bracket) :
    k ∈ all := by
  cases k <;> decide

theorem openingCell_ne_closingCell
    (k other : Bracket) :
    k.openingCell ≠ other.closingCell := by
  cases k <;> cases other <;> decide

theorem openingCell_injective :
    Function.Injective openingCell := by
  intro k other hSame
  cases k <;> cases other <;> first | rfl | cases hSame

theorem closingCell_injective :
    Function.Injective closingCell := by
  intro k other hSame
  cases k <;> cases other <;> first | rfl | cases hSame

end Bracket

/- What a cell adds to the open brackets of a kind. -/
def weight (k : Bracket) (c : Cell) : Int :=
  if c = k.openingCell then 1
  else if c = k.closingCell then -1
  else 0

/-
  By how many more brackets of a kind are opened than closed.
-/
def balance (k : Bracket) (cells : List Cell) : Int :=
  cells.count k.openingCell - cells.count k.closingCell

@[simp]
theorem weight_openingCell
    (k : Bracket) :
    weight k k.openingCell = 1 :=
  if_pos rfl

@[simp]
theorem weight_closingCell
    (k : Bracket) :
    weight k k.closingCell = -1 := by
  unfold weight
  rw [if_neg (k.openingCell_ne_closingCell k).symm, if_pos rfl]

theorem weight_other
    {k : Bracket}
    {c : Cell}
    (hOpening : c ≠ k.openingCell)
    (hClosing : c ≠ k.closingCell) :
    weight k c = 0 := by
  unfold weight
  rw [if_neg hOpening, if_neg hClosing]

/- Brackets of another kind weigh nothing. -/
theorem weight_openingCell_other
    {k other : Bracket}
    (hOther : other ≠ k) :
    weight k other.openingCell = 0 :=
  weight_other (Bracket.openingCell_injective.ne hOther)
    (other.openingCell_ne_closingCell k)

theorem weight_closingCell_other
    {k other : Bracket}
    (hOther : other ≠ k) :
    weight k other.closingCell = 0 :=
  weight_other (k.openingCell_ne_closingCell other).symm
    (Bracket.closingCell_injective.ne hOther)

/- A pair of brackets weighs nothing as a whole. -/
theorem weight_pair
    (k other : Bracket) :
    weight k other.openingCell + weight k other.closingCell =
        0 ∧
      0 ≤ weight k other.openingCell := by
  by_cases hOther : other = k
  · subst other
    simp
  · simp [weight_openingCell_other hOther,
      weight_closingCell_other hOther]

@[simp]
theorem balance_nil
    (k : Bracket) :
    balance k [] = 0 :=
  rfl

@[simp]
theorem balance_cons
    (k : Bracket)
    (c : Cell)
    (cells : List Cell) :
    balance k (c :: cells) = weight k c + balance k cells := by
  have hApart := k.openingCell_ne_closingCell k
  unfold balance weight
  rw [List.count_cons, List.count_cons]
  split_ifs <;> simp_all <;> omega

@[simp]
theorem balance_append
    (k : Bracket)
    (cells more : List Cell) :
    balance k (cells ++ more) =
      balance k cells + balance k more := by
  unfold balance
  rw [List.count_append, List.count_append]
  push_cast
  omega

theorem balance_eq_zero_iff
    (k : Bracket)
    (cells : List Cell) :
    balance k cells = 0 ↔
      cells.count k.openingCell =
        cells.count k.closingCell := by
  unfold balance
  omega

end CodeMap

end Devirt

------------------------------------------------------------
-- Nesting
------------------------------------------------------------

namespace Devirt

namespace CodeMap

/-
  The brackets of some kinds are well nested in the code of
  some cells.
-/
inductive Nested
    (kinds : Set Bracket) : List Cell → Prop where
  | nil : Nested kinds []
  | other
      (c : Cell)
      {rest : List Cell}
      (hOther :
        ∀ k ∈ kinds, c ≠ k.openingCell ∧ c ≠ k.closingCell)
      (hRest : Nested kinds rest) :
      Nested kinds (c :: rest)
  | pair
      {k : Bracket}
      {inner rest : List Cell}
      (hKind : k ∈ kinds)
      (hInner : Nested kinds inner)
      (hRest : Nested kinds rest) :
      Nested kinds
        (k.openingCell :: (inner ++ k.closingCell :: rest))

/-
  The brackets at two places are partners in the nesting of
  some kinds.
-/
def Partners
    (kinds : Set Bracket)
    (cells : List Cell)
    (start close : Nat) : Prop :=
  ∃ k ∈ kinds, ∃ before inner behind,
    cells =
        before ++
          k.openingCell :: (inner ++ k.closingCell :: behind) ∧
      Nested kinds inner ∧
      start = before.length ∧
      close = start + inner.length + 1

/- Partners stay partners among more cells. -/
theorem Partners.append
    {kinds : Set Bracket}
    {cells : List Cell}
    {start close : Nat}
    (hPartners : Partners kinds cells start close)
    (front back : List Cell) :
    Partners kinds (front ++ cells ++ back)
      (front.length + start) (front.length + close) := by
  rcases hPartners with
    ⟨k, hKind, before, inner, behind, rfl, hInner, rfl, rfl⟩
  refine
    ⟨k, hKind, front ++ before, inner, behind ++ back, ?_,
      hInner, ?_, ?_⟩
  · simp
  · simp
  · omega

theorem Partners.cons
    {kinds : Set Bracket}
    {cells : List Cell}
    {start close : Nat}
    (hPartners : Partners kinds cells start close)
    (c : Cell) :
    Partners kinds (c :: cells) (start + 1) (close + 1) := by
  have hMore := hPartners.append [c] []
  simpa [Nat.add_comm 1] using hMore

theorem Partners.of_pair
    {kinds : Set Bracket}
    {k : Bracket}
    {inner : List Cell}
    (hKind : k ∈ kinds)
    (hInner : Nested kinds inner)
    (behind : List Cell) :
    Partners kinds
      (k.openingCell :: (inner ++ k.closingCell :: behind))
      0 (inner.length + 1) :=
  ⟨k, hKind, [], inner, behind, rfl, hInner, rfl, by simp⟩

/- What holds inside a pair, or behind it, holds outside. -/
theorem Partners.inside
    {kinds : Set Bracket}
    {inner : List Cell}
    {start close : Nat}
    (hPartners : Partners kinds inner start close)
    (k : Bracket)
    (rest : List Cell) :
    Partners kinds
      (k.openingCell :: (inner ++ k.closingCell :: rest))
      (start + 1) (close + 1) := by
  have hMore := hPartners.append [] (k.closingCell :: rest)
  simpa using hMore.cons k.openingCell

theorem Partners.behind
    {kinds : Set Bracket}
    {rest : List Cell}
    {start close : Nat}
    (hPartners : Partners kinds rest start close)
    (k : Bracket)
    (inner : List Cell) :
    Partners kinds
      (k.openingCell :: (inner ++ k.closingCell :: rest))
      (inner.length + 1 + start + 1)
      (inner.length + 1 + close + 1) := by
  have hMore :=
    (hPartners.append (inner ++ [k.closingCell]) []).cons
      k.openingCell
  simpa using hMore

theorem getElem?_here
    {c : Cell}
    {inner rest : List Cell} :
    (inner ++ c :: rest)[inner.length]? = some c := by
  rw [List.getElem?_append_right (Nat.le_refl _),
    Nat.sub_self, List.getElem?_cons_zero]

theorem getElem?_behind
    {c : Cell}
    {inner rest : List Cell}
    (place : Nat) :
    (inner ++ c :: rest)[inner.length + 1 + place]? =
      rest[place]? := by
  rw [List.getElem?_append_right (by omega), Nat.add_assoc,
    Nat.add_sub_cancel_left, Nat.add_comm 1,
    List.getElem?_cons_succ]

/- In well nested code every opening bracket has a partner. -/
theorem Nested.exists_partner
    {kinds : Set Bracket}
    {cells : List Cell}
    {k : Bracket}
    {start : Nat}
    (hNested : Nested kinds cells)
    (hKind : k ∈ kinds)
    (hStart : cells[start]? = some k.openingCell) :
    ∃ close, Partners kinds cells start close := by
  induction hNested generalizing start with
  | nil => simp at hStart
  | other c hOther hRest ih =>
      cases start with
      | zero =>
          have hHere : c = k.openingCell := by
            simpa using hStart
          exact absurd hHere (hOther k hKind).1
      | succ start =>
          rcases ih (by simpa using hStart) with
            ⟨close, hPartners⟩
          exact ⟨close + 1, hPartners.cons c⟩
  | @pair other inner rest hOther hInner hRest ihInner ihRest =>
      cases start with
      | zero =>
          exact
            ⟨inner.length + 1, .of_pair hOther hInner rest⟩
      | succ start =>
          rw [List.getElem?_cons_succ] at hStart
          rcases Nat.lt_trichotomy start inner.length with
            hInside | hHere | hLater
          · rw [List.getElem?_append_left hInside] at hStart
            rcases ihInner hStart with ⟨close, hPartners⟩
            exact ⟨close + 1, hPartners.inside other rest⟩
          · subst start
            rw [getElem?_here] at hStart
            exact
              absurd (Option.some.inj hStart).symm
                (k.openingCell_ne_closingCell other)
          · obtain ⟨place, rfl⟩ :
                ∃ place, start = inner.length + 1 + place :=
              ⟨start - (inner.length + 1), by omega⟩
            rw [getElem?_behind] at hStart
            rcases ihRest hStart with ⟨close, hPartners⟩
            exact ⟨_, hPartners.behind other inner⟩

------------------------------------------------------------
-- Checking
------------------------------------------------------------

/- The kind of bracket that a cell opens in the code. -/
def opened? (c : Cell) : Option Bracket :=
  Bracket.all.find? fun k => c = k.openingCell

/- The kind of bracket that a cell closes in the code. -/
def closed? (c : Cell) : Option Bracket :=
  Bracket.all.find? fun k => c = k.closingCell

theorem opened?_eq_none_iff
    (c : Cell) :
    opened? c = none ↔ ∀ k : Bracket, c ≠ k.openingCell := by
  simp [opened?, Bracket.mem_all]

theorem closed?_eq_none_iff
    (c : Cell) :
    closed? c = none ↔ ∀ k : Bracket, c ≠ k.closingCell := by
  simp [closed?, Bracket.mem_all]

theorem eq_of_opened?
    {c : Cell}
    {k : Bracket}
    (hOpened : opened? c = some k) :
    c = k.openingCell := by
  simpa using List.find?_some hOpened

theorem eq_of_closed?
    {c : Cell}
    {k : Bracket}
    (hClosed : closed? c = some k) :
    c = k.closingCell := by
  simpa using List.find?_some hClosed

@[simp]
theorem opened?_openingCell
    (k : Bracket) :
    opened? k.openingCell = some k := by
  cases k <;> rfl

@[simp]
theorem opened?_closingCell
    (k : Bracket) :
    opened? k.closingCell = none := by
  cases k <;> rfl

@[simp]
theorem closed?_closingCell
    (k : Bracket) :
    closed? k.closingCell = some k := by
  cases k <;> rfl

/-
  Whether the brackets of the cells close all pending ones, the
  last one first, and all of their own.
-/
def closesAll : List Bracket → List Cell → Bool
  | [], [] => true
  | _ :: _, [] => false
  | pending, c :: rest =>
    match opened? c, closed? c, pending with
    | some k, _, _ => closesAll (k :: pending) rest
    | none, none, _ => closesAll pending rest
    | none, some _, [] => false
    | none, some k, last :: outer =>
      last == k && closesAll outer rest

/- Well nested cells leave pending brackets as they were. -/
theorem Nested.closesAll_append
    {cells : List Cell}
    (hNested : Nested Set.univ cells)
    (pending : List Bracket)
    (more : List Cell) :
    closesAll pending (cells ++ more) =
      closesAll pending more := by
  induction hNested generalizing pending more with
  | nil => rfl
  | other c hOther hRest ih =>
      have hOpened :=
        (opened?_eq_none_iff c).mpr
          fun k => (hOther k (Set.mem_univ k)).1
      have hClosed :=
        (closed?_eq_none_iff c).mpr
          fun k => (hOther k (Set.mem_univ k)).2
      rw [List.cons_append, closesAll.eq_def]
      simp [hOpened, hClosed, ih]
  | pair hKind hInner hRest ihInner ihRest =>
      rw [List.cons_append, closesAll.eq_def]
      simp only [opened?_openingCell, List.append_assoc,
        List.cons_append, ihInner]
      rw [closesAll.eq_def]
      simp [ihRest]

/-
  What the cells are that close all pending brackets: well
  nested ones up to the closing of the last bracket, and so on.
-/
def ClosesInTurn : List Bracket → List Cell → Prop
  | [], cells => Nested Set.univ cells
  | k :: outer, cells =>
      ∃ inner behind,
        cells = inner ++ k.closingCell :: behind ∧
          Nested Set.univ inner ∧
            closesAll outer behind = true

/- Well nested cells in front change nothing. -/
theorem ClosesInTurn.append
    {pending : List Bracket}
    {more : List Cell}
    (hMore : ClosesInTurn pending more)
    (cells : List Cell)
    (hNested :
      ∀ {inner : List Cell},
        Nested Set.univ inner →
          Nested Set.univ (cells ++ inner)) :
    ClosesInTurn pending (cells ++ more) := by
  cases pending with
  | nil => exact hNested hMore
  | cons k outer =>
      rcases hMore with ⟨inner, behind, rfl, hInner, hOuter⟩
      exact
        ⟨cells ++ inner, behind, by simp, hNested hInner, hOuter⟩

theorem closesInTurn_of_closesAll
    (pending : List Bracket)
    (cells : List Cell)
    (hCloses : closesAll pending cells = true) :
    ClosesInTurn pending cells := by
  -- behind a pair the check goes on with fewer cells
  induction hLength : cells.length using Nat.strong_induction_on
    generalizing pending cells with
  | _ length ih =>
  cases cells with
  | nil =>
      cases pending with
      | nil => exact .nil
      | cons k outer => cases hCloses
  | cons c rest =>
      have hShorter : rest.length < length := by
        simp at hLength
        omega
      rw [closesAll.eq_def] at hCloses
      cases hOpened : opened? c with
      | some k =>
          simp only [hOpened] at hCloses
          rcases ih _ hShorter _ _ hCloses rfl with
            ⟨inner, behind, rfl, hInner, hBehind⟩
          have hRest :=
            ih behind.length (by simp at hShorter; omega) _ _
              hBehind rfl
          rw [eq_of_opened? hOpened]
          have hAll :=
            hRest.append
              (k.openingCell :: (inner ++ [k.closingCell]))
              (fun hMore => by
                simpa using
                  Nested.pair (Set.mem_univ k) hInner hMore)
          simpa using hAll
      | none =>
          have hNotOpening := (opened?_eq_none_iff c).mp hOpened
          cases hClosed : closed? c with
          | none =>
              have hNotClosing :=
                (closed?_eq_none_iff c).mp hClosed
              simp only [hOpened, hClosed] at hCloses
              exact
                (ih _ hShorter _ _ hCloses rfl).append
                  [c]
                  (fun hMore =>
                    .other c
                      (fun k _ => ⟨hNotOpening k, hNotClosing k⟩)
                      hMore)
          | some k =>
              cases pending with
              | nil => simp [hOpened, hClosed] at hCloses
              | cons last outer =>
                  simp [hOpened, hClosed] at hCloses
                  rcases hCloses with ⟨rfl, hOuter⟩
                  rw [eq_of_closed? hClosed]
                  exact ⟨[], rest, rfl, .nil, hOuter⟩

theorem nested_iff_closesAll
    (cells : List Cell) :
    Nested Set.univ cells ↔ closesAll [] cells = true :=
  ⟨fun hNested => by
    simpa [closesAll] using hNested.closesAll_append [] [],
    closesInTurn_of_closesAll [] cells⟩

instance (cells : List Cell) :
    Decidable (Nested Set.univ cells) :=
  decidable_of_iff _ (nested_iff_closesAll cells).symm

/- Well nested cells can be put in and taken out anywhere. -/
theorem Nested.closesAll_cut
    {inner : List Cell}
    (hInner : Nested Set.univ inner)
    (pending : List Bracket)
    (before behind : List Cell) :
    closesAll pending (before ++ (inner ++ behind)) =
      closesAll pending (before ++ behind) := by
  induction before generalizing pending with
  | nil => exact hInner.closesAll_append pending behind
  | cons c before ih =>
      rw [List.cons_append, List.cons_append,
        closesAll.eq_def, closesAll.eq_def pending (c :: _)]
      simp only [ih]

theorem Nested.cut_iff
    {inner : List Cell}
    (hInner : Nested Set.univ inner)
    (before behind : List Cell) :
    Nested Set.univ (before ++ (inner ++ behind)) ↔
      Nested Set.univ (before ++ behind) := by
  rw [nested_iff_closesAll, nested_iff_closesAll,
    hInner.closesAll_cut]

theorem Nested.append
    {cells more : List Cell}
    (hCells : Nested Set.univ cells)
    (hMore : Nested Set.univ more) :
    Nested Set.univ (cells ++ more) := by
  have hCut := (hMore.cut_iff cells []).mpr
  rw [List.append_nil, List.append_nil] at hCut
  exact hCut hCells

------------------------------------------------------------
-- Balances of Nested Brackets
------------------------------------------------------------

/- All that is opened is closed, and no more than that. -/
structure Balanced
    (k : Bracket)
    (cells : List Cell) : Prop where
  even : balance k cells = 0
  prefix_nonneg : ∀ n, 0 ≤ balance k (cells.take n)

theorem Balanced.append
    {k : Bracket}
    {cells more : List Cell}
    (hCells : Balanced k cells)
    (hMore : Balanced k more) :
    Balanced k (cells ++ more) := by
  refine ⟨?_, ?_⟩
  · rw [balance_append, hCells.even, hMore.even, Int.add_zero]
  · intro n
    rw [List.take_append, balance_append]
    have hLeft := hCells.prefix_nonneg n
    have hRight := hMore.prefix_nonneg (n - cells.length)
    omega

/- What follows a balanced part is balanced. -/
theorem Balanced.of_append
    {k : Bracket}
    {cells more : List Cell}
    (hAll : Balanced k (cells ++ more))
    (hEven : balance k cells = 0) :
    Balanced k more := by
  refine ⟨?_, ?_⟩
  · have hTotal := hAll.even
    rw [balance_append] at hTotal
    omega
  · intro n
    have hPrefix := hAll.prefix_nonneg (cells.length + n)
    rw [List.take_length_add_append, balance_append] at hPrefix
    omega

/- Between brackets of any kind it stays balanced. -/
theorem Balanced.enclosed
    {k : Bracket}
    {inner : List Cell}
    (hInner : Balanced k inner)
    (other : Bracket) :
    Balanced k
      (other.openingCell :: (inner ++ [other.closingCell])) := by
  have hPair := weight_pair k other
  refine ⟨?_, ?_⟩
  · simp only [balance_cons, balance_append, balance_nil,
      hInner.even]
    omega
  · intro n
    cases n with
    | zero => simp
    | succ n =>
        have hPrefix := hInner.prefix_nonneg n
        rw [List.take_succ_cons, balance_cons, List.take_append,
          balance_append]
        rcases Nat.lt_or_ge inner.length n with hAll | hInside
        · have hClosing :
              [other.closingCell].length ≤ n - inner.length := by
            simp
            omega
          rw [List.take_of_length_le hAll.le, hInner.even,
            List.take_of_length_le hClosing]
          simp only [balance_cons, balance_nil]
          omega
        · rw [Nat.sub_eq_zero_of_le hInside]
          simp only [List.take_zero, balance_nil]
          omega

theorem Nested.balanced
    {kinds : Set Bracket}
    {cells : List Cell}
    {k : Bracket}
    (hNested : Nested kinds cells)
    (hKind : k ∈ kinds) :
    Balanced k cells := by
  induction hNested with
  | nil => exact ⟨rfl, by simp⟩
  | other c hOther hRest ih =>
      have hWeight :=
        weight_other (hOther k hKind).1 (hOther k hKind).2
      have hHere : Balanced k [c] := by
        refine ⟨by simp [hWeight], ?_⟩
        intro n
        cases n <;> simp [hWeight]
      exact hHere.append ih
  | @pair other inner rest hOther hInner hRest ihInner ihRest =>
      have hAll := (ihInner.enclosed other).append ihRest
      simpa using hAll

/-
  Where brackets of a kind are open, a pair stands around every
  place that closes none.
-/
theorem Nested.exists_around
    {kinds : Set Bracket}
    {cells : List Cell}
    {k : Bracket}
    {place : Nat}
    (hNested : Nested kinds cells)
    (hKind : k ∈ kinds)
    (hInside : place < cells.length)
    (hOther :
      ∀ other ∈ kinds,
        cells[place]? ≠ some other.closingCell)
    (hOpen : 0 < balance k (cells.take place)) :
    ∃ start close,
      Partners kinds cells start close ∧
        start < place ∧ place < close := by
  induction hNested generalizing place with
  | nil => simp at hInside
  | other c hPlain hRest ih =>
      cases place with
      | zero => simp at hOpen
      | succ place =>
          have hWeight :=
            weight_other (hPlain k hKind).1 (hPlain k hKind).2
          rw [List.take_succ_cons, balance_cons, hWeight,
            Int.zero_add] at hOpen
          rcases ih (by simpa using hInside)
              (by simpa using hOther) hOpen with
            ⟨start, close, hPartners, hBounds⟩
          exact
            ⟨start + 1, close + 1, hPartners.cons c, by omega⟩
  | @pair other inner rest hPair hInner hRest ihInner ihRest =>
      cases place with
      | zero => simp at hOpen
      | succ place =>
          rw [List.getElem?_cons_succ] at hOther
          rcases Nat.lt_trichotomy place inner.length with
            hWithin | hHere | hLater
          · exact
              ⟨0, inner.length + 1, .of_pair hPair hInner rest,
                by omega⟩
          · subst place
            exact absurd getElem?_here (hOther other hPair)
          · obtain ⟨behind, rfl⟩ :
                ∃ behind, place = inner.length + 1 + behind :=
              ⟨place - (inner.length + 1), by omega⟩
            have hEven := (hInner.balanced hKind).even
            have hWeight := (weight_pair k other).1
            rw [List.take_succ_cons, balance_cons,
              Nat.add_assoc, List.take_length_add_append,
              Nat.add_comm 1, List.take_succ_cons,
              balance_append, balance_cons, hEven] at hOpen
            simp only [getElem?_behind] at hOther
            rcases ihRest (by simp at hInside; omega) hOther
                (by omega) with
              ⟨start, close, hPartners, hBounds⟩
            exact
              ⟨_, _, hPartners.behind other inner, by omega⟩

end CodeMap

end Devirt
