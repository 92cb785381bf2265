import Devirt.Proofs.Decimal.Floors
import Devirt.Proofs.Realm.Steady

/-
  What the functions of the library build, and how long it is.

  Main declarations:
    * `reaches_clampedWhole`, `mul_le_of_guard`, `NoLess`
    * `steady_repeated`, `steady_padStart`, `steady_padEnd`
    * `steady_concat`, `steady_join`
    * `ListOf`, `listOf_array`, `ArgumentsOf`
-/

------------------------------------------------------------
-- Sizes
------------------------------------------------------------

namespace Devirt

namespace Units

theorem size_append
    (s t : Units) :
    (s ++ t).size = s.size + t.size :=
  Array.size_append

theorem append_empty
    (s : Units) :
    s ++ empty = s := by
  rcases s with ⟨units⟩
  exact congrArg Units.mk Array.append_empty

theorem empty_append
    (s : Units) :
    empty ++ s = s := by
  rcases s with ⟨units⟩
  exact congrArg Units.mk Array.empty_append

theorem size_replicate
    (s : Units)
    (n : Nat) :
    (s.replicate n).size = n * s.size := by
  induction n using Nat.strongRecOn with
  | ind n ih =>
      cases n with
      | zero =>
          rw [replicate, Nat.zero_mul]
          rfl
      | succ n =>
          have hHalf := ih ((n + 1) / 2) (by omega)
          rw [replicate]
          split
          · rename_i hEven
            have hDouble : (n + 1) / 2 + (n + 1) / 2 = n + 1 := by
              have hRest := beq_iff_eq.mp hEven
              omega
            rw [size_append, hHalf, ← Nat.add_mul, hDouble]
          · rename_i hOdd
            have hDouble :
                ((n + 1) / 2 + (n + 1) / 2).succ = n + 1 := by
              have hRest : (n + 1) % 2 ≠ 0 := by simpa using hOdd
              omega
            rw [size_append, size_append, hHalf, ← Nat.add_mul,
              ← Nat.succ_mul, hDouble]

theorem size_slice_le
    (s : Units)
    (start stop : Nat) :
    (s.slice start stop).size ≤ stop - start := by
  unfold slice size
  rw [Array.size_extract]
  omega

/- Texts and separators are as long together as alone. -/
theorem size_intercalate
    (separator : Units)
    (texts : List Units) :
    (intercalate separator texts).size =
      (texts.length - 1) * separator.size +
        (texts.map size).sum := by
  have hRest :
      ∀ (rest : List Units) (done : Array UInt16),
        (rest.foldl
            (fun done t => done ++ separator.units ++ t.units)
            done).size =
          done.size + rest.length * separator.size +
            (rest.map size).sum := by
    intro rest
    induction rest with
    | nil => simp
    | cons t rest ih =>
        intro done
        rw [List.foldl_cons, ih]
        simp only [Array.size_append, List.length_cons,
          List.map_cons, List.sum_cons, size]
        ring
  cases texts with
  | nil => simp [intercalate, empty, size]
  | cons s rest =>
      cases rest with
      | nil => simp [intercalate, size]
      | cons t rest =>
          change (List.foldl _ s.units (t :: rest)).size = _
          rw [hRest]
          simp only [List.length_cons, List.map_cons,
            List.sum_cons, Nat.add_sub_cancel, size]
          ring

theorem size_foldl_append
    (texts : List Units)
    (s : Units) :
    (texts.foldl (· ++ ·) s).size =
      s.size + (texts.map size).sum := by
  induction texts generalizing s with
  | nil => simp
  | cons t texts ih =>
      rw [List.foldl_cons, ih, size_append, List.map_cons,
        List.sum_cons, Nat.add_assoc]

end Units

end Devirt

------------------------------------------------------------
-- Numbers
------------------------------------------------------------

namespace Devirt

namespace Realm

open Double Float.Model Float.Model.UnpackedFloat

variable {k n : Nat}
variable {x y : Float}

theorem lt_iff_compare :
    x < y ↔
      UnpackedFloat.compare x.toModel.unpack y.toModel.unpack =
        some .lt := by
  change Float.lt x y = true ↔ _
  unfold Float.lt
  rw [decide_eq_true_eq]
  change UnpackedFloat.lt _ _ = true ↔ _
  unfold UnpackedFloat.lt
  rw [beq_iff_eq]

theorem beq_iff_compare :
    (x == y) = true ↔
      UnpackedFloat.compare x.toModel.unpack y.toModel.unpack =
        some .eq := by
  change UnpackedFloat.beq _ _ = true ↔ _
  unfold UnpackedFloat.beq
  rw [beq_iff_eq]

/- What reaches the next number is greater than a small one. -/
theorem compareFloats_of_reaches
    (hSmall : k < 2 ^ 53)
    (hReaches : Reaches (k + 1) x.toModel.unpack) :
    compareFloats x (Decimal.ofNat k) = .greater := by
  rcases hReaches.compare_eq (Decimal.counts_ofNat k) hSmall with
    ⟨hLess, hGreater⟩
  unfold compareFloats
  rw [if_neg (by rw [lt_iff_compare, hGreater]; decide),
    if_neg (by rw [beq_iff_compare, hGreater]; decide),
    if_pos (by rw [gt_iff_lt, lt_iff_compare, hLess])]

/- Small numbers are compared as what they count. -/
theorem compareFloats_less_iff
    (hLeft : Counts k x.toModel.unpack)
    (hRight : Counts n y.toModel.unpack)
    (hSmall : k < 2 ^ 53) :
    (compareFloats x y == .less) = decide (k < n) := by
  have hOrder := hLeft.lt_iff hRight (Or.inl hSmall)
  have hLess : x < y ↔ k < n := by
    rw [← hOrder, lt_iff_compare]
    unfold UnpackedFloat.lt
    rw [beq_iff_eq]
  unfold compareFloats
  by_cases hCount : k < n
  · rw [if_pos (hLess.mpr hCount)]
    simp [hCount]
  · rw [if_neg (mt hLess.mp hCount)]
    split_ifs <;> simp [hCount]

/- A double reaches the numbers up to its whole part. -/
theorem reaches_clampedWhole
    (hOne : 1 ≤ n)
    (hWhole : (n : Int) ≤ clampedWhole x) :
    Reaches n x.toModel.unpack := by
  unfold clampedWhole wholePart? at hWhole
  cases hNaN : x.isNaN with
  | true =>
      simp only [hNaN, if_true] at hWhole
      omega
  | false =>
      cases hInf : x.isInf with
      | false =>
          simp only [hNaN, hInf, Bool.false_eq_true, if_false] at hWhole
          exact Decimal.reaches_truncate hNaN hInf hOne hWhole
      | true =>
          simp only [hNaN, hInf, Bool.false_eq_true, if_false,
            if_true] at hWhole
          have hPower : (0 : Int) ≤ Int.pow 2 1100 :=
            Int.pow_nonneg (by decide)
          generalize Int.pow 2 1100 = large at hWhole hPower
          change x.toModel.unpack.isInf = true at hInf
          have hZero : (0 : Float).toModel.unpack = .zero .positive :=
            rfl
          generalize hUnpack : x.toModel.unpack = u at hInf
          cases u with
          | infinity sign =>
              cases sign with
              | positive => exact .infinite
              | negative =>
                  rw [if_neg] at hWhole
                  · omega
                  · rw [gt_iff_lt, lt_iff_compare, hUnpack, hZero]
                    decide
          | zero sign => cases hInf
          | notANumber => cases hInf
          | finite sign m e hMantissa => cases hInf

/- A guarded product bounds that of the numbers it reaches. -/
theorem mul_le_of_guard
    {count width limit : Nat}
    (hCount : (count : Int) ≤ clampedWhole x)
    (hWidth : Counts width y.toModel.unpack)
    (hLimit : limit < 2 ^ 53)
    (hGuard :
      compareFloats (x * y) (Decimal.ofNat limit) ≠ .greater) :
    count * width ≤ limit := by
  by_contra hMore
  have hProduct : 0 < count * width := by omega
  have hRows : 1 ≤ count := Nat.pos_of_mul_pos_right hProduct
  have hColumns : 1 ≤ width := Nat.pos_of_mul_pos_left hProduct
  have hLeft : Reaches (min count (limit + 1)) x.toModel.unpack :=
    reaches_clampedWhole (by omega) (by omega)
  have hRight : Reaches (min width (limit + 1)) y.toModel.unpack :=
    hWidth.reaches (Nat.min_le_left _ _) (by omega)
  have hEnough :
      limit + 1 ≤ min count (limit + 1) * min width (limit + 1) := by
    rcases Nat.le_total (limit + 1) count with hHigh | hLow
    · rw [Nat.min_eq_right hHigh]
      exact Nat.le_mul_of_pos_right _ (by omega)
    · rw [Nat.min_eq_left hLow]
      rcases Nat.le_total (limit + 1) width with hWide | hSlim
      · rw [Nat.min_eq_right hWide]
        exact Nat.le_mul_of_pos_left _ hRows
      · rw [Nat.min_eq_left hSlim]
        omega
  exact hGuard
    (compareFloats_of_reaches hLimit
      (hLeft.mul hRight (by omega) (by omega) hEnough (by omega)))

/- A double is no less than a number, as far as doubles tell. -/
def NoLess (n : Nat) (x : Float) : Prop :=
  Reaches (min n (2 ^ 53)) x.toModel.unpack

theorem noLess_ofNat
    (n : Nat) :
    NoLess n (Decimal.ofNat n) :=
  (Decimal.counts_ofNat n).reaches (Nat.min_le_left _ _)
    (Nat.min_le_right _ _)

theorem NoLess.add
    (hLeft : NoLess k x)
    (hRight : NoLess n y) :
    NoLess (k + n) (x + y) :=
  Reaches.add hLeft hRight (by omega) (Nat.min_le_right _ _)

theorem NoLess.le_of_guard
    {limit : Nat}
    (hNoLess : NoLess n x)
    (hLimit : limit < 2 ^ 53)
    (hGuard : compareFloats x (Decimal.ofNat limit) ≠ .greater) :
    n ≤ limit := by
  by_contra hMore
  exact hGuard
    (compareFloats_of_reaches hLimit
      (hNoLess.mono (by omega)))

/- A small number is counted by its double. -/
theorem clampedWhole_ofNat
    (hSmall : k < 2 ^ 53) :
    clampedWhole (Decimal.ofNat k) = k := by
  have hCounts := Decimal.counts_ofNat k
  have hNaN : (Decimal.ofNat k).isNaN = false := by
    change (Decimal.ofNat k).toModel.unpack.isNaN = false
    generalize (Decimal.ofNat k).toModel.unpack = u at hCounts
    cases hCounts <;> rfl
  have hInf : (Decimal.ofNat k).isInf = false := by
    change (Decimal.ofNat k).toModel.unpack.isInf = false
    generalize (Decimal.ofNat k).toModel.unpack = u at hCounts
    cases hCounts with
    | infinite hLarge => omega
    | zero hZero => rfl
    | small hSome hLess hMantissa => rfl
    | large hLarge hUnit => rfl
  unfold clampedWhole wholePart?
  simp only [hNaN, hInf, Bool.false_eq_true, if_false]
  exact Decimal.truncate_ofNat hSmall

/- The number of an element is found in its double. -/
theorem indexOfFloat?_of_counts
    (hCounts : Counts k x.toModel.unpack)
    (hSmall : k < Key.indexBound) :
    indexOfFloat? x = some k := by
  have hBound : k < 4294967295 := hSmall
  have hWord : x.toUInt64.toNat = k :=
    hCounts.toUInt64_eq (by omega)
  have hBelow : x < 4294967295 := by
    have hLimit : Counts 4294967295 (4294967295 : Float).toModel.unpack :=
      Decimal.counts_toFloat 4294967295
    rw [lt_iff_compare]
    have hOrder := (hCounts.lt_iff hLimit (Or.inl (by omega))).mpr hBound
    unfold UnpackedFloat.lt at hOrder
    exact beq_iff_eq.mp hOrder
  have hAbove : 0 ≤ x := by
    change Float.le 0 x = true
    unfold Float.le
    rw [decide_eq_true_eq]
    change
      UnpackedFloat.le (0 : Float).toModel.unpack x.toModel.unpack =
        true
    have hZero : (0 : Float).toModel.unpack = .zero .positive := rfl
    rw [hZero]
    generalize x.toModel.unpack = u at hCounts
    cases hCounts <;> rfl
  have hSame : (x.toUInt64.toFloat == x) = true := by
    have hBits : x.toUInt64 = k.toUInt64 := by
      apply UInt64.toNat_inj.mp
      rw [hWord]
      simp
      omega
    rw [hBits, beq_iff_compare]
    generalize x.toModel.unpack = u at hCounts
    cases hCounts with
    | zero hZero =>
        subst hZero
        rfl
    | small hSome hLess hMantissa =>
        rcases unpack_toFloat hSome hLess with ⟨hOther, hUnpack, -⟩
        rw [hUnpack]
        simp [UnpackedFloat.compare]
    | large hLarge hUnit => omega
    | infinite hLarge => omega
  unfold indexOfFloat?
  rw [if_pos]
  · rw [hWord]
  · simp [hBelow, hAbove, hSame]

------------------------------------------------------------
-- Conversions
------------------------------------------------------------

section Conversions

variable {w : World}
variable {v this : Value}
variable {s : Units}

theorem textMember?_length
    (s : Units) :
    textMember? s Key.length = some (.ofNat s.size) := by
  have hKey : Key.length = .text (Units.ofString "length") := by
    decide +kernel
  unfold textMember?
  rw [hKey, ← hKey]
  simp [hKey]

/- A text tells how long it is. -/
theorem steady_length
    (w : World)
    (s : Units) :
    Steady w (fun m => getMember m (.string s) (Key.ofString "length"))
      (.ofNat s.size) := by
  have hMember :
      ∀ m,
        getMember m (.string s) (Key.ofString "length") =
          pure (.ofNat s.size) := by
    intro m
    have hFound : textMember? s (Key.ofString "length") = _ :=
      textMember?_length s
    simp only [getMember, hFound]
  simp only [hMember]
  exact .pure _

/- The constructors of texts and numbers convert. -/
theorem TextOf.steady_make
    (hText : TextOf w v s)
    (this : Value) :
    Steady w (fun m => callNative m (.make .string) this [v])
      (.string s) :=
  hText.made

theorem NumberOf.steady_make
    (hNumber : NumberOf w v x)
    (this : Value) :
    Steady w (fun m => callNative m (.make .number) this [v])
      (.number x) :=
  hNumber.made.bind (.pure _)

/- A function is called on a value by its method. -/
theorem steady_applied
    {r : Ref}
    {f : Native}
    {u : Value}
    {arguments : List Value}
    (hNative : IsNative w r f)
    (hCall :
      Steady w (fun m => callNative m f this arguments) u) :
    Steady w
      (fun m =>
        callNative m (.function .call) (.object r) (this :: arguments))
      u := by
  intro w' hGrows n
  refine (hNative.later hGrows).reads_isCallable.bind ?_
  exact steady_call (hNative.steady hCall) w' hGrows n

/- The same with the arguments in a list. -/
theorem steady_spread
    {r : Ref}
    {f : Native}
    {u list : Value}
    {arguments : List Value}
    (hNative : IsNative w r f)
    (hList :
      Steady w (fun m => Library.argumentList m list) arguments)
    (hCall :
      Steady w (fun m => callNative m f this arguments) u) :
    Steady w
      (fun m =>
        callNative m (.function .apply) (.object r) [this, list])
      u := by
  intro w' hGrows n
  refine (hNative.later hGrows).reads_isCallable.bind ?_
  exact
    hList.bind (steady_call (hNative.steady hCall)) w' hGrows n

end Conversions

------------------------------------------------------------
-- Texts
------------------------------------------------------------

section Texts

variable {w : World}
variable {v : Value}
variable {s t : Units}

/- What is made of a text by repeating it. -/
def repeatedText (s : Units) (x : Float) : Units :=
  let n := (clampedWhole x).toNat
  if s.size * n < Nat.pow 2 32 then s.replicate n else .empty

theorem steady_repeated
    (hNumber : Steady w (fun m => toNumber m v) x) :
    Steady w
      (fun m =>
        callNative m (.stringMethod .repeated) (.string s) [v])
      (.string (repeatedText s x)) := by
  intro w' hGrows n
  change (Library.repeatText _ s v).Yields w' _
  refine (hNumber w' hGrows n).bind fun w'' _ => ?_
  cases hWhole : wholePart? x with
  | none => exact gives_raiseError _ _
  | some k =>
      have hClamped : clampedWhole x = k := by
        unfold clampedWhole
        rw [hWhole]
      by_cases hFails :
          (decide (k < 0) || decide (s.size * k.toNat ≥ Nat.pow 2 32)) =
            true
      · simp only [hFails, if_true]
        exact gives_raiseError _ _
      · simp only [hFails]
        have hFits : s.size * k.toNat < Nat.pow 2 32 := by
          simp only [Bool.or_eq_true, decide_eq_true_eq, not_or] at hFails
          omega
        cases hEmpty : s.isEmpty with
        | true =>
            have hNothing : s.replicate k.toNat = .empty := by
              have hSize : (s.replicate k.toNat).size = 0 := by
                have hNone : s.size = 0 := by
                  simpa [Units.isEmpty, Units.size] using hEmpty
                rw [Units.size_replicate, hNone, Nat.mul_zero]
              have hUnits := Array.eq_empty_of_size_eq_zero hSize
              exact congrArg Units.mk hUnits
            refine ⟨?_, .refl w''⟩
            unfold repeatedText
            rw [hClamped]
            simp only [if_pos hFits, hNothing]
        | false =>
            refine ⟨?_, .refl w''⟩
            unfold repeatedText
            rw [hClamped]
            simp only [if_pos hFits]

/- A guarded repetition is no longer than the limit. -/
theorem size_repeatedText_le
    {limit : Nat}
    (hGuard :
      compareFloats (Decimal.ofNat s.size * x)
          (Decimal.ofNat limit) ≠ .greater) :
    (repeatedText s x).size ≤ limit := by
  unfold repeatedText
  generalize hCount : (clampedWhole x).toNat = n
  dsimp only
  split_ifs with hFits
  · have hWord : s.size * n < 2 ^ 32 := hFits
    rw [Units.size_replicate, Nat.mul_comm]
    by_contra hMore
    have hPositive : 0 < s.size * n := by omega
    have hSize : 1 ≤ s.size := Nat.pos_of_mul_pos_right hPositive
    have hTimes : 1 ≤ n := Nat.pos_of_mul_pos_left hPositive
    have hLeft :
        Reaches s.size (Decimal.ofNat s.size).toModel.unpack := by
      refine (Decimal.counts_ofNat s.size).reaches (Nat.le_refl _) ?_
      have hLess : s.size * 1 ≤ s.size * n := by gcongr
      omega
    have hRight : Reaches n x.toModel.unpack :=
      reaches_clampedWhole hTimes (by omega)
    exact hGuard
      (compareFloats_of_reaches (by omega)
        (hLeft.mul hRight hSize hTimes (by omega) (by omega)))
  · exact Nat.zero_le limit

/- What a text is padded with, up to a length. -/
def padded (s filler : Units) (x : Float) : Units :=
  let target := min (clampedWhole x).toNat maxLength
  if target ≤ s.size || filler.isEmpty then .empty
  else
    (filler.replicate ((target - s.size) / filler.size + 1)).slice 0
      (target - s.size)

/- A value always has the same text, or a default has. -/
structure TextOr (w : World) (d : String) (v : Value) (s : Units) :
    Prop where
  given : v.isUndefined = false → TextOf w v s
  absent : v.isUndefined = true → s = Units.ofString d

theorem TextOr.later
    {w' : World}
    {d : String}
    (hText : TextOr w d v s)
    (hGrows : w.Grows w') :
    TextOr w' d v s :=
  ⟨fun hGiven => (hText.given hGiven).later hGrows, hText.absent⟩

theorem textOr_primitive
    (w : World)
    (d : String)
    {v : Value}
    (hPrimitive : v.isObject = false) :
    ∃ s, TextOr w d v s := by
  cases hAbsent : v.isUndefined with
  | true =>
      exact
        ⟨Units.ofString d, by simp [hAbsent], fun _ => rfl⟩
  | false =>
      rcases textOf_primitive w hPrimitive with ⟨s, hText⟩
      exact ⟨s, fun _ => hText, by simp [hAbsent]⟩

theorem steady_toLength
    (hNumber : Steady w (fun m => toNumber m v) x) :
    Steady w (fun m => toLength m v)
      (min (clampedWhole x).toNat maxLength) := by
  have hWhole :
      Steady w (fun m => toWhole m v) (clampedWhole x) :=
    hNumber.bind (.pure _)
  exact hWhole.bind (.pure _)

theorem steady_padding
    (hNumber : Steady w (fun m => toNumber m v) x)
    {u : Value}
    (hFiller : TextOr w " " u t) :
    Steady w (fun m => Library.padding m s [v, u])
      (padded s t x) := by
  refine (steady_toLength hNumber).bind ?_
  have hRest :
      ∀ w',
        ((if min (clampedWhole x).toNat maxLength ≤ s.size ||
              t.isEmpty then
            pure .empty
          else
            pure
              ((t.replicate
                ((min (clampedWhole x).toNat maxLength - s.size) /
                    t.size + 1)).slice 0
                (min (clampedWhole x).toNat maxLength - s.size)) :
            Run Units)).Yields w' (padded s t x) := by
    intro w'
    unfold padded
    dsimp only
    split <;> exact ⟨rfl, .refl w'⟩
  intro w' hGrows n
  change
    (if u.isUndefined then _ else _ : Run Units).Yields w' _
  cases hGiven : u.isUndefined with
  | true =>
      rw [if_pos rfl]
      refine Run.Reads.bind (a := Units.ofString " ") ⟨rfl, rfl⟩ ?_
      rw [← hFiller.absent hGiven]
      exact hRest w'
  | false =>
      rw [if_neg Bool.false_ne_true]
      exact
        ((hFiller.given hGiven).units w' hGrows n).bind
          fun w'' _ => hRest w''

theorem size_padded_le
    {limit : Nat}
    (hGuard : compareFloats x (Decimal.ofNat limit) ≠ .greater) :
    (padded s t x).size + s.size ≤ max limit s.size := by
  have hTarget :
      min (clampedWhole x).toNat maxLength ≤ limit := by
    by_contra hMore
    have hBound : maxLength = 2 ^ 53 - 1 := rfl
    exact hGuard
      (compareFloats_of_reaches (by omega)
        (reaches_clampedWhole (by omega) (by omega)))
  unfold padded
  generalize min (clampedWhole x).toNat maxLength = target at *
  dsimp only
  split_ifs with hNothing
  · have hNone : Units.empty.size = 0 := rfl
    omega
  · have hSlice :=
      Units.size_slice_le
        (t.replicate ((target - s.size) / t.size + 1)) 0
        (target - s.size)
    have hMore : ¬ target ≤ s.size := by
      simp only [Bool.or_eq_true, decide_eq_true_eq, not_or] at hNothing
      exact hNothing.1
    omega

theorem steady_padStart
    (hNumber : Steady w (fun m => toNumber m v) x)
    {u : Value}
    (hFiller : TextOr w " " u t) :
    Steady w
      (fun m =>
        callNative m (.stringMethod .padStart) (.string s) [v, u])
      (.string (padded s t x ++ s)) :=
  (steady_padding hNumber hFiller).bind (.pure _)

theorem steady_padEnd
    (hNumber : Steady w (fun m => toNumber m v) x)
    {u : Value}
    (hFiller : TextOr w " " u t) :
    Steady w
      (fun m =>
        callNative m (.stringMethod .padEnd) (.string s) [v, u])
      (.string (s ++ padded s t x)) :=
  (steady_padding hNumber hFiller).bind (.pure _)

/- The texts of values one after the other. -/
theorem steady_concat
    {vs : List Value}
    {ts : List Units}
    (hTexts : List.Forall₂ (TextOf w) vs ts) :
    Steady w
      (fun m =>
        callNative m (.stringMethod .concat) (.string s) vs)
      (.string (ts.foldl (· ++ ·) s)) := by
  have hLoop :
      ∀ s,
        Steady w
          (fun m =>
            (forIn vs s fun v done => do
              let t ← toUnits m v
              pure (.yield (done ++ t)) : Run Units))
          (ts.foldl (· ++ ·) s) := by
    induction hTexts with
    | nil => exact fun s => .pure s
    | cons hFirst _ ih =>
        intro s
        simp only [List.forIn_cons]
        exact
          Steady.bind (a := .yield (s ++ _))
            (hFirst.units.bind (.pure _)) (ih _)
  exact (hLoop s).bind (.pure _)

end Texts

------------------------------------------------------------
-- Lists
------------------------------------------------------------

section Lists

variable {w w' : World}
variable {v : Value}
variable {s sep : Units}

/- An element always has the same text; no value has none. -/
structure ItemOf (w : World) (v : Value) (s : Units) : Prop where
  some : v.isNullish = false → TextOf w v s
  none : v.isNullish = true → s = .empty

/- A list always has the same elements, as far as it is long. -/
structure ListOf (w : World) (v : Value) (items : List Units) :
    Prop where
  measured :
    ∃ l x, Steady w (fun m => getMember m v (Key.ofString "length")) l ∧
      NumberOf w l x ∧ (items.length : Int) ≤ clampedWhole x
  object :
    ∃ r, v = .object r ∧
      Steady w (fun m => lengthOf m r) items.length ∧
        ∀ i s, items[i]? = Option.some s →
          ∃ u, Steady w (fun m => Library.getItem m r i) u ∧
            ItemOf w u s

theorem ItemOf.later
    (hItem : ItemOf w v s)
    (hGrows : w.Grows w') :
    ItemOf w' v s :=
  ⟨fun hSome => (hItem.some hSome).later hGrows, hItem.none⟩

theorem ListOf.later
    {items : List Units}
    (hList : ListOf w v items)
    (hGrows : w.Grows w') :
    ListOf w' v items where
  measured := by
    rcases hList.measured with ⟨l, x, hLength, hNumber, hCount⟩
    exact
      ⟨l, x, hLength.later hGrows, hNumber.later hGrows, hCount⟩
  object := by
    rcases hList.object with ⟨r, hObject, hLength, hItems⟩
    refine ⟨r, hObject, hLength.later hGrows, ?_⟩
    intro i s hPlace
    rcases hItems i s hPlace with ⟨u, hElement, hItem⟩
    exact ⟨u, hElement.later hGrows, hItem.later hGrows⟩

/- One more element is put behind the others. -/
def joinStep (m : Machine) (r : Ref) (sep : Units) (i : Nat)
    (done : Units) : Run (ForInStep Units) := do
  let v ← Library.getItem m r i
  let done := if i > 0 then done ++ sep else done
  if v.isNullish then
    return .yield done
  else
    return .yield (done ++ (← toUnits m v))

theorem joinItems_eq
    (m : Machine)
    (r : Ref)
    (n : Nat)
    (sep : Units) :
    Library.joinItems m r n sep =
      (do
        return .string
          (← forIn (List.range' 0 n) Units.empty
            (joinStep m r sep))) := by
  unfold Library.joinItems
  dsimp only
  rw [Std.Legacy.Range.forIn_eq_forIn_range']
  have hStep :
      (fun i done => do
          let v ← Library.getItem m r i
          if i > 0 then
            if (!v.isNullish) = true then do
              return .yield (done ++ sep ++ (← toUnits m v))
            else
              return .yield (done ++ sep)
          else
            if (!v.isNullish) = true then do
              return .yield (done ++ (← toUnits m v))
            else
              return .yield done) =
        joinStep m r sep := by
    funext i done
    unfold joinStep
    congr 1
    funext v
    cases v.isNullish <;> by_cases hFirst : i > 0 <;>
      simp [hFirst]
  rw [← hStep]
  have hSize : [0:n].size = n := by
    simp [Std.Legacy.Range.size]
  rw [hSize]

/- The elements behind the first stand behind separators. -/
theorem steady_joinRest
    {r : Ref}
    {rest : List Units}
    {i : Nat}
    (sep : Units)
    (hIndex : 0 < i)
    (hItems :
      ∀ j s, rest[j]? = Option.some s →
        ∃ u, Steady w (fun m => Library.getItem m r (i + j)) u ∧
          ItemOf w u s)
    (done : Units) :
    Steady w
      (fun m =>
        forIn (List.range' i rest.length) done (joinStep m r sep))
      ⟨rest.foldl (fun done t => done ++ sep.units ++ t.units)
        done.units⟩ := by
  induction rest generalizing i done with
  | nil => exact .pure done
  | cons s rest ih =>
      rcases hItems 0 s rfl with ⟨u, hElement, hItem⟩
      have hStep :
          Steady w (fun m => joinStep m r sep i done)
            (.yield (done ++ sep ++ s)) := by
        refine hElement.bind ?_
        simp only [if_pos hIndex]
        cases hNone : u.isNullish with
        | true =>
            rw [hItem.none hNone, Units.append_empty]
            exact .pure _
        | false => exact (hItem.some hNone).units.bind (.pure _)
      simp only [List.length_cons, List.range'_succ, List.forIn_cons]
      refine hStep.bind (ih (by omega) ?_ _)
      intro j t hPlace
      rw [Nat.add_right_comm]
      exact hItems (j + 1) t hPlace

/- The texts of elements with separators between them. -/
theorem steady_joinItems
    {r : Ref}
    {items : List Units}
    (hItems :
      ∀ i s, items[i]? = Option.some s →
        ∃ u, Steady w (fun m => Library.getItem m r i) u ∧
          ItemOf w u s) :
    Steady w (fun m => Library.joinItems m r items.length sep)
      (.string (Units.intercalate sep items)) := by
  simp only [joinItems_eq]
  suffices hAll :
      Steady w
        (fun m =>
          forIn (List.range' 0 items.length) Units.empty
            (joinStep m r sep))
        (Units.intercalate sep items) from
    hAll.bind (.pure _)
  cases items with
  | nil => exact .pure _
  | cons s rest =>
      rcases hItems 0 s rfl with ⟨u, hElement, hItem⟩
      have hStep :
          Steady w (fun m => joinStep m r sep 0 .empty)
            (.yield s) := by
        refine hElement.bind ?_
        cases hNone : u.isNullish with
        | true =>
            rw [hItem.none hNone]
            exact .pure _
        | false =>
            have hFirst := (hItem.some hNone).units
            refine hFirst.bind ?_
            simp only [gt_iff_lt, Nat.lt_irrefl, if_false,
              Units.empty_append]
            exact .pure _
      have hRest :=
        steady_joinRest sep Nat.zero_lt_one
          (fun j t hPlace => by
            rw [Nat.add_comm 1 j]
            exact hItems (j + 1) t hPlace)
          s
      simp only [List.length_cons, List.range'_succ, List.forIn_cons]
      refine hStep.bind ?_
      cases rest with
      | nil => exact .pure s
      | cons t rest => exact hRest

theorem steady_join
    {r : Ref}
    {items : List Units}
    {u : Value}
    (hLength : Steady w (fun m => lengthOf m r) items.length)
    (hItems :
      ∀ i s, items[i]? = Option.some s →
        ∃ u, Steady w (fun m => Library.getItem m r i) u ∧
          ItemOf w u s)
    (hSeparator : TextOr w "," u sep) :
    Steady w
      (fun m => callNative m (.arrayMethod .join) (.object r) [u])
      (.string (Units.intercalate sep items)) := by
  have hJoin :
      Steady w (fun m => Library.joinItems m r items.length sep)
        (.string (Units.intercalate sep items)) :=
    steady_joinItems hItems
  refine Steady.bind (a := r) (.pure r) (hLength.bind ?_)
  intro w' hGrows n
  change
    (if u.isUndefined then _ else _ : Run Value).Yields w' _
  cases hGiven : u.isUndefined with
  | true =>
      rw [if_pos rfl]
      refine Run.Reads.bind (a := Units.ofString ",") ⟨rfl, rfl⟩ ?_
      rw [← hSeparator.absent hGiven]
      exact hJoin w' hGrows n
  | false =>
      rw [if_neg Bool.false_ne_true]
      exact
        ((hSeparator.given hGiven).units w' hGrows n).bind
          fun w'' hMore => hJoin w'' (hGrows.trans hMore) n

/- What an object has itself. -/
theorem has_own
    {r : Ref}
    {o : Object}
    {k : Key}
    {p : Property}
    {b : Bool}
    (hObject : w.objects[r]? = some o)
    (hOwn : o.own? k = some p)
    (hSlot : p.slot = .data v b) :
    Has w r k v := by
  refine ⟨p, b, ?_, hSlot⟩
  obtain ⟨fuel, hFuel⟩ : ∃ n, w.objects.size = n + 1 := by
    have hOld := (Array.getElem?_eq_some_iff.mp hObject).1
    exact ⟨w.objects.size - 1, by omega⟩
  rw [hFuel]
  simp only [lookupIn, hObject, hOwn]

theorem has_item
    {r : Ref}
    {o : Object}
    {i : Nat}
    (hObject : w.objects[r]? = some o)
    (hItem : o.items[i]? = some (some v))
    (hSmall : i < Key.indexBound) :
    Has w r (.ofNat i) v := by
  refine has_own (p := .plain v) hObject ?_ rfl
  unfold Key.ofNat
  rw [if_pos hSmall]
  simp only [Object.own?, hItem]

/- A list of values that always have the same texts. -/
theorem listOf_array
    {r : Ref}
    {o : Object}
    {b : Bool}
    {items : List Units}
    (hObject : w.objects[r]? = some o)
    (hKind : o.kind = .array items.length b)
    (hItems :
      ∀ (i : Nat) (s : Units), items[i]? = some s →
        ∃ v, o.items[i]? = some (some v) ∧ ItemOf w v s)
    (hSmall : items.length ≤ Key.indexBound) :
    ListOf w (.object r) items where
  measured := by
    have hBound : Key.indexBound = 4294967295 := rfl
    refine
      ⟨.ofNat items.length, Decimal.ofNat items.length, ?_,
        numberOf_number w _, ?_⟩
    · have hOwn :
          o.own? Key.length =
            some ⟨.data (.ofNat items.length) b, false, false⟩ := by
        have hKey : Key.length = .text (Units.ofString "length") := by
          decide +kernel
        rw [hKey]
        simp only [Object.own?, Object.special?, hKind, ← hKey,
          beq_self_eq_true, if_true]
      exact (has_own hObject hOwn rfl).steady
    · rw [clampedWhole_ofNat (by omega)]
  object := by
    refine ⟨r, rfl, ?_, ?_⟩
    · refine .of_reads fun w' hGrows n => ?_
      refine (reads_getObject (hGrows.objects r o hObject)).bind ?_
      rw [hKind]
      exact ⟨rfl, rfl⟩
    · intro i s hPlace
      rcases hItems i s hPlace with ⟨v, hItem, hText⟩
      have hLess := (List.getElem?_eq_some_iff.mp hPlace).1
      exact
        ⟨v, (has_item hObject hItem (by omega)).steady, hText⟩

/- An object holds the arguments of a call. -/
def ArgumentsOf (w : World) (r : Ref) (vs : List Value) : Prop :=
  ∃ o, w.objects[r]? = some o ∧ o.kind = .arguments #[] ∧
    o.items = (vs.map some).toArray ∧
      o.named? Key.length = some (.hidden (.ofNat vs.length))

section Arguments

variable {r : Ref}
variable {vs : List Value}

theorem ArgumentsOf.length
    (hArguments : ArgumentsOf w r vs) :
    Has w r Key.length (.ofNat vs.length) := by
  rcases hArguments with ⟨o, hObject, hKind, -, hNamed⟩
  refine has_own (p := .hidden (.ofNat vs.length)) hObject ?_ rfl
  have hKey : Key.length = .text (Units.ofString "length") := by
    decide +kernel
  rw [hKey] at hNamed ⊢
  simp only [Object.own?, Object.special?, hKind, hNamed]

theorem ArgumentsOf.item
    {i : Nat}
    (hArguments : ArgumentsOf w r vs)
    (hPlace : vs[i]? = some v)
    (hSmall : i < Key.indexBound) :
    Has w r (.ofNat i) v := by
  rcases hArguments with ⟨o, hObject, -, hItems, -⟩
  refine has_item hObject ?_ hSmall
  rw [hItems, List.getElem?_toArray, List.getElem?_map, hPlace]
  rfl

theorem ArgumentsOf.steady_length
    (hArguments : ArgumentsOf w r vs)
    (hSmall : vs.length ≤ Key.indexBound) :
    Steady w (fun m => lengthOf m r) vs.length := by
  have hBound : Key.indexBound = 4294967295 := rfl
  have hMost : maxLength = 2 ^ 53 - 1 := rfl
  have hHas := hArguments.length
  rcases hArguments with ⟨o, hObject, hKind, -⟩
  intro w' hGrows n
  refine (reads_getObject (hGrows.objects r o hObject)).bind ?_
  rw [hKind]
  refine (hHas.steady w' hGrows n).bind fun w'' _ => ?_
  have hWhole := clampedWhole_ofNat (k := vs.length) (by omega)
  refine Run.Reads.bind (a := (vs.length : Int)) ⟨hWhole, rfl⟩ ?_
  refine ⟨?_, .refl w''⟩
  rw [Int.toNat_natCast]
  omega

theorem ArgumentsOf.steady_items
    {is : List Nat}
    {us : List Value}
    (hArguments : ArgumentsOf w r vs)
    (hSmall : vs.length ≤ Key.indexBound)
    (hAll : List.Forall₂ (fun i u => vs[i]? = some u) is us) :
    Steady w (fun m => is.mapM fun i => getFrom m r (.ofNat i)) us := by
  induction hAll with
  | nil => exact .pure []
  | @cons i u is us hFirst _ ih =>
      have hLess := (List.getElem?_eq_some_iff.mp hFirst).1
      have hHas := hArguments.item hFirst (by omega)
      simp only [List.mapM_cons]
      exact hHas.steady.bind (ih.bind (.pure _))

/- The arguments are handed on as they are. -/
theorem ArgumentsOf.steady
    (hArguments : ArgumentsOf w r vs)
    (hSmall : vs.length ≤ Key.indexBound) :
    Steady w (fun m => Library.argumentList m (.object r)) vs := by
  have hRange :
      List.Forall₂ (fun i u => vs[i]? = some u)
        (List.range vs.length) vs := by
    rw [List.forall₂_iff_get]
    refine ⟨List.length_range, ?_⟩
    intro i hFirst hSecond
    simp
  exact
    (hArguments.steady_length hSmall).bind
      (hArguments.steady_items hSmall hRange)

end Arguments

end Lists

end Realm

end Devirt
