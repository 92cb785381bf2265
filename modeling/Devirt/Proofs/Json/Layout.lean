import Devirt.Json.Printer
import Devirt.Proofs.Decimal.Numerals
import Devirt.Proofs.Json.RoundTrip

/-
  Documents with one item a line are read as what they say.

  A finite double is written by digits that stay in the range
  of doubles, so it is read as some double.  Line ends and
  indentation are blanks to the reader, so a laid-out object is
  read field by field.

  Main declarations:
    * `Json.unsignedNumber_numeral`, `Json.reads_real`
    * `Json.reads_object`
    * `Json.parse_pretty`
-/

------------------------------------------------------------
-- Doubles
------------------------------------------------------------

namespace Devirt

namespace Json

open Decimal (Numeral Digits natOfDigits takeWhile_run)

section Numerals

variable {n : Numeral}
variable {d : Digits}
variable {rest : List Char}

/- The digits in reach are scaled to some double. -/
theorem scale_numeral
    (hWrites : n.Writes d)
    (hFinite : d.Finite) :
    ∃ x, Number.scale n.significand n.exponent = some x := by
  by_cases hDown : n.exponent < 0
  · unfold Number.scale
    rw [if_pos hDown]
    exact ⟨_, rfl⟩
  · rcases hWrites.same (by omega) with
      ⟨hPositive, hSignificand, hExponent⟩
    have hNatural : n.exponent = (n.exponent.toNat : Int) := by
      omega
    rw [hSignificand, hNatural]
    exact
      Number.scale_isSome hPositive hFinite.small
        (hFinite.reach _ (by omega))

/- Neither a power nor what follows it begins with a digit. -/
theorem stops_power
    (hEnds : Ends rest) :
    ∀ c ∈ (n.powerText ++ rest).head?, isDigit c = false := by
  unfold Numeral.powerText
  split
  · intro c hFirst
    exact (hEnds c hFirst).1
  · intro c hFirst
    simp only [List.cons_append, List.head?_cons,
      Option.mem_some] at hFirst
    subst hFirst
    rfl

theorem takeWhile_stops
    (hStops : ∀ c ∈ rest.head?, isDigit c = false) :
    rest.takeWhile isDigit = [] ∧ rest.dropWhile isDigit = rest :=
  takeWhile_run (List.forall_mem_nil _) hStops

theorem exponentDigits_power
    {mark : List Char}
    {e : Nat}
    (hMark : mark = ['-'] ∨ mark = ['+'] ∨ mark = [])
    (hEnds : Ends rest) :
    exponentDigits (mark ++ (Nat.toDigits 10 e ++ rest)) =
      some (if mark = ['-'] then -(e : Int) else e, rest) := by
  rcases takeWhile_run (p := isDigit)
      (fun c hDigit => isDigit_toDigits (n := e) hDigit)
      (fun c hFirst => (hEnds c hFirst).1) with ⟨hTake, hDrop⟩
  have hValue : natOfDigits (Nat.toDigits 10 e) = e :=
    Nat.ofDigitChars_ten_toDigits
  have hSome : (Nat.toDigits 10 e).isEmpty = false := by
    simp [Nat.toDigits_ne_nil]
  rcases hMark with rfl | rfl | rfl
  · simp only [exponentDigits, List.cons_append, List.nil_append,
      hTake, hDrop, hSome, hValue]
    rfl
  · simp only [exponentDigits, List.cons_append, List.nil_append,
      hTake, hDrop, hSome, hValue]
    rfl
  · rcases exists_toDigits_isDigit e with
      ⟨c, cs, hDigits, hDigit⟩
    rw [hDigits] at hTake hDrop hSome hValue ⊢
    simp only [List.cons_append, List.nil_append] at hTake hDrop ⊢
    unfold exponentDigits
    split
    · next hSplit =>
        split at hSplit
        · next hPlus =>
            cases hPlus
            exact absurd hDigit (by decide)
        · next hMinus =>
            cases hMinus
            exact absurd hDigit (by decide)
        · cases hSplit
          simp only [hTake, hDrop, hSome, hValue]
          rfl

/- What follows the digits of a double is its power. -/
theorem finishReal_power
    (negative : Bool)
    (significand : Nat)
    (exponent : Int)
    {x : Float}
    (hMark :
      ∀ p ∈ n.power, p.1 = ['-'] ∨ p.1 = ['+'] ∨ p.1 = [])
    (hScale :
      Number.scale significand (exponent + n.powerValue) = some x)
    (hEnds : Ends rest) :
    finishReal negative significand exponent (n.powerText ++ rest) =
      some (.real (signed negative x), rest) := by
  unfold Numeral.powerText
  unfold Numeral.powerValue at hScale
  split
  · next hNone =>
      simp only [hNone, add_zero] at hScale
      cases rest with
      | nil => simp [finishReal, hScale]
      | cons c rest =>
          rcases hEnds c (by simp) with ⟨-, -, hLower, hUpper⟩
          simp [finishReal, hLower, hUpper, hScale]
  · next mark e hPower =>
      simp only [hPower] at hScale
      have hDigits :=
        exponentDigits_power (e := e) (hMark _ hPower) hEnds
      simp only at hDigits
      simp [finishReal, hDigits, hScale]

/- Behind the whole digits follow a fraction and a power. -/
theorem finishFraction_numeral
    (negative : Bool)
    {x : Float}
    (hWrites : n.Writes d)
    (hScale : Number.scale n.significand n.exponent = some x)
    (hEnds : Ends rest) :
    finishFraction negative (natOfDigits n.whole) 0
        (n.pointText ++ (n.powerText ++ rest)) =
      some (.real (signed negative x), rest) := by
  have hStops := stops_power (n := n) hEnds
  unfold Numeral.pointText
  split_ifs with hNone
  · rw [List.isEmpty_iff] at hNone
    have hSame : n.significand = natOfDigits n.whole := by
      rw [Numeral.significand, hNone, List.append_nil]
    have hExponent : n.exponent = 0 + n.powerValue := by
      rw [Numeral.exponent, hNone]
      simp
    rw [hSame, hExponent] at hScale
    have hRest :=
      finishReal_power negative _ 0 hWrites.mark hScale hEnds
    have hPower := hWrites.isReal.resolve_left (by simp [hNone])
    rw [List.nil_append]
    unfold finishFraction
    split
    · next hPoint =>
        unfold Numeral.powerText at hPoint
        split at hPoint
        · next hOther => exact absurd hOther hPower
        · cases hPoint
    · exact hRest
  · have hSmall := hWrites.small
    have hDigits : ∀ c ∈ n.fraction, isDigit c = true :=
      hWrites.fractionDigits
    have hAll :
        Nat.ofDigitChars 10 n.fraction (natOfDigits n.whole) =
          n.significand :=
      (Nat.ofDigitChars_append 0).symm
    have hTaken :=
      takeSignificand_digits (natOfDigits n.whole) 0 hDigits
        (by rw [hAll]; exact hSmall) hStops
    rcases takeWhile_run hDigits hStops with ⟨hTake, -⟩
    have hDrop := (takeWhile_stops hStops).2
    have hExponent :
        n.exponent = 0 - (n.fraction.length : Int) + n.powerValue := by
      rw [Numeral.exponent]
      omega
    rw [hExponent] at hScale
    simp only [List.cons_append, finishFraction, hTaken, hTake,
      hNone, hDrop, hAll, zero_add]
    exact finishReal_power negative _ _ hWrites.mark hScale hEnds

/- A numeral in reach is read as a double. -/
theorem unsignedNumber_numeral
    (negative : Bool)
    {x : Float}
    (hWrites : n.Writes d)
    (hScale : Number.scale n.significand n.exponent = some x)
    (hEnds : Ends rest) :
    unsignedNumber negative (n.text ++ rest) =
      some (.real (signed negative x), rest) := by
  have hFinish :=
    finishFraction_numeral negative hWrites hScale hEnds
  rw [Numeral.text, List.append_assoc, List.append_assoc]
  rcases hWrites.follows rest with
    ⟨c, cs, hFollows, hMark⟩
  rw [hFollows] at hFinish ⊢
  have hNoDigit : isDigit c = false := by
    rcases hMark with rfl | rfl <;> rfl
  have hReal : (c == '.' || c == 'e' || c == 'E') = true := by
    rcases hMark with rfl | rfl <;> rfl
  rcases hWrites.lead with hZero | ⟨l, ls, hWhole, hLead⟩
  · rw [hZero] at hFinish ⊢
    have hNothing : natOfDigits ['0'] = 0 := rfl
    rw [hNothing] at hFinish
    simp only [List.cons_append, List.nil_append, unsignedNumber,
      hNoDigit, hReal, if_true]
    exact hFinish
  · have hStops :
        ∀ b ∈ (c :: cs).head?, isDigit b = false := by
      simpa using hNoDigit
    have hDigits : ∀ b ∈ n.whole, isDigit b = true :=
      hWrites.wholeDigits
    have hSmall : natOfDigits n.whole < Number.naturalBound := by
      refine Nat.lt_of_le_of_lt ?_ hWrites.small
      exact
        (le_ofDigitChars n.fraction _).trans_eq
          (Nat.ofDigitChars_append 0).symm
    have hTaken :=
      takeSignificand_digits 0 0 hDigits hSmall hStops
    rcases takeWhile_stops hStops with ⟨hTake, hDrop⟩
    rw [hWhole] at hTaken hFinish ⊢
    simp only [List.cons_append] at hTaken ⊢
    unfold unsignedNumber
    split
    · next hNone => cases hNone
    · next hSame =>
        cases hSame
        exact absurd rfl hLead
    · have hRead :
          finishFraction negative
              (Nat.ofDigitChars 10 (l :: ls) 0) 0 (c :: cs) =
            some (.real (signed negative x), rest) := hFinish
      simp only [hTaken, hTake, hDrop, hReal]
      simpa using hRead

theorem readNumber_signed
    (minus : Bool)
    {x : Float}
    (hWrites : n.Writes d)
    (hScale : Number.scale n.significand n.exponent = some x)
    (hEnds : Ends rest) :
    readNumber ((if minus then ['-'] else []) ++ n.text ++ rest) =
      some (.real (signed minus x), rest) := by
  have hRead := unsignedNumber_numeral minus hWrites hScale hEnds
  cases minus with
  | true => simpa [readNumber] using hRead
  | false =>
      rcases hWrites.begins with ⟨c, cs, hText, hDigit⟩
      simp only [Bool.false_eq_true, if_false, List.nil_append]
      rw [hText, List.cons_append] at hRead ⊢
      unfold readNumber
      split
      · next hMinus =>
          cases hMinus
          exact absurd hDigit (by decide)
      · exact hRead

theorem style_isReal : style.IsReal :=
  ⟨rfl, Int.le_refl _⟩

/- A finite double is read as some double. -/
theorem reads_real
    {x : Float}
    (hNumber : x.isNaN = false)
    (hFinite : x.isInf = false) :
    ∃ y, ∀ depth,
      Reads (readValue depth) (Number.real x).write.toList
        (.number (.real y)) := by
  have hText : (Number.real x).write = style.write x := by
    simp only [Number.write, hNumber, hFinite, Bool.or_false,
      Bool.false_eq_true, if_false]
  rcases Decimal.Style.write_parts style_isReal hNumber
      hFinite with ⟨minus, n, d, hParts, hWrites, hDigits⟩
  rcases scale_numeral hWrites hDigits with ⟨y, hScale⟩
  refine ⟨signed minus y, fun depth => ?_⟩
  have hBegins :
      ∃ c cs,
        (if minus then ['-'] else []) ++ n.text = c :: cs ∧
          (isDigit c = true ∨ c = '-') := by
    rcases hWrites.begins with ⟨c, cs, hBegins, hDigit⟩
    cases minus with
    | true => exact ⟨'-', n.text, rfl, Or.inr rfl⟩
    | false => exact ⟨c, cs, hBegins, Or.inl hDigit⟩
  rcases hBegins with ⟨c, cs, hFirst, hSign⟩
  rw [hText, hParts]
  apply reads_scalar depth hFirst (number_begins hSign)
  intro rest hEnds
  have hRead := readNumber_signed minus hWrites hScale hEnds
  rw [hFirst, List.cons_append] at hRead ⊢
  rw [readScalar_number _ hSign, hRead]
  rfl

end Numerals

end Json

end Devirt

------------------------------------------------------------
-- Objects
------------------------------------------------------------

namespace Devirt

namespace Json

theorem readValue_blank
    (depth : Nat)
    (cs : List Char) :
    readValue depth (' ' :: cs) = readValue depth cs := by
  cases depth with
  | zero => rfl
  | succ depth => rfl

/- How a field of a laid-out object is written. -/
def prettyField (level : Nat) (f : String × Json) : String :=
  quote f.1 ++ ": " ++ prettyAt level f.2

theorem prettyFields_eq_map
    (level : Nat)
    (fields : List (String × Json)) :
    prettyFields level fields = fields.map (prettyField level) := by
  induction fields with
  | nil => rfl
  | cons f rest ih =>
      rw [prettyFields, ih, List.map_cons]
      rfl

theorem isBlank_inner
    (level : Nat) :
    IsBlank ('\n' :: (indent level).toList) := by
  intro c hMember
  rcases List.mem_cons.mp hMember with rfl | hIndent
  · rfl
  · rw [indent, String.toList_ofList] at hIndent
    rw [List.eq_of_mem_replicate hIndent]
    rfl

/- A field is read as its name and what its value is read as. -/
theorem reads_prettyField
    {depth level : Nat}
    (name : String)
    {v w : Json}
    (hValue :
      Reads (readValue depth) (prettyAt level v).toList w) :
    Reads (readField (readValue depth))
      (prettyField level (name, v)).toList (name, w) := by
  have hText :
      (prettyField level (name, v)).toList =
        (quote name).toList ++
          ':' :: ' ' :: (prettyAt level v).toList := by
    simp [prettyField]
  refine ⟨?_, ?_⟩
  · rw [hText, toList_quote]
    exact ⟨'"', _, rfl, by decide⟩
  · intro rest hEnds
    rw [hText, List.append_assoc, List.cons_append,
      List.cons_append]
    simp only [readField, readString_quote,
      skipSpace_cons _ (show isSpace ':' = false from rfl),
      Option.bind_eq_bind, Option.bind_some, readValue_blank,
      hValue.read rest hEnds]
    rfl

theorem toList_block
    (level : Nat)
    {lines : List String}
    (hSome : lines ≠ []) :
    (block "\x7b" "\x7d" level lines).toList =
      '{' :: (('\n' :: (indent (level + 1)).toList) ++
        ((',' :: '\n' :: (indent (level + 1)).toList).intercalate
            (lines.map String.toList) ++
          (('\n' :: (indent level).toList) ++ ['}']))) := by
  have hNotEmpty : lines.isEmpty = false := by simpa using hSome
  simp [block, hNotEmpty]

/-
  A laid-out object is read field by field.  Its fields hold
  values of some type, each of which is written as one value and
  read as another.
-/
theorem reads_object
    {α : Type}
    {depth level : Nat}
    (write read : α → Json)
    {fields : List (String × α)}
    (hSome : fields ≠ [])
    (hFields :
      ∀ f ∈ fields,
        Reads (readValue depth)
          (prettyAt (level + 1) (write f.2)).toList (read f.2)) :
    Reads (readValue (depth + 1))
      (prettyAt level
        (.object (fields.map fun f => (f.1, write f.2)))).toList
      (.object (fields.map fun f => (f.1, read f.2))) := by
  simp only [prettyAt, prettyFields_eq_map]
  rw [toList_block level (by simpa using hSome)]
  refine ⟨⟨'{', _, rfl, by decide⟩, ?_⟩
  intro rest hEnds
  have hItems :
      ∀ item ∈ fields.map (fun f =>
          ((prettyField (level + 1) (f.1, write f.2)).toList,
            (f.1, read f.2))),
        Reads (readField (readValue depth)) item.1 item.2 := by
    intro item hMember
    rcases List.mem_map.mp hMember with ⟨f, hField, rfl⟩
    dsimp only
    exact reads_prettyField f.1 (hFields f hField)
  have hRead :=
    listUntil_reads rest (Or.inr rfl) (isBlank_inner (level + 1))
      (isBlank_inner level) hItems (by simpa using hSome)
  simp only [List.map_map, Function.comp_def] at hRead
  simp only [List.cons_append, List.append_assoc, List.map_map,
    Function.comp_def, List.nil_append, readValue,
    skipSpace_cons _ (show isSpace '{' = false from rfl)]
    at hRead ⊢
  rw [hRead]
  rfl

/- What is read as a value is parsed as it. -/
theorem parse_pretty
    {v w : Json}
    (hReads :
      Reads (readValue depthLimit) (prettyAt 0 v).toList w) :
    parse v.pretty = some w :=
  hReads.parseWith_eq

end Json

end Devirt
