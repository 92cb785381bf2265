import Devirt.Proofs.Decimal.Describing
import Devirt.Script.Token
import Mathlib.Data.List.TakeWhile
import Mathlib.Tactic.SplitIfs

/-
  Tokens that are literals.

  What a string stands for is settled by the characters between
  its quotes: no escape looks at the quote behind it, so strings
  with other quotes and the same characters are equal.  A number
  is never negative, whatever its base.

  Main declarations:
    * `Script.Lexer.escape_quote`
    * `Script.Lexer.Contents`, `Script.Lexer.Contents.unique`
    * `Script.Lexer.token?_string`
    * `Script.Lexer.IsNumerical`, `Script.Lexer.number?_token`
-/

------------------------------------------------------------
-- Escapes before a Quote
------------------------------------------------------------

namespace Devirt

namespace Script

namespace Lexer

/- The quotes of strings. -/
def IsQuote (q : Char) : Prop :=
  q = '"' ∨ q = '\''

section Quoted

variable {q : Char}

theorem IsQuote.hexValue?
    (hQuote : IsQuote q) :
    Literal.hexValue? q = none := by
  rcases hQuote with rfl | rfl <;> rfl

theorem IsQuote.octalValue?
    (hQuote : IsQuote q) :
    octalValue? q = none := by
  rcases hQuote with rfl | rfl <;> rfl

theorem startsWithDigit_quote
    (hQuote : IsQuote q)
    (cs : List Char) :
    startsWithDigit (cs ++ [q]) = startsWithDigit cs := by
  cases cs with
  | nil => rcases hQuote with rfl | rfl <;> rfl
  | cons c cs => rfl

theorem hexDigits_quote
    (hQuote : IsQuote q)
    {n value m : Nat}
    {cs rest : List Char}
    (hRead : hexDigits n value (cs ++ [q]) = some (m, rest)) :
    ∃ r, rest = r ++ [q] ∧ hexDigits n value cs = some (m, r) := by
  induction n generalizing value cs with
  | zero =>
      rw [hexDigits] at hRead
      cases hRead
      exact ⟨cs, rfl, rfl⟩
  | succ n ih =>
      cases cs with
      | nil =>
          rw [List.nil_append, hexDigits, hQuote.hexValue?] at hRead
          cases hRead
      | cons c cs =>
          rw [List.cons_append, hexDigits] at hRead
          rw [hexDigits]
          cases hDigit : Literal.hexValue? c with
          | none =>
              rw [hDigit] at hRead
              cases hRead
          | some d =>
              rw [hDigit] at hRead
              exact ih hRead

theorem hexDigits_part
    (hQuote : IsQuote q)
    (cs : List Char) :
    ((cs ++ [q]).takeWhile fun c => (Literal.hexValue? c).isSome) =
        (cs.takeWhile fun c => (Literal.hexValue? c).isSome) ∧
      ((cs ++ [q]).dropWhile fun c => (Literal.hexValue? c).isSome) =
        (cs.dropWhile fun c => (Literal.hexValue? c).isSome) ++ [q] := by
  induction cs with
  | nil => simp [hQuote.hexValue?]
  | cons c cs ih =>
      by_cases hHex : (Literal.hexValue? c).isSome
      · simp [hHex, ih]
      · simp [hHex]

theorem codePoint_quote
    (hQuote : IsQuote q)
    {n : Nat}
    {cs rest : List Char}
    (hRead : codePoint (cs ++ [q]) = some (n, rest)) :
    ∃ r, rest = r ++ [q] ∧ codePoint cs = some (n, r) := by
  by_cases hBrace : ∃ ds, cs = '{' :: ds
  · obtain ⟨ds, rfl⟩ := hBrace
    obtain ⟨hTake, hDrop⟩ := hexDigits_part hQuote ds
    rw [List.cons_append] at hRead
    simp only [codePoint, hTake, hDrop] at hRead ⊢
    cases hRest :
        ds.dropWhile fun c => (Literal.hexValue? c).isSome with
    | nil =>
        rw [hRest] at hRead
        rcases hQuote with rfl | rfl <;> cases hRead
    | cons c r =>
        rw [hRest] at hRead
        by_cases hClose : c = '}'
        · subst hClose
          simp only [List.cons_append] at hRead ⊢
          split_ifs at hRead ⊢ with hBad
          cases hRead
          exact ⟨r, rfl, rfl⟩
        · simp [hClose] at hRead
  · have hOther : ∀ ds, cs ++ [q] ≠ '{' :: ds := by
      intro ds hEq
      cases cs with
      | nil =>
          cases hEq
          rcases hQuote with hQ | hQ <;> cases hQ
      | cons c cs =>
          cases hEq
          exact hBrace ⟨cs, rfl⟩
    rw [codePoint.eq_2 _ hOther] at hRead
    rw [codePoint.eq_2 _ fun ds hEq => hBrace ⟨ds, hEq⟩]
    exact hexDigits_quote hQuote hRead

theorem octalEscape_quote
    (hQuote : IsQuote q)
    (first : Nat)
    (cs : List Char) :
    octalEscape first (cs ++ [q]) =
      ((octalEscape first cs).1, (octalEscape first cs).2 ++ [q]) := by
  match cs with
  | [] => simp [octalEscape, hQuote.octalValue?]
  | [a] =>
      simp only [List.cons_append, List.nil_append, octalEscape,
        hQuote.octalValue?]
      cases octalValue? a <;> rfl
  | a :: b :: cs =>
      simp only [List.cons_append, octalEscape]
      cases octalValue? a with
      | none => rfl
      | some x =>
          cases octalValue? b with
          | none => rfl
          | some y =>
              dsimp only
              split_ifs <;> rfl

/- An escape does not look at the quote behind it. -/
theorem escape_quote
    (hQuote : IsQuote q)
    {cs : List Char}
    {e : Escape}
    (hRead : escape (cs ++ [q]) = some e)
    (hMore : e.rest ≠ []) :
    ∃ r,
      e.rest = r ++ [q] ∧
        escape cs = some ⟨e.units, e.isLegacy, r⟩ := by
  cases cs with
  | nil =>
      rcases hQuote with rfl | rfl <;>
        (cases hRead; exact absurd rfl hMore)
  | cons c cs =>
      by_cases hX : c = 'x'
      · subst hX
        rw [List.cons_append, escape] at hRead
        obtain ⟨⟨n, rest⟩, hDigits, rfl⟩ :=
          Option.map_eq_some_iff.mp hRead
        obtain ⟨r, rfl, hInner⟩ := hexDigits_quote hQuote hDigits
        exact ⟨r, rfl, by rw [escape, hInner]; rfl⟩
      by_cases hU : c = 'u'
      · subst hU
        rw [List.cons_append, escape] at hRead
        obtain ⟨⟨n, rest⟩, hDigits, rfl⟩ :=
          Option.map_eq_some_iff.mp hRead
        obtain ⟨r, rfl, hInner⟩ := codePoint_quote hQuote hDigits
        exact ⟨r, rfl, by rw [escape, hInner]; rfl⟩
      by_cases hLine : ∃ ds, c = '\r' ∧ cs = '\n' :: ds
      · obtain ⟨ds, rfl, rfl⟩ := hLine
        rw [List.cons_append, List.cons_append, escape] at hRead
        cases hRead
        exact ⟨ds, rfl, by rw [escape]⟩
      have hBehind :
          ∀ ds, c = '\r' → cs ++ [q] = '\n' :: ds → False := by
        intro ds hReturn hEq
        cases cs with
        | nil =>
            cases hEq
            rcases hQuote with hQ | hQ <;> cases hQ
        | cons d cs =>
            cases hEq
            exact hLine ⟨cs, hReturn, rfl⟩
      rw [List.cons_append, escape.eq_5 c _ hBehind hX hU,
        startsWithDigit_quote hQuote] at hRead
      rw [escape.eq_5 c _
        (fun ds hReturn hEq => hLine ⟨ds, hReturn, hEq⟩) hX hU]
      split_ifs at hRead ⊢ with hEnd hZero
      · cases hRead
        exact ⟨cs, rfl, rfl⟩
      · cases hRead
        exact ⟨cs, rfl, rfl⟩
      cases hOctal : octalValue? c with
      | some d =>
          simp only [hOctal, octalEscape_quote hQuote] at hRead
          cases hRead
          exact ⟨_, rfl, rfl⟩
      | none =>
          rw [hOctal] at hRead
          cases hSimple : simpleEscape? c with
          | some n =>
              rw [hSimple] at hRead
              cases hRead
              exact ⟨cs, rfl, rfl⟩
          | none =>
              rw [hSimple] at hRead
              cases hRead
              exact ⟨cs, rfl, rfl⟩

end Quoted

------------------------------------------------------------
-- Strings up to Their Quotes
------------------------------------------------------------

theorem hexDigits_suffix
    {n value m : Nat}
    {cs rest : List Char}
    (hRead : hexDigits n value cs = some (m, rest)) :
    rest <:+ cs := by
  induction n generalizing value cs with
  | zero =>
      cases hRead
      exact List.suffix_refl _
  | succ n ih =>
      cases cs with
      | nil => cases hRead
      | cons c cs =>
          rw [hexDigits] at hRead
          cases hDigit : Literal.hexValue? c with
          | none =>
              rw [hDigit] at hRead
              cases hRead
          | some d =>
              rw [hDigit] at hRead
              exact (ih hRead).trans (List.suffix_cons c cs)

theorem codePoint_suffix
    {n : Nat}
    {cs rest : List Char}
    (hRead : codePoint cs = some (n, rest)) :
    rest <:+ cs := by
  unfold codePoint at hRead
  split at hRead
  · rename_i ds
    dsimp only at hRead
    split at hRead
    · rename_i hClose
      split_ifs at hRead
      cases hRead
      have hPart :=
        List.dropWhile_suffix (l := ds) fun c =>
          (Literal.hexValue? c).isSome
      rw [hClose] at hPart
      exact
        ((List.suffix_cons '}' _).trans hPart).trans
          (List.suffix_cons '{' ds)
    · cases hRead
  · exact hexDigits_suffix hRead

theorem octalEscape_suffix
    (first : Nat)
    (cs : List Char) :
    (octalEscape first cs).2 <:+ cs := by
  unfold octalEscape
  split
  · split
    · split_ifs
      · exact ⟨[_, _], rfl⟩
      · exact List.suffix_cons _ _
    · exact List.suffix_cons _ _
    · exact List.suffix_refl _
  · split
    · exact List.suffix_cons _ _
    · exact List.suffix_refl _
  · exact List.suffix_refl _

theorem escape_suffix
    {cs : List Char}
    {e : Escape}
    (hRead : escape cs = some e) :
    e.rest <:+ cs := by
  unfold escape at hRead
  split at hRead
  · cases hRead
  · cases hRead
    exact ⟨['\r', '\n'], rfl⟩
  · obtain ⟨⟨n, rest⟩, hDigits, rfl⟩ :=
      Option.map_eq_some_iff.mp hRead
    exact (hexDigits_suffix hDigits).trans (List.suffix_cons _ _)
  · obtain ⟨⟨n, rest⟩, hPoint, rfl⟩ :=
      Option.map_eq_some_iff.mp hRead
    exact (codePoint_suffix hPoint).trans (List.suffix_cons _ _)
  · rename_i c ds _ _ _
    have hBehind : ds <:+ c :: ds := List.suffix_cons c ds
    split_ifs at hRead
    · cases hRead
      exact hBehind
    · cases hRead
      exact hBehind
    split at hRead
    · cases hRead
      exact (octalEscape_suffix _ ds).trans hBehind
    · split at hRead <;> (cases hRead; exact hBehind)

/- A string that is read to the end ends with its quote. -/
theorem stringFrom_ends
    {q : Char}
    {fuel : Nat}
    {l p : Bool}
    {done : Array UInt16}
    {cs : List Char}
    {token : Token}
    (hRead : stringFrom q fuel l p done cs = some (token, [])) :
    [q] <:+ cs := by
  induction fuel generalizing l p done cs with
  | zero => cases hRead
  | succ fuel ih =>
      cases cs with
      | nil => cases hRead
      | cons c cs =>
          rw [stringFrom] at hRead
          split_ifs at hRead with hEnd hSlash hBreak
          · cases hRead
            obtain rfl := beq_iff_eq.mp hEnd
            exact List.suffix_refl _
          · split at hRead
            · rename_i e hEscape
              exact
                ((ih hRead).trans (escape_suffix hEscape)).trans
                  (List.suffix_cons c cs)
            · cases hRead
          · exact (ih hRead).trans (List.suffix_cons c cs)

/-
  What the characters between quotes stand for.
-/
inductive Contents : List Char → List UInt16 → Prop where
  | nil :
      Contents [] []
  | char
      (c : Char)
      {cs : List Char}
      {units : List UInt16}
      (hPlain : c ≠ '\\') :
      Contents cs units →
        Contents (c :: cs) (Units.ofCodePoint c.toNat ++ units)
  | escape
      {cs : List Char}
      {e : Escape}
      {units : List UInt16}
      (hEscape : escape cs = some e) :
      Contents e.rest units →
        Contents ('\\' :: cs) (e.units ++ units)

theorem Contents.unique
    {body : List Char}
    {units others : List UInt16}
    (hUnits : Contents body units)
    (hOthers : Contents body others) :
    units = others := by
  induction hUnits generalizing others with
  | nil =>
      cases hOthers
      rfl
  | char c hPlain _ ih =>
      cases hOthers with
      | char _ _ hRest => rw [ih hRest]
      | escape _ _ => exact absurd rfl hPlain
  | escape hEscape _ ih =>
      cases hOthers with
      | char _ hPlain _ => exact absurd rfl hPlain
      | escape hOther hRest =>
          rw [hEscape] at hOther
          cases hOther
          rw [ih hRest]

theorem stringFrom_contents
    {q : Char}
    (hQuote : IsQuote q)
    {fuel : Nat}
    {l p l' p' : Bool}
    {done : Array UInt16}
    {body : List Char}
    {s : Units}
    (hRead :
      stringFrom q fuel l p done (body ++ [q]) =
        some (.string s l' p', [])) :
    ∃ units, Contents body units ∧ s = ⟨done ++ units.toArray⟩ := by
  induction fuel generalizing l p done body with
  | zero =>
      rw [stringFrom] at hRead
      cases hRead
  | succ fuel ih =>
      cases body with
      | nil =>
          rw [List.nil_append, stringFrom,
            if_pos (beq_self_eq_true q)] at hRead
          cases hRead
          exact ⟨[], .nil, by simp⟩
      | cons c cs =>
          rw [List.cons_append, stringFrom] at hRead
          split_ifs at hRead with hEnd hSlash hBreak
          · cases cs <;> cases hRead
          · cases hEscape : escape (cs ++ [q]) with
            | none =>
                rw [hEscape] at hRead
                cases hRead
            | some e =>
                simp only [hEscape] at hRead
                have hMore : e.rest ≠ [] := by
                  intro hNil
                  rw [hNil] at hRead
                  cases fuel <;> cases hRead
                obtain ⟨r, hRest, hInner⟩ :=
                  escape_quote hQuote hEscape hMore
                rw [hRest] at hRead
                obtain ⟨units, hContents, rfl⟩ := ih hRead
                refine ⟨e.units ++ units, ?_, by simp⟩
                rw [beq_iff_eq.mp hSlash]
                have hWhole := Contents.escape hInner hContents
                exact hWhole
          · obtain ⟨units, hContents, rfl⟩ := ih hRead
            refine
              ⟨Units.ofCodePoint c.toNat ++ units,
                .char c ?_ hContents, by simp⟩
            simpa using hSlash

------------------------------------------------------------
-- Kinds of Tokens
------------------------------------------------------------

theorem closeNumber_token
    {t token : Token}
    {cs rest : List Char}
    (hRead : closeNumber t cs = some (token, rest)) :
    token = t := by
  unfold closeNumber at hRead
  split_ifs at hRead
  cases hRead
  rfl

theorem stringFrom_token
    {q : Char}
    {fuel : Nat}
    {isLegacy isPlain : Bool}
    {done : Array UInt16}
    {cs rest : List Char}
    {token : Token}
    (hRead :
      stringFrom q fuel isLegacy isPlain done cs =
        some (token, rest)) :
    ∃ s l p, token = .string s l p := by
  induction fuel generalizing isLegacy isPlain done cs with
  | zero => cases hRead
  | succ fuel ih =>
      cases cs with
      | nil => cases hRead
      | cons c cs =>
          rw [stringFrom] at hRead
          split_ifs at hRead
          · cases hRead
            exact ⟨_, _, _, rfl⟩
          · split at hRead
            · exact ih hRead
            · cases hRead
          · exact ih hRead

theorem templateFrom_token
    {start : List Char}
    {fuel : Nat}
    {cooked : Option (Array UInt16)}
    {cs rest : List Char}
    {token : Token}
    (hRead : templateFrom start fuel cooked cs = some (token, rest)) :
    ∃ chunk isLast, token = .template chunk isLast := by
  induction fuel generalizing cooked cs with
  | zero => cases hRead
  | succ fuel ih =>
      unfold templateFrom at hRead
      split at hRead
      · cases hRead
      · cases hRead
        exact ⟨_, _, rfl⟩
      · cases hRead
        exact ⟨_, _, rfl⟩
      · split at hRead <;> exact ih hRead
      all_goals exact ih hRead

theorem mark?_token
    {cs rest : List Char}
    {token : Token}
    (hRead : mark? cs = some (token, rest)) :
    ∃ m, token = .mark m := by
  obtain ⟨m, -, hMark⟩ := List.exists_of_findSome?_eq_some hRead
  split at hMark
  · split_ifs at hMark
    cases hMark
    exact ⟨m, rfl⟩
  · cases hMark

/- A number or a large integer, and no other token. -/
def IsNumerical : Token → Prop
  | .number x _ => Decimal.IsNumeral x
  | .bigint _ => True
  | _ => False

theorem basedNumber_token
    {base : Nat}
    {cs rest : List Char}
    {token : Token}
    (hRead : basedNumber base cs = some (token, rest)) :
    IsNumerical token := by
  unfold basedNumber at hRead
  obtain ⟨⟨digits, behind⟩, -, hRead⟩ :=
    Option.bind_eq_some_iff.mp hRead
  dsimp only at hRead
  split_ifs at hRead
  split at hRead
  · rw [closeNumber_token hRead]
    trivial
  · rw [closeNumber_token hRead]
    exact Decimal.isNumeral_ofScaled _ _

theorem afterWhole_token
    {whole cs rest : List Char}
    {isLegacy : Bool}
    {token : Token}
    (hRead : afterWhole whole isLegacy cs = some (token, rest)) :
    IsNumerical token := by
  unfold afterWhole at hRead
  dsimp only at hRead
  have hTail :
      ∀ {fraction behind : List Char},
        ((exponentPart behind).bind fun read =>
            closeNumber
              (.number (Decimal.ofNumeral whole fraction read.1)
                isLegacy)
              read.2) =
          some (token, rest) →
        IsNumerical token := by
    intro fraction behind hRead
    obtain ⟨⟨exponent, last⟩, -, hClose⟩ :=
      Option.bind_eq_some_iff.mp hRead
    rw [closeNumber_token hClose]
    exact Decimal.isNumeral_ofScaled _ _
  split at hRead
  · obtain ⟨⟨fraction, behind⟩, -, hRead⟩ :=
      Option.bind_eq_some_iff.mp hRead
    exact hTail hRead
  · exact hTail hRead

theorem legacyNumber_token
    {cs rest : List Char}
    {token : Token}
    (hRead : legacyNumber cs = some (token, rest)) :
    IsNumerical token := by
  unfold legacyNumber at hRead
  dsimp only at hRead
  split_ifs at hRead
  · rw [closeNumber_token hRead]
    exact Decimal.isNumeral_ofScaled _ _
  · exact afterWhole_token hRead

theorem number?_token
    {cs rest : List Char}
    {token : Token}
    (hRead : number? cs = some (token, rest)) :
    IsNumerical token := by
  unfold number? at hRead
  split at hRead
  · split_ifs at hRead
    · exact basedNumber_token hRead
    · exact basedNumber_token hRead
    · exact basedNumber_token hRead
    · exact legacyNumber_token hRead
    · rw [closeNumber_token hRead]
      trivial
    · exact afterWhole_token hRead
  · exact afterWhole_token hRead
  · obtain ⟨⟨whole, behind⟩, -, hRead⟩ :=
      Option.bind_eq_some_iff.mp hRead
    dsimp only at hRead
    split at hRead
    · rw [closeNumber_token hRead]
      trivial
    · exact afterWhole_token hRead

/- A text that is a string stands between quotes. -/
theorem token?_string
    {u : List Char}
    {s : Units}
    {l p : Bool}
    (hRead : token? u = some (.string s l p, [])) :
    ∃ q body units,
      IsQuote q ∧
        u = q :: (body ++ [q]) ∧
          Contents body units ∧ s = ⟨units.toArray⟩ := by
  have hQuoted :
      ∀ {q : Char} {cs : List Char},
        IsQuote q →
          u = q :: cs →
            stringFrom q (cs.length + 1) false true #[] cs =
                some (.string s l p, []) →
              ∃ q body units,
                IsQuote q ∧
                  u = q :: (body ++ [q]) ∧
                    Contents body units ∧ s = ⟨units.toArray⟩ := by
    rintro q cs hQuote rfl hString
    obtain ⟨body, rfl⟩ := stringFrom_ends hString
    obtain ⟨units, hContents, rfl⟩ :=
      stringFrom_contents hQuote hString
    exact ⟨q, body, units, hQuote, rfl, hContents, by simp⟩
  unfold token? at hRead
  split at hRead
  · cases hRead
  · exact hQuoted (Or.inl rfl) rfl hRead
  · exact hQuoted (Or.inr rfl) rfl hRead
  · obtain ⟨_, _, hToken⟩ := templateFrom_token hRead
    cases hToken
  · obtain ⟨_, -, hToken⟩ := Option.map_eq_some_iff.mp hRead
    cases hToken
  · split_ifs at hRead
    · exact absurd (number?_token hRead) id
    · obtain ⟨_, -, hToken⟩ := Option.map_eq_some_iff.mp hRead
      cases hToken
    · obtain ⟨_, hToken⟩ := mark?_token hRead
      cases hToken

end Lexer

end Script

end Devirt
