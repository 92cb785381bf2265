import Devirt.Proofs.Script.Literals
import Devirt.Proofs.Source.Keywords

/-
  How tokens are written.

  In a text without slashes, backticks and backslashes, nothing
  but blanks stands between two tokens, and each token is
  written in one of a few ways: a word and a numeral up to where
  neither can go on, a string between its quotes, a mark as it
  is.

  Main declarations:
    * `Bare`
    * `Spelled`, `Lexeme.spelled_of_next?`
    * `Token.IsBare`, `Lexeme.bare_of_next?`
-/

------------------------------------------------------------
-- Parts of Texts
------------------------------------------------------------

namespace Devirt

namespace Script

/- Characters that open nothing but words, marks and strings. -/
def Bare (cs : List Char) : Prop :=
  ∀ c ∈ cs, c ≠ '/' ∧ c ≠ '`' ∧ c ≠ '\\'

theorem Bare.of_append
    {text rest : List Char}
    (hBare : Bare (text ++ rest)) :
    Bare text ∧ Bare rest :=
  List.forall_mem_append.mp hBare

/- A bare text of ASCII characters. -/
structure IsSimple (cs : List Char) : Prop where
  ascii : ∀ c ∈ cs, c.toNat < 128
  bare : Bare cs

theorem IsSimple.of_append
    {text rest : List Char}
    (hSimple : IsSimple (text ++ rest)) :
    IsSimple text ∧ IsSimple rest := by
  rcases List.forall_mem_append.mp hSimple.ascii with
    ⟨hLeft, hRight⟩
  exact ⟨⟨hLeft, hSimple.bare.of_append.1⟩, hRight,
    hSimple.bare.of_append.2⟩

instance (cs : List Char) : Decidable (IsSimple cs) :=
  decidable_of_iff
    ((cs.all fun c => c.toNat < 128) = true ∧
      (cs.all fun c => c != '/' && c != '`' && c != '\\') = true)
    ⟨fun hBoth =>
        ⟨by simpa using hBoth.1, by
          simpa [Bare, and_assoc] using hBoth.2⟩,
      fun hSimple =>
        ⟨by simpa using hSimple.ascii, by
          simpa [Bare, and_assoc] using hSimple.bare⟩⟩

/- A text goes on with some characters up to a later part. -/
def GoesOn
    (fits : Char → Prop)
    (cs rest : List Char) :
    Prop :=
  ∃ text, cs = text ++ rest ∧ ∀ c ∈ text, fits c

namespace GoesOn

variable {fits others : Char → Prop}
variable {cs middle rest : List Char}

theorem refl (cs : List Char) : GoesOn fits cs cs :=
  ⟨[], rfl, nofun⟩

theorem cons
    {c : Char}
    (hFits : fits c)
    (hRest : GoesOn fits cs rest) :
    GoesOn fits (c :: cs) rest := by
  rcases hRest with ⟨text, rfl, hText⟩
  exact ⟨c :: text, rfl,
    List.forall_mem_cons.mpr ⟨hFits, hText⟩⟩

theorem trans
    (hFirst : GoesOn fits cs middle)
    (hSecond : GoesOn fits middle rest) :
    GoesOn fits cs rest := by
  rcases hFirst with ⟨text, rfl, hText⟩
  rcases hSecond with ⟨more, rfl, hMore⟩
  exact ⟨text ++ more, (List.append_assoc _ _ _).symm,
    List.forall_mem_append.mpr ⟨hText, hMore⟩⟩

theorem mono
    (hGoes : GoesOn fits cs rest)
    (hFits : ∀ c, fits c → others c) :
    GoesOn others cs rest := by
  rcases hGoes with ⟨text, rfl, hText⟩
  exact ⟨text, rfl, fun c hMember => hFits c (hText c hMember)⟩

end GoesOn

namespace Lexer

/- What stands between tokens that are not apart by comments. -/
def IsBlank (c : Char) : Prop :=
  isLineEnd c = true ∨ isSpace c = true

theorem skip_goesOn
    {newline later : Bool}
    {cs start : List Char}
    (hBare : Bare cs)
    (hSkip : skip .open newline cs = some (later, start)) :
    GoesOn IsBlank cs start := by
  induction cs generalizing newline with
  | nil =>
      cases hSkip
      exact GoesOn.refl []
  | cons c cs ih =>
      rcases List.forall_mem_cons.mp hBare with ⟨hFirst, hRest⟩
      have hOpen :
          skip .open newline (c :: cs) =
            if isLineEnd c then skip .open true cs
            else if isSpace c then skip .open newline cs
            else some (newline, c :: cs) := by
        have hSlash : c ≠ '/' := hFirst.1
        cases cs <;> simp [skip, hSlash]
      rw [hOpen] at hSkip
      split_ifs at hSkip with hEnd hSpace
      · exact (ih hRest hSkip).cons (Or.inl hEnd)
      · exact (ih hRest hSkip).cons (Or.inr hSpace)
      · cases hSkip
        exact GoesOn.refl _

------------------------------------------------------------
-- Names
------------------------------------------------------------

/- Characters that a name is written with. -/
def IsNameChar (c : Char) : Prop :=
  Text.isIdStart c = true ∨ Text.isIdContinue c = true

/- A name that goes no further. -/
structure IsName (text rest : List Char) : Prop where
  ne_nil : text ≠ []
  chars : ∀ c ∈ text, IsNameChar c
  ends : ∀ c ∈ rest.head?, Text.isIdContinue c = false

/- Without escapes, a name is what is written. -/
theorem nameFrom_eq
    {fuel : Nat}
    {first escaped isEscaped : Bool}
    {done cs rest : List Char}
    {x : String}
    (hBare : Bare cs)
    (hName :
      nameFrom fuel first escaped done cs =
        some (x, isEscaped, rest)) :
    ∃ text,
      cs = text ++ rest ∧
        x = String.ofList (done.reverse ++ text) ∧
          (∀ c ∈ text, IsNameChar c) ∧
            (∀ c ∈ rest.head?, Text.isIdContinue c = false) ∧
              (first = true → text ≠ []) := by
  induction fuel generalizing first escaped done cs with
  | zero => cases hName
  | succ fuel ih =>
      have hEnd :
          ∀ {cs : List Char},
            (∀ c ∈ cs.head?,
              first = false → Text.isIdContinue c = false) →
              (if first then none
                else
                  some (String.ofList done.reverse, escaped,
                    cs)) =
                  some (x, isEscaped, rest) →
                ∃ text,
                  cs = text ++ rest ∧
                    x = String.ofList (done.reverse ++ text) ∧
                      (∀ c ∈ text, IsNameChar c) ∧
                        (∀ c ∈ rest.head?,
                          Text.isIdContinue c = false) ∧
                          (first = true → text ≠ []) := by
        intro cs hHead hFinish
        cases first with
        | true => cases hFinish
        | false =>
            cases hFinish
            exact ⟨[], rfl, by simp, nofun,
              fun c hMember => hHead c hMember rfl, nofun⟩
      cases cs with
      | nil =>
          rw [nameFrom] at hName
          exact hEnd nofun hName
      | cons c cs =>
          rcases List.forall_mem_cons.mp hBare with
            ⟨hFirst, hRest⟩
          have hStep :
              nameFrom (fuel + 1) first escaped done (c :: cs) =
                if (if first then Text.isIdStart c
                    else Text.isIdContinue c) = true then
                  nameFrom fuel false escaped (c :: done) cs
                else if first then none
                else
                  some (String.ofList done.reverse, escaped,
                    c :: cs) := by
            rw [nameFrom]
            rintro rest rfl
            exact absurd rfl hFirst.2.2
          rw [hStep] at hName
          by_cases hFits :
              (if first then Text.isIdStart c
                else Text.isIdContinue c) = true
          · rw [if_pos hFits] at hName
            rcases ih hRest hName with
              ⟨text, rfl, rfl, hChars, hBehind, -⟩
            refine ⟨c :: text, rfl, by simp, ?_, hBehind, nofun⟩
            refine List.forall_mem_cons.mpr ⟨?_, hChars⟩
            cases first
            · exact Or.inr hFits
            · exact Or.inl hFits
          · rw [if_neg hFits] at hName
            refine hEnd (fun d hMember hLater => ?_) hName
            cases hMember
            subst hLater
            exact Bool.eq_false_iff.mpr hFits

theorem name?_eq
    {isEscaped : Bool}
    {cs rest : List Char}
    {x : String}
    (hBare : Bare cs)
    (hName : name? cs = some (x, isEscaped, rest)) :
    ∃ text,
      cs = text ++ rest ∧ x = String.ofList text ∧
        IsName text rest := by
  rcases nameFrom_eq hBare hName with
    ⟨text, hText, rfl, hChars, hBehind, hSome⟩
  exact ⟨text, hText, rfl, hSome rfl, hChars, hBehind⟩

------------------------------------------------------------
-- Numerals
------------------------------------------------------------

/- Characters that a numeral is written with. -/
def IsNumeralChar (c : Char) : Prop :=
  (Literal.hexValue? c).isSome = true ∨
    c ∈ ['x', 'X', 'o', 'O', 'n', '_', '.', '+', '-']

theorem hex_of_isDigit
    {c : Char}
    (hDigit : isDigit c = true) :
    IsNumeralChar c := by
  unfold isDigit at hDigit
  left
  simp [Literal.hexValue?, hDigit]

theorem digitRun_goesOn
    {digit : Char → Bool}
    {done cs digits rest : List Char}
    (hDigit : ∀ c, digit c = true → IsNumeralChar c)
    (hRun : digitRun digit done cs = some (digits, rest)) :
    GoesOn IsNumeralChar cs rest := by
  fun_induction digitRun digit done cs with
  | case1 done c cs hFits ih =>
      simp only [Bool.and_eq_true] at hFits
      have hJoint : IsNumeralChar '_' := Or.inr (by decide)
      exact ((ih hRun).cons (hDigit c hFits.1)).cons hJoint
  | case2 => cases hRun
  | case3 => cases hRun
  | case4 done c cs _ _ hFits ih =>
      exact (ih hRun).cons (hDigit c hFits)
  | case5 =>
      cases hRun
      exact GoesOn.refl _
  | case6 =>
      cases hRun
      exact GoesOn.refl _

theorem closeNumber_eq
    {t token : Token}
    {cs rest : List Char}
    (hRead : closeNumber t cs = some (token, rest)) :
    cs = rest ∧ endsNumber rest = true := by
  unfold closeNumber at hRead
  split_ifs at hRead with hEnds
  cases hRead
  exact ⟨rfl, hEnds⟩

/- A numeral that goes no further. -/
def ReadsNumeral (cs rest : List Char) : Prop :=
  GoesOn IsNumeralChar cs rest ∧ endsNumber rest = true

theorem ReadsNumeral.behind
    {cs middle rest : List Char}
    (hGoes : GoesOn IsNumeralChar cs middle)
    (hReads : ReadsNumeral middle rest) :
    ReadsNumeral cs rest :=
  ⟨hGoes.trans hReads.1, hReads.2⟩

theorem ReadsNumeral.cons
    {c : Char}
    {cs rest : List Char}
    (hReads : ReadsNumeral cs rest)
    (hChar : IsNumeralChar c) :
    ReadsNumeral (c :: cs) rest :=
  ⟨hReads.1.cons hChar, hReads.2⟩

theorem closeNumber_reads
    {t token : Token}
    {cs rest : List Char}
    (hRead : closeNumber t cs = some (token, rest)) :
    ReadsNumeral cs rest := by
  rcases closeNumber_eq hRead with ⟨rfl, hEnds⟩
  exact ⟨GoesOn.refl _, hEnds⟩

theorem basedNumber_reads
    {base : Nat}
    {cs rest : List Char}
    {token : Token}
    (hRead : basedNumber base cs = some (token, rest)) :
    ReadsNumeral cs rest := by
  unfold basedNumber at hRead
  rcases Option.bind_eq_some_iff.mp hRead with
    ⟨⟨digits, behind⟩, hRun, hRead⟩
  have hGoes : GoesOn IsNumeralChar cs behind := by
    refine digitRun_goesOn (fun c hDigit => Or.inl ?_) hRun
    split at hDigit
    · next d hValue => rw [hValue]; rfl
    · cases hDigit
  dsimp only at hRead
  split_ifs at hRead
  split at hRead
  · exact .behind hGoes
      ((closeNumber_reads hRead).cons (Or.inr (by decide)))
  · exact .behind hGoes (closeNumber_reads hRead)

theorem exponentPart_goesOn
    {cs rest : List Char}
    {power : Int}
    (hPart : exponentPart cs = some (power, rest)) :
    GoesOn IsNumeralChar cs rest := by
  cases cs with
  | nil =>
      cases hPart
      exact GoesOn.refl []
  | cons c cs =>
      dsimp only [exponentPart] at hPart
      by_cases hLetter : (c == 'e' || c == 'E') = true
      · rw [if_pos hLetter] at hPart
        rcases Option.bind_eq_some_iff.mp hPart with
          ⟨⟨digits, behind⟩, hRun, hClose⟩
        have hDigits :=
          digitRun_goesOn (fun _ => hex_of_isDigit) hRun
        have hSame : behind = rest := by
          dsimp only at hClose
          split at hClose
          · cases hClose
          · cases hClose
            rfl
        subst hSame
        have hChar : IsNumeralChar c := by
          rcases Bool.or_eq_true_iff.mp hLetter with hLow | hHigh
          · rw [beq_iff_eq.mp hLow]
            exact Or.inl (by decide)
          · rw [beq_iff_eq.mp hHigh]
            exact Or.inl (by decide)
        refine GoesOn.cons hChar ?_
        split at hDigits
        · exact hDigits.cons (Or.inr (by decide))
        · exact hDigits.cons (Or.inr (by decide))
        · exact hDigits
      · rw [if_neg hLetter] at hPart
        cases hPart
        exact GoesOn.refl _

theorem afterWhole_reads
    {whole cs rest : List Char}
    {isLegacy : Bool}
    {token : Token}
    (hRead : afterWhole whole isLegacy cs = some (token, rest)) :
    ReadsNumeral cs rest := by
  have hTail :
      ∀ {fraction behind : List Char},
        ((exponentPart behind).bind fun read =>
            closeNumber
              (.number (Decimal.ofNumeral whole fraction read.1)
                isLegacy)
              read.2) =
          some (token, rest) →
        ReadsNumeral behind rest := by
    intro fraction behind hRead
    rcases Option.bind_eq_some_iff.mp hRead with
      ⟨⟨exponent, last⟩, hPower, hClose⟩
    exact .behind (exponentPart_goesOn hPower)
      (closeNumber_reads hClose)
  unfold afterWhole at hRead
  dsimp only at hRead
  split at hRead
  · rcases Option.bind_eq_some_iff.mp hRead with
      ⟨⟨fraction, behind⟩, hRun, hRead⟩
    have hGoes := digitRun_goesOn (fun _ => hex_of_isDigit) hRun
    exact (ReadsNumeral.behind hGoes (hTail hRead)).cons
      (Or.inr (by decide))
  · exact hTail hRead

theorem legacyNumber_reads
    {cs rest : List Char}
    {token : Token}
    (hRead : legacyNumber cs = some (token, rest)) :
    ReadsNumeral cs rest := by
  have hDigits :
      GoesOn IsNumeralChar cs (cs.dropWhile isDigit) := by
    refine ⟨cs.takeWhile isDigit,
      List.takeWhile_append_dropWhile.symm, fun c hMember => ?_⟩
    exact hex_of_isDigit (List.mem_takeWhile_imp hMember)
  unfold legacyNumber at hRead
  dsimp only at hRead
  split_ifs at hRead
  · exact .behind hDigits (closeNumber_reads hRead)
  · exact .behind hDigits (afterWhole_reads hRead)

theorem number?_reads
    {cs rest : List Char}
    {token : Token}
    (hRead : number? cs = some (token, rest)) :
    ReadsNumeral cs rest := by
  have hZero : IsNumeralChar '0' := Or.inl (by decide)
  have hLetter :
      ∀ {c d e : Char},
        (c == d || c == e) = true →
          IsNumeralChar d → IsNumeralChar e →
            IsNumeralChar c := by
    intro c d e hEither hLeft hRight
    rcases Bool.or_eq_true_iff.mp hEither with hHere | hHere
    · rwa [beq_iff_eq.mp hHere]
    · rwa [beq_iff_eq.mp hHere]
  unfold number? at hRead
  split at hRead
  · next c cs =>
      split_ifs at hRead with hHex hOctal hBinary hDigit hBig
      · exact ((basedNumber_reads hRead).cons
          (hLetter hHex (Or.inr (by decide))
            (Or.inr (by decide)))).cons hZero
      · exact ((basedNumber_reads hRead).cons
          (hLetter hOctal (Or.inr (by decide))
            (Or.inr (by decide)))).cons hZero
      · exact ((basedNumber_reads hRead).cons
          (hLetter hBinary (Or.inl (by decide))
            (Or.inl (by decide)))).cons hZero
      · exact (legacyNumber_reads hRead).cons hZero
      · rw [beq_iff_eq.mp hBig]
        exact ((closeNumber_reads hRead).cons
          (Or.inr (by decide))).cons hZero
      · exact (afterWhole_reads hRead).cons hZero
  · exact afterWhole_reads hRead
  · rcases Option.bind_eq_some_iff.mp hRead with
      ⟨⟨whole, behind⟩, hRun, hRead⟩
    have hGoes := digitRun_goesOn (fun _ => hex_of_isDigit) hRun
    dsimp only at hRead
    split at hRead
    · exact .behind hGoes
        ((closeNumber_reads hRead).cons (Or.inr (by decide)))
    · exact .behind hGoes (afterWhole_reads hRead)

------------------------------------------------------------
-- Strings and Marks
------------------------------------------------------------

/- The characters of a string without escapes. -/
structure IsBody (q : Char) (body : List Char) : Prop where
  other : ∀ c ∈ body, c ≠ q
  line : '\n' ∉ body

theorem stringFrom_body
    {q : Char}
    {fuel : Nat}
    {isLegacy isPlain : Bool}
    {done : Array UInt16}
    {cs rest : List Char}
    {token : Token}
    (hBare : Bare cs)
    (hRead :
      stringFrom q fuel isLegacy isPlain done cs =
        some (token, rest)) :
    ∃ body, cs = body ++ q :: rest ∧ IsBody q body := by
  induction fuel generalizing isLegacy isPlain done cs with
  | zero => cases hRead
  | succ fuel ih =>
      cases cs with
      | nil => cases hRead
      | cons c cs =>
          rcases List.forall_mem_cons.mp hBare with
            ⟨hFirst, hRest⟩
          rw [stringFrom] at hRead
          split_ifs at hRead with hQuote hEscape hLine
          · cases hRead
            exact
              ⟨[], by rw [beq_iff_eq.mp hQuote]; rfl,
                fun _ hMember => absurd hMember List.not_mem_nil,
                List.not_mem_nil⟩
          · exact absurd (beq_iff_eq.mp hEscape) hFirst.2.2
          · rcases ih hRest hRead with ⟨body, rfl, hBody⟩
            simp only [Bool.or_eq_true, beq_iff_eq, not_or]
              at hQuote hLine
            refine ⟨c :: body, rfl, ?_, ?_⟩
            · exact List.forall_mem_cons.mpr
                ⟨hQuote, hBody.other⟩
            · simp [Ne.symm hLine.1, hBody.line]

theorem mark?_eq
    {cs rest : List Char}
    {token : Token}
    (hRead : mark? cs = some (token, rest)) :
    ∃ m ∈ marks, token = .mark m ∧ cs = m.toList ++ rest := by
  rcases List.exists_of_findSome?_eq_some hRead with
    ⟨m, hMember, hMark⟩
  split at hMark
  · next behind hText =>
      split_ifs at hMark
      cases hMark
      exact ⟨m, hMember, rfl,
        (Text.dropPrefix?_eq_some_iff _ _ _).mp hText⟩
  · cases hMark

end Lexer

------------------------------------------------------------
-- Tokens
------------------------------------------------------------

open Lexer

/- How a token is written, and what may stand behind it. -/
inductive Spelled : Token → List Char → List Char → Prop where
  | word
      {text rest : List Char}
      (escaped : Bool)
      (hName : IsName text rest) :
      Spelled (.word (String.ofList text) escaped) text rest
  | secret
      {text rest : List Char}
      (hName : IsName text rest) :
      Spelled (.secret (String.ofList text)) ('#' :: text) rest
  | mark
      {m : String}
      (rest : List Char)
      (hMark : m ∈ marks) :
      Spelled (.mark m) m.toList rest
  | numeral
      {t : Token}
      {text rest : List Char}
      (hToken : IsNumerical t)
      (hChars : ∀ c ∈ text, IsNumeralChar c)
      (hEnds : endsNumber rest = true) :
      Spelled t text rest
  | string
      {q : Char}
      {body : List Char}
      (s : Units)
      (isLegacy isPlain : Bool)
      (rest : List Char)
      (hQuote : IsQuote q)
      (hBody : IsBody q body) :
      Spelled (.string s isLegacy isPlain) (q :: (body ++ [q]))
        rest
  | stop : Spelled .stop [] []

/- Nothing is left behind the last token. -/
theorem Spelled.rest_of_stop
    {text rest : List Char}
    (hSpelled : Spelled .stop text rest) :
    rest = [] := by
  cases hSpelled with
  | numeral hToken => exact hToken.elim
  | stop => rfl

theorem spelled_of_token?
    {cs rest : List Char}
    {t : Token}
    (hBare : Bare cs)
    (hRead : token? cs = some (t, rest)) :
    ∃ text, cs = text ++ rest ∧ Spelled t text rest := by
  have hString :
      ∀ {q : Char} {cs : List Char},
        IsQuote q → Bare cs →
          stringFrom q (cs.length + 1) false true #[] cs =
              some (t, rest) →
            ∃ text, q :: cs = text ++ rest ∧
              Spelled t text rest := by
    intro q cs hQuote hInner hRead
    rcases stringFrom_token hRead with ⟨s, l, p, rfl⟩
    rcases stringFrom_body hInner hRead with ⟨body, rfl, hBody⟩
    exact ⟨q :: (body ++ [q]), by simp,
      .string s l p rest hQuote hBody⟩
  unfold token? at hRead
  split at hRead
  · cases hRead
    exact ⟨[], rfl, .stop⟩
  · exact hString (Or.inl rfl)
      (List.forall_mem_cons.mp hBare).2 hRead
  · exact hString (Or.inr rfl)
      (List.forall_mem_cons.mp hBare).2 hRead
  · have hTick := (List.forall_mem_cons.mp hBare).1
    exact absurd rfl hTick.2.1
  · rcases Option.map_eq_some_iff.mp hRead with
      ⟨⟨x, escaped, behind⟩, hName, hToken⟩
    cases hToken
    rcases name?_eq (List.forall_mem_cons.mp hBare).2 hName with
      ⟨text, rfl, rfl, hText⟩
    exact ⟨'#' :: text, rfl, .secret hText⟩
  · split_ifs at hRead
    · rcases number?_reads hRead with ⟨⟨text, hText, hChars⟩, hEnds⟩
      exact ⟨text, hText,
        .numeral (number?_token hRead) hChars hEnds⟩
    · rcases Option.map_eq_some_iff.mp hRead with
        ⟨⟨x, escaped, behind⟩, hName, hToken⟩
      cases hToken
      rcases name?_eq hBare hName with ⟨text, hText, rfl, hIs⟩
      exact ⟨text, hText, .word escaped hIs⟩
    · rcases mark?_eq hRead with ⟨m, hMember, rfl, hText⟩
      exact ⟨m.toList, hText, .mark rest hMember⟩

/- Blanks and the text of a token lead to the next place. -/
theorem Lexeme.spelled_of_next?
    {cs : List Char}
    {l : Lexeme}
    (hBare : Bare cs)
    (hNext : Lexeme.next? cs = some l) :
    ∃ gap text,
      cs = gap ++ (text ++ l.rest) ∧
        (∀ c ∈ gap, IsBlank c) ∧
          Spelled l.token text l.rest := by
  rcases Option.bind_eq_some_iff.mp hNext with
    ⟨⟨newline, start⟩, hSkip, hRest⟩
  rcases Option.bind_eq_some_iff.mp hRest with
    ⟨⟨token, behind⟩, hToken, hLexeme⟩
  cases hLexeme
  rcases skip_goesOn hBare hSkip with ⟨gap, rfl, hGap⟩
  rcases spelled_of_token? hBare.of_append.2 hToken with
    ⟨text, rfl, hSpelled⟩
  exact ⟨gap, text, rfl, hGap, hSpelled⟩

------------------------------------------------------------
-- Bare Tokens
------------------------------------------------------------

/- Tokens that no slash and no backtick can begin. -/
def Token.IsBare : Token → Prop
  | .template _ _ => False
  | .regexp _ _ => False
  | .mark m => m ≠ "/" ∧ m ≠ "/="
  | _ => True

theorem Lexeme.bare_of_next?
    {cs : List Char}
    {l : Lexeme}
    (hBare : Bare cs)
    (hNext : Lexeme.next? cs = some l) :
    l.token.IsBare ∧ Bare l.rest := by
  rcases spelled_of_next? hBare hNext with
    ⟨gap, text, rfl, -, hSpelled⟩
  rcases l with ⟨t, newline, start, rest⟩
  rcases hBare.of_append.2.of_append with ⟨hText, hRest⟩
  refine ⟨?_, hRest⟩
  dsimp only at hSpelled ⊢
  cases hSpelled with
  | word => trivial
  | secret => trivial
  | @mark m _ hMark =>
      have hSlash : '/' ∉ m.toList :=
        fun hMember => (hText '/' hMember).1 rfl
      refine ⟨?_, ?_⟩ <;>
        (rintro rfl; exact hSlash (by decide))
  | numeral hToken =>
      cases t <;> trivial
  | string => trivial
  | stop => trivial

end Script

end Devirt
