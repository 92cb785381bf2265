import Devirt.Proofs.Source.Recoding

/-
  States from which the scanner reads alike.

  What the scanner makes of a byte hangs on its mode, on
  whether an operand is still to come, and on the word before
  the byte, which may be a keyword.  Words that begin with
  digits are none, so one may stand for another.  A slash looks
  ahead: at the next byte, and for the end of a regular
  expression.

  Main declarations:
    * `Scanner.trailingWord`, `Scanner.WordsAlike`
    * `Scanner.Alike`, `Scanner.Alike.step`,
      `Scanner.scan_word`
    * `Scanner.regexLength?_body`, `Scanner.regexLength?_word`,
      `Scanner.scan_regex`
-/

------------------------------------------------------------
-- Words
------------------------------------------------------------

namespace Devirt

namespace Scanner

/- The word that bytes in reverse order end with. -/
def trailingWord (before : List UInt8) : List UInt8 :=
  (before.takeWhile isIdentifier).reverse

theorem trailingWord_cons
    (b : UInt8)
    (before : List UInt8) :
    trailingWord (b :: before) =
      if isIdentifier b then trailingWord before ++ [b] else [] := by
  unfold trailingWord
  rw [List.takeWhile_cons]
  split_ifs <;> simp

def isDecimal (b : UInt8) : Bool :=
  byte '0' ≤ b && b ≤ byte '9'

theorem isIdentifier_of_isDecimal
    {b : UInt8}
    (hDigit : isDecimal b = true) :
    isIdentifier b = true := by
  unfold isDecimal at hDigit
  simp [isIdentifier, hDigit]

/- A word that is no name. -/
def BeginsWithDigit (word : List UInt8) : Prop :=
  ∃ b ∈ word.head?, isDecimal b = true

theorem BeginsWithDigit.append
    {word : List UInt8}
    (more : List UInt8)
    (hWord : BeginsWithDigit word) :
    BeginsWithDigit (word ++ more) := by
  rcases hWord with ⟨b, hHead, hDigit⟩
  refine ⟨b, ?_, hDigit⟩
  rw [List.head?_append, Option.mem_def.mp hHead]
  rfl

/- No keyword begins with a digit. -/
theorem not_openingWord
    {word : List UInt8}
    (hWord : BeginsWithDigit word) :
    openingWords.contains word = false := by
  have hKeywords :
      ∀ keyword ∈ openingWords,
        keyword.head?.any isDecimal = false := by
    decide +kernel
  rcases hWord with ⟨b, hHead, hDigit⟩
  rw [Bool.eq_false_iff]
  intro hMember
  have hNone := hKeywords word (List.contains_iff_mem.mp hMember)
  rw [Option.mem_def.mp hHead, Option.any_some, hDigit] at hNone
  cases hNone

/- Words behind which bytes are read alike. -/
def WordsAlike (before behind : List UInt8) : Prop :=
  trailingWord behind = trailingWord before ∨
    BeginsWithDigit (trailingWord before) ∧
      BeginsWithDigit (trailingWord behind)

theorem WordsAlike.cons
    {before behind : List UInt8}
    (b : UInt8)
    (hWords : WordsAlike before behind) :
    WordsAlike (b :: before) (b :: behind) := by
  unfold WordsAlike
  rw [trailingWord_cons, trailingWord_cons]
  split_ifs
  · rcases hWords with hSame | ⟨hLeft, hRight⟩
    · exact Or.inl (by rw [hSame])
    · exact Or.inr ⟨hLeft.append [b], hRight.append [b]⟩
  · exact Or.inl rfl

theorem regexAllowed_cons
    (b : UInt8)
    (before : List UInt8) :
    regexAllowed (some (b :: before)) =
      (openers.contains b ||
        isIdentifier b &&
          openingWords.contains (trailingWord (b :: before))) := by
  simp only [regexAllowed, trailingWord]
  split_ifs with hOpener hIdentifier
  · rw [hOpener, Bool.true_or]
  · rw [Bool.eq_false_iff.mpr hOpener, hIdentifier,
      Bool.false_or, Bool.true_and]
  · rw [Bool.eq_false_iff.mpr hOpener,
      Bool.eq_false_iff.mpr hIdentifier]
    rfl

/- Behind a byte and words alike the same may come. -/
theorem WordsAlike.regexAllowed_eq
    {before behind : List UInt8}
    (b : UInt8)
    (hWords : WordsAlike before behind) :
    regexAllowed (some (b :: behind)) =
      regexAllowed (some (b :: before)) := by
  rw [regexAllowed_cons, regexAllowed_cons]
  rcases hWords.cons b with hSame | ⟨hLeft, hRight⟩
  · rw [hSame]
  · rw [not_openingWord hLeft, not_openingWord hRight]

/- No operand is to come behind a word that begins with a digit. -/
theorem regexAllowed_of_digit
    {b : UInt8}
    {before : List UInt8}
    (hIdentifier : isIdentifier b = true)
    (hWord : BeginsWithDigit (trailingWord (b :: before))) :
    regexAllowed (some (b :: before)) = false := by
  have hOpeners :
      ∀ opener ∈ openers, isIdentifier opener = false := by
    decide +kernel
  have hOther : openers.contains b = false := by
    rw [Bool.eq_false_iff]
    intro hMember
    have hNone := hOpeners b (List.contains_iff_mem.mp hMember)
    rw [hIdentifier] at hNone
    cases hNone
  rw [regexAllowed_cons, hOther, not_openingWord hWord]
  simp

theorem WordsAlike.eq_nil
    {before behind : List UInt8}
    (hWords : WordsAlike before behind)
    (hNone : trailingWord before = []) :
    trailingWord behind = [] := by
  rcases hWords with hSame | ⟨⟨b, hHead, -⟩, -⟩
  · rw [hSame, hNone]
  · rw [hNone] at hHead
    cases hHead

/- A run of identifier bytes that begins apart is a word. -/
theorem trailingWord_run
    {run before : List UInt8}
    (hRun : ∀ b ∈ run, isIdentifier b = true)
    (hApart : trailingWord before = []) :
    trailingWord (run.reverse ++ before) = run := by
  unfold trailingWord at hApart ⊢
  have hReverse : ∀ b ∈ run.reverse, isIdentifier b = true :=
    fun b hMember => hRun b (List.mem_reverse.mp hMember)
  rw [List.takeWhile_append_of_pos hReverse, List.reverse_append,
    hApart, List.nil_append, List.reverse_reverse]

/- No operand is to come behind a numeral. -/
theorem regexAllowed_of_run
    {run before : List UInt8}
    (hRun : ∀ b ∈ run, isIdentifier b = true)
    (hDigit : BeginsWithDigit run)
    (hApart : trailingWord before = []) :
    regexAllowed (some (run.reverse ++ before)) = false := by
  have hWord := trailingWord_run hRun hApart
  have hSome : run.reverse ≠ [] := by
    rcases hDigit with ⟨b, hHead, -⟩
    rintro hNil
    rw [List.reverse_eq_nil_iff.mp hNil] at hHead
    cases hHead
  rcases List.exists_cons_of_ne_nil hSome with ⟨b, bs, hCons⟩
  have hLast : isIdentifier b = true := by
    apply hRun
    rw [← List.mem_reverse, hCons]
    exact List.mem_cons_self
  rw [hCons, List.cons_append] at hWord ⊢
  exact regexAllowed_of_digit hLast (hWord ▸ hDigit)

end Scanner

end Devirt

------------------------------------------------------------
-- States
------------------------------------------------------------

namespace Devirt

namespace Scanner

/- States that tell bytes apart in the same way. -/
structure Alike
    (s t : State)
    (before behind : List UInt8) : Prop where
  mode_eq : t.mode = s.mode
  allowed_eq : regexAllowed t.last = regexAllowed s.last
  words : WordsAlike before behind

theorem Alike.refl
    (s : State)
    (before : List UInt8) :
    Alike s s before before :=
  ⟨rfl, rfl, Or.inl rfl⟩

/- The states behind two numerals. -/
theorem alike_of_digits
    {run other before behind : List UInt8}
    (hRun : ∀ b ∈ run, isIdentifier b = true)
    (hOther : ∀ b ∈ other, isIdentifier b = true)
    (hDigit : BeginsWithDigit run)
    (hDigit' : BeginsWithDigit other)
    (hApart : trailingWord before = [])
    (hApart' : trailingWord behind = []) :
    Alike ⟨.top, some (run.reverse ++ before)⟩
      ⟨.top, some (other.reverse ++ behind)⟩
      (run.reverse ++ before) (other.reverse ++ behind) := by
  refine ⟨rfl, ?_, Or.inr ⟨?_, ?_⟩⟩
  · exact
      (regexAllowed_of_run hOther hDigit' hApart').trans
        (regexAllowed_of_run hRun hDigit hApart).symm
  · rwa [trailingWord_run hRun hApart]
  · rwa [trailingWord_run hOther hApart']

/- What follows a slash decides in the same way what it is. -/
structure LooksAlike
    (s : State)
    (before after ahead : List UInt8) : Prop where
  head :
    ∀ mark ∈ [slash, asterisk],
      ahead.head? = some mark ↔ after.head? = some mark
  length :
    ∀ n, (step s before slash after).2.mode = .regex n →
      regexLength? false false 0 ahead = some n
  none :
    regexLength? false false 0 after = none →
      regexLength? false false 0 ahead = none

/- A slash at the top level is read alike. -/
theorem Alike.stepTop_slash
    {s t : State}
    {before behind after ahead : List UInt8}
    (hAlike : Alike s t before behind)
    (hTop : s.mode = .top)
    (hLooks : LooksAlike s before after ahead) :
    (stepTop t.last behind slash ahead).1 =
        (stepTop s.last before slash after).1 ∧
      Alike (stepTop s.last before slash after).2
        (stepTop t.last behind slash ahead).2 (slash :: before)
        (slash :: behind) := by
  have hQuote : isQuote slash = false := by decide
  have hSpace : isSpace slash = false := by decide
  have hWords := hAlike.words.cons slash
  have hAllowed := hAlike.words.regexAllowed_eq slash
  have hLength := hLooks.length
  rw [step, hTop] at hLength
  simp only [stepTop, hQuote, hSpace, Bool.false_eq_true,
    if_false, beq_self_eq_true, Bool.true_and, beq_iff_eq,
    hLooks.head slash (by simp), hLooks.head asterisk (by simp),
    hAlike.allowed_eq] at hLength ⊢
  split_ifs at hLength ⊢
  · exact ⟨rfl, rfl, hAlike.allowed_eq, hWords⟩
  · exact ⟨rfl, rfl, hAlike.allowed_eq, hWords⟩
  · cases hEnd : regexLength? false false 0 after with
    | none =>
        rw [hLooks.none hEnd]
        exact ⟨rfl, rfl, hAllowed, hWords⟩
    | some n =>
        rw [hEnd] at hLength
        rw [hLength n rfl]
        exact ⟨rfl, rfl, hAlike.allowed_eq, hWords⟩
  · exact ⟨rfl, rfl, hAllowed, hWords⟩

/- Other bytes are read without looking ahead. -/
theorem Alike.stepTop_other
    {s t : State}
    {before behind : List UInt8}
    {b : UInt8}
    (after ahead : List UInt8)
    (hAlike : Alike s t before behind)
    (hOther : b ≠ slash) :
    (stepTop t.last behind b ahead).1 =
        (stepTop s.last before b after).1 ∧
      Alike (stepTop s.last before b after).2
        (stepTop t.last behind b ahead).2 (b :: before)
        (b :: behind) := by
  have hWords := hAlike.words.cons b
  have hAllowed := hAlike.words.regexAllowed_eq b
  simp only [stepTop, beq_eq_false_iff_ne.mpr hOther,
    Bool.false_and, Bool.false_eq_true, if_false]
  split_ifs
  · exact ⟨rfl, rfl, hAlike.allowed_eq, hWords⟩
  · exact ⟨rfl, rfl, hAlike.allowed_eq, hWords⟩
  · exact ⟨rfl, rfl, hAllowed, hWords⟩

/- One byte is read alike, and leaves states that are. -/
theorem Alike.step
    {s t : State}
    {before behind after ahead : List UInt8}
    {b : UInt8}
    (hAlike : Alike s t before behind)
    (hLooks :
      s.mode = .top → b = slash →
        LooksAlike s before after ahead) :
    (Scanner.step t behind b ahead).1 =
        (Scanner.step s before b after).1 ∧
      Alike (Scanner.step s before b after).2
        (Scanner.step t behind b ahead).2 (b :: before)
        (b :: behind) := by
  have hWords := hAlike.words.cons b
  have hAllowed := hAlike.words.regexAllowed_eq b
  have hOld := hAlike.allowed_eq
  have hMode := hAlike.mode_eq
  rcases s with ⟨_, last⟩
  rcases t with ⟨mode, other⟩
  dsimp only at hMode hOld
  subst hMode
  cases mode with
  | top =>
      by_cases hSlash : b = slash
      · subst hSlash
        exact hAlike.stepTop_slash rfl (hLooks rfl rfl)
      · exact hAlike.stepTop_other after ahead hSlash
  | quoted q =>
      simp only [Scanner.step]
      split_ifs
      · exact ⟨rfl, rfl, hAllowed, hWords⟩
      · exact ⟨rfl, rfl, hOld, hWords⟩
      · exact ⟨rfl, rfl, hAllowed, hWords⟩
      · exact ⟨rfl, rfl, hOld, hWords⟩
  | escaped q => exact ⟨rfl, rfl, hOld, hWords⟩
  | lineComment =>
      simp only [Scanner.step]
      split_ifs with hFeed
      · apply hAlike.stepTop_other after ahead
        rintro rfl
        exact absurd hFeed (by decide)
      · exact ⟨rfl, rfl, hOld, hWords⟩
  | blockComment star =>
      simp only [Scanner.step]
      split_ifs
      · exact ⟨rfl, rfl, hOld, hWords⟩
      · exact ⟨rfl, rfl, hOld, hWords⟩
  | regex left =>
      cases left with
      | zero => exact ⟨rfl, rfl, hAllowed, hWords⟩
      | succ left => exact ⟨rfl, rfl, hOld, hWords⟩

------------------------------------------------------------
-- Runs
------------------------------------------------------------

theorem inert_of_isIdentifier
    {b : UInt8}
    (hIdentifier : isIdentifier b = true) :
    IsInert b ∧ isSpace b = false := by
  have hAll :
      ∀ n : Fin 256,
        isIdentifier (UInt8.ofNat n) = true →
          isQuote (UInt8.ofNat n) = false ∧
            UInt8.ofNat n ≠ slash ∧
              isSpace (UInt8.ofNat n) = false := by
    decide +kernel
  have hByte := hAll ⟨b.toNat, b.toNat_lt⟩
  simp only [UInt8.ofNat_toNat] at hByte
  rcases hByte hIdentifier with ⟨hQuote, hSlash, hSpace⟩
  exact ⟨⟨hQuote, hSlash⟩, hSpace⟩

/- A word at the top level is code, and comes to be the last. -/
theorem scan_word
    {word : List UInt8}
    (last : Option (List UInt8))
    (before rest : List UInt8)
    (hWord : ∀ b ∈ word, isIdentifier b = true)
    (hSome : word ≠ []) :
    scan ⟨.top, last⟩ before (word ++ rest) =
      CodeMap.codeCells word ++
        scan ⟨.top, some (word.reverse ++ before)⟩
          (word.reverse ++ before) rest := by
  induction word generalizing last before with
  | nil => exact absurd rfl hSome
  | cons b word ih =>
      rcases List.forall_mem_cons.mp hWord with ⟨hHere, hLater⟩
      rcases inert_of_isIdentifier hHere with ⟨hInert, hSpace⟩
      have hStep :
          Scanner.step ⟨.top, last⟩ before b (word ++ rest) =
            (true, ⟨.top, some (b :: before)⟩) := by
        simp [Scanner.step, stepTop, hInert.quote, hInert.slash,
          hSpace]
      rw [List.cons_append, scan_cons, hStep,
        CodeMap.codeCells_cons, List.reverse_cons,
        List.append_assoc, List.singleton_append]
      by_cases hNone : word = []
      · subst hNone
        rfl
      · rw [ih _ _ hLater hNone, List.cons_append]

/-
  A regular expression is known from its body alone, and so is
  its length.
-/
theorem regexLength?_body
    {inClass escaped : Bool}
    {n length : Nat}
    {bytes : List UInt8}
    (hLength :
      regexLength? inClass escaped n bytes = some length) :
    ∃ body rest,
      bytes = body ++ slash :: rest ∧
        length = n + body.length ∧
          ∀ other,
            regexLength? inClass escaped n
              (body ++ slash :: other) = some length := by
  have hStep :
      ∀ {inClass escaped inClass' escaped' : Bool} {n : Nat}
        {b : UInt8} {bytes : List UInt8},
        (∃ body rest,
          bytes = body ++ slash :: rest ∧
            length = n + 1 + body.length ∧
              ∀ other,
                regexLength? inClass' escaped' (n + 1)
                  (body ++ slash :: other) = some length) →
          (∀ other,
            regexLength? inClass escaped n (b :: other) =
              regexLength? inClass' escaped' (n + 1) other) →
            ∃ body rest,
              b :: bytes = body ++ slash :: rest ∧
                length = n + body.length ∧
                  ∀ other,
                    regexLength? inClass escaped n
                      (body ++ slash :: other) = some length := by
    rintro inClass escaped inClass' escaped' n b bytes
      ⟨body, rest, rfl, hSum, hOther⟩ hReads
    refine ⟨b :: body, rest, rfl, ?_, ?_⟩
    · rw [List.length_cons]
      omega
    · intro other
      rw [List.cons_append, hReads]
      exact hOther other
  fun_induction regexLength? inClass escaped n bytes with
  | case1 => cases hLength
  | case2 inClass n b rest ih =>
      exact hStep (ih hLength) fun other => rfl
  | case3 inClass n b rest hBackslash ih =>
      refine hStep (ih hLength) fun other => ?_
      rw [regexLength?, if_pos hBackslash]
  | case4 => cases hLength
  | case5 inClass n b rest hBackslash hFeed hOpen ih =>
      refine hStep (ih hLength) fun other => ?_
      rw [regexLength?, if_neg hBackslash, if_neg hFeed,
        if_pos hOpen]
  | case6 inClass n b rest hBackslash hFeed hOpen hClose ih =>
      refine hStep (ih hLength) fun other => ?_
      rw [regexLength?, if_neg hBackslash, if_neg hFeed,
        if_neg hOpen, if_pos hClose]
  | case7 => cases hLength
  | case8 inClass n b rest hBackslash hFeed hOpen hClose hSlash
      hSome =>
      have hHere : b = slash := by
        simp only [Bool.and_eq_true, beq_iff_eq] at hSlash
        exact hSlash.1
      subst hHere
      refine ⟨[], rest, rfl, (Option.some.inj hLength).symm, ?_⟩
      intro other
      rw [List.nil_append, regexLength?, if_neg hBackslash,
        if_neg hFeed, if_neg hOpen, if_neg hClose, if_pos hSlash,
        if_neg hSome]
      exact hLength
  | case9 inClass n b rest hBackslash hFeed hOpen hClose hSlash
      ih =>
      refine hStep (ih hLength) fun other => ?_
      rw [regexLength?, if_neg hBackslash, if_neg hFeed,
        if_neg hOpen, if_neg hClose, if_neg hSlash]

/- Only a slash that a regular expression follows opens one. -/
theorem regexLength?_of_step
    {s : State}
    {before after : List UInt8}
    {n : Nat}
    (hTop : s.mode = .top)
    (hMode : (step s before slash after).2.mode = .regex n) :
    regexLength? false false 0 after = some n := by
  unfold step at hMode
  rw [hTop] at hMode
  dsimp only at hMode
  unfold stepTop at hMode
  split_ifs at hMode
  split at hMode
  · next hLength =>
      cases hMode
      exact hLength
  · cases hMode

/- The bytes that regular expressions are made with. -/
def regexMarks : List UInt8 :=
  [ backslash, lineFeed, carriageReturn, byte '[', byte ']'
  , slash ]

/- Any other byte is one more of the body. -/
theorem regexLength?_cons
    {b : UInt8}
    (inClass escaped : Bool)
    (n : Nat)
    (rest : List UInt8)
    (hMarks : b ∉ regexMarks) :
    regexLength? inClass escaped n (b :: rest) =
      regexLength? inClass false (n + 1) rest := by
  simp only [regexMarks, List.mem_cons, List.not_mem_nil,
    or_false, not_or] at hMarks
  cases escaped with
  | true => rfl
  | false => simp [regexLength?, hMarks]

/- Words change nothing but the length. -/
theorem regexLength?_word
    {word : List UInt8}
    (inClass escaped : Bool)
    (n : Nat)
    (rest : List UInt8)
    (hWord : ∀ b ∈ word, isIdentifier b = true)
    (hSome : word ≠ []) :
    regexLength? inClass escaped n (word ++ rest) =
      regexLength? inClass false (n + word.length) rest := by
  have hNames :
      ∀ mark ∈ regexMarks, isIdentifier mark = false := by
    decide +kernel
  induction word generalizing escaped n with
  | nil => exact absurd rfl hSome
  | cons b word ih =>
      rcases List.forall_mem_cons.mp hWord with ⟨hHere, hLater⟩
      have hMarks : b ∉ regexMarks := by
        intro hMark
        exact
          Bool.false_ne_true ((hNames b hMark).symm.trans hHere)
      rw [List.cons_append,
        regexLength?_cons inClass escaped n _ hMarks,
        List.length_cons, Nat.add_comm word.length,
        ← Nat.add_assoc]
      by_cases hNone : word = []
      · subst hNone
        rfl
      · exact ih false (n + 1) hLater hNone

/- The body of a regular expression is no code. -/
theorem scan_regex
    (last : Option (List UInt8))
    (before body rest : List UInt8) :
    scan ⟨.regex body.length, last⟩ before
        (body ++ slash :: rest) =
      body.map (Cell.mk · false) ++
        ⟨slash, true⟩ ::
          scan ⟨.top, some (slash :: (body.reverse ++ before))⟩
            (slash :: (body.reverse ++ before)) rest := by
  induction body generalizing before with
  | nil => rfl
  | cons b body ih =>
      rw [List.cons_append, scan_cons]
      simp only [List.length_cons, Scanner.step, List.map_cons]
      rw [ih (b :: before)]
      simp

end Scanner

end Devirt
