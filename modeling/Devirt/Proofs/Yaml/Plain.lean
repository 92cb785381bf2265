import Devirt.Yaml.Printer
import Devirt.Yaml.Scalar
import Mathlib.Data.List.Basic
import Mathlib.Data.List.TakeWhile
import Mathlib.Tactic.Common

/-
  Plain texts are read as they were written.

  Behind a plain text the line ends, and what follows is the
  next key or the end of the document.  The text itself is a row
  of words, none of which ends like a key or begins like a
  comment.

  Main declarations:
    * `Yaml.Ahead`, what may follow a value
    * `Yaml.nextPlace`, the place of the next token
    * `Yaml.Words`, `Yaml.readPlain_words`
    * `Yaml.PlainBody`, `Yaml.PlainBody.words`
    * `Yaml.IsKey`, `Yaml.readPlain_key`
-/

------------------------------------------------------------
-- Gaps
------------------------------------------------------------

namespace Devirt

namespace Yaml

/-
  What may follow a value: the next key at some column or before
  it, or nothing.
-/
def Ahead (column : Nat) (rest : List Char) : Prop :=
  rest = [] ∨
    ∃ k c cs,
      rest = List.replicate k ' ' ++ c :: cs ∧ k ≤ column ∧
        c.isLower = true

/- Where the next token stands, from the start of a line. -/
def nextPlace (line : Nat) (rest : List Char) : Place :=
  (Place.skipGapFrom false true false line 0 rest).1

theorem isLower_ne
    {c d : Char}
    (hLower : c.isLower = true)
    (hOther : d.isLower = false) :
    c ≠ d := by
  rintro rfl
  simp [hLower] at hOther

theorem isGap_of_isLower
    {c : Char}
    (hLower : c.isLower = true) :
    isGap c = false := by
  have hBlank : c ≠ ' ' := isLower_ne hLower rfl
  have hTab : c ≠ '\t' := isLower_ne hLower rfl
  have hFeed : c ≠ '\n' := isLower_ne hLower rfl
  have hLine : c ≠ '\u2028' := isLower_ne hLower rfl
  have hPart : c ≠ '\u2029' := isLower_ne hLower rfl
  simp [isGap, isSpace, isBreak, hBlank, hTab, hFeed, hLine, hPart]

theorem not_isGap
    {c : Char}
    (hOther : isGap c = false) :
    isBreak c = false ∧ isSpace c = false ∧ c ≠ ' ' ∧
      c ≠ '\t' := by
  simp only [isGap, isSpace, Bool.or_eq_false_iff,
    beq_eq_false_iff_ne] at hOther
  exact
    ⟨hOther.2, by simp [isSpace, hOther.1], hOther.1.1,
      hOther.1.2⟩

/- A token is not skipped. -/
theorem skipGapFrom_token
    {c : Char}
    (inFlow keyAllowed : Bool)
    (line column : Nat)
    (cs : List Char)
    (hOther : isGap c = false)
    (hHash : c ≠ '#') :
    Place.skipGapFrom inFlow keyAllowed false line column
        (c :: cs) =
      (⟨c :: cs, line, column⟩, keyAllowed) := by
  rcases not_isGap hOther with ⟨hBreak, -, hBlank, hTab⟩
  simp [Place.skipGapFrom, hBreak, hBlank, hTab, hHash]

theorem skipGapFrom_spaces
    (inFlow keyAllowed : Bool)
    (line column k : Nat)
    (cs : List Char) :
    Place.skipGapFrom inFlow keyAllowed false line column
        (List.replicate k ' ' ++ cs) =
      Place.skipGapFrom inFlow keyAllowed false line (column + k)
        cs := by
  induction k generalizing column with
  | zero => simp
  | succ k ih =>
      have hStep :
          Place.skipGapFrom inFlow keyAllowed false line column
              (' ' :: (List.replicate k ' ' ++ cs)) =
            Place.skipGapFrom inFlow keyAllowed false line
              (column + 1) (List.replicate k ' ' ++ cs) := by
        simp [Place.skipGapFrom, isBreak]
      rw [List.replicate_succ, List.cons_append, hStep, ih]
      congr 1
      omega

theorem nextPlace_key
    (line k : Nat)
    {c : Char}
    (cs : List Char)
    (hLower : c.isLower = true) :
    nextPlace line (List.replicate k ' ' ++ c :: cs) =
      ⟨c :: cs, line, k⟩ := by
  rw [nextPlace, skipGapFrom_spaces,
    skipGapFrom_token _ _ _ _ _ (isGap_of_isLower hLower)
      (isLower_ne hLower rfl), Nat.zero_add]

theorem breaks_spaces
    (least line column k : Nat)
    {c : Char}
    (cs : List Char)
    (hOther : isGap c = false) :
    readGap.breaks least line column
        (List.replicate k ' ' ++ c :: cs) =
      some ([], ⟨c :: cs, line, column + k⟩) := by
  rcases not_isGap hOther with ⟨hBreak, -, hBlank, hTab⟩
  induction k generalizing column with
  | zero => simp [readGap.breaks, hBreak, hBlank, hTab]
  | succ k ih =>
      have hStep :
          readGap.breaks least line column
              (' ' :: (List.replicate k ' ' ++ c :: cs)) =
            readGap.breaks least line (column + 1)
              (List.replicate k ' ' ++ c :: cs) := by
        simp [readGap.breaks, isBreak]
      rw [List.replicate_succ, List.cons_append, hStep, ih,
        Nat.add_right_comm, Nat.add_assoc]

theorem readGap_spaces
    (least line column k : Nat)
    {c : Char}
    (cs : List Char)
    (hOther : isGap c = false) :
    readGap least line column (List.replicate k ' ' ++ c :: cs) =
      some
        (List.replicate k ' ', [],
          ⟨c :: cs, line, column + k⟩) := by
  rcases not_isGap hOther with ⟨hBreak, hSpace, -⟩
  induction k generalizing column with
  | zero => simp [readGap, hBreak, hSpace]
  | succ k ih =>
      have hStep :
          readGap least line column
              (' ' :: (List.replicate k ' ' ++ c :: cs)) =
            (readGap least line (column + 1)
              (List.replicate k ' ' ++ c :: cs)).map
              fun r => (' ' :: r.1, r.2.1, r.2.2) := by
        simp [readGap, isBreak, isSpace]
      rw [List.replicate_succ, List.cons_append, hStep, ih,
        Option.map_some, Nat.add_right_comm, Nat.add_assoc]

section Ahead

variable {column : Nat}
variable {rest : List Char}

/- The indentation of the next key is skipped. -/
theorem Ahead.breaks_eq
    (hAhead : Ahead column rest)
    (least line : Nat) :
    readGap.breaks least line 0 rest =
      some ([], nextPlace line rest) := by
  rcases hAhead with rfl | ⟨k, c, cs, rfl, -, hLower⟩
  · rfl
  · rw [nextPlace_key line k cs hLower,
      breaks_spaces _ _ _ _ _ (isGap_of_isLower hLower),
      Nat.zero_add]

theorem Ahead.nextPlace_column
    (hAhead : Ahead column rest)
    (line : Nat) :
    (nextPlace line rest).column ≤ column := by
  rcases hAhead with rfl | ⟨k, c, cs, rfl, hColumn, hLower⟩
  · exact Nat.zero_le _
  · rw [nextPlace_key line k cs hLower]
    exact hColumn

/- There is nothing to skip before the next key. -/
theorem Ahead.skipGap_nextPlace
    (hAhead : Ahead column rest)
    (line : Nat) :
    (nextPlace line rest).skipGap false true =
      (nextPlace line rest, true) := by
  rcases hAhead with rfl | ⟨k, c, cs, rfl, hColumn, hLower⟩
  · rfl
  · rw [nextPlace_key line k cs hLower, Place.skipGap,
      skipGapFrom_token _ _ _ _ _ (isGap_of_isLower hLower)
        (isLower_ne hLower rfl)]

/- A line end is skipped with the indentation behind it. -/
theorem Ahead.skipGap_break
    (hAhead : Ahead column rest)
    (keyAllowed : Bool)
    (line other : Nat) :
    Place.skipGap false keyAllowed ⟨'\n' :: rest, line, other⟩ =
      (nextPlace (line + 1) rest, true) := by
  have hStep :
      Place.skipGap false keyAllowed ⟨'\n' :: rest, line, other⟩ =
        Place.skipGapFrom false true false (line + 1) 0 rest := by
    simp [Place.skipGap, Place.skipGapFrom, isBreak]
  rw [hStep]
  rcases hAhead with rfl | ⟨k, c, cs, rfl, hColumn, hLower⟩
  · rfl
  · rw [nextPlace_key _ k cs hLower, skipGapFrom_spaces,
      skipGapFrom_token _ _ _ _ _ (isGap_of_isLower hLower)
        (isLower_ne hLower rfl), Nat.zero_add]

end Ahead

end Yaml

end Devirt

------------------------------------------------------------
-- Plain Texts
------------------------------------------------------------

namespace Devirt

namespace Yaml

/- A word of a plain text, which does not end like a key. -/
structure Word (word : List Char) : Prop where
  some : word ≠ []
  solid : ∀ c ∈ word, isGap c = false
  noHash : word.head? ≠ .some '#'
  noColon : word.getLast? ≠ .some ':'

/- Words with blanks between them. -/
inductive Words : List Char → Prop where
  | last
      {word : List Char}
      (hWord : Word word) :
      Words word
  | more
      {word cs : List Char}
      (k : Nat)
      (hWord : Word word)
      (hMore : Words cs) :
      Words (word ++ (List.replicate (k + 1) ' ' ++ cs))

theorem plainWord_solid
    {word rest : List Char}
    (hSolid : ∀ c ∈ word, isGap c = false)
    (hColon : word.getLast? ≠ some ':')
    (hGap : gapAhead rest = true) :
    plainWord false (word ++ rest) = some (word, rest) := by
  induction word with
  | nil =>
      cases rest with
      | nil => rfl
      | cons c rest =>
          have hGap : isGap c = true := hGap
          simp [plainWord, hGap]
  | cons c word ih =>
      have hFirst : isGap c = false := hSolid c (by simp)
      have hRest :
          plainWord false (word ++ rest) = some (word, rest) := by
        apply ih (fun b hMember => hSolid b (by simp [hMember]))
        intro hLast
        cases word with
        | nil => simp at hLast
        | cons b word => exact hColon (by simpa using hLast)
      have hInner : (c == ':' && gapAhead (word ++ rest)) = false := by
        cases word with
        | nil =>
            have hNoColon : c ≠ ':' := by simpa using hColon
            simp [hNoColon]
        | cons b word =>
            have hSolid : isGap b = false := hSolid b (by simp)
            simp [gapAhead, hSolid]
      simp [plainWord, hFirst, hInner, hRest]

theorem Words.begins
    {cs : List Char}
    (hWords : Words cs) :
    ∃ c rest, cs = c :: rest ∧ isGap c = false ∧ c ≠ '#' := by
  have hWord
      {word : List Char}
      (hWord : Word word) :
      ∃ c rest, word = c :: rest ∧ isGap c = false ∧ c ≠ '#' := by
    cases word with
    | nil => exact absurd rfl hWord.some
    | cons c rest =>
        exact
          ⟨c, rest, rfl, hWord.solid c (by simp),
            by simpa using hWord.noHash⟩
  cases hWords with
  | last hLast => exact hWord hLast
  | more k hFirst hMore =>
      rcases hWord hFirst with ⟨c, rest, rfl, hBegins⟩
      exact ⟨c, _, rfl, hBegins⟩

/- A word is read up to the gap behind it. -/
theorem plainFrom_word
    {least line column fuel : Nat}
    {word rest spaces breaks : List Char}
    {after : Place}
    (gap : List Char)
    (fresh : Bool)
    (hWord : Word word)
    (hColumn : 0 < column)
    (hGap : gapAhead rest = true)
    (hRead :
      readGap least line (column + word.length) rest =
        some (spaces, breaks, after))
    (hSome : (spaces.isEmpty && breaks.isEmpty) = false) :
    plainFrom false least (fuel + 1) gap fresh
        ⟨word ++ rest, line, column⟩ =
      (if after.column < least then
        some ([], after, !breaks.isEmpty)
      else
        plainFrom false least fuel
          (if breaks.isEmpty then spaces else foldBreaks breaks)
          (!breaks.isEmpty) after).map
        fun (text, rest) => (gap ++ word ++ text, rest) := by
  have hTaken :=
    plainWord_solid hWord.solid hWord.noColon hGap
  have hMarker (mark : Char) :
      Place.atMarker mark ⟨word ++ rest, line, column⟩ = false := by
    simp [Place.atMarker, Nat.ne_of_gt hColumn]
  have hHash : ((word ++ rest).head? == some '#') = false := by
    have hFirst := hWord.noHash
    cases word with
    | nil => exact absurd rfl hWord.some
    | cons c word => simpa using hFirst
  rw [plainFrom]
  simp only [hMarker, hHash, Bool.or_false, Bool.false_eq_true,
    if_false, hTaken]
  cases word with
  | nil => exact absurd rfl hWord.some
  | cons c word =>
      simp only [hRead, hSome, Bool.false_eq_true, if_false,
        Bool.not_false, Bool.true_and, decide_eq_true_eq]

/-
  A plain text ends with the line.  The induction is on its
  words: the blanks behind each but the last are kept.
-/
theorem plainFrom_words
    {least line column bound fuel : Nat}
    {cs rest : List Char}
    (gap : List Char)
    (fresh : Bool)
    (hWords : Words cs)
    (hAhead : Ahead bound rest)
    (hBound : bound < least)
    (hColumn : least ≤ column)
    (hFuel : cs.length < fuel) :
    plainFrom false least fuel gap fresh
        ⟨cs ++ '\n' :: rest, line, column⟩ =
      some (gap ++ cs, nextPlace (line + 1) rest, true) := by
  induction hWords generalizing gap fresh column fuel with
  | @last word hWord =>
      cases fuel with
      | zero => omega
      | succ fuel =>
          have hRead :
              readGap least line (column + word.length)
                  ('\n' :: rest) =
                some ([], ['\n'], nextPlace (line + 1) rest) := by
            simp [readGap, isBreak, hAhead.breaks_eq]
          have hBefore :
              (nextPlace (line + 1) rest).column < least :=
            Nat.lt_of_le_of_lt (hAhead.nextPlace_column _) hBound
          rw [plainFrom_word gap fresh hWord (by omega) rfl hRead
            rfl, if_pos hBefore]
          simp
  | @more word cs k hWord hMore ih =>
      cases fuel with
      | zero => omega
      | succ fuel =>
          rcases hMore.begins with ⟨c, more, hFirst, hSolid, -⟩
          have hRead :
              readGap least line (column + word.length)
                  (List.replicate (k + 1) ' ' ++
                    (cs ++ '\n' :: rest)) =
                some
                  (List.replicate (k + 1) ' ', [],
                    ⟨cs ++ '\n' :: rest, line,
                      column + word.length + (k + 1)⟩) := by
            rw [hFirst]
            exact readGap_spaces _ _ _ _ _ hSolid
          have hLess : cs.length < fuel := by
            simp only [List.length_append,
              List.length_replicate] at hFuel
            omega
          have hRest :
              plainFrom false least fuel
                  (List.replicate (k + 1) ' ') false
                  ⟨cs ++ '\n' :: rest, line,
                    column + word.length + (k + 1)⟩ =
                some
                  (List.replicate (k + 1) ' ' ++ cs,
                    nextPlace (line + 1) rest, true) :=
            ih _ false (by omega) hLess
          rw [List.append_assoc, List.append_assoc,
            plainFrom_word gap fresh hWord (by omega) rfl hRead
              rfl, if_neg (by simp only; omega)]
          simp only [List.isEmpty_nil, if_true, Bool.not_true]
          rw [hRest]
          simp

theorem readPlain_words
    {least bound : Nat}
    {cs rest : List Char}
    (line : Nat)
    {column : Nat}
    (hWords : Words cs)
    (hAhead : Ahead bound rest)
    (hBound : bound < least)
    (hColumn : least ≤ column) :
    readPlain false least ⟨cs ++ '\n' :: rest, line, column⟩ =
      some
        (String.ofList cs, nextPlace (line + 1) rest, true) := by
  have hFuel : cs.length < (cs ++ '\n' :: rest).length + 1 := by
    simp only [List.length_append]
    omega
  rw [readPlain,
    plainFrom_words [] false hWords hAhead hBound hColumn hFuel]
  rfl

/- The names of settings. -/
structure IsKey (key : List Char) : Prop where
  first : ∃ c cs, key = c :: cs ∧ c.isLower = true
  all : ∀ c ∈ key, c.isLower = true ∨ c = '_'
  short : key.length ≤ 1024

instance (key : List Char) : Decidable (IsKey key) :=
  decidable_of_iff
    (key.head?.any Char.isLower = true ∧
      key.all (fun c => c.isLower || c == '_') = true ∧
        key.length ≤ 1024)
    ⟨fun h => by
      cases key with
      | nil => exact absurd h.1 (by decide)
      | cons c cs =>
          exact ⟨⟨c, cs, rfl, h.1⟩, by simpa using h.2.1, h.2.2⟩,
    fun h => by
      have hAll := h.all
      rcases h.first with ⟨c, cs, rfl, hLower⟩
      exact ⟨hLower, by simpa using hAll, h.short⟩⟩

theorem plainWord_key
    {key rest : List Char}
    (hKey : ∀ c ∈ key, c.isLower = true ∨ c = '_')
    (hGap : gapAhead rest = true) :
    plainWord false (key ++ ':' :: rest) =
      some (key, ':' :: rest) := by
  induction key with
  | nil => simp [plainWord, hGap, isGap, isSpace, isBreak]
  | cons c key ih =>
      have hRest := ih (fun b hMember => hKey b (by simp [hMember]))
      have hSolid : isGap c = false ∧ c ≠ ':' := by
        rcases hKey c (by simp) with hLower | rfl
        · exact ⟨isGap_of_isLower hLower, isLower_ne hLower rfl⟩
        · decide
      simp [plainWord, hSolid, hRest]

/- A key is read up to its colon. -/
theorem readPlain_key
    {key rest : List Char}
    (least line column : Nat)
    (hKey : IsKey key)
    (hGap : gapAhead rest = true) :
    readPlain false least ⟨key ++ ':' :: rest, line, column⟩ =
      some
        (String.ofList key,
          ⟨':' :: rest, line, column + key.length⟩, false) := by
  have hWord := plainWord_key hKey.all hGap
  rcases hKey.first with ⟨c, cs, rfl, hLower⟩
  have hDash : '-' ≠ c := (isLower_ne hLower rfl).symm
  have hPoint : '.' ≠ c := (isLower_ne hLower rfl).symm
  have hHash : c ≠ '#' := isLower_ne hLower rfl
  have hStop :
      readGap least line (column + (c :: cs).length)
          (':' :: rest) =
        some
          ([], [], ⟨':' :: rest, line,
            column + (c :: cs).length⟩) :=
    readGap_spaces _ _ _ 0 _ rfl
  simp only [List.cons_append] at hWord ⊢
  simp only [readPlain, plainFrom, Place.atMarker,
    List.isPrefixOf_cons_cons, beq_eq_false_iff_ne.mpr hDash,
    beq_eq_false_iff_ne.mpr hPoint, Bool.false_and, Bool.and_false,
    List.head?_cons, Option.some_beq_some,
    beq_eq_false_iff_ne.mpr hHash, Bool.or_false,
    Bool.false_eq_true, if_false, hWord, hStop]
  simp

theorem hasPair_append
    {p q : Char → Bool}
    (as : List Char)
    {bs : List Char}
    (hNone : hasPair p q (as ++ bs) = false) :
    hasPair p q bs = false := by
  induction as with
  | nil => exact hNone
  | cons a as ih =>
      apply ih
      rw [List.cons_append] at hNone
      generalize as ++ bs = cs at hNone ⊢
      cases cs with
      | nil => rfl
      | cons c cs =>
          simp only [hasPair, Bool.or_eq_false_iff] at hNone
          exact hNone.2

theorem hasPair_inside
    {p q : Char → Bool}
    (as : List Char)
    {a b : Char}
    {bs : List Char}
    (hNone : hasPair p q (as ++ a :: b :: bs) = false)
    (hFirst : p a = true) :
    q b = false := by
  have hPair := hasPair_append as hNone
  simp only [hasPair, Bool.or_eq_false_iff, hFirst,
    Bool.true_and] at hPair
  exact hPair.1

/- A text without what has a meaning inside plain texts. -/
structure PlainBody (cs : List Char) : Prop where
  some : cs ≠ []
  blank : ∀ c ∈ cs, isGap c = true → c = ' '
  head : ∀ c ∈ cs.head?, c ≠ ' ' ∧ c ≠ '#'
  lastBlank : cs.getLast? ≠ .some ' '
  lastColon : cs.getLast? ≠ .some ':'
  colon : hasPair (· == ':') isGap cs = false
  hash : hasPair isGap (· == '#') cs = false

/- A run of like characters, and what does not begin with one. -/
theorem exists_run
    (p : Char → Bool)
    (cs : List Char) :
    ∃ run rest,
      cs = run ++ rest ∧ (∀ c ∈ run, p c = true) ∧
        ∀ c ∈ rest.head?, p c = false := by
  refine
    ⟨cs.takeWhile p, cs.dropWhile p,
      List.takeWhile_append_dropWhile.symm, ?_, ?_⟩
  · intro c hMember
    exact List.mem_takeWhile_imp hMember
  · intro c hFirst
    have hNot := List.head?_dropWhile_not p cs
    rw [Option.mem_def.mp hFirst] at hNot
    simpa using hNot

theorem exists_spaces
    (cs : List Char) :
    ∃ k rest,
      cs = List.replicate k ' ' ++ rest ∧
        ∀ c ∈ rest.head?, c ≠ ' ' := by
  rcases exists_run (· == ' ') cs with
    ⟨run, rest, hParts, hRun, hRest⟩
  refine ⟨run.length, rest, ?_, ?_⟩
  · rw [← List.eq_replicate_length.mpr (by simpa using hRun)]
    exact hParts
  · simpa using hRest

section Split

variable {word cs : List Char}
variable {k : Nat}

/- What stands behind the first word is again such a text. -/
theorem PlainBody.behind
    (hBody :
      PlainBody (word ++ (List.replicate (k + 1) ' ' ++ cs)))
    (hFirst : ∀ c ∈ cs.head?, c ≠ ' ') :
    PlainBody cs := by
  have hSome : cs ≠ [] := by
    rintro rfl
    apply hBody.lastBlank
    rw [List.replicate_succ']
    simp
  have hLast :
      (word ++ (List.replicate (k + 1) ' ' ++ cs)).getLast? =
        cs.getLast? := by
    rw [List.getLast?_append_of_ne_nil _ (by simp),
      List.getLast?_append_of_ne_nil _ hSome]
  refine
    ⟨hSome,
      fun c hMember => hBody.blank c (by simp [hMember]), ?_,
      hLast ▸ hBody.lastBlank, hLast ▸ hBody.lastColon,
      hasPair_append _ (hasPair_append _ hBody.colon),
      hasPair_append _ (hasPair_append _ hBody.hash)⟩
  intro c hHead
  refine ⟨hFirst c hHead, ?_⟩
  rintro rfl
  cases cs with
  | nil => simp at hHead
  | cons b cs =>
      simp only [List.head?_cons, Option.mem_some] at hHead
      have hPair := hasPair_append word hBody.hash
      rw [hHead, List.replicate_succ', List.append_assoc] at hPair
      have hHash :=
        hasPair_inside (List.replicate k ' ') hPair rfl
      exact absurd hHash (by decide)

theorem PlainBody.first
    {rest : List Char}
    (hBody : PlainBody (word ++ rest))
    (hSolid : ∀ c ∈ word, isGap c = false)
    (hRest : ∀ c ∈ rest.head?, isGap c = true) :
    Word word := by
  have hSome : word ≠ [] := by
    rintro rfl
    cases rest with
    | nil => exact hBody.some rfl
    | cons c rest =>
        have hBlank :=
          hBody.blank c (by simp) (hRest c (by simp))
        exact (hBody.head c (by simp)).1 hBlank
  refine ⟨hSome, hSolid, ?_, ?_⟩
  · cases word with
    | nil => exact absurd rfl hSome
    | cons c word =>
        simpa using (hBody.head c (by simp)).2
  · intro hColon
    rcases List.getLast?_eq_some_iff.mp hColon with ⟨front, rfl⟩
    cases rest with
    | nil => exact hBody.lastColon (by simp)
    | cons c rest =>
        have hPair := hBody.colon
        rw [List.append_assoc] at hPair
        have hSolid := hasPair_inside front hPair rfl
        simp [hRest c (by simp)] at hSolid

end Split

theorem PlainBody.words
    {cs : List Char}
    (hBody : PlainBody cs) :
    Words cs := by
  induction hLength : cs.length using Nat.strongRecOn
    generalizing cs with
  | ind n ih =>
      rcases exists_run (fun c => !isGap c) cs with
        ⟨word, rest, rfl, hSolid, hRest⟩
      have hWord : Word word := by
        apply hBody.first
        · simpa using hSolid
        · simpa using hRest
      rcases exists_spaces rest with ⟨k, more, rfl, hFirst⟩
      cases k with
      | zero =>
          -- what follows the word is a gap, but no blank
          cases more with
          | nil => simpa using Words.last hWord
          | cons c more =>
              have hGap : isGap c = true := by
                simpa using hRest c (by simp)
              have hBlank := hBody.blank c (by simp) hGap
              exact absurd hBlank (hFirst c (by simp))
      | succ k =>
          apply Words.more k hWord
          refine ih more.length ?_ (hBody.behind hFirst) rfl
          rw [← hLength]
          simp only [List.length_append, List.length_replicate]
          omega

theorem isGap_printable
    {c : Char}
    (hPrintable : isPrintable c = true)
    (hGap : isGap c = true) :
    c = ' ' ∨ isBreak c = true := by
  simp only [isGap, isSpace, Bool.or_eq_true, beq_iff_eq] at hGap
  rcases hGap with (rfl | rfl) | hBreak
  · exact Or.inl rfl
  · exact absurd hPrintable (by decide)
  · exact Or.inr hBreak

/- What is written as it stands can be read as it stands. -/
theorem plainBody_of_isPlainText
    {cs : List Char}
    (hSome : cs ≠ [])
    (hPlain : isPlainText cs = true) :
    PlainBody cs := by
  simp only [isPlainText, hasInnerIndicator, Bool.and_eq_true,
    Bool.not_eq_true', Bool.or_eq_false_iff, List.all_eq_true,
    bne_iff_ne, beq_eq_false_iff_ne] at hPlain
  rcases hPlain with
    ⟨⟨⟨⟨hAll, hHead⟩, hLast⟩, hIndicator⟩,
      ⟨⟨hColon, hLastColon⟩, hHash⟩⟩
  refine
    ⟨hSome, ?_, ?_, hLast, hLastColon, hColon, hHash⟩
  · intro c hMember hGap
    rcases hAll c hMember with ⟨hPrintable, hNoBreak⟩
    rcases isGap_printable hPrintable hGap with hBlank | hBreak
    · exact hBlank
    · simp [hBreak] at hNoBreak
  · intro c hFirst
    cases cs with
    | nil => simp at hFirst
    | cons b cs =>
        simp only [List.head?_cons, Option.mem_some] at hFirst
        subst hFirst
        refine ⟨by simpa using hHead, ?_⟩
        rintro rfl
        simp [beginsWithIndicator] at hIndicator

end Yaml

end Devirt
