import Devirt.Proofs.Pattern.Preference
import Devirt.Proofs.Source.Keywords

/-
  Patterns that read a text in one way only.

  Some patterns never have a choice: they do what a function
  does that reads a text from left to right and gives what
  follows.  A text is read in one way, patterns in a row are
  read in one way if each of them is, and a repetition is if
  what comes behind it never begins with a character of its
  class.  The matcher then needs no search.  Only ASCII texts
  are read, where classes are told apart by looking at each
  character.

  What the parts of a pattern accept, the pattern accepts one
  after the other.  So a text that is written as the pattern
  asks for is led along, and the matcher finds a match.

  Main declarations:
    * `Pattern.Small`
    * `Pattern.Reads`, `Pattern.Reads.matchThen_of_some`,
      `Pattern.Reads.matchThen_of_none`
    * `Pattern.reads_literal`, `Pattern.Reads.seq`,
      `Pattern.Reads.behindMany`
    * `Pattern.behindMark?`, `Pattern.wordAhead`,
      `Pattern.Reads.matchThen_word`
    * `Pattern.exists_passes`
    * `Pattern.Accepts`, `Pattern.Accepts.seq`
-/

------------------------------------------------------------
-- ASCII Texts
------------------------------------------------------------

namespace Devirt

namespace Pattern

/- All characters are ASCII. -/
def Small (cs : List Char) : Prop :=
  ∀ c ∈ cs, c.toNat < 128

theorem Small.cons_iff
    {c : Char}
    {cs : List Char} :
    Small (c :: cs) ↔ c.toNat < 128 ∧ Small cs :=
  List.forall_mem_cons

/- What a pattern leaves of an ASCII text is one. -/
theorem Leads.small
    {p : Pattern}
    {here there : Place}
    {groups found : Groups}
    (hLeads : Leads p here groups there found)
    (hSmall : Small here.rest) :
    Small there.rest := by
  rcases hLeads.passage with ⟨passed, hPassage⟩
  intro c hMember
  apply hSmall
  rw [hPassage.rest_eq]
  exact List.mem_append_right _ hMember

theorem Place.OnText.small
    {text : List Char}
    {here : Place}
    (hText : here.OnText text)
    (hSmall : Small text) :
    Small here.rest := by
  rw [hText.rest_eq]
  exact fun c hMember => hSmall c (List.mem_of_mem_drop hMember)

------------------------------------------------------------
-- Readers
------------------------------------------------------------

/-
  A pattern leads from a place to where a function reads on,
  and nowhere else, and remembers nothing.
-/
structure Reads
    (p : Pattern)
    (read : List Char → Option (List Char)) : Prop where
  rest_eq :
    ∀ {here there : Place} {groups found : Groups},
      Small here.rest →
        Leads p here groups there found →
          read here.rest = some there.rest ∧ found = groups
  exists_leads :
    ∀ {here : Place} {rest : List Char} (groups : Groups),
      read here.rest = some rest →
        ∃ there,
          Leads p here groups there groups ∧ there.rest = rest

namespace Reads

variable {p q : Pattern}
variable {read readOn : List Char → Option (List Char)}

/- Where the function reads on, the matcher goes on. -/
theorem matchThen_of_some
    {text rest : List Char}
    {here : Place}
    (hReads : Reads p read)
    (hText : here.OnText text)
    (hSmall : Small text)
    (hRest : read here.rest = some rest) :
    ∃ there,
      Leads p here [] there [] ∧ there.rest = rest ∧
        ∀ {α : Type} (groups : Groups)
          (next : Place → Groups → Option α),
          matchThen p here groups next = next there groups := by
  rcases hReads.exists_leads [] hRest with
    ⟨there, hLeads, hThere⟩
  have hPlace := hLeads.onText hText
  refine ⟨there, hLeads, hThere, ?_⟩
  intro α groups next
  rcases hReads.exists_leads groups hRest with
    ⟨other, hOther, hOtherRest⟩
  have hSame : other = there :=
    (hOther.onText hText).eq_of_rest hPlace
      (hOtherRest.trans hThere.symm)
  subst hSame
  apply hOther.matchThen_eq
  intro last found hLast
  rcases hReads.rest_eq (hText.small hSmall) hLast with
    ⟨hLastRest, hFound⟩
  have hRests : last.rest = other.rest := by
    rw [hRest] at hLastRest
    rw [hOtherRest]
    exact (Option.some.inj hLastRest).symm
  exact
    ⟨(hLast.onText hText).eq_of_rest hPlace hRests, hFound⟩

/- Where the function breaks off, so does the matcher. -/
theorem matchThen_of_none
    {α : Type}
    {here : Place}
    (hReads : Reads p read)
    (hSmall : Small here.rest)
    (hNone : read here.rest = none)
    (groups : Groups)
    (next : Place → Groups → Option α) :
    matchThen p here groups next = none := by
  apply matchThen_eq_none
  intro there found hLeads
  rw [(hReads.rest_eq hSmall hLeads).1] at hNone
  cases hNone

/-
  What may be left out is read if it can be, as long as the
  matcher goes on either way.
-/
theorem matchThen_optional
    {α : Type}
    {text : List Char}
    {here : Place}
    {groups : Groups}
    {next : Place → Groups → Option α}
    (hReads : Reads p read)
    (hText : here.OnText text)
    (hSmall : Small text)
    (hNext : ∀ there, (next there groups).isSome = true) :
    ∃ there,
      there.rest = (read here.rest).getD here.rest ∧
        (there = here ∨ Leads p here [] there []) ∧
          matchThen (optional p) here groups next =
            next there groups := by
  simp only [optional, matchThen]
  cases hRead : read here.rest with
  | none =>
      rw [hReads.matchThen_of_none (hText.small hSmall) hRead]
      exact ⟨here, rfl, Or.inl rfl, rfl⟩
  | some rest =>
      rcases hReads.matchThen_of_some hText hSmall hRead with
        ⟨there, hLeads, hRest, hMatch⟩
      rcases Option.isSome_iff_exists.mp (hNext there) with
        ⟨r, hSome⟩
      rw [hMatch, hSome]
      exact ⟨there, hRest, Or.inr hLeads, hSome.symm⟩

theorem seq
    (hFirst : Reads p read)
    (hSecond : Reads q readOn) :
    Reads (.seq p q) fun cs => (read cs).bind readOn where
  rest_eq := by
    rintro here there groups found hSmall
      ⟨between, seen, hLeads, hBehind⟩
    rcases hFirst.rest_eq hSmall hLeads with ⟨hRest, rfl⟩
    rcases hSecond.rest_eq (hLeads.small hSmall) hBehind with
      ⟨hLast, rfl⟩
    rw [hRest]
    exact ⟨hLast, rfl⟩
  exists_leads := by
    intro here rest groups hRest
    rcases Option.bind_eq_some_iff.mp hRest with
      ⟨middle, hMiddle, hLast⟩
    rcases hFirst.exists_leads groups hMiddle with
      ⟨between, hLeads, rfl⟩
    rcases hSecond.exists_leads groups hLast with
      ⟨there, hBehind, rfl⟩
    exact ⟨there, ⟨between, groups, hLeads, hBehind⟩, rfl⟩

/-
  A repetition takes all of its class, if what comes behind it
  cannot begin with a character of it.
-/
theorem behindMany
    (kind : Char → Bool)
    (least : Nat)
    (hReads : Reads p read)
    (hEnd :
      ∀ c cs, c.toNat < 128 → kind c = true →
        read (c :: cs) = none) :
    Reads (.seq (many kind least none) p) fun cs =>
      if least ≤ (cs.takeWhile kind).length then
        read (cs.dropWhile kind)
      else
        none where
  rest_eq := by
    rintro here there groups found hSmall
      ⟨between, seen, hMany, hBehind⟩
    have hBetweenSmall := hMany.small hSmall
    rcases hMany with ⟨n, hPasses, hLeast, -, rfl⟩
    rcases hReads.rest_eq hBetweenSmall hBehind with
      ⟨hRest, hFound⟩
    have hBetween :
        between.rest = here.rest.dropWhile kind := by
      apply hPasses.rest_eq
      intro c hHead
      rcases List.head?_eq_some_iff.mp hHead with ⟨cs, hCons⟩
      rw [hCons] at hRest hBetweenSmall
      rw [Bool.eq_false_iff]
      intro hKind
      rw [hEnd c cs (Small.cons_iff.mp hBetweenSmall).1 hKind]
        at hRest
      cases hRest
    have hTaken : (here.rest.takeWhile kind).length = n := by
      rcases hPasses.passage with ⟨passed, hSplit, rfl, -⟩
      have hWhole :=
        List.takeWhile_append_dropWhile
          (p := kind) (l := here.rest)
      rw [← hBetween, hSplit] at hWhole
      rw [hSplit, List.append_cancel_right hWhole]
    rw [if_pos (by omega), ← hBetween]
    exact ⟨hRest, hFound⟩
  exists_leads := by
    intro here rest groups hRest
    split_ifs at hRest with hLeast
    rcases exists_farthest kind here with
      ⟨between, hPasses, hBetween⟩
    rw [← hBetween] at hRest
    rcases hReads.exists_leads groups hRest with
      ⟨there, hLeads, hThere⟩
    exact
      ⟨there,
        ⟨between, groups,
          ⟨_, hPasses, hLeast, by simp, rfl⟩, hLeads⟩,
        hThere⟩

theorem congr
    (hReads : Reads p read)
    (hSame : ∀ cs, read cs = readOn cs) :
    Reads p readOn := by
  rw [← funext hSame]
  exact hReads

end Reads

------------------------------------------------------------
-- Texts
------------------------------------------------------------

theorem exists_leads_characters
    {cs rest : List Char}
    {here : Place}
    (groups : Groups)
    (hRest : here.rest = cs ++ rest) :
    ∃ there,
      Leads (sequence (cs.map fun c => one (· == c))) here groups
          there groups ∧
        there.rest = rest := by
  induction cs generalizing here with
  | nil => exact ⟨here, ⟨rfl, rfl⟩, hRest⟩
  | cons c cs ih =>
      cases cs with
      | nil =>
          exact
            ⟨_, ⟨c, rest, hRest, beq_self_eq_true c, rfl, rfl⟩,
              rfl⟩
      | cons c' cs =>
          let between : Place :=
            ⟨here.offset + 1, some c, c' :: cs ++ rest⟩
          have hBetween : between.rest = c' :: cs ++ rest := rfl
          rcases ih hBetween with ⟨there, hLeads, hThere⟩
          exact
            ⟨there,
              ⟨_, groups,
                ⟨c, c' :: cs ++ rest, hRest,
                  beq_self_eq_true c, rfl, rfl⟩,
                hLeads⟩,
              hThere⟩

theorem reads_literal
    (s : String) :
    Reads (literal s) (Text.dropPrefix? s.toList) where
  rest_eq := by
    intro here there groups found _ hLeads
    rcases hLeads.literal with ⟨hPassage, hFound⟩
    exact
      ⟨(Text.dropPrefix?_eq_some_iff _ _ _).mpr
          hPassage.rest_eq,
        hFound⟩
  exists_leads := by
    intro here rest groups hRest
    exact
      exists_leads_characters groups
        ((Text.dropPrefix?_eq_some_iff _ _ _).mp hRest)

/- What follows a text, behind blanks. -/
def behindMark? (mark : String) (cs : List Char) :
    Option (List Char) :=
  Text.dropPrefix? mark.toList (cs.dropWhile Text.isBlank)

theorem behindMark?_append
    {gap : List Char}
    (mark : String)
    (cs : List Char)
    (hGap : ∀ c ∈ gap, Text.isBlank c = true) :
    behindMark? mark (gap ++ cs) = behindMark? mark cs := by
  rw [behindMark?, List.dropWhile_append_of_pos hGap]
  rfl

theorem reads_mark
    {mark : String}
    {first : Char}
    {more : List Char}
    (hMark : mark.toList = first :: more)
    (hFirst : Text.isBlank first = false) :
    Reads (seq blanks (literal mark)) (behindMark? mark) := by
  have hReads :=
    (reads_literal mark).behindMany Text.isBlank 0 (by
      intro c cs _ hBlank
      have hOther : first ≠ c := by
        rintro rfl
        rw [hFirst] at hBlank
        cases hBlank
      simp [hMark, Text.dropPrefix?, hOther])
  exact hReads.congr fun cs => rfl

/- The character before a place that a text has led to. -/
theorem Leads.literal_before
    {text : List Char}
    {s : String}
    {here there : Place}
    {groups found : Groups}
    {c : Char}
    (hLeads : Leads (Pattern.literal s) here groups there found)
    (hText : here.OnText text)
    (hLast : s.toList.getLast? = some c) :
    there.before = some c := by
  have hThere := hLeads.onText hText
  have hPassage := hLeads.literal.1
  rw [hThere.before_eq, hPassage.offset_eq, List.take_add,
    ← hText.rest_eq, hPassage.rest_eq, List.take_left' rfl,
    List.getLast?_append, hLast]
  rfl

/- Whether a word comes next, behind blanks. -/
def wordAhead (word : String) (cs : List Char) : Bool :=
  match behindMark? word cs with
  | some rest => rest.head?.all fun c => !Text.isWord c
  | none => false

/- An edge behind a word says that it does not go on. -/
theorem wordAhead_eq_isEdge
    {text : List Char}
    {word : String}
    {last : Char}
    {here there : Place}
    {groups found : Groups}
    (hLast : word.toList.getLast? = some last)
    (hWord : Text.isWord last = true)
    (hText : here.OnText text)
    (hRead : behindMark? word here.rest = some there.rest)
    (hLeads :
      Leads (seq blanks (literal word)) here groups there found) :
    wordAhead word here.rest = isEdge there := by
  rcases hLeads with ⟨between, _, hBlanks, hLiteral⟩
  have hBefore : there.before = some last :=
    hLiteral.literal_before (hBlanks.onText hText) hLast
  simp only [wordAhead, hRead, isEdge, hBefore]
  cases there.rest.head? with
  | none => simp [hWord]
  | some c => cases hNext : Text.isWord c <;> simp [hWord, hNext]

/- The matcher goes on behind a word just if it comes next. -/
theorem Reads.matchThen_word
    {α : Type}
    {text : List Char}
    {word : String}
    {last : Char}
    {here : Place}
    (hReads : Reads (.seq blanks (literal word)) (behindMark? word))
    (hLast : word.toList.getLast? = some last)
    (hWord : Text.isWord last = true)
    (hText : here.OnText text)
    (hSmall : Small text)
    (groups : Groups)
    (next : Place → Groups → Option α) :
    (wordAhead word here.rest = true ∧
        ∃ there,
          matchThen (.seq (.seq blanks (literal word)) edge) here
              groups next =
            next there groups) ∨
      (wordAhead word here.rest = false ∧
        matchThen (.seq (.seq blanks (literal word)) edge) here
            groups next =
          none) := by
  rw [matchThen]
  cases hRead : behindMark? word here.rest with
  | none =>
      refine Or.inr ⟨by rw [wordAhead, hRead], ?_⟩
      exact
        hReads.matchThen_of_none (hText.small hSmall) hRead _ _
  | some rest =>
      rcases hReads.matchThen_of_some hText hSmall hRead with
        ⟨there, hLeads, rfl, hMatch⟩
      rw [hMatch,
        wordAhead_eq_isEdge hLast hWord hText hRead hLeads]
      cases hEdge : isEdge there with
      | true =>
          exact Or.inl ⟨rfl, there, by simp [matchThen, hEdge]⟩
      | false => exact Or.inr ⟨rfl, by simp [matchThen, hEdge]⟩

end Pattern

end Devirt

------------------------------------------------------------
-- Texts That Are Accepted
------------------------------------------------------------

namespace Devirt

namespace Pattern

/- Characters of a class can be passed. -/
theorem exists_passes
    {p : Char → Bool}
    {here : Place}
    {passed rest : List Char}
    (hRest : here.rest = passed ++ rest)
    (hClass : ∀ c ∈ passed, p c = true) :
    ∃ there, Passes p here there passed.length ∧ there.rest = rest := by
  induction passed generalizing here with
  | nil => exact ⟨here, .done here, hRest⟩
  | cons c passed ih =>
      rcases here with ⟨offset, before, _⟩
      rcases List.forall_mem_cons.mp hClass with ⟨hHere, hLater⟩
      have hRest : _ = c :: (passed ++ rest) := hRest
      subst hRest
      have hNext :
          (⟨offset + 1, some c, passed ++ rest⟩ : Place).rest =
            passed ++ rest := rfl
      rcases ih hNext hLater with
        ⟨there, hPasses, hThere⟩
      exact ⟨there, .next hHere hPasses, hThere⟩

/- A pattern can take some characters wherever they come. -/
def Accepts (p : Pattern) (passed : List Char) : Prop :=
  ∀ (here : Place) (groups : Groups) (rest : List Char),
    here.rest = passed ++ rest →
      ∃ there found,
        Leads p here groups there found ∧ there.rest = rest

namespace Accepts

variable {a b : Pattern}
variable {passed : List Char}

theorem seq
    {first second : List Char}
    (hFirst : a.Accepts first)
    (hSecond : b.Accepts second) :
    (Pattern.seq a b).Accepts (first ++ second) := by
  intro here groups rest hRest
  rw [List.append_assoc] at hRest
  rcases hFirst here groups _ hRest with
    ⟨between, seen, hLeads, hBetween⟩
  rcases hSecond between seen rest hBetween with
    ⟨there, found, hBehind, hThere⟩
  exact ⟨there, found, ⟨between, seen, hLeads, hBehind⟩, hThere⟩

theorem left
    (b : Pattern)
    (hLeft : a.Accepts passed) :
    (alt a b).Accepts passed := by
  intro here groups rest hRest
  rcases hLeft here groups rest hRest with
    ⟨there, found, hLeads, hThere⟩
  exact ⟨there, found, Or.inl hLeads, hThere⟩

theorem right
    (a : Pattern)
    (hRight : b.Accepts passed) :
    (alt a b).Accepts passed := by
  intro here groups rest hRest
  rcases hRight here groups rest hRest with
    ⟨there, found, hLeads, hThere⟩
  exact ⟨there, found, Or.inr hLeads, hThere⟩

theorem group
    (n : Nat)
    (hInner : a.Accepts passed) :
    (Pattern.group n a).Accepts passed := by
  intro here groups rest hRest
  rcases hInner here groups rest hRest with
    ⟨there, found, hLeads, hThere⟩
  exact ⟨there, _, ⟨found, hLeads, rfl⟩, hThere⟩

end Accepts

theorem accepts_one
    {p : Char → Bool}
    {c : Char}
    (hClass : p c = true) :
    (one p).Accepts [c] := by
  intro here groups rest hRest
  exact ⟨_, groups, ⟨c, rest, hRest, hClass, rfl, rfl⟩, rfl⟩

theorem accepts_char
    (c : Char) :
    (char c).Accepts [c] :=
  accepts_one (p := (· == c)) (beq_self_eq_true c)

theorem accepts_many
    {p : Char → Bool}
    {least : Nat}
    {most : Option Nat}
    {passed : List Char}
    (hClass : ∀ c ∈ passed, p c = true)
    (hLeast : least ≤ passed.length)
    (hMost : ∀ bound ∈ most, passed.length ≤ bound) :
    (many p least most).Accepts passed := by
  intro here groups rest hRest
  rcases exists_passes hRest hClass with
    ⟨there, hPasses, hThere⟩
  exact ⟨there, groups, ⟨_, hPasses, hLeast, hMost, rfl⟩, hThere⟩

theorem accepts_blanks
    {passed : List Char}
    (hBlank : ∀ c ∈ passed, Text.isBlank c = true) :
    blanks.Accepts passed :=
  accepts_many hBlank (Nat.zero_le _) (by simp)

theorem accepts_literal
    (s : String) :
    (literal s).Accepts s.toList := by
  intro here groups rest hRest
  rcases exists_leads_characters groups hRest with
    ⟨there, hLeads, hThere⟩
  exact ⟨there, groups, hLeads, hThere⟩

end Pattern

end Devirt
