import Devirt.Proofs.Pattern.Matches

/-
  The characters of a match, and the order of matches.

  Between the places of a match lie the characters that its
  pattern has taken.  Which characters cannot be among them,
  which cannot be the first, and of which there must be one, is
  computed from the classes of the pattern.  Each search goes
  on behind the last match, so matches follow each other
  without overlap.

  Main declarations:
    * `Pattern.avoids`, `Pattern.beginsOutside`
    * `Pattern.Passage`, `Pattern.Leads.passage`
    * `Pattern.isForgetful`, `Pattern.Passage.part_eq`
    * `Pattern.Leads.literal`
    * `Pattern.takes`, `Pattern.Leads.exists_mark`
    * `Pattern.Lined`, `Pattern.all_lined`
-/

------------------------------------------------------------
-- Characters that Are Avoided
------------------------------------------------------------

namespace Devirt

namespace Pattern

/- None of the given characters is taken. -/
def avoids (marks : List Char) : Pattern → Bool
  | one p => marks.all fun c => !p c
  | many p _ _ => marks.all fun c => !p c
  | seq a b => a.avoids marks && b.avoids marks
  | alt a b => a.avoids marks && b.avoids marks
  | group _ a => a.avoids marks
  | _ => true

/- No character is taken at all. -/
def isTest : Pattern → Bool
  | start => true
  | stop => true
  | edge => true
  | _ => false

/-
  A character is taken, and the first one is none of the
  given ones.
-/
def beginsOutside (marks : List Char) : Pattern → Bool
  | one p => marks.all fun c => !p c
  | many p least _ => 0 < least && marks.all fun c => !p c
  | seq a b =>
    a.beginsOutside marks || (a.isTest && b.beginsOutside marks)
  | alt a b => a.beginsOutside marks && b.beginsOutside marks
  | group _ a => a.beginsOutside marks
  | _ => false

theorem not_mem_of_class
    {p : Char → Bool}
    {marks : List Char}
    {c : Char}
    (hMarks : (marks.all fun c => !p c) = true)
    (hClass : p c = true) :
    c ∉ marks := by
  intro hMember
  have hNone := List.all_eq_true.mp hMarks c hMember
  simp [hClass] at hNone

------------------------------------------------------------
-- Passages
------------------------------------------------------------

/-
  A pattern takes characters on its way from one place to
  another.
-/
structure Passage
    (p : Pattern)
    (here : Place)
    (passed : List Char)
    (there : Place) : Prop where
  rest_eq : here.rest = passed ++ there.rest
  offset_eq : there.offset = here.offset + passed.length
  outside :
    ∀ marks, p.avoids marks = true →
      ∀ c ∈ passed, c ∉ marks
  test_empty : p.isTest = true → passed = []
  first_outside :
    ∀ marks, p.beginsOutside marks = true →
      ∃ c, passed.head? = some c ∧ c ∉ marks

/- What stays where it is takes nothing. -/
theorem Passage.stay
    {p : Pattern}
    (here : Place)
    (hTest : ∀ marks, p.beginsOutside marks = false) :
    Passage p here [] here :=
  { rest_eq := rfl
    offset_eq := rfl
    outside := by simp
    test_empty := fun _ => rfl
    first_outside := by simp [hTest] }

theorem Passes.passage
    {p : Char → Bool}
    {here there : Place}
    {n : Nat}
    (hPasses : Passes p here there n) :
    ∃ passed,
      here.rest = passed ++ there.rest ∧
        passed.length = n ∧ ∀ c ∈ passed, p c = true := by
  induction hPasses with
  | done here => exact ⟨[], rfl, rfl, by simp⟩
  | @next offset n before c cs there hClass hRest ih =>
      rcases ih with ⟨passed, hSplit, hLength, hAll⟩
      have hSplit : cs = passed ++ there.rest := hSplit
      refine ⟨c :: passed, ?_, ?_, ?_⟩
      · simp [hSplit]
      · simp [hLength]
      · intro other hOther
        rcases List.mem_cons.mp hOther with rfl | hLater
        · exact hClass
        · exact hAll other hLater

theorem Passage.seq
    {a b : Pattern}
    {here between there : Place}
    {first second : List Char}
    (hFirst : Passage a here first between)
    (hSecond : Passage b between second there) :
    Passage (.seq a b) here (first ++ second) there where
  rest_eq := by
    rw [hFirst.rest_eq, hSecond.rest_eq, List.append_assoc]
  offset_eq := by
    rw [hSecond.offset_eq, hFirst.offset_eq,
      List.length_append, Nat.add_assoc]
  outside := by
    intro marks hAvoids c hMember
    have hBoth := Bool.and_eq_true_iff.mp hAvoids
    rcases List.mem_append.mp hMember with hLeft | hRight
    · exact hFirst.outside marks hBoth.1 c hLeft
    · exact hSecond.outside marks hBoth.2 c hRight
  test_empty := by simp [isTest]
  first_outside := by
    intro marks hBegins
    rcases Bool.or_eq_true_iff.mp hBegins with hHere | hBehind
    · rcases hFirst.first_outside marks hHere with
        ⟨c, hHead, hOutside⟩
      exact ⟨c, by simp [hHead], hOutside⟩
    · have hBoth := Bool.and_eq_true_iff.mp hBehind
      rw [hFirst.test_empty hBoth.1, List.nil_append]
      exact hSecond.first_outside marks hBoth.2

/- A pattern that promises less takes the same characters. -/
theorem Passage.promiseLess
    {p q : Pattern}
    {here there : Place}
    {passed : List Char}
    (hPassage : Passage p here passed there)
    (hTest : q.isTest = false)
    (hAvoids :
      ∀ marks, q.avoids marks = true → p.avoids marks = true)
    (hBegins :
      ∀ marks, q.beginsOutside marks = true →
        p.beginsOutside marks = true) :
    Passage q here passed there :=
  { rest_eq := hPassage.rest_eq
    offset_eq := hPassage.offset_eq
    outside := fun marks hMarks =>
      hPassage.outside marks (hAvoids marks hMarks)
    test_empty := by simp [hTest]
    first_outside := fun marks hMarks =>
      hPassage.first_outside marks (hBegins marks hMarks) }

theorem passage_one
    {p : Char → Bool}
    {here : Place}
    {c : Char}
    {cs : List Char}
    (hRest : here.rest = c :: cs)
    (hClass : p c = true) :
    Passage (one p) here [c] ⟨here.offset + 1, some c, cs⟩ where
  rest_eq := hRest
  offset_eq := rfl
  outside := by
    intro marks hMarks other hOther
    rw [List.mem_singleton.mp hOther]
    exact not_mem_of_class hMarks hClass
  test_empty := by simp [isTest]
  first_outside := fun marks hMarks =>
    ⟨c, rfl, not_mem_of_class hMarks hClass⟩

theorem passage_many
    {p : Char → Bool}
    {here there : Place}
    {least n : Nat}
    (most : Option Nat)
    (hPasses : Passes p here there n)
    (hLeast : least ≤ n) :
    ∃ passed, Passage (many p least most) here passed there := by
  rcases hPasses.passage with ⟨passed, hRest, hLength, hAll⟩
  refine
    ⟨passed,
      { rest_eq := hRest
        offset_eq := by rw [hLength, hPasses.offset_eq]
        outside := fun marks hMarks c hMember =>
          not_mem_of_class hMarks (hAll c hMember)
        test_empty := by simp [isTest]
        first_outside := ?_ }⟩
  intro marks hBegins
  simp only [beginsOutside, Bool.and_eq_true,
    decide_eq_true_eq] at hBegins
  cases passed with
  | nil =>
      simp only [List.length_nil] at hLength
      omega
  | cons c passed =>
      exact
        ⟨c, rfl,
          not_mem_of_class hBegins.2
            (hAll c List.mem_cons_self)⟩

/- A repetition leads along characters of its class. -/
theorem Leads.many
    {p : Char → Bool}
    {least : Nat}
    {most : Option Nat}
    {here there : Place}
    {groups found : Groups}
    (hLeads : Leads (many p least most) here groups there found) :
    ∃ passed,
      Passage (Pattern.many p least most) here passed there ∧
        least ≤ passed.length ∧ ∀ c ∈ passed, p c = true := by
  rcases hLeads with ⟨n, hPasses, hLeast, -⟩
  rcases passage_many most hPasses hLeast with
    ⟨passed, hPassage⟩
  rcases hPasses.passage with ⟨other, hRest, rfl, hAll⟩
  have hSame : other = passed :=
    List.append_cancel_right (hRest.symm.trans hPassage.rest_eq)
  rw [hSame] at hLeast hAll
  exact ⟨passed, hPassage, hLeast, hAll⟩

/- What a pattern leads along is a passage of it. -/
theorem Leads.passage
    {p : Pattern}
    {here there : Place}
    {groups found : Groups}
    (hLeads : Leads p here groups there found) :
    ∃ passed, Passage p here passed there := by
  induction p generalizing here there groups found with
  | empty =>
      rw [hLeads.1]
      exact ⟨[], .stay here fun _ => rfl⟩
  | one p =>
      rcases hLeads with ⟨c, cs, hRest, hClass, rfl, -⟩
      exact ⟨[c], passage_one hRest hClass⟩
  | many p least most =>
      rcases hLeads with ⟨n, hPasses, hLeast, -⟩
      exact passage_many most hPasses hLeast
  | seq a b ihA ihB =>
      rcases hLeads with ⟨between, seen, hFirst, hSecond⟩
      rcases ihA hFirst with ⟨first, hFirst⟩
      rcases ihB hSecond with ⟨second, hSecond⟩
      exact ⟨first ++ second, hFirst.seq hSecond⟩
  | alt a b ihA ihB =>
      rcases hLeads with hLeft | hRight
      · rcases ihA hLeft with ⟨passed, hPassage⟩
        exact
          ⟨passed,
            hPassage.promiseLess rfl
              (fun _ hBoth => (Bool.and_eq_true_iff.mp hBoth).1)
              fun _ hBoth => (Bool.and_eq_true_iff.mp hBoth).1⟩
      · rcases ihB hRight with ⟨passed, hPassage⟩
        exact
          ⟨passed,
            hPassage.promiseLess rfl
              (fun _ hBoth => (Bool.and_eq_true_iff.mp hBoth).2)
              fun _ hBoth => (Bool.and_eq_true_iff.mp hBoth).2⟩
  | group n a ih =>
      rcases hLeads with ⟨seen, hInner, -⟩
      rcases ih hInner with ⟨passed, hPassage⟩
      exact
        ⟨passed,
          hPassage.promiseLess rfl (fun _ hMarks => hMarks)
            fun _ hMarks => hMarks⟩
  | start =>
      rw [hLeads.2.1]
      exact ⟨[], .stay here fun _ => rfl⟩
  | stop =>
      rw [hLeads.2.1]
      exact ⟨[], .stay here fun _ => rfl⟩
  | edge =>
      rw [hLeads.2.1]
      exact ⟨[], .stay here fun _ => rfl⟩

/- No part of the match is remembered. -/
def isForgetful : Pattern → Bool
  | seq a b => a.isForgetful && b.isForgetful
  | alt a b => a.isForgetful && b.isForgetful
  | group _ _ => false
  | _ => true

theorem Leads.found_eq
    {p : Pattern}
    {here there : Place}
    {groups found : Groups}
    (hForgetful : p.isForgetful = true)
    (hLeads : Leads p here groups there found) :
    found = groups := by
  induction p generalizing here there groups found with
  | empty => exact hLeads.2
  | one p =>
      rcases hLeads with ⟨c, cs, -, -, -, hFound⟩
      exact hFound
  | many p least most =>
      rcases hLeads with ⟨n, -, -, -, hFound⟩
      exact hFound
  | seq a b ihA ihB =>
      have hBoth := Bool.and_eq_true_iff.mp hForgetful
      rcases hLeads with ⟨between, seen, hFirst, hSecond⟩
      rw [ihB hBoth.2 hSecond, ihA hBoth.1 hFirst]
  | alt a b ihA ihB =>
      have hBoth := Bool.and_eq_true_iff.mp hForgetful
      rcases hLeads with hLeft | hRight
      · exact ihA hBoth.1 hLeft
      · exact ihB hBoth.2 hRight
  | group n a ih => cases hForgetful
  | start => exact hLeads.2.2
  | stop => exact hLeads.2.2
  | edge => exact hLeads.2.2

/- What was passed is the part of the text in between. -/
theorem Passage.part_eq
    {p : Pattern}
    {text passed : List Char}
    {here there : Place}
    (hPassage : Passage p here passed there)
    (hText : here.OnText text) :
    part text here.offset there.offset = passed := by
  unfold part
  rw [← hText.rest_eq, hPassage.rest_eq, hPassage.offset_eq,
    Nat.add_sub_cancel_left, List.take_left']
  rfl

/- A part of a text shows characters of the text. -/
theorem getElem?_of_part
    {text before chars after : List Char}
    {start stop i : Nat}
    {c : Char}
    (hPart : part text start stop = before ++ (chars ++ after))
    (hChar : chars[i]? = some c) :
    text[start + before.length + i]? = some c := by
  have hInside : i < chars.length :=
    (List.getElem?_eq_some_iff.mp hChar).1
  have hHere := congrArg (·[before.length + i]?) hPart
  simp only [part, List.getElem?_append_right,
    Nat.le_add_right, Nat.add_sub_cancel_left,
    List.getElem?_append_left hInside, hChar,
    List.getElem?_take, List.getElem?_drop] at hHere
  split_ifs at hHere
  rw [Nat.add_assoc]
  exact hHere

/- What stands before the rest of a part. -/
theorem take_of_part
    {text before after : List Char}
    {start stop : Nat}
    (hPart : part text start stop = before ++ after) :
    text.take (start + before.length) =
      text.take start ++ before := by
  have hLength := congrArg List.length hPart
  simp only [part, List.length_take, List.length_append]
    at hLength
  have hShort : before.length ≤ stop - start := by omega
  have hTaken := congrArg (List.take before.length) hPart
  rw [part, List.take_take, Nat.min_eq_left hShort,
    List.take_left' rfl] at hTaken
  rw [List.take_add, hTaken]

/- What a remembered pattern has passed can be read off. -/
theorem Passage.groupText_eq
    {p : Pattern}
    {text passed : List Char}
    {m : Match}
    {n : Nat}
    {here there : Place}
    (hPassage : Passage p here passed there)
    (hText : here.OnText text)
    (hGroup : m.group? n = some (here.offset, there.offset)) :
    m.groupText text n = passed := by
  rw [Match.groupText, hGroup]
  exact hPassage.part_eq hText

/- The patterns of characters, one after the other. -/
theorem leads_characters
    {cs : List Char}
    {here there : Place}
    {groups found : Groups}
    (hLeads :
      Leads (sequence (cs.map fun c => one (· == c))) here groups
        there found) :
    here.rest = cs ++ there.rest ∧ found = groups := by
  induction cs generalizing here groups with
  | nil =>
      rw [hLeads.1]
      exact ⟨rfl, hLeads.2⟩
  | cons c cs ih =>
      cases cs with
      | nil =>
          rcases hLeads with ⟨d, ds, hRest, hSame, rfl, hFound⟩
          rw [beq_iff_eq.mp hSame] at hRest
          exact ⟨hRest, hFound⟩
      | cons c' cs =>
          rcases hLeads with
            ⟨between, seen, ⟨d, ds, hRest, hSame, rfl, rfl⟩,
              hLater⟩
          rcases ih hLater with ⟨hBehind, hFound⟩
          have hBehind : ds = c' :: cs ++ there.rest := hBehind
          rw [hRest, beq_iff_eq.mp hSame, hBehind]
          exact ⟨rfl, hFound⟩

/- A text leads along itself. -/
theorem Leads.literal
    {s : String}
    {here there : Place}
    {groups found : Groups}
    (hLeads : Leads (literal s) here groups there found) :
    Passage (Pattern.literal s) here s.toList there ∧
      found = groups := by
  rcases leads_characters hLeads with ⟨hRest, hFound⟩
  rcases hLeads.passage with ⟨passed, hPassage⟩
  have hPassed : passed = s.toList :=
    List.append_cancel_right (hPassage.rest_eq.symm.trans hRest)
  rw [hPassed] at hPassage
  exact ⟨hPassage, hFound⟩

end Pattern

end Devirt

------------------------------------------------------------
-- Characters that Are Taken
------------------------------------------------------------

namespace Devirt

namespace Pattern

/- The only ASCII characters of a class are the given ones. -/
def isAmong (marks : List Char) (p : Char → Bool) : Bool :=
  (List.range 128).all fun n =>
    !p (Char.ofNat n) || marks.contains (Char.ofNat n)

/- One of the given characters is taken from ASCII texts. -/
def takes (marks : List Char) : Pattern → Bool
  | one p => isAmong marks p
  | many p least _ => 0 < least && isAmong marks p
  | seq a b => a.takes marks || b.takes marks
  | alt a b => a.takes marks && b.takes marks
  | group _ a => a.takes marks
  | _ => false

theorem mem_of_isAmong
    {marks : List Char}
    {p : Char → Bool}
    {c : Char}
    (hAmong : isAmong marks p = true)
    (hAscii : c.toNat < 128)
    (hClass : p c = true) :
    c ∈ marks := by
  have hHere :=
    List.all_eq_true.mp hAmong c.toNat (List.mem_range.mpr hAscii)
  rw [Char.ofNat_toNat, hClass] at hHere
  simpa using hHere

/- A passage that takes a mark has it among its characters. -/
theorem Leads.exists_mark
    {marks : List Char}
    {p : Pattern}
    {here there : Place}
    {groups found : Groups}
    (hLeads : Leads p here groups there found)
    (hAscii : ∀ c ∈ here.rest, c.toNat < 128)
    (hTakes : p.takes marks = true) :
    ∃ passed,
      here.rest = passed ++ there.rest ∧
        ∃ c ∈ passed, c ∈ marks := by
  induction p generalizing here there groups found with
  | empty => cases hTakes
  | one p =>
      rcases hLeads with ⟨c, cs, hRest, hClass, rfl, -⟩
      have hMark :=
        mem_of_isAmong hTakes (hAscii c (by simp [hRest])) hClass
      exact ⟨[c], hRest, c, List.mem_singleton.mpr rfl, hMark⟩
  | many p least most =>
      rcases hLeads with ⟨n, hPasses, hLeast, -⟩
      rcases hPasses.passage with
        ⟨passed, hRest, hLength, hAll⟩
      simp only [takes, Bool.and_eq_true, decide_eq_true_eq]
        at hTakes
      cases passed with
      | nil =>
          simp only [List.length_nil] at hLength
          omega
      | cons c passed =>
          have hMark :=
            mem_of_isAmong hTakes.2 (hAscii c (by simp [hRest]))
              (hAll c List.mem_cons_self)
          exact
            ⟨c :: passed, hRest, c, List.mem_cons_self, hMark⟩
  | seq a b ihA ihB =>
      rcases hLeads with ⟨between, seen, hFirst, hSecond⟩
      rcases hFirst.passage with ⟨first, hPassage⟩
      rcases hSecond.passage with ⟨second, hBehind⟩
      rcases Bool.or_eq_true_iff.mp hTakes with hHere | hThere
      · rcases ihA hFirst hAscii hHere with
          ⟨passed, hRest, c, hMember, hMark⟩
        refine ⟨passed ++ second, ?_, c, ?_, hMark⟩
        · rw [hRest, hBehind.rest_eq, List.append_assoc]
        · exact List.mem_append_left _ hMember
      · have hLater : ∀ c ∈ between.rest, c.toNat < 128 := by
          intro c hMember
          apply hAscii
          rw [hPassage.rest_eq]
          exact List.mem_append_right _ hMember
        rcases ihB hSecond hLater hThere with
          ⟨passed, hRest, c, hMember, hMark⟩
        refine ⟨first ++ passed, ?_, c, ?_, hMark⟩
        · rw [hPassage.rest_eq, hRest, List.append_assoc]
        · exact List.mem_append_right _ hMember
  | alt a b ihA ihB =>
      have hBoth := Bool.and_eq_true_iff.mp hTakes
      rcases hLeads with hLeft | hRight
      · exact ihA hLeft hAscii hBoth.1
      · exact ihB hRight hAscii hBoth.2
  | group n a ih =>
      rcases hLeads with ⟨seen, hInner, -⟩
      exact ih hInner hAscii hTakes
  | start => cases hTakes
  | stop => cases hTakes
  | edge => cases hTakes

end Pattern

end Devirt

------------------------------------------------------------
-- The Order of Matches
------------------------------------------------------------

namespace Devirt

namespace Pattern

/-
  Matches of a pattern from an offset on, each behind the one
  before it.
-/
inductive Lined (p : Pattern) (text : List Char) :
    Nat → List Match → Prop where
  | nil
      (offset : Nat) :
      Lined p text offset []
  | cons
      {offset : Nat}
      {m : Match}
      {later : List Match}
      {here there : Place}
      (hAfter : offset ≤ m.start)
      (hLocated : Located p text m here there)
      (hLater : Lined p text m.stop later) :
      Lined p text offset (m :: later)

theorem Lined.weaken
    {p : Pattern}
    {text : List Char}
    {offset earlier : Nat}
    {found : List Match}
    (hLined : Lined p text offset found)
    (hEarlier : earlier ≤ offset) :
    Lined p text earlier found := by
  cases hLined with
  | nil => exact .nil earlier
  | cons hAfter hLocated hLater =>
      exact
        .cons (Nat.le_trans hEarlier hAfter) hLocated hLater

theorem Located.start_le_stop
    {p : Pattern}
    {text : List Char}
    {m : Match}
    {here there : Place}
    (hLocated : Located p text m here there) :
    m.start ≤ m.stop := by
  rcases hLocated.leads.passage with ⟨passed, hPassage⟩
  rw [hLocated.start_eq, hLocated.stop_eq,
    hPassage.offset_eq]
  exact Nat.le_add_right _ _

/- A match that takes a character ends behind its beginning. -/
theorem Located.start_lt_stop
    {p : Pattern}
    {text : List Char}
    {m : Match}
    {here there : Place}
    (hLocated : Located p text m here there)
    (hBegins : p.beginsOutside [] = true) :
    m.start < m.stop := by
  rcases hLocated.leads.passage with ⟨passed, hPassage⟩
  rcases hPassage.first_outside [] hBegins with ⟨c, hHead, -⟩
  have hNotEmpty : passed ≠ [] := by
    rintro rfl
    cases hHead
  rw [hLocated.start_eq, hLocated.stop_eq,
    hPassage.offset_eq]
  exact
    Nat.lt_add_of_pos_right (List.length_pos_of_ne_nil hNotEmpty)

/- Matches that take characters begin one after the other. -/
theorem Lined.pairwise
    {p : Pattern}
    {text : List Char}
    {offset : Nat}
    {found : List Match}
    (hLined : Lined p text offset found)
    (hBegins : p.beginsOutside [] = true) :
    found.Pairwise (·.start < ·.start) ∧
      ∀ m ∈ found, offset ≤ m.start := by
  induction hLined with
  | nil offset => exact ⟨.nil, by simp⟩
  | cons hAfter hLocated hLater ih =>
      have hLonger := hLocated.start_lt_stop hBegins
      refine ⟨List.pairwise_cons.mpr ⟨?_, ih.1⟩, ?_⟩
      · intro m hMember
        exact Nat.lt_of_lt_of_le hLonger (ih.2 m hMember)
      · intro m hMember
        rcases List.mem_cons.mp hMember with rfl | hBehind
        · exact hAfter
        · have hBetween := ih.2 m hBehind
          omega

/- A place inside of a match is one of its characters. -/
theorem Located.exists_drop
    {p : Pattern}
    {text passed : List Char}
    {m : Match}
    {here there place : Place}
    (hLocated : Located p text m here there)
    (hRest : here.rest = passed ++ there.rest)
    (hPlace : place.OnText text)
    (hAfter : m.start < place.offset)
    (hBefore : place.offset < m.stop) :
    ∃ k,
      0 < k ∧ k < passed.length ∧
        place.rest = (passed ++ there.rest).drop k := by
  have hHere := hLocated.onText
  have hThere := hLocated.leads.onText hHere
  have hStart := hLocated.start_eq
  have hStop := hLocated.stop_eq
  have hInside := hHere.inside
  have hInside' := hThere.inside
  have hLength := congrArg List.length hRest
  rw [hHere.rest_eq, hThere.rest_eq, List.length_append,
    List.length_drop, List.length_drop] at hLength
  refine
    ⟨place.offset - m.start, by omega, by omega, ?_⟩
  rw [← hRest, hHere.rest_eq, hPlace.rest_eq, List.drop_drop]
  congr 1
  omega

theorem allFrom_lined
    {p : Pattern}
    {text : List Char}
    (fuel : Nat)
    {here : Place}
    (hText : here.OnText text) :
    Lined p text here.offset (allFrom p fuel here) := by
  fun_induction allFrom p fuel here with
  | case1 here => exact .nil _
  | case2 => exact .nil _
  | case3 fuel here first there hSearch hLonger ih =>
      rcases search_located hText hSearch with
        ⟨place, hAfter, hFirst⟩
      have hThere := hFirst.leads.onText hFirst.onText
      refine .cons (hFirst.start_eq ▸ hAfter) hFirst ?_
      rw [hFirst.stop_eq]
      exact ih hThere
  | case4 fuel here first there hSearch hEmpty hRest =>
      rcases search_located hText hSearch with
        ⟨place, hAfter, hFirst⟩
      exact .cons (hFirst.start_eq ▸ hAfter) hFirst (.nil _)
  | case5 fuel here first there hSearch hEmpty c cs hRest ih =>
      rcases search_located hText hSearch with
        ⟨place, hAfter, hFirst⟩
      have hThere := hFirst.leads.onText hFirst.onText
      refine .cons (hFirst.start_eq ▸ hAfter) hFirst ?_
      rw [hFirst.stop_eq]
      rcases there with ⟨offset, before, rest⟩
      subst hRest
      exact (ih hThere.next).weaken (Nat.le_succ _)

theorem all_lined
    (p : Pattern)
    (text : List Char) :
    Lined p text 0 (p.all text) :=
  allFrom_lined (text.length + 1) (.beginning text)

end Pattern

end Devirt
