import Devirt.Proofs.Decimal.Numerals
import Devirt.Proofs.Pattern.Readers
import Devirt.Proofs.Source.Operands
import Devirt.Proofs.Source.Partners
import Devirt.Restoration.Layers

/-
  The call that an encoded script ends with.

  The last line that is not blank is found in the text, and so
  are the two calls at its beginning: blanks, a name and the
  mark behind it, and once more.  A line can be cut so in one
  way only, since names have neither blanks nor dots.  From the
  second bracket on, brackets are counted in the map of the
  whole script; where the payload leaves the scanner at the top
  level and its brackets balanced, they count up to its end.

  Main declarations:
    * `Layers.IsLastLine`, `Layers.splitLastLine_of_isLastLine`
    * `Layers.CallStart`, `Layers.CallHead.unique`,
      `Layers.matchFrom_head`
    * `Layers.Entry`, `Layers.entryCall?_of_entry`
    * `Layers.EntryCall`, `Layers.entryCall?_exposes`
-/

------------------------------------------------------------
-- Last Lines
------------------------------------------------------------

namespace Devirt

open Scanner CodeMap Pattern Text

namespace Layers

/-
  A script from the last line on that is not blank, and what
  comes before this line.
-/
structure IsLastLine (lead line : List Char) : Prop where
  lead_ends : lead = [] ∨ lead.getLast? = some '\n'
  exists_parts :
    ∃ body c tail,
      line = body ++ c :: tail ∧ isBlank c = false ∧
        '\n' ∉ body ∧ ∀ d ∈ tail, isBlank d = true

theorem splitLastLine_of_isLastLine
    {lead line : List Char}
    (hLast : IsLastLine lead line) :
    splitLastLine (lead ++ line) = some (lead, line) := by
  rcases hLast with ⟨hLead, body, c, tail, rfl, hBlank, hBody, hTail⟩
  have hText :
      (lead ++ (body ++ c :: tail)).reverse =
        tail.reverse ++ c :: (body.reverse ++ lead.reverse) := by
    simp
  have hTrimmed :
      dropEnd isBlank (lead ++ (body ++ c :: tail)) =
        lead ++ (body ++ [c]) := by
    rw [dropEnd, hText,
      List.dropWhile_append_of_pos (by simpa using hTail),
      List.dropWhile_cons_of_neg (by simp [hBlank])]
    simp
  have hFeed : c ≠ '\n' := by
    rintro rfl
    cases hBlank
  have hStops : ∀ d ∈ lead.reverse.head?, (d != '\n') = false := by
    intro d hHead
    rw [List.head?_reverse] at hHead
    rcases hLead with rfl | hFeed
    · cases hHead
    · rw [hFeed] at hHead
      cases hHead
      rfl
  have hRun : ∀ d ∈ c :: body.reverse, (d != '\n') = true := by
    intro d hMember
    rcases List.mem_cons.mp hMember with rfl | hInside
    · simpa using hFeed
    · simp only [bne_iff_ne]
      rintro rfl
      exact hBody (List.mem_reverse.mp hInside)
  have hLine :
      (lead ++ (body ++ [c])).reverse.takeWhile (· != '\n') =
        c :: body.reverse := by
    have hReverse :
        (lead ++ (body ++ [c])).reverse =
          (c :: body.reverse) ++ lead.reverse := by
      simp
    rw [hReverse]
    exact (Decimal.takeWhile_run hRun hStops).1
  have hLength :
      (lead ++ (body ++ [c])).length -
          (c :: body.reverse).length =
        lead.length := by
    simp
  have hSome : (lead ++ (body ++ [c])).isEmpty = false := by
    simp
  simp only [splitLastLine, hTrimmed, hLine, hLength, hSome,
    Bool.false_eq_true, if_false, List.take_left',
    List.drop_left']

/- A script that is not blank has a last line. -/
theorem exists_isLastLine
    (cs : List Char) :
    splitLastLine cs = none ∨
      ∃ lead line, cs = lead ++ line ∧ IsLastLine lead line := by
  have hCut :=
    List.takeWhile_append_dropWhile (p := isBlank)
      (l := cs.reverse)
  cases hRest : cs.reverse.dropWhile isBlank with
  | nil =>
      left
      simp [splitLastLine, dropEnd, hRest]
  | cons c rest =>
      right
      have hBlank : isBlank c = false := by
        have hHead :=
          List.head_dropWhile_not isBlank
            (l := cs.reverse) (by simp [hRest])
        simpa [hRest] using hHead
      have hLine :=
        List.takeWhile_append_dropWhile (p := (· != '\n'))
          (l := rest)
      rw [hRest, ← hLine] at hCut
      refine
        ⟨(rest.dropWhile (· != '\n')).reverse,
          (rest.takeWhile (· != '\n')).reverse ++
            c :: (cs.reverse.takeWhile isBlank).reverse,
          ?_, ?_, ?_⟩
      · refine List.reverse_injective (hCut.symm.trans ?_)
        simp
      · rw [List.reverse_eq_nil_iff, List.getLast?_reverse]
        cases hBehind : rest.dropWhile (· != '\n') with
        | nil => exact Or.inl rfl
        | cons d ds =>
            have hHead :=
              List.head_dropWhile_not (· != '\n')
                (l := rest) (by simp [hBehind])
            right
            simpa [hBehind] using hHead
      · refine ⟨_, c, _, rfl, hBlank, ?_, ?_⟩
        · rw [List.mem_reverse]
          intro hMember
          simpa using List.mem_takeWhile_imp hMember
        · intro d hMember
          rw [List.mem_reverse] at hMember
          exact List.mem_takeWhile_imp hMember

end Layers

end Devirt

------------------------------------------------------------
-- Heads of Calls
------------------------------------------------------------

namespace Devirt

open Scanner CodeMap Pattern Text

namespace Layers

/- A name, as an entry can have it. -/
def IsName (cs : List Char) : Prop :=
  ∃ c rest,
    cs = c :: rest ∧ isNameStart c = true ∧
      ∀ d ∈ rest, isName d = true

theorem isNameStart_spec
    {c : Char}
    (hStart : isNameStart c = true) :
    isName c = true ∧ isBlank c = false := by
  have hAll :
      ∀ n : Fin 128,
        isNameStart (Char.ofNat n) = true →
          isName (Char.ofNat n) = true ∧
            isBlank (Char.ofNat n) = false := by
    decide +kernel
  have hSmall : c.toNat < 128 := by
    simp only [isNameStart, Bool.or_eq_true, Bool.and_eq_true,
      decide_eq_true_eq, beq_iff_eq] at hStart
    rcases hStart with ((⟨-, hUpper⟩ | ⟨-, hLower⟩) | rfl) | rfl
    · exact Nat.lt_of_le_of_lt hUpper (by decide)
    · exact Nat.lt_of_le_of_lt hLower (by decide)
    · decide
    · decide
  have hHere := hAll ⟨c.toNat, hSmall⟩
  rw [Char.ofNat_toNat] at hHere
  exact hHere hStart

theorem IsName.isName
    {cs : List Char}
    (hName : IsName cs) :
    ∀ c ∈ cs, Pattern.isName c = true := by
  rcases hName with ⟨c, rest, rfl, hStart, hRest⟩
  exact List.forall_mem_cons.mpr
    ⟨(isNameStart_spec hStart).1, hRest⟩

/- What is written behind a name. -/
def callMark : List Char := ['.', '$', '(']

/-
  The beginning of a call of a member of a name, behind blanks.
-/
structure CallStart where
  gap : List Char
  name : List Char

namespace CallStart

def text (s : CallStart) : List Char :=
  s.gap ++ (s.name ++ callMark)

structure Fits (s : CallStart) : Prop where
  gap : ∀ c ∈ s.gap, isBlank c = true
  name : IsName s.name

theorem text_append
    (s : CallStart)
    (rest : List Char) :
    s.text ++ rest = s.gap ++ (s.name ++ (callMark ++ rest)) := by
  simp [text]

/- The blanks and the name are known from the text. -/
theorem unique
    {s s' : CallStart}
    {rest rest' : List Char}
    (hFits : s.Fits)
    (hFits' : s'.Fits)
    (hSame : s.text ++ rest = s'.text ++ rest') :
    s = s' ∧ rest = rest' := by
  have hStops :
      ∀ {s : CallStart} (rest : List Char), s.Fits →
        ∀ c ∈ (s.name ++ (callMark ++ rest)).head?,
          isBlank c = false := by
    rintro s rest ⟨-, c, cs, hName, hStart, -⟩ d hHead
    rw [hName] at hHead
    cases hHead
    exact (isNameStart_spec hStart).2
  have hMark :
      ∀ rest : List Char,
        ∀ c ∈ (callMark ++ rest).head?, isName c = false := by
    rintro rest c ⟨⟩
    decide
  rw [text_append, text_append] at hSame
  rcases Decimal.run_append_inj hSame hFits.gap hFits'.gap
      (hStops rest hFits) (hStops rest' hFits') with
    ⟨hGap, hNames⟩
  rcases Decimal.run_append_inj hNames hFits.name.isName
      hFits'.name.isName (hMark rest) (hMark rest') with
    ⟨hName, hRest⟩
  rcases s with ⟨gap, name⟩
  rcases s' with ⟨gap', name'⟩
  refine ⟨?_, List.append_cancel_left hRest⟩
  rw [show gap = gap' from hGap, show name = name' from hName]

end CallStart

/- The pattern of a name. -/
def namePattern : Pattern :=
  seq (one isNameStart) (many isName 0 none)

theorem isName_of_leads
    {here there : Place}
    {groups found : Groups}
    (hLeads : Leads namePattern here groups there found) :
    ∃ name,
      IsName name ∧ Passage namePattern here name there ∧
        found = groups := by
  rcases hLeads.passage with ⟨name, hPassage⟩
  have hFound := hLeads.found_eq rfl
  rcases hLeads with
    ⟨between, seen, ⟨c, cs, hRest, hStart, rfl, -⟩, hMany⟩
  rcases hMany.many with ⟨rest, hMore, -, hChars⟩
  have hHere :
      here.rest = (c :: rest) ++ there.rest := by
    rw [hRest, List.cons_append, ← hMore.rest_eq]
  have hName : name = c :: rest :=
    List.append_cancel_right (hPassage.rest_eq.symm.trans hHere)
  exact
    ⟨name, ⟨c, rest, hName, hStart, hChars⟩, hPassage, hFound⟩

/- The beginning of a call leads along one. -/
theorem callStart_of_leads
    {text : List Char}
    {n : Nat}
    {here first last there : Place}
    {groups seen more found : Groups}
    (hText : here.OnText text)
    (hBlanks : Leads blanks here groups first seen)
    (hName : Leads (group n namePattern) first seen last more)
    (hMark : Leads (literal ".$(") last more there found) :
    ∃ s : CallStart,
      s.Fits ∧ here.rest = s.text ++ there.rest ∧
        part text first.offset last.offset = s.name ∧
          found = (n, first.offset, last.offset) :: groups := by
  rcases hBlanks.many with ⟨gap, hGap, -, hBlank⟩
  rcases hName with ⟨seen', hInner, rfl⟩
  rcases isName_of_leads hInner with ⟨name, hIs, hPassage, rfl⟩
  rcases hMark.literal with ⟨hAlong, rfl⟩
  refine ⟨⟨gap, name⟩, ⟨hBlank, hIs⟩, ?_, ?_, ?_⟩
  · rw [hGap.rest_eq, hPassage.rest_eq, hAlong.rest_eq,
      CallStart.text_append]
    rfl
  · exact hPassage.part_eq (hBlanks.onText hText)
  · rw [hBlanks.found_eq rfl]

theorem accepts_callStart
    {s : CallStart}
    (n : Nat)
    (hFits : s.Fits) :
    (Pattern.seq blanks
      (Pattern.seq (group n namePattern)
        (literal ".$("))).Accepts s.text := by
  have hName : namePattern.Accepts s.name := by
    rcases hFits.name with ⟨c, rest, hName, hStart, hRest⟩
    rw [hName]
    exact
      (accepts_one hStart).seq
        (accepts_many hRest (Nat.zero_le _) (by simp))
  exact
    (accepts_blanks hFits.gap).seq
      ((hName.group n).seq (accepts_literal ".$("))

end Layers

end Devirt

------------------------------------------------------------
-- The Match
------------------------------------------------------------

namespace Devirt

open Scanner CodeMap Pattern Text

namespace Layers

/- The beginnings of two calls, one inside the other. -/
structure CallHead where
  outer : CallStart
  inner : CallStart

namespace CallHead

def text (h : CallHead) : List Char :=
  h.outer.text ++ h.inner.text

structure Fits (h : CallHead) : Prop where
  outer : h.outer.Fits
  inner : h.inner.Fits

/- A line begins with two such calls in one way only. -/
theorem unique
    {h h' : CallHead}
    {rest rest' : List Char}
    (hFits : h.Fits)
    (hFits' : h'.Fits)
    (hSame : h.text ++ rest = h'.text ++ rest') :
    h = h' ∧ rest = rest' := by
  rw [text, text, List.append_assoc, List.append_assoc] at hSame
  rcases CallStart.unique hFits.outer hFits'.outer hSame with
    ⟨hOuter, hBehind⟩
  rcases CallStart.unique hFits.inner hFits'.inner hBehind with
    ⟨hInner, hRest⟩
  rcases h with ⟨outer, inner⟩
  rcases h' with ⟨outer', inner'⟩
  refine ⟨?_, hRest⟩
  rw [show outer = outer' from hOuter,
    show inner = inner' from hInner]

end CallHead

/- What a match at the beginning of a line shows. -/
structure ShowsHead
    (line : List Char)
    (m : Match)
    (h : CallHead) : Prop where
  fits : h.Fits
  take_stop : line.take m.stop = h.text
  outer_eq : m.groupText line 1 = h.outer.name
  inner_eq : m.groupText line 2 = h.inner.name

theorem showsHead_of_matchFrom
    {line : List Char}
    {m : Match}
    {there : Place}
    (hMatch :
      entry.matchFrom (Pattern.beginning line) =
        some (m, there)) :
    ∃ h, ShowsHead line m h ∧ line = h.text ++ there.rest := by
  have hLocated :=
    matchFrom_located (.beginning line) hMatch
  rcases hLocated.leads with
    ⟨_, _, ⟨-, rfl, rfl⟩, first, _, hGap, second, _, hOuter,
      third, _, hMark, fourth, _, hSpace, fifth, _, hInner, hLast⟩
  have hThird :=
    hMark.onText (hOuter.onText (hGap.onText hLocated.onText))
  rcases callStart_of_leads hLocated.onText hGap hOuter hMark with
    ⟨outer, hOuterFits, hOuterText, hOuterPart, rfl⟩
  rcases callStart_of_leads hThird hSpace hInner hLast with
    ⟨inner, hInnerFits, hInnerText, hInnerPart, hGroups⟩
  have hThere := hLast.onText
    (hInner.onText (hSpace.onText hThird))
  have hLine :
      line = (CallHead.mk outer inner).text ++ there.rest := by
    rw [CallHead.text, List.append_assoc, ← hInnerText,
      ← hOuterText]
    rfl
  refine ⟨⟨outer, inner⟩, ⟨⟨hOuterFits, hInnerFits⟩, ?_, ?_, ?_⟩, hLine⟩
  · have hCut := List.take_append_drop there.offset line
    rw [← hThere.rest_eq] at hCut
    rw [hLocated.stop_eq]
    exact List.append_cancel_right (hCut.trans hLine)
  · simpa [Match.groupText, Match.group?, hGroups] using hOuterPart
  · simpa [Match.groupText, Match.group?, hGroups] using hInnerPart

/- Two such calls are found where a line begins with them. -/
theorem matchFrom_head
    {h : CallHead}
    (rest : List Char)
    (hFits : h.Fits) :
    ∃ m there,
      entry.matchFrom (Pattern.beginning (h.text ++ rest)) =
          some (m, there) ∧
        ShowsHead (h.text ++ rest) m h := by
  rcases accepts_callStart 1 hFits.outer
      (Pattern.beginning (h.text ++ rest)) []
      (h.inner.text ++ rest)
      (by simp [Pattern.beginning, CallHead.text]) with
    ⟨between, seen, ⟨first, _, hGap, second, _, hOuter, hMark⟩,
      hBetween⟩
  rcases accepts_callStart 2 hFits.inner between seen rest
      hBetween with
    ⟨last, found, ⟨third, _, hSpace, fourth, _, hInner, hLast⟩, -⟩
  have hLeads :
      Leads entry (Pattern.beginning (h.text ++ rest)) [] last
        found :=
    ⟨_, _, ⟨rfl, rfl, rfl⟩, first, _, hGap, second, _, hOuter,
      between, _, hMark, third, _, hSpace, fourth, _, hInner,
      hLast⟩
  have hSome :
      (entry.matchFrom
        (Pattern.beginning (h.text ++ rest))).isSome = true :=
    hLeads.matchThen_isSome rfl
  rcases Option.isSome_iff_exists.mp hSome with
    ⟨⟨m, there⟩, hMatch⟩
  rcases showsHead_of_matchFrom hMatch with
    ⟨other, hShows, hLine⟩
  rcases CallHead.unique hFits hShows.fits hLine with ⟨rfl, -⟩
  exact ⟨m, there, hMatch, hShows⟩

end Layers

end Devirt

------------------------------------------------------------
-- Entries
------------------------------------------------------------

namespace Devirt

open Scanner CodeMap Pattern Text

namespace Layers

theorem byteLength_eq
    (cs : List Char) :
    byteLength cs = (encode cs).length := by
  have hBytes := bytesOf_eq_encode (String.ofList cs)
  rw [String.toList_ofList] at hBytes
  rw [← hBytes, bytesOf, ByteArray.toList, toList_loop_eq_append]
  rfl

/-
  A script whose last line that is not blank begins with two
  calls of members of the same name.
-/
structure Entry where
  lead : List Char
  head : CallHead
  rest : List Char
  lastLine : IsLastLine lead (head.text ++ rest)
  fits : head.Fits
  oneName : head.outer.name = head.inner.name

namespace Entry

def name (e : Entry) : List Char := e.head.inner.name

def code (e : Entry) : String :=
  String.ofList (e.lead ++ (e.head.text ++ e.rest))

/- The offset behind the second bracket. -/
def inside (e : Entry) : Nat :=
  (encode (e.lead ++ e.head.text)).length

/- The offset of the second bracket. -/
def opening (e : Entry) : Nat := e.inside - 1

variable (e : Entry)

theorem bytes_eq :
    bytesOf e.code =
      encode (e.lead ++ e.head.text) ++ encode e.rest := by
  rw [bytesOf_eq_encode, code, String.toList_ofList,
    ← encode_append, List.append_assoc]

/- The second bracket stands before what it opens. -/
theorem byte?_opening :
    (ofText e.code).byte? e.opening = some (byte '(') ∧
      e.opening + 1 = e.inside := by
  have hText :
      e.lead ++ e.head.text =
        (e.lead ++ (e.head.outer.text ++ (e.head.inner.gap ++
          (e.head.inner.name ++ ['.', '$'])))) ++ ['('] := by
    simp [CallHead.text, CallStart.text, callMark]
  have hBracket : encode ['('] = [byte '('] := rfl
  have hLength :
      e.inside =
        (encode (e.lead ++ (e.head.outer.text ++
          (e.head.inner.gap ++
            (e.head.inner.name ++ ['.', '$']))))).length + 1 := by
    rw [inside, hText, encode_append, hBracket,
      List.length_append]
    rfl
  refine ⟨?_, by rw [opening]; omega⟩
  rw [byte?_eq_getElem?, bytes_ofText, bytes_eq, hText,
    encode_append, hBracket, opening, hLength]
  simp

end Entry

/- The script with one call of a member, of a payload. -/
def Entry.callOf (e : Entry) (payload : String) : String :=
  String.ofList e.lead ++ String.ofList e.name ++ ".$(" ++
    payload ++ ")()"

/-
  The script with the inner call alone, for the offset of the
  bracket that closes it.
-/
def Entry.exposed (e : Entry) :
    Option Nat → Except Fault (Option String)
  | none => .ok none
  | some close => do
    let payload ← (ofText e.code).slice e.inside close
    return some (e.callOf payload)

/-
  In a script with an entry, the brackets are counted from the
  second bracket of the entry.
-/
theorem entryCall?_of_entry
    (e : Entry) :
    entryCall? e.code =
      (ofText e.code).matchingClose e.opening >>= e.exposed := by
  rcases matchFrom_head e.rest e.fits with
    ⟨m, there, hMatch, hShows⟩
  have hOpening :
      byteLength e.lead +
          byteLength ((e.head.text ++ e.rest).take m.stop) - 1 =
        e.opening := by
    rw [hShows.take_stop, byteLength_eq, byteLength_eq,
      ← List.length_append, ← encode_append]
    rfl
  have hNames :
      (m.groupText (e.head.text ++ e.rest) 1 ==
        m.groupText (e.head.text ++ e.rest) 2) = true := by
    rw [hShows.outer_eq, hShows.inner_eq, e.oneName,
      beq_self_eq_true]
  have hInside := e.byte?_opening.2
  have hText :
      e.code.toList = e.lead ++ (e.head.text ++ e.rest) := by
    rw [Entry.code, String.toList_ofList]
  unfold entryCall?
  rw [hText, splitLastLine_of_isLastLine e.lastLine]
  dsimp only
  rw [hMatch]
  dsimp only
  rw [if_pos hNames, hOpening, hInside, hShows.inner_eq]
  refine congrArg (_ >>= ·) (funext fun found => ?_)
  cases found <;> rfl

/- Without an entry there is nothing to count. -/
theorem entryCall?_of_noEntry
    {code : String}
    (hNone : ∀ e : Entry, e.code ≠ code) :
    entryCall? code = .ok none := by
  unfold entryCall?
  rcases exists_isLastLine code.toList with
    hBlank | ⟨lead, line, hText, hLast⟩
  · rw [hBlank]
    rfl
  · rw [hText, splitLastLine_of_isLastLine hLast]
    dsimp only
    cases hMatch : entry.matchFrom (Pattern.beginning line) with
    | none => rfl
    | some result =>
        rcases result with ⟨m, there⟩
        rcases showsHead_of_matchFrom hMatch with
          ⟨h, hShows, rfl⟩
        dsimp only
        rw [hShows.outer_eq, hShows.inner_eq]
        split_ifs with hName
        · let e : Entry :=
            ⟨lead, h, there.rest, hLast, hShows.fits,
              beq_iff_eq.mp hName⟩
          have hCode : e.code = code := by
            rw [Entry.code, ← hText, String.ofList_toList]
          exact absurd hCode (hNone e)
        · rfl

end Layers

end Devirt

------------------------------------------------------------
-- Payloads
------------------------------------------------------------

namespace Devirt

open Scanner CodeMap Pattern Text

namespace Layers

/-
  A script that ends with two calls of a member of a name, one
  inside the other, and both with what they give called again.
-/
structure EntryCall where
  lead : List Char
  name : List Char
  payload : List Char
  trailing : List Char
  leadEnds : lead = [] ∨ lead.getLast? = some '\n'
  isName : IsName name
  oneLine : '\n' ∉ payload
  trailingBlank : ∀ c ∈ trailing, isBlank c = true

namespace EntryCall

def start (e : EntryCall) : CallStart := ⟨[], e.name⟩

/- What stands before the payload. -/
def front (e : EntryCall) : List Char :=
  e.lead ++ (e.start.text ++ e.start.text)

def code (e : EntryCall) : String :=
  String.ofList
    (e.front ++
      (e.payload ++ (")())();".toList ++ e.trailing)))

/- The script with the inner call alone. -/
def inner (e : EntryCall) : String :=
  String.ofList
    (e.lead ++ (e.start.text ++ (e.payload ++ ")()".toList)))

def payloadStart (e : EntryCall) : Nat :=
  (encode e.front).length

def payloadStop (e : EntryCall) : Nat :=
  (encode (e.front ++ e.payload)).length

variable (e : EntryCall)

theorem isLastLine :
    IsLastLine e.lead
      ((e.start.text ++ e.start.text) ++
        (e.payload ++ (")())();".toList ++ e.trailing))) := by
  have hName : '\n' ∉ e.name := by
    intro hMember
    have hClass := e.isName.isName _ hMember
    revert hClass
    decide +kernel
  refine
    ⟨e.leadEnds,
      (e.start.text ++ e.start.text) ++ (e.payload ++ ")())()".toList),
      ';', e.trailing, by simp, by decide, ?_, e.trailingBlank⟩
  simp [start, CallStart.text, callMark, hName, e.oneLine]

def entry : Entry where
  lead := e.lead
  head := ⟨e.start, e.start⟩
  rest := e.payload ++ (")())();".toList ++ e.trailing)
  lastLine := e.isLastLine
  fits := ⟨⟨by simp [start], e.isName⟩, ⟨by simp [start], e.isName⟩⟩
  oneName := rfl

theorem entry_code :
    e.entry.code = e.code := by
  simp [Entry.code, code, front, entry, CallHead.text]

theorem callOf_payload :
    e.entry.callOf (String.ofList e.payload) = e.inner := by
  apply String.toList_inj.mp
  simp [Entry.callOf, Entry.name, entry, inner, start,
    CallStart.text, callMark]

/- What stands in the line before the second bracket. -/
def names (e : EntryCall) : List Char :=
  e.start.text ++ (e.name ++ ['.', '$'])

theorem encode_front :
    encode e.front =
      encode e.lead ++ (encode e.names ++ [byte '(']) := by
  have hFront : e.front = e.lead ++ (e.names ++ ['(']) := by
    simp [front, names, start, CallStart.text, callMark]
  rw [hFront, encode_append, encode_append]
  rfl

/- The script, cut at the payload. -/
theorem bytes_eq :
    bytesOf e.code =
      encode e.front ++
        (encode e.payload ++
          byte ')' :: encode ("())();".toList ++ e.trailing)) := by
  have hBehind :
      encode (")())();".toList ++ e.trailing) =
        byte ')' :: encode ("())();".toList ++ e.trailing) :=
    encode_cons_ascii ("())();".toList ++ e.trailing)
      (show (')' : Char).toNat < 128 by decide)
  rw [bytesOf_eq_encode, code, String.toList_ofList,
    encode_append, encode_append, hBehind]

theorem opening_succ :
    e.entry.opening + 1 = e.payloadStart :=
  e.entry.byte?_opening.2

theorem payloadStop_eq :
    e.payloadStop = e.payloadStart + (encode e.payload).length := by
  rw [payloadStop, payloadStart, encode_append,
    List.length_append]

theorem solid_names :
    ∀ c ∈ e.names, isSolid c = true := by
  have hName : ∀ c ∈ e.name, isSolid c = true := by
    intro c hMember
    have hAll :
        ∀ n : Fin 128,
          Pattern.isName (Char.ofNat n) = true →
            isSolid (Char.ofNat n) = true := by
      decide +kernel
    by_cases hSmall : c.toNat < 128
    · have hHere := hAll ⟨c.toNat, hSmall⟩
      rw [Char.ofNat_toNat] at hHere
      exact hHere (e.isName.isName c hMember)
    · simp [isSolid, Nat.not_lt.mp hSmall]
  have hMark : ∀ c ∈ callMark, isSolid c = true := by
    simp only [callMark, List.forall_mem_cons]
    exact ⟨rfl, rfl, rfl, by simp⟩
  intro c hMember
  simp only [names, start, CallStart.text, List.nil_append,
    List.mem_append] at hMember
  rcases hMember with (hHere | hHere) | hHere | hHere
  · exact hName c hHere
  · exact hMark c hHere
  · exact hName c hHere
  · exact hMark c (List.mem_of_mem_dropLast hHere)

/-
  Behind the top level the scanner comes to the second bracket,
  which is code.
-/
theorem hasCode_opening
    (hLead : TopAt (bytesOf e.code) (encode e.lead).length) :
    (ofText e.code).HasCode e.entry.opening
      Bracket.round.opening := by
  have hByte := e.entry.byte?_opening.1
  rw [byte?_eq_getElem?, bytes_ofText, e.entry_code] at hByte
  have hNames : e.names ≠ [] := by simp [names]
  have hBytes :
      bytesOf e.code =
        encode e.lead ++
          (encode e.names ++
            (byte '(' :: (encode e.payload ++
              byte ')' ::
                encode ("())();".toList ++ e.trailing)))) := by
    rw [e.bytes_eq, e.encode_front]
    simp
  have hOpening :
      e.entry.opening =
        (encode e.lead).length + (encode e.names).length := by
    have hNext := e.opening_succ
    rw [payloadStart, e.encode_front, List.length_append,
      List.length_append, List.length_singleton] at hNext
    omega
  rcases hLead.exists_eq with ⟨last, hState⟩
  rcases Operand.exists_reads_solid last (encode e.lead).reverse
      (byte '(' :: (encode e.payload ++
        byte ')' :: encode ("())();".toList ++ e.trailing)))
      hNames e.solid_names with
    ⟨cells, hReads⟩
  rw [hBytes] at hState
  rw [← hState] at hReads
  have hBehind := ReadsIn.stateAt_eq hReads
  rw [← hBytes, ← hOpening] at hBehind
  exact
    (hasCode_iff_topAt hByte Bracket.round.opening_plain).mpr
      (congrArg State.mode hBehind)

theorem getElem?_payloadStop :
    (bytesOf e.code)[e.payloadStop]? =
      some Bracket.round.closing := by
  rw [e.bytes_eq, e.payloadStop_eq, payloadStart,
    List.getElem?_append_right (Nat.le_add_right _ _),
    Nat.add_sub_cancel_left,
    List.getElem?_append_right (Nat.le_refl _), Nat.sub_self]
  rfl

/- The payload is cut out of the script. -/
theorem slice_payload :
    (ofText e.code).slice e.payloadStart e.payloadStop =
      .ok (String.ofList e.payload) := by
  have hOpening := e.entry.byte?_opening.1
  have hStart :
      (ofText e.code).isBoundary e.payloadStart = true := by
    rw [← e.opening_succ]
    rw [e.entry_code] at hOpening
    exact
      isBoundary_succ_of_ascii (cuttable_ofText e.code) hOpening
        (by decide)
  have hClosing :
      (ofText e.code).byte? e.payloadStop =
        some Bracket.round.closing := by
    rw [byte?_eq_getElem?, bytes_ofText, e.getElem?_payloadStop]
  have hStop :
      (ofText e.code).isBoundary e.payloadStop = true :=
    isBoundary_of_ascii hClosing Bracket.round.closing_ascii
  have hPart :
      ((ofText e.code).bytes.drop e.payloadStart).take
          (e.payloadStop - e.payloadStart) =
        bytesOf (String.ofList e.payload) := by
    rw [bytes_ofText, e.bytes_eq, e.payloadStop_eq,
      Nat.add_sub_cancel_left, payloadStart, List.drop_left' rfl,
      List.take_left' rfl, bytesOf_eq_encode,
      String.toList_ofList]
  rw [slice_eq (by rw [e.payloadStop_eq]; omega) hStart hStop,
    hPart, textOf_bytesOf]

/- Counting comes back to zero right behind the payload. -/
theorem returns
    (hBack : TopAt (bytesOf e.code) e.payloadStop)
    (hBalanced :
      Balanced .round
        ((ofText e.code).span e.payloadStart e.payloadStop)) :
    Returns .round 1
      ((ofText e.code).cells.toList.drop e.payloadStart)
      (e.payloadStop - e.payloadStart) := by
  have hOrder : e.payloadStart ≤ e.payloadStop := by
    rw [e.payloadStop_eq]
    omega
  -- where the scanner is back, the bracket behind it is code
  have hCode :=
    (hasCode_iff_topAt e.getElem?_payloadStop
      Bracket.round.closing_plain).mpr hBack
  have hClosing :
      ((ofText e.code).cells.toList.drop e.payloadStart)[
          e.payloadStop - e.payloadStart]? =
        some Bracket.round.closingCell := by
    rw [List.getElem?_drop, Nat.add_sub_cancel' hOrder]
    exact hCode.getElem?_eq
  have hEven := hBalanced.even
  unfold span at hEven
  refine ⟨hClosing, ?_, ?_⟩
  · intro n hInside
    have hPrefix := hBalanced.prefix_nonneg n
    rw [span, List.take_take, Nat.min_eq_left hInside] at hPrefix
    omega
  · rw [List.take_add_one, hClosing, balance_append, hEven]
    simp

end EntryCall

/-
  Where the payload leaves the scanner at the top level and its
  brackets balanced, the inner call is left with just this
  payload, behind all that comes before the line.
-/
theorem entryCall?_exposes
    (e : EntryCall)
    (hLead : TopAt (bytesOf e.code) (encode e.lead).length)
    (hBack : TopAt (bytesOf e.code) e.payloadStop)
    (hBalanced :
      Balanced .round
        ((ofText e.code).span e.payloadStart e.payloadStop)) :
    entryCall? e.code = .ok (some e.inner) := by
  have hReturns := e.returns hBack hBalanced
  rw [← e.opening_succ] at hReturns
  have hClose :=
    hReturns.matchingClose_eq (e.hasCode_opening hLead)
  have hOrder := e.payloadStop_eq
  have hStop :
      e.entry.opening + 1 +
          (e.payloadStop - (e.entry.opening + 1)) =
        e.payloadStop := by
    rw [e.opening_succ]
    omega
  rw [hStop] at hClose
  have hInside : e.entry.inside = e.payloadStart := rfl
  calc
    entryCall? e.code
        = (ofText e.code).matchingClose e.entry.opening >>=
            e.entry.exposed := by
          rw [← e.entry_code]
          exact entryCall?_of_entry e.entry
    _ = e.entry.exposed (some e.payloadStop) := by
          rw [hClose]
          rfl
    _ = .ok (some (e.entry.callOf (String.ofList e.payload))) := by
          rw [Entry.exposed, e.entry_code, hInside,
            e.slice_payload]
          rfl
    _ = .ok (some e.inner) := by rw [e.callOf_payload]

/- A payload with brackets, in strings and outside of them. -/
def quotedPayload : EntryCall where
  lead := "$=~[];\n".toList
  name := ['$']
  payload := "$.$($.$$+\"(\\\"\"+/[)]/)+[')']".toList
  trailing := ['\n']
  leadEnds := by decide
  isName := ⟨'$', [], rfl, rfl, by simp⟩
  oneLine := by decide
  trailingBlank := List.forall_mem_singleton.mpr rfl

theorem quotedPayload_exposed :
    TopAt (bytesOf quotedPayload.code)
        (encode quotedPayload.lead).length ∧
      TopAt (bytesOf quotedPayload.code)
          quotedPayload.payloadStop ∧
        Balanced .round
            ((ofText quotedPayload.code).span
              quotedPayload.payloadStart
              quotedPayload.payloadStop) ∧
          entryCall? quotedPayload.code =
            .ok (some quotedPayload.inner) := by
  have hLead :
      TopAt (bytesOf quotedPayload.code)
        (encode quotedPayload.lead).length := by
    unfold TopAt
    decide +kernel
  have hBack :
      TopAt (bytesOf quotedPayload.code)
        quotedPayload.payloadStop := by
    unfold TopAt
    decide +kernel
  have hNested :
      Nested Set.univ
        ((ofText quotedPayload.code).span
          quotedPayload.payloadStart
          quotedPayload.payloadStop) := by
    decide +kernel
  have hBalanced :
      Balanced .round
        ((ofText quotedPayload.code).span
          quotedPayload.payloadStart
          quotedPayload.payloadStop) :=
    hNested.balanced (Set.mem_univ _)
  exact
    ⟨hLead, hBack, hBalanced,
      entryCall?_exposes quotedPayload hLead hBack hBalanced⟩

end Layers

end Devirt
