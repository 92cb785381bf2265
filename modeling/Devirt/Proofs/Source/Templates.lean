import Devirt.Proofs.Source.Strings

/-
  Template literals, and what the scanner makes of them.

  The content of a template is broken up by substitutions,
  which hold code, with literals and further templates in it.
  The scanner looks for the next backtick that stands behind no
  backslash.  It finds the closing one if the substitutions
  hold no such backtick, and so no template; otherwise it is
  back at the top level within the template.

  Main declarations:
    * `CodeToken`, `TemplateText`, `TemplateLiteral`
    * `TemplateText.isFlat`, `TemplateText.staysOpen_chars`
    * `TemplateLiteral.IsMarked`, `templates_spanned`,
      `flatTemplate_spanned`, `nestedTemplate_unmarked`
-/

------------------------------------------------------------
-- Paired Characters
------------------------------------------------------------

namespace Devirt

namespace Scanner

theorem isPaired_append_iff
    {left : List Char}
    (right : List Char)
    (hLeft : IsPaired left) :
    IsPaired (left ++ right) ↔ IsPaired right := by
  have hBoth := staysOpen_append (fun _ => false) right hLeft
  unfold IsPaired at hLeft ⊢
  rw [hBoth, hLeft, Bool.true_and]

theorem isPaired_cons_iff
    {c : Char}
    (rest : List Char)
    (hPlain : c ≠ '\\') :
    IsPaired (c :: rest) ↔ IsPaired rest := by
  unfold IsPaired
  rw [staysOpen_cons _ _ hPlain, Bool.not_false, Bool.true_and]

theorem isPaired_of_plain
    {cs : List Char}
    (hPlain : '\\' ∉ cs) :
    IsPaired cs := by
  induction cs with
  | nil => rfl
  | cons c cs ih =>
      rw [List.mem_cons, not_or] at hPlain
      exact
        (isPaired_cons_iff cs (Ne.symm hPlain.1)).mpr
          (ih hPlain.2)

/- A plain character takes the backslash before it along. -/
theorem isPaired_append_cons
    {c : Char}
    {right : List Char}
    (left : List Char)
    (hPlain : c ≠ '\\')
    (hRight : IsPaired right) :
    IsPaired (left ++ c :: right) := by
  induction left using escapes_induction with
  | hNil => exact (isPaired_cons_iff right hPlain).mpr hRight
  | hAlone => exact hRight
  | hEscape d rest ih => exact ih
  | hPlain d rest hOther ih =>
      exact (isPaired_cons_iff _ hOther).mpr ih

/- Paired characters that do not stay open have a first end. -/
theorem exists_end
    {ends : Char → Bool}
    {cs : List Char}
    (hPaired : IsPaired cs)
    (hClosed : staysOpen ends cs = false) :
    ∃ front c rest,
      cs = front ++ c :: rest ∧
        staysOpen ends front = true ∧ ends c = true := by
  induction cs using escapes_induction with
  | hNil => cases hClosed
  | hAlone => cases hPaired
  | hEscape d rest ih =>
      rcases ih hPaired hClosed with
        ⟨front, c, later, hRest, hFront, hEnd⟩
      exact
        ⟨'\\' :: d :: front, c, later, by rw [hRest]; rfl,
          hFront, hEnd⟩
  | hPlain d rest hPlain ih =>
      rw [isPaired_cons_iff _ hPlain] at hPaired
      rw [staysOpen_cons _ _ hPlain, Bool.and_eq_false_iff]
        at hClosed
      cases hHere : ends d with
      | true => exact ⟨[], d, rest, rfl, rfl, hHere⟩
      | false =>
          have hLater : staysOpen ends rest = false := by
            simpa [hHere] using hClosed
          rcases ih hPaired hLater with
            ⟨front, c, later, hRest, hFront, hEnd⟩
          refine ⟨d :: front, c, later, by rw [hRest]; rfl, ?_, hEnd⟩
          rw [staysOpen_cons _ _ hPlain, hHere, hFront]
          rfl

end Scanner

end Devirt

------------------------------------------------------------
-- Template Literals
------------------------------------------------------------

namespace Devirt

open Scanner Script.Lexer

/-
  What the code of a substitution is made of, apart from
  strings, templates and braces.
-/
inductive CodeToken where
  /- a character of a name, numeral, punctuator or blank -/
  | mark (c : Char)
  /- the escape of a character of a name -/
  | escape (cs : List Char)
  /- a regular expression up to its second slash -/
  | regexp (body : List Char)
  | lineComment (cs : List Char) (ending : LineEnd)
  | blockComment (cs : List Char)

namespace CodeToken

def text : CodeToken → List Char
  | mark c => [c]
  | escape cs => '\\' :: cs
  | regexp body => '/' :: (body ++ ['/'])
  | lineComment cs ending => '/' :: '/' :: (cs ++ ending.text)
  | blockComment cs => '/' :: '*' :: (cs ++ ['*', '/'])

def Fits : CodeToken → Prop
  | mark c => c ∉ '\\' :: '{' :: '}' :: quotes
  | escape cs => cs.head? = some 'u' ∧ IsEscape cs
  | regexp body =>
      IsPaired body ∧ ∀ c ∈ body, isLineEnd c = false
  | lineComment cs _ => ∀ c ∈ cs, isLineEnd c = false
  | blockComment cs => ¬ ['*', '/'] <:+: cs

end CodeToken

/- A template is content, and its substitutions are code. -/
inductive Region where
  | content
  | code

/-
  The content of a template, or the code of a substitution.
-/
inductive TemplateText : Region → Type where
  | done {r : Region} : TemplateText r
  | char (c : Char) (rest : TemplateText .content) :
      TemplateText .content
  | escape (c : Char) (rest : TemplateText .content) :
      TemplateText .content
  | substitution
      (code : TemplateText .code)
      (rest : TemplateText .content) :
      TemplateText .content
  | token (t : CodeToken) (rest : TemplateText .code) :
      TemplateText .code
  | string (l : StringLiteral) (rest : TemplateText .code) :
      TemplateText .code
  | braces (inner rest : TemplateText .code) :
      TemplateText .code
  | template
      (body : TemplateText .content)
      (rest : TemplateText .code) :
      TemplateText .code

namespace TemplateText

variable {r : Region}

/-
  The characters with whether they are the content of a
  template or string.
-/
def marks {r : Region} : TemplateText r → List (Char × Bool)
  | done => []
  | char c rest => (c, true) :: rest.marks
  | escape c rest => ('\\', true) :: (c, true) :: rest.marks
  | substitution code rest =>
      ('$', false) :: ('{', false) ::
        (code.marks ++ ('}', false) :: rest.marks)
  | token t rest => t.text.map (·, false) ++ rest.marks
  | string l rest =>
      (l.quote, false) ::
        (l.body.map (·, true) ++ (l.quote, false) :: rest.marks)
  | braces inner rest =>
      ('{', false) :: (inner.marks ++ ('}', false) :: rest.marks)
  | template body rest =>
      ('`', false) :: (body.marks ++ ('`', false) :: rest.marks)

def chars (t : TemplateText r) : List Char :=
  t.marks.map Prod.fst

/-
  Content holds backticks and backslashes in escapes only, and
  no brace behind a dollar sign.
-/
def Fits {r : Region} : TemplateText r → Prop
  | done => True
  | char c rest =>
      (c ≠ '`' ∧ c ≠ '\\' ∧
        (c = '$' → rest.chars.head? ≠ some '{')) ∧ rest.Fits
  | escape _ rest => rest.Fits
  | substitution code rest => code.Fits ∧ rest.Fits
  | token t rest => t.Fits ∧ rest.Fits
  | string _ rest => rest.Fits
  | braces inner rest => inner.Fits ∧ rest.Fits
  | template body rest => body.Fits ∧ rest.Fits

/-
  Whether the code of the substitutions holds no backtick but
  behind backslashes.
-/
def isFlat {r : Region} : TemplateText r → Bool
  | done => true
  | char _ rest => rest.isFlat
  | escape _ rest => rest.isFlat
  | substitution code rest => code.isFlat && rest.isFlat
  | token t rest =>
      staysOpen (closes '`') t.text && rest.isFlat
  | string l rest => staysOpen (closes '`') l.body && rest.isFlat
  | braces inner rest => inner.isFlat && rest.isFlat
  | template _ _ => false

end TemplateText

structure TemplateLiteral where
  body : TemplateText .content
  fits : body.Fits

def TemplateLiteral.marks (t : TemplateLiteral) :
    List (Char × Bool) :=
  ('`', false) :: (t.body.marks ++ [('`', false)])

def TemplateLiteral.text (t : TemplateLiteral) : String :=
  String.ofList (t.marks.map Prod.fst)

end Devirt

------------------------------------------------------------
-- Characters of Templates
------------------------------------------------------------

namespace Devirt

open Scanner Script.Lexer

/- Code takes all characters along that backslashes escape. -/
theorem IsEscape.isPaired
    {cs : List Char}
    (hEscape : IsEscape cs) :
    IsPaired ('\\' :: cs) := by
  rcases hEscape.eq_cons with ⟨c, rest, rfl, hRest⟩
  have hOpen :
      staysOpen (closes '`') ('\\' :: c :: rest) = true := by
    rw [staysOpen_escape]
    exact staysOpen_digits (by simp [quotes]) hRest
  exact isPaired_of_staysOpen hOpen

theorem CodeToken.isPaired
    {t : CodeToken}
    (hFits : t.Fits) :
    IsPaired t.text := by
  cases t with
  | mark c =>
      apply isPaired_of_plain
      rw [CodeToken.text, List.mem_singleton]
      rintro rfl
      exact hFits List.mem_cons_self
  | escape cs => exact hFits.2.isPaired
  | regexp body =>
      rw [CodeToken.text, isPaired_cons_iff _ (by decide),
        isPaired_append_iff _ hFits.1]
      rfl
  | lineComment cs ending =>
      rw [CodeToken.text, isPaired_cons_iff _ (by decide),
        isPaired_cons_iff _ (by decide)]
      cases ending <;>
        exact isPaired_append_cons cs (by decide) rfl
  | blockComment cs =>
      rw [CodeToken.text, isPaired_cons_iff _ (by decide),
        isPaired_cons_iff _ (by decide)]
      exact isPaired_append_cons cs (by decide) rfl

theorem StringPart.isPaired
    {quote : Char}
    {p : StringPart}
    (hFits : p.Fits quote) :
    IsPaired p.text := by
  cases p with
  | char c =>
      apply isPaired_of_plain
      rw [StringPart.text, List.mem_singleton]
      exact Ne.symm hFits.2.1
  | escape cs => exact IsEscape.isPaired hFits
  | continuation ending => cases ending <;> rfl

theorem StringLiteral.isPaired
    (l : StringLiteral) :
    IsPaired l.body := by
  have hFits := l.fits
  unfold body
  generalize l.parts = parts at hFits
  induction parts with
  | nil => rfl
  | cons p parts ih =>
      rcases List.forall_mem_cons.mp hFits with ⟨hHere, hRest⟩
      rw [List.flatMap_cons,
        isPaired_append_iff _ (StringPart.isPaired hHere)]
      exact ih hRest

namespace TemplateText

@[simp]
theorem chars_done
    {r : Region} :
    (done : TemplateText r).chars = [] :=
  rfl

@[simp]
theorem chars_char
    (c : Char)
    (rest : TemplateText .content) :
    (char c rest).chars = c :: rest.chars :=
  rfl

@[simp]
theorem chars_escape
    (c : Char)
    (rest : TemplateText .content) :
    (escape c rest).chars = '\\' :: c :: rest.chars :=
  rfl

@[simp]
theorem chars_substitution
    (code : TemplateText .code)
    (rest : TemplateText .content) :
    (substitution code rest).chars =
      '$' :: '{' :: (code.chars ++ '}' :: rest.chars) := by
  simp [chars, marks]

@[simp]
theorem chars_token
    (t : CodeToken)
    (rest : TemplateText .code) :
    (token t rest).chars = t.text ++ rest.chars := by
  simp [chars, marks, Function.comp_def]

@[simp]
theorem chars_string
    (l : StringLiteral)
    (rest : TemplateText .code) :
    (string l rest).chars =
      l.quote :: (l.body ++ l.quote :: rest.chars) := by
  simp [chars, marks, Function.comp_def]

@[simp]
theorem chars_braces
    (inner rest : TemplateText .code) :
    (braces inner rest).chars =
      '{' :: (inner.chars ++ '}' :: rest.chars) := by
  simp [chars, marks]

@[simp]
theorem chars_template
    (body : TemplateText .content)
    (rest : TemplateText .code) :
    (template body rest).chars =
      '`' :: (body.chars ++ '`' :: rest.chars) := by
  simp [chars, marks]

theorem quote_plain
    (l : StringLiteral) :
    l.quote ≠ '\\' ∧ closes '`' l.quote = false := by
  rcases l.isQuote with hDouble | hSingle
  · simp [hDouble, closes]
  · simp [hSingle, closes]

theorem isPaired
    {r : Region}
    {t : TemplateText r}
    (hFits : t.Fits) :
    IsPaired t.chars := by
  induction t with
  | done => rfl
  | char c rest ih =>
      rw [chars_char, isPaired_cons_iff _ hFits.1.2.1]
      exact ih hFits.2
  | escape c rest ih => exact ih hFits
  | substitution code rest ihCode ihRest =>
      rw [chars_substitution, isPaired_cons_iff _ (by decide),
        isPaired_cons_iff _ (by decide),
        isPaired_append_iff _ (ihCode hFits.1),
        isPaired_cons_iff _ (by decide)]
      exact ihRest hFits.2
  | token t rest ih =>
      rw [chars_token,
        isPaired_append_iff _ (CodeToken.isPaired hFits.1)]
      exact ih hFits.2
  | string l rest ih =>
      have hQuote := (quote_plain l).1
      rw [chars_string, isPaired_cons_iff _ hQuote,
        isPaired_append_iff _ l.isPaired,
        isPaired_cons_iff _ hQuote]
      exact ih hFits
  | braces inner rest ihInner ihRest =>
      rw [chars_braces, isPaired_cons_iff _ (by decide),
        isPaired_append_iff _ (ihInner hFits.1),
        isPaired_cons_iff _ (by decide)]
      exact ihRest hFits.2
  | template body rest ihBody ihRest =>
      rw [chars_template, isPaired_cons_iff _ (by decide),
        isPaired_append_iff _ (ihBody hFits.1),
        isPaired_cons_iff _ (by decide)]
      exact ihRest hFits.2

/-
  The scanner stays in a template just as long as it meets no
  backtick in the substitutions.
-/
theorem staysOpen_chars
    {r : Region}
    {t : TemplateText r}
    (hFits : t.Fits) :
    staysOpen (closes '`') t.chars = t.isFlat := by
  induction t with
  | done => rfl
  | char c rest ih =>
      rcases hFits with ⟨⟨hTick, hSlash, -⟩, hRest⟩
      rw [chars_char, staysOpen_cons _ _ hSlash, ih hRest]
      simp [closes, hTick, isFlat]
  | escape c rest ih => exact ih hFits
  | substitution code rest ihCode ihRest =>
      rw [chars_substitution, staysOpen_cons _ _ (by decide),
        staysOpen_cons _ _ (by decide),
        staysOpen_append _ _ (isPaired hFits.1),
        staysOpen_cons _ _ (by decide), ihCode hFits.1,
        ihRest hFits.2]
      rfl
  | token t rest ih =>
      rw [chars_token,
        staysOpen_append _ _ (CodeToken.isPaired hFits.1),
        ih hFits.2]
      rfl
  | string l rest ih =>
      rcases quote_plain l with ⟨hQuote, hOpen⟩
      rw [chars_string, staysOpen_cons _ _ hQuote,
        staysOpen_append _ _ l.isPaired,
        staysOpen_cons _ _ hQuote, hOpen, ih hFits]
      rfl
  | braces inner rest ihInner ihRest =>
      rw [chars_braces, staysOpen_cons _ _ (by decide),
        staysOpen_append _ _ (isPaired hFits.1),
        staysOpen_cons _ _ (by decide), ihInner hFits.1,
        ihRest hFits.2]
      rfl
  | template body rest ihBody ihRest =>
      rw [chars_template, staysOpen_cons _ _ (by decide)]
      rfl

end TemplateText

end Devirt

------------------------------------------------------------
-- Marks of Templates
------------------------------------------------------------

namespace Devirt

open Scanner CodeMap

namespace Scanner

end Scanner

namespace TemplateLiteral

variable {t : TemplateLiteral}
variable {before after : String}

/-
  No byte of the content of a template between two texts, and
  of the templates and strings in its substitutions, is code,
  and the scanner is at the top level right behind it.
-/
structure IsMarked
    (t : TemplateLiteral)
    (before after : String) :
    Prop where
  content :
    ∀ front c rest,
      t.marks = front ++ (c, true) :: rest →
        (ofText (before ++ t.text ++ after)).IsLiteral
          ((bytesOf before).length +
            (encode (front.map Prod.fst)).length)
          ((bytesOf before).length +
            (encode ((front ++ [(c, true)]).map Prod.fst)).length)
  top :
    TopAt (bytesOf (before ++ t.text ++ after))
      ((bytesOf before).length + (bytesOf t.text).length)

/- The scanner reads a template as one literal. -/
def IsSpanned
    (t : TemplateLiteral)
    (before after : String) :
    Prop :=
  Spans (before ++ t.text ++ after) '`' (bytesOf before).length
    '`' ((bytesOf before).length + (bytesOf t.text).length)

/-
  The scanner reads a template up to the first backtick that it
  meets in it.
-/
theorem spans_upTo
    {front rest : List Char}
    (hTop :
      TopAt (bytesOf (before ++ t.text ++ after))
        (bytesOf before).length)
    (hText : t.text.toList = '`' :: (front ++ '`' :: rest))
    (hFront : staysOpen (closes '`') front = true) :
    Spans (before ++ t.text ++ after) '`' (bytesOf before).length
      '`' ((bytesOf before).length +
        ((encode front).length + 2)) := by
  have hCode :
      (before ++ t.text ++ after).toList =
        before.toList ++
          ('`' :: (front ++ ['`']) ++ (rest ++ after.toList)) := by
    simp [hText]
  rw [bytesOf_eq_encode before] at hTop ⊢
  exact
    spans_of_staysOpen (by simp [quotes]) hFront rfl hCode hTop

theorem text_toList
    (t : TemplateLiteral) :
    t.text.toList = '`' :: (t.body.chars ++ ['`']) := by
  simp [text, marks, TemplateText.chars]

theorem length_text
    (t : TemplateLiteral) :
    (bytesOf t.text).length =
      (encode t.body.chars).length + 2 := by
  rw [bytesOf_eq_encode, text_toList,
    encode_cons_ascii _ (by decide), encode_append,
    List.length_cons, List.length_append]
  rfl

/-
  The first backtick of a template that is not flat, up to
  which the scanner reads it.
-/
theorem exists_firstTick
    (hTop :
      TopAt (bytesOf (before ++ t.text ++ after))
        (bytesOf before).length)
    (hNested : t.body.isFlat = false) :
    ∃ front flag rest,
      t.body.marks = front ++ ('`', flag) :: rest ∧
        staysOpen (closes '`') (front.map Prod.fst) = true ∧
          Spans (before ++ t.text ++ after) '`'
            (bytesOf before).length '`'
            ((bytesOf before).length +
              ((encode (front.map Prod.fst)).length + 2)) := by
  have hOpen := TemplateText.staysOpen_chars t.fits
  rcases exists_end (TemplateText.isPaired t.fits)
      (hOpen.trans hNested) with
    ⟨chars, c, others, hChars, hFront, hClose⟩
  have hTick : c = '`' := by simpa [closes] using hClose
  subst hTick
  rcases List.map_eq_append_iff.mp hChars with
    ⟨front, later, hMarks, rfl, hLater⟩
  rcases List.map_eq_cons_iff.mp hLater with
    ⟨⟨c, flag⟩, rest, rfl, hHere, rfl⟩
  dsimp only at hHere
  subst hHere
  have hText :
      t.text.toList =
        '`' :: (front.map Prod.fst ++
          '`' :: (rest.map Prod.fst ++ ['`'])) := by
    rw [text_toList, hChars, List.append_assoc, List.cons_append]
  exact
    ⟨front, flag, rest, hMarks, hFront,
      spans_upTo hTop hText hFront⟩

/- What is read as one literal has no code in its content. -/
theorem IsSpanned.isMarked
    (hSpanned : t.IsSpanned before after) :
    t.IsMarked before after := by
  refine ⟨?_, hSpanned.top⟩
  intro front c rest hMarks offset hStart hStop
  -- the first and the last mark are those of the backticks
  have hFront : front.map Prod.fst ≠ [] := by
    intro hNil
    rw [List.map_eq_nil_iff.mp hNil] at hMarks
    simp [marks] at hMarks
  have hRest : rest.map Prod.fst ≠ [] := by
    intro hNil
    rw [List.map_eq_nil_iff.mp hNil] at hMarks
    have hLast := congrArg List.getLast? hMarks
    rw [marks, ← List.cons_append, List.getLast?_concat,
      List.getLast?_concat] at hLast
    cases hLast
  have hLength :
      (bytesOf t.text).length =
        (encode ((front ++ [(c, true)]).map Prod.fst)).length +
          (encode (rest.map Prod.fst)).length := by
    rw [bytesOf_eq_encode, text, hMarks, String.toList_ofList,
      ← List.length_append, ← encode_append, ← List.map_append,
      List.append_assoc, List.singleton_append]
  have hBefore := length_encode_pos hFront
  have hBehind := length_encode_pos hRest
  exact hSpanned.body offset (by omega) (by omega)

/- Content by its place between the backticks. -/
theorem IsMarked.isCode_content
    {front rest : List (Char × Bool)}
    {c : Char}
    (hMarked : t.IsMarked before after)
    (hMarks : t.body.marks = front ++ (c, true) :: rest) :
    (ofText (before ++ t.text ++ after)).isCode
        ((bytesOf before).length +
          ((encode (front.map Prod.fst)).length + 1)) =
      false := by
  have hLiteral :=
    hMarked.content (('`', false) :: front) c
      (rest ++ [('`', false)]) (by simp [marks, hMarks])
  have hFront :
      (encode ((('`', false) :: front).map Prod.fst)).length =
        (encode (front.map Prod.fst)).length + 1 := by
    rw [List.map_cons, encode_cons_ascii _ (by decide)]
    rfl
  have hChar :
      0 < (encode ([(c, true)].map Prod.fst)).length :=
    length_encode_pos (List.cons_ne_nil _ _)
  apply hLiteral
  · rw [hFront]
  · rw [List.map_append, encode_append, List.length_append,
      hFront]
    omega

/-
  Content is code where the scanner leaves a template at it or
  right before it.
-/
theorem not_isMarked
    {front rest : List (Char × Bool)}
    {flag : Bool}
    (hMarks : t.body.marks = front ++ ('`', flag) :: rest)
    (hSpans :
      Spans (before ++ t.text ++ after) '`'
        (bytesOf before).length '`'
        ((bytesOf before).length +
          ((encode (front.map Prod.fst)).length + 2)))
    (hContent :
      flag = true ∨
        ∃ c later, rest = (c, true) :: later ∧ c ≠ '/') :
    ¬ t.IsMarked before after := by
  intro hMarked
  rcases hContent with rfl | ⟨c, later, rfl, hOther⟩
  · have hCode := hSpans.closing.isCode_eq
    have hLiteral := hMarked.isCode_content hMarks
    exact Bool.false_ne_true (hLiteral.symm.trans hCode)
  · have hBehind :
        t.body.marks =
          (front ++ [('`', flag)]) ++ (c, true) :: later := by
      simp [hMarks]
    have hLiteral := hMarked.isCode_content hBehind
    have hLength :
        (encode ((front ++ [('`', flag)]).map Prod.fst)).length +
            1 =
          (encode (front.map Prod.fst)).length + 2 := by
      rw [List.map_append, encode_append, List.length_append]
      rfl
    have hCode :
        (before ++ t.text ++ after).toList =
          (before.toList ++
              '`' :: (front.map Prod.fst ++ ['`'])) ++
            c :: (later.map Prod.fst ++ '`' :: after.toList) := by
      simp [text_toList, TemplateText.chars, hMarks]
    have hOffset :
        (encode (before.toList ++
            '`' :: (front.map Prod.fst ++ ['`']))).length =
          (bytesOf before).length +
            ((encode (front.map Prod.fst)).length + 2) := by
      rw [encode_append, List.length_append,
        encode_cons_ascii _ (by decide), List.length_cons,
        encode_append, List.length_append, bytesOf_eq_encode]
      rfl
    have hSlash : '/'.toNat < 128 := by decide
    rcases exists_first_byte hSlash hOther with
      ⟨b, bytes, hBytes, hFirst⟩
    have hByte := getElem?_char hCode hBytes
    rw [hOffset] at hByte
    rw [hLength] at hLiteral
    have hShown := isCode_of_topAt hSpans.top hByte hFirst
    exact Bool.false_ne_true (hLiteral.symm.trans hShown)

end TemplateLiteral

/-
  At the top level a template is read as one literal exactly
  if its substitutions hold no backtick but behind backslashes;
  then no content is code.  Otherwise the scanner reads it up
  to the first such backtick, and where that backtick or what
  follows it is content, content is code.
-/
theorem templates_spanned
    {before after : String}
    {t : TemplateLiteral}
    (hTop :
      TopAt (bytesOf (before ++ t.text ++ after))
        (bytesOf before).length) :
    (t.IsSpanned before after ↔ t.body.isFlat = true) ∧
      (t.body.isFlat = true → t.IsMarked before after) ∧
        (t.body.isFlat = false →
          ∃ front flag rest,
            t.body.marks = front ++ ('`', flag) :: rest ∧
              staysOpen (closes '`') (front.map Prod.fst) =
                true ∧
                Spans (before ++ t.text ++ after) '`'
                  (bytesOf before).length '`'
                  ((bytesOf before).length +
                    ((encode (front.map Prod.fst)).length + 2)) ∧
                  (flag = true ∨
                      (∃ c later,
                        rest = (c, true) :: later ∧ c ≠ '/') →
                    ¬ t.IsMarked before after)) := by
  have hText := t.text_toList
  have hOpen := TemplateText.staysOpen_chars t.fits
  have hFlat :
      t.body.isFlat = true → t.IsSpanned before after := by
    intro hFlat
    unfold TemplateLiteral.IsSpanned
    rw [TemplateLiteral.length_text]
    exact
      TemplateLiteral.spans_upTo hTop hText (hOpen.trans hFlat)
  refine ⟨⟨?_, hFlat⟩, fun hHere => (hFlat hHere).isMarked, ?_⟩
  · intro hSpanned
    rw [← Bool.not_eq_false]
    intro hNested
    rcases TemplateLiteral.exists_firstTick hTop hNested with
      ⟨front, flag, rest, hMarks, -, hSpans⟩
    -- the first backtick would be the last one
    have hStop := hSpanned.stop_eq hSpans
    rw [TemplateLiteral.length_text, TemplateText.chars, hMarks,
      List.map_append, encode_append, List.length_append]
      at hStop
    have hLater :
        0 < (encode ((('`', flag) :: rest).map Prod.fst)).length :=
      length_encode_pos (List.cons_ne_nil _ _)
    omega
  · intro hNested
    rcases TemplateLiteral.exists_firstTick hTop hNested with
      ⟨front, flag, rest, hMarks, hFront, hSpans⟩
    exact
      ⟨front, flag, rest, hMarks, hFront, hSpans,
        TemplateLiteral.not_isMarked hMarks hSpans⟩

/- A template with a string and braces in its substitution. -/
def flatTemplate : TemplateLiteral where
  body :=
    .char 'a' (.substitution
      (.string ⟨'"', [.char '\'', .escape ['`']], Or.inl rfl, by
          simp [StringPart.Fits]
          exact .character (by decide) (by decide) (by decide)⟩
        (.braces (.token (.mark 'b') .done) .done))
      (.escape '`' .done))
  fits := by
    simp [TemplateText.Fits, CodeToken.Fits, quotes]

theorem flatTemplate_spanned :
    TopAt (bytesOf ("x = " ++ flatTemplate.text ++ ";"))
        (bytesOf "x = ").length ∧
      flatTemplate.IsSpanned "x = " ";" ∧
        flatTemplate.IsMarked "x = " ";" := by
  have hTop :
      TopAt (bytesOf ("x = " ++ flatTemplate.text ++ ";"))
        (bytesOf "x = ").length := by
    unfold TopAt
    decide +kernel
  have hSpanned := (templates_spanned hTop).1.mpr rfl
  exact ⟨hTop, hSpanned, (templates_spanned hTop).2.1 rfl⟩

/- A template within a template. -/
def nestedTemplate : TemplateLiteral where
  body :=
    .substitution
      (.template (.char '!' (.char '0' .done)) .done) .done
  fits := by simp [TemplateText.Fits]

theorem nestedTemplate_unmarked :
    TopAt (bytesOf ("x = " ++ nestedTemplate.text ++ ""))
        (bytesOf "x = ").length ∧
      (ofText ("x = " ++ nestedTemplate.text ++ "")).HasCode 8
          (byte '!') ∧
        ¬ nestedTemplate.IsMarked "x = " "" := by
  have hTop :
      TopAt (bytesOf ("x = " ++ nestedTemplate.text ++ ""))
        (bytesOf "x = ").length := by
    unfold TopAt
    decide +kernel
  have hContent :
      (ofText ("x = " ++ nestedTemplate.text ++ "")).HasCode 8
        (byte '!') := by
    unfold HasCode
    decide +kernel
  refine ⟨hTop, hContent, ?_⟩
  intro hMarked
  have hLiteral :=
    hMarked.content
      [('`', false), ('$', false), ('{', false), ('`', false)]
      '!'
      [('0', true), ('`', false), ('}', false), ('`', false)] rfl
      8 (by decide +kernel) (by decide +kernel)
  rw [hContent.isCode_eq] at hLiteral
  cases hLiteral

end Devirt
