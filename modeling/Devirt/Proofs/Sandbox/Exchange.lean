import Devirt.Proofs.Json.RoundTrip
import Devirt.Sandbox.Execute

/-
  A worker in a process of its own answers like a thread.

  Between the sandbox and a worker process stand two documents:
  the job, which is written and read again, and the outcome.
  Both come back as they were, so what the sandbox is told is
  what the realm gave.  That needs limits of sixty-four bits
  and a value that is undefined, null, a boolean, an integer
  or a text; a fraction may be rounded on its way.

  Main declarations:
    * `Job.parse_toJson`, `Realm.Outcome.parse_toJson`
    * `serve_toJson`
    * `Sandbox.process_answers_like_thread`
-/

------------------------------------------------------------
-- Records
------------------------------------------------------------

namespace Devirt

/- An object with exactly the fields of a record is one. -/
theorem Format.json_record?_object
    (names : List String)
    {fields : List (String × Json)}
    (hNames : fields.map (·.1) = names)
    (hApart : names.eraseDups.length = names.length) :
    Format.json.record? names (.object fields) = some fields := by
  have hKnown :
      (fields.filter fun f => names.contains f.1) = fields := by
    rw [List.filter_eq_self]
    intro f hMember
    rw [List.contains_iff_mem, ← hNames]
    exact List.mem_map_of_mem hMember
  have hLength : names.length = fields.length := by
    rw [← hNames, List.length_map]
  simp only [json, jsonRecord?, named, hKnown, hNames, hApart,
    hLength, beq_self_eq_true, if_true]

theorem Json.nat_of_lt
    {n : Nat}
    (hFits : n < Number.naturalBound) :
    Json.nat n = .number (.natural n) := by
  rw [Json.nat, if_pos hFits]

end Devirt

------------------------------------------------------------
-- Jobs
------------------------------------------------------------

namespace Devirt

namespace Realm

theorem DynamicCode.ofName?_name
    (policy : DynamicCode) :
    ofName? policy.name = some policy := by
  cases policy <;> decide

namespace Limits

/- Limits that fit in sixty-four bits. -/
structure Fits (l : Limits) : Prop where
  loopIterations : l.loopIterations < Json.Number.naturalBound
  recursion : l.recursion < Json.Number.naturalBound
  stackSize : l.stackSize < Json.Number.naturalBound
  maxStringLength : l.maxStringLength < Json.Number.naturalBound

/- How limits that fit are written. -/
theorem Fits.toJson_eq
    {l : Limits}
    (hFits : l.Fits) :
    l.toJson =
      .object
        [ ("loop_iterations", .number (.natural l.loopIterations))
        , ("recursion", .number (.natural l.recursion))
        , ("stack_size", .number (.natural l.stackSize))
        , ("max_string_length",
            .number (.natural l.maxStringLength))
        , ("dynamic_code", .text l.dynamicCode.name) ] := by
  rw [toJson, Json.nat_of_lt hFits.loopIterations,
    Json.nat_of_lt hFits.recursion,
    Json.nat_of_lt hFits.stackSize,
    Json.nat_of_lt hFits.maxStringLength]

theorem Fits.ofJson?_toJson
    {l : Limits}
    (hFits : l.Fits) :
    ofJson? l.toJson = some l := by
  have hPolicy := DynamicCode.ofName?_name l.dynamicCode
  rw [hFits.toJson_eq, ofJson?,
    Format.json_record?_object fieldNames rfl (by decide)]
  simp [Json.nat?, Json.choice?, hPolicy]

theorem Fits.readable
    {l : Limits}
    (hFits : l.Fits)
    (depth : Nat) :
    Json.Readable (depth + 1) l.toJson := by
  rw [hFits.toJson_eq]
  apply Json.Readable.cons _ (.natural hFits.loopIterations)
  apply Json.Readable.cons _ (.natural hFits.recursion)
  apply Json.Readable.cons _ (.natural hFits.stackSize)
  apply Json.Readable.cons _ (.natural hFits.maxStringLength)
  exact .cons _ (.text _) .nil

end Limits

end Realm

namespace Job

theorem ofJson?_toJson
    {job : Job}
    (hFits : job.limits.Fits) :
    ofJson? job.toJson = some job := by
  have hLimits := hFits.ofJson?_toJson
  rw [ofJson?, toJson,
    Format.json_record?_object ["code", "limits"] rfl (by decide)]
  simp [Json.text?, hLimits]

/- A job is told to a worker as it is. -/
theorem parse_toJson
    {job : Job}
    (hFits : job.limits.Fits) :
    (Json.parse job.toJson.compact).bind ofJson? = some job := by
  have hReadable : Json.Readable Json.depthLimit job.toJson :=
    .cons _ (.text _) (.cons _ (hFits.readable _) .nil)
  rw [Json.parse_compact hReadable]
  exact ofJson?_toJson hFits

end Job

end Devirt

------------------------------------------------------------
-- Outcomes
------------------------------------------------------------

namespace Devirt

namespace Realm.Outcome

/-
  An outcome whose value, if there is one, is null, a boolean,
  an integer or a text.
-/
def IsPlain : Outcome → Prop
  | completed (some (.number n)) => n.IsWhole
  | completed (some (.array _)) => False
  | completed (some (.object _)) => False
  | _ => True

/- A value is told apart from its absence. -/
theorem ofJson?_toJson
    (outcome : Outcome) :
    ofJson? outcome.toJson = some outcome := by
  cases outcome with
  | completed value => cases value <;> rfl
  | failed message => rfl
  | limitExceeded message => rfl

theorem IsPlain.readable
    {outcome : Outcome}
    (hPlain : outcome.IsPlain)
    (depth : Nat) :
    Json.Readable (depth + 1) outcome.toJson := by
  cases outcome with
  | completed value =>
      cases value with
      | none => exact .cons _ (.text _) .nil
      | some v =>
          have hValue : Json.Readable depth v := by
            cases v with
            | null => exact .null
            | bool b => exact .bool b
            | number n => exact .number hPlain
            | text s => exact .text s
            | array items => cases hPlain
            | object fields => cases hPlain
          exact .cons _ (.text _) (.cons _ hValue .nil)
  | failed message =>
      exact .cons _ (.text _) (.cons _ (.text _) .nil)
  | limitExceeded message =>
      exact .cons _ (.text _) (.cons _ (.text _) .nil)

/- An outcome is told to the sandbox as it is. -/
theorem parse_toJson
    {outcome : Outcome}
    (hPlain : outcome.IsPlain) :
    (Json.parse outcome.toJson.compact).bind ofJson? =
      some outcome := by
  rw [Json.parse_compact (hPlain.readable _)]
  exact ofJson?_toJson outcome

end Realm.Outcome

end Devirt

------------------------------------------------------------
-- Workers
------------------------------------------------------------

namespace Devirt

/- A worker that is told a job answers with its outcome. -/
theorem serve_toJson
    (evaluate : Evaluator)
    {job : Job}
    (hFits : job.limits.Fits) :
    serve evaluate job.toJson.compact =
      (evaluate job.code job.limits).elim .silent
        fun outcome => .answered outcome.toJson.compact := by
  simp only [serve, Job.parse_toJson hFits]
  cases evaluate job.code job.limits with
  | none => rfl
  | some outcome => rfl

namespace Sandbox

/- What comes back from a worker is what its realm gave. -/
theorem ofService_serve
    {evaluate : Evaluator}
    {job : Job}
    (hFits : job.limits.Fits)
    (hPlain :
      ∀ outcome ∈ evaluate job.code job.limits,
        outcome.IsPlain) :
    Ending.ofService (serve evaluate job.toJson.compact) =
      Ending.ofOutcome (evaluate job.code job.limits) := by
  rw [serve_toJson evaluate hFits]
  cases hOutcome : evaluate job.code job.limits with
  | none => rfl
  | some outcome =>
      have hParse :=
        Realm.Outcome.parse_toJson (hPlain outcome hOutcome)
      simp only [Option.elim_some, Ending.ofService, hParse,
        Ending.ofOutcome]

/-
  A job that is written for a worker process, run there and
  answered in writing ends as on a thread: with the very
  outcome that the realm gives for the script and its limits.
-/
theorem process_answers_like_thread
    {evaluate : Evaluator}
    {programs : List String}
    {program : String}
    {job : Job}
    (hProgram : program ∈ programs)
    (hFits : job.limits.Fits)
    (hPlain :
      ∀ outcome ∈ evaluate job.code job.limits,
        outcome.IsPlain) :
    let host := Host.ofPrograms evaluate programs
    host.inProcess program job = host.onThread job ∧
      ∀ outcome, evaluate job.code job.limits = some outcome →
        host.onThread job = .answered outcome ∧
          ∃ reply,
            serve evaluate job.toJson.compact =
                .answered reply ∧
              (Json.parse reply).bind Realm.Outcome.ofJson? =
                some outcome := by
  intro host
  refine ⟨?_, ?_⟩
  · simp only [host, Host.ofPrograms,
      List.contains_iff_mem.mpr hProgram, if_true]
    exact ofService_serve hFits hPlain
  · intro outcome hOutcome
    refine ⟨?_, outcome.toJson.compact, ?_, ?_⟩
    · simp only [host, Host.ofPrograms, hOutcome,
        Ending.ofOutcome]
    · rw [serve_toJson evaluate hFits, hOutcome,
        Option.elim_some]
    · exact Realm.Outcome.parse_toJson (hPlain outcome hOutcome)

/- Limits of sixty-four bits, each as large as can be. -/
def utmostLimits : Realm.Limits :=
  let utmost := Json.Number.naturalBound - 1
  ⟨utmost, utmost, utmost, utmost, .capture⟩

/-
  A negative number, behind it a comment with a quote, a
  backslash, a control character and a letter of two bytes.
-/
def commentedNumber : Job :=
  ⟨"-7 // \"\\\x01é", utmostLimits⟩

theorem commentedNumber_answered :
    let outcome : Realm.Outcome :=
      .completed (some (.number (.negative 7)))
    let evaluate : Evaluator := fun _ _ => some outcome
    let host := Host.ofPrograms evaluate ["worker"]
    (commentedNumber.limits.Fits ∧ outcome.IsPlain) ∧
      host.inProcess "worker" commentedNumber =
        .answered outcome := by
  intro outcome evaluate host
  have hFits : commentedNumber.limits.Fits := by
    constructor <;> decide
  have hPlain : outcome.IsPlain := by
    show 0 < 7 ∧ 7 ≤ Json.Number.negativeBound
    decide
  have hAllPlain :
      ∀ other ∈
          evaluate commentedNumber.code commentedNumber.limits,
        other.IsPlain := by
    intro other hOther
    cases hOther
    exact hPlain
  have hProgram : "worker" ∈ ["worker"] :=
    List.mem_singleton.mpr rfl
  have hSame :=
    process_answers_like_thread hProgram hFits hAllPlain
  exact
    ⟨⟨hFits, hPlain⟩, hSame.1.trans (hSame.2 outcome rfl).1⟩

end Sandbox

end Devirt
