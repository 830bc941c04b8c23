import TypedFormat.Proofs.Command.Parts
import TypedFormat.Proofs.RunLog.EntryText

/-!
# What a verification records

A verification records an entry for its start, one for every verdict and one for its end. Its draft
grows by the lines of these entries, which are numbered on without gaps (`Draft.Extends`), and each
entry says what was to be recorded (`Entry.RecordsEvent`, `Entry.Records`). All of them are fit for a
run log.
-/

namespace TypedFormat

open RunLog

namespace RunLog.Entry

/-- An entry that only names an event. -/
structure RecordsEvent (e : Entry) (event : String) : Prop where
  severity : e.severity = .info
  event : e.event = event
  caseName : e.caseName = none
  mode : e.mode = none
  outcome : e.outcome = none
  details : e.details = none

/-- An entry for a verdict. -/
structure Records (e : Entry) (v : Verdict) : Prop where
  severity : e.severity = if v.passed then .info else .error
  event : e.event = "case_result"
  caseName : e.caseName = some v.caseName
  mode : e.mode = some v.mode
  outcome : e.outcome = some (if v.passed then .pass else .fail)
  details : e.details = some (.object [("actual", .string v.actual), ("expected", .string v.expected),
    ("section", .string v.area)])

lemma RecordsEvent.isFit {e : Entry} {event : String} (h : e.RecordsEvent event) : e.IsFit where
  mode mode hmode := by rw [h.mode] at hmode; cases hmode
  details value hvalue := by rw [h.details] at hvalue; cases hvalue

/-- The details of a verdict are an object of three strings. -/
lemma Records.isFit {e : Entry} {v : Verdict} (h : e.Records v)
    (hmode : v.mode = "strict" ∨ v.mode = "lenient") : e.IsFit where
  mode mode heq := by
    rw [h.mode] at heq
    obtain rfl := Option.some.inj heq
    exact hmode
  details value heq := by
    rw [h.details] at heq
    obtain rfl := Option.some.inj heq
    refine ⟨by simp, .object ?_ ?_⟩
    · have hsorted : ["actual", "expected", "section"].Pairwise (· < ·) := by decide
      exact hsorted
    intro member hmember
    simp only [List.mem_cons, List.not_mem_nil, or_false] at hmember
    rcases hmember with rfl | rfl | rfl
    · exact .string _
    · exact .string _
    · exact .string _

/-- No entry that a verification records has a floating point number. -/
lemma RecordsEvent.readsBack [Json.Package] {e : Entry} {event : String} (h : e.RecordsEvent event) :
    e.ReadsBack := by
  intro value hvalue
  rw [h.details] at hvalue
  cases hvalue

lemma Records.readsBack [Json.Package] {e : Entry} {v : Verdict} (h : e.Records v) :
    e.ReadsBack := by
  intro value hvalue x hx
  rw [h.details] at hvalue
  obtain rfl := Option.some.inj hvalue
  simp [Json.Value.numbers] at hx

end RunLog.Entry

namespace Verification

open Session

/-- The text of a run log with these entries. -/
def logText [Json.Package] (entries : List Entry) : String :=
  String.join (entries.map fun e => e.line ++ "\n")

variable [Json.Package]

lemma logText_append (entries more : List Entry) :
    logText (entries ++ more) = logText entries ++ logText more := by
  simp [logText]

/-! ### Drafts -/

namespace Draft

/-- A draft with the lines of more entries, which are numbered on from those before. -/
structure Extends (draft draft' : Draft) (entries : List Entry) : Prop where
  runId : draft'.runId = draft.runId
  count : draft'.count = draft.count + entries.length
  outlet : draft'.outlet = draft.outlet ++ logText entries
  traceIds : entries.map Entry.traceId
    = (List.range' (draft.count + 1) entries.length).map (Journal.traceId draft.runId)

lemma Extends.refl (draft : Draft) : draft.Extends draft [] where
  runId := rfl
  count := rfl
  outlet := by simp [logText]
  traceIds := rfl

lemma Extends.trans {draft₁ draft₂ draft₃ : Draft} {entries more : List Entry}
    (h : draft₁.Extends draft₂ entries) (h' : draft₂.Extends draft₃ more) :
    draft₁.Extends draft₃ (entries ++ more) where
  runId := h'.runId.trans h.runId
  count := by rw [h'.count, h.count, List.length_append, Nat.add_assoc]
  outlet := by rw [h'.outlet, h.outlet, logText_append, String.append_assoc]
  traceIds := by
    rw [List.map_append, h.traceIds, h'.traceIds, h.runId, h.count, List.length_append,
      ← List.range'_append_1, List.map_append, Nat.add_right_comm]

/-- A draft with one more entry, which has the next trace id. -/
lemma extends_singleton {draft draft' : Draft} {entry : Entry}
    (hid : entry.traceId = Journal.traceId draft.runId (draft.count + 1))
    (h : draft' = ⟨draft.outlet ++ String.ofList (entry.line.toList ++ ['\n']), draft.runId,
      draft.count + 1⟩) : draft.Extends draft' [entry] where
  runId := by rw [h]
  count := by rw [h]; rfl
  outlet := by rw [h]; simp [logText]
  traceIds := by simp [hid]

lemma extends_emit (draft : Draft) (timestamp : String) (severity : Severity) (event : String) :
    draft.Extends (advance (Journal.emit timestamp severity event) draft)
      [{ timestamp, traceId := Journal.traceId draft.runId (draft.count + 1), severity, event }] :=
  extends_singleton rfl rfl

lemma extends_write (draft : Draft) (entry : Entry) (h : entry.traceId = "") :
    draft.Extends (advance (Journal.write entry) draft)
      [{ entry with traceId := Journal.traceId draft.runId (draft.count + 1) }] := by
  obtain ⟨timestamp, traceId, severity, event, caseName, mode, outcome, details⟩ := entry
  obtain rfl := h
  exact extends_singleton rfl rfl

end Draft

/-! ### Sessions that record -/

variable {σ : Type} [Host (StateM σ)] {P : σ → Prop} (hP : Lasting P)

include hP

/-- An event is recorded as one entry. -/
lemma gives_logEvent (event : String) (draft : Draft) :
    Gives P (logEvent event draft : Session (StateM σ) Draft) fun draft' s =>
      P s ∧ ∃ e, e.RecordsEvent event ∧ draft.Extends draft' [e] := by
  refine (gives_timestamp hP).bind fun time => gives_pure fun s hs => ?_
  exact ⟨hs, _, ⟨rfl, rfl, rfl, rfl, rfl, rfl⟩, draft.extends_emit time .info event⟩

/-- Every verdict is recorded as one entry. -/
lemma gives_logVerdicts (verdicts : List Verdict) (draft : Draft) :
    Gives P (logVerdicts verdicts draft : Session (StateM σ) Draft) fun draft' s =>
      P s ∧ ∃ entries, List.Forall₂ Entry.Records entries verdicts
        ∧ draft.Extends draft' entries := by
  induction verdicts generalizing draft with
  | nil => exact gives_pure fun s hs => ⟨hs, [], .nil, .refl draft⟩
  | cons verdict verdicts ih =>
    refine (gives_timestamp hP).bind fun time => ?_
    have hwrite := draft.extends_write (verdictEntry time verdict) rfl
    refine (ih _).mono (fun _ hs => hs) ?_
    rintro r s ⟨draft', hr, hs, entries, hentries, hextends⟩
    exact ⟨draft', hr, hs, _ :: entries, .cons ⟨rfl, rfl, rfl, rfl, rfl, rfl⟩ hentries,
      hwrite.trans hextends⟩

end Verification

end TypedFormat
