import TypedFormat.Proofs.RunLog.Recording

/-!
# A verification in stages

A run empties the log and loads the suites, records and reports the verdicts on them, and writes what
it has (`run_eq`). Whatever the host, the second stage is no trouble and gives a log that covers all
verdicts (`meets_conclude`).
-/

namespace TypedFormat.Verification

open RunLog Session

section

variable {m : Type → Type} [Monad m] [Host m] [Json.Package] (console : Console)
  (reportPath logPath : Option String)

/-- The last stage: the log and the report are written, and the run ends as the cases passed. -/
def deliver (tally : Tally) (draft : Draft) (r : Report) : Session m String := do
  logPath.forM fun path => writeText .unwritten path draft.outlet
  reportPath.forM fun path => writeReport console path r
  if tally.allPassed then pure "" else throw .notConformant

/-- The stages after loading. -/
def conclude (loaded : List Loaded) : Session m String := do
  let suites := loaded.map Loaded.suite
  runTrials console suites
  let tally := Tally.ofVerdicts (verdicts suites)
  let draft ← logEvent "verify_start" { outlet := "", runId := "fixture-verify" }
  let draft ← logVerdicts tally.verdicts draft
  sayFailures console tally
  let r := report (← timestamp) loaded tally
  say console .info "Verification complete: total=%d, passed=%d, failed=%d"
    [tally.total, tally.passed, tally.failed]
  let draft ← logEvent "verify_end" draft
  deliver console reportPath logPath tally draft r

/-- A run in its stages. -/
lemma run_eq [Digest] (directory : String) :
    (run console directory reportPath logPath : Session m String) = (do
      logPath.forM fun path => writeText (.inaccessible path) path ""
      say console .info "Verifying against fixtures in %s" [directory]
      let names ← demand (.inaccessible directory) (← onHost (Host.namesAt directory))
      let loaded ← load console directory (suiteNames names)
      if loaded.isEmpty then throw (.noSuites directory)
      conclude console reportPath logPath loaded) := rfl

end

/-- A log of a whole run over these verdicts: an entry for the start, one for each verdict in their
order, and one for the end, numbered from one on. -/
structure Covers (entries : List Entry) (verdicts : List Verdict) : Prop where
  exists_parts : ∃ first results last, entries = first :: results ++ [last] ∧
    first.RecordsEvent "verify_start" ∧ List.Forall₂ Entry.Records results verdicts ∧
    last.RecordsEvent "verify_end"
  traceIds : entries.map Entry.traceId
    = (List.range' 1 (verdicts.length + 2)).map (Journal.traceId "fixture-verify")

variable {σ : Type} [Host (StateM σ)] {P : σ → Prop} {Q : Except Trouble String → σ → Prop}

/-- The verdicts on suites are under a policy. -/
lemma mode_of_mem_verdicts {suites : List Suite} {v : Verdict} (h : v ∈ verdicts suites) :
    v.mode = "strict" ∨ v.mode = "lenient" := by
  simp only [verdicts, List.mem_flatMap, Trial.run, List.mem_map] at h
  obtain ⟨trial, -, suite, -, c, -, rfl⟩ := h
  rw [Case.judge]
  cases trial.policy with
  | strict => exact .inl rfl
  | lenient => exact .inr rfl

lemma exists_records {entries : List Entry} {verdicts : List Verdict}
    (h : List.Forall₂ Entry.Records entries verdicts) {e : Entry} (he : e ∈ entries) :
    ∃ v ∈ verdicts, e.Records v := by
  induction h with
  | nil => cases he
  | @cons first verdict _ _ hrecords _ ih =>
    rcases List.mem_cons.mp he with rfl | hmem
    · exact ⟨verdict, List.mem_cons_self, hrecords⟩
    · obtain ⟨v, hv, hrecords'⟩ := ih hmem
      exact ⟨v, List.mem_cons_of_mem _ hv, hrecords'⟩

/-- Each entry of a log is for a stage of the run or for a verdict. -/
lemma Covers.records {entries : List Entry} {verdicts : List Verdict} (h : Covers entries verdicts)
    {e : Entry} (he : e ∈ entries) :
    (∃ event, e.RecordsEvent event) ∨ ∃ v ∈ verdicts, e.Records v := by
  obtain ⟨first, results, last, rfl, hfirst, hresults, hlast⟩ := h.exists_parts
  rw [List.mem_append, List.mem_cons, List.mem_singleton] at he
  rcases he with (rfl | hmem) | rfl
  · exact .inl ⟨_, hfirst⟩
  · exact .inr (exists_records hresults hmem)
  · exact .inl ⟨_, hlast⟩

/-- All entries of a log over the verdicts on suites are fit. -/
lemma Covers.isFit {entries : List Entry} {suites : List Suite} (h : Covers entries (verdicts suites)) :
    ∀ e ∈ entries, e.IsFit := by
  intro e he
  rcases h.records he with ⟨event, hevent⟩ | ⟨v, hv, hrecords⟩
  · exact hevent.isFit
  · exact hrecords.isFit (mode_of_mem_verdicts hv)

/-- No entry of such a log has a floating point number. -/
lemma Covers.readsBack [Json.Package] {entries : List Entry} {verdicts : List Verdict}
    (h : Covers entries verdicts) : ∀ e ∈ entries, e.ReadsBack := by
  intro e he
  rcases h.records he with ⟨event, hevent⟩ | ⟨v, -, hrecords⟩
  · exact hevent.readsBack
  · exact hrecords.readsBack

/-- To know what comes of the stages after loading, it is enough to know it of the last one, if all
cases return. If they do not, nothing is written. -/
lemma meets_conclude [Json.Package] (hP : Lasting P) (console : Console)
    (reportPath logPath : Option String) (loaded : List Loaded)
    (hstopped : returns (loaded.map Loaded.suite) = false → ∀ s, P s → Q (.error .stopped) s)
    (hdeliver : returns (loaded.map Loaded.suite) = true → ∀ draft entries time,
      draft.outlet = logText entries → Covers entries (verdicts (loaded.map Loaded.suite)) →
      let tally := Tally.ofVerdicts (verdicts (loaded.map Loaded.suite))
      Meets P (deliver console reportPath logPath tally draft (report time loaded tally)) Q) :
    Meets P (conclude console reportPath logPath loaded) Q := by
  refine (guards_runTrials console _).bind (fun hreturns => ?_) hstopped
  refine (gives_logEvent hP _ _).bind fun draft₁ => meets_of_fact ?_
  rintro ⟨first, hfirst, hstart⟩
  refine (gives_logVerdicts hP _ _).bind fun draft₂ => meets_of_fact ?_
  rintro ⟨results, hresults, hmiddle⟩
  refine (gives_sayFailures console _).bind fun _ => ?_
  refine (gives_timestamp hP).bind fun time => ?_
  refine (gives_say _ _ _ _ rfl).bind fun _ => ?_
  refine (gives_logEvent hP _ _).bind fun draft₃ => meets_of_fact ?_
  rintro ⟨last, hlast, hend⟩
  have hextends := (hstart.trans hmiddle).trans hend
  have hlength : ([first] ++ results ++ [last]).length
      = (verdicts (loaded.map Loaded.suite)).length + 2 := by
    rw [List.length_append, List.length_append, hresults.length_eq, Tally.ofVerdicts]
    simp only [List.length_singleton]
    omega
  refine hdeliver hreturns draft₃ ([first] ++ results ++ [last]) time ?_ ?_
  · rw [hextends.outlet, String.empty_append]
  · refine ⟨⟨first, results, last, rfl, hfirst, hresults, hlast⟩, ?_⟩
    rw [hextends.traceIds, hlength]

end TypedFormat.Verification
