import TypedFormat.Command.Words
import TypedFormat.Proofs.Command.Endings
import TypedFormat.Proofs.Conformance.ReportText
import TypedFormat.Proofs.Conformance.SuiteText
import TypedFormat.Proofs.RunLog.CheckedLines
import TypedFormat.Proofs.Text.Utf8

/-!
# The outputs of a verification agree

A verification of a directory leaves a run log, a report as markdown and as JSON, and an exit code
(`execute_verify`). All of them are about the same verdicts, which are those on every case that applies,
in the order of `casesToRun`. If some case does not return, there are no documents
(`execute_verify_stops`).
-/

namespace TypedFormat

open RunLog

namespace Verification

/-! ### The cases to run -/

/-- Whether a case applies under a policy: its mode, without regard to the case of ASCII letters, is
the policy's name or both. -/
def applies (policy : Policy) (c : Case) : Bool :=
  lowerAscii c.mode.toList = policy.name.toList ∨ lowerAscii c.mode.toList = "both".toList

/-- The cases to run, each with its policy: first strictly, then leniently, and each time all suites in
order. -/
def casesToRun (suites : List Suite) : List (Policy × Case) :=
  [Policy.strict, Policy.lenient].flatMap fun policy => suites.flatMap fun suite =>
    (suite.cases.filter (applies policy)).map fun c => (policy, c)

section

variable (campaign : String) (policy : Policy)

lemma policy_trial : Trial.policy ⟨campaign, policy.name⟩ = policy := by
  show Policy.ofSetting policy.name = policy
  cases policy <;> decide

/-- The trial of a policy takes the cases that apply under it. -/
lemma takes_trial : Trial.takes ⟨campaign, policy.name⟩ = applies policy := by
  have hmode : lowerAscii policy.name.toList = policy.name.toList := by
    cases policy <;> decide
  funext c
  rw [Bool.eq_iff_iff, Trial.takes, applies, hmode, Bool.or_eq_true, beq_iff_eq, beq_iff_eq,
    decide_eq_true_eq]

end

lemma trials_eq : trials = [Policy.strict, Policy.lenient].map fun policy =>
    ⟨"fixture-verify", policy.name⟩ := rfl

/-- All trials return if all cases to run do. -/
lemma returns_iff {suites : List Suite} : returns suites = true ↔
    ∀ run ∈ casesToRun suites, run.2.returns run.1 = true := by
  rw [returns, trials_eq, List.all_map, List.all_eq_true]
  simp only [casesToRun, List.mem_flatMap, List.mem_map, Function.comp_apply, List.all_eq_true,
    Trial.returns, policy_trial, takes_trial]
  constructor
  · rintro h _ ⟨policy, hpolicy, suite, hsuite, c, hc, rfl⟩
    exact h policy hpolicy suite hsuite c hc
  · intro h policy hpolicy suite hsuite c hc
    exact h (policy, c) ⟨policy, hpolicy, suite, hsuite, c, hc, rfl⟩

/-- The places of the log and of the two files of the report: files can be written there, and they are
three. -/
structure Targets (tree : FileTree) (logPath reportPath : String) (log report json : List String) :
    Prop where
  placesLog : tree.placeForFile logPath = .ok log
  placesReport : tree.placeForFile reportPath = .ok report
  placesJson : tree.placeForFile (Path.withExtension reportPath "json") = .ok json
  distinct : [log, report, json].Nodup

section

variable {tree : FileTree} {logPath reportPath : String} {log report json place : List String}

lemma Targets.insert (h : Targets tree logPath reportPath log report json)
    (hroom : tree.HasRoom place) (bytes : List UInt8) :
    Targets (tree.insert place (.file bytes)) logPath reportPath log report json where
  placesLog := FileTree.placeForFile_insert hroom h.placesLog
  placesReport := FileTree.placeForFile_insert hroom h.placesReport
  placesJson := FileTree.placeForFile_insert hroom h.placesJson
  distinct := h.distinct

/-- The tree with these files. -/
def withOutputs (tree : FileTree) (log report json : List String) (logText markdown jsonText : String) :
    FileTree :=
  ((tree.insert log (.file (Utf8.encode logText.toList))).insert report
    (.file (Utf8.encode markdown.toList))).insert json (.file (Utf8.encode jsonText.toList))

end

/-! ### What a run writes -/

section

variable [Json.Package] {tree : FileTree} {directory logPath reportPath : String}
  {log report json names : List String}

/-- The documents are written to these places. -/
lemma Targets.writeAll_eq_ok (h : Targets tree logPath reportPath log report json)
    (entries : List Entry) (r : Report) :
    writeAll (logDocument (some logPath) entries ++ reportDocuments (some reportPath) r) tree
      = (.ok (), withOutputs tree log report json (logText entries) r.markdown r.json) := by
  have h₁ := h.insert (FileTree.hasRoom_of_placeForFile h.placesLog).1
    (Document.log entries).bytes
  have h₂ := h₁.insert (FileTree.hasRoom_of_placeForFile h₁.placesReport).1
    (Document.markdown r).bytes
  have hdocuments : logDocument (some logPath) entries ++ reportDocuments (some reportPath) r
      = [(logPath, .log entries), (reportPath, .markdown r),
        (Path.withExtension reportPath "json", .json r)] := rfl
  simp only [hdocuments, writeAll, FileTree.writeFile_eq_ok h.placesLog,
    FileTree.writeFile_eq_ok h₁.placesReport, FileTree.writeFile_eq_ok h₂.placesJson]
  rfl

/-- The log can be emptied. -/
lemma Targets.writeAll_opened (h : Targets tree logPath reportPath log report json) :
    writeAll (logDocument (some logPath) []) tree = (.ok (), tree.insert log (.file [])) := by
  have hdocuments : logDocument (some logPath) [] = [(logPath, .log [])] := rfl
  simp only [hdocuments, writeAll, FileTree.writeFile_eq_ok h.placesLog]
  rfl

/-- There are suites to load if one file holds one. -/
lemma isEmpty_loadedSuites [Digest] (hsuite : ∃ name ∈ names, Path.extension? name = some "json" ∧
    (loaded? tree directory name).isSome) : (loadedSuites tree directory names).isEmpty = false := by
  obtain ⟨name, hname, hjson, hloaded⟩ := hsuite
  obtain ⟨file, hfile⟩ := Option.isSome_iff_exists.mp hloaded
  rw [List.isEmpty_eq_false_iff]
  exact List.ne_nil_of_mem
    (List.mem_filterMap.mpr ⟨name, mem_suiteNames_iff.mpr ⟨hname, hjson⟩, hfile⟩)

lemma suitesAt_eq_ok [Digest] (hnames : tree.namesAt directory = .ok names)
    (hloaded : (loadedSuites tree directory names).isEmpty = false) :
    suitesAt tree directory = .ok (loadedSuites tree directory names) := by
  unfold suitesAt
  rw [hnames]
  dsimp only
  rw [hloaded]
  rfl

/-- There are the same suites once the log is empty, if there are any and it is none of them. -/
lemma suitesAt_opened [Digest] (htexts : Json.TextLaws)
    (h : Targets tree logPath reportPath log report json)
    (hnames : tree.namesAt directory = .ok names)
    (hsuite : ∃ name ∈ names, Path.extension? name = some "json" ∧
      (loaded? tree directory name).isSome)
    (hother : ∀ name ∈ names, Path.extension? name = some "json" →
      tree.resolve (Path.join directory name) ≠ .ok log) :
    suitesAt (tree.insert log (.file [])) directory = .ok (loadedSuites tree directory names) := by
  obtain ⟨names', hnames', hsame⟩ := loadedSuites_insert htexts h.placesLog hnames fun name hname =>
    hother name (mem_suiteNames_iff.mp hname).1 (mem_suiteNames_iff.mp hname).2
  rw [← hsame]
  exact suitesAt_eq_ok hnames' (hsame ▸ isEmpty_loadedSuites hsuite)

/-- A run on suites that are there, with a place for every document, writes all of them, or it stops
before it writes any. -/
lemma Ends.of_targets [Digest] {result : Except Trouble String} {after : FileTree}
    {loaded : List Loaded} (hends : Ends directory (some reportPath) (some logPath) tree result after)
    (h : Targets tree logPath reportPath log report json)
    (hloaded : suitesAt (tree.insert log (.file [])) directory = .ok loaded) :
    let tally := Tally.ofVerdicts (verdicts (loaded.map Loaded.suite))
    (returns (loaded.map Loaded.suite) = true ∧ ∃ time entries, Covers entries tally.verdicts ∧
      result = (if tally.allPassed then .ok "" else .error .notConformant) ∧
      after = withOutputs (tree.insert log (.file [])) log report json (logText entries)
        (Verification.report time loaded tally).markdown (Verification.report time loaded tally).json)
    ∨ (returns (loaded.map Loaded.suite) = false ∧ result = .error .stopped ∧
      after = tree.insert log (.file [])) := by
  intro tally
  unfold Ends at hends
  rw [h.writeAll_opened] at hends
  dsimp only at hends
  rw [hloaded] at hends
  dsimp only at hends
  split_ifs at hends with hreturns
  · obtain ⟨time, entries, hcovers, hresult, hafter⟩ := hends
    have hroom := (FileTree.hasRoom_of_placeForFile h.placesLog).1
    rw [(h.insert hroom []).writeAll_eq_ok] at hresult hafter
    exact .inl ⟨hreturns, time, entries, hcovers, hresult, hafter⟩
  · exact .inr ⟨Bool.not_eq_true _ ▸ hreturns, hends⟩

end

/-! ### The run -/

section

variable [Json.Package] [Digest] [CommandLine] {σ : Type} [Host (StateM σ)] {files : σ → FileTree}
  (hlaws : Json.Laws) (hserves : Serves files) (s : σ) (settings : Invocation.Settings)
  {words : List String} {directory reportPath logPath : String}
  (hwords : CommandLine.parse words = .ok (.verify directory (some reportPath) (some logPath)))
  {names : List String} (hnames : (files s).namesAt directory = .ok names)
  (hsuite : ∃ name ∈ names, Path.extension? name = some "json" ∧
    (loaded? (files s) directory name).isSome)
  {log report json : List String} (h : Targets (files s) logPath reportPath log report json)
  (hother : ∀ name ∈ names, Path.extension? name = some "json" →
    (files s).resolve (Path.join directory name) ≠ .ok log)

include hlaws hserves hwords hnames hsuite h hother

/-- A case that does not return stops the verification: no document is written, and the exit code is
another one. -/
theorem execute_verify_stops
    (hstops : ∃ run ∈ casesToRun ((loadedSuites (files s) directory names).map Loaded.suite),
      run.2.returns run.1 = false) :
    let ending := (Invocation.execute settings words : StateM σ Transcript).run s
    ending.1.exitCode = 101 ∧ files ending.2 = (files s).insert log (.file []) := by
  intro ending
  obtain ⟨hends, hshows⟩ := ends_execute hserves s settings hwords
  have hloaded := suitesAt_opened hlaws.toTextLaws h hnames hsuite hother
  rcases hends.of_targets h hloaded with ⟨hreturns, -⟩ | ⟨-, hresult, hfiles⟩
  · obtain ⟨run, hrun, hstop⟩ := hstops
    rw [returns_iff.mp hreturns run hrun] at hstop
    cases hstop
  · rw [hresult] at hshows
    exact ⟨hshows.1, hfiles⟩

end

/-- A file with the text of a suite is loaded. -/
lemma loaded?_of_text [Json.Package] [Digest] (htexts : Json.TextLaws) (hparts : Json.PartLaws)
    {tree : FileTree} {directory name : String} {suite : Suite} (hfinite : suite.isFinite = true)
    (hfloats : suite.ReadsBack)
    (h : tree.bytesAt (Path.join directory name) = .ok (Utf8.encode suite.text.toList)) :
    loaded? tree directory name
      = some ⟨name, Digest.hex (Digest.sha256 (Utf8.encode suite.text.toList)), suite⟩ := by
  have hread : Suite.ofText? suite.text = some suite := by
    rw [Suite.ofText?, Suite.text, htexts.tree?_pretty hfloats.comesBack_toJson, Option.bind_some,
      Suite.ofTree?_toJson hparts, if_pos hfinite]
  simp [loaded?, h, Except.toOption, Utf8.text?_encode, hread]

/-! ### A machine with one suite -/

open scoped Standard

/-- A suite with one case, which applies under both policies. -/
def oneCase : Suite where
  version := "1"
  family := "integers"
  capturedAt := ""
  cases := [{
    name := "seven", area := "d", template := "%d", values := [.int 7],
    expectation := .output "7", mode := "Both" }]

lemma readsBack_oneCase : oneCase.ReadsBack := by
  intro c hc x hx
  obtain rfl := List.mem_singleton.mp hc
  simp at hx

/-- A machine with one file, in a directory of suites. -/
def withSuite (bytes : List UInt8) : Machine where
  files := { nodes := [(["suites", "one.json"], .file bytes)] }

/-- A machine that has the suite in a directory. -/
def oneSuite : Machine :=
  withSuite (Utf8.encode oneCase.text.toList)

section

variable (bytes : List UInt8)

lemma namesAt_withSuite : (withSuite bytes).files.namesAt "suites" = .ok ["one.json"] := rfl

lemma bytesAt_withSuite :
    (withSuite bytes).files.bytesAt (Path.join "suites" "one.json") = .ok bytes := rfl

end

lemma loaded?_oneSuite : loaded? oneSuite.files "suites" "one.json"
    = some ⟨"one.json", Digest.hex (Digest.sha256 (Utf8.encode oneCase.text.toList)), oneCase⟩ :=
  loaded?_of_text Json.standard_textLaws Json.standard_partLaws (by decide) readsBack_oneCase
    (bytesAt_withSuite _)

lemma exists_suite_oneSuite : ∃ name ∈ ["one.json"], Path.extension? name = some "json" ∧
    (loaded? oneSuite.files "suites" name).isSome :=
  ⟨"one.json", List.mem_cons_self, by decide, Option.isSome_of_eq_some loaded?_oneSuite⟩

/-- The suite is all that there is to load from the machine. -/
lemma map_suite_oneSuite :
    (loadedSuites oneSuite.files "suites" ["one.json"]).map Loaded.suite = [oneCase] := by
  have hjson : Path.extension? "one.json" = some "json" := by decide
  have hnames : suiteNames ["one.json"] = ["one.json"] := by simp [suiteNames, hjson]
  rw [loadedSuites, hnames, List.filterMap_cons_some loaded?_oneSuite]
  rfl

/-- All its cases return. -/
lemma returns_oneSuite :
    returns ((loadedSuites oneSuite.files "suites" ["one.json"]).map Loaded.suite) = true := by
  rw [map_suite_oneSuite]
  decide +kernel

end Verification

end TypedFormat
