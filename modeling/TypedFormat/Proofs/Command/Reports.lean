import TypedFormat.Proofs.Command.Outputs
import TypedFormat.Proofs.Files.Extensions

/-!
# The two files of a report

A verification that completes has written its report as markdown to the path it was given, and then as
JSON to that path with another extension. They are two files in one directory, unless the path has the
extension already: then the JSON is written over the markdown (`Verification.execute_verify_report`).
-/

namespace TypedFormat

open RunLog

/-! ### Two writes -/

namespace FileTree

variable {tree : FileTree} {path : String} {place other : List String} {first second : List UInt8}

/-- What is read at the path of the first of two files that are written. -/
lemma bytesAt_insert_insert (h : tree.placeForFile path = .ok place) (hroom : tree.HasRoom other) :
    ((tree.insert place (.file first)).insert other (.file second)).bytesAt path
      = .ok (if other = place then second else first) := by
  obtain ⟨hself, -, -⟩ := hasRoom_of_placeForFile h
  have hplace : (tree.insert place (.file first)).placeForFile path = .ok place :=
    placeForFile_insert hself h
  split_ifs with hsame
  · rw [hsame]
    exact bytesAt_insert_self hplace
  · have hother : (tree.insert place (.file first)).HasRoom other := hroom.insert hself
    exact (bytesAt_insert_of_placeForFile hother hplace (Ne.symm hsame)).mpr (bytesAt_insert_self h)

end FileTree

/-! ### Markdown is not JSON -/

namespace Report

lemma head?_markdown (r : Report) : r.markdown.toList.head? = some '#' := by
  delta markdown summary
  simp only [String.toList_append]
  rfl

lemma head?_json [Json.Package] (htexts : Json.TextLaws) (r : Report) :
    r.json.toList.head? = some '\x7b' :=
  htexts.head?_pretty _

lemma encode_markdown_ne [Json.Package] (htexts : Json.TextLaws) (r r' : Report) :
    Utf8.encode r.markdown.toList ≠ Utf8.encode r'.json.toList := by
  intro heq
  have htext := congrArg Utf8.text? heq
  rw [Utf8.text?_encode, Utf8.text?_encode, Option.some_inj] at htext
  have hhead := r.head?_markdown
  rw [htext, head?_json htexts] at hhead
  exact absurd hhead (by decide)

end Report

namespace Verification

/-! ### Endings without a fault -/

/-- The result of a run that has written all its documents: the cases passed, or some did not. -/
def Completes (result : Except Trouble String) : Prop :=
  result = .ok "" ∨ result = .error .notConformant

lemma completes_ended_iff {tally : Tally} {written : Except FileFault Unit} :
    Completes (ended tally written) ↔ written = .ok () := by
  cases written with
  | error fault => simp [Completes, ended]
  | ok _ => cases hpassed : tally.allPassed <;> simp [Completes, ended, hpassed]

/-! ### Documents that are written -/

section Documents

variable [Json.Package] {tree opened mid after : FileTree} {path directory : String}
  {logPath : Option String}
  {document : Document} {rest first second : List (String × Document)} {entries : List Entry}

lemma writeAll_nil_eq_ok_iff : writeAll [] tree = (.ok (), after) ↔ tree = after := by
  simp [writeAll]

lemma writeAll_cons_eq_ok_iff :
    writeAll ((path, document) :: rest) tree = (.ok (), after) ↔
      ∃ place, tree.placeForFile path = .ok place ∧
        writeAll rest (tree.insert place (.file document.bytes)) = (.ok (), after) := by
  rw [writeAll]
  cases hwrite : tree.writeFile path document.bytes with
  | ok written =>
    obtain ⟨place, hplace, rfl⟩ := FileTree.writeFile_eq_ok_iff.mp hwrite
    simp [hplace]
  | error fault =>
    simp only [Prod.mk.injEq, reduceCtorEq, false_and, false_iff, not_exists, not_and]
    intro place hplace
    rw [FileTree.writeFile_eq_ok hplace] at hwrite
    cases hwrite

lemma writeAll_append_eq_ok_iff :
    writeAll (first ++ second) tree = (.ok (), after) ↔
      ∃ mid, writeAll first tree = (.ok (), mid) ∧ writeAll second mid = (.ok (), after) := by
  rw [writeAll_append]
  rcases writeAll first tree with ⟨fault | ⟨⟨⟩⟩, mid⟩ <;> simp

/-- Both documents of a report are written if there are places for them. -/
lemma writeAll_reportDocuments_eq_ok_iff {r : Report} :
    writeAll (reportDocuments (some path) r) tree = (.ok (), after) ↔
      ∃ place other, tree.placeForFile path = .ok place ∧
        tree.placeForFile (Path.withExtension path "json") = .ok other ∧
        after = (tree.insert place (.file (Utf8.encode r.markdown.toList))).insert other
          (.file (Utf8.encode r.json.toList)) := by
  have hdocuments : reportDocuments (some path) r
      = [(path, .markdown r), (Path.withExtension path "json", .json r)] := rfl
  rw [hdocuments, writeAll_cons_eq_ok_iff]
  refine exists_congr fun place => ?_
  rw [writeAll_cons_eq_ok_iff]
  constructor
  · rintro ⟨hplace, other, hother, hafter⟩
    obtain ⟨hroom, -, -⟩ := FileTree.hasRoom_of_placeForFile hplace
    exact ⟨other, hplace, (FileTree.placeForFile_insert_eq_ok_iff hroom).mp hother,
      (writeAll_nil_eq_ok_iff.mp hafter).symm⟩
  · rintro ⟨other, hplace, hother, rfl⟩
    obtain ⟨hroom, -, -⟩ := FileTree.hasRoom_of_placeForFile hplace
    exact ⟨hplace, other, FileTree.placeForFile_insert hroom hother, rfl⟩

/-- A log that was written can be written again, and leaves the same places for files. -/
lemma exists_writeAll_logDocument (h : writeAll (logDocument logPath entries) tree = (.ok (), opened))
    (more : List Entry) :
    ∃ logged, writeAll (logDocument logPath more) opened = (.ok (), logged) ∧
      ∀ path place, logged.placeForFile path = .ok place ↔ opened.placeForFile path = .ok place := by
  cases logPath with
  | none => exact ⟨opened, rfl, fun _ _ => .rfl⟩
  | some logPath =>
    obtain ⟨log, hlog, hopened⟩ := writeAll_cons_eq_ok_iff.mp h
    obtain rfl := writeAll_nil_eq_ok_iff.mp hopened
    obtain ⟨hroom, -, -⟩ := FileTree.hasRoom_of_placeForFile hlog
    have hagain : (tree.insert log (.file (Document.log entries).bytes)).placeForFile logPath
        = .ok log := FileTree.placeForFile_insert hroom hlog
    refine ⟨_, writeAll_cons_eq_ok_iff.mpr ⟨log, hagain, rfl⟩, fun path place => ?_⟩
    exact FileTree.placeForFile_insert_eq_ok_iff (FileTree.hasRoom_of_placeForFile hagain).1

end Documents

/-! ### What is left of a report -/

/-- The report on loaded suites. -/
def reportOn (time : String) (loaded : List Loaded) : Report :=
  report time loaded (Tally.ofVerdicts (verdicts (loaded.map Loaded.suite)))

/-- What a tree has of a report that was written to a path with some last name. The JSON is in a sibling,
which is the same file just if the name has this extension already; and just if it has not, the markdown
is at the path. -/
structure Delivered [Json.Package] (tree : FileTree) (path : String) (r : Report) (parent : List String)
    (name sibling : String) : Prop where
  lastName : (Path.components path).getLast? = some name
  place : tree.resolve path = .ok (parent ++ [name])
  siblingPlace : tree.resolve (Path.withExtension path "json") = .ok (parent ++ [sibling])
  sibling_eq_iff : sibling = name ↔ Path.extension? name = some "json"
  json : tree.bytesAt (Path.withExtension path "json") = .ok (Utf8.encode r.json.toList)
  markdown_iff : tree.bytesAt path = .ok (Utf8.encode r.markdown.toList) ↔
    Path.extension? name ≠ some "json"

section Endings

variable [Json.Package] {tree opened after : FileTree} {path directory : String}
  {logPath : Option String}
  {result : Except Trouble String} {loaded : List Loaded}

lemma exists_delivered_of_writeAll (htexts : Json.TextLaws) {r : Report}
    (h : writeAll (reportDocuments (some path) r) tree = (.ok (), after)) :
    ∃ parent name sibling, Delivered after path r parent name sibling := by
  obtain ⟨place, other, hplace, hother, rfl⟩ := writeAll_reportDocuments_eq_ok_iff.mp h
  obtain ⟨parent, name, sibling, hname, rfl, rfl, hsame⟩ :=
    FileTree.exists_siblings (by decide) hplace hother
  obtain ⟨hroom, hresolve, -⟩ := FileTree.hasRoom_of_placeForFile hplace
  obtain ⟨hroom', hresolve', -⟩ := FileTree.hasRoom_of_placeForFile hother
  -- Neither write changes where a path leads.
  have hkept : ∀ {path place}, tree.resolve path = .ok place →
      ((tree.insert (parent ++ [name]) (.file (Utf8.encode r.markdown.toList))).insert
        (parent ++ [sibling]) (.file (Utf8.encode r.json.toList))).resolve path = .ok place := by
    intro path place hpath
    rw [FileTree.resolve_insert_eq_ok_iff (hroom'.insert hroom), FileTree.resolve_insert_eq_ok_iff hroom]
    exact hpath
  refine ⟨parent, name, sibling, hname, hkept hresolve, hkept hresolve', hsame, ?_, ?_⟩
  · exact FileTree.bytesAt_insert_self (FileTree.placeForFile_insert hroom hother)
  · rw [FileTree.bytesAt_insert_insert hplace hroom', Ne, ← hsame]
    have hlast : parent ++ [sibling] = parent ++ [name] ↔ sibling = name := by simp
    by_cases heq : sibling = name
    · rw [if_pos (hlast.mpr heq)]
      refine iff_of_false (fun hok => ?_) (not_not_intro heq)
      exact r.encode_markdown_ne htexts r (Except.ok.inj hok).symm
    · rw [if_neg (mt hlast.mp heq)]
      exact iff_of_true rfl heq

lemma not_completes_of_suitesAt [Digest] {trouble : Trouble}
    (h : suitesAt tree directory = .error trouble) : ¬ Completes (.error trouble) := by
  unfold suitesAt at h
  split at h
  · cases h
    simp [Completes]
  · dsimp only at h
    split_ifs at h
    cases h
    simp [Completes]

/-- A run that completes has loaded suites and left the report on them. -/
lemma Ends.exists_delivered [Digest] (htexts : Json.TextLaws)
    (h : Ends directory (some path) logPath tree result after)
    (hcompletes : Completes result) :
    ∃ opened loaded time, writeAll (logDocument logPath []) tree = (.ok (), opened) ∧
      suitesAt opened directory = .ok loaded ∧
      ∃ parent name sibling, Delivered after path (reportOn time loaded) parent name sibling := by
  unfold Ends at h
  -- Before there are documents of a report, a run ends only with troubles of other kinds.
  rcases hopened : writeAll (logDocument logPath []) tree with ⟨fault | ⟨⟨⟩⟩, opened⟩
  · rw [hopened] at h
    obtain ⟨rfl, -⟩ := h
    simp [Completes] at hcompletes
  · rw [hopened] at h
    dsimp only at h
    cases hloaded : suitesAt opened directory with
    | error trouble =>
      rw [hloaded] at h
      obtain ⟨rfl, -⟩ := h
      exact absurd hcompletes (not_completes_of_suitesAt hloaded)
    | ok loaded =>
      rw [hloaded] at h
      dsimp only at h
      split_ifs at h
      · obtain ⟨time, entries, -, hended, hafter⟩ := h
        rw [hended, completes_ended_iff] at hcompletes
        have hwritten := Prod.ext (y := (Except.ok (), after)) hcompletes hafter.symm
        obtain ⟨logged, -, hreport⟩ := writeAll_append_eq_ok_iff.mp hwritten
        exact ⟨opened, loaded, time, rfl, hloaded, exists_delivered_of_writeAll htexts hreport⟩
      · obtain ⟨rfl, -⟩ := h
        simp [Completes] at hcompletes

/-- A run completes if the log can be opened, there are suites, all cases return, and there are places
for the report. -/
lemma Ends.completes [Digest] (h : Ends directory (some path) logPath tree result after)
    (hopened : writeAll (logDocument logPath []) tree = (.ok (), opened))
    (hloaded : suitesAt opened directory = .ok loaded)
    (hreturns : returns (loaded.map Loaded.suite) = true) {place other : List String}
    (hplace : opened.placeForFile path = .ok place)
    (hother : opened.placeForFile (Path.withExtension path "json") = .ok other) : Completes result := by
  unfold Ends at h
  rw [hopened] at h
  dsimp only at h
  rw [hloaded] at h
  dsimp only at h
  rw [if_pos hreturns] at h
  obtain ⟨time, entries, -, hended, -⟩ := h
  obtain ⟨logged, hlog, hplaces⟩ := exists_writeAll_logDocument hopened entries
  have hreport : ∃ after,
      writeAll (reportDocuments (some path) (reportOn time loaded)) logged = (.ok (), after) :=
    ⟨_, writeAll_reportDocuments_eq_ok_iff.mpr
      ⟨place, other, (hplaces _ _).mpr hplace, (hplaces _ _).mpr hother, rfl⟩⟩
  obtain ⟨after', hreport⟩ := hreport
  have hwritten := writeAll_append_eq_ok_iff.mpr ⟨logged, hlog, hreport⟩
  rw [hended, completes_ended_iff]
  exact congrArg Prod.fst hwritten

end Endings

/-! ### The run -/

section

variable [Json.Package] [Digest] [CommandLine] {σ : Type} [Host (StateM σ)] {files : σ → FileTree}

/-- A verification that completes has left the JSON of its report beside the path that it was given. The
markdown is at the path if the last name there has another extension than JSON, and only then: if it has
this one, both paths lead to one file, which has the JSON. -/
theorem execute_verify_report (htexts : Json.TextLaws) (hserves : Serves files) (s : σ)
    (settings : Invocation.Settings) {words : List String} {directory path : String}
    {logPath : Option String}
    (hwords : CommandLine.parse words = .ok (.verify directory (some path) logPath))
    (hcompletes : Completes (((Invocation.verify directory (some path) logPath).session settings
      : Session (StateM σ) String).runFrom "" s).1.1) :
    let after := files ((Invocation.execute settings words : StateM σ Transcript).run s).2
    ∃ opened loaded time, writeAll (logDocument logPath []) (files s) = (.ok (), opened) ∧
      suitesAt opened directory = .ok loaded ∧
      ∃ parent name sibling, Delivered after path (reportOn time loaded) parent name sibling :=
  (ends_execute hserves s settings hwords).1.exists_delivered htexts hcompletes

end

open scoped Standard

/-- A verification of the machine with one suite completes if there are places for its report. -/
lemma completes_one_suite {words : List String} {path : String} {place other : List String}
    (hwords : CommandLine.parse words = .ok (.verify "suites" (some path) none))
    (hplace : oneSuite.files.placeForFile path = .ok place)
    (hother : oneSuite.files.placeForFile (Path.withExtension path "json") = .ok other) :
    Completes (((Invocation.verify "suites" (some path) none).session {}
      : Session (StateM Machine) String).runFrom "" oneSuite).1.1 := by
  have hloaded := suitesAt_eq_ok (namesAt_withSuite _) (isEmpty_loadedSuites exists_suite_oneSuite)
  exact (ends_execute Machine.serves oneSuite {} hwords).1.completes rfl hloaded returns_oneSuite hplace
    hother

/-- The report of the machine with one suite, at a path for markdown. -/
theorem execute_verify_report_of_md :
    let words := ["verify", "--fixture=suites", "--report=r.md"]
    let after := ((Invocation.execute {} words : StateM Machine Transcript).run oneSuite).2.files
    Completes (((Invocation.verify "suites" (some "r.md") none).session {}
      : Session (StateM Machine) String).runFrom "" oneSuite).1.1 ∧
    ∃ r : Report, after.bytesAt "r.md" = .ok (Utf8.encode r.markdown.toList) ∧
      after.bytesAt "r.json" = .ok (Utf8.encode r.json.toList) := by
  intro words after
  have hwords : CommandLine.parse words = .ok (.verify "suites" (some "r.md") none) := rfl
  have hplace : oneSuite.files.placeForFile "r.md" = .ok ["r.md"] := rfl
  have hother : oneSuite.files.placeForFile (Path.withExtension "r.md" "json") = .ok ["r.json"] := rfl
  have hcompletes := completes_one_suite hwords hplace hother
  obtain ⟨opened, loaded, time, -, -, parent, name, sibling, hdelivered⟩ :=
    execute_verify_report Json.standard_textLaws Machine.serves oneSuite {} hwords hcompletes
  have hlast : (Path.components "r.md").getLast? = some "r.md" := by decide
  obtain rfl := Option.some_inj.mp (hlast.symm.trans hdelivered.lastName)
  exact ⟨hcompletes, _, hdelivered.markdown_iff.mpr (by decide), hdelivered.json⟩

/-- The report of the same machine, at a path that has the extension of JSON: of its markdown nothing is
left. -/
theorem execute_verify_report_overwritten :
    let words := ["verify", "--fixture=suites", "--report=r.json"]
    let after := ((Invocation.execute {} words : StateM Machine Transcript).run oneSuite).2.files
    Completes (((Invocation.verify "suites" (some "r.json") none).session {}
      : Session (StateM Machine) String).runFrom "" oneSuite).1.1 ∧
    (∃ r : Report, after.bytesAt "r.json" = .ok (Utf8.encode r.json.toList)) ∧
    ∀ r : Report, after.bytesAt "r.json" ≠ .ok (Utf8.encode r.markdown.toList) := by
  intro words after
  have hwords : CommandLine.parse words = .ok (.verify "suites" (some "r.json") none) := rfl
  have hplace : oneSuite.files.placeForFile "r.json" = .ok ["r.json"] := rfl
  have hother : oneSuite.files.placeForFile (Path.withExtension "r.json" "json") = .ok ["r.json"] := rfl
  have hcompletes := completes_one_suite hwords hplace hother
  obtain ⟨opened, loaded, time, -, -, parent, name, sibling, hdelivered⟩ :=
    (ends_execute Machine.serves oneSuite {} hwords).1.exists_delivered Json.standard_textLaws hcompletes
  have hjson : after.bytesAt "r.json" = .ok (Utf8.encode (Report.json _).toList) := hdelivered.json
  refine ⟨hcompletes, ⟨_, hjson⟩, fun r hmarkdown => ?_⟩
  rw [hjson] at hmarkdown
  exact Report.encode_markdown_ne Json.standard_textLaws r _ (Except.ok.inj hmarkdown).symm

end Verification

end TypedFormat
