import TypedFormat.Proofs.Command.Endings
import TypedFormat.Proofs.Command.Outputs
import TypedFormat.Proofs.Files.Alike

/-!
# Console settings do not matter to a verification

Two runs from the same tree of files end in the same way and leave the same files, but for the
timestamps in the run log and in the report (`execute_verify_same`). All that differs between two
endings (`Ends`) are the times: the entries of a log that covers some verdicts are settled up to these
(`Covers.same`), and no write depends on the bytes that others have written.
-/

namespace TypedFormat

open RunLog

/-! ### The same but for timestamps -/

/-- Entries that differ in the timestamp at most. -/
def RunLog.Entry.Same (e e' : Entry) : Prop :=
  { e with timestamp := e'.timestamp } = e'

/-- Reports that differ in the timestamp at most. -/
def Report.Same (r r' : Report) : Prop :=
  { r with timestamp := r'.timestamp } = r'

namespace RunLog.Entry

variable {e e' : Entry}

lemma RecordsEvent.same {event : String} (h : e.RecordsEvent event) (h' : e'.RecordsEvent event)
    (hid : e.traceId = e'.traceId) : e.Same e' := by
  cases e
  cases e'
  obtain ⟨rfl, rfl, rfl, rfl, rfl, rfl⟩ := h
  obtain ⟨rfl, rfl, rfl, rfl, rfl, rfl⟩ := h'
  dsimp only at hid
  rw [hid]
  rfl

lemma Records.same {v : Verdict} (h : e.Records v) (h' : e'.Records v)
    (hid : e.traceId = e'.traceId) : e.Same e' := by
  cases e
  cases e'
  obtain ⟨rfl, rfl, rfl, rfl, rfl, rfl⟩ := h
  obtain ⟨rfl, rfl, rfl, rfl, rfl, rfl⟩ := h'
  dsimp only at hid
  rw [hid]
  rfl

lemma same_of_records {results results' : List Entry} {verdicts : List Verdict}
    (h : List.Forall₂ Records results verdicts) (h' : List.Forall₂ Records results' verdicts)
    (hids : results.map Entry.traceId = results'.map Entry.traceId) :
    List.Forall₂ Entry.Same results results' := by
  induction h generalizing results' with
  | nil =>
    cases h'
    exact .nil
  | cons hrecords _ ih =>
    cases h' with
    | cons hrecords' hrest =>
      rw [List.map_cons, List.map_cons, List.cons.injEq] at hids
      exact .cons (hrecords.same hrecords' hids.1) (ih hrest hids.2)

end RunLog.Entry

namespace Verification

/-- Two logs that cover the same verdicts differ in timestamps at most. -/
lemma Covers.same {entries entries' : List Entry} {verdicts : List Verdict}
    (h : Covers entries verdicts) (h' : Covers entries' verdicts) :
    List.Forall₂ Entry.Same entries entries' := by
  have hids : entries.map Entry.traceId = entries'.map Entry.traceId := h.traceIds.trans h'.traceIds.symm
  obtain ⟨first, results, last, rfl, hfirst, hresults, hlast⟩ := h.exists_parts
  obtain ⟨first', results', last', rfl, hfirst', hresults', hlast'⟩ := h'.exists_parts
  simp only [List.cons_append, List.map_cons, List.map_append, List.cons.injEq] at hids
  obtain ⟨hidFirst, hidRest⟩ := hids
  obtain ⟨hidResults, hidLast⟩ := List.append_inj hidRest
    (by rw [List.length_map, List.length_map, hresults.length_eq, hresults'.length_eq])
  refine .cons (hfirst.same hfirst' hidFirst) ?_
  refine List.rel_append (Entry.same_of_records hresults hresults' hidResults) ?_
  exact .cons (hlast.same hlast' (List.cons.inj hidLast).1) .nil

/-- Documents of one kind that differ in timestamps at most. -/
def Document.Same : Document → Document → Prop
  | .log entries, .log entries' => List.Forall₂ Entry.Same entries entries'
  | .markdown r,  .markdown r'  => r.Same r'
  | .json r,      .json r'      => r.Same r'
  | _,            _             => False

/-- The same paths with documents that differ in timestamps at most. -/
def SameDocuments : List (String × Document) → List (String × Document) → Prop :=
  List.Forall₂ fun entry entry' => entry.1 = entry'.1 ∧ entry.2.Same entry'.2

lemma sameDocuments_of_same {entries entries' : List Entry}
    (hentries : List.Forall₂ Entry.Same entries entries') {r r' : Report} (hreport : r.Same r')
    (reportPath logPath : Option String) :
    SameDocuments (logDocument logPath entries ++ reportDocuments reportPath r)
      (logDocument logPath entries' ++ reportDocuments reportPath r') := by
  refine List.rel_append ?_ ?_
  · cases logPath with
    | none => exact .nil
    | some path => exact .cons ⟨rfl, hentries⟩ .nil
  · cases reportPath with
    | none => exact .nil
    | some path => exact .cons ⟨rfl, hreport⟩ (.cons ⟨rfl, hreport⟩ .nil)

/-- Bytes that are equal, or those of documents that differ in timestamps at most. -/
def SameBytes [Json.Package] (bytes bytes' : List UInt8) : Prop :=
  bytes = bytes' ∨ ∃ document document' : Document, document.Same document' ∧
    bytes = document.bytes ∧ bytes' = document'.bytes

section

variable [Json.Package]

/-- The trees differ at most in the timestamps of documents. -/
def SameFiles (tree tree' : FileTree) : Prop :=
  tree.Alike SameBytes tree'

lemma SameFiles.refl (tree : FileTree) : SameFiles tree tree :=
  FileTree.Alike.refl (fun _ => .inl rfl) tree

/-! ### Writing -/

/-- Writing documents that differ in timestamps at most ends in the same way. -/
lemma SameDocuments.writeAll {documents documents' : List (String × Document)}
    (h : SameDocuments documents documents') {tree tree' : FileTree} (htree : SameFiles tree tree') :
    (writeAll documents tree).1 = (writeAll documents' tree').1 ∧
      SameFiles (writeAll documents tree).2 (writeAll documents' tree').2 := by
  induction h generalizing tree tree' with
  | nil => exact ⟨rfl, htree⟩
  | @cons entry entry' rest rest' hentry _ ih =>
    obtain ⟨path, document⟩ := entry
    obtain ⟨path', document'⟩ := entry'
    obtain ⟨rfl, hdocument⟩ := hentry
    have hbytes : SameBytes document.bytes document'.bytes :=
      .inr ⟨document, document', hdocument, rfl, rfl⟩
    rw [Verification.writeAll, Verification.writeAll]
    rcases htree.writeFile path hbytes with ⟨after, after', hwrite, hwrite', hafter⟩
      | ⟨fault, hwrite, hwrite'⟩
    · rw [hwrite, hwrite']
      exact ih hafter
    · rw [hwrite, hwrite']
      exact ⟨rfl, htree⟩

/-! ### Two runs -/

/-- From one tree all runs end with the same and leave the same files. -/
lemma Ends.same [Digest] {directory : String} {reportPath logPath : Option String}
    {tree after after' : FileTree} {result result' : Except Trouble String} (h : Ends directory reportPath logPath tree result after)
    (h' : Ends directory reportPath logPath tree result' after') :
    result = result' ∧ SameFiles after after' := by
  unfold Ends at h h'
  rcases hopened : writeAll (logDocument logPath []) tree with ⟨fault | _, opened⟩
  · rw [hopened] at h h'
    obtain ⟨rfl, rfl⟩ := h
    obtain ⟨rfl, rfl⟩ := h'
    exact ⟨rfl, .refl _⟩
  · rw [hopened] at h h'
    dsimp only at h h'
    cases hloaded : suitesAt opened directory with
    | error trouble =>
      rw [hloaded] at h h'
      obtain ⟨rfl, rfl⟩ := h
      obtain ⟨rfl, rfl⟩ := h'
      exact ⟨rfl, .refl _⟩
    | ok loaded =>
      rw [hloaded] at h h'
      dsimp only at h h'
      split_ifs at h h'
      · -- Only from here on do times come in, and with them the first difference.
        obtain ⟨time, entries, hcovers, rfl, rfl⟩ := h
        obtain ⟨time', entries', hcovers', rfl, rfl⟩ := h'
        have hreport : (report time loaded (Tally.ofVerdicts (verdicts (loaded.map Loaded.suite)))).Same
            (report time' loaded (Tally.ofVerdicts (verdicts (loaded.map Loaded.suite)))) := rfl
        obtain ⟨hwritten, hfiles⟩ := (sameDocuments_of_same (hcovers.same hcovers') hreport reportPath
          logPath).writeAll (SameFiles.refl opened)
        rw [hwritten]
        exact ⟨rfl, hfiles⟩
      · obtain ⟨rfl, rfl⟩ := h
        obtain ⟨rfl, rfl⟩ := h'
        exact ⟨rfl, .refl _⟩

/-- Nothing but the empty text is for standard output. -/
lemma Ends.eq_empty [Digest] {directory stdout : String} {reportPath logPath : Option String}
    {tree after : FileTree} (h : Ends directory reportPath logPath tree (.ok stdout) after) :
    stdout = "" := by
  unfold Ends at h
  split at h
  · cases h.1
  · split at h
    · cases h.1
    · split_ifs at h
      · obtain ⟨time, entries, -, hended, -⟩ := h
        unfold ended at hended
        split at hended
        · cases hended
        · split_ifs at hended
          exact Except.ok.inj hended
      · cases h.1

omit [Json.Package] in
/-- Transcripts that show the same ending have the same exit code. -/
lemma exitCode_eq_of_shows {result : Except Trouble String} {t t' : Transcript} (h : t.Shows result)
    (h' : t'.Shows result) : t.exitCode = t'.exitCode := by
  cases result with
  | ok stdout => exact h.1.trans h'.1.symm
  | error trouble => exact h.1.trans h'.1.symm

/-- The transcript of a run shows nothing on standard output. -/
lemma Ends.stdout_eq_empty [Digest] {directory : String} {reportPath logPath : Option String}
    {tree after : FileTree} {result : Except Trouble String} {t : Transcript}
    (h : Ends directory reportPath logPath tree result after) (hshows : t.Shows result) :
    t.stdout = "" := by
  cases result with
  | ok stdout => exact hshows.2.trans h.eq_empty
  | error trouble => exact hshows.2

/-- The settings of the console have no part in what two verifications from the same files come to: the
exit code and the files are the same, but for timestamps in the log and in the reports, and nothing is
written to standard output. -/
theorem execute_verify_same [Digest] [CommandLine] {σ : Type} [Host (StateM σ)]
    {files : σ → FileTree} (hserves : Serves files) {s s' : σ} (hfiles : files s = files s')
    (settings settings' : Invocation.Settings) {words : List String} {directory : String}
    {reportPath logPath : Option String}
    (hwords : CommandLine.parse words = .ok (.verify directory reportPath logPath)) :
    let ending := (Invocation.execute settings words : StateM σ Transcript).run s
    let ending' := (Invocation.execute settings' words : StateM σ Transcript).run s'
    ending.1.exitCode = ending'.1.exitCode ∧ ending.1.stdout = "" ∧ ending'.1.stdout = "" ∧
      SameFiles (files ending.2) (files ending'.2) := by
  intro ending ending'
  obtain ⟨hends, hshows⟩ := ends_execute hserves s settings hwords
  obtain ⟨hends', hshows'⟩ := ends_execute hserves s' settings' hwords
  rw [← hfiles] at hends'
  obtain ⟨hresult, hsame⟩ := hends.same hends'
  refine ⟨?_, hends.stdout_eq_empty hshows, hends'.stdout_eq_empty hshows', hsame⟩
  rw [← hresult] at hshows'
  exact exitCode_eq_of_shows hshows hshows'

end

open scoped Standard

/-- The console of the machine with one suite is silent, or shows all it can and is lenient. -/
theorem execute_verify_same_one_suite :
    let words := ["verify", "--fixture=suites", "--report=r.md", "--log=l.jsonl"]
    let later : Machine := { oneSuite with clock := ⟨1000, 0⟩ }
    let ending := (Invocation.execute ⟨some "fatal", none⟩ words : StateM Machine Transcript).run oneSuite
    let ending' := (Invocation.execute ⟨some "trace", some "lenient"⟩ words
      : StateM Machine Transcript).run later
    ending.1.exitCode = ending'.1.exitCode ∧ ending.1.stdout = "" ∧ ending'.1.stdout = "" ∧
      SameFiles ending.2.files ending'.2.files := by
  intro words later
  have hwords : CommandLine.parse words = .ok (.verify "suites" (some "r.md") (some "l.jsonl")) := rfl
  have hfiles : oneSuite.files = later.files := rfl
  exact execute_verify_same Machine.serves hfiles ⟨some "fatal", none⟩ ⟨some "trace", some "lenient"⟩
    hwords

end Verification

end TypedFormat
