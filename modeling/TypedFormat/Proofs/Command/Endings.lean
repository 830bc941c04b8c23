import TypedFormat.Command.Execution
import TypedFormat.Proofs.Command.Loading
import TypedFormat.Proofs.Command.Stages

/-!
# Every ending of a verification

On a host that serves a tree of files, a verification empties its log, loads the suites, stops if some
case does not return, and writes its documents, up to the first fault (`meets_run_ends`,
`ends_execute`). What it writes and how it ends is settled by the tree, the paths, the times and the
ids of the entries; the console has no part in it.
-/

namespace TypedFormat

open RunLog

/-- A transcript shows how a session ended: the output that it gave, or the exit code of its trouble. -/
def Transcript.Shows (t : Transcript) : Except Trouble String → Prop
  | .ok stdout     => t.exitCode = 0 ∧ t.stdout = stdout
  | .error trouble => t.exitCode = trouble.exitCode ∧ t.stdout = ""

/-- The transcript of a session shows how it ended, and leaves the state that it left. -/
lemma Session.run_transcript {σ : Type} (session : Session (StateM σ) String) (s : σ) :
    ((session.transcript).run s).2 = (session.runFrom "" s).2 ∧
      ((session.transcript).run s).1.Shows (session.runFrom "" s).1.1 := by
  unfold transcript runFrom
  rw [StateT.run_bind]
  generalize (session.run.run "").run s = ending
  obtain ⟨⟨trouble | stdout, written⟩, s'⟩ := ending
  · exact ⟨rfl, rfl, rfl⟩
  · exact ⟨rfl, rfl, rfl⟩

namespace Verification

/-! ### Documents -/

/-- What a verification writes to a file. -/
inductive Document where
  | log (entries : List Entry)
  | markdown (r : Report)
  | json (r : Report)

def Document.text [Json.Package] : Document → String
  | .log entries => logText entries
  | .markdown r  => r.markdown
  | .json r      => r.json

def Document.bytes [Json.Package] (document : Document) : List UInt8 :=
  Utf8.encode document.text.toList

/-- The log that a verification writes, if there is a path for it. -/
def logDocument (logPath : Option String) (entries : List Entry) : List (String × Document) :=
  logPath.toList.map fun path => (path, .log entries)

/-- The reports that a verification writes, if there is a path for them. -/
def reportDocuments (reportPath : Option String) (r : Report) : List (String × Document) :=
  reportPath.toList.flatMap fun path =>
    [(path, .markdown r), (Path.withExtension path "json", .json r)]

/-- Writes documents in their order, up to the first fault. -/
def writeAll [Json.Package] : List (String × Document) → FileTree → Except FileFault Unit × FileTree
  | [],                       tree => (.ok (), tree)
  | (path, document) :: rest, tree =>
    match tree.writeFile path document.bytes with
    | .ok tree     => writeAll rest tree
    | .error fault => (.error fault, tree)

lemma writeAll_append [Json.Package] (first second : List (String × Document)) (tree : FileTree) :
    writeAll (first ++ second) tree
      = match writeAll first tree with
        | (.ok _, tree)        => writeAll second tree
        | (.error fault, tree) => (.error fault, tree) := by
  induction first generalizing tree with
  | nil => rfl
  | cons entry first ih =>
    obtain ⟨path, document⟩ := entry
    rw [List.cons_append, writeAll, writeAll]
    cases tree.writeFile path document.bytes with
    | ok tree => exact ih tree
    | error fault => rfl

/-! ### Endings -/

/-- The suites that there are to run in a directory, or why there are none. -/
def suitesAt [Json.Package] [Digest] (tree : FileTree) (directory : String) :
    Except Trouble (List Loaded) :=
  match tree.namesAt directory with
  | .error fault => .error (.inaccessible directory fault)
  | .ok names    =>
    let loaded := loadedSuites tree directory names
    if loaded.isEmpty then .error (.noSuites directory) else .ok loaded

/-- How a run ends whose documents were written, or were not. -/
def ended (tally : Tally) : Except FileFault Unit → Except Trouble String
  | .error fault => .error (.unwritten fault)
  | .ok _        => if tally.allPassed then .ok "" else .error .notConformant

/-- The ways in which a run from a tree can end. Of the documents only the times in them are open. -/
def Ends [Json.Package] [Digest] (directory : String) (reportPath logPath : Option String)
    (tree : FileTree) (result : Except Trouble String) (after : FileTree) : Prop :=
  match writeAll (logDocument logPath []) tree with
  | (.error fault, opened) => result = .error (.inaccessible (logPath.getD "") fault) ∧ after = opened
  | (.ok _, opened)        =>
    match suitesAt opened directory with
    | .error trouble => result = .error trouble ∧ after = opened
    | .ok loaded     =>
      if returns (loaded.map Loaded.suite) then
        let tally := Tally.ofVerdicts (verdicts (loaded.map Loaded.suite))
        ∃ time entries, Covers entries tally.verdicts ∧
          let written := writeAll
            (logDocument logPath entries ++ reportDocuments reportPath (report time loaded tally)) opened
          result = ended tally written.1 ∧ after = written.2
      else result = .error .stopped ∧ after = opened

/-! ### Sessions that write -/

open Session

variable [Json.Package]

section

variable {σ : Type} {files : σ → FileTree}

/-- A session writes these documents and does nothing else to the files. -/
def Writes (files : σ → FileTree) (trouble : FileFault → Trouble)
    (session : Session (StateM σ) Unit) (documents : List (String × Document)) : Prop :=
  ∀ tree, Meets (fun s => files s = tree) session fun result s =>
    result = (writeAll documents tree).1.mapError trouble ∧ files s = (writeAll documents tree).2

lemma writes_pure (trouble : FileFault → Trouble) :
    Writes files trouble (pure () : Session (StateM σ) Unit) [] :=
  fun _ => meets_pure fun _ hs => ⟨rfl, hs⟩

/-- What follows when all documents are written. -/
lemma Writes.bind {trouble : FileFault → Trouble} {session : Session (StateM σ) Unit}
    {documents : List (String × Document)} (h : Writes files trouble session documents)
    {α : Type} {next : Unit → Session (StateM σ) α} {tree : FileTree}
    {Q : Except Trouble α → σ → Prop}
    (hok : ∀ after, writeAll documents tree = (.ok (), after) →
      Meets (fun s => files s = after) (next ()) Q)
    (herror : ∀ fault after s, writeAll documents tree = (.error fault, after) → files s = after →
      Q (.error (trouble fault)) s) :
    Meets (fun s => files s = tree) (session >>= next) Q := by
  rcases hwritten : writeAll documents tree with ⟨fault | ⟨⟨⟩⟩, after⟩
  · refine meets_bind (h tree) (fun _ => ?_) ?_
    · rintro written s ⟨hresult, -⟩
      rw [hwritten] at hresult
      cases hresult
    · rintro trouble' s ⟨hresult, hfiles⟩
      rw [hwritten] at hresult hfiles
      obtain rfl := Except.error.inj hresult
      exact herror fault after s hwritten hfiles
  · refine meets_bind (h tree) (fun _ => ?_) ?_
    · refine (hok after hwritten).mono ?_ fun _ _ hQ => hQ
      rintro s ⟨-, hfiles⟩
      rw [hfiles, hwritten]
    · rintro trouble' s ⟨hresult, -⟩
      rw [hwritten] at hresult
      cases hresult

lemma Writes.append {trouble : FileFault → Trouble} {session session' : Session (StateM σ) Unit}
    {documents documents' : List (String × Document)} (h : Writes files trouble session documents)
    (h' : Writes files trouble session' documents') :
    Writes files trouble (session >>= fun _ => session') (documents ++ documents') := by
  intro tree
  refine h.bind ?_ ?_
  · intro after hwritten
    rw [writeAll_append, hwritten]
    exact h' after
  · intro fault after s hwritten hfiles
    rw [writeAll_append, hwritten]
    exact ⟨rfl, hfiles⟩

end

section

variable {σ : Type} [Host (StateM σ)] {files : σ → FileTree} (hserves : Serves files)

include hserves

lemma writes_text (trouble : FileFault → Trouble) (path : String) (document : Document) :
    Writes files trouble (writeText trouble path document.text) [(path, document)] := by
  intro tree
  have hwrite : Gives (fun s => files s = tree)
      (onHost (Host.writeFile path document.bytes) : Session (StateM σ) _) fun result s =>
        result = (writeAll [(path, document)] tree).1 ∧
          files s = (writeAll [(path, document)] tree).2 := by
    refine gives_onHost fun s hs => ?_
    have hrun := hserves.writeFile path document.bytes s
    rw [hs] at hrun
    unfold writeAll
    cases htree : tree.writeFile path document.bytes with
    | ok after =>
      rw [htree] at hrun
      exact hrun
    | error fault =>
      rw [htree] at hrun
      exact hrun
  refine hwrite.bind fun result => meets_demand ?_ ?_
  · rintro a s rfl ⟨hresult, hfiles⟩
    exact ⟨by rw [← hresult]; rfl, hfiles⟩
  · rintro fault s rfl ⟨hresult, hfiles⟩
    exact ⟨by rw [← hresult]; rfl, hfiles⟩

lemma writes_log (trouble : String → FileFault → Trouble) (logPath : Option String)
    (entries : List Entry) :
    Writes files (trouble (logPath.getD ""))
      (logPath.forM fun path => writeText (trouble path) path (logText entries))
      (logDocument logPath entries) := by
  cases logPath with
  | none => exact writes_pure _
  | some path => exact writes_text hserves (trouble path) path (.log entries)

lemma writes_report (console : Console) (reportPath : Option String) (r : Report) :
    Writes files .unwritten (reportPath.forM fun path => writeReport console path r)
      (reportDocuments reportPath r) := by
  cases reportPath with
  | none => exact writes_pure _
  | some path =>
    intro tree
    refine (gives_say console .info "Writing report to %s" [path] rfl).bind fun _ => ?_
    exact (writes_text hserves .unwritten path (.markdown r)).append
      (writes_text hserves .unwritten (Path.withExtension path "json") (.json r)) tree

/-- The last stage writes the log and the reports. -/
lemma meets_deliver_documents (console : Console) (reportPath logPath : Option String) (tally : Tally)
    {draft : Draft} {entries : List Entry} (hdraft : draft.outlet = logText entries) (r : Report)
    (tree : FileTree) :
    Meets (fun s => files s = tree)
      (deliver console reportPath logPath tally draft r : Session (StateM σ) String) fun result s =>
        let written := writeAll (logDocument logPath entries ++ reportDocuments reportPath r) tree
        result = ended tally written.1 ∧ files s = written.2 := by
  unfold deliver
  rw [hdraft, writeAll_append]
  refine (writes_log hserves (fun _ => .unwritten) logPath entries).bind ?_ ?_
  · intro logged hlog
    rw [hlog]
    refine (writes_report hserves console reportPath r).bind ?_ ?_
    · intro after hreport
      dsimp only
      rw [hreport, ended]
      split_ifs
      · exact meets_pure fun _ hs => ⟨rfl, hs⟩
      · exact meets_throw fun _ hs => ⟨rfl, hs⟩
    · intro fault after s hreport hfiles
      dsimp only
      rw [hreport]
      exact ⟨rfl, hfiles⟩
  · intro fault after s hlog hfiles
    rw [hlog]
    exact ⟨rfl, hfiles⟩

/-! ### The run -/

/-- Loading gives the suites that there are, or there is trouble as there are none. -/
lemma meets_loading [Digest] (console : Console) (directory : String) (tree : FileTree)
    {next : List Loaded → Session (StateM σ) String} {Q : Except Trouble String → σ → Prop}
    (hok : ∀ loaded, suitesAt tree directory = .ok loaded →
      Meets (fun s => files s = tree) (next loaded) Q)
    (herror : ∀ trouble s, suitesAt tree directory = .error trouble → files s = tree →
      Q (.error trouble) s) :
    Meets (fun s => files s = tree) (do
      let names ← demand (.inaccessible directory) (← onHost (Host.namesAt directory))
      let loaded ← load console directory (suiteNames names)
      if loaded.isEmpty then throw (.noSuites directory)
      next loaded) Q := by
  refine (gives_namesAt hserves tree directory).bind fun listed => meets_of_fact ?_
  rintro rfl
  unfold suitesAt at hok herror
  cases hnames : tree.namesAt directory with
  | error fault =>
    rw [hnames] at herror
    have hthrow : Meets (fun s => files s = tree)
        (throw (.inaccessible directory fault) : Session (StateM σ) (List String)) fun result s =>
          files s = tree ∧ result = .error (.inaccessible directory fault) :=
      meets_throw fun _ hs => ⟨hs, rfl⟩
    refine meets_bind hthrow (fun names => meets_of_fact nofun) ?_
    rintro trouble s ⟨hs, hresult⟩
    obtain rfl := Except.error.inj hresult
    exact herror _ s rfl hs
  | ok names =>
    rw [hnames] at hok herror
    have hlisted : Gives (fun s => files s = tree)
        (pure names : Session (StateM σ) (List String)) fun listed s =>
          files s = tree ∧ listed = names := gives_pure fun _ hs => ⟨hs, rfl⟩
    refine hlisted.bind fun listed => meets_of_fact ?_
    rintro rfl
    refine (gives_load_files hserves tree console directory _).bind fun loaded => meets_of_fact ?_
    intro hloaded
    have hall : loaded = loadedSuites tree directory listed := hloaded
    subst hall
    dsimp only at hok herror
    split_ifs at hok herror ⊢ with hempty
    · exact meets_throw fun s hs => herror _ s rfl hs
    · exact hok _ rfl

/-- A run ends in one of the ways in which it can, whatever the console shows. -/
lemma meets_run_ends [Digest] (console : Console) (directory : String)
    (reportPath logPath : Option String) (tree : FileTree) :
    Meets (fun s => files s = tree)
      (run console directory reportPath logPath : Session (StateM σ) String) fun result s =>
        Ends directory reportPath logPath tree result (files s) := by
  rw [run_eq]
  unfold Ends
  refine (writes_log hserves .inaccessible logPath []).bind ?_ ?_
  · intro opened hopened
    rw [hopened]
    refine (gives_say console .info "Verifying against fixtures in %s" [directory] rfl).bind
      fun _ => meets_loading hserves console directory opened ?_ ?_
    · intro loaded hloaded
      dsimp only
      rw [hloaded]
      refine meets_conclude (lasting_of_serves hserves opened) console reportPath logPath loaded ?_ ?_
      · intro hreturns s hs
        dsimp only
        rw [hreturns]
        exact ⟨rfl, hs⟩
      · intro hreturns draft entries time hdraft hcovers
        refine (meets_deliver_documents hserves console reportPath logPath _ hdraft _ opened).mono
          (fun _ hs => hs) fun result s hwritten => ?_
        dsimp only
        rw [hreturns]
        exact ⟨time, entries, hcovers, hwritten⟩
    · intro trouble s hnone hfiles
      dsimp only
      rw [hnone]
      exact ⟨rfl, hfiles⟩
  · intro fault after s hopened hfiles
    rw [hopened]
    exact ⟨rfl, hfiles⟩

/-- The command line of a verification ends as its session does, in one of these ways. -/
lemma ends_execute [Digest] [CommandLine] (s : σ) (settings : Invocation.Settings)
    {words : List String} {directory : String} {reportPath logPath : Option String}
    (hwords : CommandLine.parse words = .ok (.verify directory reportPath logPath)) :
    let session : Session (StateM σ) String :=
      (Invocation.verify directory reportPath logPath).session settings
    let ending := (Invocation.execute settings words : StateM σ Transcript).run s
    Ends directory reportPath logPath (files s) (session.runFrom "" s).1.1 (files ending.2) ∧
      ending.1.Shows (session.runFrom "" s).1.1 := by
  intro session ending
  have hending : ending = session.transcript.run s := by
    dsimp only [ending, session]
    rw [Invocation.execute, hwords]
  obtain ⟨hstate, hshows⟩ := run_transcript session s
  rw [hending, hstate]
  exact ⟨meets_run_ends hserves (.ofSettings settings.log settings.mismatch) directory reportPath
    logPath (files s) "" s rfl, hshows⟩

end

end Verification

end TypedFormat
