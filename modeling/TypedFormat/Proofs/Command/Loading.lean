import TypedFormat.Proofs.Command.Parts
import TypedFormat.Proofs.Files.Joining
import TypedFormat.Proofs.Json.Laws

/-!
# Loading suites from a tree of files

On a host that serves a tree of files (`Serves`), a run loads every suite that there is in the
directory, in the order of the names (`gives_load`). Creating the log before that makes no difference
(`loadedSuites_insert`): if it is listed at all, it is still empty then and so no suite.
-/

namespace TypedFormat

/-- A host with a tree of files that it reads and writes. What else there is to its state is left
open, and so is what its clock shows. -/
structure Serves {σ : Type} [Host (StateM σ)] (files : σ → FileTree) : Prop where
  namesAt : ∀ path s, ((Host.namesAt path : StateM σ _).run s).1 = (files s).namesAt path ∧
    files ((Host.namesAt path : StateM σ _).run s).2 = files s
  bytesAt : ∀ path s, ((Host.bytesAt path : StateM σ _).run s).1 = (files s).bytesAt path ∧
    files ((Host.bytesAt path : StateM σ _).run s).2 = files s
  writeFile : ∀ path bytes s, match (files s).writeFile path bytes with
    | .ok tree     => ((Host.writeFile path bytes : StateM σ _).run s).1 = .ok () ∧
      files ((Host.writeFile path bytes : StateM σ _).run s).2 = tree
    | .error fault => ((Host.writeFile path bytes : StateM σ _).run s).1 = .error fault ∧
      files ((Host.writeFile path bytes : StateM σ _).run s).2 = files s
  now : ∀ s, files ((Host.now : StateM σ _).run s).2 = files s

lemma Machine.serves : Serves Machine.files where
  namesAt _ _ := ⟨rfl, rfl⟩
  bytesAt _ _ := ⟨rfl, rfl⟩
  writeFile path bytes s := by
    cases hwrite : s.files.writeFile path bytes with
    | ok tree =>
      simp only [Host.writeFile, hwrite, StateT.run_bind, StateT.run_get, StateT.run_modify,
        StateT.run_pure, pure_bind]
      exact ⟨rfl, rfl⟩
    | error fault =>
      simp only [Host.writeFile, hwrite, StateT.run_bind, StateT.run_get, StateT.run_pure, pure_bind]
      exact ⟨rfl, rfl⟩
  now _ := rfl

namespace Verification

open Session

variable [Json.Package] [Digest]

/-! ### The suites in a tree -/

/-- The suite in the file of a name in a directory, if there is one. -/
def loaded? (tree : FileTree) (directory name : String) : Option Loaded := do
  let bytes ← (tree.bytesAt (Path.join directory name)).toOption
  let text ← Utf8.text? bytes
  let suite ← Suite.ofText? (String.ofList text)
  some ⟨name, Digest.hex (Digest.sha256 bytes), suite⟩

/-- The suites in a directory that lists these names. -/
def loadedSuites (tree : FileTree) (directory : String) (names : List String) : List Loaded :=
  (suiteNames names).filterMap (loaded? tree directory)

section

variable {tree : FileTree} {directory name digest : String} {suite : Suite} {trouble : Trouble}

lemma loaded?_eq_some
    (hsuite : suiteOfBytes (Path.join directory name) (tree.bytesAt (Path.join directory name))
      = .ok suite)
    (hdigest : digestOfBytes (Path.join directory name) (tree.bytesAt (Path.join directory name))
      = .ok digest) :
    loaded? tree directory name = some ⟨name, digest, suite⟩ := by
  unfold loaded?
  cases hread : tree.bytesAt (Path.join directory name) with
  | error fault =>
    rw [hread] at hdigest
    cases hdigest
  | ok bytes =>
    rw [hread] at hsuite hdigest
    obtain rfl := Except.ok.inj hdigest
    cases htext : Utf8.text? bytes with
    | none => simp [suiteOfBytes, textOfBytes, htext, Bind.bind, Except.bind] at hsuite
    | some text =>
      cases hparse : Suite.ofText? (String.ofList text) with
      | none => simp [suiteOfBytes, textOfBytes, htext, hparse, Bind.bind, Except.bind] at hsuite
      | some parsed =>
        obtain rfl : parsed = suite := by
          simpa [suiteOfBytes, textOfBytes, htext, hparse, Bind.bind, Except.bind] using hsuite
        simp [Except.toOption, htext, hparse]

lemma loaded?_eq_none_of_suite
    (h : suiteOfBytes (Path.join directory name) (tree.bytesAt (Path.join directory name))
      = .error trouble) : loaded? tree directory name = none := by
  unfold loaded?
  cases hread : tree.bytesAt (Path.join directory name) with
  | error fault => rfl
  | ok bytes =>
    rw [hread] at h
    cases htext : Utf8.text? bytes with
    | none => simp [Except.toOption, htext]
    | some text =>
      cases hparse : Suite.ofText? (String.ofList text) with
      | none => simp [Except.toOption, htext, hparse]
      | some parsed => simp [suiteOfBytes, textOfBytes, htext, hparse, Bind.bind, Except.bind] at h

/-- There is a digest of every file that can be read. -/
lemma loaded?_eq_none_of_digest
    (h : digestOfBytes (Path.join directory name) (tree.bytesAt (Path.join directory name))
      = .error trouble) : loaded? tree directory name = none := by
  unfold loaded?
  cases hread : tree.bytesAt (Path.join directory name) with
  | error fault => rfl
  | ok bytes =>
    rw [hread] at h
    cases h

end

/-! ### Names -/

section

omit [Json.Package] [Digest]

lemma mem_suiteNames_iff {names : List String} {name : String} :
    name ∈ suiteNames names ↔ name ∈ names ∧ Path.extension? name = some "json" := by
  simp [suiteNames]

lemma pairwise_suiteNames (names : List String) : (suiteNames names).Pairwise (· ≤ ·) := by
  have hsorted : (suiteNames names).Pairwise fun a b => decide (a ≤ b) = true := by
    apply List.pairwise_mergeSort
    · intro a b c hab hbc
      exact decide_eq_true (le_trans (of_decide_eq_true hab) (of_decide_eq_true hbc))
    · intro a b
      simpa using le_total a b
  exact hsorted.imp of_decide_eq_true

lemma nodup_suiteNames {names : List String} (h : names.Nodup) : (suiteNames names).Nodup :=
  (List.mergeSort_perm _ _).nodup_iff.mpr (h.filter _)

/-- Of more names, those that were there before are in the same order. -/
lemma filter_suiteNames {names names' : List String} (h : names.Nodup) (h' : names'.Nodup)
    (hsub : names ⊆ names') : (suiteNames names').filter (· ∈ names) = suiteNames names := by
  have hperm : ((suiteNames names').filter (· ∈ names)).Perm (suiteNames names) := by
    rw [List.perm_ext_iff_of_nodup ((nodup_suiteNames h').filter _) (nodup_suiteNames h)]
    intro name
    simp only [List.mem_filter, mem_suiteNames_iff, decide_eq_true_eq]
    constructor
    · rintro ⟨⟨-, hjson⟩, hname⟩
      exact ⟨hname, hjson⟩
    · rintro ⟨hname, hjson⟩
      exact ⟨⟨hsub hname, hjson⟩, hname⟩
  exact hperm.eq_of_pairwise (fun _ _ _ _ => le_antisymm) ((pairwise_suiteNames names').filter _)
    (pairwise_suiteNames names)

lemma toOption_eq_some_iff {α : Type} {result : Except FileFault α} {a : α} :
    result.toOption = some a ↔ result = .ok a := by
  cases result <;> simp [Except.toOption]

end

/-! ### The log among the suites -/

section

variable {tree : FileTree} {directory logPath : String} {place log : List String}

/-- The log that was just created is no suite, as the empty text is not JSON. -/
lemma loaded?_of_log (htexts : Json.TextLaws) {name : String}
    (hlog : tree.placeForFile logPath = .ok log) (hdirectory : tree.resolve directory = .ok place) (hname : log = place ++ [name]) :
    loaded? (tree.insert log (.file [])) directory name = none := by
  have hroom := (FileTree.hasRoom_of_placeForFile hlog).1
  -- The name is a component of the path of the log.
  obtain ⟨start, parent, last, -, -, hlast, -, hplain, hstep, -⟩ :=
    FileTree.placeForFile_eq_ok_iff.mp hlog
  simp only [not_or] at hplain
  have hsplit := FileTree.step_eq_ok hstep hplain.1 hplain.2.1
  rw [hname] at hsplit
  obtain ⟨-, hlastName⟩ := List.append_inj' hsplit rfl
  obtain rfl := List.singleton_inj.mp hlastName
  obtain ⟨hslash, hne⟩ := Path.of_mem_components (List.mem_of_getLast? hlast)
  cases hread : (tree.insert log (.file [])).bytesAt (Path.join directory name) with
  | error fault => simp [loaded?, hread, Except.toOption]
  | ok bytes =>
    obtain ⟨found, hresolve, hfound, -⟩ := FileTree.bytesAt_eq_ok_iff.mp hread
    obtain rfl := FileTree.resolve_join hslash hne hplain.1 hplain.2.1
      ((FileTree.resolve_insert_eq_ok_iff hroom).mpr hdirectory) hresolve
    rw [← hname, FileTree.find?_insert_self] at hfound
    obtain rfl := FileNode.file.inj (Option.some.inj hfound)
    have htext : Utf8.text? [] = some [] := rfl
    have hempty : Suite.ofText? "" = none := by
      rw [Suite.ofText?, htexts.tree?_empty]
      rfl
    simp [loaded?, hread, Except.toOption, htext, hempty]

/-- A file is loaded as before if another one is written. -/
lemma loaded?_insert_of_ne {name : String} {bytes : List UInt8} (hroom : tree.HasRoom log)
    (hother : tree.resolve (Path.join directory name) ≠ .ok log) :
    loaded? (tree.insert log (.file bytes)) directory name = loaded? tree directory name := by
  have hread : ((tree.insert log (.file bytes)).bytesAt (Path.join directory name)).toOption
      = (tree.bytesAt (Path.join directory name)).toOption := by
    ext found
    simp only [toOption_eq_some_iff, FileTree.bytesAt_insert_of_ne hroom hother]
  rw [loaded?, loaded?, hread]

/-- Creating the log leaves the suites in a directory as they are, if it is none of them. -/
lemma loadedSuites_insert (htexts : Json.TextLaws) {names : List String}
    (hlog : tree.placeForFile logPath = .ok log)
    (hnames : tree.namesAt directory = .ok names)
    (hother : ∀ name ∈ suiteNames names, tree.resolve (Path.join directory name) ≠ .ok log) :
    ∃ names', (tree.insert log (.file [])).namesAt directory = .ok names' ∧
      loadedSuites (tree.insert log (.file [])) directory names'
        = loadedSuites tree directory names := by
  have hroom := (FileTree.hasRoom_of_placeForFile hlog).1
  obtain ⟨place, hresolve, hdirectory, rfl⟩ := FileTree.namesAt_eq_ok_iff.mp hnames
  have hmem : ∀ name, name ∈ (tree.insert log (.file [])).names place
      ↔ name ∈ tree.names place ∨ log = place ++ [name] :=
    fun name => FileTree.mem_names_insert_iff hroom
  refine ⟨(tree.insert log (.file [])).names place, ?_, ?_⟩
  · exact FileTree.namesAt_eq_ok_iff.mpr ⟨place, (FileTree.resolve_insert_eq_ok_iff hroom).mpr hresolve,
      (FileTree.find?_insert_eq_directory_iff hroom).mpr hdirectory, rfl⟩
  -- A name that was not listed before is that of the log.
  have hnew : ∀ name ∈ suiteNames ((tree.insert log (.file [])).names place),
      ¬ (decide (name ∈ tree.names place) = true) →
        loaded? (tree.insert log (.file [])) directory name = none := by
    intro name hname hnot
    rw [mem_suiteNames_iff, hmem] at hname
    rw [decide_eq_true_eq] at hnot
    exact loaded?_of_log htexts hlog hresolve (hname.1.resolve_left hnot)
  have hnames' : (suiteNames ((tree.insert log (.file [])).names place)).filter
      (· ∈ tree.names place) = suiteNames (tree.names place) :=
    filter_suiteNames (FileTree.nodup_names place) (FileTree.nodup_names place)
      fun name hname => (hmem name).mpr (.inl hname)
  calc loadedSuites (tree.insert log (.file [])) directory ((tree.insert log (.file [])).names place)
      = ((suiteNames ((tree.insert log (.file [])).names place)).filter
          (· ∈ tree.names place)).filterMap (loaded? (tree.insert log (.file [])) directory) := by
        rw [loadedSuites, List.filterMap_filter]
        refine List.filterMap_congr fun name hname => ?_
        split_ifs with hlisted
        · rfl
        · exact hnew name hname hlisted
    _ = loadedSuites tree directory (tree.names place) := by
        rw [hnames', loadedSuites]
        exact List.filterMap_congr fun name hname => loaded?_insert_of_ne hroom (hother name hname)

end

/-! ### Reading them -/

section

variable {σ : Type} [Host (StateM σ)] {files : σ → FileTree} (h : Serves files) (tree : FileTree)

include h

omit [Json.Package] [Digest] in
lemma lasting_of_serves : Lasting fun s => files s = tree where
  namesAt path s hs := (h.namesAt path s).2.trans hs
  bytesAt path s hs := (h.bytesAt path s).2.trans hs
  now s hs := (h.now s).trans hs

omit [Json.Package] [Digest] in
lemma gives_bytesAt (path : String) :
    Gives (fun s => files s = tree) (onHost (Host.bytesAt path)) fun read s =>
      files s = tree ∧ read = tree.bytesAt path := by
  refine gives_onHost fun s hs => ?_
  obtain ⟨hread, hfiles⟩ := h.bytesAt path s
  rw [hread, hfiles, hs]
  exact ⟨rfl, rfl⟩

omit [Json.Package] [Digest] in
lemma gives_namesAt (path : String) :
    Gives (fun s => files s = tree) (onHost (Host.namesAt path)) fun names s =>
      files s = tree ∧ names = tree.namesAt path := by
  refine gives_onHost fun s hs => ?_
  obtain ⟨hread, hfiles⟩ := h.namesAt path s
  rw [hread, hfiles, hs]
  exact ⟨rfl, rfl⟩

/-- A run loads every suite that there is, in the order of the names. -/
lemma gives_load_files (console : Console) (directory : String) (names : List String) :
    Gives (fun s => files s = tree)
      (load console directory names : Session (StateM σ) (List Loaded)) fun loaded s =>
        files s = tree ∧ loaded = names.filterMap (loaded? tree directory) := by
  induction names with
  | nil => exact gives_pure fun _ hs => ⟨hs, rfl⟩
  | cons name names ih =>
    refine (gives_bytesAt h tree _).bind fun read => meets_of_fact ?_
    rintro rfl
    have hskip : loaded? tree directory name = none → ∀ trouble : Trouble,
        Gives (fun s => files s = tree) (do
          say console .warn "Skipping %s: %s" [name, trouble.message]
          load console directory names : Session (StateM σ) (List Loaded)) fun loaded s =>
            files s = tree ∧ loaded = (name :: names).filterMap (loaded? tree directory) := by
      intro hnone trouble
      rw [List.filterMap_cons_none hnone]
      exact (gives_say _ _ _ _ rfl).bind fun _ => ih
    split
    · next suite digest hsuite hdigest =>
      rw [List.filterMap_cons_some (loaded?_eq_some hsuite hdigest)]
      refine Gives.bind ih fun loaded => meets_of_fact ?_
      rintro rfl
      exact gives_pure fun _ hs => ⟨hs, rfl⟩
    · next htrouble => exact hskip (loaded?_eq_none_of_suite htrouble) _
    · next htrouble _ => exact hskip (loaded?_eq_none_of_digest htrouble) _

end

end Verification

end TypedFormat
