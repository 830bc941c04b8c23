import Mathlib
import TypedFormat.Files.FileTree

/-!
# What writing a file changes

A file that is written where there is room for it (`FileTree.HasRoom`) is read back, and nothing else
changes: every other place holds what it held, every path leads to the same place, and a directory
lists the same names, and perhaps that of the file.
-/

namespace TypedFormat.FileTree

variable {tree : FileTree} {place other : List String} {node : FileNode} {bytes : List UInt8}
  {path name : String}

/-! ### Places -/

/-- A place where a file can stand: it is no directory, and the one before it is. -/
structure HasRoom (tree : FileTree) (place : List String) : Prop where
  exists_parent : ∃ parent name, place = parent ++ [name] ∧ tree.find? parent = some .directory
  not_directory : tree.find? place ≠ some .directory

lemma find?_insert_self : (tree.insert place node).find? place = some node := by
  rw [find?, insert, List.lookup_cons_self]

/-- A directory is on the way to a place that is known to exist. -/
lemma exists_places_of_directory (h : tree.find? place = some .directory) :
    ∃ other ∈ tree.places, place <+: other := by
  unfold find? at h
  split at h
  · next hlookup =>
    obtain ⟨before, after, hnodes, -⟩ := List.lookup_eq_some_iff.mp hlookup
    refine ⟨place, ?_, List.prefix_rfl⟩
    simp [places, hnodes]
  · split_ifs at h with hany
    obtain ⟨other, hmem, hpart⟩ := List.any_eq_true.mp hany
    exact ⟨other, hmem, List.isPrefixOf_iff_prefix.mp hpart⟩

lemma mem_places_insert :
    other ∈ (tree.insert place node).places ↔ other ∈ tree.places ∨ other = place := by
  by_cases hother : other = place
  · simp [places, insert, hother]
  · simp [places, insert, hother]

lemma lookup_filter_ne (nodes : List (List String × FileNode)) (hne : other ≠ place) :
    (nodes.filter fun entry => decide (entry.1 ≠ place)).lookup other = nodes.lookup other := by
  induction nodes with
  | nil => rfl
  | cons entry nodes ih =>
    by_cases hentry : entry.1 = place
    · have hfalse : (other == entry.1) = false := beq_false_of_ne (hentry ▸ hne)
      rw [List.filter_cons_of_neg (by simpa using hentry), ih, List.lookup_cons, hfalse]
    · rw [List.filter_cons_of_pos (by simpa using hentry), List.lookup_cons, List.lookup_cons, ih]

/-- Every other place holds what it held. -/
lemma find?_insert_of_ne (hroom : tree.HasRoom place) (hne : other ≠ place) :
    (tree.insert place node).find? other = tree.find? other := by
  have hlookup : (tree.insert place node).nodes.lookup other = tree.nodes.lookup other := by
    rw [insert, List.lookup_cons, beq_false_of_ne hne]
    exact lookup_filter_ne tree.nodes hne
  -- What is on the way to the file is on the way to a place that existed before.
  have hplaces : (tree.insert place node).places.any other.isPrefixOf
      = tree.places.any other.isPrefixOf := by
    rw [Bool.eq_iff_iff]
    simp only [List.any_eq_true, mem_places_insert, List.isPrefixOf_iff_prefix]
    constructor
    · rintro ⟨past, hmem | rfl, hpart⟩
      · exact ⟨past, hmem, hpart⟩
      · obtain ⟨parent, name, rfl, hparent⟩ := hroom.exists_parent
        obtain ⟨past, hmem, hpast⟩ := exists_places_of_directory hparent
        rcases List.prefix_concat_iff.mp hpart with heq | hpart
        · exact absurd heq hne
        · exact ⟨past, hmem, hpart.trans hpast⟩
    · rintro ⟨past, hmem, hpart⟩
      exact ⟨past, .inl hmem, hpart⟩
  rw [find?, find?, hlookup, hplaces]

lemma find?_insert_eq_directory_iff (hroom : tree.HasRoom place) :
    (tree.insert place (.file bytes)).find? other = some .directory
      ↔ tree.find? other = some .directory := by
  by_cases hne : other = place
  · subst hne
    rw [find?_insert_self]
    exact iff_of_false (by simp) hroom.not_directory
  · rw [find?_insert_of_ne hroom hne]

/-- Where there is room for a file, there still is when another one is written. -/
lemma HasRoom.insert (hother : tree.HasRoom other) (hroom : tree.HasRoom place) :
    (tree.insert place (.file bytes)).HasRoom other := by
  obtain ⟨parent, name, heq, hparent⟩ := hother.exists_parent
  refine ⟨⟨parent, name, heq, (find?_insert_eq_directory_iff hroom).mpr hparent⟩, ?_⟩
  rw [Ne, find?_insert_eq_directory_iff hroom]
  exact hother.not_directory

/-! ### Paths -/

section Paths

variable {found : List String} {names : List String}

lemma bind_eq_ok_iff {α β : Type} {result : Except FileFault α} {next : α → Except FileFault β}
    {b : β} : (result >>= next) = .ok b ↔ ∃ a, result = .ok a ∧ next a = .ok b := by
  cases result with
  | error fault => simp [Bind.bind, Except.bind]
  | ok a => simp [Bind.bind, Except.bind]

lemma directory_eq_ok_iff :
    tree.directory place = .ok found ↔ tree.find? place = some .directory ∧ place = found := by
  unfold directory
  split <;> simp_all

lemma walk_cons_eq_ok_iff :
    tree.walk place (name :: names) = .ok found ↔ tree.find? place = some .directory ∧
      ∃ next, step place name = .ok next ∧ tree.walk next names = .ok found := by
  rw [walk]
  simp only [bind_eq_ok_iff, directory_eq_ok_iff]
  constructor
  · rintro ⟨_, ⟨hdirectory, rfl⟩, next, hstep, hwalk⟩
    exact ⟨hdirectory, next, hstep, hwalk⟩
  · rintro ⟨hdirectory, next, hstep, hwalk⟩
    exact ⟨place, ⟨hdirectory, rfl⟩, next, hstep, hwalk⟩

lemma walk_nil_eq_ok_iff : tree.walk place [] = .ok found ↔ place = found := by
  simp [walk]

/-- The last step of a way. -/
lemma walk_concat_eq_ok_iff :
    tree.walk place (names ++ [name]) = .ok found ↔ ∃ parent, tree.walk place names = .ok parent ∧
      tree.find? parent = some .directory ∧ step parent name = .ok found := by
  induction names generalizing place with
  | nil => simp [walk_cons_eq_ok_iff, walk_nil_eq_ok_iff]
  | cons first names ih =>
    simp only [List.cons_append, walk_cons_eq_ok_iff, ih]
    constructor
    · rintro ⟨hdirectory, next, hstep, parent, hwalk, hlast⟩
      exact ⟨parent, ⟨hdirectory, next, hstep, hwalk⟩, hlast⟩
    · rintro ⟨parent, ⟨hdirectory, next, hstep, hwalk⟩, hlast⟩
      exact ⟨hdirectory, next, hstep, parent, hwalk, hlast⟩

lemma walk_insert_eq_ok_iff (hroom : tree.HasRoom place) {start : List String} :
    (tree.insert place (.file bytes)).walk start names = .ok found
      ↔ tree.walk start names = .ok found := by
  induction names generalizing start with
  | nil => rfl
  | cons name names ih => simp only [walk_cons_eq_ok_iff, ih, find?_insert_eq_directory_iff hroom]

/-- Every path leads to the same place. -/
lemma resolve_insert_eq_ok_iff (hroom : tree.HasRoom place) :
    (tree.insert place (.file bytes)).resolve path = .ok found ↔ tree.resolve path = .ok found := by
  have hstart : (tree.insert place (.file bytes)).start path = tree.start path := rfl
  simp only [resolve, bind_eq_ok_iff, hstart, walk_insert_eq_ok_iff hroom]

lemma step_eq_ok {parent : List String} (h : step parent name = .ok place) (hstay : name ≠ ".")
    (hback : name ≠ "..") : place = parent ++ [name] := by
  unfold step at h
  rw [if_neg hstay, if_neg hback] at h
  split_ifs at h
  exact (Except.ok.inj h).symm

/-! ### Files -/

lemma bytesAt_eq_ok_iff : tree.bytesAt path = .ok bytes ↔ ∃ place, tree.resolve path = .ok place ∧
    tree.find? place = some (.file bytes) ∧ Path.endsInSlash path = false := by
  unfold bytesAt
  rw [bind_eq_ok_iff]
  refine exists_congr fun place => and_congr_right fun _ => ?_
  cases tree.find? place with
  | none => simp
  | some node =>
    cases node with
    | directory => simp
    | file found => cases Path.endsInSlash path <;> simp

/-- The file at another place reads as before. -/
lemma bytesAt_insert_of_ne (hroom : tree.HasRoom place) (hne : tree.resolve path ≠ .ok place)
    {found : List UInt8} :
    (tree.insert place (.file bytes)).bytesAt path = .ok found ↔ tree.bytesAt path = .ok found := by
  simp only [bytesAt_eq_ok_iff, resolve_insert_eq_ok_iff hroom]
  refine exists_congr fun other => and_congr_right fun hresolve => ?_
  have hother : other ≠ place := by
    rintro rfl
    exact hne hresolve
  rw [find?_insert_of_ne hroom hother]

lemma placeForFile_eq_ok_iff :
    tree.placeForFile path = .ok place ↔ ∃ start parent name, tree.start path = .ok start ∧
      tree.walk start (Path.components path).dropLast = .ok parent ∧
      (Path.components path).getLast? = some name ∧ tree.find? parent = some .directory ∧
      ¬ (name = "." ∨ name = ".." ∨ Path.endsInSlash path = true) ∧
      step parent name = .ok place ∧ tree.find? place ≠ some .directory := by
  unfold placeForFile
  constructor
  · intro h
    obtain ⟨start, hstart, h⟩ := bind_eq_ok_iff.mp h
    obtain ⟨parent, hwalk, h⟩ := bind_eq_ok_iff.mp h
    cases hname : (Path.components path).getLast? with
    | none =>
      rw [hname] at h
      cases h
    | some name =>
      rw [hname] at h
      obtain ⟨_, hfound, h⟩ := bind_eq_ok_iff.mp h
      obtain ⟨hparent, rfl⟩ := directory_eq_ok_iff.mp hfound
      split_ifs at h with hplain
      obtain ⟨_, hstep, h⟩ := bind_eq_ok_iff.mp h
      split_ifs at h with hdirectory
      obtain rfl := Except.ok.inj h
      exact ⟨start, parent, name, hstart, hwalk, rfl, hparent, hplain, hstep, hdirectory⟩
  · rintro ⟨start, parent, name, hstart, hwalk, hname, hparent, hplain, hstep, hdirectory⟩
    refine bind_eq_ok_iff.mpr ⟨start, hstart, bind_eq_ok_iff.mpr ⟨parent, hwalk, ?_⟩⟩
    rw [hname]
    refine bind_eq_ok_iff.mpr ⟨parent, directory_eq_ok_iff.mpr ⟨hparent, rfl⟩, ?_⟩
    rw [if_neg hplain]
    exact bind_eq_ok_iff.mpr ⟨place, hstep, if_neg hdirectory⟩

/-- The place for a file has room for it, and the path leads there. -/
lemma hasRoom_of_placeForFile (h : tree.placeForFile path = .ok place) :
    tree.HasRoom place ∧ tree.resolve path = .ok place ∧ Path.endsInSlash path = false := by
  obtain ⟨start, parent, name, hstart, hwalk, hname, hparent, hplain, hstep, hdirectory⟩ :=
    placeForFile_eq_ok_iff.mp h
  simp only [not_or] at hplain
  obtain ⟨hstay, hback, hslash⟩ := hplain
  have hcomponents : (Path.components path).dropLast ++ [name] = Path.components path :=
    List.dropLast_append_getLast? name hname
  have hplace := step_eq_ok hstep hstay hback
  refine ⟨⟨⟨parent, name, hplace, hparent⟩, hdirectory⟩, ?_, by simpa using hslash⟩
  have hfound : tree.walk start (Path.components path) = .ok place := by
    rw [← hcomponents, walk_concat_eq_ok_iff]
    exact ⟨parent, hwalk, hparent, hstep⟩
  exact bind_eq_ok_iff.mpr ⟨start, hstart, hfound⟩

/-- A written file is read back. -/
lemma bytesAt_insert_self (h : tree.placeForFile path = .ok place) :
    (tree.insert place (.file bytes)).bytesAt path = .ok bytes := by
  obtain ⟨hroom, hresolve, hslash⟩ := hasRoom_of_placeForFile h
  rw [bytesAt_eq_ok_iff]
  exact ⟨place, (resolve_insert_eq_ok_iff hroom).mpr hresolve, find?_insert_self, hslash⟩

/-- The place for a file at a path stays the same when another file is written. -/
lemma placeForFile_insert_eq_ok_iff (hroom : tree.HasRoom place) :
    (tree.insert place (.file bytes)).placeForFile path = .ok other
      ↔ tree.placeForFile path = .ok other := by
  have hstart : (tree.insert place (.file bytes)).start path = tree.start path := rfl
  simp only [placeForFile_eq_ok_iff, hstart, walk_insert_eq_ok_iff hroom, Ne,
    find?_insert_eq_directory_iff hroom]

lemma placeForFile_insert (hroom : tree.HasRoom place) (h : tree.placeForFile path = .ok other) :
    (tree.insert place (.file bytes)).placeForFile path = .ok other :=
  (placeForFile_insert_eq_ok_iff hroom).mpr h

/-- A file stays as it is when one is written at another place. -/
lemma bytesAt_insert_of_placeForFile (hroom : tree.HasRoom place)
    (h : tree.placeForFile path = .ok other) (hne : other ≠ place) {found : List UInt8} :
    (tree.insert place (.file bytes)).bytesAt path = .ok found ↔ tree.bytesAt path = .ok found := by
  apply bytesAt_insert_of_ne hroom
  rw [(hasRoom_of_placeForFile h).2.1]
  exact fun heq => hne (Except.ok.inj heq)

lemma writeFile_eq_ok (h : tree.placeForFile path = .ok place) (bytes : List UInt8) :
    tree.writeFile path bytes = .ok (tree.insert place (.file bytes)) := by
  rw [writeFile, h]
  rfl

lemma writeFile_eq_ok_iff {after : FileTree} : tree.writeFile path bytes = .ok after ↔
    ∃ place, tree.placeForFile path = .ok place ∧ after = tree.insert place (.file bytes) := by
  rw [writeFile, bind_eq_ok_iff]
  refine exists_congr fun place => and_congr_right fun _ => ?_
  exact ⟨fun h => (Except.ok.inj h).symm, fun h => h ▸ rfl⟩

end Paths

/-! ### Listings -/

lemma nodup_eraseDups {α : Type} [BEq α] [LawfulBEq α] (items : List α) : items.eraseDups.Nodup := by
  induction hn : items.length using Nat.strongRecOn generalizing items with
  | _ n ih =>
    cases items with
    | nil => exact List.nodup_nil
    | cons item items =>
      have hlt : (items.filter fun other => !other == item).length < n := by
        rw [← hn, List.length_cons]
        exact Nat.lt_succ_of_le (List.length_filter_le _ _)
      rw [List.eraseDups_cons, List.nodup_cons]
      refine ⟨?_, ih _ hlt _ rfl⟩
      simp [List.mem_eraseDups]

/-- A directory lists every name once. -/
lemma nodup_names (directory : List String) : (tree.names directory).Nodup :=
  nodup_eraseDups _

/-- The listing of the directory to which a path leads. -/
lemma namesAt_eq_ok_iff {names : List String} : tree.namesAt path = .ok names ↔
    ∃ place, tree.resolve path = .ok place ∧ tree.find? place = some .directory ∧
      names = tree.names place := by
  unfold namesAt
  simp only [bind_eq_ok_iff, directory_eq_ok_iff]
  constructor
  · rintro ⟨place, hresolve, _, ⟨hdirectory, rfl⟩, hnames⟩
    exact ⟨place, hresolve, hdirectory, (Except.ok.inj hnames).symm⟩
  · rintro ⟨place, hresolve, hdirectory, rfl⟩
    exact ⟨place, hresolve, place, ⟨hdirectory, rfl⟩, rfl⟩

lemma mem_names_iff {directory : List String} :
    name ∈ tree.names directory ↔ ∃ rest, directory ++ name :: rest ∈ tree.places := by
  simp only [names, List.mem_eraseDups, List.mem_filterMap]
  constructor
  · rintro ⟨other, hmem, hname⟩
    split_ifs at hname with hpart
    obtain ⟨rest, rfl⟩ := List.isPrefixOf_iff_prefix.mp hpart
    rw [List.drop_left] at hname
    obtain ⟨rest, rfl⟩ := List.head?_eq_some_iff.mp hname
    exact ⟨rest, hmem⟩
  · rintro ⟨rest, hmem⟩
    have hpart : directory.isPrefixOf (directory ++ name :: rest) = true :=
      List.isPrefixOf_iff_prefix.mpr (List.prefix_append _ _)
    refine ⟨_, hmem, ?_⟩
    rw [if_pos hpart, List.drop_left, List.head?_cons]

/-- A directory lists the same names, and that of a file that is written in it. -/
lemma mem_names_insert_iff (hroom : tree.HasRoom place) {directory : List String} :
    name ∈ (tree.insert place node).names directory
      ↔ name ∈ tree.names directory ∨ place = directory ++ [name] := by
  simp only [mem_names_iff, mem_places_insert]
  constructor
  · rintro ⟨rest, hmem | rfl⟩
    · exact .inl ⟨rest, hmem⟩
    · -- Further down than in the directory itself, the file's own directory is found on the way.
      obtain ⟨parent, last, hplace, hparent⟩ := hroom.exists_parent
      obtain rfl | ⟨rest', last', rfl⟩ := rest.eq_nil_or_concat
      · exact .inr rfl
      · have hsplit : (directory ++ name :: rest') ++ [last'] = parent ++ [last] := by
          simpa using hplace
        obtain ⟨rfl, -⟩ := List.append_inj' hsplit rfl
        obtain ⟨_, hmem, more, rfl⟩ := exists_places_of_directory hparent
        exact .inl ⟨rest' ++ more, by simpa using hmem⟩
  · rintro (⟨rest, hmem⟩ | rfl)
    · exact ⟨rest, .inl hmem⟩
    · exact ⟨[], .inr rfl⟩

end TypedFormat.FileTree
