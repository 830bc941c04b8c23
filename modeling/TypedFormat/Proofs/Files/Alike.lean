import Mathlib
import TypedFormat.Files.FileTree

/-!
# Trees that are alike

Two trees are alike (`FileTree.Alike`) if they have files and directories at the same places, and the
bytes of each two files are related. Whether and where a file can be written does not depend on bytes,
so that trees which are alike stay so when related bytes are written to the same path
(`FileTree.Alike.writeFile`).
-/

namespace TypedFormat

variable {R : List UInt8 → List UInt8 → Prop}

/-- Both nodes are directories, or files of related bytes. -/
inductive FileNode.Alike (R : List UInt8 → List UInt8 → Prop) : FileNode → FileNode → Prop where
  | file {bytes bytes' : List UInt8} (h : R bytes bytes') : Alike R (.file bytes) (.file bytes')
  | directory : Alike R .directory .directory

lemma FileNode.Alike.eq_directory_iff {node node' : FileNode} (h : node.Alike R node') :
    node = .directory ↔ node' = .directory := by
  cases h <;> simp

/-- The same place holds nodes that are alike. -/
structure FileNode.AlikeAt (R : List UInt8 → List UInt8 → Prop)
    (entry entry' : List String × FileNode) : Prop where
  place : entry.1 = entry'.1
  node : entry.2.Alike R entry'.2

lemma FileNode.alike_lookup {nodes nodes' : List (List String × FileNode)}
    (h : List.Forall₂ (AlikeAt R) nodes nodes') (place : List String) :
    Option.Rel (Alike R) (nodes.lookup place) (nodes'.lookup place) := by
  induction h with
  | nil => exact .none
  | @cons entry entry' _ _ hentry _ ih =>
    rw [List.lookup_cons, List.lookup_cons, ← hentry.place]
    cases place == entry.1 with
    | true => exact .some hentry.node
    | false => exact ih

namespace FileTree

variable {tree tree' : FileTree}

/-- The same places hold nodes that are alike. -/
structure Alike (R : List UInt8 → List UInt8 → Prop) (tree tree' : FileTree) : Prop where
  workingDirectory : tree.workingDirectory = tree'.workingDirectory
  nodes : List.Forall₂ (FileNode.AlikeAt R) tree.nodes tree'.nodes

namespace Alike

/-- A tree is like itself. -/
lemma refl (hR : ∀ bytes, R bytes bytes) (tree : FileTree) : tree.Alike R tree where
  workingDirectory := rfl
  nodes := by
    refine List.forall₂_same.mpr fun entry _ => ⟨rfl, ?_⟩
    cases entry.2 with
    | file bytes => exact .file (hR bytes)
    | directory => exact .directory

variable (h : tree.Alike R tree')

include h

lemma places_eq : tree.places = tree'.places := by
  have hplaces : List.Forall₂ Eq (tree.nodes.map (·.1)) (tree'.nodes.map (·.1)) :=
    List.rel_map (fun _ _ hentry => hentry.place) h.nodes
  rw [List.forall₂_eq_eq_eq] at hplaces
  rw [places, places, h.workingDirectory, hplaces]

lemma find? (place : List String) :
    Option.Rel (FileNode.Alike R) (tree.find? place) (tree'.find? place) := by
  have hlookup := FileNode.alike_lookup h.nodes place
  rw [FileTree.find?, FileTree.find?, h.places_eq]
  revert hlookup
  cases tree.nodes.lookup place <;> cases tree'.nodes.lookup place <;> rintro ⟨⟩
  · dsimp only
    split_ifs
    · exact .some .directory
    · exact .none
  · next hnode => exact .some hnode

lemma directory_eq (place : List String) : tree.directory place = tree'.directory place := by
  have hfind := h.find? place
  unfold directory
  revert hfind
  cases tree.find? place <;> cases tree'.find? place <;> rintro ⟨⟩
  · rfl
  · next hnode => cases hnode <;> rfl

lemma find?_eq_directory_iff (place : List String) :
    tree.find? place = some .directory ↔ tree'.find? place = some .directory := by
  have hfind := h.find? place
  revert hfind
  cases tree.find? place <;> cases tree'.find? place <;> rintro ⟨⟩
  · rfl
  · next hnode => simp [hnode.eq_directory_iff]

lemma walk_eq (names : List String) (place : List String) :
    tree.walk place names = tree'.walk place names := by
  induction names generalizing place with
  | nil => rfl
  | cons name names ih => simp only [walk, h.directory_eq, ih]

/-- A path leads to the same place for a file, or there is the same fault. -/
lemma placeForFile_eq (path : String) : tree.placeForFile path = tree'.placeForFile path := by
  have hstart : tree.start path = tree'.start path := by
    rw [start, start, h.workingDirectory]
  simp only [placeForFile, hstart, h.walk_eq, h.directory_eq, h.find?_eq_directory_iff]

lemma insert (place : List String) {node node' : FileNode} (hnode : node.Alike R node') :
    (tree.insert place node).Alike R (tree'.insert place node') where
  workingDirectory := h.workingDirectory
  nodes := by
    refine .cons ⟨rfl, hnode⟩ (List.rel_filter ?_ h.nodes)
    intro entry entry' hentry
    dsimp only
    rw [hentry.place]

/-- A write of related bytes succeeds on both trees or fails alike, and leaves trees that are alike. -/
lemma writeFile (path : String) {bytes bytes' : List UInt8} (hbytes : R bytes bytes') :
    (∃ after after', tree.writeFile path bytes = .ok after ∧ tree'.writeFile path bytes' = .ok after' ∧
      after.Alike R after') ∨
    ∃ fault, tree.writeFile path bytes = .error fault ∧ tree'.writeFile path bytes' = .error fault := by
  rw [FileTree.writeFile, FileTree.writeFile, ← h.placeForFile_eq path]
  cases tree.placeForFile path with
  | ok place => exact .inl ⟨_, _, rfl, rfl, h.insert place (.file hbytes)⟩
  | error fault => exact .inr ⟨fault, rfl, rfl⟩

end Alike

end FileTree

end TypedFormat
