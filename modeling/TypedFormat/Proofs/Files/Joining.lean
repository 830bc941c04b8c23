import Mathlib
import TypedFormat.Proofs.Files.Writing

/-!
# Paths of names in a directory

The components of a path have no slash in them, and a name that is joined to a directory's path is one
more component (`Path.components_join`). The joined path leads, if anywhere, to the name in the
directory (`FileTree.resolve_join`).
-/

namespace TypedFormat

namespace Path

/-! ### Pieces -/

lemma pieces_slash (text : List Char) : pieces ('/' :: text) = [] :: pieces text := rfl

/-- A character that is no slash joins the first piece. -/
lemma exists_pieces_cons {c : Char} (hc : c ≠ '/') (text : List Char) :
    ∃ piece more, pieces text = piece :: more ∧ pieces (c :: text) = (c :: piece) :: more := by
  have hne : pieces text ≠ [] := by
    cases text with
    | nil => simp [pieces]
    | cons c text =>
      rw [pieces, List.foldr_cons]
      split_ifs
      · simp
      · split <;> simp
  obtain ⟨piece, more, hpieces⟩ := List.exists_cons_of_ne_nil hne
  refine ⟨piece, more, hpieces, ?_⟩
  rw [pieces] at hpieces ⊢
  rw [List.foldr_cons, if_neg hc, hpieces]

lemma pieces_append_slash (front back : List Char) :
    pieces (front ++ '/' :: back) = pieces front ++ pieces back := by
  induction front with
  | nil => rfl
  | cons c front ih =>
    by_cases hc : c = '/'
    · rw [hc, List.cons_append, pieces_slash, pieces_slash, ih, List.cons_append]
    · obtain ⟨piece, more, hpieces, hcons⟩ := exists_pieces_cons hc front
      obtain ⟨piece', more', hpieces', hcons'⟩ := exists_pieces_cons hc (front ++ '/' :: back)
      rw [ih, hpieces, List.cons_append] at hpieces'
      obtain ⟨rfl, rfl⟩ := List.cons.inj hpieces'
      rw [List.cons_append, hcons', hcons, List.cons_append]

/-- A text without slashes is one piece. -/
lemma pieces_of_not_mem {text : List Char} (h : '/' ∉ text) : pieces text = [text] := by
  induction text with
  | nil => rfl
  | cons c text ih =>
    rw [List.mem_cons, not_or] at h
    obtain ⟨piece, more, hpieces, hcons⟩ := exists_pieces_cons (Ne.symm h.1) text
    rw [ih h.2] at hpieces
    obtain ⟨rfl, rfl⟩ := List.cons.inj hpieces
    exact hcons

lemma not_mem_of_mem_pieces {text piece : List Char} (h : piece ∈ pieces text) : '/' ∉ piece := by
  induction text generalizing piece with
  | nil =>
    obtain rfl := List.mem_singleton.mp h
    exact List.not_mem_nil
  | cons c text ih =>
    by_cases hc : c = '/'
    · rw [hc, pieces_slash, List.mem_cons] at h
      rcases h with rfl | hmem
      · exact List.not_mem_nil
      · exact ih hmem
    · obtain ⟨first, more, hpieces, hcons⟩ := exists_pieces_cons hc text
      rw [hcons, List.mem_cons] at h
      rw [hpieces] at ih
      rcases h with rfl | hmem
      · rw [List.mem_cons, not_or]
        exact ⟨Ne.symm hc, ih List.mem_cons_self⟩
      · exact ih (List.mem_cons_of_mem first hmem)

/-! ### Components -/

lemma of_mem_components {path name : String} (h : name ∈ components path) :
    '/' ∉ name.toList ∧ name ≠ "" := by
  simp only [components, List.mem_filter, List.mem_map, decide_eq_true_eq] at h
  obtain ⟨⟨piece, hmem, rfl⟩, hne⟩ := h
  rw [String.toList_ofList]
  exact ⟨not_mem_of_mem_pieces hmem, hne⟩

lemma components_slash (front back : List Char) :
    components (String.ofList (front ++ '/' :: back))
      = components (String.ofList front) ++ components (String.ofList back) := by
  simp only [components, String.toList_ofList, pieces_append_slash, List.map_append,
    List.filter_append]

lemma components_of_not_mem {name : String} (hslash : '/' ∉ name.toList) (hne : name ≠ "") :
    components name = [name] := by
  simp [components, pieces_of_not_mem hslash, hne]

/-- A joined name is one more component. -/
lemma components_join {directory name : String} (hslash : '/' ∉ name.toList) (hne : name ≠ "") :
    components (join directory name) = components directory ++ [name] := by
  have hname := components_of_not_mem hslash hne
  have hempty : components "" = [] := rfl
  unfold join
  split_ifs with hend
  · rw [Bool.or_eq_true, String.isEmpty_iff, endsInSlash, beq_iff_eq] at hend
    rcases hend with rfl | hlast
    · rw [String.empty_append, hname, hempty, List.nil_append]
    · obtain ⟨front, hfront⟩ := List.getLast?_eq_some_iff.mp hlast
      have hdirectory : directory = String.ofList (front ++ ['/']) := by
        rw [← hfront, String.ofList_toList]
      have hjoined : directory ++ name = String.ofList (front ++ '/' :: name.toList) := by
        rw [← String.toList_inj]
        simp [hfront]
      rw [hjoined, components_slash, String.ofList_toList, hname, hdirectory, components_slash]
      simp [hempty]
  · have hjoined : directory ++ "/" ++ name
        = String.ofList (directory.toList ++ '/' :: name.toList) := by
      rw [← String.toList_inj]
      simp
    rw [hjoined, components_slash, String.ofList_toList, String.ofList_toList, hname]

lemma isAbsolute_join {directory : String} (hne : directory ≠ "") (name : String) :
    isAbsolute (join directory name) = isAbsolute directory := by
  obtain ⟨c, text, htext⟩ := List.exists_cons_of_ne_nil (mt String.toList_eq_nil_iff.mp hne)
  unfold isAbsolute join
  split_ifs <;> simp [htext]

end Path

namespace FileTree

variable {tree : FileTree} {directory name : String} {place found : List String}

lemma start_eq_ok {path : String} (h : tree.start path = .ok place) :
    path ≠ "" ∧ place = if Path.isAbsolute path then [] else tree.workingDirectory := by
  unfold start at h
  split_ifs at h with hnul hempty hlong
  · simp_all
  · simp_all

/-- A joined path leads to the name in the directory, if it leads anywhere. -/
lemma resolve_join (hslash : '/' ∉ name.toList) (hne : name ≠ "") (hstay : name ≠ ".")
    (hback : name ≠ "..") (hdirectory : tree.resolve directory = .ok place)
    (h : tree.resolve (Path.join directory name) = .ok found) : found = place ++ [name] := by
  obtain ⟨start, hstart, hwalk⟩ := bind_eq_ok_iff.mp hdirectory
  obtain ⟨start', hstart', hwalk'⟩ := bind_eq_ok_iff.mp h
  obtain ⟨hnonempty, hfrom⟩ := start_eq_ok hstart
  have hfrom' := (start_eq_ok hstart').2
  rw [Path.isAbsolute_join hnonempty, ← hfrom] at hfrom'
  rw [Path.components_join hslash hne, hfrom', walk_concat_eq_ok_iff] at hwalk'
  obtain ⟨parent, hparent, -, hstep⟩ := hwalk'
  obtain rfl := Except.ok.inj (hparent.symm.trans hwalk)
  exact step_eq_ok hstep hstay hback

end FileTree

end TypedFormat
