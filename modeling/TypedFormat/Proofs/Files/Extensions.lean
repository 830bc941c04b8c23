import Mathlib
import TypedFormat.Proofs.Files.Joining
import TypedFormat.Proofs.Number.Numerals

/-!
# Paths with another extension

A path on which the extension is replaced leads to a sibling of the file to which the path leads. It
leads to the file itself just if its name has that extension already (`FileTree.exists_siblings`), in
the same letters.
-/

namespace TypedFormat

namespace Path

/-! ### Behind the last mark -/

section LastMark

variable {mark : Char} {text front back : List Char}

lemma exists_last (h : mark ∈ text) : ∃ front back, text = front ++ mark :: back ∧ mark ∉ back := by
  obtain ⟨back, front, heq, hback⟩ := List.eq_append_cons_of_mem (List.mem_reverse.mpr h)
  refine ⟨front.reverse, back.reverse, ?_, by simpa using hback⟩
  rw [← List.reverse_reverse text, heq, List.reverse_append, List.reverse_cons, List.append_assoc,
    List.singleton_append]

lemma behindLast_append (h : mark ∉ back) :
    ((front ++ mark :: back).reverse.takeWhile (· ≠ mark)).reverse = back := by
  have hreverse : (front ++ mark :: back).reverse = back.reverse ++ mark :: front.reverse := by
    rw [List.reverse_append, List.reverse_cons, List.append_assoc, List.singleton_append]
  have hback : mark ∉ back.reverse := mt List.mem_reverse.mp h
  rw [hreverse, takeWhile_run (decide_ne_of_not_mem hback) (by simp), List.reverse_reverse]

lemma behindLast_of_not_mem (h : mark ∉ text) :
    (text.reverse.takeWhile (· ≠ mark)).reverse = text := by
  have htext : mark ∉ text.reverse := mt List.mem_reverse.mp h
  rw [List.takeWhile_eq_self_iff.mpr (decide_ne_of_not_mem htext), List.reverse_reverse]

end LastMark

/-! ### Names -/

section Names

variable {name stem extension other : List Char}

lemma splitName_of_not_mem (h : '.' ∉ name) : splitName name = (name, none) := by
  unfold splitName
  rw [behindLast_of_not_mem h]
  simp

lemma splitName_point (h : '.' ∉ extension) : splitName (stem ++ '.' :: extension)
    = if stem = [] then (stem ++ '.' :: extension, none) else (stem, some extension) := by
  have hlength : (stem ++ '.' :: extension).length - extension.length - 1 = stem.length := by
    simp only [List.length_append, List.length_cons]
    omega
  unfold splitName
  rw [behindLast_append h]
  dsimp only
  rw [hlength, List.take_left]

/-- A name is its own stem, or it is a stem and an extension with a point between them. -/
lemma splitName_cases (name : List Char) : splitName name = (name, none) ∨
    ∃ stem extension, name = stem ++ '.' :: extension ∧ splitName name = (stem, some extension) := by
  by_cases hpoint : '.' ∈ name
  · obtain ⟨stem, extension, rfl, hextension⟩ := exists_last hpoint
    rw [splitName_point hextension]
    split_ifs with hstem
    · exact .inl rfl
    · exact .inr ⟨stem, extension, rfl, rfl⟩
  · exact .inl (splitName_of_not_mem hpoint)

/-- Another extension is put on the stem of a name, but the name that leads back has none. -/
lemma renamed_eq_or (name extension : List Char) : renamed name extension = ['.', '.'] ∨
    renamed name extension = (splitName name).1 ++ '.' :: extension := by
  unfold renamed
  split
  · exact .inl rfl
  · next hsplit => exact .inr (by rw [hsplit])

/-- A name keeps its text just if it has the extension already. -/
lemma renamed_eq_self_iff (hback : renamed name extension ≠ ['.', '.']) :
    renamed name extension = name ↔ (splitName name).2 = some extension := by
  rw [(renamed_eq_or name extension).resolve_left hback]
  rcases splitName_cases name with hsplit | ⟨stem, own, hname, hsplit⟩
  · rw [hsplit]
    simp
  · rw [hsplit, hname]
    simp [eq_comm]

lemma extension?_eq_some_iff {name extension : String} :
    extension? name = some extension ↔ (splitName name.toList).2 = some extension.toList := by
  unfold extension?
  cases (splitName name.toList).2 with
  | none => simp
  | some own =>
    rw [Option.map_some, Option.some_inj, Option.some_inj, ← String.toList_inj, String.toList_ofList]

lemma not_mem_renamed {c : Char} (hpoint : c ≠ '.') (hname : c ∉ name) (hextension : c ∉ extension) :
    c ∉ renamed name extension := by
  have hstem : c ∉ (splitName name).1 := by
    rcases splitName_cases name with hsplit | ⟨stem, own, rfl, hsplit⟩
    · rwa [hsplit]
    · rw [hsplit]
      exact fun hmem => hname (List.mem_append_left _ hmem)
  rcases renamed_eq_or name extension with heq | heq
  · simp [heq, hpoint]
  · simp [heq, hpoint, hstem, hextension]

lemma renamed_ne_nil : renamed name extension ≠ [] := by
  unfold renamed
  split <;> simp

end Names

/-! ### Paths -/

section Paths

variable {front back : List Char} {path extension : String}

lemma withExtension_of_not_mem (h : '/' ∉ path.toList) (extension : String) :
    withExtension path extension = String.ofList (renamed path.toList extension.toList) := by
  unfold withExtension
  dsimp only
  rw [behindLast_of_not_mem h, Nat.sub_self, List.take_zero, List.nil_append]

lemma withExtension_slash (h : '/' ∉ back) (extension : String) :
    withExtension (String.ofList (front ++ '/' :: back)) extension
      = String.ofList (front ++ '/' :: renamed back extension.toList) := by
  have hlength : (front ++ '/' :: back).length - back.length = (front ++ ['/']).length := by
    simp only [List.length_append, List.length_cons, List.length_nil]
    omega
  have htake : (front ++ '/' :: back).take ((front ++ '/' :: back).length - back.length)
      = front ++ ['/'] := by
    rw [hlength, List.append_cons front '/' back]
    exact List.take_left
  unfold withExtension
  dsimp only
  rw [String.toList_ofList, behindLast_append h, htake, List.append_assoc, List.singleton_append]

lemma isAbsolute_of_not_mem (h : '/' ∉ path.toList) : isAbsolute path = false := by
  rw [isAbsolute, beq_eq_false_iff_ne]
  exact fun hhead => h (List.mem_of_mem_head? hhead)

/-- Only the last name of a path changes with the extension. -/
lemma exists_components_withExtension (hextension : '/' ∉ extension.toList) (hpath : path ≠ "")
    (hend : endsInSlash path = false) :
    ∃ names name, components path = names ++ [name] ∧
      components (withExtension path extension)
        = names ++ [String.ofList (renamed name.toList extension.toList)] ∧
      isAbsolute (withExtension path extension) = isAbsolute path := by
  have hrenamed : ∀ {name : List Char}, '/' ∉ name →
      components (String.ofList (renamed name extension.toList))
        = [String.ofList (renamed name extension.toList)] := by
    intro name hname
    refine components_of_not_mem ?_ ?_
    · rw [String.toList_ofList]
      exact not_mem_renamed (by decide) hname hextension
    · exact fun heq => renamed_ne_nil (String.ofList_eq_empty_iff.mp heq)
  by_cases hslash : '/' ∈ path.toList
  · obtain ⟨front, back, htext, hback⟩ := exists_last hslash
    obtain rfl : path = String.ofList (front ++ '/' :: back) := by
      rw [← htext, String.ofList_toList]
    have hname : components (String.ofList back) = [String.ofList back] := by
      refine components_of_not_mem (by rwa [String.toList_ofList]) fun heq => ?_
      rw [String.ofList_eq_empty_iff.mp heq, endsInSlash, String.toList_ofList] at hend
      simp at hend
    refine ⟨components (String.ofList front), String.ofList back, ?_, ?_, ?_⟩
    · rw [components_slash, hname]
    · rw [withExtension_slash hback, components_slash, hrenamed hback, String.toList_ofList]
    · rw [withExtension_slash hback]
      unfold isAbsolute
      rw [String.toList_ofList, String.toList_ofList]
      cases front <;> rfl
  · refine ⟨[], path, components_of_not_mem hslash hpath, ?_, ?_⟩
    · rw [withExtension_of_not_mem hslash, hrenamed hslash, List.nil_append]
    · rw [withExtension_of_not_mem hslash, isAbsolute_of_not_mem hslash, isAbsolute_of_not_mem]
      rw [String.toList_ofList]
      exact not_mem_renamed (by decide) hslash hextension

end Paths

end Path

namespace FileTree

variable {tree : FileTree} {path extension : String} {place other : List String}

/-- A path with another extension leads to a sibling, which is the same file if the extension is the
same. -/
lemma exists_siblings (hextension : '/' ∉ extension.toList) (h : tree.placeForFile path = .ok place)
    (hother : tree.placeForFile (Path.withExtension path extension) = .ok other) :
    ∃ parent name sibling, (Path.components path).getLast? = some name ∧ place = parent ++ [name] ∧
      other = parent ++ [sibling] ∧ (sibling = name ↔ Path.extension? name = some extension) := by
  obtain ⟨start, parent, name, hstart, hwalk, hname, -, hplain, hstep, -⟩ := placeForFile_eq_ok_iff.mp h
  obtain ⟨start', parent', sibling, hstart', hwalk', hsibling, -, hplain', hstep', -⟩ :=
    placeForFile_eq_ok_iff.mp hother
  simp only [not_or, Bool.not_eq_true] at hplain hplain'
  obtain ⟨hnonempty, hfrom⟩ := start_eq_ok hstart
  obtain ⟨names, last, hcomponents, hcomponents', habsolute⟩ :=
    Path.exists_components_withExtension hextension hnonempty hplain.2.2
  have hfrom' := (start_eq_ok hstart').2
  rw [habsolute, ← hfrom] at hfrom'
  rw [hcomponents, List.getLast?_concat, Option.some_inj] at hname
  rw [hcomponents', List.getLast?_concat, Option.some_inj] at hsibling
  rw [hcomponents, List.dropLast_concat] at hwalk
  rw [hcomponents', List.dropLast_concat, hfrom'] at hwalk'
  obtain rfl := Except.ok.inj (hwalk.symm.trans hwalk')
  refine ⟨parent, name, sibling, ?_, step_eq_ok hstep hplain.1 hplain.2.1,
    step_eq_ok hstep' hplain'.1 hplain'.2.1, ?_⟩
  · rw [hcomponents, List.getLast?_concat, hname]
  · subst hname hsibling
    have hback : Path.renamed last.toList extension.toList ≠ ['.', '.'] := by
      intro heq
      rw [heq] at hplain'
      exact hplain'.2.1 rfl
    rw [← String.toList_inj, String.toList_ofList, Path.renamed_eq_self_iff hback,
      Path.extension?_eq_some_iff]

end FileTree

end TypedFormat
