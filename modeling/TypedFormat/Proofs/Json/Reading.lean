import Mathlib
import TypedFormat.Json.Reading
import TypedFormat.Proofs.Json.Laws

/-!
# Parts of trees

The readers of parts obey the laws of parts (`standard_partLaws`): they find in a tree what the tree
was made of, and the fields of a record in the order in which they are asked for.
-/

namespace TypedFormat.Json

open scoped TypedFormat.Standard

/-! ### Records -/

/-- Under a key that stands once there is the member that is found. -/
lemma filter_key_of_nodup {α : Type} {members : List (String × α)}
    (h : (members.map Prod.fst).Nodup) (name : String) :
    members.filter (fun member => member.1 == name)
      = ((members.lookup name).map fun content => (name, content)).toList := by
  induction members with
  | nil => rfl
  | cons member members ih =>
    obtain ⟨key, content⟩ := member
    rw [List.map_cons, List.nodup_cons] at h
    have hrest := ih h.2
    by_cases hkey : key = name
    · subst hkey
      have hnone : ∀ member ∈ members, ¬ (member.1 == key) = true := by
        intro member hmember hsame
        have hmem : member.1 ∈ members.map Prod.fst := List.mem_map_of_mem hmember
        exact h.1 (beq_iff_eq.mp hsame ▸ hmem)
      simp [List.filter_eq_nil_iff.mpr hnone]
    · simp [List.lookup_cons, hkey, beq_false_of_ne (Ne.symm hkey), hrest]

namespace Tree

lemma fields?_object (names : List String) {members : List (String × Tree)}
    (h : (members.map Prod.fst).Nodup) :
    (object (members.map fun member => (some member.1, member.2))).fields? names
      = some (names.map fun name => members.lookup name) := by
  have hsome : (members.map fun member => (some member.1, member.2)).all
      (fun member => member.1.isSome) = true := by simp
  have hfilter : ∀ name, (members.map fun member => (some member.1, member.2)).filter
      (fun member => member.1 == some name)
      = ((members.lookup name).map fun content => (some name, content)).toList := by
    intro name
    rw [List.filter_map]
    show List.map _ (members.filter fun member => member.1 == name) = _
    rw [filter_key_of_nodup h name]
    cases members.lookup name <;> rfl
  rw [fields?, if_pos hsome]
  simp only [hfilter]
  calc
    _ = names.mapM fun name => some (members.lookup name) := by
      congr 1
      funext name
      cases members.lookup name <;> rfl
    _ = _ := List.mapM_pure

end Tree

/-! ### The laws of parts -/

/-- Parts that are read in this way obey the laws of parts. -/
theorem standard_partLaws : PartLaws where
  string?_eq_some_iff {tree s} := by
    cases tree <;> simp [Package.string?, Tree.string?]
  boolean?_boolean _ := rfl
  integer?_integer hleast hgreatest := if_pos ⟨hleast, hgreatest⟩
  float?_float _ := rfl
  float?_null := rfl
  character?_string c := by simp [Package.character?, Tree.character?, Tree.string?]
  list?_array _ _ := rfl
  pair?_array _ _ _ _ := rfl
  optional?_null _ := rfl
  optional?_of_ne _ tree h := by
    cases tree
    case null => contradiction
    all_goals rfl
  constant?_string _ := rfl
  variant?_object _ _ := rfl
  fields?_object := Tree.fields?_object

end TypedFormat.Json
