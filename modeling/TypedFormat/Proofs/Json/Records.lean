import Mathlib
import TypedFormat.Proofs.Json.Laws

/-!
# Parts of written values

Which values have numbers that come back (`Value.ComesBack`), and what a package that obeys the laws of
parts finds in the tree of a written value: the fields of a record under their names, the content of a
variant, and the items of a list.
-/

namespace TypedFormat.Json

open Package

/-! ### Free values -/

/-- A free value may nest deeper. -/
lemma Value.IsFree.mono {depth more : Nat} {v : Value} (h : v.IsFree depth) (hle : depth ≤ more) :
    v.IsFree more := by
  induction h generalizing more with
  | null => exact .null
  | boolean b => exact .boolean b
  | integer hleast hgreatest => exact .integer hleast hgreatest
  | float hx => exact .float hx
  | string s => exact .string s
  | array hitems ih =>
    obtain ⟨more, rfl⟩ := Nat.exists_eq_succ_of_ne_zero (by omega : more ≠ 0)
    exact .array fun item hitem => ih item hitem (Nat.le_of_succ_le_succ hle)
  | object hsorted hmembers ih =>
    obtain ⟨more, rfl⟩ := Nat.exists_eq_succ_of_ne_zero (by omega : more ≠ 0)
    exact .object hsorted fun member hmember => ih member hmember (Nat.le_of_succ_le_succ hle)

/-- Nothing that is finite is written as null, except null. -/
lemma Value.IsFree.tree_ne_null {depth : Nat} {v : Value} (h : v.IsFree depth) (hne : v ≠ .null) :
    v.tree ≠ .null := by
  cases h with
  | null => contradiction
  | float hx => simp [Value.tree, floatTree, hx]
  | _ => simp [Value.tree]

/-! ### Numbers that come back -/

namespace Value

variable [Package] {α : Type}

@[simp]
lemma comesBack_null : null.ComesBack := by simp [ComesBack, numbers]

@[simp]
lemma comesBack_boolean (b : Bool) : (boolean b).ComesBack := by simp [ComesBack, numbers]

@[simp]
lemma comesBack_string (s : String) : (string s).ComesBack := by simp [ComesBack, numbers]

@[simp]
lemma comesBack_integer {v : Int} :
    (integer v).ComesBack ↔ leastInteger ≤ v ∧ v ≤ greatestInteger := by
  simp [ComesBack, numbers, Number.ComesBack]

@[simp]
lemma comesBack_float {x : Binary64} :
    (float x).ComesBack ↔ (x.isFinite = true → ReadsBack x) := by
  simp [ComesBack, numbers, Number.ComesBack]

@[simp]
lemma comesBack_object {members : List (String × Value)} :
    (object members).ComesBack ↔ ∀ member ∈ members, member.2.ComesBack := by
  simp only [ComesBack, numbers, List.mem_flatMap]
  constructor
  · intro h member hmember n hn
    exact h n ⟨member, hmember, hn⟩
  · rintro h n ⟨member, hmember, hn⟩
    exact h member hmember n hn

@[simp]
lemma comesBack_array {items : List Value} :
    (array items).ComesBack ↔ ∀ item ∈ items, item.ComesBack := by
  simp only [ComesBack, numbers, List.mem_flatMap]
  constructor
  · intro h item hitem n hn
    exact h n ⟨item, hitem, hn⟩
  · rintro h n ⟨item, hitem, hn⟩
    exact h item hitem n hn

@[simp]
lemma comesBack_ofList {toValue : α → Value} {items : List α} :
    (ofList toValue items).ComesBack ↔ ∀ a ∈ items, (toValue a).ComesBack := by
  simp [ofList]

@[simp]
lemma comesBack_ofOption_string (text : Option String) : (ofOption string text).ComesBack := by
  cases text <;> simp [ofOption]

/-- The integers of a free value come back, so nothing is left to ask for but its floating point
numbers. -/
lemma IsFree.comesBack {depth : Nat} {v : Value} (h : v.IsFree depth)
    (hfloats : ∀ x, .float x ∈ v.numbers → ReadsBack x) : v.ComesBack := by
  induction h with
  | null => exact comesBack_null
  | boolean b => exact comesBack_boolean b
  | integer hleast hgreatest => exact comesBack_integer.mpr ⟨hleast, hgreatest⟩
  | float hx => exact comesBack_float.mpr fun _ => hfloats _ (by simp [numbers])
  | string s => exact comesBack_string s
  | array hitems ih =>
    refine comesBack_array.mpr fun item hitem => ih item hitem fun x hx => hfloats x ?_
    simp only [numbers, List.mem_flatMap]
    exact ⟨item, hitem, hx⟩
  | object hsorted hmembers ih =>
    refine comesBack_object.mpr fun member hmember => ih member hmember fun x hx => hfloats x ?_
    simp only [numbers, List.mem_flatMap]
    exact ⟨member, hmember, hx⟩

end Value

/-! ### Parts of records -/

/-- What is found under a key where the values are mapped. -/
lemma lookup_map_snd {α β : Type} (f : α → β) (members : List (String × α)) (name : String) :
    (members.map fun member => (member.1, f member.2)).lookup name
      = (members.lookup name).map f := by
  induction members with
  | nil => rfl
  | cons member members ih =>
    rw [List.map_cons, List.lookup_cons, List.lookup_cons, ih]
    split <;> rfl

/-- Where no key is repeated, what is found last under a key is what is found. -/
lemma lookup_reverse_tree {members : List (String × Value)} (h : (members.map Prod.fst).Nodup)
    (name : String) :
    (members.map fun member => (some member.1, member.2.tree)).reverse.lookup (some name)
      = (members.lookup name).map Value.tree := by
  induction members with
  | nil => rfl
  | cons member members ih =>
    obtain ⟨key, value⟩ := member
    rw [List.map_cons, List.nodup_cons] at h
    rw [List.map_cons, List.reverse_cons, List.lookup_append, ih h.2, List.lookup_cons]
    by_cases hkey : name = key
    · subst hkey
      have hnone : members.lookup name = none := by
        refine List.lookup_eq_none_iff.mpr fun member hmember => bne_iff_ne.mpr ?_
        rintro rfl
        exact h.1 (List.mem_map.mpr ⟨member, hmember, rfl⟩)
      simp [hnone]
    · simp [List.lookup_cons, beq_false_of_ne hkey]

namespace PartLaws

variable [Package] {α : Type}

lemma string?_string (h : PartLaws) (s : String) : string? (.string (some s)) = some s :=
  h.string?_eq_some_iff.mpr rfl

/-- A written record has the fields that were written, in the order in which they are asked for. -/
lemma fields?_tree (h : PartLaws) {members : List (String × Value)}
    (hnodup : (members.map Prod.fst).Nodup) (names : List String) :
    fields? names (Value.object members).tree
      = some (names.map fun name => (members.lookup name).map Value.tree) := by
  have hkeys : ((members.map fun member => (member.1, member.2.tree)).map Prod.fst).Nodup := by
    rw [List.map_map]
    exact hnodup
  have hread := h.fields?_object names hkeys
  rw [List.map_map] at hread
  simp only [lookup_map_snd] at hread
  rw [Value.tree]
  exact hread

/-- A written variant is its name and its content. -/
lemma variant?_tree (h : PartLaws) (name : String) (content : Value) :
    variant? (Value.object [(name, content)]).tree = some (name, content.tree) := by
  rw [Value.tree]
  exact h.variant?_object name content.tree

/-- A written list is read back if all its items are, and not at all if one of them is not. -/
lemma list?_ofList (h : PartLaws) {toValue : α → Value} {item? : Tree → Option α} {p : α → Bool}
    {items : List α}
    (hitem : ∀ a ∈ items, item? (toValue a).tree = if p a then some a else none) :
    list? item? (Value.ofList toValue items).tree = if items.all p then some items else none := by
  rw [Value.ofList, Value.tree, h.list?_array]
  induction items with
  | nil => rfl
  | cons a items ih =>
    have ha := hitem a List.mem_cons_self
    have hitems := ih fun b hb => hitem b (List.mem_cons_of_mem a hb)
    simp only [List.map_cons, List.mapM_cons, ha, hitems, List.all_cons, Bool.and_eq_true]
    by_cases hread : p a = true
    · by_cases hmore : items.all p = true
      · simp [hread, hmore]
      · simp [hread, hmore]
    · simp [hread]

/-- A list of which every item is read back. -/
lemma list?_ofList_of_forall (h : PartLaws) {toValue : α → Value} {item? : Tree → Option α}
    {items : List α} (hitem : ∀ a ∈ items, item? (toValue a).tree = some a) :
    list? item? (Value.ofList toValue items).tree = some items := by
  have hread := h.list?_ofList (p := fun _ => true) hitem
  simpa using hread

/-- Something that may be missing, and is not written as null where it is there. -/
lemma optional?_ofOption (h : PartLaws) {toValue : α → Value} {read? : Tree → Option α}
    {value : Option α}
    (hvalue : ∀ a, value = some a → (toValue a).tree ≠ .null ∧ read? (toValue a).tree = some a) :
    optional? read? (Value.ofOption toValue value).tree = some value := by
  cases value with
  | none =>
    rw [Value.ofOption, Option.elim_none, Value.tree]
    exact h.optional?_null read?
  | some a =>
    obtain ⟨hne, hread⟩ := hvalue a rfl
    rw [Value.ofOption, Option.elim_some, h.optional?_of_ne read? hne, hread]
    rfl

/-- A field that is left out where it has no value. -/
lemma optionalField?_map (h : PartLaws) {toValue : α → Value} {read? : Tree → Option α}
    {value : Option α}
    (hvalue : ∀ a, value = some a → (toValue a).tree ≠ .null ∧ read? (toValue a).tree = some a) :
    optionalField? read? (value.map (Value.tree ∘ toValue)) = some value := by
  cases value with
  | none => rfl
  | some a =>
    obtain ⟨hne, hread⟩ := hvalue a rfl
    show optional? read? (toValue a).tree = _
    rw [h.optional?_of_ne read? hne, hread]
    rfl

end PartLaws

end TypedFormat.Json
