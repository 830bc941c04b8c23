import Mathlib
import TypedFormat.Proofs.Json.Compact
import TypedFormat.Proofs.Json.Reading

/-!
# Values of any kind

A value that can stand free is read back from its tree (`Value.IsFree.value?_tree`), and what is read
can stand free (`Tree.isFree_of_value?`). An object that is not sorted is read with its members sorted,
and of two members with one key the later stays (`Tree.lookup_members?`). So the laws of values hold
too (`standard_laws`).
-/

namespace TypedFormat.Json

open scoped TypedFormat.Standard

/-! ### Members in their places -/

namespace Tree

/-- The members with one more in its place. -/
def insert (members : List (String × Value)) (member : String × Value) : List (String × Value) :=
  insertMember member.1 member.2 members

/-- A key past all others goes to the end. -/
lemma insertMember_of_lt {key : String} {value : Value} {members : List (String × Value)}
    (h : ∀ k ∈ members.map Prod.fst, k < key) :
    insertMember key value members = members ++ [(key, value)] := by
  induction members with
  | nil => rfl
  | cons member members ih =>
    obtain ⟨k, v⟩ := member
    have hk : k < key := h k List.mem_cons_self
    have hmembers := ih fun k' hk' => h k' (List.mem_cons_of_mem k hk')
    rw [insertMember, if_neg (lt_asymm hk), if_neg hk.ne', hmembers, List.cons_append]

/-- Members that are sorted already stay as they are. -/
lemma foldl_insert_of_pairwise {before members : List (String × Value)}
    (h : ((before ++ members).map Prod.fst).Pairwise (· < ·)) :
    members.foldl insert before = before ++ members := by
  induction members generalizing before with
  | nil => simp
  | cons member members ih =>
    have hbefore : ∀ k ∈ before.map Prod.fst, k < member.1 := by
      intro k hk
      rw [List.map_append, List.map_cons, List.pairwise_append] at h
      exact h.2.2 k hk member.1 List.mem_cons_self
    have hinsert : insert before member = before ++ [member] := insertMember_of_lt hbefore
    rw [List.foldl_cons, hinsert, ih (by simpa using h)]
    simp

/-! ### Values -/

variable {depth : Nat}

lemma values?_map_tree {items : List Value}
    (h : ∀ item ∈ items, item.tree.value? depth = some item) :
    values? depth (items.map fun item => item.tree) = some items := by
  induction items with
  | nil => simp [values?]
  | cons item items ih =>
    have hitems := ih fun other hother => h other (List.mem_cons_of_mem item hother)
    simp [values?, h item List.mem_cons_self, hitems]

lemma members?_map_tree {members : List (String × Value)}
    (h : ∀ member ∈ members, member.2.tree.value? depth = some member.2)
    (before : List (String × Value)) :
    members? depth before (members.map fun member => (some member.1, member.2.tree))
      = some (members.foldl insert before) := by
  induction members generalizing before with
  | nil => simp [members?]
  | cons member members ih =>
    have hmembers := ih fun other hother => h other (List.mem_cons_of_mem member hother)
    simp [members?, h member List.mem_cons_self, hmembers, insert]

/-! ### Numbers -/

lemma numberValue?_integer {v : Int} (hleast : leastInteger ≤ v) (hgreatest : v ≤ greatestInteger) :
    numberValue? (.integer v) = some (.integer v) :=
  if_pos ⟨hleast, hgreatest⟩

lemma numberValue?_float {x : Binary64} (hx : x.isFinite = true) :
    numberValue? (.float x) = some (.float x) := by
  rw [numberValue?, if_pos hx]

lemma isFree_of_numberValue? {n : Number} {v : Value} (h : numberValue? n = some v) (depth : Nat) :
    v.IsFree depth := by
  cases n with
  | integer i =>
    rw [numberValue?] at h
    split_ifs at h with hbounds
    obtain rfl := Option.some.inj h
    exact .integer hbounds.1 hbounds.2
  | float x =>
    obtain rfl := Option.some.inj h
    split_ifs with hx
    · exact .float hx
    · exact .null

end Tree

/-- A free value is read back from its tree. -/
lemma Value.IsFree.value?_tree {depth : Nat} {v : Value} (h : v.IsFree depth) :
    v.tree.value? depth = some v := by
  induction h with
  | null => simp [tree, Tree.value?]
  | boolean b => simp [tree, Tree.value?]
  | integer hleast hgreatest => simp [tree, Tree.value?, Tree.numberValue?_integer hleast hgreatest]
  | float hx => simp [tree, floatTree, hx, Tree.value?, Tree.numberValue?_float hx]
  | string s => simp [tree, Tree.value?]
  | array hitems ih => simp [tree, Tree.value?, Tree.values?_map_tree ih]
  | object hsorted hmembers ih =>
    have hread := Tree.members?_map_tree ih []
    rw [Tree.foldl_insert_of_pairwise (by simpa using hsorted), List.nil_append] at hread
    simp [tree, Tree.value?, hread]

/-! ### What is read is free -/

namespace Tree

variable {depth : Nat}

lemma mem_insertMember {key : String} {value : Value} {members : List (String × Value)}
    {member : String × Value} (h : member ∈ insertMember key value members) :
    member = (key, value) ∨ member ∈ members := by
  induction members with
  | nil => exact .inl (List.mem_singleton.mp h)
  | cons first members ih =>
    obtain ⟨k, v⟩ := first
    rw [insertMember] at h
    split_ifs at h
    · exact List.mem_cons.mp h
    · exact (List.mem_cons.mp h).imp_right (List.mem_cons_of_mem _)
    · rcases List.mem_cons.mp h with hfirst | hrest
      · exact .inr (hfirst ▸ List.mem_cons_self)
      · exact (ih hrest).imp_right (List.mem_cons_of_mem _)

/-- Members stay sorted when one is put in its place. -/
lemma pairwise_insertMember (key : String) (value : Value) {members : List (String × Value)}
    (h : (members.map Prod.fst).Pairwise (· < ·)) :
    ((insertMember key value members).map Prod.fst).Pairwise (· < ·) := by
  induction members with
  | nil => exact List.pairwise_singleton _ _
  | cons first members ih =>
    obtain ⟨k, v⟩ := first
    have hrest := List.pairwise_cons.mp h
    rw [insertMember]
    split_ifs with hlt heq
    · exact List.pairwise_cons.mpr ⟨List.forall_mem_cons.mpr
        ⟨hlt, fun k' hk' => lt_trans hlt (hrest.1 k' hk')⟩, h⟩
    · exact heq ▸ h
    · refine List.pairwise_cons.mpr ⟨fun k' hk' => ?_, ih hrest.2⟩
      obtain ⟨member, hmember, rfl⟩ := List.mem_map.mp hk'
      rcases mem_insertMember hmember with rfl | hold
      · exact lt_of_le_of_ne (not_lt.mp hlt) (Ne.symm heq)
      · exact hrest.1 _ (List.mem_map_of_mem hold)

mutual

/-- A value that was read can stand free. -/
theorem isFree_of_value? {depth : Nat} {v : Value} (tree : Tree) (h : tree.value? depth = some v) :
    v.IsFree depth := by
  match tree, depth with
  | .null, _ =>
    obtain rfl : Value.null = v := by simpa [value?] using h
    exact .null
  | .boolean b, _ =>
    obtain rfl : Value.boolean b = v := by simpa [value?] using h
    exact .boolean b
  | .number n, depth =>
    obtain ⟨number, -, hnumber⟩ := Option.bind_eq_some_iff.mp (by simpa [value?] using h)
    exact isFree_of_numberValue? hnumber depth
  | .string s, _ =>
    obtain ⟨text, -, rfl⟩ : ∃ text, s = some text ∧ Value.string text = v := by
      simpa [value?] using h
    exact .string text
  | .array items, 0 => simp [value?] at h
  | .array items, depth + 1 =>
    obtain ⟨values, hvalues, rfl⟩ : ∃ values, values? depth items = some values ∧
      Value.array values = v := by simpa [value?] using h
    exact .array (isFree_of_values? items hvalues)
  | .object members, 0 => simp [value?] at h
  | .object members, depth + 1 =>
    obtain ⟨values, hvalues, rfl⟩ : ∃ values, members? depth [] members = some values ∧
      Value.object values = v := by simpa [value?] using h
    obtain ⟨hsorted, hfree⟩ := isFree_of_members? members List.Pairwise.nil (by simp) hvalues
    exact .object hsorted hfree

theorem isFree_of_values? {depth : Nat} {values : List Value} (items : List Tree)
    (h : values? depth items = some values) : ∀ v ∈ values, v.IsFree depth := by
  match items with
  | [] =>
    obtain rfl : [] = values := by simpa [values?] using h
    simp
  | item :: items =>
    obtain ⟨v, hv, more, hmore, rfl⟩ : ∃ v, item.value? depth = some v ∧
      ∃ more, values? depth items = some more ∧ v :: more = values := by
      simpa [values?, Option.bind_eq_some_iff] using h
    exact List.forall_mem_cons.mpr ⟨isFree_of_value? item hv, isFree_of_values? items hmore⟩

theorem isFree_of_members? {depth : Nat} {before values : List (String × Value)}
    (members : List (Option String × Tree)) (hsorted : (before.map Prod.fst).Pairwise (· < ·))
    (hfree : ∀ member ∈ before, member.2.IsFree depth)
    (h : members? depth before members = some values) :
    (values.map Prod.fst).Pairwise (· < ·) ∧ ∀ member ∈ values, member.2.IsFree depth := by
  match members with
  | [] =>
    obtain rfl : before = values := by simpa [members?] using h
    exact ⟨hsorted, hfree⟩
  | (key, tree) :: members =>
    obtain ⟨name, rfl, v, hv, hmore⟩ : ∃ name, key = some name ∧
      ∃ v, tree.value? depth = some v ∧
        members? depth (insertMember name v before) members = some values := by
      simpa [members?, Option.bind_eq_some_iff] using h
    refine isFree_of_members? members (pairwise_insertMember name v hsorted) ?_ hmore
    intro member hmember
    rcases mem_insertMember hmember with rfl | hold
    · exact isFree_of_value? tree hv
    · exact hfree member hold

end

/-! ### Depth -/

mutual

/-- A value that is read may nest as deep or deeper. -/
theorem value?_succ {depth : Nat} {v : Value} (tree : Tree) (h : tree.value? depth = some v) :
    tree.value? (depth + 1) = some v := by
  match tree, depth with
  | .null, _ => simpa [value?] using h
  | .boolean b, _ => simpa [value?] using h
  | .number n, _ => simpa [value?] using h
  | .string s, _ => simpa [value?] using h
  | .array items, 0 => simp [value?] at h
  | .array items, depth + 1 =>
    obtain ⟨values, hvalues, rfl⟩ : ∃ values, values? depth items = some values ∧
      Value.array values = v := by simpa [value?] using h
    simp [value?, values?_succ items hvalues]
  | .object members, 0 => simp [value?] at h
  | .object members, depth + 1 =>
    obtain ⟨values, hvalues, rfl⟩ : ∃ values, members? depth [] members = some values ∧
      Value.object values = v := by simpa [value?] using h
    simp [value?, members?_succ members hvalues]

theorem values?_succ {depth : Nat} {values : List Value} (items : List Tree)
    (h : values? depth items = some values) : values? (depth + 1) items = some values := by
  match items with
  | [] => simpa [values?] using h
  | item :: items =>
    obtain ⟨v, hv, more, hmore, rfl⟩ : ∃ v, item.value? depth = some v ∧
      ∃ more, values? depth items = some more ∧ v :: more = values := by
      simpa [values?, Option.bind_eq_some_iff] using h
    simp [values?, value?_succ item hv, values?_succ items hmore]

theorem members?_succ {depth : Nat} {before values : List (String × Value)}
    (members : List (Option String × Tree)) (h : members? depth before members = some values) :
    members? (depth + 1) before members = some values := by
  match members with
  | [] => simpa [members?] using h
  | (key, tree) :: members =>
    obtain ⟨name, rfl, v, hv, hmore⟩ : ∃ name, key = some name ∧
      ∃ v, tree.value? depth = some v ∧
        members? depth (insertMember name v before) members = some values := by
      simpa [members?, Option.bind_eq_some_iff] using h
    simp [members?, value?_succ tree hv, members?_succ members hmore]

end

/-! ### Keys -/

lemma lookup_insertMember (key k : String) (value : Value) (members : List (String × Value)) :
    (insertMember key value members).lookup k
      = if k = key then some value else members.lookup k := by
  induction members with
  | nil =>
    rw [insertMember, List.lookup_cons]
    split <;> simp_all
  | cons member members ih =>
    obtain ⟨k', v⟩ := member
    rw [insertMember]
    split_ifs with hlt hk heq hk hk
    · rw [hk, List.lookup_cons_self]
    · rw [List.lookup_cons, beq_false_of_ne hk]
    · rw [hk, List.lookup_cons_self]
    · rw [List.lookup_cons, List.lookup_cons, beq_false_of_ne hk, ← heq, beq_false_of_ne hk]
    · rw [List.lookup_cons, ih, if_pos hk, hk, beq_false_of_ne heq]
    · rw [List.lookup_cons, List.lookup_cons, ih, if_neg hk]

/-- Under each key the last member with that key counts. -/
lemma lookup_members? {depth : Nat} {before values : List (String × Value)}
    {members : List (Option String × Tree)} (h : members? depth before members = some values)
    (k : String) :
    values.lookup k = (members.reverse.lookup (some k)).elim (before.lookup k) (value? depth) := by
  induction members generalizing before with
  | nil =>
    obtain rfl : before = values := by simpa [members?] using h
    rfl
  | cons member members ih =>
    obtain ⟨key, tree⟩ := member
    obtain ⟨name, rfl, v, hv, hmore⟩ : ∃ name, key = some name ∧
      ∃ v, tree.value? depth = some v ∧
        members? depth (insertMember name v before) members = some values := by
      simpa [members?, Option.bind_eq_some_iff] using h
    rw [ih hmore, List.reverse_cons, List.lookup_append, lookup_insertMember]
    cases members.reverse.lookup (some k) with
    | some later => rfl
    | none =>
      by_cases hk : k = name
      · simp [hk, hv]
      · simp [List.lookup_cons, hk, beq_false_of_ne]

/-- Only an object is read as an object. -/
lemma lookup_of_value?_eq_object {depth : Nat} {tree : Tree} {values : List (String × Value)}
    (h : tree.value? depth = some (.object values)) :
    ∃ members, tree = .object members ∧
      ∀ key, values.lookup key = (members.reverse.lookup (some key)).bind (value? depth) := by
  cases tree with
  | object members =>
    cases depth with
    | zero => simp [value?] at h
    | succ depth =>
      have hmembers : members? depth [] members = some values := by simpa [value?] using h
      refine ⟨members, rfl, fun key => ?_⟩
      rw [lookup_members? (members?_succ members hmembers)]
      cases members.reverse.lookup (some key) <;> rfl
  | number n =>
    obtain ⟨number, -, hnumber⟩ := Option.bind_eq_some_iff.mp (by simpa [value?] using h)
    cases number with
    | integer v =>
      rw [numberValue?] at hnumber
      split_ifs at hnumber
      cases hnumber
    | float x =>
      rw [numberValue?] at hnumber
      split_ifs at hnumber <;> cases hnumber
  | array items => cases depth <;> simp [value?] at h
  | _ => simp [value?] at h

end Tree

/-! ### The laws -/

/-- Values that are read in this way obey the laws of values. -/
theorem standard_valueLaws : ValueLaws where
  value?_tree := Value.IsFree.value?_tree
  isFree := Tree.isFree_of_value? _
  exists_value?_object {members} h := by
    refine ⟨members.foldl Tree.insert [], ?_⟩
    have hread := Tree.members?_map_tree (fun member hmember => (h member hmember).value?_tree) []
    have hlimit : depthLimit = depthLimit - 1 + 1 := rfl
    show (Value.object members).tree.value? depthLimit = _
    rw [Value.tree, hlimit, Tree.value?, hread]
    rfl
  lookup_of_value? := Tree.lookup_of_value?_eq_object

theorem standard_laws : Laws where
  toTextLaws := standard_textLaws
  toPartLaws := standard_partLaws
  toValueLaws := standard_valueLaws

end TypedFormat.Json
