import Mathlib
import TypedFormat.Proofs.Json.Records
import TypedFormat.RunLog.Entry

/-!
# Lines of entries are read back

An entry whose mode and details are as they have to be (`Entry.IsFit`) is written on one line. The
check finds its members under their keys (`Entry.IsFit.exists_value?`), has nothing to complain about,
and gives the entry, if the package obeys the laws and the floating point numbers in the details come
back.
-/

namespace TypedFormat.RunLog

open Json Package

namespace Entry

/-- An entry that a run log may hold: its mode is that of a policy, and its details are a value that
is not null and nests no deeper than the check allows within an entry. -/
structure IsFit (e : Entry) : Prop where
  mode : ∀ mode, e.mode = some mode → mode = "strict" ∨ mode = "lenient"
  details : ∀ value, e.details = some value → value ≠ .null ∧ value.IsFree 126

/-- The floating point numbers in the details of an entry are read as they are written. -/
def ReadsBack [Package] (e : Entry) : Prop :=
  ∀ value, e.details = some value → ∀ x, .float x ∈ value.numbers → Json.ReadsBack x

/-! ### Members -/

/-- The members of an entry's object, in the order in which they are written. -/
def members (e : Entry) : List (String × Value) :=
  [("timestamp", .string e.timestamp), ("trace_id", .string e.traceId),
    ("level", .string e.severity.name), ("event", .string e.event)]
    ++ optionalField "case" .string e.caseName
    ++ optionalField "mode" .string e.mode
    ++ optionalField "outcome" (fun o => .string o.name) e.outcome
    ++ optionalField "details" id e.details

section

variable {α : Type}

lemma map_fst_optionalField_sublist (key : String) (toValue : α → Value) (field : Option α) :
    ((optionalField key toValue field).map Prod.fst).Sublist [key] := by
  cases field with
  | none => exact List.nil_sublist _
  | some a => exact List.Sublist.refl _

lemma exists_of_mem_optionalField {key : String} {toValue : α → Value} {field : Option α}
    {member : String × Value} (h : member ∈ optionalField key toValue field) :
    ∃ a, field = some a ∧ member = (key, toValue a) := by
  cases field with
  | none => cases h
  | some a => exact ⟨a, rfl, List.mem_singleton.mp h⟩

lemma lookup_optionalField (key k : String) (toValue : α → Value) (field : Option α) :
    (optionalField key toValue field).lookup k = if k = key then field.map toValue else none := by
  cases field with
  | none => simp [optionalField]
  | some a =>
    by_cases hk : k = key
    · simp [optionalField, hk]
    · simp [optionalField, List.lookup_cons, beq_false_of_ne hk, hk]

end

/-- The keys of an entry are among the eight it may have, in the same order. -/
lemma map_fst_members_sublist (e : Entry) :
    (e.members.map Prod.fst).Sublist
      ["timestamp", "trace_id", "level", "event", "case", "mode", "outcome", "details"] := by
  have hrequired := List.Sublist.refl ["timestamp", "trace_id", "level", "event"]
  have hcase := map_fst_optionalField_sublist "case" .string e.caseName
  have hmode := map_fst_optionalField_sublist "mode" .string e.mode
  have houtcome := map_fst_optionalField_sublist "outcome" (fun o => .string o.name) e.outcome
  have hdetails := map_fst_optionalField_sublist "details" id e.details
  have hkeys := (((hrequired.append hcase).append hmode).append houtcome).append hdetails
  simpa [members] using hkeys

lemma nodup_members (e : Entry) : (e.members.map Prod.fst).Nodup :=
  e.map_fst_members_sublist.nodup (by decide)

/-- All members but the details are strings. -/
lemma of_mem_members {e : Entry} {member : String × Value} (h : member ∈ e.members) :
    (∃ s, member.2 = .string s) ∨ e.details = some member.2 := by
  simp only [members, List.mem_append, List.mem_cons, List.not_mem_nil, or_false] at h
  rcases h with ((((rfl | rfl | rfl | rfl) | hcase) | hmode) | houtcome) | hdetails
  · exact .inl ⟨_, rfl⟩
  · exact .inl ⟨_, rfl⟩
  · exact .inl ⟨_, rfl⟩
  · exact .inl ⟨_, rfl⟩
  · obtain ⟨_, -, rfl⟩ := exists_of_mem_optionalField hcase
    exact .inl ⟨_, rfl⟩
  · obtain ⟨_, -, rfl⟩ := exists_of_mem_optionalField hmode
    exact .inl ⟨_, rfl⟩
  · obtain ⟨_, -, rfl⟩ := exists_of_mem_optionalField houtcome
    exact .inl ⟨_, rfl⟩
  · obtain ⟨value, hvalue, rfl⟩ := exists_of_mem_optionalField hdetails
    exact .inr hvalue

lemma IsFit.isFree_members {e : Entry} (h : e.IsFit) : ∀ member ∈ e.members, member.2.IsFree 126 := by
  intro member hmember
  rcases of_mem_members hmember with ⟨s, hs⟩ | hdetails
  · exact hs ▸ .string s
  · exact (h.details member.2 hdetails).2

/-! ### Reading -/

/-- What is found under the keys that an entry must have. -/
lemma lookup_required (e : Entry) :
    e.members.lookup "timestamp" = some (.string e.timestamp)
      ∧ e.members.lookup "trace_id" = some (.string e.traceId)
      ∧ e.members.lookup "level" = some (.string e.severity.name)
      ∧ e.members.lookup "event" = some (.string e.event) := by
  simp [members, List.lookup_cons]

/-- What is found under the keys that an entry may have. -/
lemma lookup_optional (e : Entry) :
    e.members.lookup "case" = e.caseName.map .string
      ∧ e.members.lookup "mode" = e.mode.map .string
      ∧ e.members.lookup "outcome" = e.outcome.map (fun o => .string o.name)
      ∧ e.members.lookup "details" = e.details := by
  simp [members, List.lookup_cons, List.lookup_append, lookup_optionalField]

section

variable [Package] (hlaws : Laws) {e : Entry} {values : List (String × Value)}

include hlaws

/-- An entry is read as an object, with the same values under its keys, in their order. -/
lemma IsFit.exists_value? (h : e.IsFit) : ∃ values,
    value? e.toJson.tree = some (.object values) ∧ (values.map Prod.fst).Nodup ∧
      ∀ key, values.lookup key = e.members.lookup key := by
  obtain ⟨values, hvalues⟩ := hlaws.exists_value?_object h.isFree_members
  refine ⟨values, hvalues, ?_, fun key => ?_⟩
  · cases hlaws.isFree hvalues with
    | object hsorted hmembers => exact hsorted.imp fun hlt => hlt.ne
  · obtain ⟨members, htree, hlookup⟩ := hlaws.lookup_of_value? hvalues
    rw [Value.tree] at htree
    obtain rfl := Tree.object.inj htree
    rw [hlookup, lookup_reverse_tree e.nodup_members]
    cases hmember : e.members.lookup key with
    | none => rfl
    | some value =>
      have hmem : (key, value) ∈ e.members := by
        obtain ⟨before, after, heq, -⟩ := List.lookup_eq_some_iff.mp hmember
        simp [heq]
      have hfree := h.isFree_members _ hmem
      exact hlaws.value?_tree (hfree.mono (by decide))

lemma named?_severity (s : Severity) :
    named? (.string (some s.name)) Severity.ofName? = some s := by
  rw [named?, hlaws.constant?_string]
  cases s <;> rfl

lemma named?_outcome (o : Outcome) : named? (.string (some o.name)) Outcome.ofName? = some o := by
  rw [named?, hlaws.constant?_string]
  cases o <;> rfl

lemma IsFit.ofTree?_values (h : e.IsFit) (hnodup : (values.map Prod.fst).Nodup)
    (hvalues : ∀ key, values.lookup key = e.members.lookup key) :
    ofTree? (Value.object values).tree = some e := by
  obtain ⟨htimestamp, htraceId, hseverity, hevent⟩ := e.lookup_required
  obtain ⟨hcase, hmode, houtcome, hdetails⟩ := e.lookup_optional
  have hstring : ∀ s, (Value.string s).tree ≠ .null ∧ string? (Value.string s).tree = some s := by
    intro s
    rw [Value.tree]
    exact ⟨by simp, hlaws.string?_string s⟩
  have hreadCase : optionalField? string? (e.caseName.map (Value.tree ∘ .string))
      = some e.caseName := hlaws.optionalField?_map fun s _ => hstring s
  have hreadMode : optionalField? string? (e.mode.map (Value.tree ∘ .string)) = some e.mode :=
    hlaws.optionalField?_map fun s _ => hstring s
  have hreadOutcome : optionalField? (named? · Outcome.ofName?)
      (e.outcome.map (Value.tree ∘ fun o => .string o.name)) = some e.outcome := by
    refine hlaws.optionalField?_map fun o _ => ?_
    rw [Value.tree]
    exact ⟨by simp, named?_outcome hlaws o⟩
  have hreadDetails : optionalField? value? (e.details.map (Value.tree ∘ id)) = some e.details := by
    refine hlaws.optionalField?_map fun value hvalue => ?_
    obtain ⟨hne, hfree⟩ := h.details value hvalue
    exact ⟨hfree.tree_ne_null hne, hlaws.value?_tree (hfree.mono (by decide))⟩
  rw [Function.comp_id] at hreadDetails
  rw [ofTree?, hlaws.fields?_tree hnodup]
  simp [hvalues, htimestamp, htraceId, hseverity, hevent, hcase, hmode, houtcome, hdetails,
    hreadCase, hreadMode, hreadOutcome, hreadDetails, Value.tree, hlaws.string?_string,
    named?_severity hlaws]

end

lemma IsFit.complaints_values {e : Entry} {values : List (String × Value)} (h : e.IsFit)
    (hvalues : ∀ key, values.lookup key = e.members.lookup key) : complaints values = [] := by
  have hmember : ∀ key, member? key values = e.members.lookup key := hvalues
  obtain ⟨htimestamp, htraceId, hseverity, hevent⟩ := e.lookup_required
  obtain ⟨-, hmode, houtcome, -⟩ := e.lookup_optional
  have hmissing : requiredFields.filter (fun field => (member? field values).isNone)
      = [] := by
    simp [requiredFields, hmember, htimestamp, htraceId, hseverity, hevent]
  have hlevel : e.severity.name ∈ ["trace", "debug", "info", "warn", "error", "fatal"] := by
    cases e.severity <;> decide
  have hlimitedLevel : complaint? values
      ("level", ["trace", "debug", "info", "warn", "error", "fatal"]) = none := by
    simp only [complaint?, hmember, hseverity, if_pos hlevel]
  have hlimitedMode : complaint? values ("mode", ["strict", "lenient"]) = none := by
    rw [complaint?, hmember, hmode]
    cases hm : e.mode with
    | none => rfl
    | some mode => rcases h.mode mode hm with rfl | rfl <;> rfl
  have hlimitedOutcome : complaint? values ("outcome", ["pass", "fail", "skip"]) = none := by
    rw [complaint?, hmember, houtcome]
    cases e.outcome with
    | none => rfl
    | some outcome => cases outcome <;> rfl
  have hlimited : limitedFields.filterMap (complaint? values) = [] := by
    simp [limitedFields, hlimitedLevel, hlimitedMode, hlimitedOutcome]
  rw [complaints, hmissing, hlimited]
  rfl

lemma IsFit.comesBack_toJson [Package] {e : Entry} (h : e.IsFit) (hfloats : e.ReadsBack) :
    e.toJson.ComesBack := by
  refine Value.comesBack_object.mpr fun member hmember => ?_
  rcases of_mem_members hmember with ⟨s, hs⟩ | hdetails
  · rw [hs]
    exact Value.comesBack_string s
  · exact (h.details member.2 hdetails).2.comesBack (hfloats member.2 hdetails)

lemma IsFit.check_line [Package] (hlaws : Laws) {e : Entry} (h : e.IsFit) (hfloats : e.ReadsBack) :
    check e.line = .ok e := by
  obtain ⟨values, hvalue, hnodup, hvalues⟩ := h.exists_value? hlaws
  have hread : (tree? e.line).bind value? = some (.object values) := by
    rw [line, hlaws.tree?_compact (h.comesBack_toJson hfloats), Option.bind_some, hvalue]
  rw [check, hread]
  simp [h.complaints_values hvalues, h.ofTree?_values hlaws hnodup hvalues]

end Entry

end TypedFormat.RunLog
