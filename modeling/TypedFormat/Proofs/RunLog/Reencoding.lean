import Mathlib
import TypedFormat.Proofs.Json.FreeValues
import TypedFormat.Proofs.RunLog.EntryText

/-!
# Accepted lines are stable

However an accepted line was written, the entry that was read from it is one that a run log may hold
(`Entry.isFit_of_ofTree?`): the complaints leave its mode no other string, and what is read as details
can stand free and is not null. So the entry's own line is accepted too, and gives the entry again, if
the floating point numbers in its details are read as they are written.
-/

namespace TypedFormat.RunLog

open Json Package

namespace Entry

section

variable [Package]

/-! ### What an accepted line holds -/

lemma check_eq_ok_iff {line : String} {e : Entry} : check line = .ok e ↔
    ∃ values, (tree? line).bind value? = some (.object values) ∧
      complaints values = [] ∧ ofTree? (Value.object values).tree = some e := by
  unfold check
  cases (tree? line).bind value? with
  | none => simp
  | some value =>
    cases value with
    | object values =>
      cases hcomplaints : complaints values with
      | nil => cases hread : ofTree? (Value.object values).tree <;> simp [hcomplaints, hread]
      | cons complaint more => simp [hcomplaints]
    | _ => simp

/-! ### Fields -/

variable {values : List (String × Value)} {e : Entry}

omit [Package] in
lemma complaint?_eq_none (h : complaints values = []) {field : String × List String}
    (hfield : field ∈ limitedFields) : complaint? values field = none := by
  have hlimited := (List.append_eq_nil_iff.mp h).2
  exact List.filterMap_eq_nil_iff.mp hlimited field hfield

lemma optionalField_of_ofTree? (hlaws : Laws) (hnodup : (values.map Prod.fst).Nodup)
    (h : ofTree? (Value.object values).tree = some e) :
    optionalField? string? ((values.lookup "mode").map Value.tree) = some e.mode ∧
      optionalField? value? ((values.lookup "details").map Value.tree) = some e.details := by
  rw [ofTree?, hlaws.fields?_tree hnodup] at h
  simp only [List.map_cons, List.map_nil, Option.bind_eq_bind, Option.bind_some] at h
  split at h
  · next heq =>
    simp only [List.cons.injEq] at heq
    obtain ⟨-, -, -, -, -, rfl, -, rfl, -⟩ := heq
    simp only [Option.bind_eq_some_iff, Option.some.injEq] at h
    obtain ⟨_, -, _, -, _, -, _, -, _, -, mode, hmode, _, -, details, hdetails, rfl⟩ := h
    exact ⟨hmode, hdetails⟩
  · cases h

/-- A field that has a value was given one that is not null. -/
lemma exists_of_optionalField? (hlaws : Laws) {α : Type} {read? : Tree → Option α}
    {member : Option Value} {a : α}
    (h : optionalField? read? (member.map Value.tree) = some (some a)) :
    ∃ value, member = some value ∧ value.tree ≠ .null ∧ read? value.tree = some a := by
  cases member with
  | none => cases h
  | some value =>
    have hfield : optional? read? value.tree = some (some a) := h
    by_cases hnull : value.tree = .null
    · rw [hnull, hlaws.optional?_null] at hfield
      cases hfield
    · rw [hlaws.optional?_of_ne read? hnull] at hfield
      obtain ⟨b, hread, hb⟩ := Option.map_eq_some_iff.mp hfield
      obtain rfl := Option.some.inj hb
      exact ⟨value, rfl, hnull, hread⟩

omit [Package] in
/-- Only a string has the tree of a string. -/
lemma eq_string_of_tree {value : Value} {s : String} (h : value.tree = .string (some s)) :
    value = .string s := by
  cases value with
  | string => simpa [Value.tree] using h
  | float x =>
    rw [Value.tree, floatTree] at h
    split_ifs at h
  | _ => simp [Value.tree] at h

/-- Nothing is complained about a mode that is read, so it is that of a policy. -/
lemma mode_of_ofTree? (hlaws : Laws) (hnodup : (values.map Prod.fst).Nodup)
    (hcomplaints : complaints values = []) (hread : ofTree? (Value.object values).tree = some e)
    {mode : String} (hmode : e.mode = some mode) : mode = "strict" ∨ mode = "lenient" := by
  have hfield := (optionalField_of_ofTree? hlaws hnodup hread).1
  rw [hmode] at hfield
  obtain ⟨value, hlookup, -, hstring⟩ := exists_of_optionalField? hlaws hfield
  obtain rfl := eq_string_of_tree (hlaws.string?_eq_some_iff.mp hstring)
  have hlimited : complaint? values ("mode", ["strict", "lenient"]) = none :=
    complaint?_eq_none hcomplaints (by simp [limitedFields])
  exact or_iff_not_imp_left.mpr (by simpa [complaint?, member?, hlookup] using hlimited)

/-- An entry that is read from members that can stand free is one that a log may hold. -/
lemma isFit_of_ofTree? (hlaws : Laws) (hcomplaints : complaints values = [])
    (hread : ofTree? (Value.object values).tree = some e)
    (hfree : (Value.object values).IsFree depthLimit) : e.IsFit := by
  obtain ⟨hsorted, hmembers⟩ : (values.map Prod.fst).Pairwise (· < ·) ∧
      ∀ member ∈ values, member.2.IsFree 126 := by
    cases hfree with
    | object hsorted hmembers => exact ⟨hsorted, hmembers⟩
  have hnodup : (values.map Prod.fst).Nodup := hsorted.imp fun hlt => hlt.ne
  constructor
  case mode =>
    intro mode hmode
    exact mode_of_ofTree? hlaws hnodup hcomplaints hread hmode
  case details =>
    intro details hdetails
    have hfield := (optionalField_of_ofTree? hlaws hnodup hread).2
    rw [hdetails] at hfield
    obtain ⟨value, hlookup, hnull, hvalue⟩ := exists_of_optionalField? hlaws hfield
    obtain ⟨before, after, rfl, -⟩ := List.lookup_eq_some_iff.mp hlookup
    have hmember : value.IsFree 126 := hmembers ("details", value) (by simp)
    rw [hlaws.value?_tree (hmember.mono (by decide))] at hvalue
    obtain rfl := Option.some.inj hvalue
    exact ⟨fun heq => hnull (by rw [heq, Value.tree]), hmember⟩

/-! ### Lines with their numbers -/

/-- The check of the line with a given number, with its complaints as messages. -/
def checkNumbered (number : Nat) (line : String) : Except (List String) Entry :=
  (check line).mapError fun complaints => complaints.map (Complaint.message number)

lemma checkNumbered_eq_ok_iff {number : Nat} {line : String} :
    checkNumbered number line = .ok e ↔ check line = .ok e := by
  unfold checkNumbered
  cases check line <;> simp [Except.mapError]

/-- The entry of an accepted line has no mode or that of a policy. It is written on one line, which is
accepted whatever its number is, and gives the entry again, so that writing it once more changes
nothing. This holds however the accepted line was written: of the members with one key the last counts,
and the entry is read from what is found under the keys. The floating point numbers in the details are
read as they are written. -/
theorem check_line_of_check (hlaws : Laws) {line : String} {number : Nat}
    (h : checkNumbered number line = .ok e) (hfloats : e.ReadsBack) :
    (e.mode = none ∨ e.mode = some "strict" ∨ e.mode = some "lenient") ∧
    '\n' ∉ e.line.toList ∧
    (∀ m, checkNumbered m e.line = .ok e) ∧
    (∀ m, (checkNumbered m e.line).map Entry.line = .ok e.line) ∧
    ∃ members values, tree? line = some (.object members) ∧
      (∀ key, member? key values = (members.reverse.lookup (some key)).bind value?) ∧
      ofTree? (Value.object values).tree = some e := by
  obtain ⟨values, hvalue, hcomplaints, hread⟩ := check_eq_ok_iff.mp (checkNumbered_eq_ok_iff.mp h)
  obtain ⟨tree, htree, hobject⟩ := Option.bind_eq_some_iff.mp hvalue
  obtain ⟨members, rfl, hlookup⟩ := hlaws.lookup_of_value? hobject
  have hfit : e.IsFit := isFit_of_ofTree? hlaws hcomplaints hread (hlaws.isFree hobject)
  have hcheck : ∀ m, checkNumbered m e.line = .ok e :=
    fun m => checkNumbered_eq_ok_iff.mpr (hfit.check_line hlaws hfloats)
  refine ⟨?_, ?_, hcheck, fun m => ?_, members, values, htree, hlookup, hread⟩
  · cases hmode : e.mode with
    | none => exact .inl rfl
    | some mode => exact .inr ((hfit.mode mode hmode).imp (congrArg some) (congrArg some))
  · exact fun hmem => absurd (hlaws.control e.toJson _ hmem) (by decide)
  · rw [hcheck]
    rfl

end

end Entry

open scoped Standard

/-- The line has an unknown key, a repeated one and one with a null. Its level and outcome are objects,
and its details repeat a key and are out of order. The other entry has a floating point number in its
details. -/
theorem Entry.check_line_of_check_of_loose_line :
    let line := " \x7b\"event\":5,\"a\":1,\"outcome\":\x7b\"pass\":null\x7d,\"mode\":null,"
      ++ "\"details\":\x7b\"b\":2,\"a\":1,\"b\":[]\x7d,\"level\":\x7b\"warn\":null\x7d,"
      ++ "\"trace_id\":\"\",\"timestamp\":\"\",\"event\":\"\"\x7d"
    let e : Entry := {
      timestamp := "", traceId := "", severity := .warn, event := "", outcome := some .pass
      details := some (.object [("a", .integer 1), ("b", .array [])]) }
    let half : Entry := {
      timestamp := "", traceId := "", severity := .info, event := "", mode := some "strict"
      details := some (.float ⟨0x3FE0000000000000⟩) }
    checkNumbered 7 line = .ok e ∧ checkNumbered 8 e.line = .ok e ∧
      checkNumbered 7 half.line = .ok half ∧ checkNumbered 8 half.line = .ok half := by
  intro line e half
  have hcheck : check line = .ok e := by
    dsimp only [line, e]
    cbv
  have hnumbered : checkNumbered 7 line = .ok e := checkNumbered_eq_ok_iff.mpr hcheck
  have hfloats : e.ReadsBack := by
    intro value hvalue x hx
    cases hvalue
    simp [Value.numbers] at hx
  have hhalf : half.ReadsBack := by
    intro value hvalue x hx
    cases hvalue
    obtain rfl : x = ⟨0x3FE0000000000000⟩ := by simpa [Value.numbers] using hx
    exact readsBack_half
  have hfit : half.IsFit := by
    constructor
    · intro mode hmode
      exact .inl (Option.some.inj hmode).symm
    · intro value hvalue
      cases hvalue
      exact ⟨by simp, .float rfl⟩
  have hhalfChecked : checkNumbered 7 half.line = .ok half :=
    checkNumbered_eq_ok_iff.mpr (hfit.check_line standard_laws hhalf)
  exact ⟨hnumbered, (check_line_of_check standard_laws hnumbered hfloats).2.2.1 8, hhalfChecked,
    (check_line_of_check standard_laws hhalfChecked hhalf).2.2.1 8⟩

end TypedFormat.RunLog
