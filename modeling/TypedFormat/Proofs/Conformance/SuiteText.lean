import Mathlib
import TypedFormat.Conformance.Suite
import TypedFormat.Proofs.Json.Compact
import TypedFormat.Proofs.Json.Reading
import TypedFormat.Proofs.Json.Records

/-!
# The text of a suite is read back

What is written for a value, an expectation, a case or a suite is read as just that, by every package
that obeys the laws. The exception are floating point numbers that are not finite: JSON has none, so a
suite with one of them is not read back at all. Of the finite ones it has to be known that they are read
as they are written (`Suite.ReadsBack`).
-/

namespace TypedFormat

open Json Package

/-! ### Values -/

namespace CaseValue

/-- Whether a value is no infinity and not what is not a number. -/
def isFinite : CaseValue → Bool
  | .float x => x.isFinite
  | _        => true

section

variable [Package] (hparts : PartLaws)

include hparts

lemma int64?_integer (v : Int64) : int64? (.number (some (.integer v.toInt))) = some v := by
  rw [int64?, hparts.integer?_integer v.minValue_le_toInt v.toInt_le]
  simp

lemma uint64?_integer (v : UInt64) : uint64? (.number (some (.integer v.toNat))) = some v := by
  have hlt := v.toNat_lt
  rw [uint64?, hparts.integer?_integer (by omega) (by simp only [UInt64.size]; omega)]
  simp

lemma byte?_integer (b : UInt8) : byte? (.number (some (.integer b.toNat))) = some b := by
  have hlt := b.toNat_lt
  rw [byte?, hparts.integer?_integer (by omega) (by omega)]
  simp

/-- A finite number is read from its tree, and the tree of any other is not read. -/
lemma float?_floatTree (x : Binary64) :
    float? (floatTree x) = if x.isFinite then some x else none := by
  unfold floatTree
  split_ifs
  · exact hparts.float?_float x
  · exact hparts.float?_null

/-- A written value is read back if it is finite. -/
lemma ofTree?_toJson (v : CaseValue) :
    ofTree? v.toJson.tree = if v.isFinite then some v else none := by
  rw [ofTree?, toJson, hparts.variant?_tree]
  cases v with
  | int v => simp [tag, content, isFinite, Value.tree, int64?_integer hparts]
  | uint v => simp [tag, content, isFinite, Value.tree, uint64?_integer hparts]
  | float x =>
    by_cases hx : x.isFinite = true <;>
      simp [tag, content, isFinite, Value.tree, float?_floatTree hparts, hx]
  | text s => simp [tag, content, isFinite, Value.tree, hparts.string?_string]
  | char c => simpa [tag, content, isFinite, Value.tree] using hparts.character?_string c
  | bool b => simp [tag, content, isFinite, Value.tree, hparts.boolean?_boolean]
  | raw bytes =>
    have hbytes : list? byte? (Value.ofList (fun b : UInt8 => .integer b.toNat) bytes).tree
        = some bytes := by
      refine hparts.list?_ofList_of_forall fun b _ => ?_
      rw [Value.tree]
      exact byte?_integer hparts b
    simp [tag, content, isFinite, hbytes]

end

/-- The integers that are written have 64 bits at most, so only a floating point number may not come
back. -/
lemma comesBack_toJson [Package] {v : CaseValue}
    (h : ∀ x, v = .float x → x.isFinite = true → ReadsBack x) : v.toJson.ComesBack := by
  cases v with
  | int v =>
    have hleast := v.minValue_le_toInt
    have hgreatest := v.toInt_le
    have hmax : Int64.maxValue.toInt ≤ greatestInteger := by decide
    simpa [toJson, tag, content] using ⟨hleast, hgreatest.trans hmax⟩
  | uint v =>
    have hlt := v.toNat_lt
    have hleast : leastInteger ≤ (v.toNat : Int) := le_trans (show _ ≤ 0 by decide) (by omega)
    have hgreatest : (v.toNat : Int) ≤ greatestInteger := by
      simp only [greatestInteger, UInt64.size]
      omega
    simpa [toJson, tag, content] using ⟨hleast, hgreatest⟩
  | float x => simpa [toJson, tag, content] using h x rfl
  | raw bytes =>
    have hbyte : ∀ b : UInt8, leastInteger ≤ (b.toNat : Int) ∧ (b.toNat : Int) ≤ greatestInteger := by
      intro b
      have hlt := b.toNat_lt
      have hleast : leastInteger ≤ 0 := by decide
      have hgreatest : 255 ≤ greatestInteger := by decide
      omega
    simpa [toJson, tag, content] using fun b _ => hbyte b
  | _ => simp [toJson, tag, content]

end CaseValue

/-! ### Cases and suites -/

section

variable [Package]

lemma Expectation.ofTree?_toJson (hparts : PartLaws) (e : Expectation) :
    ofTree? e.toJson.tree = some e := by
  cases e with
  | output text =>
    rw [ofTree?, toJson, hparts.variant?_tree]
    simp [Value.tree, hparts.string?_string]
  | failure kind =>
    rw [ofTree?, toJson, hparts.variant?_tree]
    simp [Value.tree, hparts.string?_string]

namespace Case

/-- Whether all values of a case are finite. -/
def isFinite (c : Case) : Bool :=
  c.values.all CaseValue.isFinite

lemma ofTree?_toJson (hparts : PartLaws) (c : Case) :
    ofTree? c.toJson.tree = if c.isFinite then some c else none := by
  have hvalues := hparts.list?_ofList fun v (_ : v ∈ c.values) => v.ofTree?_toJson hparts
  rw [ofTree?, toJson, hparts.fields?_tree (by simp)]
  by_cases hc : c.values.all CaseValue.isFinite = true
  · rw [if_pos hc] at hvalues
    simp [List.lookup_cons, hvalues, isFinite, hc, Value.tree, hparts.string?_string,
      Expectation.ofTree?_toJson hparts]
  · rw [if_neg hc] at hvalues
    simp [List.lookup_cons, hvalues, isFinite, hc]

end Case

namespace Suite

/-- Whether all values of all cases are finite. -/
def isFinite (s : Suite) : Bool :=
  s.cases.all Case.isFinite

/-- The finite numbers among the values of a suite are read as they are written. -/
def ReadsBack (s : Suite) : Prop :=
  ∀ c ∈ s.cases, ∀ x, .float x ∈ c.values → x.isFinite = true → Json.ReadsBack x

lemma ofTree?_toJson (hparts : PartLaws) (s : Suite) :
    ofTree? s.toJson.tree = if s.isFinite then some s else none := by
  have hcases := hparts.list?_ofList fun c (_ : c ∈ s.cases) => c.ofTree?_toJson hparts
  rw [ofTree?, toJson, hparts.fields?_tree (by simp)]
  by_cases hs : s.cases.all Case.isFinite = true
  · rw [if_pos hs] at hcases
    simp [List.lookup_cons, hcases, isFinite, hs, Value.tree, hparts.string?_string]
  · rw [if_neg hs] at hcases
    simp [List.lookup_cons, hcases, isFinite, hs, Value.tree, hparts.string?_string]

lemma ReadsBack.comesBack_toJson {s : Suite} (h : s.ReadsBack) : s.toJson.ComesBack := by
  have hvalue : ∀ c ∈ s.cases, ∀ v ∈ c.values, v.toJson.ComesBack := by
    intro c hc v hv
    exact CaseValue.comesBack_toJson fun x hx => h c hc x (hx ▸ hv)
  have hexpectation : ∀ e : Expectation, e.toJson.ComesBack := by
    intro e
    cases e <;> simp [Expectation.toJson]
  simpa [toJson, Case.toJson, hexpectation] using hvalue

/-- The text of a suite's file is read as that suite, with every value and all in order, if no
floating point number in it is an infinity or not a number. Else it is not read at all. This holds for
every package that obeys the laws and reads the finite numbers of the suite as it writes them. -/
theorem ofText?_text (htexts : TextLaws) (hparts : PartLaws) (s : Suite) (hfloats : s.ReadsBack) :
    ofText? s.text = if s.isFinite then some s else none := by
  rw [ofText?, text, htexts.tree?_pretty hfloats.comesBack_toJson, Option.bind_some,
    ofTree?_toJson hparts]

end Suite

end

open scoped Standard

/-- Values of all kinds, with texts that need escapes. With an infinity among them the suite is not
read. -/
theorem Suite.ofText?_text_of_all_kinds :
    let half : CaseValue := .float ⟨0x3FE0000000000000⟩
    let infinity : CaseValue := .float ⟨0x7FF0000000000000⟩
    let suite (more : List CaseValue) : Suite := ⟨"1", "\"\\\n", "", [
      ⟨"", "\x00", "%d", .int (-1) :: .uint 18446744073709551615 :: .text "\u2028é" ::
        .char '𝄞' :: .bool true :: .raw [0, 255] :: more, .failure "x", "both"⟩,
      ⟨"none", "", "", [], .output "\t", ""⟩]⟩
    ofText? (suite [half]).text = some (suite [half]) ∧ ofText? (suite [infinity]).text = none := by
  intro half infinity suite
  have hfinite : (suite [half]).ReadsBack := by
    intro c hc x hx _
    simp only [suite, half, List.mem_cons, List.not_mem_nil, or_false] at hc
    rcases hc with rfl | rfl
    · obtain rfl : x = ⟨0x3FE0000000000000⟩ := by simpa using hx
      exact readsBack_half
    · simp at hx
  have hinfinite : (suite [infinity]).ReadsBack := by
    intro c hc x hx hfinite
    simp only [suite, infinity, List.mem_cons, List.not_mem_nil, or_false] at hc
    rcases hc with rfl | rfl
    · obtain rfl : x = ⟨0x7FF0000000000000⟩ := by simpa using hx
      exact absurd hfinite (by decide)
    · simp at hx
  exact ⟨ofText?_text standard_textLaws standard_partLaws _ hfinite,
    ofText?_text standard_textLaws standard_partLaws _ hinfinite⟩

end TypedFormat
