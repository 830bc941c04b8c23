import Mathlib
import TypedFormat.Conformance.Report
import TypedFormat.Proofs.Json.Compact
import TypedFormat.Proofs.Json.Reading
import TypedFormat.Proofs.Json.Records

/-!
# The JSON of a report is read back

What is written for a verdict, a tally or a report is read as just that, whatever texts are in it, by
every package that obeys the laws. The counts of a tally are written beside its verdicts and are read by
themselves, as numbers of 64 bits, also if they do not agree with the verdicts.
-/

namespace TypedFormat

open Json Package

section

variable [Package]

/-! ### Verdicts -/

lemma Verdict.ofTree?_toJson (hparts : PartLaws) (v : Verdict) : ofTree? v.toJson.tree = some v := by
  have hdifference : optional? string? (Value.ofOption .string v.difference).tree
      = some v.difference := by
    refine hparts.optional?_ofOption fun text _ => ?_
    rw [Value.tree]
    exact ⟨by simp, hparts.string?_string text⟩
  rw [ofTree?, toJson, hparts.fields?_tree (by simp)]
  simp [List.lookup_cons, optionalField?, hdifference, Value.tree, hparts.string?_string,
    hparts.boolean?_boolean]

/-! ### Tallies -/

namespace Tally

/-- Whether the counts of a tally are numbers of 64 bits. -/
def isCounted (t : Tally) : Bool :=
  t.total < UInt64.size && t.passed < UInt64.size && t.failed < UInt64.size

lemma count?_integer (hparts : PartLaws) {n : Nat} (hn : n < UInt64.size) :
    count? (.number (some (.integer n))) = some n := by
  rw [count?, hparts.integer?_integer (by omega) (by omega)]
  rfl

/-- A written tally is read back if its counts are. -/
lemma ofTree?_toJson (hparts : PartLaws) {t : Tally} (h : t.isCounted = true) :
    ofTree? t.toJson.tree = some t := by
  have hverdicts := hparts.list?_ofList_of_forall fun v (_ : v ∈ t.verdicts) => v.ofTree?_toJson hparts
  simp only [isCounted, Bool.and_eq_true, decide_eq_true_eq] at h
  obtain ⟨⟨htotal, hpassed⟩, hfailed⟩ := h
  rw [ofTree?, toJson, hparts.fields?_tree (by simp)]
  simp [List.lookup_cons, hverdicts, Value.tree, count?_integer hparts htotal,
    count?_integer hparts hpassed, count?_integer hparts hfailed]

lemma comesBack_toJson {t : Tally} (h : t.isCounted = true) : t.toJson.ComesBack := by
  have hcount : ∀ n : Nat, n < UInt64.size → leastInteger ≤ n ∧ (n : Int) ≤ greatestInteger := by
    intro n hn
    have hleast : leastInteger ≤ 0 := by decide
    simp only [greatestInteger]
    omega
  have hverdict : ∀ v : Verdict, v.toJson.ComesBack := by
    intro v
    simp [Verdict.toJson]
  simp only [isCounted, Bool.and_eq_true, decide_eq_true_eq] at h
  obtain ⟨⟨htotal, hpassed⟩, hfailed⟩ := h
  simp [toJson, hverdict, hcount _ htotal, hcount _ hpassed, hcount _ hfailed]

end Tally

/-! ### Reports -/

namespace Report

lemma ofTree?_toJson (hparts : PartLaws) {r : Report} (h : r.tally.isCounted = true) :
    ofTree? r.toJson.tree = some r := by
  have hdigests : list? (pair? string? string?) (Value.ofList digestJson r.digests).tree
      = some r.digests := by
    refine hparts.list?_ofList_of_forall fun entry _ => ?_
    simp [digestJson, Value.tree, hparts.pair?_array, hparts.string?_string]
  rw [ofTree?, toJson, hparts.fields?_tree (by simp)]
  simp [List.lookup_cons, hdigests, Tally.ofTree?_toJson hparts h, Value.tree, hparts.string?_string]

lemma comesBack_toJson {r : Report} (h : r.tally.isCounted = true) : r.toJson.ComesBack := by
  have hdigest : ∀ entry, (digestJson entry).ComesBack := by
    intro entry
    simp [digestJson]
  simp [toJson, hdigest, Tally.comesBack_toJson h]

lemma ofText?_of_isCounted (htexts : TextLaws) (hparts : PartLaws) {r : Report}
    (h : r.tally.isCounted = true) : ofText? r.json = some r := by
  rw [ofText?, json, htexts.tree?_pretty (comesBack_toJson h), Option.bind_some,
    ofTree?_toJson hparts h]

/-- The JSON of a report is read as that report, with all its texts and differences and in order, by
every package that obeys the laws. What is read has the same markdown, the same JSON and the same
failures. The counts have 64 bits. -/
theorem ofText?_json (htexts : TextLaws) (hparts : PartLaws) {r : Report}
    (hcounted : r.tally.isCounted = true) :
    ofText? r.json = some r ∧
    ∀ read, ofText? r.json = some read → read = r ∧ read.markdown = r.markdown ∧
      read.json = r.json ∧ read.tally.failures = r.tally.failures := by
  have hread := ofText?_of_isCounted htexts hparts hcounted
  refine ⟨hread, ?_⟩
  intro read h
  obtain rfl := Option.some.inj (h.symm.trans hread)
  exact ⟨rfl, rfl, rfl, rfl⟩

end Report

end

open scoped Standard

/-- Counts that contradict the verdicts, and texts with quotes, line breaks and control characters. -/
theorem Report.ofText?_json_of_miscounted :
    let verdict : Verdict :=
      ⟨"\"quoted\"", "", "strict", false, "a\n\x00", "\t\u2028é", some "@@ line 1 @@\n-\"a\"\n"⟩
    let r : Report := ⟨"", "\\", "\r\n", [("a.json", "00")], ⟨0, 7, 2 ^ 64 - 1, [verdict]⟩⟩
    r.tally.isCounted = true ∧ ofText? r.json = some r ∧ ∀ read, ofText? r.json = some read →
      read.tally.failures = [verdict] ∧ read.tally.failed ≠ read.tally.failures.length := by
  intro verdict r
  have hcounted : r.tally.isCounted = true := by decide
  obtain ⟨hread, hsame⟩ := ofText?_json standard_textLaws standard_partLaws hcounted
  refine ⟨hcounted, hread, ?_⟩
  intro read h
  obtain ⟨rfl, -⟩ := hsame read h
  exact ⟨rfl, by decide⟩

end TypedFormat
