import Mathlib
import TypedFormat.Conformance.Verdict

/-!
# What a verdict says

A case is judged by comparing canonical texts. The canonical text of a failure is the canonical
text of an output too, so a verdict tells whether the call does what its case expects just when
the two are not such a pair.
-/

namespace TypedFormat

/-! ### Canonical texts -/

/-- An output and a failure with the same canonical text. -/
inductive Expectation.Lookalike : Expectation → Expectation → Prop where
  | output (kind : String) : Lookalike (.output ("error:" ++ kind)) (.failure kind)
  | failure (kind : String) : Lookalike (.failure kind) (.output ("error:" ++ kind))

namespace Expectation

lemma Lookalike.ne {e a : Expectation} (h : e.Lookalike a) : e ≠ a := by
  rintro rfl
  cases h

/-- The canonical text tells expectations apart, an output and a failure excepted. -/
lemma canonical_eq_iff {e a : Expectation} : a.canonical = e.canonical ↔ e = a ∨ e.Lookalike a := by
  constructor
  · intro h
    cases e with
    | output text =>
      cases a with
      | output text' =>
        obtain rfl : text' = text := h
        exact .inl rfl
      | failure kind =>
        obtain rfl : "error:" ++ kind = text := h
        exact .inr (.output kind)
    | failure kind =>
      cases a with
      | output text =>
        obtain rfl : text = "error:" ++ kind := h
        exact .inr (.failure kind)
      | failure kind' =>
        left
        rw [(String.append_right_inj "error:").mp h]
  · rintro (rfl | hlookalike)
    · rfl
    · cases hlookalike <;> rfl

end Expectation

/-! ### Cases -/

namespace Case

section

variable {policy : Policy} {c : Case}

@[simp] lemma caseName_judge : (c.judge policy).caseName = c.name := by
  delta judge
  rfl

@[simp] lemma area_judge : (c.judge policy).area = c.area := by
  delta judge
  rfl

@[simp] lemma mode_judge : (c.judge policy).mode = policy.name := by
  delta judge
  rfl

end

/-- The call does what the case expects: it renders that text, or fails with a failure of that
sort. -/
def Meets (policy : Policy) (c : Case) : Prop :=
  match c.expectation with
  | .output text  => format c.template c.arguments policy = .ok text
  | .failure kind => ∃ f, format c.template c.arguments policy = .error f ∧ f.kind = kind

lemma expectation_eq_outcome_iff {policy : Policy} {c : Case} :
    c.expectation = c.outcome policy ↔ c.Meets policy := by
  unfold outcome Meets
  cases c.expectation <;> cases format c.template c.arguments policy <;> simp [eq_comm]

/-- A case passes if the call does what it expects, or comes to a lookalike of it. -/
lemma passed_judge_iff {policy : Policy} {c : Case} :
    (c.judge policy).passed = true ↔
      c.Meets policy ∨ c.expectation.Lookalike (c.outcome policy) := by
  have hpassed : (c.judge policy).passed = true ↔
      (c.outcome policy).canonical = c.expectation.canonical := decide_eq_true_iff
  rw [hpassed, Expectation.canonical_eq_iff, expectation_eq_outcome_iff]

end Case

lemma Trial.exists_of_mem_run {t : Trial} {s : Suite} {v : Verdict} (h : v ∈ t.run s) :
    ∃ c ∈ s.cases, v = c.judge t.policy := by
  obtain ⟨c, hc, rfl⟩ := List.mem_map.mp h
  exact ⟨c, (List.mem_filter.mp hc).1, rfl⟩

/-- Each case that applies to a trial has its verdict, in order. It passes if the call does what
the case expects, and else just if it comes to a lookalike of that, so the verdict is right if and
only if it does not. -/
theorem Trial.run_passed_iff (t : Trial) (s : Suite) :
    List.Forall₂ (fun c v =>
        (v.passed = true ↔
          c.Meets t.policy ∨ c.expectation.Lookalike (c.outcome t.policy)) ∧
        ((v.passed = true ↔ c.Meets t.policy) ↔
          ¬ c.expectation.Lookalike (c.outcome t.policy)))
      (s.cases.filter t.takes) (t.run s) := by
  unfold run
  rw [List.forall₂_map_right_iff, List.forall₂_same]
  intro c _
  refine ⟨Case.passed_judge_iff, ?_⟩
  rw [Case.passed_judge_iff]
  constructor
  · intro h hlookalike
    exact hlookalike.ne (Case.expectation_eq_outcome_iff.mpr (h.mp (.inr hlookalike)))
  · intro hlookalike
    exact or_iff_left hlookalike

/-- A call that fails where an output is expected, and one that renders where a failure is. Neither
does what its case expects, and both pass. -/
theorem Trial.run_passed_lookalike :
    ((Trial.mk "c" "strict").run ⟨"v1", "fam", "2026-10-01T00:00:00Z", [
        ⟨"fails", "order", "%d", [], .output "error:argument_underflow", "both"⟩,
        ⟨"renders", "order", "error:field_too_large", [], .failure "field_too_large", "both"⟩
      ]⟩).map Verdict.passed = [true, true] ∧
    ¬ Case.Meets .strict
      ⟨"fails", "order", "%d", [], .output "error:argument_underflow", "both"⟩ ∧
    ¬ Case.Meets .strict
      ⟨"renders", "order", "error:field_too_large", [], .failure "field_too_large", "both"⟩ := by
  have hfails : format "%d" [] .strict = .error (.underflow 0 0) := by cbv
  have hrenders : format "error:field_too_large" [] .strict = .ok "error:field_too_large" := by
    cbv
  refine ⟨by cbv, ?_, ?_⟩
  · intro h
    cases hfails.symm.trans h
  · rintro ⟨f, hf, -⟩
    cases hrenders.symm.trans hf

end TypedFormat
