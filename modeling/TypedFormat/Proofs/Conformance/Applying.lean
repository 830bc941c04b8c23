import Mathlib
import TypedFormat.Proofs.Command.Outputs

/-!
# Which cases a trial judges

A trial has a mode, which is read in two ways. As a setting it gives the policy under which the cases
are rendered: it is trimmed and has several words for lenient. To select the cases it is compared with
their modes as it is, but for the case of ASCII letters. A trial judges all the cases that apply under
its policy if its mode is the name of that policy. Under any other mode it judges only the cases for
both policies, and leaves out those that name the policy (`Trial.run_eq_applying_iff`).
-/

namespace TypedFormat

open Verification (applies)

/-! ### Settings without white space -/

/-- White space is not changed by lower case. -/
lemma toLower_of_isBlank {c : Char} (h : isBlank c = true) : c.toLower = c := by
  have hcapital : ¬ (65 ≤ c.toNat ∧ c.toNat ≤ 90) := by
    simp only [isBlank, Bool.or_eq_true, Bool.and_eq_true, decide_eq_true_eq, beq_iff_eq] at h
    omega
  rw [Char.toLower, dif_neg]
  rintro ⟨hleft, hright⟩
  exact hcapital ⟨UInt32.le_iff_toNat_le.mp hleft, UInt32.le_iff_toNat_le.mp hright⟩

lemma dropWhile_isBlank {text : List Char} (h : ∀ c ∈ text, isBlank c = false) :
    text.dropWhile isBlank = text := by
  cases text with
  | nil => rfl
  | cons c rest => rw [List.dropWhile_cons_of_neg (by simp [h c List.mem_cons_self])]

lemma trimBlank_of_forall {text : List Char} (h : ∀ c ∈ text, isBlank c = false) :
    trimBlank text = text := by
  rw [trimBlank, dropWhile_isBlank h, dropWhile_isBlank, List.reverse_reverse]
  intro c hc
  exact h c (List.mem_reverse.mp hc)

namespace Policy

/-- A mode is the name of a policy, without regard to the case of ASCII letters. -/
def IsNamed (policy : Policy) (mode : String) : Prop :=
  lowerAscii mode.toList = policy.name.toList

instance (policy : Policy) (mode : String) : Decidable (policy.IsNamed mode) :=
  inferInstanceAs (Decidable (lowerAscii mode.toList = policy.name.toList))

lemma IsNamed.not_blank {policy : Policy} {mode : String} (h : policy.IsNamed mode) :
    ∀ c ∈ mode.toList, isBlank c = false := by
  intro c hc
  have hletters : ∀ l ∈ policy.name.toList, isBlank l = false := by
    cases policy <;> simp [name, isBlank]
  have hlower : c.toLower ∈ policy.name.toList := h ▸ List.mem_map_of_mem hc
  by_contra hblank
  have hblank : isBlank c = true := Bool.eq_true_of_not_eq_false hblank
  rw [toLower_of_isBlank hblank] at hlower
  rw [hletters c hlower] at hblank
  cases hblank

/-- The name of a policy is a setting for it. -/
lemma IsNamed.ofSetting_eq {policy : Policy} {mode : String} (h : policy.IsNamed mode) :
    ofSetting mode = policy := by
  have hkey : settingKey mode = policy.name := by
    rw [settingKey, trimBlank_of_forall h.not_blank, show lowerAscii mode.toList = _ from h,
      String.ofList_toList]
  rw [ofSetting, hkey]
  cases policy <;> decide

end Policy

/-! ### Selecting cases -/

/-- The mode of a case is a policy's name or both. -/
def Case.HasMode (c : Case) : Prop :=
  lowerAscii c.mode.toList ∈ ["strict".toList, "lenient".toList, "both".toList]

instance (c : Case) : Decidable c.HasMode :=
  inferInstanceAs (Decidable (lowerAscii c.mode.toList ∈ _))

lemma Case.HasMode.isNamed_or {c : Case} (h : c.HasMode) :
    (∃ policy : Policy, policy.IsNamed c.mode) ∨ lowerAscii c.mode.toList = "both".toList := by
  simp only [HasMode, List.mem_cons, List.not_mem_nil, or_false] at h
  rcases h with hstrict | hlenient | hboth
  · exact .inl ⟨.strict, hstrict⟩
  · exact .inl ⟨.lenient, hlenient⟩
  · exact .inr hboth

namespace Trial

lemma takes_iff {t : Trial} {c : Case} : t.takes c = true ↔
    lowerAscii c.mode.toList = lowerAscii t.mode.toList ∨
      lowerAscii c.mode.toList = "both".toList := by
  rw [takes, Bool.or_eq_true, beq_iff_eq, beq_iff_eq]

/-- The cases that a trial judges: those for both policies, and those that name its policy if its mode
does. -/
def judges (t : Trial) (c : Case) : Bool :=
  lowerAscii c.mode.toList = "both".toList ∨
    (t.policy.IsNamed t.mode ∧ t.policy.IsNamed c.mode)

lemma takes_eq_judges {t : Trial} {c : Case} (h : c.HasMode) : t.takes c = t.judges c := by
  rw [Bool.eq_iff_iff, takes_iff, judges, decide_eq_true_eq]
  constructor
  · rintro (hsame | hboth)
    · rcases h.isNamed_or with ⟨policy, hnamed⟩ | hboth
      · -- The case and the trial name the same policy, so it is the one that the trial renders under.
        have htrial : policy.IsNamed t.mode := hsame.symm.trans hnamed
        obtain rfl : t.policy = policy := htrial.ofSetting_eq
        exact .inr ⟨htrial, hnamed⟩
      · exact .inl hboth
    · exact .inl hboth
  · rintro (hboth | ⟨htrial, hnamed⟩)
    · exact .inr hboth
    · exact .inl (hnamed.trans htrial.symm)

lemma judges_imp_applies {t : Trial} {c : Case} (h : t.judges c = true) :
    applies t.policy c = true := by
  rw [judges, decide_eq_true_eq] at h
  rw [applies, decide_eq_true_eq]
  rcases h with hboth | ⟨-, hnamed⟩
  · exact .inr hboth
  · exact .inl hnamed

/-- A trial judges no other cases than those that apply, so it judges all of them if the numbers are
equal. -/
lemma map_judge_eq_iff {t : Trial} {cases : List Case} :
    (cases.filter t.judges).map (Case.judge t.policy)
        = (cases.filter (applies t.policy)).map (Case.judge t.policy) ↔
      ∀ c ∈ cases, applies t.policy c = true → t.judges c = true := by
  constructor
  · intro h c hc happlies
    have hlength := congrArg List.length h
    rw [List.length_map, List.length_map] at hlength
    have hsublist : (cases.filter t.judges).Sublist (cases.filter (applies t.policy)) :=
      List.monotone_filter_right _ fun _ => judges_imp_applies
    have hmem : c ∈ cases.filter t.judges := by
      rw [hsublist.eq_of_length hlength]
      exact List.mem_filter.mpr ⟨hc, happlies⟩
    exact (List.mem_filter.mp hmem).2
  · intro h
    have hfilter : cases.filter t.judges = cases.filter (applies t.policy) :=
      List.filter_congr fun c hc => Bool.eq_iff_iff.mpr ⟨judges_imp_applies, h c hc⟩
    rw [hfilter]

lemma forall_judges_iff {t : Trial} {cases : List Case} :
    (∀ c ∈ cases, applies t.policy c = true → t.judges c = true) ↔
      t.policy.IsNamed t.mode ∨ ∀ c ∈ cases, ¬ t.policy.IsNamed c.mode := by
  simp only [applies, judges, decide_eq_true_eq]
  constructor
  · intro h
    by_cases htrial : t.policy.IsNamed t.mode
    · exact .inl htrial
    · refine .inr fun c hc hnamed => ?_
      rcases h c hc (.inl hnamed) with hboth | hnames
      · have hname : t.policy.name.toList = "both".toList := hnamed.symm.trans hboth
        revert hname
        cases t.policy <;> decide
      · exact htrial hnames.1
  · rintro (htrial | hnone) c hc (hnamed | hboth)
    · exact .inr ⟨htrial, hnamed⟩
    · exact .inl hboth
    · exact absurd hnamed (hnone c hc)
    · exact .inl hboth

/-- Over cases that are for one policy or for both, the verdicts of a trial are under the policy that
its mode gives as a setting. They are on the cases for both policies, and if the mode of the trial is
the name of that policy, then also on the cases that name it. So there is a verdict on each case that
applies under the policy if and only if the mode of the trial is the policy's name, or no case has it
as its mode. -/
theorem run_eq_applying_iff (t : Trial) (s : Suite) (h : ∀ c ∈ s.cases, c.HasMode) :
    (∀ v ∈ t.run s, v.mode = t.policy.name) ∧
    t.run s = (s.cases.filter t.judges).map (Case.judge t.policy) ∧
    (t.run s = (s.cases.filter (applies t.policy)).map (Case.judge t.policy) ↔
      t.policy.IsNamed t.mode ∨ ∀ c ∈ s.cases, ¬ t.policy.IsNamed c.mode) := by
  have hrun : t.run s = (s.cases.filter t.judges).map (Case.judge t.policy) := by
    rw [run, List.filter_congr fun c hc => takes_eq_judges (h c hc)]
  refine ⟨?_, hrun, ?_⟩
  · intro v hv
    obtain ⟨c, -, rfl⟩ := List.mem_map.mp hv
    rw [Case.judge]
  · rw [hrun, map_judge_eq_iff, forall_judges_iff]

/-- Cases for the lenient policy and for both, where a text stands for an integer. -/
def mismatches : Suite where
  version := "v1"
  family := "printf/mismatch"
  capturedAt := "2026-10-01T00:00:00Z"
  cases := [
    ⟨"lenient_text_as_int", "mismatch", "[%3d]", [.text "x"], .output "[  x]", "lenient"⟩,
    ⟨"int_ok", "numeric", "[%3d]", [.int 7], .output "[  7]", "both"⟩]

/-- A trial whose mode is the name of its policy in capitals judges both cases. -/
theorem run_eq_applying_of_capitals :
    (∀ c ∈ mismatches.cases, c.HasMode) ∧
    (Trial.mk "c" "LENIENT").run mismatches = mismatches.cases.map (Case.judge .lenient) := by
  have hmodes : ∀ c ∈ mismatches.cases, c.HasMode := by decide
  obtain ⟨-, -, hiff⟩ := run_eq_applying_iff ⟨"c", "LENIENT"⟩ mismatches hmodes
  exact ⟨hmodes, hiff.mpr (.inl (by decide))⟩

/-- Loose is a word for lenient, but a trial in that mode leaves out the case for the lenient policy,
which would pass. -/
theorem run_ne_applying_of_loose :
    let t : Trial := ⟨"c", "loose"⟩
    (∀ c ∈ mismatches.cases, c.HasMode) ∧ t.policy = .lenient ∧
    ((mismatches.cases.filter (applies t.policy)).map (Case.judge t.policy)).map Verdict.caseName
      = ["lenient_text_as_int", "int_ok"] ∧
    (t.run mismatches).map Verdict.caseName = ["int_ok"] ∧
    t.run mismatches ≠ (mismatches.cases.filter (applies t.policy)).map (Case.judge t.policy) := by
  intro t
  have hwanted : ((mismatches.cases.filter (applies t.policy)).map (Case.judge t.policy)).map
      Verdict.caseName = ["lenient_text_as_int", "int_ok"] := by decide
  have hrun : (t.run mismatches).map Verdict.caseName = ["int_ok"] := by decide
  refine ⟨by decide, by decide, hwanted, hrun, fun h => ?_⟩
  rw [h, hwanted] at hrun
  exact absurd hrun (by decide)

end Trial

end TypedFormat
