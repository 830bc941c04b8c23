import TypedFormat.Proofs.Format.Rendition

/-!
# Segments of a template in front of another

A run of literal text is one segment, so templates can be joined segment by segment only where no
run goes on across the seam (`Scanner.template_append`). Proofs about segments therefore go along a
template by whole runs (`segmentInduction`).
-/

namespace TypedFormat

/-- The text is empty or begins with a percent sign. -/
def EndsRun (text : List Char) : Prop :=
  ∀ c, text.head? = some c → c = '%'

lemma endsRun_nil : EndsRun [] := by
  intro c hc
  cases hc

lemma endsRun_percent (text : List Char) : EndsRun ('%' :: text) := by
  intro c hc
  exact (Option.some.inj hc).symm

lemma EndsRun.append {s t : List Char} (hs : EndsRun s) (ht : EndsRun t) : EndsRun (s ++ t) := by
  cases s with
  | nil => exact ht
  | cons c s => exact hs

/-- Induction along the segments of a template: its end, an escape, a directive, a malformed
directive, or a whole run of literal text. -/
@[elab_as_elim]
theorem segmentInduction {motive : List Char → Prop} (nil : motive [])
    (percent : ∀ rest, motive rest → motive ('%' :: '%' :: rest))
    (directive : ∀ spelling rest d, spelling.head? ≠ some '%' →
      Directive.read (spelling ++ rest) = .ok (d, rest) → motive rest →
        motive ('%' :: (spelling ++ rest)))
    (malformed : ∀ text found, text.head? ≠ some '%' → Directive.read text = .error found →
      motive ('%' :: text))
    (literal : ∀ run rest, run ≠ [] → (∀ c ∈ run, c ≠ '%') → EndsRun rest → motive rest →
      motive (run ++ rest)) (text : List Char) : motive text := by
  -- A run is gathered on the way to its end.
  suffices h : ∀ run, (∀ c ∈ run, c ≠ '%') → motive (run ++ text) from h [] (by simp)
  have close : ∀ {rest}, EndsRun rest → motive rest → ∀ run, (∀ c ∈ run, c ≠ '%') →
      motive (run ++ rest) := by
    intro rest hends hrest run hrun
    by_cases hne : run = []
    · rwa [hne, List.nil_append]
    · exact literal run rest hne hrun hends hrest
  induction text using templateInduction with
  | nil => exact close endsRun_nil nil
  | percent rest ih => exact close (endsRun_percent _) (percent rest (ih [] (by simp)))
  | directive spelling rest d hhead hread ih =>
    exact close (endsRun_percent _) (directive spelling rest d hhead hread (ih [] (by simp)))
  | malformed text found hhead hread =>
    exact close (endsRun_percent _) (malformed text found hhead hread)
  | literal c rest hc ih =>
    intro run hrun
    have h := ih (run ++ [c]) (by simpa [or_imp, forall_and] using ⟨hrun, hc⟩)
    rwa [List.append_assoc] at h

namespace Template

/-- A template with more segments in front. -/
def prepend (segments : List Segment) (template : Template) : Template :=
  ⟨segments ++ template.segments, template.fault⟩

@[simp] lemma prepend_nil (template : Template) : template.prepend [] = template := rfl

lemma prepend_cons (segment : Segment) (segments : List Segment) (template : Template) :
    template.prepend (segment :: segments) = (template.prepend segments).cons segment := rfl

@[simp] lemma segments_cons (segment : Segment) (template : Template) :
    (template.cons segment).segments = segment :: template.segments := rfl

end Template

namespace Scanner

variable {offset : Nat} {rest : List Char}

/-- A run of literal text is read whole. -/
lemma next_run {run : List Char} (hne : run ≠ []) (hrun : ∀ c ∈ run, c ≠ '%')
    (hends : EndsRun rest) :
    next ⟨offset, run ++ rest⟩ = some (.ok (.literal run), ⟨offset + Utf8.size run, rest⟩) := by
  have htake : rest.takeWhile (· ≠ '%') = [] := by
    cases rest with
    | nil => rfl
    | cons c rest => simp [hends c rfl]
  have hdrop : rest.dropWhile (· ≠ '%') = rest := by
    cases rest with
    | nil => rfl
    | cons c rest => simp [hends c rfl]
  obtain ⟨c, more, rfl⟩ := List.exists_cons_of_ne_nil hne
  have hmore : ∀ x ∈ more, decide (x ≠ '%') = true := by
    intro x hx
    exact decide_eq_true (hrun x (List.mem_cons_of_mem c hx))
  rw [List.cons_append, next_literal (hrun c List.mem_cons_self),
    List.takeWhile_append_of_pos hmore, List.dropWhile_append_of_pos hmore, htake, hdrop,
    List.append_nil]

/-- A run of literal text is one segment. -/
lemma template_run {run : List Char} (hne : run ≠ []) (hrun : ∀ c ∈ run, c ≠ '%')
    (hends : EndsRun rest) :
    template ⟨offset, run ++ rest⟩
      = (template ⟨offset + Utf8.size run, rest⟩).cons (.literal run) :=
  template_of_next_ok (next_run hne hrun hends)

/-- A template without a malformed directive keeps its segments in front of another, if no run of
literal text goes on into that. -/
theorem template_append {front back : List Char} (hends : EndsRun back)
    (hfault : (template ⟨offset, front⟩).fault = none) :
    template ⟨offset, front ++ back⟩
      = (template ⟨offset + Utf8.size front, back⟩).prepend
          (template ⟨offset, front⟩).segments := by
  induction front using segmentInduction generalizing offset with
  | nil => simp [template_nil]
  | percent rest ih =>
    rw [template_percent] at hfault ⊢
    rw [List.cons_append, List.cons_append, template_percent, ih hfault, Template.segments_cons,
      Template.prepend_cons, offset_percent]
  | directive spelling rest d hhead hread ih =>
    have hread' := Directive.read_append hread back
    rw [List.append_assoc] at hread'
    rw [template_directive hhead hread] at hfault ⊢
    rw [List.cons_append, List.append_assoc, template_directive hhead hread', ih hfault,
      Template.segments_cons, Template.prepend_cons, offset_directive]
  | malformed text found hhead hread =>
    rw [template_malformed hhead hread] at hfault
    cases hfault
  | literal run rest hne hrun hrest ih =>
    rw [template_run hne hrun hrest] at hfault ⊢
    rw [List.append_assoc, template_run hne hrun (hrest.append hends), ih hfault,
      Template.segments_cons, Template.prepend_cons, Utf8.size_append, Nat.add_assoc]

end Scanner

end TypedFormat
