import TypedFormat.Proofs.Directive.Continuation
import TypedFormat.Proofs.Supply.Pairing

/-!
# Rendering from any place in a template

`Scanner.rendition` is what rendering comes to from some place in a template and some place in the
arguments. Its equations follow the text: a literal character stands for itself, `%%` for a percent
sign, and a directive for what it renders. Literal text is read one character at a time here, so
that where a run of it begins or ends plays no part.

Two calls that are paired have paired renditions (`Pairing.rendition_matches`).
-/

namespace TypedFormat

/-- A template with one more segment in front. -/
def Template.cons (segment : Segment) (template : Template) : Template :=
  ⟨segment :: template.segments, template.fault⟩

@[simp] lemma Template.arity_cons (segment : Segment) (template : Template) :
    (template.cons segment).arity = segment.arity + template.arity := rfl

/-- A run over a template with one more segment in front. -/
def Segment.renderThen (policy : Policy) (segment : Segment) (rest : Supply → Rendition)
    (s : Supply) : Rendition :=
  match segment.render policy s with
  | .ok text s' => (rest s').prepend text
  | .error f _  => ⟨[], some f⟩

/-- A directive renders a text and draws its arity, and the run goes on from there, or it fails and
the run ends. If it is an argument that it lacks, there were fewer than its arity. -/
lemma Segment.renderThen_directive (policy : Policy) (offset : Nat) (spelling : List Char)
    (d : Directive) (s : Supply) :
    (∃ t, d.arity ≤ s.remaining.length ∧ ∀ rest,
      renderThen policy (.directive offset spelling d) rest s
        = (rest (s.advance d.arity)).prepend t) ∨
    (∃ f k, k ≤ s.remaining.length ∧ Failure.Leaves policy offset f (s.advance k) ∧
      (f.IsUnderflow → s.remaining.length < d.arity) ∧ ∀ rest,
        renderThen policy (.directive offset spelling d) rest s = ⟨[], some f⟩) := by
  have hdraws := draws_render policy offset spelling d s
  cases hrender : Segment.render policy (.directive offset spelling d) s with
  | ok t s' =>
    obtain ⟨hlen, rfl, -⟩ := hdraws.of_ok hrender
    exact .inl ⟨t, hlen, fun rest => by rw [renderThen, hrender]⟩
  | error f s' =>
    have hlt := hdraws.remaining_lt hrender
    obtain ⟨hleaves, k, -, hk, rfl, -⟩ := hdraws.of_error hrender
    exact .inr ⟨f, k, hk, hleaves, hlt, fun rest => by rw [renderThen, hrender]⟩

@[simp] lemma Rendition.prepend_nil (r : Rendition) : r.prepend [] = r := rfl

@[simp] lemma Rendition.prepend_prepend (s t : List Char) (r : Rendition) :
    (r.prepend t).prepend s = r.prepend (s ++ t) := by
  simp [prepend]

@[simp] lemma Rendition.text_prepend (t : List Char) (r : Rendition) :
    (r.prepend t).text = t ++ r.text := rfl

namespace Scanner

/-- All that is still to be read. -/
def template (scanner : Scanner) : Template :=
  .ofItems scanner.items

/-- What rendering the rest of a template against a supply comes to. -/
def rendition (policy : Policy) (scanner : Scanner) (s : Supply) : Rendition :=
  Segment.renderAll policy scanner.template.fault scanner.template.segments s

/-! ### Item by item -/

lemma items_of_next_none {scanner : Scanner} (h : scanner.next = none) : scanner.items = [] := by
  rw [items]
  split
  · rfl
  · next hsome => rw [h] at hsome; cases hsome

lemma items_of_next_some {scanner after : Scanner} {item : Except Failure Segment}
    (h : scanner.next = some (item, after)) : scanner.items = item :: after.items := by
  rw [items]
  split
  · next hnone => rw [h] at hnone; cases hnone
  · next hsome => rw [h] at hsome; cases hsome; rfl

lemma template_of_next_ok {scanner after : Scanner} {segment : Segment}
    (h : scanner.next = some (.ok segment, after)) :
    scanner.template = after.template.cons segment := by
  rw [template, items_of_next_some h]
  rfl

lemma template_of_next_error {scanner after : Scanner} {f : Failure}
    (h : scanner.next = some (.error f, after)) : scanner.template = ⟨[], some f⟩ := by
  rw [template, items_of_next_some h]
  rfl

variable {offset : Nat} {text rest spelling : List Char} {d : Directive}

lemma template_nil : template ⟨offset, []⟩ = ⟨[], none⟩ := by
  rw [template, items_of_next_none rfl]
  rfl

/-- The byte after an escape. -/
lemma offset_percent (offset : Nat) (text : List Char) :
    offset + Utf8.size ('%' :: '%' :: text) = offset + 2 + Utf8.size text := by
  have hpercent : ('%' : Char).utf8Size = 1 := by decide
  simp only [Utf8.size_cons, hpercent]
  omega

/-- The byte after a directive and some text. -/
lemma offset_directive (offset : Nat) (spelling text : List Char) :
    offset + Utf8.size ('%' :: (spelling ++ text))
      = offset + Utf8.size ('%' :: spelling) + Utf8.size text := by
  rw [← List.cons_append, Utf8.size_append, Nat.add_assoc]

lemma template_percent :
    template ⟨offset, '%' :: '%' :: rest⟩ = (template ⟨offset + 2, rest⟩).cons .percent :=
  template_of_next_ok rfl

lemma next_directive (hhead : text.head? ≠ some '%') :
    next ⟨offset, '%' :: text⟩ = match Directive.read text with
      | .ok (d, rest) =>
        let segment := .directive offset (text.take (text.length - rest.length)) d
        some (.ok segment, past ⟨offset, '%' :: text⟩ segment rest)
      | .error found => some (.error (.malformed offset found), ⟨offset, []⟩) := by
  cases text with
  | nil => rfl
  | cons c text =>
    have hc : c ≠ '%' := by simpa using hhead
    unfold next
    split
    · simp_all
    · simp_all
    · next heq =>
      obtain ⟨-, rfl⟩ := List.cons.inj heq
      rfl
    · next hpercent => exact absurd rfl (hpercent (c :: text))

/-- A directive is read with all that is written of it, and nothing behind it. -/
lemma next_of_read (hhead : spelling.head? ≠ some '%')
    (hread : Directive.read (spelling ++ rest) = .ok (d, rest)) :
    next ⟨offset, '%' :: (spelling ++ rest)⟩
      = some (.ok (.directive offset spelling d), ⟨offset + Utf8.size ('%' :: spelling), rest⟩) := by
  have hne : spelling ≠ [] := by
    rintro rfl
    exact absurd (Directive.length_lt_of_read hread) (Nat.lt_irrefl _)
  have hhead' : (spelling ++ rest).head? ≠ some '%' := by
    obtain ⟨c, cs, rfl⟩ := List.exists_cons_of_ne_nil hne
    exact hhead
  have htake : (spelling ++ rest).take ((spelling ++ rest).length - rest.length) = spelling := by
    simp
  rw [next_directive hhead', hread]
  simp only [htake, past, Segment.spelling]

lemma template_directive (hhead : spelling.head? ≠ some '%')
    (hread : Directive.read (spelling ++ rest) = .ok (d, rest)) :
    template ⟨offset, '%' :: (spelling ++ rest)⟩
      = (template ⟨offset + Utf8.size ('%' :: spelling), rest⟩).cons
          (.directive offset spelling d) :=
  template_of_next_ok (next_of_read hhead hread)

lemma next_of_malformed {found : Option Char} (hhead : text.head? ≠ some '%')
    (hread : Directive.read text = .error found) :
    next ⟨offset, '%' :: text⟩ = some (.error (.malformed offset found), ⟨offset, []⟩) := by
  rw [next_directive hhead, hread]

lemma template_malformed {found : Option Char} (hhead : text.head? ≠ some '%')
    (hread : Directive.read text = .error found) :
    template ⟨offset, '%' :: text⟩ = ⟨[], some (.malformed offset found)⟩ :=
  template_of_next_error (next_of_malformed hhead hread)

lemma next_literal {c : Char} (hc : c ≠ '%') :
    next ⟨offset, c :: rest⟩
      = some (.ok (.literal (c :: rest.takeWhile (· ≠ '%'))),
          ⟨offset + Utf8.size (c :: rest.takeWhile (· ≠ '%')), rest.dropWhile (· ≠ '%')⟩) := by
  unfold next
  split
  · next h => cases h
  · next h => exact absurd (List.cons.inj h).1 hc
  · next h => exact absurd (List.cons.inj h).1 hc
  · simp [past, Segment.spelling, hc]

lemma template_literal {c : Char} (hc : c ≠ '%') :
    template ⟨offset, c :: rest⟩
      = (template ⟨offset + Utf8.size (c :: rest.takeWhile (· ≠ '%')),
          rest.dropWhile (· ≠ '%')⟩).cons (.literal (c :: rest.takeWhile (· ≠ '%'))) :=
  template_of_next_ok (next_literal hc)

/-! ### Equations of the rendition -/

section Equations

variable (policy : Policy) (s : Supply)

lemma rendition_of_cons {scanner after : Scanner} {segment : Segment}
    (h : scanner.template = after.template.cons segment) :
    scanner.rendition policy s = segment.renderThen policy (after.rendition policy) s := by
  unfold rendition
  rw [h]
  rfl

@[simp] lemma rendition_nil : rendition policy ⟨offset, []⟩ s = ⟨[], none⟩ := by
  rw [rendition, template_nil]
  rfl

lemma rendition_percent :
    rendition policy ⟨offset, '%' :: '%' :: rest⟩ s
      = (rendition policy ⟨offset + 2, rest⟩ s).prepend ['%'] :=
  rendition_of_cons policy s template_percent

lemma rendition_directive (hhead : spelling.head? ≠ some '%')
    (hread : Directive.read (spelling ++ rest) = .ok (d, rest)) :
    rendition policy ⟨offset, '%' :: (spelling ++ rest)⟩ s
      = Segment.renderThen policy (.directive offset spelling d)
          (rendition policy ⟨offset + Utf8.size ('%' :: spelling), rest⟩) s :=
  rendition_of_cons policy s (template_directive hhead hread)

lemma rendition_malformed {found : Option Char} (hhead : text.head? ≠ some '%')
    (hread : Directive.read text = .error found) :
    rendition policy ⟨offset, '%' :: text⟩ s = ⟨[], some (.malformed offset found)⟩ := by
  rw [rendition, template_malformed hhead hread]
  rfl

lemma rendition_takeWhile (text : List Char) (offset : Nat) :
    rendition policy ⟨offset, text⟩ s
      = (rendition policy ⟨offset + Utf8.size (text.takeWhile (· ≠ '%')),
          text.dropWhile (· ≠ '%')⟩ s).prepend (text.takeWhile (· ≠ '%')) := by
  cases text with
  | nil => rfl
  | cons c rest =>
    by_cases hc : c = '%'
    · simp [hc]
    · rw [rendition_of_cons policy s (template_literal hc)]
      simp [hc, Segment.renderThen, Segment.render, Pure.pure, EStateM.pure]

/-- A literal character stands for itself. -/
lemma rendition_cons {c : Char} (hc : c ≠ '%') :
    rendition policy ⟨offset, c :: rest⟩ s
      = (rendition policy ⟨offset + c.utf8Size, rest⟩ s).prepend [c] := by
  rw [rendition_takeWhile policy s (c :: rest), rendition_takeWhile policy s rest]
  simp [hc, Nat.add_assoc]

end Equations

/-! ### Arities -/

lemma arity_nil : (template ⟨offset, []⟩).arity = 0 := by
  rw [template_nil]
  rfl

lemma arity_percent :
    (template ⟨offset, '%' :: '%' :: rest⟩).arity = (template ⟨offset + 2, rest⟩).arity := by
  rw [template_percent, Template.arity_cons]
  exact Nat.zero_add _

lemma arity_directive (hhead : spelling.head? ≠ some '%')
    (hread : Directive.read (spelling ++ rest) = .ok (d, rest)) :
    (template ⟨offset, '%' :: (spelling ++ rest)⟩).arity
      = d.arity + (template ⟨offset + Utf8.size ('%' :: spelling), rest⟩).arity := by
  rw [template_directive hhead hread, Template.arity_cons]
  rfl

lemma arity_takeWhile (text : List Char) (offset : Nat) :
    (template ⟨offset, text⟩).arity
      = (template ⟨offset + Utf8.size (text.takeWhile (· ≠ '%')),
          text.dropWhile (· ≠ '%')⟩).arity := by
  cases text with
  | nil => rfl
  | cons c rest =>
    by_cases hc : c = '%'
    · simp [hc]
    · rw [template_literal hc]
      simp [hc, Segment.arity]

lemma arity_cons {c : Char} (hc : c ≠ '%') :
    (template ⟨offset, c :: rest⟩).arity = (template ⟨offset + c.utf8Size, rest⟩).arity := by
  rw [arity_takeWhile (c :: rest), arity_takeWhile rest]
  simp [hc, Nat.add_assoc]

end Scanner

/-! ### Outcomes of calls -/

section Outcomes

variable {policy : Policy} {template : String} {arguments : List Argument}

lemma format_eq_map_result : format template arguments policy = Except.map String.ofList
    (Scanner.rendition policy ⟨0, template.toList⟩ (.ofList arguments)).result := rfl

lemma format_eq_ok_iff {text : String} :
    format template arguments policy = .ok text ↔ ∃ t, String.ofList t = text ∧
      Scanner.rendition policy ⟨0, template.toList⟩ (.ofList arguments) = ⟨t, none⟩ := by
  rw [format_eq_map_result]
  obtain ⟨t, failure⟩ := Scanner.rendition policy ⟨0, template.toList⟩ (.ofList arguments)
  cases failure <;> simp [Rendition.result, Except.map]

lemma format_eq_error_iff {f : Failure} :
    format template arguments policy = .error f ↔ ∃ t,
      Scanner.rendition policy ⟨0, template.toList⟩ (.ofList arguments) = ⟨t, some f⟩ := by
  rw [format_eq_map_result]
  obtain ⟨t, failure⟩ := Scanner.rendition policy ⟨0, template.toList⟩ (.ofList arguments)
  cases failure <;> simp [Rendition.result, Except.map]

lemma failure?_eq_some_iff {f : Failure} :
    (Scanner.rendition policy ⟨0, template.toList⟩ (.ofList arguments)).failure? = some f ↔
      format template arguments policy = .error f := by
  rw [format_eq_map_result]
  obtain ⟨t, failure⟩ := Scanner.rendition policy ⟨0, template.toList⟩ (.ofList arguments)
  cases failure <;> simp [Rendition.result, Except.map]

end Outcomes

/-! ### Induction along a template -/

/-- Induction along the text of a template: its end, an escape, a directive, a malformed
directive, or a literal character. -/
@[elab_as_elim]
theorem templateInduction {motive : List Char → Prop} (nil : motive [])
    (percent : ∀ rest, motive rest → motive ('%' :: '%' :: rest))
    (directive : ∀ spelling rest d, spelling.head? ≠ some '%' →
      Directive.read (spelling ++ rest) = .ok (d, rest) → motive rest →
        motive ('%' :: (spelling ++ rest)))
    (malformed : ∀ text found, text.head? ≠ some '%' → Directive.read text = .error found →
      motive ('%' :: text))
    (literal : ∀ c rest, c ≠ '%' → motive rest → motive (c :: rest)) (text : List Char) :
    motive text := by
  -- The text that is left is shorter in every case, also after a directive.
  induction hn : text.length using Nat.strongRecOn generalizing text with
  | _ n ih =>
    subst hn
    cases text with
    | nil => exact nil
    | cons c rest =>
      by_cases hc : c = '%'
      · subst hc
        by_cases hhead : rest.head? = some '%'
        · obtain ⟨rest', rfl⟩ := List.head?_eq_some_iff.mp hhead
          exact percent rest' (ih rest'.length (Nat.lt_add_of_pos_right (Nat.zero_lt_two)) rest' rfl)
        · cases hread : Directive.read rest with
          | error found => exact malformed rest found hhead hread
          | ok result =>
            obtain ⟨d, rest'⟩ := result
            obtain ⟨w, -, -, rfl⟩ := Directive.read_eq_ok_iff.mp hread
            have hlt := Directive.length_lt_of_read hread
            refine directive w.spelling rest' d ?_ hread
              (ih rest'.length (Nat.lt_succ_of_lt hlt) rest' rfl)
            intro h
            rw [List.head?_append, h] at hhead
            exact hhead rfl
      · exact literal c rest hc (ih rest.length (by simp) rest rfl)

/-- A rendition fails where a directive is malformed, or at a directive that draws from what the
ones before it left. -/
lemma Scanner.leaves_of_failure {policy : Policy} {text : List Char} {offset : Nat} {s : Supply}
    {f : Failure} (h : (rendition policy ⟨offset, text⟩ s).failure? = some f) :
    (∃ o found, f = .malformed o found) ∨
      ∃ o k, k ≤ s.remaining.length ∧ Failure.Leaves policy o f (s.advance k) := by
  induction text using templateInduction generalizing offset s with
  | nil => simp at h
  | percent rest ih =>
    rw [rendition_percent] at h
    exact ih h
  | directive spelling rest d hhead hread ih =>
    rw [rendition_directive _ _ hhead hread] at h
    rcases Segment.renderThen_directive policy offset spelling d s with
      ⟨t, hlen, hthen⟩ | ⟨e, k, hk, hleaves, -, hthen⟩
    · rw [hthen] at h
      rcases ih h with hmalformed | ⟨o, k, hk, hleaves⟩
      · exact .inl hmalformed
      · rw [Supply.remaining_advance, List.length_drop] at hk
        rw [Supply.advance_advance] at hleaves
        exact .inr ⟨o, d.arity + k, by omega, hleaves⟩
    · rw [hthen] at h
      obtain rfl := Option.some.inj h
      exact .inr ⟨offset, k, hk, hleaves⟩
  | malformed text found hhead hread =>
    rw [rendition_malformed _ _ hhead hread] at h
    obtain rfl := Option.some.inj h
    exact .inl ⟨offset, found, rfl⟩
  | literal c rest hc ih =>
    rw [rendition_cons _ _ hc] at h
    exact ih h

/-! ### Paired calls -/

/-- The rendition of the second call follows that of the first. -/
def Pairing.Matches (P : Pairing) (r r' : Rendition) : Prop :=
  (∃ f, r.failure? = some f ∧ P.excused f) ∨ r' = ⟨r.text, r.failure?.map P.failure⟩

lemma Pairing.Matches.prepend {P : Pairing} {r r' : Rendition} (h : P.Matches r r')
    (text : List Char) : P.Matches (r.prepend text) (r'.prepend text) := by
  rcases h with hexcused | rfl
  · exact .inl hexcused
  · exact .inr rfl

/-- Paired calls have paired renditions. -/
theorem Pairing.rendition_matches (P : Pairing) (text : List Char) (offset : Nat) (s : Supply) :
    P.Matches (Scanner.rendition P.first ⟨offset, text⟩ s)
      (Scanner.rendition P.second ⟨offset + P.bytes, text⟩ (P.supply s)) := by
  induction text using templateInduction generalizing offset s with
  | nil => exact .inr (by simp)
  | percent rest ih =>
    rw [Scanner.rendition_percent, Scanner.rendition_percent, Nat.add_right_comm]
    exact (ih _ s).prepend _
  | directive spelling rest d hhead hread ih =>
    rw [Scanner.rendition_directive _ _ hhead hread, Scanner.rendition_directive _ _ hhead hread,
      Nat.add_right_comm]
    unfold Segment.renderThen
    rcases P.render offset spelling d s with ⟨f, s', hf, hexcused⟩ | hsecond
    · rw [hf]
      exact .inl ⟨f, rfl, hexcused⟩
    · rw [hsecond]
      cases Segment.render P.first (.directive offset spelling d) s with
      | ok t s' => exact (ih _ s').prepend t
      | error f s' => exact .inr rfl
  | malformed text found hhead hread =>
    rw [Scanner.rendition_malformed _ _ hhead hread, Scanner.rendition_malformed _ _ hhead hread]
    exact .inr rfl
  | literal c rest hc ih =>
    rw [Scanner.rendition_cons _ _ hc, Scanner.rendition_cons _ _ hc, Nat.add_right_comm]
    exact (ih _ s).prepend _

end TypedFormat
