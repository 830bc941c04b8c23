import Mathlib
import TypedFormat.Proofs.Format.Concatenation
import TypedFormat.Proofs.Format.Segmentation

/-!
# Where a call fails

A failure names the byte at which its directive begins. Up to there the template renders by itself,
to what was written before the failure, so the directive that failed wrote nothing. What was there
before the call plays no part.
-/

namespace TypedFormat

namespace Failure

/-- The byte of the template at which the directive of a failure begins. -/
def offset? : Failure → Option Nat
  | .malformed offset _    => some offset
  | .underflow offset _    => some offset
  | .mismatch offset _ _ _ => some offset
  | .tooLarge offset _ _   => some offset
  | .undelivered _         => none

/-- The argument that a failure is about. -/
def index? : Failure → Option Nat
  | .underflow _ index    => some index
  | .mismatch _ index _ _ => some index
  | .malformed ..         => none
  | .tooLarge ..          => none
  | .undelivered _        => none

lemma Leaves.offset?_eq {policy : Policy} {offset : Nat} {f : Failure} {s : Supply}
    (h : Leaves policy offset f s) : f.offset? = some offset := by
  cases h <;> rfl

lemma index?_displace (f : Failure) (bytes count : Nat) :
    (f.displace bytes count).index? = f.index?.map (· + count) := by
  cases f <;> rfl

end Failure

/-! ### Onto a text -/

/-- Rendering onto a text leaves the text in front. -/
lemma Segment.renderAllOnto_eq (policy : Policy) (fault : Option Failure)
    (segments : List Segment) (s : Supply) (written : List Char) :
    renderAllOnto policy fault segments s written
      = (renderAll policy fault segments s).prepend written := by
  induction segments generalizing s written with
  | nil => simp [renderAllOnto, renderAll, Rendition.prepend]
  | cons segment rest ih =>
    unfold renderAllOnto renderAll
    cases segment.render policy s with
    | ok text s' => simp [ih]
    | error f s' => simp [Rendition.prepend]

/-- A run that renders to its end met no malformed directive. -/
lemma Segment.fault_eq_none_of_renderAll {policy : Policy} {fault : Option Failure}
    {segments : List Segment} {s : Supply}
    (h : (renderAll policy fault segments s).failure? = none) : fault = none := by
  induction segments generalizing s with
  | nil => exact h
  | cons segment rest ih =>
    unfold renderAll at h
    cases hrender : segment.render policy s with
    | ok text s' =>
      rw [hrender] at h
      exact ih h
    | error f s' =>
      rw [hrender] at h
      cases h

/-! ### The place of a failure -/

namespace Scanner

variable {policy : Policy} {text : List Char} {offset : Nat} {s : Supply} {f : Failure}

/-- The argument that a failure is about was not drawn before. -/
lemma position_le_index {index : Nat}
    (h : (rendition policy ⟨offset, text⟩ s).failure? = some f) (hf : f.index? = some index) :
    s.position ≤ index := by
  obtain ⟨position, arguments⟩ := s
  rw [rendition_displaced] at h
  obtain ⟨e, -, rfl⟩ := Option.map_eq_some_iff.mp h
  rw [Failure.index?_displace] at hf
  obtain ⟨i, -, rfl⟩ := Option.map_eq_some_iff.mp hf
  exact Nat.le_add_left position i

/-- At `offset` a directive begins: it is read there, or it is malformed and `f` says so. -/
def Fails (offset : Nat) (text : List Char) (f : Failure) : Prop :=
  (∃ spelling d later,
    template ⟨offset, text⟩ = Template.cons (.directive offset spelling d) later) ∨
  template ⟨offset, text⟩ = ⟨[], some f⟩

/-- A template fails at a directive. What is in front of that renders to all that was written, and
the failure is about no argument that was drawn there. -/
theorem exists_front_of_failure
    (h : (rendition policy ⟨offset, text⟩ s).failure? = some f) :
    ∃ front back, text = front ++ '%' :: back ∧
      f.offset? = some (offset + Utf8.size front) ∧
      rendition policy ⟨offset, front⟩ s = ⟨(rendition policy ⟨offset, text⟩ s).text, none⟩ ∧
      (∀ index, f.index? = some index →
        s.position + (template ⟨offset, front⟩).arity ≤ index) ∧
      Fails (offset + Utf8.size front) ('%' :: back) f := by
  induction text using templateInduction generalizing offset s with
  | nil => simp at h
  | percent rest ih =>
    rw [rendition_percent] at h
    obtain ⟨front, back, rfl, hoffset, hfront, hindex, hfails⟩ := ih h
    refine ⟨'%' :: '%' :: front, back, rfl, ?_, ?_, ?_, ?_⟩
    · rw [offset_percent, hoffset]
    · rw [rendition_percent, rendition_percent, hfront]
      rfl
    · rw [arity_percent]
      exact hindex
    · rw [offset_percent]
      exact hfails
  | directive spelling rest d hhead hread ih =>
    rw [rendition_directive _ _ hhead hread] at h ⊢
    rcases Segment.renderThen_directive policy offset spelling d s with
      ⟨t, hlen, hthen⟩ | ⟨e, k, -, hleaves, -, hthen⟩
    · rw [hthen] at h ⊢
      obtain ⟨front, back, rfl, hoffset, hfront, hindex, hfails⟩ := ih h
      have hread' := Directive.read_of_read_append hread front
      refine ⟨'%' :: (spelling ++ front), back, by simp, ?_, ?_, ?_, ?_⟩
      · rw [offset_directive, hoffset]
      · rw [rendition_directive _ _ hhead hread', hthen, hfront]
        rfl
      · intro index hi
        have hle := hindex index hi
        rw [arity_directive hhead hread', ← Nat.add_assoc]
        exact hle
      · rw [offset_directive]
        exact hfails
    · have hwhole : (rendition policy ⟨offset, '%' :: (spelling ++ rest)⟩ s).failure? = some e := by
        rw [rendition_directive _ _ hhead hread, hthen]
      rw [hthen] at h ⊢
      obtain rfl := Option.some.inj h
      refine ⟨[], spelling ++ rest, rfl, hleaves.offset?_eq, rendition_nil _ _, ?_, ?_⟩
      · intro index hi
        rw [arity_nil]
        exact position_le_index hwhole hi
      · exact .inl ⟨_, _, _, template_directive hhead hread⟩
  | malformed text found hhead hread =>
    rw [rendition_malformed _ _ hhead hread] at h ⊢
    obtain rfl := Option.some.inj h
    refine ⟨[], text, rfl, rfl, rendition_nil _ _, ?_, ?_⟩
    · intro index hi
      cases hi
    · exact .inr (template_malformed hhead hread)
  | literal c rest hc ih =>
    rw [rendition_cons _ _ hc] at h ⊢
    obtain ⟨front, back, rfl, hoffset, hfront, hindex, hfails⟩ := ih h
    have hsize : offset + Utf8.size (c :: front) = offset + c.utf8Size + Utf8.size front := by
      rw [Utf8.size_cons, Nat.add_assoc]
    refine ⟨c :: front, back, rfl, ?_, ?_, ?_, ?_⟩
    · rw [hsize, hoffset]
    · rw [rendition_cons _ _ hc, hfront]
      rfl
    · rw [arity_cons hc]
      exact hindex
    · rw [hsize]
      exact hfails

/-- The template splits at the directive that fails, also segment by segment. -/
lemma segments_of_fails {front back : List Char}
    (hfault : (template ⟨offset, front⟩).fault = none)
    (hfails : Fails (offset + Utf8.size front) ('%' :: back) f) :
    (∃ spelling d later, (template ⟨offset, front ++ '%' :: back⟩).segments
      = (template ⟨offset, front⟩).segments
        ++ .directive (offset + Utf8.size front) spelling d :: later) ∨
    template ⟨offset, front ++ '%' :: back⟩
      = ⟨(template ⟨offset, front⟩).segments, some f⟩ := by
  rw [template_append (endsRun_percent back) hfault]
  rcases hfails with ⟨spelling, d, later, hdirective⟩ | hmalformed
  · left
    refine ⟨spelling, d, later.segments, ?_⟩
    rw [hdirective]
    rfl
  · right
    rw [hmalformed]
    simp [Template.prepend]

end Scanner

/-- A template is rendered behind whatever is written by then, and that has no part in the result.
If nothing fails, the text is the one of the call. If the call fails, the failure names the byte of
a `%`, at which the template has a directive or a malformed one. What is in front of it renders by
itself, to exactly the text that was written, and the failure is about no argument drawn there. -/
theorem renderOnto_localised (policy : Policy) (template : String) (arguments : List Argument) :
    ∃ r : Rendition,
      (∀ written, (Template.ofText template.toList).renderOnto policy arguments written
        = ⟨written ++ r.text, r.failure?⟩) ∧
      match r.failure? with
      | none => format template arguments policy = .ok (String.ofList r.text)
      | some f =>
        format template arguments policy = .error f ∧
        ∃ front back : String, template = front ++ "%" ++ back ∧
          f.offset? = some front.utf8ByteSize ∧
          format front arguments policy = .ok (String.ofList r.text) ∧
          (∀ index, f.index? = some index → arity front ≤ index) ∧
          ((∃ spelling d later, (Template.ofText template.toList).segments
              = (Template.ofText front.toList).segments
                ++ .directive front.utf8ByteSize spelling d :: later) ∨
            Template.ofText template.toList
              = ⟨(Template.ofText front.toList).segments, some f⟩) := by
  let r := Scanner.rendition policy ⟨0, template.toList⟩ (.ofList arguments)
  refine ⟨r, fun written => Segment.renderAllOnto_eq policy _ _ _ written, ?_⟩
  cases hr : r.failure? with
  | none => exact format_eq_ok_iff.mpr ⟨r.text, rfl, by rw [← hr]⟩
  | some f =>
    refine ⟨failure?_eq_some_iff.mp hr, ?_⟩
    obtain ⟨front, back, htext, hoffset, hfront, hindex, hfails⟩ :=
      Scanner.exists_front_of_failure hr
    have hfault : (Scanner.template ⟨0, front⟩).fault = none :=
      Segment.fault_eq_none_of_renderAll (congrArg Rendition.failure? hfront)
    have hsize : (String.ofList front).utf8ByteSize = Utf8.size front :=
      (Utf8.size_ofList front).symm
    rw [Nat.zero_add] at hoffset
    refine ⟨String.ofList front, String.ofList back, ?_, ?_, ?_, ?_, ?_⟩
    · rw [← String.toList_inj, htext]
      simp
    · rw [hsize, hoffset]
    · exact format_eq_ok_iff.mpr ⟨r.text, rfl, by rw [String.toList_ofList]; exact hfront⟩
    · intro index hi
      have hle := hindex index hi
      rwa [show (Supply.ofList arguments).position = 0 from rfl, Nat.zero_add,
        ← String.toList_ofList (l := front)] at hle
    · have hsplit := Scanner.segments_of_fails hfault hfails
      rw [← htext, Nat.zero_add, ← hsize] at hsplit
      rw [String.toList_ofList]
      exact hsplit

/-- The second value is missing: what is written ends in front of its directive. -/
example : (Template.ofText "a%%%d,%5d".toList).renderOnto .strict [.integer 1] "> ".toList
    = ⟨"> a%1,".toList, some (.underflow 6 1)⟩ := by
  cbv

end TypedFormat
