import Mathlib
import TypedFormat.Proofs.Format.Concatenation

/-!
# Escaped text

A text with every percent sign doubled stands for itself. Wherever the scanner begins to read it, the
percent signs pair up from the left, so that it draws no argument and what follows it is read by itself
(`Scanner.rendition_escape`). Behind a template that renders to its end, the scanner does begin there
(`Scanner.rendition_append_of_none`).
-/

namespace TypedFormat

/-- How a character is written in a template to stand for itself. -/
def escapeChar (c : Char) : List Char :=
  if c = '%' then ['%', '%'] else [c]

/-- A text with every percent sign doubled. -/
def escape (text : String) : String :=
  String.ofList (text.toList.flatMap escapeChar)

@[simp] lemma toList_escape (text : String) : (escape text).toList = text.toList.flatMap escapeChar :=
  String.toList_ofList

namespace Scanner

variable (text rest : List Char) (offset : Nat)

/-- In front of a template, escaped text stands for itself, and the template is rendered as it is
without it, except for its place. -/
lemma rendition_escape (policy : Policy) (s : Supply) :
    rendition policy ⟨offset, text.flatMap escapeChar ++ rest⟩ s
      = (rendition policy ⟨offset + Utf8.size (text.flatMap escapeChar), rest⟩ s).prepend text := by
  induction text generalizing offset with
  | nil => rfl
  | cons c text ih =>
    rw [List.flatMap_cons, List.append_assoc]
    by_cases hc : c = '%'
    · subst hc
      show rendition policy ⟨offset, '%' :: '%' :: (text.flatMap escapeChar ++ rest)⟩ s = _
      rw [rendition_percent, ih, Rendition.prepend_prepend, ← offset_percent]
      rfl
    · rw [escapeChar, if_neg hc, List.singleton_append, rendition_cons policy s hc, ih,
        Rendition.prepend_prepend, List.singleton_append, List.singleton_append, Utf8.size_cons,
        Nat.add_assoc]

/-- Escaped text draws no argument. -/
lemma arity_escape : (template ⟨offset, text.flatMap escapeChar⟩).arity = 0 := by
  induction text generalizing offset with
  | nil => exact arity_nil
  | cons c text ih =>
    rw [List.flatMap_cons]
    by_cases hc : c = '%'
    · rw [escapeChar, if_pos hc]
      exact arity_percent.trans (ih _)
    · rw [escapeChar, if_neg hc]
      exact (arity_cons hc).trans (ih _)

end Scanner

/-- With every percent sign doubled, a text is a template that renders as this text, whatever the
arguments, and draws none of them. In front of a template that renders, and behind it, such texts stand
for themselves, and the template renders with the same arguments as by itself. -/
theorem format_escape (policy : Policy) (arguments : List Argument) :
    (∀ s, format (escape s) arguments policy = .ok s ∧ arity (escape s) = 0) ∧
    (∀ s t u x, format t arguments policy = .ok x →
      format (escape s ++ t ++ escape u) arguments policy = .ok (s ++ x ++ u)) := by
  have hescape : ∀ (u : List Char) (offset : Nat) (supply : Supply),
      Scanner.rendition policy ⟨offset, u.flatMap escapeChar⟩ supply = ⟨u, none⟩ := by
    intro u offset supply
    rw [← List.append_nil (u.flatMap escapeChar), Scanner.rendition_escape]
    simp [Rendition.prepend]
  constructor
  · intro s
    refine ⟨format_eq_ok_iff.mpr ⟨s.toList, String.ofList_toList, ?_⟩, ?_⟩
    · rw [toList_escape]
      exact hescape s.toList 0 _
    · rw [arity, toList_escape]
      exact Scanner.arity_escape s.toList 0
  · intro s t u x h
    obtain ⟨shown, rfl, hshown⟩ := format_eq_ok_iff.mp h
    -- The template stands further on, so it is taken back to the front before its end is used.
    have hplaced : Scanner.rendition policy
        ⟨Utf8.size (s.toList.flatMap escapeChar), t.toList⟩ (.ofList arguments) = ⟨shown, none⟩ := by
      rw [Supply.ofList, Scanner.rendition_displaced, hshown]
      rfl
    obtain ⟨-, hbehind⟩ := Scanner.rendition_append_of_none (u.toList.flatMap escapeChar)
      (congrArg Rendition.failure? hplaced)
    refine format_eq_ok_iff.mpr ⟨s.toList ++ shown ++ u.toList, by simp [String.append_assoc], ?_⟩
    rw [String.toList_append, String.toList_append, toList_escape, toList_escape, List.append_assoc,
      Scanner.rendition_escape, Nat.zero_add, hbehind, hplaced, hescape]
    simp [Rendition.prepend]

/-- Percent signs on both sides of a directive, one of them right behind its conversion `%`. -/
theorem format_escape_of_percent_signs :
    (format (escape "é%%%d") [.integer 5] .strict = .ok "é%%%d" ∧ arity (escape "é%%%d") = 0) ∧
    format "%-3d|%%%5%" [.integer 5] .strict = .ok "5  |%    %" ∧
    format "%%%-3d|%%%5%%%s" [.integer 5] .strict = .ok "%5  |%    %%s" := by
  have hshown : format "%-3d|%%%5%" [.integer 5] .strict = .ok "5  |%    %" := by cbv
  refine ⟨(format_escape .strict [.integer 5]).1 "é%%%d", hshown, ?_⟩
  exact (format_escape .strict [.integer 5]).2 "%" "%-3d|%%%5%" "%s" _ hshown

end TypedFormat
