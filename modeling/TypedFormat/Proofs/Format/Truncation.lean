import Mathlib
import TypedFormat.Proofs.Checked.Rendering
import TypedFormat.Proofs.Format.WrittenSizes
import TypedFormat.Proofs.Text.Utf8

/-!
# Texts are truncated by characters

`%s` shows an argument of any kind, by the first characters of its own text (`Wording.kept`), with
spaces up to the width on one side. The bytes of the text are cut between characters, so that truncating
once more goes on from whole characters (`Wording.kept_kept`).
-/

namespace TypedFormat

namespace Layout

/-- What has no lead and takes no zeros is placed with spaces alone. -/
lemma place_text (layout : Layout) (s : List Char) :
    let body := (layout.text s).body
    let missing := layout.width - body.length
    layout.place (layout.text s)
      = if layout.flags.adjustLeft then body ++ List.replicate missing ' '
        else List.replicate missing ' ' ++ body := by
  simp [place, Content.justify, Content.size, text]

end Layout

namespace Wording

/-- The characters of a text that the precision keeps. -/
def kept (w : Wording) (s : List Char) : List Char :=
  w.precision.size.number?.elim s s.take

/-- A text at the width, with spaces behind it if the flag `-` is written and else in front of it. -/
def padded (w : Wording) (s : List Char) : List Char :=
  let missing := w.width.size.number?.getD 0 - s.length
  if w.marks.minus then s ++ List.replicate missing ' ' else List.replicate missing ' ' ++ s

/-- The text that `%s` shows. -/
lemma show?_string {w : Wording} (hstring : w.conversion = .string) (a : Argument) :
    w.layout.show? a = some (w.padded (w.kept a.naturalText)) := by
  have hconversion : w.layout.conversion = .string := hstring
  have hplace : w.layout.place (w.layout.text a.naturalText) = w.padded (w.kept a.naturalText) :=
    w.layout.place_text a.naturalText
  unfold Layout.show?
  rw [hconversion, ← hplace]

/-- Cutting the bytes of the text gives the same. -/
lemma render_string {w : Wording} (hstring : w.conversion = .string) (policy : Policy)
    (offset index : Nat) (a : Argument) :
    Checked.render policy offset ⟨w.layout, some ⟨index, a⟩⟩
      = .ok (.ok (w.padded (w.kept a.naturalText))) := by
  have hconversion : w.layout.conversion = .string := hstring
  have hcontent : Checked.content? w.layout a = .ok (some (w.layout.text a.naturalText)) := by
    unfold Checked.content?
    rw [hconversion, ← Except.map_ok, ← Checked.text_eq]
  have hplace : w.layout.place (w.layout.text a.naturalText) = w.padded (w.kept a.naturalText) :=
    w.layout.place_text a.naturalText
  unfold Checked.render
  dsimp only
  rw [hcontent, ← hplace]
  rfl

lemma kept_of_size {w : Wording} {n : Nat} (h : w.precision.size = .literal n) (s : List Char) :
    w.kept s = s.take n := by
  simp [kept, h, Size.number?]

lemma padded_of_absent {w : Wording} (h : w.width = .absent) (s : List Char) : w.padded s = s := by
  simp [padded, h, SizeWording.size, Size.number?]

/-- With another precision that is written, the sizes are still written. -/
lemma IsWritten.withPrecision {w : Wording} (hw : w.IsWritten) {precision : PrecisionWording} {n : Nat}
    (hsize : precision.size = .literal n) (hn : n ≤ fieldLimit) :
    { w with precision : Wording }.IsWritten := by
  refine ⟨hw.width, ?_⟩
  show precision.size.IsWritten
  rw [hsize]
  exact hn

end Wording

/-- A directive `%s` shows every argument. -/
lemma format_shown {w : Wording} (hw : w.IsWritten) (hstring : w.conversion = .string) (policy : Policy)
    (a : Argument) (rest : List Argument) :
    format w.template (a :: rest) policy
      = .ok (String.ofList (w.padded (w.kept a.naturalText))) := by
  have hvalue : w.conversion.takesValue = true := by
    rw [hstring]
    rfl
  exact format_written_of_show? hw hvalue (Wording.show?_string hstring a) policy rest

/-- With its sizes written, `%s` shows an argument of any kind under every policy: the first characters
of the argument's own text, as many as the precision says, with spaces up to the width, behind them if
the flag `-` is set and else in front of them. The other flags have no part in it. The same comes of
cutting the bytes of the text, which never goes wrong. Bytes that write a text have this text for their
own. What a precision has kept of a text is truncated further as the text would have been, so that the
less of two precisions counts. -/
theorem format_string (policy : Policy) {w : Wording} (hw : w.IsWritten)
    (hstring : w.conversion = .string) (a : Argument) (rest : List Argument) :
    format w.template (a :: rest) policy
      = .ok (String.ofList (w.padded (w.kept a.naturalText))) ∧
    Checked.render policy 0 ⟨w.layout, some ⟨0, a⟩⟩
      = .ok (.ok (w.padded (w.kept a.naturalText))) ∧
    (∀ s : List Char, (Argument.raw (Utf8.encode s)).naturalText = s) ∧
    (∀ {p q r : PrecisionWording} {n m : Nat}, p.size = .literal n → q.size = .literal m →
      r.size = .literal (min n m) → n ≤ fieldLimit → m ≤ fieldLimit →
      ∃ cut,
        format { w with width := .absent, precision := p : Wording }.template (a :: rest) policy
          = .ok cut ∧
        format { w with precision := q : Wording }.template (.text cut :: rest) policy
          = format { w with precision := r : Wording }.template (a :: rest) policy) := by
  refine ⟨format_shown hw hstring policy a rest, Wording.render_string hstring policy 0 0 a,
    Utf8.lossy_encode, ?_⟩
  intro p q r n m hp hq hr hn hm
  have hfirst : { w with width := .absent, precision := p : Wording }.IsWritten :=
    @Wording.IsWritten.withPrecision { w with width := .absent } ⟨trivial, hw.precision⟩ p n hp hn
  refine ⟨String.ofList (a.naturalText.take n), ?_, ?_⟩
  · have hshown := format_shown hfirst hstring policy a rest
    rwa [Wording.padded_of_absent rfl, Wording.kept_of_size hp] at hshown
  · have hkept : (Argument.text (String.ofList (a.naturalText.take n))).naturalText.take m
        = a.naturalText.take (min n m) := by
      simp [Argument.naturalText, List.take_take, Nat.min_comm]
    rw [format_shown (hw.withPrecision hq hm) hstring,
      format_shown (hw.withPrecision hr ((Nat.min_le_left n m).trans hn)) hstring,
      Wording.kept_of_size hq, Wording.kept_of_size hr, hkept]
    rfl

/-- Bytes of which one is no character, with all flags, and a text that is truncated twice. -/
theorem format_string_of_bytes :
    let bytes : Argument := .raw [0xC3, 0xA9, 0xFF, 0x41]
    format "%-+#05.2s" [bytes] .strict = .ok "é\uFFFD   " ∧
    format "%+#05.3s" [bytes] .lenient = .ok "  é\uFFFDA" ∧
    format "%+#0.2s" [bytes] .lenient = .ok "é\uFFFD" ∧
    format "%+#05.3s" [.text "é\uFFFD"] .lenient = format "%+#05.2s" [bytes] .lenient := by
  intro bytes
  let left : Wording := ⟨⟨true, true, true, true⟩, .decimal 5, .point (.decimal 2), .absent, .string⟩
  let right : Wording :=
    ⟨⟨false, true, true, true⟩, .decimal 5, .point (.decimal 3), .absent, .string⟩
  have hleft := (format_string .strict (w := left) (by decide) rfl bytes []).1
  obtain ⟨hright, -, -, htwice⟩ := format_string .lenient (w := right) (by decide) rfl bytes []
  obtain ⟨cut, hcut, hsame⟩ := htwice (p := .point (.decimal 2)) (q := .point (.decimal 3))
    (r := .point (.decimal 2)) (n := 2) (m := 3) (SizeWording.size_decimal (by decide))
    (SizeWording.size_decimal (by decide)) (SizeWording.size_decimal (by decide)) (by decide)
    (by decide)
  have hshown : format "%+#0.2s" [bytes] .lenient = .ok "é\uFFFD" := by cbv
  obtain rfl : cut = "é\uFFFD" := Except.ok.inj (hcut.symm.trans hshown)
  exact ⟨hleft.trans (by cbv), hright.trans (by cbv), hshown, hsame⟩

end TypedFormat
