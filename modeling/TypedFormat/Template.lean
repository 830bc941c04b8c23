import TypedFormat.Directive.Reader
import TypedFormat.Failure

/-!
# Templates

A template is read from left to right as segments: runs of literal text, escapes `%%`, and
directives. Each segment knows how it is spelled, and the spellings of a template's segments tile
it: one after the other they give the text back, up to a directive that is malformed. Nothing is
read past that.
-/

namespace TypedFormat

/-- One piece of a template. A directive carries the number of bytes before its `%`, and what
is written after it. -/
inductive Segment where
  | literal (text : List Char)
  | percent
  | directive (offset : Nat) (spelling : List Char) (content : Directive)
deriving DecidableEq

/-- The text of a template that a segment stands for. -/
def Segment.spelling : Segment → List Char
  | .literal text           => text
  | .percent                => ['%', '%']
  | .directive _ spelling _ => '%' :: spelling

/-- The number of arguments that a segment draws. -/
def Segment.arity : Segment → Nat
  | .directive _ _ d => d.arity
  | _                => 0

/-- The part of a template that is still to be read, and the number of bytes before it. -/
structure Scanner where
  offset : Nat
  rest : List Char

namespace Scanner

def ofList (text : List Char) : Scanner :=
  ⟨0, text⟩

/-- The scanner past a segment. -/
def past (scanner : Scanner) (segment : Segment) (rest : List Char) : Scanner :=
  ⟨scanner.offset + Utf8.size segment.spelling, rest⟩

/-- Reads the next segment. After a malformed directive nothing is left to read. -/
def next (scanner : Scanner) : Option (Except Failure Segment × Scanner) :=
  match scanner.rest with
  | []                 => none
  | '%' :: '%' :: rest => some (.ok .percent, scanner.past .percent rest)
  | '%' :: text        =>
    match Directive.read text with
    | .ok (d, rest) =>
      let spelling := text.take (text.length - rest.length)
      let segment := .directive scanner.offset spelling d
      some (.ok segment, scanner.past segment rest)
    | .error found  => some (.error (.malformed scanner.offset found), ⟨scanner.offset, []⟩)
  | text               =>
    let segment := .literal (text.takeWhile (· ≠ '%'))
    some (.ok segment, scanner.past segment (text.dropWhile (· ≠ '%')))

theorem length_lt_of_next {scanner after : Scanner} {item : Except Failure Segment}
    (h : scanner.next = some (item, after)) : after.rest.length < scanner.rest.length := by
  unfold next at h
  split at h
  · simp at h
  · next heq =>
    simp only [Option.some.injEq, Prod.mk.injEq] at h
    rw [heq, ← h.2]
    simp only [past, List.length_cons]
    omega
  · next text _ heq =>
    split at h
    · next d rest hread =>
      have := Directive.length_lt_of_read hread
      simp only [Option.some.injEq, Prod.mk.injEq] at h
      rw [heq, ← h.2]
      simp [past]
      omega
    · simp only [Option.some.injEq, Prod.mk.injEq] at h; rw [heq, ← h.2]; simp
  · next hne _ hesc hper =>
    simp only [Option.some.injEq, Prod.mk.injEq] at h
    rw [← h.2]
    match hrest : scanner.rest with
    | [] => simp_all
    | c :: text =>
      have hc : c ≠ '%' := by
        rintro rfl
        exact hper text hrest
      have := (List.dropWhile_suffix (fun x => decide (x ≠ '%')) (l := text)).length_le
      simp [past, hc] at this ⊢
      omega

/-- All that is still to be read, item by item. -/
def items (scanner : Scanner) : List (Except Failure Segment) :=
  match _h : scanner.next with
  | none               => []
  | some (item, after) => item :: after.items
termination_by scanner.rest.length
decreasing_by exact length_lt_of_next ‹_›

end Scanner

/-- The segments of a template up to its end, or up to the malformed directive at `fault`. -/
structure Template where
  segments : List Segment
  fault : Option Failure

namespace Template

/-- Gathers what was read one item at a time. -/
def ofItems : List (Except Failure Segment) → Template
  | []                     => ⟨[], none⟩
  | .error failure :: _    => ⟨[], some failure⟩
  | .ok segment :: rest    =>
    let ⟨segments, fault⟩ := ofItems rest
    ⟨segment :: segments, fault⟩

/-- Reads a template. -/
def ofText (text : List Char) : Template :=
  ofItems (Scanner.ofList text).items

/-- The number of arguments that a template's directives draw. -/
def arity (template : Template) : Nat :=
  template.segments.foldr (fun segment n => segment.arity + n) 0

end Template

end TypedFormat
