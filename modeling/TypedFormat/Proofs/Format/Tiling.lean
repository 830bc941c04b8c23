import Mathlib
import TypedFormat.Proofs.Format.Segmentation

/-!
# Segments tile a template

Calls for the next item of a template give its segments in order, then the malformed directive if
there is one, and after that nothing, however often they are made (`Scanner.answers_tile`). From one
call to the next the scanner goes on by what the segment between them stands for. So segments lie
side by side, the first of them at the first byte, and up to the end of the template or to the
malformed directive. Each is as long as it has to be: a run of literal text ends at a `%`, and a
directive where reading it ends.
-/

namespace TypedFormat

/-- The text that segments stand for, one behind the other. -/
def spelled (segments : List Segment) : List Char :=
  segments.flatMap Segment.spelling

/-- A segment that may stand at byte `offset` in front of `rest`. -/
inductive Segment.Stands (offset : Nat) (rest : List Char) : Segment → Prop where
  /-- A run of literal text is not empty and goes on to a percent sign or to the end. -/
  | literal {run : List Char} (hne : run ≠ []) (hrun : ∀ c ∈ run, c ≠ '%') (hends : EndsRun rest) :
      Stands offset rest (.literal run)
  | percent : Stands offset rest .percent
  /-- A directive is what is read behind its percent sign, at which it has its offset. What begins
  with a second percent sign is no directive. -/
  | directive {spelling : List Char} {d : Directive} (hhead : spelling.head? ≠ some '%')
      (hread : Directive.read (spelling ++ rest) = .ok (d, rest)) :
      Stands offset rest (.directive offset spelling d)

namespace Scanner

/-! ### One call -/

/-- The scanner that a call for the next item leaves. At the end it stays as it is. -/
def call (scanner : Scanner) : Scanner :=
  scanner.next.elim scanner Prod.snd

/-- What a call can give, and what it leaves to read. -/
inductive Gives (scanner : Scanner) : Option (Except Failure Segment × Scanner) → Prop where
  | done (hrest : scanner.rest = []) : Gives scanner none
  | segment {segment : Segment} {rest : List Char} (hrest : scanner.rest = segment.spelling ++ rest)
      (hstands : segment.Stands scanner.offset rest) :
      Gives scanner (some (.ok segment, ⟨scanner.offset + Utf8.size segment.spelling, rest⟩))
  | malformed {text : List Char} {found : Option Char} (hrest : scanner.rest = '%' :: text)
      (hhead : text.head? ≠ some '%') (hread : Directive.read text = .error found) :
      Gives scanner (some (.error (.malformed scanner.offset found), ⟨scanner.offset, []⟩))

lemma gives_next (scanner : Scanner) : scanner.Gives scanner.next := by
  obtain ⟨offset, text⟩ := scanner
  cases text using segmentInduction with
  | nil => exact .done rfl
  | percent rest _ =>
    refine .segment ?_ .percent
    rfl
  | directive spelling rest d hhead hread _ =>
    rw [next_of_read hhead hread]
    exact .segment rfl (.directive hhead hread)
  | malformed text found hhead hread =>
    rw [next_of_malformed hhead hread]
    exact .malformed rfl hhead hread
  | literal run rest hne hrun hends _ =>
    rw [next_run hne hrun hends]
    exact .segment rfl (.literal hne hrun hends)

/-- The items are the segments of the template, and then its malformed directive. -/
lemma items_eq (scanner : Scanner) :
    scanner.items = scanner.template.segments.map .ok ++ scanner.template.fault.toList.map .error := by
  induction scanner using Scanner.items.induct with
  | case1 scanner hnext =>
    rw [template, items_of_next_none hnext]
    rfl
  | case2 scanner item after hnext ih =>
    have hgives := scanner.gives_next
    rw [hnext] at hgives
    rw [items_of_next_some hnext]
    cases hgives with
    | segment hrest hstands =>
      rw [template_of_next_ok hnext, ih]
      rfl
    | malformed hrest hhead hread =>
      rw [template_of_next_error hnext, items_of_next_none rfl]
      rfl

/-! ### Calls one after the other -/

/-- The scanner after a number of calls. -/
def afterCalls (scanner : Scanner) : Nat → Scanner
  | 0     => scanner
  | n + 1 => (scanner.afterCalls n).call

/-- What the call after `n` others gives. -/
def answer (scanner : Scanner) (n : Nat) : Option (Except Failure Segment) :=
  (scanner.afterCalls n).next.map Prod.fst

lemma items_call (scanner : Scanner) : scanner.call.items = scanner.items.tail := by
  unfold call
  cases hnext : scanner.next with
  | none =>
    rw [Option.elim_none, items_of_next_none hnext]
    rfl
  | some result =>
    rw [Option.elim_some, items_of_next_some hnext]
    rfl

lemma items_afterCalls (scanner : Scanner) (n : Nat) :
    (scanner.afterCalls n).items = scanner.items.drop n := by
  induction n with
  | zero => rfl
  | succ n ih => rw [afterCalls, items_call, ih, List.tail_drop]

/-- The calls give the items in order, and then nothing. -/
lemma answer_eq (scanner : Scanner) (n : Nat) : scanner.answer n = scanner.items[n]? := by
  rw [← List.head?_drop, ← items_afterCalls, answer]
  cases hnext : (scanner.afterCalls n).next with
  | none =>
    rw [items_of_next_none hnext]
    rfl
  | some result =>
    rw [items_of_next_some hnext]
    rfl

lemma answer_segment {scanner : Scanner} {n : Nat} {segment : Segment}
    (h : scanner.template.segments[n]? = some segment) : scanner.answer n = some (.ok segment) := by
  have hn : n < scanner.template.segments.length := (List.getElem?_eq_some_iff.mp h).1
  rw [answer_eq, items_eq, List.getElem?_append_left (by simpa using hn), List.getElem?_map, h]
  rfl

/-- The call after all segments gives the malformed directive, if there is one. -/
lemma answer_length (scanner : Scanner) :
    scanner.answer scanner.template.segments.length = scanner.template.fault.map .error := by
  rw [answer_eq, items_eq, List.getElem?_append_right (by simp), List.length_map, Nat.sub_self]
  cases scanner.template.fault <;> rfl

/-! ### What lies between two calls -/

/-- A call that gives a segment goes on by what the segment stands for. -/
structure Passes (scanner : Scanner) (segment : Segment) : Prop where
  rest : scanner.rest = segment.spelling ++ scanner.call.rest
  offset : scanner.call.offset = scanner.offset + Utf8.size segment.spelling
  stands : segment.Stands scanner.offset scanner.call.rest

lemma passes_of_next {scanner : Scanner} {segment : Segment}
    (h : scanner.next.map Prod.fst = some (.ok segment)) : scanner.Passes segment := by
  obtain ⟨⟨item, after⟩, hnext, hitem⟩ := Option.map_eq_some_iff.mp h
  obtain rfl : item = .ok segment := hitem
  have hcall : scanner.call = after := by rw [call, hnext, Option.elim_some]
  have hgives := scanner.gives_next
  rw [hnext] at hgives
  cases hgives with
  | segment hrest hstands => exact ⟨hcall ▸ hrest, hcall ▸ rfl, hcall ▸ hstands⟩

/-- Each segment lies between two calls. -/
lemma passes_segment {scanner : Scanner} {n : Nat} {segment : Segment}
    (h : scanner.template.segments[n]? = some segment) :
    (scanner.afterCalls n).Passes segment :=
  passes_of_next (answer_segment h)

/-- After as many calls as there are segments, or fewer, the segments that were given are what was
read. -/
lemma afterCalls_spelled {scanner : Scanner} {n : Nat} (hn : n ≤ scanner.template.segments.length) :
    (scanner.afterCalls n).offset
        = scanner.offset + Utf8.size (spelled (scanner.template.segments.take n)) ∧
      scanner.rest = spelled (scanner.template.segments.take n) ++ (scanner.afterCalls n).rest := by
  induction n with
  | zero => exact ⟨rfl, rfl⟩
  | succ n ih =>
    obtain ⟨hoffset, hrest⟩ := ih (Nat.le_of_succ_le hn)
    have hsegment := List.getElem?_eq_getElem hn
    have hpasses := passes_segment hsegment
    have htake : spelled (scanner.template.segments.take (n + 1))
        = spelled (scanner.template.segments.take n) ++ scanner.template.segments[n].spelling := by
      rw [List.take_add_one, hsegment, spelled, List.flatMap_append, Option.toList_some,
        List.flatMap_singleton]
      rfl
    rw [htake, Utf8.size_append, List.append_assoc]
    constructor
    · rw [← Nat.add_assoc, ← hoffset]
      exact hpasses.offset
    · rw [hrest, hpasses.rest]
      rfl

/-- Behind the segments is the end, or the malformed directive. -/
lemma gives_end (scanner : Scanner) :
    match scanner.template.fault with
    | none   => scanner.rest = spelled scanner.template.segments
    | some f => ∃ text found,
        scanner.rest = spelled scanner.template.segments ++ '%' :: text ∧
        text.head? ≠ some '%' ∧ Directive.read text = .error found ∧
        f = .malformed (scanner.offset + Utf8.size (spelled scanner.template.segments)) found := by
  obtain ⟨hoffset, hrest⟩ := scanner.afterCalls_spelled (Nat.le_refl _)
  rw [List.take_length] at hoffset hrest
  have hanswer := scanner.answer_length
  have hgives := (scanner.afterCalls scanner.template.segments.length).gives_next
  rw [answer] at hanswer
  cases hfault : scanner.template.fault with
  | none =>
    rw [hfault, Option.map_none, Option.map_eq_none_iff] at hanswer
    rw [hanswer] at hgives
    cases hgives with
    | done hdone => rw [hrest, hdone, List.append_nil]
  | some f =>
    rw [hfault] at hanswer
    obtain ⟨⟨item, after⟩, hnext, hitem⟩ := Option.map_eq_some_iff.mp hanswer
    obtain rfl : item = .error f := hitem
    rw [hnext] at hgives
    cases hgives with
    | malformed hmalformed hhead hread =>
      rw [hmalformed] at hrest
      exact ⟨_, _, hrest, hhead, hread, by rw [hoffset]⟩

/-- A run of literal text is not followed by another. -/
lemma not_literal_of_literal {scanner : Scanner} {n : Nat} {run : List Char}
    (h : scanner.template.segments[n]? = some (.literal run)) (run' : List Char) :
    scanner.template.segments[n + 1]? ≠ some (.literal run') := by
  intro h'
  have hnext := passes_segment h'
  cases (passes_segment h).stands with
  | literal hne hrun hends =>
    cases hnext.stands with
    | literal hne' hrun' hends' =>
      obtain ⟨c, more, rfl⟩ := List.exists_cons_of_ne_nil hne'
      refine hrun' c List.mem_cons_self (hends c ?_)
      have hrest : (scanner.afterCalls n).call.rest = c :: more ++ _ := hnext.rest
      rw [hrest]
      rfl

end Scanner

/-- Calls for the next item of a template give its segments, then the malformed directive if there is
one, and after that nothing. Before the first call the scanner is at byte zero, and each call that
gives a segment takes it on by what the segment stands for, which is what is written there: a run of
literal text that is not empty and has no percent sign in it and no run next to it, an escape, or a
directive that has the byte of its percent sign as its offset and is what reading gives behind that.
Segments end with the template, or where the malformed directive begins. -/
theorem Scanner.answers_tile (template : String) :
    let scanner := Scanner.ofList template.toList
    let segments := (Template.ofText template.toList).segments
    let fault := (Template.ofText template.toList).fault
    (∀ n, scanner.answer n = (segments.map .ok ++ fault.toList.map .error)[n]?) ∧
    (∀ n ≤ segments.length,
      (scanner.afterCalls n).offset = Utf8.size (spelled (segments.take n)) ∧
      template.toList = spelled (segments.take n) ++ (scanner.afterCalls n).rest) ∧
    (∀ n segment, segments[n]? = some segment →
      (scanner.afterCalls n).rest = segment.spelling ++ (scanner.afterCalls (n + 1)).rest ∧
      segment.Stands (scanner.afterCalls n).offset (scanner.afterCalls (n + 1)).rest) ∧
    (∀ n run run', segments[n]? = some (.literal run) →
      segments[n + 1]? ≠ some (.literal run')) ∧
    match fault with
    | none   => template.toList = spelled segments
    | some f => ∃ text found, template.toList = spelled segments ++ '%' :: text ∧
        text.head? ≠ some '%' ∧ Directive.read text = .error found ∧
        f = .malformed (Utf8.size (spelled segments)) found := by
  intro scanner segments fault
  refine ⟨?_, ?_, ?_, ?_, ?_⟩
  · intro n
    rw [answer_eq, items_eq]
    rfl
  · intro n hn
    obtain ⟨hoffset, hrest⟩ := scanner.afterCalls_spelled hn
    rw [hoffset]
    exact ⟨Nat.zero_add _, hrest⟩
  · intro n segment h
    have hpasses : (scanner.afterCalls n).Passes segment := passes_segment h
    exact ⟨hpasses.rest, hpasses.stands⟩
  · intro n run run' h
    have hsegment : scanner.template.segments[n]? = some (.literal run) := h
    exact not_literal_of_literal hsegment run'
  · have hend := scanner.gives_end
    have hoffset : scanner.offset = 0 := rfl
    rw [hoffset, Nat.zero_add] at hend
    exact hend

/-- In a row of percent signs each two are an escape, as long as they are not part of a directive. -/
example : Template.ofText "é%%%5%%".toList =
    ⟨[.literal ['é'], .percent, .directive 4 ['5', '%'] ⟨{}, .literal 5, .absent, .absent, .percent⟩],
      some (.malformed 7 none)⟩ := by cbv

end TypedFormat
