import Mathlib
import TypedFormat.Conformance.Difference
import TypedFormat.Proofs.Number.Numerals
import TypedFormat.Proofs.Text.Quoting

/-!
# A difference shows where two texts differ

A `Hunk` is a line number with the lines that two texts have there, if they have one. The difference
of two texts that are not equal is written from hunks, and those are all the places where the texts
differ, in their order (`Difference.mem_hunksFrom`). No line of a hunk can be taken for the head of
another one, so the hunks are read back from what is written, and either text can be recovered from
the other and the difference.
-/

namespace TypedFormat

/-! ### Lines -/

/-- The lines of a text are its pieces between newlines. -/
lemma splitLines_eq_splitOn (text : List Char) : splitLines text = text.splitOn '\n' := by
  induction text with
  | nil => rfl
  | cons c text ih =>
    obtain ⟨line, lines, hlines⟩ := List.exists_cons_of_ne_nil (List.splitOn_ne_nil '\n' text)
    rw [splitLines_cons, ih, List.splitOn_cons_eq_if_modifyHead, hlines, consLine]
    simp only [beq_iff_eq, List.modifyHead_cons]

lemma splitOn_injective (c : Char) : Function.Injective (List.splitOn c) := by
  intro s t h
  have hjoin := congrArg [c].intercalate h
  rwa [List.intercalate_splitOn, List.intercalate_splitOn] at hjoin

/-- Lines as they are written, each with its newline. -/
def writeLines (lines : List (List Char)) : List Char :=
  lines.flatMap (· ++ ['\n'])

@[simp] lemma writeLines_cons (line : List Char) (lines : List (List Char)) :
    writeLines (line :: lines) = line ++ ['\n'] ++ writeLines lines := List.flatMap_cons

@[simp] lemma writeLines_append (lines more : List (List Char)) :
    writeLines (lines ++ more) = writeLines lines ++ writeLines more := List.flatMap_append

lemma splitOn_writeLines {lines : List (List Char)} (h : ∀ line ∈ lines, '\n' ∉ line) :
    (writeLines lines).splitOn '\n' = lines ++ [[]] := by
  induction lines with
  | nil => rfl
  | cons line lines ih =>
    have hline : '\n' ∉ line := h line List.mem_cons_self
    have hlines := ih fun other hother => h other (List.mem_cons_of_mem line hother)
    rw [writeLines_cons, List.append_assoc, List.singleton_append,
      List.splitOn_append_cons_self_of_not_mem hline, hlines, List.cons_append]

namespace Difference

/-! ### Hunks -/

/-- A line number, and the line of each text that has one there. -/
structure Hunk where
  number : Nat
  expected : Option (List Char)
  actual : Option (List Char)

namespace Hunk

/-- The line that gives the number. -/
def head (h : Hunk) : List Char :=
  "@@ line ".toList ++ Nat.toDigits 10 h.number ++ " @@".toList

/-- The lines of the texts, quoted, each behind the mark of its side. -/
def sides (h : Hunk) : List (List Char) :=
  h.expected.toList.map (fun line => '-' :: Quoted.text line)
    ++ h.actual.toList.map (fun line => '+' :: Quoted.text line)

/-- What is written for a hunk, line by line. -/
def lines (h : Hunk) : List (List Char) :=
  h.head :: h.sides

lemma newline_not_mem_head (h : Hunk) : '\n' ∉ h.head := by
  have hdigits : '\n' ∉ Nat.toDigits 10 h.number :=
    fun hmem => absurd (isDigit_of_mem_toDigits _ hmem) (by decide)
  exact List.not_mem_append (List.not_mem_append (by decide) hdigits) (by decide)

lemma exists_of_mem_sides {h : Hunk} {line : List Char} (hline : line ∈ h.sides) :
    ∃ mark text, (mark = '-' ∨ mark = '+') ∧ line = mark :: Quoted.text text := by
  rcases List.mem_append.mp hline with hexpected | hactual
  · obtain ⟨text, -, rfl⟩ := List.mem_map.mp hexpected
    exact ⟨'-', text, .inl rfl, rfl⟩
  · obtain ⟨text, -, rfl⟩ := List.mem_map.mp hactual
    exact ⟨'+', text, .inr rfl, rfl⟩

/-- Every line of a hunk is a single one, and begins with one of three marks. -/
lemma of_mem_lines {h : Hunk} {line : List Char} (hline : line ∈ h.lines) :
    '\n' ∉ line ∧ ∃ mark ∈ ['@', '-', '+'], line.head? = some mark := by
  rcases List.mem_cons.mp hline with rfl | hside
  · exact ⟨h.newline_not_mem_head, '@', by simp, rfl⟩
  · obtain ⟨mark, text, hmark, rfl⟩ := exists_of_mem_sides hside
    have hquoted := Quoted.newline_not_mem_text text
    refine ⟨?_, mark, ?_, rfl⟩
    · rcases hmark with rfl | rfl <;> simp [hquoted]
    · rcases hmark with rfl | rfl <;> simp

/-! ### Hunks are read back -/

/-- A head gives its number. -/
lemma number_eq_of_head {h k : Hunk} (heq : h.head = k.head) : h.number = k.number := by
  have hdigits : Nat.toDigits 10 h.number = Nat.toDigits 10 k.number :=
    List.append_cancel_left (List.append_cancel_right heq)
  have hread := congrArg (Nat.ofDigitChars 10 · 0) hdigits
  simpa only [Nat.ofDigitChars_ten_toDigits] using hread

/-- The marks tell the two sides apart. -/
lemma eq_of_sides {h k : Hunk} (hnumber : h.number = k.number) (hsides : h.sides = k.sides) :
    h = k := by
  obtain ⟨number, expected, actual⟩ := h
  obtain ⟨number', expected', actual'⟩ := k
  obtain rfl : number = number' := hnumber
  have htext := Quoted.text_injective
  cases expected <;> cases expected' <;> cases actual <;> cases actual' <;>
    simp_all [sides, htext.eq_iff]

/-- Whether a line is the head of a hunk. -/
def isHead (line : List Char) : Bool :=
  line.head? == some '@'

/-- The sides of a hunk reach up to the next head. -/
lemma takeWhile_sides_append (h : Hunk) (more : List Hunk) :
    (h.sides ++ more.flatMap lines).takeWhile (fun line => !isHead line) = h.sides := by
  have hsides : ∀ line ∈ h.sides, (!isHead line) = true := by
    intro line hline
    obtain ⟨mark, text, hmark, rfl⟩ := exists_of_mem_sides hline
    rcases hmark with rfl | rfl <;> rfl
  have hmore : (more.flatMap lines).takeWhile (fun line => !isHead line) = [] := by
    cases more with
    | nil => rfl
    | cons k more => rfl
  rw [List.takeWhile_append_of_pos hsides, hmore, List.append_nil]

/-- Hunks are told apart by their lines. -/
lemma flatMap_lines_injective : Function.Injective (List.flatMap lines) := by
  intro hs ks heq
  induction hs generalizing ks with
  | nil =>
    cases ks with
    | nil => rfl
    | cons k ks => cases heq
  | cons h hs ih =>
    cases ks with
    | nil => cases heq
    | cons k ks =>
      simp only [List.flatMap_cons, lines, List.cons_append, List.cons.injEq] at heq
      obtain ⟨hhead, hrest⟩ := heq
      have hsides : h.sides = k.sides := by
        rw [← takeWhile_sides_append h hs, ← takeWhile_sides_append k ks]
        exact congrArg _ hrest
      rw [hsides] at hrest
      rw [eq_of_sides (number_eq_of_head hhead) hsides, ih (List.append_cancel_left hrest)]

end Hunk

/-! ### The hunks of two texts -/

/-- The hunks of two lists of lines, of which the first have a given number. -/
def hunksFrom (number : Nat) : List (List Char) → List (List Char) → List Hunk
  | [],      []      => []
  | e :: es, []      => ⟨number, some e, none⟩ :: hunksFrom (number + 1) es []
  | [],      a :: as => ⟨number, none, some a⟩ :: hunksFrom (number + 1) [] as
  | e :: es, a :: as =>
    (if e = a then [] else [⟨number, some e, some a⟩]) ++ hunksFrom (number + 1) es as

lemma side_eq (mark : Char) (line : Option (List Char)) :
    side mark line = writeLines (line.toList.map fun line => mark :: Quoted.text line) := by
  cases line with
  | none => rfl
  | some line => simp [side, writeLines]

/-- A hunk is written line by line. -/
lemma hunk_eq (number : Nat) (expected actual : Option (List Char)) :
    hunk number expected actual = writeLines (Hunk.lines ⟨number, expected, actual⟩) := by
  have hend : " @@\n".toList = " @@".toList ++ ['\n'] := by decide
  rw [Hunk.lines, Hunk.sides, writeLines_cons, writeLines_append, ← side_eq, ← side_eq]
  -- The equations of these two definitions would evaluate the texts in them.
  delta hunk Hunk.head
  simp only [hend, List.append_assoc]

lemma hunks_eq (number : Nat) (es as : List (List Char)) :
    hunks number es as = writeLines ((hunksFrom number es as).flatMap Hunk.lines) := by
  fun_induction hunks number es as with
  | case1 => rw [hunksFrom]; rfl
  | case2 number e es ih => rw [hunksFrom, List.flatMap_cons, writeLines_append, ih, hunk_eq]
  | case3 number a as ih => rw [hunksFrom, List.flatMap_cons, writeLines_append, ih, hunk_eq]
  | case4 number e es a as ih =>
    rw [hunksFrom, List.flatMap_append, writeLines_append, ih]
    split_ifs with hea
    · rfl
    · rw [List.flatMap_singleton, hunk_eq]

/-- There is a hunk for each line at which the texts differ, and for no other. -/
lemma mem_hunksFrom {number : Nat} {es as : List (List Char)} {h : Hunk} :
    h ∈ hunksFrom number es as ↔
      ∃ i, h = ⟨number + i, es[i]?, as[i]?⟩ ∧ es[i]? ≠ as[i]? := by
  fun_induction hunksFrom number es as with
  | case1 => simp
  | case2 number e es ih =>
    refine Iff.trans ?_ Nat.or_exists_add_one
    rw [List.mem_cons, ih]
    simp [Nat.add_assoc, Nat.add_comm 1]
  | case3 number a as ih =>
    refine Iff.trans ?_ Nat.or_exists_add_one
    rw [List.mem_cons, ih]
    simp [Nat.add_assoc, Nat.add_comm 1]
  | case4 number e es a as ih =>
    refine Iff.trans ?_ Nat.or_exists_add_one
    rw [List.mem_append, ih]
    split_ifs with hea
    · simp [hea, Nat.add_assoc, Nat.add_comm 1]
    · simp [hea, Nat.add_assoc, Nat.add_comm 1]

lemma le_number_of_mem_hunksFrom {number : Nat} {es as : List (List Char)} {h : Hunk}
    (hmem : h ∈ hunksFrom number es as) : number ≤ h.number := by
  obtain ⟨i, rfl, -⟩ := mem_hunksFrom.mp hmem
  exact Nat.le_add_right number i

/-- Hunks come in the order of their numbers. -/
lemma pairwise_hunksFrom (number : Nat) (es as : List (List Char)) :
    (hunksFrom number es as).Pairwise (·.number < ·.number) := by
  fun_induction hunksFrom number es as with
  | case1 => exact List.Pairwise.nil
  | case2 number e es ih => exact List.pairwise_cons.mpr ⟨fun _ => le_number_of_mem_hunksFrom, ih⟩
  | case3 number a as ih => exact List.pairwise_cons.mpr ⟨fun _ => le_number_of_mem_hunksFrom, ih⟩
  | case4 number e es a as ih =>
    split_ifs with hea
    · exact ih
    · exact List.pairwise_cons.mpr ⟨fun _ => le_number_of_mem_hunksFrom, ih⟩

/-- Equal hunks leave a text no choice where the other one is given. -/
lemma getElem?_eq_iff_of_hunksFrom {number : Nat} {es as es' as' : List (List Char)}
    (h : hunksFrom number es as = hunksFrom number es' as') (i : Nat) :
    es[i]? = es'[i]? ↔ as[i]? = as'[i]? := by
  have hboth : ∀ {xs ys xs' ys' : List (List Char)},
      hunksFrom number xs ys = hunksFrom number xs' ys' → xs[i]? ≠ ys[i]? →
      xs[i]? = xs'[i]? ∧ ys[i]? = ys'[i]? := by
    intro xs ys xs' ys' heq hne
    have hmem : ⟨number + i, xs[i]?, ys[i]?⟩ ∈ hunksFrom number xs ys :=
      mem_hunksFrom.mpr ⟨i, rfl, hne⟩
    rw [heq, mem_hunksFrom] at hmem
    obtain ⟨j, hj, -⟩ := hmem
    simp only [Hunk.mk.injEq, Nat.add_left_cancel_iff] at hj
    obtain ⟨rfl, hx, hy⟩ := hj
    exact ⟨hx, hy⟩
  by_cases hne : es[i]? = as[i]?
  · by_cases hne' : es'[i]? = as'[i]?
    · rw [hne, hne']
    · obtain ⟨hx, hy⟩ := hboth h.symm hne'
      exact iff_of_true hx.symm hy.symm
  · obtain ⟨hx, hy⟩ := hboth h hne
    exact iff_of_true hx hy

/-! ### Differences -/

/-- The hunks of two texts. -/
def hunksOf (expected actual : List Char) : List Hunk :=
  hunksFrom 1 (expected.splitOn '\n') (actual.splitOn '\n')

lemma hunksOf_eq_nil_iff {e a : List Char} : hunksOf e a = [] ↔ e = a := by
  rw [List.eq_nil_iff_forall_not_mem]
  constructor
  · intro hnone
    refine splitOn_injective '\n' (List.ext_getElem? fun i => ?_)
    by_contra hne
    exact hnone _ (mem_hunksFrom.mpr ⟨i, rfl, hne⟩)
  · rintro rfl h hmem
    obtain ⟨i, -, hne⟩ := mem_hunksFrom.mp hmem
    exact hne rfl

/-- The same hunks leave one of the texts no choice where the other is given. -/
lemma eq_iff_eq_of_hunksOf {e a e' a' : List Char} (h : hunksOf e a = hunksOf e' a') :
    e = e' ↔ a = a' := by
  have hlines : ∀ {s t : List Char}, s = t ↔ ∀ i, (s.splitOn '\n')[i]? = (t.splitOn '\n')[i]? :=
    fun {s t} => ⟨fun heq _ => heq ▸ rfl, fun heq => splitOn_injective '\n' (List.ext_getElem? heq)⟩
  rw [hlines, hlines]
  exact forall_congr' (getElem?_eq_iff_of_hunksFrom h)

/-- The two lines in front of the hunks. -/
def titles : List (List Char) :=
  ["--- expected".toList, "+++ actual".toList]

lemma between_of_ne {e a : List Char} (hne : e ≠ a) :
    between e a = writeLines (titles ++ (hunksOf e a).flatMap Hunk.lines) := by
  have htitles : header = writeLines titles := by decide
  rw [between, if_neg hne, htitles, hunks_eq, splitLines_eq_splitOn, splitLines_eq_splitOn,
    ← writeLines_append]
  rfl

lemma between_eq_identical_iff {e a : List Char} : between e a = identical ↔ e = a := by
  constructor
  · intro h
    by_contra hne
    have hdash : (between e a).head? = some '-' := by
      rw [between_of_ne hne]
      rfl
    rw [h] at hdash
    exact absurd hdash (by decide)
  · intro h
    rw [between, if_pos h]

lemma newline_not_mem_lines (hunks : List Hunk) :
    ∀ line ∈ titles ++ hunks.flatMap Hunk.lines, '\n' ∉ line := by
  intro line hline
  rcases List.mem_append.mp hline with htitle | hhunk
  · have htitles : ∀ title ∈ titles, '\n' ∉ title := by decide
    exact htitles line htitle
  · obtain ⟨h, -, hline⟩ := List.mem_flatMap.mp hhunk
    exact (Hunk.of_mem_lines hline).1

/-- Equal differences come from equal hunks. -/
lemma hunksOf_eq_of_between {e a e' a' : List Char} (hne : e ≠ a) (hne' : e' ≠ a')
    (h : between e a = between e' a') : hunksOf e a = hunksOf e' a' := by
  rw [between_of_ne hne, between_of_ne hne'] at h
  have hlines := congrArg (List.splitOn '\n') h
  rw [splitOn_writeLines (newline_not_mem_lines _), splitOn_writeLines (newline_not_mem_lines _)]
    at hlines
  exact Hunk.flatMap_lines_injective (List.append_cancel_left (List.append_cancel_right hlines))

lemma eq_iff_eq_of_between {e a e' a' : List Char} (h : between e a = between e' a') :
    e = e' ↔ a = a' := by
  by_cases hea : e = a
  · have hea' : e' = a' := by rwa [between_eq_identical_iff.mpr hea, eq_comm,
      between_eq_identical_iff] at h
    rw [hea, hea']
  · have hea' : e' ≠ a' := by rwa [ne_eq, ← between_eq_identical_iff, ← h, between_eq_identical_iff]
    exact eq_iff_eq_of_hunksOf (hunksOf_eq_of_between hea hea' h)

/-- The difference of two texts says just that if they are equal. Otherwise it shows, under two
titles and in their order, all the line numbers at which the texts differ or only one of them has a
line, with the lines that they have there. Each line of it is a single one behind its mark, so
either text can be recovered from the other and the difference. -/
theorem between_hunks (e a : List Char) :
    (between e a = identical ↔ e = a) ∧
    ∃ hunks : List Hunk,
      (hunks = [] ↔ e = a) ∧
      hunks.Pairwise (·.number < ·.number) ∧
      (∀ h, h ∈ hunks ↔ 1 ≤ h.number ∧ h.expected = (e.splitOn '\n')[h.number - 1]? ∧
        h.actual = (a.splitOn '\n')[h.number - 1]? ∧ h.expected ≠ h.actual) ∧
      (∀ line ∈ hunks.flatMap Hunk.lines,
        '\n' ∉ line ∧ ∃ mark ∈ ['@', '-', '+'], line.head? = some mark) ∧
      between e a = (if e = a then identical
        else writeLines (["--- expected".toList, "+++ actual".toList]
          ++ hunks.flatMap Hunk.lines)) ∧
      Function.Injective (between e) ∧ Function.Injective (between · a) := by
  refine ⟨between_eq_identical_iff, hunksOf e a, hunksOf_eq_nil_iff, pairwise_hunksFrom _ _ _,
    fun h => ?_, fun line hline => ?_, ?_, fun b c h => ?_, fun b c h => ?_⟩
  · obtain ⟨number, expected, actual⟩ := h
    rw [hunksOf, mem_hunksFrom]
    constructor
    · rintro ⟨i, heq, hne⟩
      simp only [Hunk.mk.injEq] at heq
      obtain ⟨rfl, rfl, rfl⟩ := heq
      simpa using hne
    · dsimp only
      rintro ⟨hpos, rfl, rfl, hne⟩
      refine ⟨number - 1, ?_, hne⟩
      rw [Nat.add_sub_cancel' hpos]
  · obtain ⟨h, -, hline⟩ := List.mem_flatMap.mp hline
    exact Hunk.of_mem_lines hline
  · split_ifs with hea
    · exact between_eq_identical_iff.mpr hea
    · exact between_of_ne hea
  · exact (eq_iff_eq_of_between h).mp rfl
  · exact (eq_iff_eq_of_between h).mpr rfl

/-- An empty last line that both texts have is no difference, and a line that is missing is one. -/
theorem between_hunks_of_missing_line :
    between "x\n\ny".toList "x\n".toList
      = "--- expected\n+++ actual\n@@ line 3 @@\n-\"y\"\n".toList ∧
    ∃ hunks : List Hunk, ⟨3, some ['y'], none⟩ ∈ hunks ∧
      ['-', '"', 'y', '"'] ∈ hunks.flatMap Hunk.lines ∧
      '\n' ∉ ['-', '"', 'y', '"'] ∧
      ∃ mark ∈ ['@', '-', '+'], ['-', '"', 'y', '"'].head? = some mark := by
  obtain ⟨-, hunks, -, -, hmem, hsingle, -⟩ := between_hunks "x\n\ny".toList "x\n".toList
  have hhunk : ⟨3, some ['y'], none⟩ ∈ hunks := (hmem _).mpr (by decide)
  have hline : ['-', '"', 'y', '"'] ∈ hunks.flatMap Hunk.lines := by
    refine List.mem_flatMap.mpr ⟨_, hhunk, ?_⟩
    decide +kernel
  have honly : hunksOf "x\n\ny".toList "x\n".toList = [⟨3, some ['y'], none⟩] := by cbv
  refine ⟨?_, hunks, hhunk, hline, hsingle _ hline⟩
  rw [between_of_ne (by decide), honly]
  decide +kernel

end Difference

end TypedFormat
