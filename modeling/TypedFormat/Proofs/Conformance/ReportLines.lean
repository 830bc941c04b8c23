import Mathlib
import TypedFormat.Conformance.Report
import TypedFormat.Proofs.Conformance.Hunks

/-!
# The lines of a report

The markdown of a report is written line by line (`Report.toList_markdown`), if every failure comes with
the difference of two texts that are not equal. What kind a line is of shows in its first two characters,
whatever names and texts are in it, and no line has a line break in it (`Report.newline_not_mem_lines`).
-/

namespace TypedFormat

namespace Report

/-! ### Lines -/

def itemLine (label value : String) : List Char :=
  "- ".toList ++ label.toList ++ ": ".toList ++ value.toList

def summaryLines (r : Report) : List (List Char) :=
  ["# ".toList ++ r.title.toList, [], itemLine "Mode" r.mode, itemLine "Timestamp" r.timestamp,
    itemLine "Total" r.tally.total.repr, itemLine "Passed" r.tally.passed.repr,
    itemLine "Failed" r.tally.failed.repr, []]

def digestLine (entry : String × String) : List Char :=
  "| ".toList ++ entry.1.toList ++ " | \x60".toList ++ entry.2.toList ++ "\x60 |".toList

def digestHeader : List Char :=
  "| Fixture | SHA-256 |".toList

def digestRule : List Char :=
  "|---------|---------|".toList

def digestLines (r : Report) : List (List Char) :=
  if r.digests.isEmpty then [] else [digestHeader, digestRule] ++ r.digests.map digestLine ++ [[]]

def verdictHeader : List Char :=
  "| Case | Section | Mode | Status |".toList

def verdictRule : List Char :=
  "|------|---------|------|--------|".toList

/-- The row of a verdict: its case, area and mode, and whether it passed. -/
def verdictLine (v : Verdict) : List Char :=
  "| ".toList ++ v.caseName.toList ++ " | ".toList ++ v.area.toList ++ " | ".toList ++ v.mode.toList
    ++ " | ".toList ++ (if v.passed then "PASS" else "FAIL").toList ++ " |".toList

def failuresHeading : List Char :=
  "## Failures".toList

def failureHeading (v : Verdict) : List Char :=
  "### ".toList ++ v.caseName.toList ++ " (".toList ++ v.mode.toList ++ ")".toList

/-- The lines of the difference that a verdict has. -/
def differenceLines (v : Verdict) : List (List Char) :=
  Difference.titles
    ++ (Difference.hunksOf v.expected.toList v.actual.toList).flatMap Difference.Hunk.lines

def failureLines (v : Verdict) : List (List Char) :=
  [[], failureHeading v, [], fence.toList] ++ differenceLines v ++ [fence.toList]

def failuresLines (failures : List Verdict) : List (List Char) :=
  if failures.isEmpty then [] else [[], failuresHeading] ++ failures.flatMap failureLines

/-- The lines up to the end of the table of verdicts. -/
def upperLines (r : Report) : List (List Char) :=
  r.summaryLines ++ r.digestLines ++ verdictHeader :: verdictRule :: r.tally.verdicts.map verdictLine

/-- What is written for readers, line by line. -/
def lines (r : Report) : List (List Char) :=
  r.upperLines ++ failuresLines r.tally.failures

lemma toList_verdictRow (v : Verdict) : (verdictRow v).toList = verdictLine v ++ ['\n'] := by
  have hend : " |\n".toList = " |".toList ++ ['\n'] := by decide
  delta verdictRow verdictLine
  simp only [String.toList_append, hend, List.append_assoc]

lemma toList_digestRow (entry : String × String) :
    (digestRow entry).toList = digestLine entry ++ ['\n'] := by
  have hend : "\x60 |\n".toList = "\x60 |".toList ++ ['\n'] := by decide
  delta digestRow digestLine
  simp only [String.toList_append, hend, List.append_assoc]

lemma toList_item (label value : String) :
    (item label value).toList = itemLine label value ++ ['\n'] := by
  have hend : "\n".toList = ['\n'] := by decide
  delta item itemLine
  simp only [String.toList_append, hend, List.append_assoc]

lemma toList_summary (r : Report) : r.summary.toList = writeLines r.summaryLines := by
  have hblank : "\n\n".toList = ['\n', '\n'] := by decide
  have hend : "\n".toList = ['\n'] := by decide
  delta summary summaryLines
  simp only [String.toList_append, toList_item, writeLines, List.flatMap_cons,
    List.flatMap_nil, hblank, hend, List.append_assoc, List.nil_append, List.append_nil,
    List.cons_append]

lemma writeLines_map {α : Type} (f : α → List Char) (items : List α) :
    writeLines (items.map f) = items.flatMap fun a => f a ++ ['\n'] := List.flatMap_map f _ items

lemma toList_digestTable (r : Report) : r.digestTable.toList = writeLines r.digestLines := by
  have hhead : "| Fixture | SHA-256 |\n|---------|---------|\n".toList
      = writeLines [digestHeader, digestRule] := by
    decide +kernel
  have hend : "\n".toList = writeLines [[]] := by decide
  unfold digestTable digestLines
  split_ifs
  · rfl
  · rw [String.toList_append, String.toList_append, String.toList_join, List.flatMap_map, hhead, hend,
      writeLines_append, writeLines_append, writeLines_map]
    simp only [toList_digestRow]

lemma toList_verdictTable (r : Report) : r.verdictTable.toList
    = writeLines (verdictHeader :: verdictRule :: r.tally.verdicts.map verdictLine) := by
  have hhead : "| Case | Section | Mode | Status |\n|------|---------|------|--------|\n".toList
      = verdictHeader ++ ['\n'] ++ (verdictRule ++ ['\n']) := by
    decide +kernel
  unfold verdictTable
  rw [String.toList_append, String.toList_join, List.flatMap_map, hhead, writeLines_cons,
    writeLines_cons, writeLines_map, List.append_assoc]
  simp only [toList_verdictRow]

/-! ### Failures -/

/-- The verdict has the difference of two texts that are not equal. -/
def HasDifference (v : Verdict) : Prop :=
  v.expected ≠ v.actual ∧ v.difference = some (differenceText v.expected v.actual)

lemma toList_difference {v : Verdict} (h : HasDifference v) :
    (v.difference.getD "").toList = writeLines (differenceLines v) := by
  have hne : v.expected.toList ≠ v.actual.toList := mt String.toList_inj.mp h.1
  rw [h.2, Option.getD_some, differenceText, String.toList_ofList, Difference.between_of_ne hne]
  rfl

lemma toList_failurePart {v : Verdict} (h : HasDifference v) :
    (failurePart v).toList = writeLines (failureLines v) := by
  have hopen : ")\n\n".toList = ")".toList ++ ['\n', '\n'] := by decide
  have hsection : "\n### ".toList = '\n' :: "### ".toList := by decide
  have hend : "\n".toList = ['\n'] := by decide
  unfold failurePart failureLines failureHeading
  simp only [String.toList_append, toList_difference h, writeLines_append, writeLines_cons, hopen,
    hsection, hend, List.append_assoc, List.cons_append, List.nil_append]
  rfl

lemma toList_failureParts {r : Report} (h : ∀ v ∈ r.tally.failures, HasDifference v) :
    r.failureParts.toList = writeLines (failuresLines r.tally.failures) := by
  have hhead : "\n## Failures\n".toList = writeLines [[], failuresHeading] := by decide
  unfold failureParts failuresLines
  dsimp only
  split_ifs
  · rfl
  · rw [String.toList_append, String.toList_join, List.flatMap_map, hhead, writeLines_append,
      List.flatMap_congr fun v hv => toList_failurePart (h v hv)]
    congr 1
    exact List.flatMap_assoc.symm

/-- The markdown of a report is written line by line. -/
lemma toList_markdown {r : Report} (h : ∀ v ∈ r.tally.failures, HasDifference v) :
    r.markdown.toList = writeLines r.lines := by
  unfold markdown lines upperLines
  simp only [String.toList_append, toList_summary, toList_digestTable, toList_verdictTable,
    toList_failureParts h, writeLines_append]

/-! ### The lines of each part -/

section Parts

variable {r : Report} {verdicts failures : List Verdict} {line : List Char}

lemma of_mem_digestLines (h : line ∈ r.digestLines) :
    line = [] ∨ line = digestHeader ∨ line = digestRule ∨
      ∃ entry ∈ r.digests, line = digestLine entry := by
  unfold digestLines at h
  split_ifs at h
  · exact absurd h List.not_mem_nil
  · simp only [List.mem_append, List.mem_cons, List.mem_map, List.not_mem_nil, or_false] at h
    rcases h with ((hheader | hrule) | ⟨entry, hentry, rfl⟩) | hblank
    · exact .inr (.inl hheader)
    · exact .inr (.inr (.inl hrule))
    · exact .inr (.inr (.inr ⟨entry, hentry, rfl⟩))
    · exact .inl hblank

lemma of_mem_verdictTable (h : line ∈ verdictHeader :: verdictRule :: verdicts.map verdictLine) :
    line = verdictHeader ∨ line = verdictRule ∨ ∃ v ∈ verdicts, line = verdictLine v := by
  simpa only [List.mem_cons, List.mem_map, @eq_comm _ _ line] using h

lemma of_mem_failuresLines (h : line ∈ failuresLines failures) :
    line = [] ∨ line = failuresHeading ∨ line = fence.toList ∨
      ∃ v ∈ failures, line = failureHeading v ∨ line ∈ differenceLines v := by
  unfold failuresLines at h
  split_ifs at h
  · exact absurd h List.not_mem_nil
  · simp only [failureLines, List.mem_append, List.mem_cons, List.mem_flatMap, List.not_mem_nil,
      or_false] at h
    rcases h with (hblank | hheading) | ⟨v, hv, ((hblank | hheading | hblank | hfence) | hline) | hfence⟩
    · exact .inl hblank
    · exact .inr (.inl hheading)
    · exact .inl hblank
    · exact .inr (.inr (.inr ⟨v, hv, .inl hheading⟩))
    · exact .inl hblank
    · exact .inr (.inr (.inl hfence))
    · exact .inr (.inr (.inr ⟨v, hv, .inr hline⟩))
    · exact .inr (.inr (.inl hfence))

end Parts

/-! ### Lines are told apart by how they begin -/

lemma take_two_digestLine (entry : String × String) : (digestLine entry).take 2 = ['|', ' '] := rfl

lemma take_two_verdictLine (v : Verdict) : (verdictLine v).take 2 = ['|', ' '] := rfl

lemma take_two_failureHeading (v : Verdict) : (failureHeading v).take 2 = ['#', '#'] := rfl

lemma take_two_of_mem_summaryLines {r : Report} {line : List Char} (h : line ∈ r.summaryLines) :
    line.take 2 ∈ [['#', ' '], [], ['-', ' ']] := by
  have htakes : r.summaryLines.map (List.take 2)
      = [['#', ' '], [], ['-', ' '], ['-', ' '], ['-', ' '], ['-', ' '], ['-', ' '], []] := rfl
  have htake : line.take 2 ∈ r.summaryLines.map (List.take 2) := List.mem_map_of_mem h
  rw [htakes] at htake
  exact List.subset_def.mp (by decide) htake

lemma take_two_of_mem_digestLines {r : Report} {line : List Char} (h : line ∈ r.digestLines) :
    line.take 2 ∈ [[], ['|', ' '], ['|', '-']] := by
  rcases of_mem_digestLines h with rfl | rfl | rfl | ⟨entry, -, rfl⟩
  · decide
  · decide
  · decide
  · rw [take_two_digestLine]
    decide

lemma take_two_of_mem_verdictTable {verdicts : List Verdict} {line : List Char}
    (h : line ∈ verdictHeader :: verdictRule :: verdicts.map verdictLine) :
    line.take 2 ∈ [['|', ' '], ['|', '-']] := by
  rcases of_mem_verdictTable h with rfl | rfl | ⟨v, -, rfl⟩
  · decide
  · decide
  · rw [take_two_verdictLine]
    decide

lemma take_two_of_mem_upperLines {r : Report} {line : List Char} (h : line ∈ r.upperLines) :
    line.take 2 ∈ [['#', ' '], [], ['-', ' '], ['|', ' '], ['|', '-']] := by
  rw [upperLines, List.mem_append, List.mem_append] at h
  rcases h with (hsummary | hdigest) | hverdict
  · exact List.subset_def.mp (by decide) (take_two_of_mem_summaryLines hsummary)
  · exact List.subset_def.mp (by decide) (take_two_of_mem_digestLines hdigest)
  · exact List.subset_def.mp (by decide) (take_two_of_mem_verdictTable hverdict)

/-- The first two characters of the lines of differences. -/
def differenceStarts : List (List Char) :=
  [['-', '-'], ['+', '+'], ['@', '@'], ['-', '"'], ['+', '"']]

lemma take_two_of_mem_differenceLines {v : Verdict} {line : List Char}
    (h : line ∈ differenceLines v) : line.take 2 ∈ differenceStarts := by
  rw [differenceLines, List.mem_append] at h
  rcases h with htitle | hhunk
  · have htitles : ∀ title ∈ Difference.titles, title.take 2 ∈ differenceStarts := by
      decide +kernel
    exact htitles line htitle
  · obtain ⟨hunk, -, hline⟩ := List.mem_flatMap.mp hhunk
    rcases List.mem_cons.mp hline with rfl | hside
    · have hat : hunk.head.take 2 = ['@', '@'] := rfl
      rw [hat]
      decide
    · obtain ⟨mark, text, hmark, rfl⟩ := Difference.Hunk.exists_of_mem_sides hside
      have hquote : (mark :: Quoted.text text).take 2 = [mark, '"'] := rfl
      rw [hquote]
      rcases hmark with rfl | rfl <;> decide

lemma take_two_of_mem_failuresLines {failures : List Verdict} {line : List Char}
    (h : line ∈ failuresLines failures) :
    line.take 2 ∈ [[], ['#', '#'], ['\x60', '\x60']] ++ differenceStarts := by
  rcases of_mem_failuresLines h with rfl | rfl | rfl | ⟨v, -, rfl | hdifference⟩
  · decide
  · decide
  · decide
  · rw [take_two_failureHeading]
    decide
  · exact List.mem_append_right _ (take_two_of_mem_differenceLines hdifference)

/-! ### Line breaks -/

/-- The texts that a report writes as they are have no line breaks in them. -/
structure IsLined (r : Report) : Prop where
  texts : ∀ text ∈ [r.title, r.mode, r.timestamp], '\n' ∉ text.toList
  digests : ∀ entry ∈ r.digests, '\n' ∉ entry.1.toList ∧ '\n' ∉ entry.2.toList
  verdicts : ∀ v ∈ r.tally.verdicts,
    '\n' ∉ v.caseName.toList ∧ '\n' ∉ v.area.toList ∧ '\n' ∉ v.mode.toList

lemma newline_not_mem_itemLine {label value : String} (hlabel : '\n' ∉ label.toList)
    (hvalue : '\n' ∉ value.toList) : '\n' ∉ itemLine label value := by
  delta itemLine
  simp only [List.mem_append, not_or]
  exact ⟨⟨⟨by decide, hlabel⟩, by decide⟩, hvalue⟩

lemma newline_not_mem_repr (n : Nat) : '\n' ∉ n.repr.toList := by
  rw [Nat.toList_repr]
  exact fun hmem => absurd (isDigit_of_mem_toDigits _ hmem) (by decide)

lemma newline_not_mem_summaryLines {r : Report} (h : r.IsLined) :
    ∀ line ∈ r.summaryLines, '\n' ∉ line := by
  have htexts := h.texts
  simp only [List.forall_mem_cons, List.not_mem_nil, false_imp_iff, implies_true, and_true] at htexts
  obtain ⟨htitle, hmode, htimestamp⟩ := htexts
  delta summaryLines
  simp only [List.forall_mem_cons, List.not_mem_nil, false_imp_iff, implies_true, and_true,
    not_false_iff, true_and, List.mem_append, not_or]
  exact ⟨⟨by decide, htitle⟩, newline_not_mem_itemLine (by decide) hmode,
    newline_not_mem_itemLine (by decide) htimestamp,
    newline_not_mem_itemLine (by decide) (newline_not_mem_repr _),
    newline_not_mem_itemLine (by decide) (newline_not_mem_repr _),
    newline_not_mem_itemLine (by decide) (newline_not_mem_repr _)⟩

lemma newline_not_mem_digestLines {r : Report} (h : r.IsLined) :
    ∀ line ∈ r.digestLines, '\n' ∉ line := by
  intro line hline
  rcases of_mem_digestLines hline with rfl | rfl | rfl | ⟨entry, hentry, rfl⟩
  · exact List.not_mem_nil
  · decide
  · decide
  · obtain ⟨hname, hdigest⟩ := h.digests entry hentry
    delta digestLine
    simp only [List.mem_append, not_or]
    exact ⟨⟨⟨⟨by decide, hname⟩, by decide⟩, hdigest⟩, by decide⟩

lemma newline_not_mem_verdictTable {r : Report} (h : r.IsLined) :
    ∀ line ∈ verdictHeader :: verdictRule :: r.tally.verdicts.map verdictLine, '\n' ∉ line := by
  intro line hline
  rcases of_mem_verdictTable hline with rfl | rfl | ⟨v, hv, rfl⟩
  · decide
  · decide
  · obtain ⟨hname, harea, hmode⟩ := h.verdicts v hv
    delta verdictLine
    simp only [List.mem_append, not_or]
    refine ⟨⟨⟨⟨⟨⟨⟨⟨by decide, hname⟩, by decide⟩, harea⟩, by decide⟩, hmode⟩, by decide⟩, ?_⟩, by decide⟩
    split_ifs <;> decide

lemma newline_not_mem_failuresLines {r : Report} (h : r.IsLined) :
    ∀ line ∈ failuresLines r.tally.failures, '\n' ∉ line := by
  intro line hline
  rcases of_mem_failuresLines hline with rfl | rfl | rfl | ⟨v, hv, rfl | hdifference⟩
  · exact List.not_mem_nil
  · decide
  · decide
  · obtain ⟨hname, -, hmode⟩ := h.verdicts v (List.mem_filter.mp hv).1
    delta failureHeading
    simp only [List.mem_append, not_or]
    exact ⟨⟨⟨⟨by decide, hname⟩, by decide⟩, hmode⟩, by decide⟩
  · exact Difference.newline_not_mem_lines _ line hdifference

lemma newline_not_mem_lines {r : Report} (h : r.IsLined) : ∀ line ∈ r.lines, '\n' ∉ line := by
  intro line hline
  simp only [lines, upperLines, List.mem_append] at hline
  rcases hline with ((hsummary | hdigest) | htable) | hfailure
  · exact newline_not_mem_summaryLines h line hsummary
  · exact newline_not_mem_digestLines h line hdigest
  · exact newline_not_mem_verdictTable h line htable
  · exact newline_not_mem_failuresLines h line hfailure

/-- The lines of the markdown are those that were written, and behind the last line break an empty
one. -/
lemma splitOn_markdown {r : Report} (hlined : r.IsLined)
    (hdifference : ∀ v ∈ r.tally.failures, HasDifference v) :
    r.markdown.toList.splitOn '\n' = r.lines ++ [[]] := by
  rw [toList_markdown hdifference, splitOn_writeLines (newline_not_mem_lines hlined)]

end Report

end TypedFormat
