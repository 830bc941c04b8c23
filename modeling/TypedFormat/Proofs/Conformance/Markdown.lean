import Mathlib
import TypedFormat.Proofs.Conformance.Judging
import TypedFormat.Proofs.Conformance.ReportLines

/-!
# The markdown of a report accounts for every verdict

A document is read line by line: lines that begin with a text, the rows of a table, and fenced blocks,
each under the last heading before it. What is read of the markdown of a report are the verdicts it was
made from, with their counts, and under the heading of each failure its difference
(`Report.markdown_accounts`). No text of a case can end a block, as every line of a difference begins
with a mark.
-/

namespace TypedFormat

namespace Markdown

/-! ### Reading -/

/-- The lines that begin with a text. -/
def linesWith (lead : List Char) (lines : List (List Char)) : List (List Char) :=
  lines.filter lead.isPrefixOf

/-- The lines behind the first one that is the title. -/
def linesUnder (title : List Char) (lines : List (List Char)) : List (List Char) :=
  (lines.dropWhile (· ≠ title)).drop 1

/-- The rows of the table with a header: the lines of the table behind the header and its rule. -/
def rowsUnder (header : List Char) (lines : List (List Char)) : List (List Char) :=
  ((linesUnder header lines).drop 1).takeWhile (·.head? == some '|')

/-- Whether a line opens or closes a block. -/
def isFence (line : List Char) : Bool :=
  ['\x60', '\x60', '\x60'].isPrefixOf line

def isHeading (line : List Char) : Bool :=
  line.head? == some '#'

/-- The lines between two fences, and the heading under which they stand. -/
structure Block where
  heading : List Char
  content : List (List Char)
deriving DecidableEq

/-- The blocks of a document that begins under a heading. A block goes on to the next fence. -/
def blocks (heading : List Char) : List (List Char) → List Block
  | []           => []
  | line :: rest =>
    if isFence line then
      ⟨heading, rest.takeWhile (!isFence ·)⟩
        :: blocks heading ((rest.dropWhile (!isFence ·)).drop 1)
    else blocks (if isHeading line then line else heading) rest
termination_by lines => lines.length
decreasing_by
  · have hle := (List.dropWhile_sublist (!isFence ·) (l := rest)).length_le
    simp only [List.length_drop, List.length_cons]
    omega
  · simp

/-! ### Parts of a document -/

section Parts

variable {lead header heading line : List Char} {part more : List (List Char)}

lemma linesWith_append : linesWith lead (part ++ more) = linesWith lead part ++ linesWith lead more :=
  List.filter_append part more

/-- No line begins with a text if the first two characters of all lines are others. -/
lemma linesWith_eq_nil {starts : List (List Char)} (hlead : 2 ≤ lead.length)
    (hstarts : lead.take 2 ∉ starts) (hpart : ∀ line ∈ part, line.take 2 ∈ starts) :
    linesWith lead part = [] := by
  refine List.filter_eq_nil_iff.mpr fun line hline hprefix => hstarts ?_
  obtain ⟨rest, rfl⟩ := List.isPrefixOf_iff_prefix.mp hprefix
  rw [← List.take_append_of_le_length hlead]
  exact hpart _ hline

lemma linesUnder_append {title : List Char} (h : title ∉ part) :
    linesUnder title (part ++ title :: more) = more := by
  rw [linesUnder, dropWhile_run (decide_ne_of_not_mem h) (by simp), List.drop_one, List.tail_cons]

lemma linesUnder_eq_nil {title : List Char} (h : title ∉ part) : linesUnder title part = [] := by
  rw [linesUnder, List.dropWhile_eq_nil_iff.mpr (decide_ne_of_not_mem h), List.drop_nil]

/-- The rows of a table whose header stands nowhere before it. -/
lemma rowsUnder_append {rule : List Char} {rows : List (List Char)} (hpart : header ∉ part)
    (hrows : ∀ row ∈ rows, row.head? = some '|')
    (hmore : ∀ line, more.head? = some line → line.head? ≠ some '|') :
    rowsUnder header (part ++ header :: rule :: (rows ++ more)) = rows := by
  rw [rowsUnder, linesUnder_append hpart, List.drop_one, List.tail_cons]
  refine takeWhile_run ?_ ?_
  · simpa using hrows
  · simpa using hmore

/-- Lines without fences do no more than set the heading. -/
lemma blocks_append_of_forall (h : ∀ line ∈ part, isFence line = false) :
    ∃ heading', blocks heading (part ++ more) = blocks heading' more := by
  induction part generalizing heading with
  | nil => exact ⟨heading, rfl⟩
  | cons line part ih =>
    rw [List.forall_mem_cons] at h
    rw [List.cons_append, blocks, h.1]
    exact ih h.2

/-- A block up to its closing fence. -/
lemma blocks_fenced {fence : List Char} (hfence : isFence fence = true)
    (hpart : ∀ line ∈ part, isFence line = false) :
    blocks heading (fence :: (part ++ fence :: more)) = ⟨heading, part⟩ :: blocks heading more := by
  have hrun : ∀ line ∈ part, (!isFence line) = true := by simpa using hpart
  have hrest : ∀ line, (fence :: more).head? = some line → (!isFence line) = false := by
    rintro _ ⟨⟩
    simpa using hfence
  rw [blocks, if_pos hfence, takeWhile_run hrun hrest, dropWhile_run hrun hrest, List.drop_one,
    List.tail_cons]

end Parts

end Markdown

/-! ### What a report's markdown reads as -/

namespace Report

open Markdown

lemma not_mem_of_take_two {line : List Char} {part starts : List (List Char)}
    (hstarts : line.take 2 ∉ starts) (hpart : ∀ other ∈ part, other.take 2 ∈ starts) : line ∉ part :=
  fun hmem => hstarts (hpart line hmem)

/-- A fence shows in the first two characters. -/
lemma isFence_eq_false {line : List Char} (h : line.take 2 ≠ ['\x60', '\x60']) :
    isFence line = false := by
  refine Bool.eq_false_iff.mpr fun hfence => h ?_
  obtain ⟨rest, rfl⟩ := List.isPrefixOf_iff_prefix.mp hfence
  rfl

lemma isFence_of_mem_differenceLines {v : Verdict} :
    ∀ line ∈ differenceLines v, isFence line = false := by
  intro line hline
  refine isFence_eq_false fun hstart => ?_
  exact absurd (hstart ▸ take_two_of_mem_differenceLines hline) (by decide)

/-! #### The summary and the table of verdicts -/

/-- Labelled items stand in the summary only. -/
lemma linesWith_lines (r : Report) {lead : List Char} (hlength : 2 ≤ lead.length)
    (hlead : lead.take 2 = ['-', ' ']) :
    linesWith lead (r.lines ++ [[]]) = linesWith lead r.summaryLines := by
  have hdigests : linesWith lead r.digestLines = [] :=
    linesWith_eq_nil hlength (hlead ▸ by decide) fun _ => take_two_of_mem_digestLines
  have hverdicts :
      linesWith lead (verdictHeader :: verdictRule :: r.tally.verdicts.map verdictLine) = [] :=
    linesWith_eq_nil hlength (hlead ▸ by decide) fun _ => take_two_of_mem_verdictTable
  have hfailures : linesWith lead (failuresLines r.tally.failures) = [] :=
    linesWith_eq_nil hlength (hlead ▸ by decide) fun _ => take_two_of_mem_failuresLines
  have hlast : linesWith lead [[]] = [] :=
    linesWith_eq_nil hlength (hlead ▸ by decide : lead.take 2 ∉ [[]]) (by decide)
  rw [lines, upperLines]
  simp only [linesWith_append, hdigests, hverdicts, hfailures, hlast, List.append_nil]

/-- The row of a digest ends in a mark that the header of the verdicts does not end in. -/
lemma digestLine_ne (entry : String × String) : digestLine entry ≠ verdictHeader := by
  intro heq
  have hsuffix : "\x60 |".toList <:+ digestLine entry := List.suffix_append _ _
  exact absurd (heq ▸ hsuffix) (by decide)

lemma verdictHeader_not_mem (r : Report) : verdictHeader ∉ r.summaryLines ++ r.digestLines := by
  rw [List.mem_append, not_or]
  constructor
  · exact not_mem_of_take_two (by decide) fun _ => take_two_of_mem_summaryLines
  · intro hmem
    rcases of_mem_digestLines hmem with heq | heq | heq | ⟨entry, -, heq⟩
    · exact absurd heq (by decide)
    · exact absurd heq (by decide)
    · exact absurd heq (by decide)
    · exact digestLine_ne entry heq.symm

lemma rowsUnder_lines (r : Report) :
    rowsUnder verdictHeader (r.lines ++ [[]]) = r.tally.verdicts.map verdictLine := by
  have hparts : r.lines ++ [[]] = (r.summaryLines ++ r.digestLines) ++ verdictHeader :: verdictRule
      :: (r.tally.verdicts.map verdictLine ++ (failuresLines r.tally.failures ++ [[]])) := by
    simp only [lines, upperLines, List.append_assoc, List.cons_append]
  rw [hparts]
  refine rowsUnder_append r.verdictHeader_not_mem ?_ ?_
  · intro row hrow
    obtain ⟨v, -, rfl⟩ := List.mem_map.mp hrow
    rfl
  · intro line hline
    unfold failuresLines at hline
    split_ifs at hline <;> cases hline <;> decide

/-! #### How a row ends -/

lemma isSuffixOf_verdictLine (v : Verdict) :
    " PASS |".toList.isSuffixOf (verdictLine v) = v.passed ∧
    " FAIL |".toList.isSuffixOf (verdictLine v) = !v.passed := by
  have hend : ∀ passed : Bool, " | ".toList ++ (if passed then "PASS" else "FAIL").toList ++ " |".toList
      = " |".toList ++ (if passed then " PASS |" else " FAIL |").toList := by
    decide
  have hline : ∃ start, verdictLine v
      = start ++ (if v.passed then " PASS |" else " FAIL |").toList := by
    refine ⟨"| ".toList ++ v.caseName.toList ++ " | ".toList ++ v.area.toList ++ " | ".toList
      ++ v.mode.toList ++ " |".toList, ?_⟩
    rw [List.append_assoc, ← hend]
    delta verdictLine
    simp only [List.append_assoc]
  obtain ⟨start, hstart⟩ := hline
  rw [hstart, List.isSuffixOf, List.isSuffixOf, List.reverse_append]
  cases v.passed <;> exact ⟨rfl, rfl⟩

lemma countP_passed_rows (verdicts : List Verdict) :
    (verdicts.map verdictLine).countP (" PASS |".toList.isSuffixOf ·) = verdicts.countP (·.passed) := by
  rw [List.countP_map]
  exact List.countP_congr fun v _ => by rw [Function.comp_apply, (isSuffixOf_verdictLine v).1]

lemma countP_failed_rows (verdicts : List Verdict) :
    (verdicts.map verdictLine).countP (" FAIL |".toList.isSuffixOf ·)
      = verdicts.length - verdicts.countP (·.passed) := by
  have hlength := List.length_eq_countP_add_countP Verdict.passed (l := verdicts)
  have hcount : (verdicts.map verdictLine).countP (" FAIL |".toList.isSuffixOf ·)
      = verdicts.countP fun v => decide ¬ v.passed = true := by
    rw [List.countP_map]
    refine List.countP_congr fun v _ => ?_
    rw [Function.comp_apply, (isSuffixOf_verdictLine v).2]
    simp
  rw [hcount, hlength]
  exact (Nat.add_sub_cancel_left ..).symm

/-! #### The failures -/

lemma failuresHeading_not_mem (r : Report) : failuresHeading ∉ r.upperLines :=
  not_mem_of_take_two (by decide) fun _ => take_two_of_mem_upperLines

lemma failuresHeading_mem_iff (r : Report) :
    failuresHeading ∈ r.lines ++ [[]] ↔ r.tally.failures ≠ [] := by
  have hlast : failuresHeading ∉ [[]] := by decide
  rw [lines, List.mem_append, List.mem_append, or_iff_right r.failuresHeading_not_mem,
    or_iff_left hlast, failuresLines]
  split_ifs with hempty
  · exact iff_of_false List.not_mem_nil (not_not_intro (List.isEmpty_iff.mp hempty))
  · exact iff_of_true (by simp) (mt List.isEmpty_iff.mpr hempty)

lemma linesWith_failureLines (v : Verdict) :
    linesWith "### ".toList (failureLines v) = [failureHeading v] := by
  have hhead : linesWith "### ".toList [[], failureHeading v, [], fence.toList] = [failureHeading v] :=
    rfl
  have hdifference : linesWith "### ".toList (differenceLines v) = [] :=
    linesWith_eq_nil (by decide) (by decide) fun _ => take_two_of_mem_differenceLines
  have hfence : linesWith "### ".toList [fence.toList] = [] := rfl
  rw [failureLines, linesWith_append, linesWith_append, hhead, hdifference, hfence]
  rfl

lemma linesWith_flatMap_failureLines (failures : List Verdict) :
    linesWith "### ".toList (failures.flatMap failureLines) = failures.map failureHeading := by
  induction failures with
  | nil => rfl
  | cons v failures ih =>
    rw [List.flatMap_cons, linesWith_append, linesWith_failureLines, ih, List.map_cons,
      List.singleton_append]

lemma linesWith_linesUnder (r : Report) :
    linesWith "### ".toList (linesUnder failuresHeading (r.lines ++ [[]]))
      = r.tally.failures.map failureHeading := by
  rw [lines, failuresLines]
  split_ifs with hempty
  · rw [List.isEmpty_iff.mp hempty, List.append_nil, linesUnder_eq_nil]
    · rfl
    · exact List.not_mem_append r.failuresHeading_not_mem (by decide)
  · have hparts : r.upperLines ++ ([[], failuresHeading] ++ r.tally.failures.flatMap failureLines)
          ++ [[]] = (r.upperLines ++ [[]])
            ++ failuresHeading :: (r.tally.failures.flatMap failureLines ++ [[]]) := by
      simp only [List.append_assoc, List.cons_append, List.nil_append]
    rw [hparts, linesUnder_append, linesWith_append, linesWith_flatMap_failureLines]
    · exact List.append_nil _
    · exact List.not_mem_append r.failuresHeading_not_mem (by decide)

/-- A failure is one block, under its heading. -/
lemma blocks_failureLines (heading : List Char) (v : Verdict) (more : List (List Char)) :
    blocks heading (failureLines v ++ more)
      = ⟨failureHeading v, differenceLines v⟩ :: blocks (failureHeading v) more := by
  have hheading : isFence (failureHeading v) = false := rfl
  have hfence : isFence fence.toList = true := by decide
  have hblank : isFence [] = false := rfl
  have hparts : failureLines v ++ more
      = [] :: failureHeading v :: [] :: fence.toList :: (differenceLines v ++ fence.toList :: more) := by
    simp only [failureLines, List.append_assoc, List.cons_append, List.nil_append]
  rw [hparts, blocks, hblank, blocks, hheading, blocks, hblank]
  exact blocks_fenced hfence isFence_of_mem_differenceLines

lemma blocks_lines (r : Report) :
    blocks [] (r.lines ++ [[]])
      = r.tally.failures.map fun v => ⟨failureHeading v, differenceLines v⟩ := by
  have hupper : ∀ line ∈ r.upperLines, isFence line = false := by
    intro line hline
    refine isFence_eq_false fun hstart => ?_
    exact absurd (hstart ▸ take_two_of_mem_upperLines hline) (by decide)
  have hlast : ∀ heading, blocks heading [[]] = [] := by
    intro heading
    rw [blocks, if_neg (by decide), blocks]
  -- Whatever heading stands before them, each failure gives its block.
  have hfailures : ∀ (heading : List Char) (failures : List Verdict),
      blocks heading (failures.flatMap failureLines ++ [[]])
        = failures.map fun v => ⟨failureHeading v, differenceLines v⟩ := by
    intro heading failures
    induction failures generalizing heading with
    | nil => exact hlast heading
    | cons v failures ih =>
      rw [List.flatMap_cons, List.append_assoc, blocks_failureLines, ih, List.map_cons]
  obtain ⟨heading, hmore⟩ := blocks_append_of_forall hupper
  rw [lines, List.append_assoc, hmore, failuresLines]
  split_ifs with hempty
  · rw [List.isEmpty_iff.mp hempty]
    exact hlast heading
  · have hblank : isFence [] = false := rfl
    have hheading : isFence failuresHeading = false := by decide
    rw [List.append_assoc, List.cons_append, List.cons_append, List.nil_append, blocks, hblank, blocks,
      hheading]
    exact hfailures _ _

end Report

/-! ### Reports of trials -/

namespace Case

/-- A verdict that did not pass has its difference. -/
lemma hasDifference_judge {policy : Policy} {c : Case} (h : (c.judge policy).passed = false) :
    Report.HasDifference (c.judge policy) := by
  have hne : (c.outcome policy).canonical ≠ c.expectation.canonical := of_decide_eq_false h
  have hdifference : (c.judge policy).difference = if (c.judge policy).passed then none
      else some (differenceText (c.judge policy).expected (c.judge policy).actual) := rfl
  refine ⟨hne.symm, ?_⟩
  rw [hdifference, if_neg (Bool.eq_false_iff.mp h)]

end Case

/-- A block shows a verdict: it stands under the verdict's heading, and is the text of its difference,
in which no line could end the block. -/
structure Markdown.Block.Shows (b : Block) (v : Verdict) : Prop where
  heading : b.heading = Report.failureHeading v
  content : v.difference = some (String.ofList (writeLines b.content))
  difference : v.difference = some (differenceText v.expected v.actual)
  unfenced : ∀ line ∈ (differenceText v.expected v.actual).toList.splitOn '\n', isFence line = false

namespace Report

open Markdown

lemma shows_of_hasDifference {v : Verdict} (h : HasDifference v) :
    Block.Shows ⟨failureHeading v, differenceLines v⟩ v where
  heading := rfl
  content := by
    rw [← toList_difference h, h.2, Option.getD_some, String.ofList_toList]
  difference := h.2
  unfenced := by
    have htext : (differenceText v.expected v.actual).toList = writeLines (differenceLines v) := by
      rw [← toList_difference h, h.2, Option.getD_some]
    have hlines : (writeLines (differenceLines v)).splitOn '\n' = differenceLines v ++ [[]] :=
      splitOn_writeLines (Difference.newline_not_mem_lines _)
    rw [htext, hlines]
    intro line hline
    rcases List.mem_append.mp hline with hdifference | hlast
    · exact isFence_of_mem_differenceLines line hdifference
    · rw [List.mem_singleton.mp hlast]
      rfl

/-- The markdown of a report on trials accounts for all their verdicts. Its table has the row of each
verdict, in order, and its counts are the numbers of rows that end in one status or the other. It has a
part for failures if a verdict failed, with a heading for each of these, in order. Under each heading,
and nowhere else, is a block with the difference of that verdict as it is, whatever texts the case and
its outcome have. -/
theorem markdown_accounts (runs : List (Trial × Suite)) (title mode timestamp : String)
    (digests : List (String × String))
    (hcases : ∀ run ∈ runs, ∀ c ∈ run.2.cases, '\n' ∉ c.name.toList ∧ '\n' ∉ c.area.toList)
    (htexts : ∀ text ∈ [title, mode, timestamp], '\n' ∉ text.toList)
    (hdigests : ∀ entry ∈ digests, '\n' ∉ entry.1.toList ∧ '\n' ∉ entry.2.toList) :
    let verdicts := runs.flatMap fun run => run.1.run run.2
    let failures := verdicts.filter (!·.passed)
    let r : Report := ⟨title, mode, timestamp, digests, Tally.ofVerdicts verdicts⟩
    let lines := r.markdown.toList.splitOn '\n'
    let rows := rowsUnder verdictHeader lines
    let passed := rows.countP (" PASS |".toList.isSuffixOf ·)
    let failed := rows.countP (" FAIL |".toList.isSuffixOf ·)
    rows = verdicts.map verdictLine ∧
    passed + failed = rows.length ∧
    linesWith "- Total: ".toList lines = [itemLine "Total" rows.length.repr] ∧
    linesWith "- Passed: ".toList lines = [itemLine "Passed" passed.repr] ∧
    linesWith "- Failed: ".toList lines = [itemLine "Failed" failed.repr] ∧
    (failuresHeading ∈ lines ↔ ∃ v ∈ verdicts, v.passed = false) ∧
    linesWith "### ".toList (linesUnder failuresHeading lines) = failures.map failureHeading ∧
    List.Forall₂ Block.Shows (blocks [] lines) failures := by
  intro verdicts failures r lines rows passed failed
  have hjudged : ∀ v ∈ verdicts, ∃ run ∈ runs, ∃ c ∈ run.2.cases, v = c.judge run.1.policy := by
    intro v hv
    obtain ⟨run, hrun, hmem⟩ := List.mem_flatMap.mp hv
    exact ⟨run, hrun, Trial.exists_of_mem_run hmem⟩
  have hdifference : ∀ v ∈ failures, HasDifference v := by
    intro v hv
    obtain ⟨hmem, hfailed⟩ := List.mem_filter.mp hv
    obtain ⟨run, -, c, -, rfl⟩ := hjudged v hmem
    exact Case.hasDifference_judge (by simpa using hfailed)
  have hlined : r.IsLined := by
    refine ⟨htexts, hdigests, fun v hv => ?_⟩
    obtain ⟨run, hrun, c, hc, rfl⟩ := hjudged v hv
    have hmode : ∀ policy : Policy, '\n' ∉ policy.name.toList := by
      rintro (_ | _) <;> decide
    rw [Case.caseName_judge, Case.area_judge, Case.mode_judge]
    obtain ⟨hname, harea⟩ := hcases run hrun c hc
    exact ⟨hname, harea, hmode run.1.policy⟩
  have hlines : lines = r.lines ++ [[]] := splitOn_markdown hlined hdifference
  have hrows : rows = verdicts.map verdictLine := by
    dsimp only [rows]
    rw [hlines]
    exact r.rowsUnder_lines
  have hpassed : passed = r.tally.passed := by
    dsimp only [passed]
    rw [hrows]
    exact countP_passed_rows verdicts
  have hfailed : failed = r.tally.failed := by
    dsimp only [failed]
    rw [hrows]
    exact countP_failed_rows verdicts
  have htotal : rows.length = r.tally.total := by
    rw [hrows, List.length_map]
    rfl
  have hle : verdicts.countP (·.passed) ≤ verdicts.length := List.countP_le_length
  refine ⟨hrows, ?_, ?_, ?_, ?_, ?_, ?_, ?_⟩
  · rw [hpassed, hfailed, htotal]
    exact Nat.add_sub_cancel' hle
  · rw [hlines, htotal, r.linesWith_lines (by decide) (by decide)]
    rfl
  · rw [hlines, hpassed, r.linesWith_lines (by decide) (by decide)]
    rfl
  · rw [hlines, hfailed, r.linesWith_lines (by decide) (by decide)]
    rfl
  · rw [hlines, failuresHeading_mem_iff]
    simp [r, Tally.failures, Tally.ofVerdicts, List.filter_eq_nil_iff]
  · rw [hlines]
    exact r.linesWith_linesUnder
  · rw [hlines, blocks_lines, List.forall₂_map_left_iff]
    exact List.forall₂_same.mpr fun v hv => shows_of_hasDifference (hdifference v hv)

/-- A case that passes, and one that comes to a fence and the row of a table. -/
theorem markdown_accounts_of_fence :
    let pads : Case := ⟨"pads", "width", "[%3s]", [.text "x"], .output "[  x]", "both"⟩
    let fences : Case :=
      ⟨"fences", "text", "\x60\x60\x60\n| a | PASS |", [], .output "\x60\x60\x60", "strict"⟩
    let verdicts := (Trial.mk "campaign" "strict").run ⟨"v1", "fam", "now", [pads, fences]⟩
    let r : Report := ⟨"Title", "strict", "now", [("d.json", "ab12")], Tally.ofVerdicts verdicts⟩
    let lines := r.markdown.toList.splitOn '\n'
    (∀ c ∈ [pads, fences], '\n' ∉ c.name.toList ∧ '\n' ∉ c.area.toList) ∧
    rowsUnder verdictHeader lines
      = ["| pads | width | strict | PASS |".toList, "| fences | text | strict | FAIL |".toList] ∧
    failuresHeading ∈ lines ∧
    List.Forall₂ Block.Shows (blocks [] lines) [fences.judge .strict] := by
  intro pads fences verdicts r lines
  have hpassed : (pads.judge .strict).passed = true ∧ (fences.judge .strict).passed = false := by
    have hsame : ∀ c : Case, (c.judge .strict).passed
        = decide ((c.outcome .strict).canonical = c.expectation.canonical) := fun _ => rfl
    rw [hsame, hsame]
    constructor <;> cbv
  have hverdicts : verdicts = [pads.judge .strict, fences.judge .strict] := by
    have hpolicy : (Trial.mk "campaign" "strict").policy = .strict := by decide +kernel
    have htakes : [pads, fences].filter (Trial.mk "campaign" "strict").takes = [pads, fences] := by
      decide +kernel
    dsimp only [verdicts]
    rw [Trial.run, htakes, hpolicy]
    rfl
  have hcases : ∀ c ∈ [pads, fences], '\n' ∉ c.name.toList ∧ '\n' ∉ c.area.toList := by
    decide
  obtain ⟨hrows, -, -, -, -, hheading, -, hblocks⟩ :=
    markdown_accounts [(⟨"campaign", "strict"⟩, ⟨"v1", "fam", "now", [pads, fences]⟩)] "Title" "strict"
      "now" [("d.json", "ab12")] (by simpa using hcases) (by decide) (by decide)
  rw [List.flatMap_singleton] at hrows hheading hblocks
  change rowsUnder verdictHeader lines = verdicts.map verdictLine at hrows
  change failuresHeading ∈ lines ↔ ∃ v ∈ verdicts, v.passed = false at hheading
  change List.Forall₂ Block.Shows (blocks [] lines) (verdicts.filter (!·.passed)) at hblocks
  refine ⟨hcases, ?_, ?_, ?_⟩
  · have hline : ∀ c : Case, verdictLine (c.judge .strict) = "| ".toList ++ c.name.toList ++ " | ".toList
        ++ c.area.toList ++ " | ".toList ++ "strict".toList ++ " | ".toList
        ++ (if (c.judge .strict).passed then "PASS" else "FAIL").toList ++ " |".toList := fun _ => rfl
    rw [hrows, hverdicts, List.map_cons, List.map_singleton, hline, hline, hpassed.1, hpassed.2]
    decide +kernel
  · rw [hheading, hverdicts]
    exact ⟨fences.judge .strict, by simp, hpassed.2⟩
  · rw [hverdicts] at hblocks
    simpa [hpassed] using hblocks

end Report

end TypedFormat
