import TypedFormat.Digest.Sha256
import TypedFormat.Proofs.Command.Stages
import TypedFormat.Proofs.Json.FreeValues

/-!
# Lines that are written are checked and read back

Every line of a run log holds one entry, and the check gives that entry for it
(`Entry.isReadBack_and_logged`). This holds of the log that a verification writes on any host, however
far it comes: all that is written is watched (`Watched`), and only the log and the files of the report
are.
-/

namespace TypedFormat

open RunLog Json

/-- An entry whose line has no line break in it and is checked and read back as that entry. -/
structure RunLog.Entry.IsReadBack [Package] (e : Entry) : Prop where
  newline : '\n' ∉ e.line.toList
  carriageReturn : '\r' ∉ e.line.toList
  check : Entry.check e.line = .ok e

lemma RunLog.Entry.IsFit.isReadBack [Package] (hlaws : Laws) {e : Entry} (h : e.IsFit)
    (hfloats : e.ReadsBack) : e.IsReadBack where
  newline hmem := absurd (hlaws.control e.toJson _ hmem) (by decide)
  carriageReturn hmem := absurd (hlaws.control e.toJson _ hmem) (by decide)
  check := h.check_line hlaws hfloats

/-! ### Hosts that are watched -/

/-- A host with the writes that were asked of it, in their order. -/
structure Watched (σ : Type) where
  host : σ
  writes : List (String × List UInt8) := []

namespace Watched

variable {σ : Type} [Host (StateM σ)]

instance : Host (StateM (Watched σ)) where
  namesAt path := fun s =>
    let (names, host) := (Host.namesAt path : StateM σ _).run s.host
    (names, { s with host })
  bytesAt path := fun s =>
    let (bytes, host) := (Host.bytesAt path : StateM σ _).run s.host
    (bytes, { s with host })
  writeFile path bytes := fun s =>
    let (result, host) := (Host.writeFile path bytes : StateM σ _).run s.host
    (result, ⟨host, s.writes ++ [(path, bytes)]⟩)
  now := fun s =>
    let (moment, host) := (Host.now : StateM σ _).run s.host
    (moment, { s with host })

/-- The host after these writes. -/
def After (writes : List (String × List UInt8)) (s : Watched σ) : Prop :=
  s.writes = writes

lemma lasting_after (writes : List (String × List UInt8)) :
    Session.Lasting (After (σ := σ) writes) where
  namesAt _ _ hs := hs
  bytesAt _ _ hs := hs
  now _ hs := hs

end Watched

namespace Verification

open Session Watched

variable {σ : Type} [Host (StateM σ)]

/-- A write is watched, also if it fails. -/
lemma meets_writeText (trouble : FileFault → Trouble) (path text : String)
    (writes : List (String × List UInt8)) :
    Meets (After writes) (writeText trouble path text : Session (StateM (Watched σ)) Unit)
      fun _ => After (writes ++ [(path, Utf8.encode text.toList)]) := by
  have hwrite : Gives (After writes)
      (onHost (Host.writeFile path (Utf8.encode text.toList)) : Session (StateM (Watched σ)) _)
      fun _ => After (writes ++ [(path, Utf8.encode text.toList)]) := by
    refine gives_onHost fun s hs => ?_
    show s.writes ++ [_] = _
    rw [hs]
  exact hwrite.bind fun _ => meets_demand (fun _ _ _ hs => hs) fun _ _ _ hs => hs

/-- A write of a report's file. -/
def IsReportWrite (reportPath : Option String) (write : String × List UInt8) : Prop :=
  ∃ path, reportPath = some path ∧ (write.1 = path ∨ write.1 = Path.withExtension path "json")

/-- What was written when a run ended: the log was emptied, then it got the lines of entries that are
all read back, and then the report was written. The run may have ended at any point. -/
def Logged [Package] (reportPath : Option String) (log : String) (s : Watched σ) : Prop :=
  ∃ entries others, (∀ e ∈ entries, e.IsReadBack) ∧ (∀ w ∈ others, IsReportWrite reportPath w) ∧
    s.writes <+: (log, []) :: (log, Utf8.encode (logText entries).toList) :: others

section

variable [Package] {reportPath : Option String} {log : String} {entries : List Entry}

omit [Host (StateM σ)] in
/-- Nothing but a part of what may be written was written. -/
lemma logged_of_after {writes : List (String × List UInt8)} (log : String)
    (others : List (String × List UInt8)) (hentries : ∀ e ∈ entries, e.IsReadBack)
    (hothers : ∀ w ∈ others, IsReportWrite reportPath w)
    (hpart : writes <+: (log, []) :: (log, Utf8.encode (logText entries).toList) :: others)
    (s : Watched σ) (hs : After writes s) : Logged reportPath log s :=
  ⟨entries, others, hentries, hothers, hs ▸ hpart⟩

lemma meets_deliver (hentries : ∀ e ∈ entries, e.IsReadBack) (console : Console) (tally : Tally)
    (r : Report) {draft : Draft} (hdraft : draft.outlet = logText entries) :
    Meets (After [(log, [])])
      (deliver console reportPath (some log) tally draft r : Session (StateM (Watched σ)) String)
      fun _ => Logged reportPath log := by
  have hend : ∀ {P : Watched σ → Prop}, (∀ s, P s → Logged reportPath log s) →
      Meets P (if tally.allPassed then pure "" else throw .notConformant) fun _ =>
        Logged reportPath log := by
    intro P hP
    split_ifs
    · exact meets_pure hP
    · exact meets_throw hP
  unfold deliver
  rw [hdraft]
  refine meets_bind (meets_writeText _ log _ _) (fun _ => ?_) fun _ =>
    logged_of_after log [] hentries (by simp) List.prefix_rfl
  cases reportPath with
  | none =>
    refine Gives.bind (R := fun _ => After _) (gives_pure fun _ hs => hs) fun _ => hend ?_
    exact logged_of_after log [] hentries (by simp) List.prefix_rfl
  | some path =>
    have hothers : ∀ write ∈ [(path, Utf8.encode r.markdown.toList),
        (Path.withExtension path "json", Utf8.encode r.json.toList)],
        IsReportWrite (some path) write := by
      intro write hwrite
      simp only [List.mem_cons, List.not_mem_nil, or_false] at hwrite
      rcases hwrite with rfl | rfl
      · exact ⟨path, rfl, .inl rfl⟩
      · exact ⟨path, rfl, .inr rfl⟩
    have hmarkdown := logged_of_after (σ := σ) log _ hentries hothers
      (List.prefix_append [_, _, _] [_])
    have hjson := logged_of_after (σ := σ) log _ hentries hothers List.prefix_rfl
    refine meets_bind (R := fun _ => Logged (some path) log) ?_ (fun _ => hend fun _ hs => hs)
      fun _ _ hs => hs
    refine (gives_say _ _ _ _ rfl).bind fun _ => ?_
    refine meets_bind (meets_writeText _ path _ _) (fun _ => ?_) fun _ => hmarkdown
    exact (meets_writeText _ _ _ _).mono (fun _ hs => hs) fun _ => hjson

end

lemma meets_run [Package] [Digest] (hlaws : Laws) (console : Console) (directory : String)
    (reportPath : Option String) (log : String) :
    Meets (After []) (run console directory reportPath (some log) : Session (StateM (Watched σ)) String)
      fun _ => Logged reportPath log := by
  have hP := lasting_after (σ := σ) [(log, [])]
  have hnone : ∀ e ∈ ([] : List Entry), e.IsReadBack := by simp
  have hempty : ∀ s : Watched σ, After [(log, [])] s → Logged reportPath log s :=
    logged_of_after log [] hnone (by simp) (by simp)
  rw [run_eq]
  refine meets_bind (meets_writeText _ _ _ _) (fun _ => ?_) fun _ => hempty
  refine (gives_say _ _ _ _ rfl).bind fun _ => ?_
  refine (hP.gives_namesAt directory).bind fun names => ?_
  refine meets_bind (R := fun _ => After _) (meets_demand (fun _ _ _ hs => hs) fun _ _ _ hs => hs)
    (fun names => ?_) fun _ => hempty
  refine (gives_load console hP _ _).bind fun loaded => ?_
  have hconclude : Meets (After [(log, [])])
      (conclude console reportPath (some log) loaded : Session (StateM (Watched σ)) String)
      fun _ => Logged reportPath log := by
    refine meets_conclude hP console _ _ loaded (fun _ => hempty) ?_
    intro _ draft entries time hdraft hcovers
    have hback : ∀ e ∈ entries, e.IsReadBack :=
      fun e he => (hcovers.isFit e he).isReadBack hlaws (hcovers.readsBack e he)
    exact meets_deliver hback _ _ _ hdraft
  split_ifs
  · exact meets_bind (R := fun _ => After [(log, [])]) (meets_throw fun _ hs => hs)
      (fun _ => hconclude) fun _ => hempty
  · exact hconclude

/-- An entry that is fit is written on one line, which is checked and read back as that entry, if the
floating point numbers in its details are read as they are written. Every line that a verification logs
is such a line, on every host and however far the run comes. -/
theorem isReadBack_and_logged [Package] [Digest] (hlaws : Laws) :
    (∀ e : Entry, e.IsFit → e.ReadsBack → e.IsReadBack) ∧
      ∀ (σ : Type) [Host (StateM σ)] (host : σ) (console : Console) (directory : String)
        (reportPath : Option String) (log : String),
        Logged reportPath log ((run console directory reportPath (some log) :
          Session (StateM (Watched σ)) String).runFrom "" ⟨host, []⟩).2 := by
  constructor
  · intro e h hfloats
    exact h.isReadBack hlaws hfloats
  · intro σ _ host console directory reportPath log
    exact meets_run hlaws console directory reportPath log "" ⟨host, []⟩ rfl

open scoped Standard

/-- Line breaks and quotes in any field stay within the line, and nested details come back. -/
theorem isReadBack_of_line_breaks :
    let e : Entry := {
      timestamp := "\r\n", traceId := "", severity := .fatal, event := "\"\\", caseName := some "\x00",
      mode := some "lenient", outcome := some .skip,
      details := some (.array [.string "\n",
        .object [("a", .integer (-1)), ("b", .float ⟨0x3FE0000000000000⟩)]]) }
    e.IsFit ∧ e.ReadsBack ∧ e.IsReadBack := by
  intro e
  have hfit : e.IsFit := by
    constructor
    · intro mode hmode
      cases hmode
      exact .inr rfl
    · intro value hvalue
      cases hvalue
      refine ⟨by simp, .array ?_⟩
      simp only [List.mem_cons, List.not_mem_nil, or_false, forall_eq_or_imp, forall_eq]
      refine ⟨.string _, .object (by decide) ?_⟩
      simp only [List.mem_cons, List.not_mem_nil, or_false, forall_eq_or_imp, forall_eq]
      exact ⟨.integer (by decide) (by decide), .float (by decide)⟩
  have hfloats : e.ReadsBack := by
    intro value hvalue x hx
    cases hvalue
    obtain rfl : x = ⟨0x3FE0000000000000⟩ := by simpa [Value.numbers] using hx
    exact readsBack_half
  exact ⟨hfit, hfloats, (isReadBack_and_logged standard_laws).1 e hfit hfloats⟩

end Verification

end TypedFormat
