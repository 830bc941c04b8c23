import Mathlib
import TypedFormat.Proofs.Json.Compact
import TypedFormat.Proofs.Number.Numerals
import TypedFormat.Proofs.Outlet.Exchanges
import TypedFormat.Proofs.RunLog.Recording
import TypedFormat.RunLog.Journal

/-!
# Trace ids over a run

Calls on one journal, one after the other, at any outlet. Each call that needs a trace id uses up the
next number, whether its line is then written or not, so the ids of a run are numbered from one without
gaps and are all different. An entry that comes with an id keeps it. As long as the outlet takes every
line, it has the lines of the calls in their order (`Journal.calls_numbered`).
-/

namespace TypedFormat

/-- The bytes that an outlet has to show grow by each text it takes, and not by passing them on. -/
structure Collects {σ : Type} [Outlet σ] (content : σ → List UInt8) (flush : EStateM String σ Unit) :
    Prop where
  deliver {text : List Char} {s s' : σ} (h : Outlet.deliver text s = .ok () s') :
    content s' = content s ++ Utf8.encode text
  flush_ok {s s' : σ} (h : flush s = .ok () s') : content s' = content s
  flush_error {s s' : σ} {reason : String} (h : flush s = .error reason s') : content s' = content s

/-- A text shows its own bytes. -/
lemma collects_string : Collects (fun s : String => Utf8.encode s.toList) (pure ()) where
  deliver := by
    intro text s s' h
    cases h
    rw [String.toList_append, Utf8.encode_append, String.toList_ofList]
  flush_ok := by
    intro s s' h
    cases h
    rfl
  flush_error := by
    intro s s' reason h
    cases h

/-- A store shows the bytes that it holds. -/
lemma Store.collects : Collects Store.bytes Store.flush where
  deliver := by
    intro text s s' h
    have hwrite : write (Utf8.encode text) s = .ok () s' := h
    unfold write at hwrite
    split at hwrite
    · cases hwrite
      rfl
    · split at hwrite
      · cases hwrite
        rfl
      · cases hwrite
  flush_ok := by
    intro s s' h
    unfold Store.flush at h
    dsimp only at h
    split at h
    · cases h
    · cases h
      rfl
  flush_error := by
    intro s s' reason h
    unfold Store.flush at h
    dsimp only at h
    split at h
    · cases h
      rfl
    · cases h

namespace RunLog.Journal

/-! ### Trace ids -/

/-- Different numbers give different trace ids. -/
lemma traceId_injective (runId : String) : Function.Injective (traceId runId) := by
  intro m n h
  have hdigits : String.ofList (paddedDigits 3 m) = String.ofList (paddedDigits 3 n) :=
    (String.append_right_inj _).mp h
  exact paddedDigits_inj.mp (String.ofList_injective hdigits)

/-! ### Calls -/

/-- A call on a journal: for an event, for an entry, or to pass on what was written. -/
inductive Call where
  | emit (timestamp : String) (severity : Severity) (event : String)
  | write (entry : Entry)
  | flush

namespace Call

/-- The call needs a trace id. -/
def asksForId : Call → Bool
  | .emit ..     => true
  | .write entry => entry.traceId = ""
  | .flush       => false

/-- The entry that a call is to write, if `id` is the next trace id. -/
def entry? (id : String) : Call → Option Entry
  | .emit timestamp severity event => some { timestamp, traceId := id, severity, event }
  | .write entry                   =>
    some (if entry.traceId = "" then { entry with traceId := id } else entry)
  | .flush                         => none

/-- What a call for an entry returns, once that is written: the entry itself, if it is made from an
event. -/
def returned? (entry : Entry) : Call → Option Entry
  | .emit .. => some entry
  | _        => none

end Call

section

variable [Json.Package] {σ : Type} [Outlet σ]

/-- Performs a call. The outlet passes on what was written by `flush`. -/
def perform (flush : EStateM String σ Unit) : Call → EStateM String (Journal σ) (Option Entry)
  | .emit timestamp severity event => some <$> emit timestamp severity event
  | .write entry                   => do
    write entry
    pure none
  | .flush                         => do
    onOutlet flush
    pure none

/-- A call on a journal with what it came to. -/
abbrev Turn (σ : Type) := Exchange Call String (Journal σ) (Option Entry)

namespace Turn

variable {x : Turn σ} {flush : EStateM String σ Unit}

/-- The entry that a call is to write where it is made. -/
def entry? (x : Turn σ) : Option Entry :=
  x.call.entry? (traceId x.before.runId (x.before.count + 1))

/-- The call ends as something on its outlet did, and returns `returned?` if that went well. -/
def EndsAs (x : Turn σ) (returned? : Option Entry) : EStateM.Result String σ Unit → Prop
  | .ok _ outlet         => x.result = .ok returned? ∧ x.after.outlet = outlet
  | .error reason outlet => x.result = .error reason ∧ x.after.outlet = outlet

/-- What a call does. A number is used up also if the outlet refuses the line. -/
structure Serves (flush : EStateM String σ Unit) (x : Turn σ) : Prop where
  runId : x.after.runId = x.before.runId
  count : x.after.count = x.before.count + if x.call.asksForId then 1 else 0
  entry {e : Entry} (h : x.entry? = some e) : x.EndsAs (x.call.returned? e)
    (Outlet.deliver (e.line.toList ++ ['\n']) x.before.outlet)
  flush (h : x.call = .flush) : x.EndsAs none (flush x.before.outlet)

end Turn

/-! ### One call -/

/-- What a call comes to if all that it does at the outlet comes to `result`. -/
def ended (j : Journal σ) (count : Nat) (returned? : Option Entry) :
    EStateM.Result String σ Unit → EStateM.Result String (Journal σ) (Option Entry)
  | .ok _ outlet         => .ok returned? ⟨outlet, j.runId, count⟩
  | .error reason outlet => .error reason ⟨outlet, j.runId, count⟩

lemma exchange_of_ended {flush : EStateM String σ Unit} {call : Call} {j : Journal σ} {count : Nat}
    {returned? : Option Entry} {result : EStateM.Result String σ Unit}
    (h : perform flush call j = j.ended count returned? result) :
    let x : Turn σ := exchange (perform flush) call j
    x.after.runId = j.runId ∧ x.after.count = count ∧ x.EndsAs returned? result := by
  cases result with
  | ok a outlet =>
    rw [exchange_of_ok h]
    exact ⟨rfl, rfl, rfl, rfl⟩
  | error reason outlet =>
    rw [exchange_of_error h]
    exact ⟨rfl, rfl, rfl, rfl⟩

lemma writeLine_eq (e : Entry) (j : Journal σ) :
    writeLine e j = match Outlet.deliver (e.line.toList ++ ['\n']) j.outlet with
      | .ok a outlet         => .ok a { j with outlet }
      | .error reason outlet => .error reason { j with outlet } := by
  rw [writeLine, onOutlet]
  cases Outlet.deliver (e.line.toList ++ ['\n']) j.outlet <;> rfl

lemma emit_eq {timestamp event : String} {severity : Severity} {e : Entry} {j : Journal σ}
    (h : { timestamp, traceId := traceId j.runId (j.count + 1), severity, event } = e) :
    emit timestamp severity event j
      = (do writeLine e; pure e : EStateM String (Journal σ) Entry) { j with count := j.count + 1 } := by
  subst h
  rfl

lemma write_of_empty {entry : Entry} (h : entry.traceId = "") (j : Journal σ) :
    write entry j = writeLine { entry with traceId := traceId j.runId (j.count + 1) }
      { j with count := j.count + 1 } := by
  rw [write, h]
  rfl

lemma write_of_ne {entry : Entry} (h : entry.traceId ≠ "") (j : Journal σ) :
    write entry j = writeLine entry j := by
  have hempty : ¬ entry.traceId.isEmpty = true := by simpa using h
  rw [write, if_neg hempty]
  rfl

/-- A call for an entry counts, if it needs a trace id, and else does nothing but hand the line of the
entry to the outlet. -/
lemma perform_of_entry (flush : EStateM String σ Unit) {call : Call} {j : Journal σ} {e : Entry}
    (h : call.entry? (traceId j.runId (j.count + 1)) = some e) :
    perform flush call j = j.ended (j.count + if call.asksForId then 1 else 0) (call.returned? e)
      (Outlet.deliver (e.line.toList ++ ['\n']) j.outlet) := by
  cases call with
  | emit timestamp severity event =>
    show EStateM.map some (emit timestamp severity event) j = _
    rw [EStateM.map, emit_eq (Option.some.inj h)]
    simp only [bind, EStateM.bind, writeLine_eq]
    cases Outlet.deliver (e.line.toList ++ ['\n']) j.outlet <;> rfl
  | write entry =>
    show EStateM.bind (write entry) (fun _ => pure none) j = _
    by_cases hid : entry.traceId = ""
    · rw [Call.entry?, if_pos hid] at h
      rw [EStateM.bind, write_of_empty hid, Option.some.inj h, writeLine_eq]
      simp only [Call.asksForId, hid]
      cases Outlet.deliver (e.line.toList ++ ['\n']) j.outlet <;> rfl
    · rw [Call.entry?, if_neg hid] at h
      obtain rfl := Option.some.inj h
      rw [EStateM.bind, write_of_ne hid, writeLine_eq]
      simp only [Call.asksForId, hid, decide_false, Bool.false_eq_true, if_false]
      cases Outlet.deliver (entry.line.toList ++ ['\n']) j.outlet <;> rfl
  | flush => cases h

lemma perform_flush (flush : EStateM String σ Unit) (j : Journal σ) :
    perform flush .flush j = j.ended j.count none (flush j.outlet) := by
  show EStateM.bind (onOutlet flush) (fun _ => pure none) j = _
  rw [EStateM.bind, onOutlet]
  cases flush j.outlet <;> rfl

lemma serves_exchange (flush : EStateM String σ Unit) (call : Call) (j : Journal σ) :
    Turn.Serves flush (exchange (perform flush) call j) := by
  cases hentry : call.entry? (traceId j.runId (j.count + 1)) with
  | some e =>
    obtain ⟨hrunId, hcount, hends⟩ := exchange_of_ended (perform_of_entry flush hentry)
    refine ⟨?_, ?_, ?_, ?_⟩
    · rw [hrunId, before_exchange]
    · rw [hcount, before_exchange, call_exchange]
    · intro e' he'
      rw [Turn.entry?, call_exchange, before_exchange, hentry] at he'
      obtain rfl := Option.some.inj he'
      rw [call_exchange, before_exchange]
      exact hends
    · intro hflush
      rw [call_exchange] at hflush
      rw [hflush] at hentry
      cases hentry
  | none =>
    cases call with
    | emit timestamp severity event => cases hentry
    | write entry => cases hentry
    | flush =>
      obtain ⟨hrunId, hcount, hends⟩ := exchange_of_ended (perform_flush flush j)
      refine ⟨?_, ?_, ?_, ?_⟩
      · rw [hrunId, before_exchange]
      · rw [hcount, before_exchange, call_exchange]
        rfl
      · intro e he
        rw [Turn.entry?, call_exchange] at he
        cases he
      · intro _
        rw [before_exchange]
        exact hends

/-! ### Trace ids and content over a run -/

section

omit [Json.Package] [Outlet σ]

/-- The entries of the calls in their order. -/
def entries (turns : List (Turn σ)) : List Entry :=
  turns.filterMap Turn.entry?

/-- The trace ids of the calls that need one, in their order. -/
def usedIds (turns : List (Turn σ)) : List String :=
  (entries (turns.filter (·.call.asksForId))).map Entry.traceId

/-- A call that needs a trace id has an entry with the next one. -/
lemma Turn.entry?_of_asksForId {x : Turn σ} (h : x.call.asksForId = true) :
    ∃ e, x.entry? = some e ∧ e.traceId = traceId x.before.runId (x.before.count + 1) := by
  obtain ⟨call, before, result, after⟩ := x
  cases call with
  | emit timestamp severity event => exact ⟨_, rfl, rfl⟩
  | write entry =>
    have hid : entry.traceId = "" := by simpa [Call.asksForId] using h
    exact ⟨_, congrArg some (if_pos hid), rfl⟩
  | flush => cases h

lemma Turn.entry?_of_write {x : Turn σ} {e : Entry} (h : x.call = .write e) (hid : e.traceId ≠ "") :
    x.entry? = some e := by
  rw [Turn.entry?, h]
  exact congrArg some (if_neg hid)

end

lemma Turn.Serves.count_of_write {x : Turn σ} {flush : EStateM String σ Unit} (hx : x.Serves flush)
    {e : Entry} (h : x.call = .write e) (hid : e.traceId ≠ "") : x.after.count = x.before.count := by
  simp [hx.count, h, Call.asksForId, hid]

/-- The ids of a run go on with the number after the count. -/
lemma usedIds_exchanges (flush : EStateM String σ Unit) (calls : List Call) (j : Journal σ) :
    usedIds (exchanges (perform flush) calls j)
      = (List.range' (j.count + 1) (calls.countP Call.asksForId)).map (traceId j.runId) := by
  induction calls generalizing j with
  | nil => rfl
  | cons call calls ih =>
    set x : Turn σ := exchange (perform flush) call j with hx
    have hcall : x.call = call := call_exchange call j
    have hbefore : x.before = j := before_exchange call j
    have hserves : x.Serves flush := serves_exchange flush call j
    have hrest := ih x.after
    rw [hserves.runId, hserves.count, hbefore, hcall] at hrest
    show usedIds (x :: exchanges (perform flush) calls x.after) = _
    by_cases hasks : call.asksForId = true
    · obtain ⟨e, hentry, hid⟩ := Turn.entry?_of_asksForId (x := x) (by rw [hcall, hasks])
      have hcons (turns : List (Turn σ)) : usedIds (x :: turns) = e.traceId :: usedIds turns := by
        simp [usedIds, entries, hcall, hasks, hentry]
      rw [hcons, hrest, hid, hbefore, List.countP_cons_of_pos hasks, if_pos hasks, List.range'_succ,
        List.map_cons]
    · have hcons (turns : List (Turn σ)) : usedIds (x :: turns) = usedIds turns := by
        simp [usedIds, hcall, hasks]
      rw [hcons, hrest, List.countP_cons_of_neg hasks, if_neg hasks, Nat.add_zero]

/-- The outlet took the line of the call, if it has one. -/
def Turn.IsWritten (x : Turn σ) : Prop :=
  ∀ e, x.entry? = some e → ∃ returned?, x.result = .ok returned?

lemma Turn.Serves.content_after {content : σ → List UInt8} {flush : EStateM String σ Unit}
    (hcollects : Collects content flush) {x : Turn σ} (hx : x.Serves flush) (hwritten : x.IsWritten) :
    content x.after.outlet = content x.before.outlet
      ++ Utf8.encode (Verification.logText x.entry?.toList).toList := by
  cases hentry : x.entry? with
  | some e =>
    have hends := hx.entry hentry
    obtain ⟨returned?, hok⟩ := hwritten e hentry
    cases hdeliver : Outlet.deliver (e.line.toList ++ ['\n']) x.before.outlet with
    | ok a outlet =>
      rw [hdeliver] at hends
      rw [hends.2, hcollects.deliver hdeliver]
      simp [Verification.logText]
    | error reason outlet =>
      rw [hdeliver] at hends
      rw [hends.1] at hok
      cases hok
  | none =>
    have hflush : x.call = .flush := by
      cases hcall : x.call with
      | flush => rfl
      | emit timestamp severity event => simp [Turn.entry?, hcall, Call.entry?] at hentry
      | write entry => simp [Turn.entry?, hcall, Call.entry?] at hentry
    have hends := hx.flush hflush
    have hnothing : Utf8.encode (Verification.logText ([] : List Entry)).toList = [] := rfl
    rw [Option.toList_none, hnothing, List.append_nil]
    cases hresult : flush x.before.outlet with
    | ok a outlet =>
      rw [hresult] at hends
      rw [hends.2, hcollects.flush_ok hresult]
    | error reason outlet =>
      rw [hresult] at hends
      rw [hends.2, hcollects.flush_error hresult]

lemma content_stateAfter {content : σ → List UInt8} {flush : EStateM String σ Unit}
    (hcollects : Collects content flush) (calls : List Call) (j : Journal σ)
    (hwritten : ∀ x ∈ exchanges (perform flush) calls j, Turn.IsWritten x) :
    content (stateAfter (perform flush) calls j).outlet = content j.outlet
      ++ Utf8.encode (Verification.logText (entries (exchanges (perform flush) calls j))).toList := by
  induction calls generalizing j with
  | nil => exact (List.append_nil _).symm
  | cons call calls ih =>
    set x : Turn σ := exchange (perform flush) call j with hx
    have hfirst := (serves_exchange flush call j).content_after hcollects
      (hwritten x List.mem_cons_self)
    have hrest := ih x.after fun y hy => hwritten y (List.mem_cons_of_mem x hy)
    have hentries : entries (exchanges (perform flush) (call :: calls) j)
        = x.entry?.toList ++ entries (exchanges (perform flush) calls x.after) := by
      rw [exchanges, entries, List.filterMap_cons]
      cases x.entry? <;> rfl
    show content (stateAfter (perform flush) calls x.after).outlet = _
    rw [hrest, hfirst, before_exchange, hentries, Verification.logText_append, String.toList_append,
      Utf8.encode_append, List.append_assoc]

/-- Over any calls on a new journal, at an outlet that may refuse any line, the calls that need a trace
id use the ids with the numbers from one on, in their order, also those whose line is then refused.
These ids are all different. An entry that comes with an id keeps it, and no number is used up for it.
Every entry is handed to the outlet, on one line if the package obeys the laws. If none is refused, an
outlet that collects what it takes has the lines of the calls in their order, and nothing else. -/
theorem calls_numbered (flush : EStateM String σ Unit) (runId : String) (outlet : σ)
    (calls : List Call) :
    let turns : List (Turn σ) := exchanges (perform flush) calls ⟨outlet, runId, 0⟩
    turns.map Exchange.call = calls ∧
    (∀ x ∈ turns, x.Serves flush) ∧
    usedIds turns = (List.range' 1 (calls.countP Call.asksForId)).map (fun number =>
      runId ++ "::" ++ String.ofList (paddedDigits 3 number)) ∧
    (usedIds turns).Nodup ∧
    (∀ x ∈ turns, ∀ e, x.call = .write e → e.traceId ≠ "" →
      x.entry? = some e ∧ x.after.count = x.before.count) ∧
    (Json.TextLaws → ∀ e ∈ entries turns, '\n' ∉ e.line.toList) ∧
    ∀ content : σ → List UInt8, Collects content flush → (∀ x ∈ turns, x.IsWritten) →
      content (stateAfter (perform flush) calls ⟨outlet, runId, 0⟩).outlet = content outlet
        ++ Utf8.encode (String.join ((entries turns).map fun e => e.line ++ "\n")).toList := by
  intro turns
  have hserves : ∀ x ∈ turns, x.Serves flush :=
    forall_mem_exchanges (serves_exchange flush) calls ⟨outlet, runId, 0⟩
  have hids : usedIds turns = (List.range' 1 (calls.countP Call.asksForId)).map (traceId runId) :=
    usedIds_exchanges flush calls ⟨outlet, runId, 0⟩
  refine ⟨map_call_exchanges calls _, hserves, hids, ?_, ?_, ?_, ?_⟩
  · rw [hids]
    exact (List.nodup_range' 1).map (traceId_injective runId)
  · intro x hx e hcall hid
    exact ⟨Turn.entry?_of_write hcall hid, (hserves x hx).count_of_write hcall hid⟩
  · intro htexts e _ hmem
    exact absurd (htexts.control e.toJson _ hmem) (by decide)
  · intro content hcollects hwritten
    exact content_stateAfter hcollects calls ⟨outlet, runId, 0⟩ hwritten

end

open scoped Standard

/-- Two events around entries with and without an id. A full store refuses all their lines, and the ids
are the same as at a text, which takes them. -/
theorem calls_numbered_refused_and_written :
    let calls : List Call := [.emit "t" .info "start",
      .write ⟨"t", "", .warn, "a", none, none, none, none⟩,
      .write ⟨"t", "own", .warn, "b", none, none, none, none⟩, .flush, .emit "t" .error "end"]
    let full : Store := { capacity := some 0 }
    let refused : List (Turn Store) := exchanges (perform Store.flush) calls ⟨full, "run", 0⟩
    let turns : List (Turn String) := exchanges (perform (pure ())) calls ⟨"", "run", 0⟩
    let written : List Entry := [⟨"t", "run::001", .info, "start", none, none, none, none⟩,
      ⟨"t", "run::002", .warn, "a", none, none, none, none⟩,
      ⟨"t", "own", .warn, "b", none, none, none, none⟩,
      ⟨"t", "run::003", .error, "end", none, none, none, none⟩]
    (refused.all fun x => x.result.toOption.isNone) = true ∧
    usedIds refused = ["run::001", "run::002", "run::003"] ∧ (usedIds refused).Nodup ∧
    (∀ x ∈ turns, ∀ e, x.call = .write e → e.traceId ≠ "" →
      x.entry? = some e ∧ x.after.count = x.before.count) ∧
    (∀ e ∈ entries turns, '\n' ∉ e.line.toList) ∧
    Utf8.encode (stateAfter (perform (pure ())) calls ⟨"", "run", 0⟩ : Journal String).outlet.toList
      = Utf8.encode (String.join (written.map fun e => e.line ++ "\n")).toList := by
  intro calls full refused turns written
  obtain ⟨-, -, hids, hnodup, -, -, -⟩ := calls_numbered Store.flush "run" full calls
  obtain ⟨-, hserves, -, -, hown, hlines, hcontent⟩ := calls_numbered (pure ()) "run" "" calls
  have hentries : entries turns = written := rfl
  have hwritten : ∀ x ∈ turns, x.IsWritten := fun x hx e he => ⟨_, ((hserves x hx).entry he).1⟩
  refine ⟨by decide +kernel, hids.trans (by decide), hnodup, hown, hlines Json.standard_textLaws, ?_⟩
  have hbytes := hcontent _ collects_string hwritten
  rw [hentries] at hbytes
  exact hbytes.trans (List.nil_append _)

end RunLog.Journal

end TypedFormat
