import Mathlib
import TypedFormat.Console
import TypedFormat.Proofs.Outlet.Exchanges

/-!
# The lines of a console

Messages for one console, one after the other. A message that is too verbose comes to nothing, whatever
its template and its arguments are. One that does not render fails in the same way as the call, and
leaves the outlet as it was, although its line is put together behind the severity
(`Console.log_eq_assemble`). Every other message is one line, so the outlet has the lines of a run in
the order of the messages (`Console.messages_logged`).
-/

namespace TypedFormat

/-- A message for a console. -/
structure Message where
  severity : Severity
  template : String
  arguments : List Argument

namespace Console

/-- Writes a message. -/
def tell {σ : Type} [Outlet σ] (console : Console) (message : Message) : Delivery σ Bool :=
  console.log message.severity message.template message.arguments

/-- The text of a rendered message, with the severity in front and a line break behind. -/
def lineText (severity : Severity) (text : String) : String :=
  "[" ++ severity.label ++ "] " ++ text ++ "\n"

/-- The lines of messages: one for each that is not too verbose and renders. -/
def lines (console : Console) (messages : List Message) : List String :=
  (messages.filter fun message => console.admits message.severity).filterMap fun message =>
    (format message.template message.arguments console.policy).toOption.map
      (lineText message.severity)

/-! ### Putting a line together -/

/-- Writes a message as it is put together: its text is formatted into a text that has the severity
already, and the outlet gets that only once it is complete. -/
def assemble {σ : Type} [Outlet σ] (console : Console) (message : Message) : Delivery σ Bool :=
  if console.admits message.severity then
    match formatLineTo message.template message.arguments console.policy
        ("[" ++ message.severity.label ++ "] ") with
    | .ok _ line => do
      deliverText line.toList
      pure true
    | .error f _ => throw f
  else pure false

lemma line_toList (severity : Severity) (text : List Char) :
    line severity text = ("[" ++ severity.label ++ "] " ++ String.ofList (text ++ ['\n'])).toList := by
  simp [line]

lemma ofList_line (severity : Severity) (text : String) :
    String.ofList (line severity text.toList) = lineText severity text := by
  rw [line_toList, String.ofList_toList, lineText]
  simp [String.append_assoc]

/-- The severity that is in front already does not get out if the message does not render. -/
theorem log_eq_assemble {σ : Type} [Outlet σ] (console : Console) (message : Message) :
    (console.tell message : Delivery σ Bool) = console.assemble message := by
  unfold tell log assemble formatLineTo
  cases formatChars console.policy message.template.toList message.arguments with
  | ok text =>
    simp [deliverResult, Except.map, deliverText, EStateM.adaptExcept, Outlet.deliver, line_toList]
  | error f => rfl

/-! ### One message -/

/-- What a message can come to at a text. -/
inductive Handles (console : Console) : Exchange Message Failure String Bool → Prop where
  /-- It is too verbose. -/
  | filtered {message : Message} {written : String}
      (hverbose : console.threshold.verbosity < message.severity.verbosity) :
      Handles console ⟨message, written, .ok false, written⟩
  /-- It does not render. -/
  | failed {message : Message} {written : String} {f : Failure}
      (hadmits : message.severity.verbosity ≤ console.threshold.verbosity)
      (hformat : format message.template message.arguments console.policy = .error f) :
      Handles console ⟨message, written, .error f, written⟩
  /-- It is a line at the end of the text. -/
  | logged {message : Message} {written text : String}
      (hadmits : message.severity.verbosity ≤ console.threshold.verbosity)
      (hformat : format message.template message.arguments console.policy = .ok text) :
      Handles console ⟨message, written, .ok true, written ++ lineText message.severity text⟩

lemma admits_iff {console : Console} {severity : Severity} :
    console.admits severity = true ↔ severity.verbosity ≤ console.threshold.verbosity :=
  decide_eq_true_iff

lemma handles_exchange (console : Console) (message : Message) (written : String) :
    console.Handles (exchange console.tell message written) := by
  by_cases hadmits : console.admits message.severity = true
  · cases hformat : formatChars console.policy message.template.toList message.arguments with
    | error f =>
      have htell : console.tell message written = .error f written := by
        rw [tell, log, if_pos hadmits, hformat]
        rfl
      rw [exchange_of_error htell]
      refine .failed (admits_iff.mp hadmits) ?_
      rw [format, hformat]
      rfl
    | ok text =>
      have htell : console.tell message written
          = .ok true (written ++ lineText message.severity (String.ofList text)) := by
        rw [tell, log, if_pos hadmits, hformat, ← ofList_line, String.toList_ofList]
        rfl
      rw [exchange_of_ok htell]
      refine .logged (admits_iff.mp hadmits) ?_
      rw [format, hformat]
      rfl
  · have htell : console.tell message written = .ok false written := by
      rw [tell, log, if_neg hadmits]
      rfl
    rw [exchange_of_ok htell]
    exact .filtered (Nat.lt_of_not_le fun hle => hadmits (admits_iff.mpr hle))

/-! ### Runs of messages -/

lemma lines_cons (console : Console) (message : Message) (messages : List Message) :
    console.lines (message :: messages) = console.lines [message] ++ console.lines messages := by
  unfold lines
  rw [← List.filterMap_append, ← List.filter_append]
  rfl

/-- A message adds its line, if it has one. -/
lemma Handles.after_eq {console : Console} {x : Exchange Message Failure String Bool}
    (h : console.Handles x) : x.after = x.before ++ String.join (console.lines [x.call]) := by
  cases h with
  | filtered hverbose =>
    have hadmits := mt admits_iff.mp (Nat.not_le_of_lt hverbose)
    simp [lines, hadmits]
  | failed hadmits hformat => simp [lines, admits_iff.mpr hadmits, hformat, Except.toOption]
  | logged hadmits hformat => simp [lines, admits_iff.mpr hadmits, hformat, Except.toOption]

lemma stateAfter_tell (console : Console) (messages : List Message) (written : String) :
    stateAfter console.tell messages written = written ++ String.join (console.lines messages) := by
  induction messages generalizing written with
  | nil => simp [stateAfter, lines]
  | cons message messages ih =>
    have hafter := (console.handles_exchange message written).after_eq
    rw [before_exchange, call_exchange] at hafter
    show stateAfter console.tell messages (exchange console.tell message written).after = _
    rw [ih, hafter, console.lines_cons message messages, String.join_append, String.append_assoc]

/-- A console with a less verbose threshold leaves lines out and changes none. -/
lemma lines_sublist (console : Console) {quiet : Severity}
    (h : quiet.verbosity ≤ console.threshold.verbosity) (messages : List Message) :
    (lines { console with threshold := quiet } messages).Sublist (console.lines messages) := by
  refine List.Sublist.filterMap _ (List.monotone_filter_right _ fun message hadmits => ?_)
  exact admits_iff.mpr (Nat.le_trans (admits_iff.mp hadmits) h)

end Console

/-- Over any run of messages for a console with a text as its outlet, a message that is more verbose
than the threshold is not written and does not fail, whatever its template and its arguments are. A
message that does not render fails as the call does and leaves the text as it was. Every other message
is written as a line at the end of the text. So the text gets the lines of the run in order. With a less
verbose threshold it gets some of these lines, in the same order. -/
theorem Console.messages_logged (console : Console) (messages : List Message) (written : String) :
    (exchanges console.tell messages written).map Exchange.call = messages ∧
    (∀ x ∈ exchanges console.tell messages written, console.Handles x) ∧
    stateAfter console.tell messages written = written ++ String.join (console.lines messages) ∧
    ∀ quiet : Severity, quiet.verbosity ≤ console.threshold.verbosity →
      (lines { console with threshold := quiet } messages).Sublist (console.lines messages) := by
  refine ⟨map_call_exchanges messages written, ?_, console.stateAfter_tell messages written, ?_⟩
  · exact forall_mem_exchanges console.handles_exchange messages written
  · intro quiet h
    exact console.lines_sublist h messages

/-- A line, a message that is too verbose to be found malformed, one that lacks its argument, and a line
that a console for errors alone leaves out. -/
theorem Console.messages_logged_up_to_warn :
    let console : Console := { threshold := .warn }
    let messages : List Message := [⟨.error, "disk %s", [.text "full"]⟩, ⟨.info, "%q", []⟩,
      ⟨.warn, "é %d", []⟩, ⟨.warn, "%d%%", [.integer 9]⟩]
    (∀ x ∈ exchanges console.tell messages "> ", console.Handles x) ∧
    stateAfter console.tell messages "> " = "> [ERROR] disk full\n[WARN] 9%\n" ∧
    (lines { console with threshold := .error } messages).Sublist
      ["[ERROR] disk full\n", "[WARN] 9%\n"] := by
  intro console messages
  have hlines : console.lines messages = ["[ERROR] disk full\n", "[WARN] 9%\n"] := by cbv
  obtain ⟨-, hhandles, hafter, hquiet⟩ := Console.messages_logged console messages "> "
  refine ⟨hhandles, ?_, ?_⟩
  · rw [hafter, hlines]
    rfl
  · rw [← hlines]
    exact hquiet .error (by decide)

end TypedFormat
