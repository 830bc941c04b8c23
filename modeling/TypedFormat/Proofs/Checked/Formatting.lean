import TypedFormat.Proofs.Checked.Drawing
import TypedFormat.Proofs.Checked.Parsing
import TypedFormat.Proofs.Checked.Rendering
import TypedFormat.Proofs.Format.Segmentation
import TypedFormat.Proofs.Supply.Ledger

/-!
# No step of a format call goes wrong

`scanFrom` reads a template by the positions of its bytes and renders it on the way, with all the
partial steps of scanning, reading, settling and rendering. Every position that it gets to is between
characters, since it is in front of what is still to be read (`Before`), and its index stays within the
arguments (`Follows`). So along the segments of a template what is rendered is the same as from
characters, and the only step that goes wrong is that of a value that cannot be shown
(`formatBytes_of_bounded`). There is none if no float has more places than can be written
(`formatBytes_eq`).
-/

namespace TypedFormat.Checked

/-! ### Scanning -/

/-- The byte of a percent sign. -/
def percentByte : UInt8 :=
  UInt8.ofNat '%'.toNat

/-- The number of bytes from a position up to the next percent sign, or to the end. -/
def runFrom (bytes : List UInt8) (start : Nat) : Except Fault Nat := do
  let left ← subtract bytes.length start
  pure (((bytes.drop start).findIdx? (· = percentByte)).getD left)

/-- Renders a template from a position on, at the end of what is written. -/
def scanFrom (policy : Policy) (template : List Char) (position : Nat) (written : List Char) :
    Steps (List Char) := do
  if _h : position < (Utf8.encode template).length then
    let run ← step (runFrom (Utf8.encode template) position)
    if _hrun : 0 < run then
      let literal ← step (slice template position (position + run))
      scanFrom policy template (position + run) (written ++ literal)
    else if letterAt (Utf8.encode template) (position + 1) = some '%' then
      scanFrom policy template (position + 2) (written ++ ['%'])
    else
      let text ← step (sliceFrom template (position + 1))
      match ← step (parseDirective text) with
      | .error found    => fail (.malformed position found)
      | .ok (d, length) =>
        let settled ← resolve policy position d
        match ← step (render policy position settled) with
        | .error failure => fail failure
        | .ok shown      => scanFrom policy template (position + 1 + length) (written ++ shown)
  else pure written
termination_by (Utf8.encode template).length - position
decreasing_by all_goals omega

/-- The text of a template with its arguments, from the bytes of the template. -/
def formatBytes (policy : Policy) (template : List Char) (arguments : List Argument) :
    Except Fault (Except Failure (List Char)) :=
  (scanFrom policy template 0 []).run' ⟨arguments, 0⟩

/-! ### Settled directives -/

/-- The directives that a run over segments settles, up to the first failure. -/
def settledAlong (policy : Policy) : List Segment → Supply → List Settled
  | [],                              _      => []
  | .directive offset _ d :: segments, supply =>
    match d.settle policy offset supply with
    | .error _ _         => []
    | .ok settled supply =>
      match settled.render policy offset with
      | .error _ => [settled]
      | .ok _    => settled :: settledAlong policy segments supply
  | _ :: segments,                   supply => settledAlong policy segments supply

/-- The directives that are settled when a template is rendered. -/
def settledIn (policy : Policy) (template : List Char) (arguments : List Argument) : List Settled :=
  settledAlong policy (Template.ofText template).segments (.ofList arguments)

/-! ### Position by position -/

lemma step_bind {α β : Type} {checked : Except Fault α} {a : α} (h : checked = .ok a)
    (next : α → Steps β) : step checked >>= next = next a := by
  rw [h]
  exact pure_bind a next

lemma percentByte_not_mem {run : List Char} (hrun : ∀ c ∈ run, c ≠ '%') :
    percentByte ∉ Utf8.encode run := by
  intro hmem
  obtain ⟨c, hc, hbyte⟩ := List.mem_flatMap.mp hmem
  exact hrun c hc (of_mem_utf8EncodeChar hbyte (by decide)).1.symm

variable {policy : Policy} {template written text run rest : List Char} {position : Nat}

/-- A run goes up to the next percent sign. -/
lemma Before.runFrom (h : Before template position (run ++ rest)) (hrun : ∀ c ∈ run, c ≠ '%')
    (hends : EndsRun rest) : Checked.runFrom (Utf8.encode template) position = .ok (Utf8.size run) := by
  obtain ⟨front, rfl, rfl⟩ := h
  have hnone : (Utf8.encode run).findIdx? (· = percentByte) = none := by
    rw [List.findIdx?_eq_none_iff]
    intro b hb
    exact decide_eq_false fun hpercent => percentByte_not_mem hrun (hpercent ▸ hb)
  have hdrop : (Utf8.encode (front ++ (run ++ rest))).drop (Utf8.size front)
      = Utf8.encode run ++ Utf8.encode rest := by
    rw [Utf8.encode_append, Utf8.encode_append, ← Utf8.length_encode, List.drop_left]
  have hlength : (Utf8.encode (front ++ (run ++ rest))).length
      = Utf8.size front + (Utf8.size run + Utf8.size rest) := by
    rw [Utf8.length_encode, Utf8.size_append, Utf8.size_append]
  rw [Checked.runFrom, hdrop, hlength, subtract_of_le (Nat.le_add_right _ _), List.findIdx?_append,
    hnone, Utf8.length_encode]
  cases rest with
  | nil => simp [Bind.bind, Except.bind, Pure.pure, Except.pure]
  | cons c rest =>
    obtain rfl := hends c rfl
    have hfound : (Utf8.encode ('%' :: rest)).findIdx? (· = percentByte) = some 0 := rfl
    rw [hfound]
    simp [Bind.bind, Except.bind, Pure.pure, Except.pure]

lemma Before.lt_length {c : Char} (h : Before template position (c :: rest)) :
    position < (Utf8.encode template).length := by
  obtain ⟨front, rfl, rfl⟩ := h
  have hpos := c.utf8Size_pos
  rw [Utf8.length_encode, Utf8.size_append, Utf8.size_cons]
  omega

/-- Some characters further on. -/
lemma Before.append (h : Before template position (run ++ rest)) :
    Before template (position + Utf8.size run) rest := by
  obtain ⟨front, rfl, rfl⟩ := h
  exact ⟨front ++ run, by simp, Utf8.size_append front run⟩

lemma scanFrom_end (h : Before template position []) :
    scanFrom policy template position written = pure written := by
  obtain ⟨front, rfl, rfl⟩ := h
  rw [scanFrom, dif_neg (by simp [Utf8.length_encode])]

lemma scanFrom_run (h : Before template position (run ++ rest)) (hne : run ≠ [])
    (hrun : ∀ c ∈ run, c ≠ '%') (hends : EndsRun rest) :
    scanFrom policy template position written
      = scanFrom policy template (position + Utf8.size run) (written ++ run) := by
  have hlt : position < (Utf8.encode template).length := by
    obtain ⟨c, more, rfl⟩ := List.exists_cons_of_ne_nil hne
    exact h.lt_length
  have hpos : 0 < Utf8.size run := by
    obtain ⟨c, more, rfl⟩ := List.exists_cons_of_ne_nil hne
    exact Nat.add_pos_left c.utf8Size_pos _
  have hslice : slice template position (position + Utf8.size run) = .ok run := by
    obtain ⟨front, rfl, rfl⟩ := h
    exact slice_append front run rest
  rw [scanFrom, dif_pos hlt, step_bind (h.runFrom hrun hends), dif_pos hpos, step_bind hslice]

/-- At a percent sign there is no run. -/
lemma runFrom_percent (h : Before template position ('%' :: text)) :
    Checked.runFrom (Utf8.encode template) position = .ok 0 :=
  @Before.runFrom template [] ('%' :: text) position h (by simp) (endsRun_percent text)

lemma scanFrom_percent (h : Before template position ('%' :: '%' :: rest)) :
    scanFrom policy template position written
      = scanFrom policy template (position + 2) (written ++ ['%']) := by
  obtain ⟨hletter, -⟩ := h.doubled (by decide)
  rw [scanFrom, dif_pos h.lt_length, step_bind (runFrom_percent h), dif_neg (Nat.lt_irrefl 0),
    if_pos hletter]

/-- What a directive leads to: it is settled and rendered, and the scan goes on behind it. -/
def renderThen (policy : Policy) (position : Nat) (next : List Char → Steps (List Char))
    (settled : Settled) : Steps (List Char) := do
  match ← step (render policy position settled) with
  | .error failure => fail failure
  | .ok shown      => next shown

/-- Behind a percent sign that is no escape, the text is read as a directive. -/
lemma scanFrom_of_head?_ne (h : Before template position ('%' :: text)) (hhead : text.head? ≠ some '%') :
    scanFrom policy template position written = match Directive.read text with
      | .error found  => fail (.malformed position found)
      | .ok (d, rest) => resolve policy position d >>= renderThen policy position fun shown =>
          scanFrom policy template (position + 1 + (Utf8.size text - Utf8.size rest))
            (written ++ shown) := by
  have htail := h.tail (by decide)
  have hletter : ¬ letterAt (Utf8.encode template) (position + 1) = some '%' := by
    rwa [htail.letterAt_eq_some_iff (by decide)]
  rw [scanFrom, dif_pos h.lt_length, step_bind (runFrom_percent h), dif_neg (Nat.lt_irrefl 0),
    if_neg hletter, step_bind htail.sliceFrom_eq, step_bind (parseDirective_eq text)]
  cases Directive.read text <;> rfl

lemma scanFrom_directive {d : Directive} {spelling : List Char}
    (h : Before template position ('%' :: (spelling ++ rest))) (hhead : spelling.head? ≠ some '%')
    (hread : Directive.read (spelling ++ rest) = .ok (d, rest)) :
    scanFrom policy template position written = resolve policy position d >>=
      renderThen policy position fun shown =>
        scanFrom policy template (position + Utf8.size ('%' :: spelling)) (written ++ shown) := by
  have hne : spelling ≠ [] := by
    rintro rfl
    exact absurd (Directive.length_lt_of_read hread) (Nat.lt_irrefl _)
  have hhead' : (spelling ++ rest).head? ≠ some '%' := by
    obtain ⟨c, more, rfl⟩ := List.exists_cons_of_ne_nil hne
    exact hhead
  have hstop : position + 1 + (Utf8.size (spelling ++ rest) - Utf8.size rest)
      = position + Utf8.size ('%' :: spelling) := by
    have hpercent : ('%' : Char).utf8Size = 1 := by decide
    rw [Utf8.size_append, Utf8.size_cons, hpercent]
    omega
  rw [scanFrom_of_head?_ne h hhead', hread]
  dsimp only
  rw [hstop]

lemma scanFrom_malformed {found : Option Char} (h : Before template position ('%' :: text))
    (hhead : text.head? ≠ some '%') (hread : Directive.read text = .error found) :
    scanFrom policy template position written = fail (.malformed position found) := by
  rw [scanFrom_of_head?_ne h hhead, hread]

/-! ### Along a template -/

/-- The value of a directive is one of the arguments. -/
lemma mem_of_settle {offset index : Nat} {d : Directive} {arguments : List Argument}
    (hindex : index ≤ arguments.length) {settled : Settled} {after : Supply}
    (h : d.settle policy offset (Cursor.supply ⟨arguments, index⟩) = .ok settled after) :
    ∀ drawn ∈ settled.value, drawn.argument ∈ arguments := by
  have hbalanced : Ledger.Balanced arguments
      ⟨Cursor.supply ⟨arguments, index⟩, served arguments index⟩ := ⟨hindex, rfl, rfl⟩
  obtain ⟨ledger, -, -, hledger, hvalue⟩ := (Booked.keeps_settle hbalanced policy offset d).of_ok h
  intro drawn hdrawn
  rw [hvalue] at hdrawn
  split_ifs at hdrawn
  · cases hdrawn
  · have hserved := List.mem_of_getLast? hdrawn
    rw [hledger.handed] at hserved
    exact List.mem_of_getElem? (getElem?_of_mem_served hserved)

/-- A computation gives the result of a rendition if that `returns`, and asks for too many places
else. -/
def Gives (steps : Steps (List Char)) (cursor : Cursor) (returns : Bool) (rendition : Rendition) :
    Prop :=
  (steps.run' cursor : Except Fault (Except Failure (List Char)))
    = withinPlaces returns rendition.result

lemma gives_bind_of_ok {α : Type} {steps : Steps α} {cursor after : Cursor} {a : α}
    (h : steps.run cursor = (.ok (.ok (a, after)) : Except Fault (Except Failure (α × Cursor))))
    (next : α → Steps (List Char)) (returns : Bool) (rendition : Rendition) :
    Gives (steps >>= next) cursor returns rendition ↔ Gives (next a) after returns rendition := by
  rw [Gives, Gives, StateT.run'_eq, StateT.run'_eq, run_bind_of_ok h]

lemma gives_bind_of_error {α : Type} {steps : Steps α} {cursor : Cursor} {failure : Failure}
    (h : steps.run cursor = (.ok (.error failure) : Except Fault (Except Failure (α × Cursor))))
    (next : α → Steps (List Char)) : Gives (steps >>= next) cursor true ⟨[], some failure⟩ := by
  rw [Gives, StateT.run'_eq, run_bind_of_error h]
  rfl

/-- From any position between characters, a scan gives what is rendered from there. -/
lemma scanFrom_gives {arguments : List Argument} (hbounded : ∀ a ∈ arguments, Bounded a)
    (hbefore : Before template position text) {index : Nat} (hindex : index ≤ arguments.length) :
    Gives (scanFrom policy template position written) ⟨arguments, index⟩
      (Segment.allReturn policy (Scanner.template ⟨position, text⟩).segments
        (Cursor.supply ⟨arguments, index⟩))
      ((Scanner.rendition policy ⟨position, text⟩
        (Cursor.supply ⟨arguments, index⟩)).prepend written) := by
  -- The scan takes one step for each segment, and behind each of them it is in front of the rest.
  induction text using segmentInduction generalizing position written index with
  | nil =>
    rw [scanFrom_end hbefore, Scanner.rendition_nil, Scanner.template_nil]
    rw [Gives, Rendition.result, Rendition.prepend]
    dsimp only
    rw [List.append_nil]
    rfl
  | percent rest ih =>
    rw [scanFrom_percent hbefore, Scanner.rendition_percent, Rendition.prepend_prepend,
      Scanner.template_percent]
    exact ih (hbefore.doubled (by decide)).2 hindex
  | directive spelling rest d hhead hread ih =>
    rw [scanFrom_directive hbefore hhead hread, Scanner.rendition_directive policy _ hhead hread,
      Scanner.template_directive hhead hread, Template.segments_cons, Segment.allReturn,
      Segment.returns, Segment.renderThen, Segment.render]
    rcases follows_resolve policy position d ⟨arguments, index⟩ hindex with
      ⟨settled, index', hindex', hsettle, hresolve⟩ | ⟨failure, supply, hsettle, hresolve⟩
    · have hrender := render_eq policy position
        (fun drawn hdrawn => hbounded _ (mem_of_settle hindex hsettle drawn hdrawn))
      rw [gives_bind_of_ok hresolve, renderThen, hrender]
      simp only [Bind.bind, EStateM.bind, hsettle]
      cases hshows : settled.canShow with
      | false => rfl
      | true =>
        cases hshown : settled.render policy position with
        | error failure => rfl
        | ok shown =>
          have hbehind : Before template (position + Utf8.size ('%' :: spelling)) rest :=
            @Before.append template ('%' :: spelling) rest position hbefore
          have hgives := @ih (written ++ shown) _ hbehind index' hindex'
          rw [← Rendition.prepend_prepend] at hgives
          exact hgives
    · simp only [Bind.bind, EStateM.bind, hsettle]
      exact gives_bind_of_error hresolve _
  | malformed text found hhead hread =>
    rw [scanFrom_malformed hbefore hhead hread, Scanner.rendition_malformed policy _ hhead hread,
      Scanner.template_malformed hhead hread]
    rfl
  | literal run rest hne hrun hends ih =>
    have htemplate := @Scanner.template_run position rest run hne hrun hends
    rw [scanFrom_run hbefore hne hrun hends, Scanner.rendition_of_cons policy _ htemplate, htemplate]
    show Gives _ _ _ ((Rendition.prepend run _).prepend written)
    rw [Rendition.prepend_prepend]
    exact ih hbefore.append hindex

/-- From the bytes of its template, a format call gives what it gives from the characters if it returns,
and else too many places are asked for. -/
theorem formatBytes_of_bounded (policy : Policy) (template : List Char) {arguments : List Argument}
    (hbounded : ∀ a ∈ arguments, Bounded a) :
    formatBytes policy template arguments
      = withinPlaces ((Template.ofText template).returns policy arguments)
          (formatChars policy template arguments) := by
  have hgives := @scanFrom_gives policy template [] template 0 arguments hbounded
    (Before.start template) 0 (Nat.zero_le _)
  rwa [Rendition.prepend_nil] at hgives

/-! ### Calls that return -/

/-- A run over segments returns if all that is settled on the way can be shown. -/
lemma allReturn_iff {segments : List Segment} {supply : Supply} :
    Segment.allReturn policy segments supply = true ↔
      ∀ settled ∈ settledAlong policy segments supply, settled.canShow = true := by
  induction segments generalizing supply with
  | nil => simp [Segment.allReturn, settledAlong]
  | cons segment segments ih =>
    cases segment with
    | literal run => exact ih
    | percent => exact ih
    | directive offset spelling d =>
      rw [Segment.allReturn, Segment.returns, Segment.render, settledAlong, Bool.and_eq_true]
      simp only [Bind.bind, EStateM.bind]
      cases hsettle : d.settle policy offset supply with
      | error failure after => simp
      | ok settled after =>
        dsimp only
        cases hrender : settled.render policy offset with
        | error failure => simp [throw, throwThe, MonadExceptOf.throw, EStateM.throw]
        | ok shown => simp [pure, EStateM.pure, ih]

/-- What shows no float with more places than can be written can be shown. -/
lemma canShow_of_places {settled : Settled} (h : ShowsFloat settled →
      settled.layout.precision.getD Layout.defaultPlaces ≤ mostPlaces) : settled.canShow = true := by
  obtain ⟨layout, value⟩ := settled
  cases value with
  | none => rfl
  | some drawn =>
    obtain ⟨index, argument⟩ := drawn
    have hwrite (hshows : ShowsFloat ⟨layout, some ⟨index, argument⟩⟩) (x : Binary64) :
        layout.canWrite x = true :=
      Bool.or_eq_true_iff.mpr (.inr (decide_eq_true (h hshows)))
    show layout.canShow argument = true
    unfold Layout.canShow
    split
    next x hconversion => exact hwrite ⟨hconversion, _, rfl, .inl rfl⟩ x
    next v hconversion => exact hwrite ⟨hconversion, _, rfl, .inr rfl⟩ (.ofInt v)
    next => rfl

/-- From the bytes of its template, a format call gives what it gives from the characters, and none of
its steps goes wrong, if no float has more places than can be written. -/
theorem formatBytes_eq (policy : Policy) (template : List Char) {arguments : List Argument}
    (hbounded : ∀ a ∈ arguments, Bounded a)
    (hplaces : ∀ settled ∈ settledIn policy template arguments, ShowsFloat settled →
      settled.layout.precision.getD Layout.defaultPlaces ≤ mostPlaces) :
    formatBytes policy template arguments = .ok (formatChars policy template arguments) := by
  have hreturns : (Template.ofText template).returns policy arguments = true :=
    allReturn_iff.mpr fun settled hmem => canShow_of_places (hplaces settled hmem)
  rw [formatBytes_of_bounded policy template hbounded, hreturns, withinPlaces_true]

/-- A width and a precision that are drawn, a float halfway between two numerals, digits in base sixteen,
and a text of more bytes than characters. -/
theorem formatBytes_eq_of_stars :
    let template := "é%*.*f%#x%%%.1s%c".toList
    let arguments : List Argument :=
      [.integer 7, .integer 0, .float ⟨0x4004000000000000⟩, .integer (-255), .text "ßs", .character 'ß']
    (∀ a ∈ arguments, Bounded a) ∧
    (settledIn .strict template arguments).map (·.layout.precision) = [some 0, none, some 1, none] ∧
    (∀ settled ∈ settledIn .strict template arguments, ShowsFloat settled →
      settled.layout.precision.getD Layout.defaultPlaces ≤ mostPlaces) ∧
    formatBytes .strict template arguments = .ok (.ok "é      3-0xff%ßß".toList) := by
  intro template arguments
  have hbounded : ∀ a ∈ arguments, Bounded a := by
    simp [arguments, Bounded]
  have hprecisions : (settledIn .strict template arguments).map (·.layout.precision)
      = [some 0, none, some 1, none] := by
    decide +kernel
  have hformat : formatChars .strict template arguments = .ok "é      3-0xff%ßß".toList := by
    decide +kernel
  have hplaces : ∀ settled ∈ settledIn .strict template arguments, ShowsFloat settled →
      settled.layout.precision.getD Layout.defaultPlaces ≤ mostPlaces := by
    intro settled hmem _
    have hprecision := List.mem_map_of_mem (f := (·.layout.precision)) hmem
    rw [hprecisions] at hprecision
    revert hprecision
    generalize settled.layout.precision = precision
    revert precision
    decide
  refine ⟨hbounded, hprecisions, hplaces, ?_⟩
  rw [formatBytes_eq .strict template hbounded hplaces, hformat]

end TypedFormat.Checked
