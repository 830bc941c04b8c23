import TypedFormat.Proofs.Checked.Slicing
import TypedFormat.Proofs.Supply.Drawing

/-!
# Arguments are drawn with an index

A cursor keeps all arguments of a call and the index of the next one. The sizes of a directive are
settled by a machine that goes from phase to phase. A computation with a cursor follows one with a
supply (`Follows`) if it gives the same, or the same failure, and its index stays within the arguments.
So settling a directive never counts past the arguments, and the machine gets to its last phase
(`follows_resolve`).
-/

namespace TypedFormat.Checked

/-- All arguments of a call, and the index of the next one. -/
structure Cursor where
  arguments : List Argument
  index : Nat

/-- A computation with a cursor, of which a step can go wrong and which can fail. -/
abbrev Steps := StateT Cursor (ExceptT Failure (Except Fault))

/-- A step that can go wrong. -/
def step {α : Type} (checked : Except Fault α) : Steps α :=
  fun cursor => (checked.map fun a => .ok (a, cursor) : Except Fault (Except Failure (α × Cursor)))

def fail {α : Type} (failure : Failure) : Steps α :=
  fun _ => (.ok (.error failure) : Except Fault (Except Failure (α × Cursor)))

/-! ### Arguments -/

/-- The number of arguments that are left. -/
def Cursor.remaining (cursor : Cursor) : Except Fault Nat :=
  subtract cursor.arguments.length cursor.index

/-- Draws the next argument. Those that are left are counted after that. -/
def next (offset : Nat) : Steps Drawn := do
  let cursor ← get
  match cursor.arguments[cursor.index]? with
  | none          => fail (.underflow offset cursor.index)
  | some argument => do
    let after : Cursor := { cursor with index := cursor.index + 1 }
    let _ ← step after.remaining
    set after
    pure ⟨cursor.index, argument⟩

/-! ### Sizes -/

/-- Accepts a size up to the limit. -/
def fieldSize (offset : Nat) (role : Role) (n : Nat) : Steps Nat :=
  if n ≤ fieldLimit then pure n else fail (.tooLarge offset role n)

/-- The size that is written in a directive. -/
def written (offset : Nat) (role : Role) : Size → Steps (Option Nat)
  | .literal n              => some <$> fieldSize offset role n
  | .absent | .fromArgument => pure none

/-- The integer in a drawn argument. -/
def dynamicInt (policy : Policy) (offset : Nat) (role : Role) (drawn : Drawn) : Steps (Option Int) :=
  match drawn.argument, policy with
  | .integer v, _        => pure (some v)
  | _,          .lenient => pure none
  | argument,   .strict  => fail (.mismatch offset drawn.index role argument.kind)

/-- How far the sizes of a directive are settled. -/
inductive Phase where
  | next
  | awaitWidth
  | awaitPrecision
  | ready
deriving DecidableEq

/-- Goes on to the next phase. -/
def advance (policy : Policy) (offset : Nat) (d : Directive) (layout : Layout) :
    Phase → Steps (Phase × Layout)
  | .next           =>
    if d.width = .fromArgument then pure (.awaitWidth, layout)
    else if d.precision = .fromArgument then pure (.awaitPrecision, layout)
    else pure (.ready, layout)
  | .awaitWidth     => do
    let after : Phase := if d.precision = .fromArgument then .awaitPrecision else .ready
    match ← dynamicInt policy offset .width (← next offset) with
    | none   => pure (after, layout)
    | some v =>
      let width ← fieldSize offset .width v.natAbs
      let adjustLeft := layout.flags.adjustLeft || decide (v < 0)
      pure (after, { layout with width, flags := { layout.flags with adjustLeft } })
  | .awaitPrecision => do
    match ← dynamicInt policy offset .precision (← next offset) with
    | none   => pure (.ready, { layout with precision := none })
    | some v =>
      if v < 0 then pure (.ready, { layout with precision := none })
      else do
        let precision ← fieldSize offset .precision v.natAbs
        pure (.ready, { layout with precision := some precision })
  | .ready          => pure (.ready, layout)

/-- Goes from phase to phase, and has no more than a number of steps to get to the last one. -/
def settleSizes (policy : Policy) (offset : Nat) (d : Directive) : Nat → Phase → Layout → Steps Layout
  | _,         .ready, layout => pure layout
  | 0,         _,      _      => step (throw .unsettled)
  | steps + 1, phase,  layout => do
    let (phase, layout) ← advance policy offset d layout phase
    settleSizes policy offset d steps phase layout

/-- Settles a directive, whose sizes take at most three steps. -/
def resolve (policy : Policy) (offset : Nat) (d : Directive) : Steps Settled := do
  let width ← written offset .width d.width
  let precision ← written offset .precision d.precision
  let layout : Layout := ⟨d.flags, width.getD 0, precision, d.conversion⟩
  let layout ← settleSizes policy offset d 3 .next layout
  if d.conversion.takesValue then
    let value ← next offset
    pure ⟨layout, some value⟩
  else
    pure ⟨layout, none⟩

/-! ### Following a supply -/

variable {α β : Type}

/-- The supply of a cursor. -/
def Cursor.supply (cursor : Cursor) : Supply :=
  ⟨cursor.index, cursor.arguments.drop cursor.index⟩

/-- A computation with a cursor gives the same as one with a supply, or the same failure, and no step
goes wrong. Its index stays within the arguments. -/
def Follows (steps : Steps α) (drawing : Drawing α) : Prop :=
  ∀ cursor : Cursor, cursor.index ≤ cursor.arguments.length →
    (∃ a index, index ≤ cursor.arguments.length ∧
      drawing cursor.supply = .ok a (Cursor.supply ⟨cursor.arguments, index⟩) ∧
      steps.run cursor = (.ok (.ok (a, ⟨cursor.arguments, index⟩))
        : Except Fault (Except Failure (α × Cursor)))) ∨
    ∃ failure supply, drawing cursor.supply = .error failure supply ∧
      steps.run cursor = (.ok (.error failure) : Except Fault (Except Failure (α × Cursor)))

lemma follows_pure (a : α) : Follows (pure a) (pure a) := by
  intro cursor hindex
  exact .inl ⟨a, cursor.index, hindex, rfl, rfl⟩

lemma follows_fail (failure : Failure) : Follows (fail failure : Steps α) (throw failure) := by
  intro cursor _
  exact .inr ⟨failure, cursor.supply, rfl, rfl⟩

lemma run_bind_of_ok {steps : Steps α} {cursor after : Cursor} {a : α}
    (h : steps.run cursor = (.ok (.ok (a, after)) : Except Fault (Except Failure (α × Cursor))))
    (next : α → Steps β) : (steps >>= next).run cursor = (next a).run after := by
  rw [StateT.run_bind]
  show ExceptT.bind (steps.run cursor) _ = _
  rw [h]
  rfl

lemma run_bind_of_error {steps : Steps α} {cursor : Cursor} {failure : Failure}
    (h : steps.run cursor = (.ok (.error failure) : Except Fault (Except Failure (α × Cursor))))
    (next : α → Steps β) : (steps >>= next).run cursor
      = (.ok (.error failure) : Except Fault (Except Failure (β × Cursor))) := by
  rw [StateT.run_bind]
  show ExceptT.bind (steps.run cursor) _ = _
  rw [h]
  rfl

lemma Follows.bind {steps : Steps α} {drawing : Drawing α} {next : α → Steps β}
    {nextDrawing : α → Drawing β} (h : Follows steps drawing)
    (hnext : ∀ a, Follows (next a) (nextDrawing a)) :
    Follows (steps >>= next) (drawing >>= nextDrawing) := by
  intro cursor hindex
  rcases h cursor hindex with ⟨a, index, hle, hdrawing, hsteps⟩ | ⟨failure, supply, hdrawing, hsteps⟩
  · rcases hnext a ⟨cursor.arguments, index⟩ hle with
      ⟨b, index', hle', hdrawing', hsteps'⟩ | ⟨failure, supply, hdrawing', hsteps'⟩
    · refine .inl ⟨b, index', hle', ?_, ?_⟩
      · simp only [Bind.bind, EStateM.bind, hdrawing, hdrawing']
      · rw [run_bind_of_ok hsteps, hsteps']
    · refine .inr ⟨failure, supply, ?_, ?_⟩
      · simp only [Bind.bind, EStateM.bind, hdrawing, hdrawing']
      · rw [run_bind_of_ok hsteps, hsteps']
  · refine .inr ⟨failure, supply, ?_, run_bind_of_error hsteps next⟩
    simp only [Bind.bind, EStateM.bind, hdrawing]

lemma follows_next (offset : Nat) : Follows (next offset) (Supply.next offset) := by
  rintro ⟨arguments, index⟩ hindex
  have hcursor : (get : Steps Cursor).run ⟨arguments, index⟩
      = (.ok (.ok (⟨arguments, index⟩, ⟨arguments, index⟩))
        : Except Fault (Except Failure (Cursor × Cursor))) := rfl
  cases hargument : arguments[index]? with
  | none =>
    have hdrop : arguments.drop index = [] :=
      List.drop_eq_nil_iff.mpr (List.getElem?_eq_none_iff.mp hargument)
    refine .inr ⟨.underflow offset index, ⟨index, []⟩, ?_, ?_⟩
    · simp only [Supply.next, Cursor.supply, hdrop]
    · unfold next
      rw [run_bind_of_ok hcursor]
      simp only [hargument]
      rfl
  | some argument =>
    obtain ⟨hlt, hget⟩ := List.getElem?_eq_some_iff.mp hargument
    have hdrop : arguments.drop index = argument :: arguments.drop (index + 1) := by
      rw [List.drop_eq_getElem_cons hlt, hget]
    have hremaining : (step (Cursor.remaining ⟨arguments, index + 1⟩)).run ⟨arguments, index⟩
        = (.ok (.ok (arguments.length - (index + 1), ⟨arguments, index⟩))
          : Except Fault (Except Failure (Nat × Cursor))) := by
      rw [Cursor.remaining, subtract_of_le hlt]
      rfl
    refine .inl ⟨⟨index, argument⟩, index + 1, hlt, ?_, ?_⟩
    · simp only [Supply.next, Cursor.supply, hdrop]
    · unfold next
      rw [run_bind_of_ok hcursor]
      simp only [hargument]
      rw [run_bind_of_ok hremaining]
      rfl

/-! ### Sizes -/

section Sizes

variable (policy : Policy) (offset : Nat) (d : Directive)

lemma follows_fieldSize (role : Role) (n : Nat) :
    Follows (fieldSize offset role n) (Size.accept offset role n) := by
  unfold fieldSize Size.accept
  split_ifs
  · exact follows_pure n
  · exact follows_fail _

lemma follows_written (role : Role) (size : Size) :
    Follows (written offset role size) (size.written offset role) := by
  cases size with
  | literal n => exact (follows_fieldSize offset role n).bind fun n => follows_pure (some n)
  | absent | fromArgument => exact follows_pure none

lemma follows_dynamicInt (role : Role) :
    Follows (next offset >>= dynamicInt policy offset role)
      (Size.drawn policy offset role .fromArgument) := by
  refine (follows_next offset).bind fun drawn => ?_
  obtain ⟨index, argument⟩ := drawn
  cases argument with
  | integer v => exact follows_pure (some v)
  | _ =>
    cases policy with
    | lenient => exact follows_pure none
    | strict => exact follows_fail _

variable {policy offset d} {layout : Layout}

lemma settleSizes_succ (phase : Phase) (hphase : phase ≠ .ready) (steps : Nat) (layout : Layout) :
    settleSizes policy offset d (steps + 1) phase layout
      = advance policy offset d layout phase >>= fun after =>
          settleSizes policy offset d steps after.1 after.2 := by
  cases phase with
  | ready => exact absurd rfl hphase
  | next | awaitWidth | awaitPrecision => rfl

lemma settleSizes_ready (steps : Nat) (layout : Layout) :
    settleSizes policy offset d steps .ready layout = pure layout := by
  cases steps <;> rfl

/-- From the last phase but one, the precision is drawn. -/
lemma follows_awaitPrecision (hnone : layout.precision = none) (steps : Nat) :
    Follows (settleSizes policy offset d (steps + 1) .awaitPrecision layout)
      (Size.drawn policy offset .precision .fromArgument >>= layout.withPrecision offset) := by
  have hlayout : { layout with precision := none } = layout := by rw [← hnone]
  rw [settleSizes_succ .awaitPrecision (by decide), advance]
  simp only [bind_assoc]
  rw [← bind_assoc]
  refine (follows_dynamicInt policy offset .precision).bind fun drawn => ?_
  cases drawn with
  | none =>
    simp only [pure_bind, settleSizes_ready, Layout.withPrecision, hlayout]
    exact follows_pure layout
  | some v =>
    simp only [Layout.withPrecision]
    split_ifs
    · simp only [pure_bind, settleSizes_ready, hlayout]
      exact follows_pure layout
    · simp only [bind_assoc, pure_bind, settleSizes_ready]
      exact (follows_fieldSize offset .precision _).bind fun _ => follows_pure _

/-- What is left to settle when the width is: the precision, if it is to be drawn. -/
lemma follows_afterWidth (hnone : d.precision = .fromArgument → layout.precision = none)
    (steps : Nat) :
    Follows (settleSizes policy offset d (steps + 1)
        (if d.precision = .fromArgument then .awaitPrecision else .ready) layout)
      (d.precision.drawn policy offset .precision >>= layout.withPrecision offset) := by
  split_ifs with hprecision
  · rw [hprecision]
    exact follows_awaitPrecision (hnone hprecision) steps
  · rw [settleSizes_ready]
    cases hsize : d.precision with
    | fromArgument => exact absurd hsize hprecision
    | absent | literal => exact follows_pure layout

lemma follows_awaitWidth (hnone : d.precision = .fromArgument → layout.precision = none)
    (steps : Nat) :
    Follows (settleSizes policy offset d (steps + 2) .awaitWidth layout)
      (Size.drawn policy offset .width .fromArgument >>= layout.withWidth offset >>= fun layout =>
        d.precision.drawn policy offset .precision >>= layout.withPrecision offset) := by
  rw [settleSizes_succ .awaitWidth (by decide), advance]
  simp only [bind_assoc]
  rw [← bind_assoc]
  refine (follows_dynamicInt policy offset .width).bind fun drawn => ?_
  cases drawn with
  | none =>
    simp only [pure_bind, Layout.withWidth]
    exact follows_afterWidth hnone steps
  | some v =>
    simp only [bind_assoc, pure_bind, Layout.withWidth]
    refine (follows_fieldSize offset .width _).bind fun width => follows_afterWidth ?_ steps
    exact hnone

/-- The machine gets to its last phase in at most three steps. -/
lemma follows_settleSizes (hnone : d.precision = .fromArgument → layout.precision = none) :
    Follows (settleSizes policy offset d 3 .next layout)
      (d.width.drawn policy offset .width >>= layout.withWidth offset >>= fun layout =>
        d.precision.drawn policy offset .precision >>= layout.withPrecision offset) := by
  rw [settleSizes_succ .next (by decide), advance]
  by_cases hwidth : d.width = .fromArgument
  · rw [if_pos hwidth, pure_bind, hwidth]
    exact follows_awaitWidth hnone 0
  · have hdrawn : d.width.drawn policy offset .width >>= layout.withWidth offset = pure layout := by
      cases hsize : d.width with
      | fromArgument => exact absurd hsize hwidth
      | absent | literal => rfl
    rw [if_neg hwidth, hdrawn, pure_bind]
    have hafter : (if d.precision = .fromArgument then pure (Phase.awaitPrecision, layout)
          else pure (Phase.ready, layout) : Steps (Phase × Layout))
        = pure (if d.precision = .fromArgument then .awaitPrecision else .ready, layout) := by
      split_ifs <;> rfl
    rw [hafter, pure_bind]
    exact follows_afterWidth hnone 1

lemma follows_value (layout : Layout) :
    Follows
      (if d.conversion.takesValue then do
        let value ← next offset
        pure (⟨layout, some value⟩ : Settled)
      else pure ⟨layout, none⟩)
      (if d.conversion.takesValue then do
        let value ← Supply.next offset
        pure (⟨layout, some value⟩ : Settled)
      else pure ⟨layout, none⟩) := by
  split_ifs
  · exact (follows_next offset).bind fun value => follows_pure _
  · exact follows_pure _

/-- Settling follows the supply, draw by draw. -/
theorem follows_resolve (policy : Policy) (offset : Nat) (d : Directive) :
    Follows (resolve policy offset d) (d.settle policy offset) := by
  rw [resolve, Directive.settle_eq_bind]
  refine (follows_written offset .width d.width).bind fun width => ?_
  have hsized (precision : Option Nat) (hnone : d.precision = .fromArgument → precision = none) :=
    (@follows_settleSizes policy offset d ⟨d.flags, width.getD 0, precision, d.conversion⟩ hnone).bind
      (@follows_value offset d)
  simp only [bind_assoc] at hsized
  by_cases hprecision : d.precision = .fromArgument
  · have hwritten : written offset .precision d.precision = pure none := by rw [hprecision]; rfl
    have hwritten' : (d.precision.written offset .precision : Drawing (Option Nat)) = pure none := by
      rw [hprecision]
      rfl
    rw [hwritten, hwritten', pure_bind, pure_bind]
    exact hsized none fun _ => rfl
  · refine (follows_written offset .precision d.precision).bind fun precision => ?_
    exact hsized precision fun h => absurd h hprecision

end Sizes

end TypedFormat.Checked
