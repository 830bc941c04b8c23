import TypedFormat.Proofs.Supply.Drawing

/-!
# Two calls side by side

A `Pairing` relates a call to a second one that stands further on: more template is in front of
it, more arguments were drawn before it, more may be left after it, and its policy may be another.
The second does whatever the first does, displaced, unless the first fails in a way that excuses
it. This is shown once for each step of a directive (`Pairing.Follows`).
-/

namespace TypedFormat

/-- The failure of the same directive further on, after `bytes` more bytes of template and `count`
more arguments. -/
def Failure.displace (bytes count : Nat) : Failure → Failure
  | .malformed offset found               => .malformed (offset + bytes) found
  | .underflow offset index               => .underflow (offset + bytes) (index + count)
  | .mismatch offset index expected found =>
    .mismatch (offset + bytes) (index + count) expected found
  | .tooLarge offset role requested       => .tooLarge (offset + bytes) role requested
  | .undelivered reason                   => .undelivered reason

@[simp] lemma Failure.displace_zero (f : Failure) : f.displace 0 0 = f := by
  cases f <;> rfl

/-- How the second of two calls stands to the first. -/
structure Pairing where
  bytes : Nat := 0
  count : Nat := 0
  extra : List Argument := []
  first : Policy
  second : Policy
  /-- The failures of the first call after which the second may go its own way. -/
  excused : Failure → Prop := fun _ => False
  underflow_excused : extra = [] ∨ ∀ offset index, excused (.underflow offset index)
  mismatch_excused : first = second ∨
    first = .strict ∧ ∀ offset index role kind, excused (.mismatch offset index role kind)

namespace Pairing

variable (P : Pairing) {α β : Type}

/-- The supply of the second call. -/
def supply (s : Supply) : Supply :=
  ⟨s.position + P.count, s.remaining ++ P.extra⟩

def drawn (v : Drawn) : Drawn :=
  { v with index := v.index + P.count }

def settled (d : Settled) : Settled :=
  { d with value := d.value.map P.drawn }

def failure : Failure → Failure :=
  Failure.displace P.bytes P.count

/-- What the second call comes to, if the first comes to `result`. -/
def result (value : α → β) : EStateM.Result Failure Supply α → EStateM.Result Failure Supply β
  | .ok v s    => .ok (value v) (P.supply s)
  | .error f s => .error (P.failure f) (P.supply s)

/-- The computation `d` of the second call follows `c` of the first. -/
def Follows (value : α → β) (c : Drawing α) (d : Drawing β) : Prop :=
  ∀ s, (∃ f s', c s = .error f s' ∧ P.excused f) ∨ d (P.supply s) = P.result value (c s)

namespace Follows

variable {P} {γ δ : Type}

lemma pure {value : α → β} {v : α} {w : β} (h : w = value v) :
    P.Follows value (pure v) (pure w) := by
  subst h
  exact fun s => .inr rfl

lemma throw {value : α → β} {f g : Failure} (h : g = P.failure f) :
    P.Follows value (throw f) (throw g) := by
  subst h
  exact fun s => .inr rfl

lemma bind {value : α → β} {value' : γ → δ} {c : Drawing α} {d : Drawing β}
    {f : α → Drawing γ} {g : β → Drawing δ} (h : P.Follows value c d)
    (hfg : ∀ v, P.Follows value' (f v) (g (value v))) :
    P.Follows value' (c >>= f) (d >>= g) := by
  intro s
  rcases h s with ⟨e, s', hcs, he⟩ | hd
  · exact .inl ⟨e, s', Drawing.bind_of_error hcs f, he⟩
  cases hcs : c s with
  | error e s' =>
    rw [hcs] at hd
    right
    rw [Drawing.bind_of_error hcs, Drawing.bind_of_error hd]
    rfl
  | ok v s' =>
    rw [hcs] at hd
    rw [Drawing.bind_of_ok hcs, Drawing.bind_of_ok hd]
    exact hfg v s'

lemma map {value : α → β} {value' : γ → δ} {c : Drawing α} {d : Drawing β} {f : α → γ}
    {g : β → δ} (h : P.Follows value c d) (hfg : ∀ v, g (value v) = value' (f v)) :
    P.Follows value' (c >>= fun v => Pure.pure (f v)) (d >>= fun w => Pure.pure (g w)) :=
  bind h fun v => pure (hfg v)

end Follows

/-! ### The steps of a directive -/

variable (offset : Nat)

lemma next : P.Follows P.drawn (Supply.next offset) (Supply.next (offset + P.bytes)) := by
  rintro ⟨position, remaining⟩
  cases remaining with
  | cons a rest =>
    refine .inr ?_
    simp [Supply.next, supply, result, drawn, Nat.add_right_comm]
  | nil =>
    rcases P.underflow_excused with hextra | hexcused
    · refine .inr ?_
      simp [Supply.next, supply, result, failure, Failure.displace, hextra]
    · exact .inl ⟨_, _, rfl, hexcused offset position⟩

lemma accept (role : Role) (n : Nat) :
    P.Follows id (Size.accept offset role n) (Size.accept (offset + P.bytes) role n) := by
  unfold Size.accept
  split_ifs
  · exact .pure rfl
  · exact .throw rfl

lemma written (role : Role) (size : Size) :
    P.Follows id (size.written offset role) (size.written (offset + P.bytes) role) := by
  cases size with
  | literal n => exact .map (P.accept offset role n) fun _ => rfl
  | absent | fromArgument => exact .pure rfl

lemma drawnSize (role : Role) (size : Size) :
    P.Follows id (size.drawn P.first offset role)
      (size.drawn P.second (offset + P.bytes) role) := by
  cases size with
  | absent | literal => exact .pure rfl
  | fromArgument =>
    refine .bind (P.next offset) fun v => ?_
    obtain ⟨index, argument⟩ := v
    cases argument with
    | integer v => exact .pure rfl
    | _ =>
      rcases P.mismatch_excused with hpolicy | ⟨hstrict, hexcused⟩
      · rw [← hpolicy]
        cases P.first with
        | strict => exact .throw rfl
        | lenient => exact .pure rfl
      · rw [hstrict]
        exact fun s => .inl ⟨_, s, rfl, hexcused offset index role _⟩

lemma withWidth (layout : Layout) (width : Option Int) :
    P.Follows id (layout.withWidth offset width)
      (layout.withWidth (offset + P.bytes) width) := by
  cases width with
  | none => exact .pure rfl
  | some v => exact .map (P.accept offset _ _) fun _ => rfl

lemma withPrecision (layout : Layout) (precision : Option Int) :
    P.Follows id (layout.withPrecision offset precision)
      (layout.withPrecision (offset + P.bytes) precision) := by
  cases precision with
  | none => exact .pure rfl
  | some v =>
    simp only [Layout.withPrecision]
    split_ifs
    · exact .pure rfl
    · exact .map (P.accept offset _ _) fun _ => rfl

lemma settle (d : Directive) :
    P.Follows P.settled (d.settle P.first offset) (d.settle P.second (offset + P.bytes)) := by
  rw [Directive.settle_eq_bind, Directive.settle_eq_bind]
  refine .bind (P.written offset _ _) fun width => ?_
  refine .bind (P.written offset _ _) fun precision => ?_
  refine .bind (P.drawnSize offset _ _) fun drawnWidth => ?_
  refine .bind (P.withWidth offset _ _) fun layout => ?_
  refine .bind (P.drawnSize offset _ _) fun drawnPrecision => ?_
  refine .bind (P.withPrecision offset _ _) fun layout => ?_
  split_ifs
  · exact .map (P.next offset) fun _ => rfl
  · exact .pure rfl

/-- A directive renders further on as it does here. -/
lemma render (spelling : List Char) (d : Directive) :
    P.Follows id (Segment.render P.first (.directive offset spelling d))
      (Segment.render P.second (.directive (offset + P.bytes) spelling d)) := by
  refine .bind (P.settle offset d) fun settled => ?_
  obtain ⟨layout, value⟩ := settled
  cases value with
  | none => exact .pure rfl
  | some v =>
    simp only [Pairing.settled, Settled.render, Option.map_some, drawn]
    cases layout.show? v.argument with
    | some text => exact .pure rfl
    | none =>
      rcases P.mismatch_excused with hpolicy | ⟨hstrict, hexcused⟩
      · rw [← hpolicy]
        cases P.first with
        | strict => exact .throw rfl
        | lenient => exact .pure rfl
      · rw [hstrict]
        exact fun s => .inl ⟨_, s, rfl, hexcused offset v.index _ _⟩

end Pairing

end TypedFormat
