import Mathlib.Tactic.Common
import TypedFormat.Format

/-!
# What drawing does to the supply

`Drawing.Draws n Q P m s` says what a computation `m` comes to from a supply `s`: it draws exactly
`n` arguments and its value satisfies `Q`, or it draws at most `n` and fails as `P` says. Settling
a directive draws as many arguments as its arity, and what it reports when it fails is listed by
`Failure.Leaves`.
-/

namespace TypedFormat

namespace Supply

/-- The supply after `n` more arguments were drawn. -/
def advance (s : Supply) (n : Nat) : Supply :=
  ⟨s.position + n, s.remaining.drop n⟩

@[simp] lemma advance_zero (s : Supply) : s.advance 0 = s := rfl

@[simp] lemma remaining_advance (s : Supply) (n : Nat) :
    (s.advance n).remaining = s.remaining.drop n := rfl

@[simp] lemma advance_advance (s : Supply) (n m : Nat) :
    (s.advance n).advance m = s.advance (n + m) := by
  simp [advance, Nat.add_assoc]

end Supply

/-- The arguments ended before one that was needed. -/
def Failure.IsUnderflow (f : Failure) : Prop :=
  ∃ offset index, f = .underflow offset index

/-- How a directive at `offset` fails, with the supply that it leaves: the arguments have ended,
the last one drawn does not fit and the policy is strict, or a size is past the limit. -/
inductive Failure.Leaves (policy : Policy) (offset : Nat) : Failure → Supply → Prop where
  | underflow {s : Supply} (h : s.remaining = []) : Leaves policy offset
      (.underflow offset s.position) s
  | mismatch {s : Supply} {index : Nat} {role : Role} {kind : Argument.Kind}
      (hp : policy = .strict) (h : index + 1 = s.position) : Leaves policy offset
      (.mismatch offset index role kind) s
  | tooLarge {s : Supply} {role : Role} {n : Nat} (h : fieldLimit < n) : Leaves policy offset
      (.tooLarge offset role n) s

/-! ### Computations that draw -/

namespace Drawing

variable {α β : Type} {n m : Nat} {P : Failure → Supply → Prop} {s : Supply}

lemma bind_of_ok {c : Drawing α} {s' : Supply} {v : α} (h : c s = .ok v s')
    (f : α → Drawing β) : (c >>= f) s = f v s' := by
  simp only [Bind.bind, EStateM.bind, h]

lemma bind_of_error {c : Drawing α} {s' : Supply} {e : Failure} (h : c s = .error e s')
    (f : α → Drawing β) : (c >>= f) s = .error e s' := by
  simp only [Bind.bind, EStateM.bind, h]

/-- From the supply `s`, a computation draws exactly `n` arguments and gives a value as in `Q`,
or draws at most `n` and fails as in `P`. It draws fewer than `n` where it fails for want of one. -/
def Draws (n : Nat) (Q : α → Supply → Prop) (P : Failure → Supply → Prop) (c : Drawing α)
    (s : Supply) : Prop :=
  match c s with
  | .ok v s'    => n ≤ s.remaining.length ∧ s' = s.advance n ∧ Q v s'
  | .error f s' => P f s' ∧
    ∃ k ≤ n, k ≤ s.remaining.length ∧ s' = s.advance k ∧ (f.IsUnderflow → k < n)

namespace Draws

lemma of_ok {Q : α → Supply → Prop} {c : Drawing α} (h : Draws n Q P c s) {v : α} {s' : Supply}
    (hc : c s = .ok v s') : n ≤ s.remaining.length ∧ s' = s.advance n ∧ Q v s' := by
  unfold Draws at h
  rwa [hc] at h

lemma of_error {Q : α → Supply → Prop} {c : Drawing α} (h : Draws n Q P c s) {f : Failure}
    {s' : Supply} (hc : c s = .error f s') :
    P f s' ∧ ∃ k ≤ n, k ≤ s.remaining.length ∧ s' = s.advance k ∧ (f.IsUnderflow → k < n) := by
  unfold Draws at h
  rwa [hc] at h

lemma pure {Q : α → Supply → Prop} {v : α} (h : Q v s) : Draws 0 Q P (pure v) s :=
  ⟨Nat.zero_le _, rfl, h⟩

lemma throw {Q : α → Supply → Prop} {f : Failure} (h : P f s) (hf : ¬ f.IsUnderflow) :
    Draws 0 Q P (throw f) s :=
  ⟨h, 0, Nat.zero_le _, Nat.zero_le _, rfl, fun hunderflow => absurd hunderflow hf⟩

/-- What is drawn one after the other adds up. -/
lemma bind {Q : α → Supply → Prop} {R : β → Supply → Prop} {c : Drawing α} {f : α → Drawing β}
    (hc : Draws n Q P c s) (hf : ∀ v, Q v (s.advance n) → Draws m R P (f v) (s.advance n)) :
    Draws (n + m) R P (c >>= f) s := by
  unfold Draws
  cases hcs : c s with
  | error e s' =>
    rw [bind_of_error hcs]
    obtain ⟨hp, k, hk, hlen, rfl, hlt⟩ := hc.of_error hcs
    exact ⟨hp, k, Nat.le_trans hk (Nat.le_add_right n m), hlen, rfl,
      fun hunderflow => Nat.lt_of_lt_of_le (hlt hunderflow) (Nat.le_add_right n m)⟩
  | ok v s' =>
    obtain ⟨hlen, rfl, hq⟩ := hc.of_ok hcs
    rw [bind_of_ok hcs]
    cases hfs : f v (s.advance n) with
    | error e s'' =>
      obtain ⟨hp, k, hk, hlen', rfl, hlt⟩ := (hf v hq).of_error hfs
      rw [Supply.remaining_advance, List.length_drop] at hlen'
      exact ⟨hp, n + k, by omega, by omega, Supply.advance_advance s n k,
        fun hunderflow => Nat.add_lt_add_left (hlt hunderflow) n⟩
    | ok w s'' =>
      obtain ⟨hlen', rfl, hr⟩ := (hf v hq).of_ok hfs
      rw [Supply.remaining_advance, List.length_drop] at hlen'
      exact ⟨by omega, Supply.advance_advance s n m, hr⟩

/-- The value of a computation passed on through a function. -/
lemma map {Q : α → Supply → Prop} {R : β → Supply → Prop} {c : Drawing α} {g : α → β}
    (hc : Draws n Q P c s) (hg : ∀ v s', Q v s' → R (g v) s') :
    Draws n R P (c >>= fun v => Pure.pure (g v)) s := by
  refine bind (m := 0) hc fun v hv => ?_
  exact pure (hg v _ hv)

end Draws

end Drawing

/-! ### The steps of a directive -/

lemma Conversion.takesValue_iff {c : Conversion} : c.takesValue = true ↔ c ≠ .percent := by
  cases c <;> decide

/-- What is drawn is drawn from the supply. -/
lemma Directive.settle_eq_bind (policy : Policy) (offset : Nat) (d : Directive) :
    d.settle policy offset = (do
      let width ← d.width.written offset .width
      let precision ← d.precision.written offset .precision
      let layout : Layout := ⟨d.flags, width.getD 0, precision, d.conversion⟩
      let layout ← layout.withWidth offset (← d.width.drawn policy offset .width)
      let layout ← layout.withPrecision offset (← d.precision.drawn policy offset .precision)
      if d.conversion.takesValue then
        let value ← Supply.next offset
        pure ⟨layout, some value⟩
      else
        pure ⟨layout, none⟩) :=
  rfl

section Steps

variable (policy : Policy) (offset : Nat) (s : Supply)

open Drawing

lemma Supply.draws_next :
    Draws 1 (fun v s' => v.index + 1 = s'.position) (Failure.Leaves policy offset)
      (Supply.next offset) s := by
  obtain ⟨position, remaining⟩ := s
  cases remaining with
  | nil => exact ⟨.underflow rfl, 0, Nat.zero_le _, Nat.zero_le _, rfl, fun _ => Nat.zero_lt_one⟩
  | cons a rest => exact ⟨Nat.succ_le_succ (Nat.zero_le _), rfl, rfl⟩

lemma Size.draws_accept (role : Role) (n : Nat) :
    Draws 0 (fun _ _ => True) (Failure.Leaves policy offset) (accept offset role n) s := by
  unfold accept
  split_ifs with h
  · exact Draws.pure trivial
  · exact Draws.throw (.tooLarge (Nat.not_le.mp h)) (by simp [Failure.IsUnderflow])

lemma Size.draws_written (role : Role) (size : Size) :
    Draws 0 (fun _ _ => True) (Failure.Leaves policy offset) (size.written offset role) s := by
  cases size with
  | literal n => exact Draws.map (draws_accept policy offset s role n) fun _ _ _ => trivial
  | absent | fromArgument => exact Draws.pure trivial

lemma Size.draws_drawn (role : Role) (size : Size) :
    Draws size.arity (fun _ _ => True) (Failure.Leaves policy offset)
      (size.drawn policy offset role) s := by
  cases size with
  | absent | literal => exact Draws.pure trivial
  | fromArgument =>
    refine Draws.bind (m := 0) (Supply.draws_next policy offset s) fun v hv => ?_
    obtain ⟨index, argument⟩ := v
    cases argument with
    | integer v => exact Draws.pure trivial
    | _ =>
      cases policy with
      | lenient => exact Draws.pure trivial
      | strict => exact Draws.throw (.mismatch rfl hv) (by simp [Failure.IsUnderflow])

lemma Layout.draws_withWidth (layout : Layout) (width : Option Int) :
    Draws 0 (fun _ _ => True) (Failure.Leaves policy offset) (layout.withWidth offset width) s := by
  cases width with
  | none => exact Draws.pure trivial
  | some v => exact Draws.map (Size.draws_accept policy offset s _ _) fun _ _ _ => trivial

lemma Layout.draws_withPrecision (layout : Layout) (precision : Option Int) :
    Draws 0 (fun _ _ => True) (Failure.Leaves policy offset)
      (layout.withPrecision offset precision) s := by
  cases precision with
  | none => exact Draws.pure trivial
  | some v =>
    simp only [withPrecision]
    split_ifs
    · exact Draws.pure trivial
    · exact Draws.map (Size.draws_accept policy offset s _ _) fun _ _ _ => trivial

/-- Settling a directive draws its arity. The value that it shows is the argument drawn last. -/
lemma Directive.draws_settle (d : Directive) :
    Draws d.arity (fun settled s' => ∀ v, settled.value = some v → v.index + 1 = s'.position)
      (Failure.Leaves policy offset) (d.settle policy offset) s := by
  have harity : d.arity
      = 0 + (0 + (d.width.arity + (0 + (d.precision.arity + (0 + d.conversion.arity))))) := by
    unfold arity
    omega
  rw [harity, settle_eq_bind]
  refine Draws.bind (Size.draws_written policy offset _ _ _) fun width _ => ?_
  refine Draws.bind (Size.draws_written policy offset _ _ _) fun precision _ => ?_
  refine Draws.bind (Size.draws_drawn policy offset _ _ _) fun drawnWidth _ => ?_
  refine Draws.bind (Layout.draws_withWidth policy offset _ _ _) fun layout _ => ?_
  refine Draws.bind (Size.draws_drawn policy offset _ _ _) fun drawnPrecision _ => ?_
  refine Draws.bind (Layout.draws_withPrecision policy offset _ _ _) fun layout _ => ?_
  unfold Conversion.arity
  split_ifs
  · refine Draws.map (Supply.draws_next policy offset _) fun v s' hv w hw => ?_
    obtain rfl := Option.some.inj hw
    exact hv
  · exact Draws.pure (by simp)

end Steps

/-- A computation that fails for want of an argument had fewer than it draws. -/
lemma Drawing.Draws.remaining_lt {α : Type} {n : Nat} {Q : α → Supply → Prop} {policy : Policy}
    {offset : Nat} {c : Drawing α} {s s' : Supply} {f : Failure}
    (hc : Draws n Q (Failure.Leaves policy offset) c s) (h : c s = .error f s')
    (hf : f.IsUnderflow) : s.remaining.length < n := by
  obtain ⟨hleaves, k, -, -, rfl, hlt⟩ := hc.of_error h
  obtain ⟨o, index, rfl⟩ := hf
  cases hleaves with
  | underflow hnil =>
    have hk : s.remaining.length ≤ k := List.drop_eq_nil_iff.mp hnil
    exact Nat.lt_of_le_of_lt hk (hlt ⟨_, _, rfl⟩)

/-- Rendering a directive draws its arity, and so does any other segment. -/
lemma Segment.draws_render (policy : Policy) (offset : Nat) (spelling : List Char) (d : Directive)
    (s : Supply) :
    Drawing.Draws d.arity (fun _ _ => True) (Failure.Leaves policy offset)
      (Segment.render policy (.directive offset spelling d)) s := by
  refine Drawing.Draws.bind (m := 0) (Directive.draws_settle policy offset s d) fun settled hv => ?_
  unfold Settled.render
  cases hvalue : settled.value with
  | none => exact Drawing.Draws.pure trivial
  | some v =>
    dsimp only
    cases settled.layout.show? v.argument with
    | some text => exact Drawing.Draws.pure trivial
    | none =>
      cases policy with
      | lenient => exact Drawing.Draws.pure trivial
      | strict =>
        exact Drawing.Draws.throw (.mismatch rfl (hv v hvalue)) (by simp [Failure.IsUnderflow])

end TypedFormat
