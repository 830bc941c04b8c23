import TypedFormat.Proofs.Supply.Drawing

/-!
# What a directive requires

Settling a directive requires that the sizes written in it are within the limit, that the arguments it
draws are there, and that those drawn as sizes are integers within the limit. `Directive.requirements`
lists this in order. Settling fails as the first violated requirement says, and otherwise it gives what
the directive and its arguments say (`Directive.settle_firstViolation`). No size past the limit gets
through.
-/

namespace TypedFormat

/-! ### Requirements -/

namespace Supply

/-- The argument behind the next `i` ones. -/
def argument? (s : Supply) (i : Nat) : Option Argument :=
  s.remaining[i]?

/-- The integer behind the next `i` arguments, if it is one. -/
def integer? (s : Supply) (i : Nat) : Option Int :=
  match s.argument? i with
  | some (.integer v) => some v
  | _                 => none

end Supply

/-- One requirement of a directive. Its arguments are counted from the next one on. -/
inductive Requirement where
  /-- A written size is within the limit. -/
  | written (role : Role) (n : Nat)
  /-- There is an argument. -/
  | supplied (i : Nat)
  /-- An argument that is drawn as a size is an integer, unless the policy is lenient. -/
  | integer (role : Role) (i : Nat)
  /-- An integer that is drawn as a size is within the limit, as every negative precision is. -/
  | withinLimit (role : Role) (i : Nat)
deriving DecidableEq

/-- The failure by a size that is past the limit. -/
def Size.excess? (offset : Nat) (role : Role) (n : Nat) : Option Failure :=
  if n ≤ fieldLimit then none else some (.tooLarge offset role n)

/-- The failure of a directive at `offset` by which a requirement is violated, if it is. -/
def Requirement.violation? (policy : Policy) (offset : Nat) (s : Supply) :
    Requirement → Option Failure
  | .written role n     => Size.excess? offset role n
  | .supplied i         =>
    match s.argument? i with
    | some _ => none
    | none   => some (.underflow offset (s.position + i))
  | .integer role i     =>
    match s.argument? i, policy with
    | some (.integer _), _       => none
    | some argument,     .strict =>
      some (.mismatch offset (s.position + i) role argument.kind)
    | _,                 _       => none
  | .withinLimit role i =>
    (s.integer? i).bind fun v =>
      if role = .precision ∧ v < 0 then none else Size.excess? offset role v.natAbs

namespace Size

/-- What is required of a size as it is written. -/
def writtenRequirements (role : Role) : Size → List Requirement
  | .literal n              => [.written role n]
  | .absent | .fromArgument => []

/-- What is required of a size that is drawn as the argument `i`. -/
def drawnRequirements (role : Role) (i : Nat) : Size → List Requirement
  | .fromArgument        => [.supplied i, .integer role i, .withinLimit role i]
  | .absent | .literal _ => []

/-- The width that a directive with arguments asks for. -/
def settledWidth (s : Supply) : Size → Nat
  | .absent       => 0
  | .literal n    => n
  | .fromArgument => (s.integer? 0).elim 0 Int.natAbs

/-- The precision that a directive asks for, if it is the argument `i` where it is drawn. A negative one
counts as absent. -/
def settledPrecision (s : Supply) (i : Nat) : Size → Option Nat
  | .absent       => none
  | .literal n    => some n
  | .fromArgument => (s.integer? i).bind fun v => if v < 0 then none else some v.natAbs

end Size

namespace Directive

variable (policy : Policy) (offset : Nat) (d : Directive) (s : Supply)

/-- All that settling a directive requires, in the order in which it is checked. -/
def requirements : List Requirement :=
  d.width.writtenRequirements .width ++ (d.precision.writtenRequirements .precision ++
    (d.width.drawnRequirements .width 0 ++ (d.precision.drawnRequirements .precision d.width.arity ++
      if d.conversion.takesValue then [.supplied (d.width.arity + d.precision.arity)] else [])))

/-- The failure by the first requirement that is violated. -/
def firstViolation? : Option Failure :=
  d.requirements.findSome? (Requirement.violation? policy offset s)

/-- What a directive with its arguments asks for. A negative drawn width adjusts to the left. -/
def settled : Settled where
  layout :=
    { flags := { d.flags with
        adjustLeft := d.flags.adjustLeft
          || (decide (d.width = .fromArgument) && (s.integer? 0).any (· < 0)) }
      width := d.width.settledWidth s
      precision := d.precision.settledPrecision s d.width.arity
      conversion := d.conversion }
  value :=
    if d.conversion.takesValue then
      (s.argument? (d.width.arity + d.precision.arity)).map
        (Drawn.mk (s.position + (d.width.arity + d.precision.arity)))
    else none

end Directive

/-! ### Violations one after the other -/

namespace Drawing

variable {α β : Type} {s t u : Supply} {v w : Option Failure} {a : α} {b : β}

/-- From the supply `s`, a computation fails by the violation, if there is one, and else gives a value
and leaves the supply `t`. -/
def ComesTo (c : Drawing α) (s : Supply) (violation? : Option Failure) (value : α) (t : Supply) :
    Prop :=
  match violation? with
  | some f => ∃ left, c s = .error f left
  | none   => c s = .ok value t

namespace ComesTo

lemma pure (a : α) (s : Supply) : ComesTo (pure a) s none a s :=
  rfl

/-- What is required later counts only where nothing is violated before. -/
lemma bind {c : Drawing α} {f : α → Drawing β} (hc : ComesTo c s v a t)
    (hf : v = none → ComesTo (f a) t w b u) : ComesTo (c >>= f) s (v.or w) b u := by
  cases v with
  | some e =>
    obtain ⟨left, hleft⟩ := hc
    exact ⟨left, bind_of_error hleft f⟩
  | none =>
    have hnext := hf rfl
    unfold ComesTo at hnext ⊢
    rw [Option.none_or, bind_of_ok hc]
    exact hnext

lemma bind_pure {c : Drawing α} (hc : ComesTo c s v a t) (f : α → β) :
    ComesTo (c >>= fun a => Pure.pure (f a)) s v (f a) t := by
  have hdone : ComesTo (Pure.pure (f a)) t none (f a) t := .pure (f a) t
  have hbind := hc.bind (f := fun a => Pure.pure (f a)) fun _ => hdone
  rwa [Option.or_none] at hbind

end ComesTo

end Drawing

/-! ### The steps of a directive -/

section Steps

open Drawing

variable (policy : Policy) (offset : Nat) (s : Supply)

/-- Further on, an argument is drawn if there is one at that place. -/
lemma Supply.next_advance (i : Nat) :
    next offset (s.advance i) = match s.argument? i with
      | some a => .ok ⟨s.position + i, a⟩ (s.advance (i + 1))
      | none   => .error (.underflow offset (s.position + i)) (s.advance i) := by
  cases ha : s.argument? i with
  | none =>
    have hdrop : s.remaining.drop i = [] :=
      List.drop_eq_nil_iff.mpr (List.getElem?_eq_none_iff.mp ha)
    simp only [next, advance, hdrop]
  | some a =>
    obtain ⟨hlt, hget⟩ := List.getElem?_eq_some_iff.mp ha
    have hdrop : s.remaining.drop i = a :: s.remaining.drop (i + 1) := by
      rw [List.drop_eq_getElem_cons hlt, hget]
    simp only [next, advance, hdrop, Nat.add_assoc]

/-- The number that is written for a size. -/
def Size.literal? : Size → Option Nat
  | .literal n              => some n
  | .absent | .fromArgument => none

lemma Size.comesTo_accept (role : Role) (n : Nat) (t : Supply) :
    ComesTo (accept offset role n) t (excess? offset role n) n t := by
  unfold accept excess?
  split_ifs
  · exact .pure n t
  · exact ⟨t, rfl⟩

lemma Size.comesTo_written (role : Role) (size : Size) (t : Supply) :
    ComesTo (size.written offset role) t
      ((size.writtenRequirements role).findSome? (Requirement.violation? policy offset s))
      size.literal? t := by
  cases size with
  | absent | fromArgument => exact .pure none t
  | literal n =>
    have hlist : ((literal n).writtenRequirements role).findSome?
        (Requirement.violation? policy offset s) = excess? offset role n := List.findSome?_singleton
    rw [hlist]
    exact (comesTo_accept offset role n t).bind_pure some

/-- Drawing a size requires an argument, and an integer if the policy is strict. -/
lemma Size.comesTo_drawn (role : Role) (i : Nat) :
    ComesTo (drawn policy offset role .fromArgument) (s.advance i)
      (((Requirement.supplied i).violation? policy offset s).or
        ((Requirement.integer role i).violation? policy offset s))
      (s.integer? i) (s.advance (i + 1)) := by
  have hnext := Supply.next_advance offset s i
  cases ha : s.argument? i with
  | none =>
    rw [ha] at hnext
    simp only [Requirement.violation?, ha, Option.some_or]
    exact ⟨s.advance i, bind_of_error hnext _⟩
  | some a =>
    rw [ha] at hnext
    cases a with
    | integer v =>
      simp only [Requirement.violation?, ha, Supply.integer?, Option.none_or]
      exact bind_of_ok hnext _
    | _ =>
      cases policy with
      | lenient =>
        simp only [Requirement.violation?, ha, Supply.integer?, Option.none_or]
        exact bind_of_ok hnext _
      | strict =>
        simp only [Requirement.violation?, ha, Option.none_or]
        exact ⟨s.advance (i + 1), bind_of_ok hnext _⟩

/-- A size that is drawn and then put into a layout. What is no integer is passed over. -/
lemma Size.comesTo_put {layout : Layout} {put : Option Int → Drawing Layout} (role : Role) (i : Nat)
    (size : Size)
    (hput : ComesTo (put (if size = .fromArgument then s.integer? i else none))
      (s.advance (i + size.arity))
      (if size = .fromArgument then (Requirement.withinLimit role i).violation? policy offset s
        else none) layout (s.advance (i + size.arity))) :
    ComesTo (size.drawn policy offset role >>= put) (s.advance i)
      ((size.drawnRequirements role i).findSome? (Requirement.violation? policy offset s))
      layout (s.advance (i + size.arity)) := by
  cases size with
  | absent | literal => exact hput
  | fromArgument =>
    have hlist : (drawnRequirements role i .fromArgument).findSome?
          (Requirement.violation? policy offset s)
        = (((Requirement.supplied i).violation? policy offset s).or
            ((Requirement.integer role i).violation? policy offset s)).or
          ((Requirement.withinLimit role i).violation? policy offset s) := by
      show ([Requirement.supplied i] ++ [Requirement.integer role i]
        ++ [Requirement.withinLimit role i]).findSome? _ = _
      simp only [List.findSome?_append, List.findSome?_singleton]
    rw [hlist]
    exact (comesTo_drawn policy offset s role i).bind fun _ => hput

lemma Layout.comesTo_withWidth (layout : Layout) (drawn : Option Int) (t : Supply) :
    ComesTo (layout.withWidth offset drawn) t
      (drawn.bind fun v => Size.excess? offset .width v.natAbs)
      { layout with
        width := drawn.elim layout.width Int.natAbs
        flags := { layout.flags with
          adjustLeft := layout.flags.adjustLeft || drawn.any (· < 0) } } t := by
  cases drawn with
  | none =>
    simp only [Option.any_none, Bool.or_false]
    exact .pure layout t
  | some v =>
    rw [Option.bind_some]
    exact (Size.comesTo_accept offset .width v.natAbs t).bind_pure _

lemma Layout.comesTo_withPrecision (layout : Layout) (hnone : layout.precision = none)
    (drawn : Option Int) (t : Supply) :
    ComesTo (layout.withPrecision offset drawn) t
      (drawn.bind fun v => if v < 0 then none else Size.excess? offset .precision v.natAbs)
      { layout with precision := drawn.bind fun v => if v < 0 then none else some v.natAbs } t := by
  obtain ⟨flags, width, precision, conversion⟩ := layout
  obtain rfl : precision = none := hnone
  cases drawn with
  | none => exact .pure _ t
  | some v =>
    simp only [withPrecision, Option.bind_some]
    split_ifs
    · exact .pure _ t
    · exact (Size.comesTo_accept offset .precision v.natAbs t).bind_pure _

lemma Size.comesTo_width (flags : Flags) (size : Size) (precision : Option Nat)
    (conversion : Conversion) :
    ComesTo (size.drawn policy offset .width
        >>= Layout.withWidth offset ⟨flags, size.literal?.getD 0, precision, conversion⟩) s
      ((size.drawnRequirements .width 0).findSome? (Requirement.violation? policy offset s))
      { flags := { flags with
          adjustLeft := flags.adjustLeft
            || (decide (size = .fromArgument) && (s.integer? 0).any (· < 0)) }
        width := size.settledWidth s
        precision, conversion } (s.advance size.arity) := by
  cases size with
  | absent | literal =>
    simp only [reduceCtorEq, decide_false, Bool.false_and, Bool.or_false]
    exact .pure _ s
  | fromArgument =>
    refine comesTo_put policy offset s .width 0 .fromArgument ?_
    exact Layout.comesTo_withWidth offset ⟨flags, 0, precision, conversion⟩ (s.integer? 0) _

lemma Size.comesTo_precision (flags : Flags) (width i : Nat) (size : Size) (conversion : Conversion) :
    ComesTo (size.drawn policy offset .precision
        >>= Layout.withPrecision offset ⟨flags, width, size.literal?, conversion⟩) (s.advance i)
      ((size.drawnRequirements .precision i).findSome? (Requirement.violation? policy offset s))
      ⟨flags, width, size.settledPrecision s i, conversion⟩ (s.advance (i + size.arity)) := by
  refine comesTo_put policy offset s .precision i size ?_
  cases size with
  | absent | literal => exact .pure _ _
  | fromArgument =>
    have hput := Layout.comesTo_withPrecision offset ⟨flags, width, none, conversion⟩ rfl
      (s.integer? i)
    simpa [Requirement.violation?, literal?, settledPrecision] using hput _

/-- The value is drawn last. -/
lemma Settled.comesTo_value (layout : Layout) (conversion : Conversion) (i : Nat) :
    ComesTo
      (if conversion.takesValue then do
        let value ← Supply.next offset
        pure (⟨layout, some value⟩ : Settled)
      else pure ⟨layout, none⟩) (s.advance i)
      ((if conversion.takesValue then [Requirement.supplied i] else []).findSome?
        (Requirement.violation? policy offset s))
      { layout
        value :=
          if conversion.takesValue then (s.argument? i).map (Drawn.mk (s.position + i)) else none }
      (s.advance (i + conversion.arity)) := by
  unfold Conversion.arity
  split_ifs
  · have hnext := Supply.next_advance offset s i
    rw [List.findSome?_singleton]
    cases ha : s.argument? i with
    | none =>
      rw [ha] at hnext
      simp only [Requirement.violation?, ha]
      exact ⟨s.advance i, bind_of_error hnext _⟩
    | some a =>
      rw [ha] at hnext
      simp only [Requirement.violation?, ha]
      exact bind_of_ok hnext _
  · exact .pure _ _

/-- Settling a directive comes to the first violation of its requirements, or to what it asks for. -/
lemma Directive.comesTo_settle (d : Directive) :
    ComesTo (d.settle policy offset) s (d.firstViolation? policy offset s) (d.settled s)
      (s.advance d.arity) := by
  have hsettle : d.settle policy offset = (do
      let width ← d.width.written offset .width
      let precision ← d.precision.written offset .precision
      let layout ← d.width.drawn policy offset .width
        >>= Layout.withWidth offset ⟨d.flags, width.getD 0, precision, d.conversion⟩
      let layout ← d.precision.drawn policy offset .precision >>= layout.withPrecision offset
      if d.conversion.takesValue then do
        let value ← Supply.next offset
        pure ⟨layout, some value⟩
      else pure ⟨layout, none⟩) := by
    simp only [settle_eq_bind, bind_assoc]
  unfold firstViolation? requirements
  simp only [List.findSome?_append]
  rw [hsettle]
  refine (Size.comesTo_written policy offset s .width d.width s).bind fun _ => ?_
  refine (Size.comesTo_written policy offset s .precision d.precision s).bind fun _ => ?_
  refine (Size.comesTo_width policy offset s d.flags d.width _ d.conversion).bind fun _ => ?_
  refine (Size.comesTo_precision policy offset s _ _ d.width.arity d.precision _).bind fun _ => ?_
  exact Settled.comesTo_value policy offset s _ d.conversion _

end Steps

/-! ### Failures and sizes -/

/-- What a failed directive at `offset` reports of the arguments: the next one is missing, or one that is
drawn as a size is of another kind and the policy is strict, or a size is past the limit. -/
inductive Failure.Reports (policy : Policy) (offset : Nat) (s : Supply) : Failure → Prop where
  | underflow {i : Nat} (h : s.argument? i = none) :
      Reports policy offset s (.underflow offset (s.position + i))
  | mismatch {i : Nat} {role : Role} {a : Argument} (hp : policy = .strict)
      (h : s.argument? i = some a) (ha : a.kind ≠ .integer) :
      Reports policy offset s (.mismatch offset (s.position + i) role a.kind)
  | tooLarge {role : Role} {n : Nat} (h : fieldLimit < n) :
      Reports policy offset s (.tooLarge offset role n)

section Violations

variable {policy : Policy} {offset : Nat} {s : Supply} {f : Failure}

lemma Size.reports_of_excess {role : Role} {n : Nat} (h : excess? offset role n = some f) :
    f.Reports policy offset s := by
  unfold excess? at h
  split_ifs at h with hn
  obtain rfl := Option.some.inj h
  exact .tooLarge (Nat.not_le.mp hn)

lemma Size.le_of_excess {role : Role} {n : Nat} (h : excess? offset role n = none) :
    n ≤ fieldLimit := by
  unfold excess? at h
  split_ifs at h with hn
  exact hn

lemma Requirement.reports_of_violation {r : Requirement}
    (h : r.violation? policy offset s = some f) : f.Reports policy offset s := by
  cases r with
  | written role n => exact Size.reports_of_excess h
  | supplied i =>
    cases ha : s.argument? i with
    | none =>
      simp only [violation?, ha, Option.some.injEq] at h
      exact h ▸ .underflow ha
    | some a => simp [violation?, ha] at h
  | integer role i =>
    cases ha : s.argument? i with
    | none => simp [violation?, ha] at h
    | some a =>
      cases policy with
      | lenient => cases a <;> simp [violation?, ha] at h
      | strict =>
        cases a with
        | integer v => simp [violation?, ha] at h
        | _ =>
          simp only [violation?, ha, Option.some.injEq] at h
          exact h ▸ .mismatch rfl ha nofun
  | withinLimit role i =>
    obtain ⟨v, -, hv⟩ := Option.bind_eq_some_iff.mp h
    split_ifs at hv
    exact Size.reports_of_excess hv

variable {d : Directive}

lemma Directive.settledWidth_le (h : d.firstViolation? policy offset s = none) :
    d.width.settledWidth s ≤ fieldLimit := by
  have hall := List.findSome?_eq_none_iff.mp h
  cases hwidth : d.width with
  | absent => exact Nat.zero_le _
  | literal n =>
    exact Size.le_of_excess
      (hall (.written .width n) (by simp [requirements, hwidth, Size.writtenRequirements]))
  | fromArgument =>
    have hlimit := hall (.withinLimit .width 0)
      (by simp [requirements, hwidth, Size.drawnRequirements])
    unfold Size.settledWidth
    cases hv : s.integer? 0 with
    | none => exact Nat.zero_le _
    | some v =>
      simp only [Requirement.violation?, hv, Option.bind_some, reduceCtorEq, false_and, if_false]
        at hlimit
      exact Size.le_of_excess hlimit

lemma Directive.settledPrecision_le (h : d.firstViolation? policy offset s = none) :
    ∀ p ∈ d.precision.settledPrecision s d.width.arity, p ≤ fieldLimit := by
  have hall := List.findSome?_eq_none_iff.mp h
  intro p hp
  cases hprecision : d.precision with
  | absent => simp [hprecision, Size.settledPrecision] at hp
  | literal n =>
    obtain rfl : n = p := by simpa [hprecision, Size.settledPrecision] using hp
    exact Size.le_of_excess
      (hall (.written .precision n) (by simp [requirements, hprecision, Size.writtenRequirements]))
  | fromArgument =>
    have hlimit := hall (.withinLimit .precision d.width.arity)
      (by simp [requirements, hprecision, Size.drawnRequirements])
    rw [hprecision] at hp
    obtain ⟨v, hv, hp⟩ := Option.bind_eq_some_iff.mp hp
    split_ifs at hp with hneg
    obtain rfl := Option.some.inj hp
    simp only [Requirement.violation?, hv, Option.bind_some, hneg, and_false, if_false] at hlimit
    exact Size.le_of_excess hlimit

end Violations

/-- Settling a directive fails just if one of its requirements is violated, by the first such one. The
failure reports the directive's place and the argument or the size that is at fault, which is past the
limit. Otherwise the layout and the value are those that are asked for, with sizes within the limit, and
the arguments that the directive takes are drawn. -/
theorem Directive.settle_firstViolation (policy : Policy) (offset : Nat) (d : Directive) (s : Supply) :
    (∀ f, (∃ left, d.settle policy offset s = .error f left) ↔
      d.firstViolation? policy offset s = some f) ∧
    (∀ f, d.firstViolation? policy offset s = some f → f.Reports policy offset s) ∧
    (d.firstViolation? policy offset s = none →
      d.settle policy offset s = .ok (d.settled s) (s.advance d.arity) ∧
      (d.settled s).layout.width ≤ fieldLimit ∧
      ∀ p ∈ (d.settled s).layout.precision, p ≤ fieldLimit) := by
  have hcomes := d.comesTo_settle policy offset s
  refine ⟨fun f => ?_, fun f hf => ?_, fun hnone => ?_⟩
  · unfold Drawing.ComesTo at hcomes
    cases hviolation : d.firstViolation? policy offset s with
    | none =>
      rw [hviolation] at hcomes
      refine iff_of_false ?_ nofun
      rintro ⟨left, hleft⟩
      rw [hcomes] at hleft
      cases hleft
    | some g =>
      rw [hviolation] at hcomes
      obtain ⟨left, hleft⟩ := hcomes
      simp [hleft]
  · obtain ⟨r, -, hr⟩ := List.exists_of_findSome?_eq_some hf
    exact Requirement.reports_of_violation hr
  · rw [hnone] at hcomes
    exact ⟨hcomes, settledWidth_le hnone, settledPrecision_le hnone⟩

/-- A written precision is checked before a drawn width. -/
example :
    let d : Directive :=
      { flags := {}, width := .fromArgument, precision := .literal 2000000, length := .absent,
        conversion := .signed }
    d.firstViolation? .strict 4 (.ofList [.integer (-3000000), .integer 7])
        = some (.tooLarge 4 .precision 2000000) ∧
      { d with precision := .absent }.firstViolation? .strict 4
          (.ofList [.integer (-3000000), .integer 7]) = some (.tooLarge 4 .width 3000000) := by
  decide

end TypedFormat
