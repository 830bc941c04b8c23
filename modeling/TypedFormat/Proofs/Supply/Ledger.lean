import Mathlib.Data.List.Basic
import TypedFormat.Proofs.Supply.Drawing

/-!
# Ledgers

A `Ledger` notes the arguments that a supply hands out, also those that are drawn as a width or a
precision. `Booked.settle` takes the steps of settling a directive with a ledger at hand. It comes to
what `Directive.settle` does, and a ledger that agrees with the list of all arguments does so afterwards
(`Booked.Keeps`, `Booked.keeps_settle`).
-/

namespace TypedFormat

/-- A supply, and the arguments that were handed out of it. -/
structure Ledger where
  supply : Supply
  handed : List Drawn

/-- A computation that draws arguments and notes them. -/
abbrev Booked := EStateM Failure Ledger

namespace Booked

/-- Draws the next argument and notes it. -/
def next (offset : Nat) : Booked Drawn := fun l =>
  match Supply.next offset l.supply with
  | .ok v s    => .ok v ⟨s, l.handed ++ [v]⟩
  | .error f s => .error f { l with supply := s }

/-- Settles a directive and notes what it draws. -/
def settle (policy : Policy) (offset : Nat) (d : Directive) : Booked Settled :=
  d.settleBy (next offset) policy offset

end Booked

/-! ### Ledgers that balance -/

/-- The first `n` arguments of a list with their indices. -/
def served (arguments : List Argument) (n : Nat) : List Drawn :=
  (arguments.take n).mapIdx Drawn.mk

section

variable {arguments : List Argument} {n m : Nat}

lemma length_served (h : n ≤ arguments.length) : (served arguments n).length = n := by
  rw [served, List.length_mapIdx, List.length_take, Nat.min_eq_left h]

lemma served_add (arguments : List Argument) (n m : Nat) :
    ∃ handed, served arguments (n + m) = served arguments n ++ handed := by
  rw [served, List.take_add, List.mapIdx_append]
  exact ⟨_, rfl⟩

lemma served_succ {a : Argument} (h : arguments[n]? = some a) :
    served arguments (n + 1) = served arguments n ++ [⟨n, a⟩] := by
  obtain ⟨hn, -⟩ := List.getElem?_eq_some_iff.mp h
  rw [served, List.take_add_one, h, List.mapIdx_append, List.length_take,
    Nat.min_eq_left (Nat.le_of_lt hn)]
  simp [served]

/-- The index of a served argument is where the list has it. -/
lemma getElem?_of_mem_served {v : Drawn} (h : v ∈ served arguments n) :
    arguments[v.index]? = some v.argument := by
  obtain ⟨i, hi, rfl⟩ := List.mem_mapIdx.mp h
  rw [List.getElem_take, List.getElem?_eq_getElem]

lemma pairwise_served (arguments : List Argument) (n : Nat) :
    ((served arguments n).map Drawn.index).Pairwise (· < ·) := by
  have hindices : (served arguments n).map Drawn.index
      = List.range (served arguments n).length := by
    apply List.ext_getElem <;> simp [served]
  rw [hindices]
  exact List.pairwise_lt_range

end

/-- A ledger that agrees with the list of all arguments: those up to the position were handed out, and
the others remain. -/
structure Ledger.Balanced (arguments : List Argument) (l : Ledger) : Prop where
  position_le : l.supply.position ≤ arguments.length
  remaining : l.supply.remaining = arguments.drop l.supply.position
  handed : l.handed = served arguments l.supply.position

namespace Ledger

variable {arguments : List Argument} {l l' : Ledger}

def ofList (arguments : List Argument) : Ledger :=
  ⟨.ofList arguments, []⟩

lemma balanced_ofList (arguments : List Argument) : (ofList arguments).Balanced arguments :=
  ⟨Nat.zero_le _, rfl, rfl⟩

namespace Balanced

lemma position_add_remaining (h : l.Balanced arguments) :
    l.supply.position + l.supply.remaining.length = arguments.length := by
  rw [h.remaining, List.length_drop, Nat.add_sub_cancel' h.position_le]

/-- What a further ledger has handed out is what this one has and as much more as the position has
moved. -/
lemma handed_eq_append (h : l.Balanced arguments) (h' : l'.Balanced arguments) {n : Nat}
    (hn : l'.supply.position = l.supply.position + n) :
    ∃ handed, l' = ⟨l'.supply, l.handed ++ handed⟩ ∧ handed.length = n := by
  obtain ⟨handed, hserved⟩ := served_add arguments l.supply.position n
  have hle' := h'.position_le
  have hlength := congrArg List.length hserved
  rw [List.length_append, length_served h.position_le, length_served (hn ▸ hle')] at hlength
  refine ⟨handed, ?_, Nat.add_left_cancel hlength.symm⟩
  rw [h.handed, ← hserved, ← hn, ← h'.handed]

lemma position_eq_of_remaining_nil (h : l.Balanced arguments) (hnil : l.supply.remaining = []) :
    l.supply.position = arguments.length := by
  rw [← h.position_add_remaining, hnil, List.length_nil, Nat.add_zero]

end Balanced

end Ledger

/-- The state in which a computation ends, with a value or without one. -/
def endState {ε σ α : Type} : EStateM.Result ε σ α → σ
  | .ok _ s    => s
  | .error _ s => s

/-! ### Keeping the books -/

namespace Booked

section Judgment

variable {α β : Type} (arguments : List Argument)

/-- From the ledger `l`, `r` does what `c` does from its supply. What it leaves is balanced, and the
value is as in `Q`. -/
def Keeps (Q : α → Ledger → Prop) (r : Booked α) (c : Drawing α) (l : Ledger) : Prop :=
  match r l with
  | .ok v l'    => c l.supply = .ok v l'.supply ∧ l'.Balanced arguments ∧ Q v l'
  | .error f l' => c l.supply = .error f l'.supply ∧ l'.Balanced arguments

namespace Keeps

variable {arguments} {Q : α → Ledger → Prop} {R : β → Ledger → Prop} {l : Ledger}

lemma pure {v : α} (hl : l.Balanced arguments) (h : Q v l) :
    Keeps arguments Q (pure v) (pure v) l :=
  ⟨rfl, hl, h⟩

lemma throw {f : Failure} (hl : l.Balanced arguments) :
    Keeps arguments Q (throw f) (throw f) l :=
  ⟨rfl, hl⟩

lemma bind {r : Booked α} {c : Drawing α} {r' : α → Booked β} {c' : α → Drawing β}
    (h : Keeps arguments Q r c l)
    (h' : ∀ v l', l'.Balanced arguments → Q v l' → Keeps arguments R (r' v) (c' v) l') :
    Keeps arguments R (r >>= r') (c >>= c') l := by
  unfold Keeps at h ⊢
  simp only [Bind.bind, EStateM.bind]
  cases hr : r l with
  | error f l' =>
    rw [hr] at h
    obtain ⟨hc, hl'⟩ := h
    rw [hc]
    exact ⟨rfl, hl'⟩
  | ok v l' =>
    rw [hr] at h
    obtain ⟨hc, hl', hq⟩ := h
    rw [hc]
    exact h' v l' hl' hq

lemma endState_eq {r : Booked α} {c : Drawing α} (h : Keeps arguments Q r c l) :
    (endState (r l)).supply = endState (c l.supply) ∧ (endState (r l)).Balanced arguments := by
  unfold Keeps at h
  cases hr : r l with
  | ok v l' =>
    rw [hr] at h
    obtain ⟨hc, hl', -⟩ := h
    rw [hc]
    exact ⟨rfl, hl'⟩
  | error f l' =>
    rw [hr] at h
    obtain ⟨hc, hl'⟩ := h
    rw [hc]
    exact ⟨rfl, hl'⟩

lemma of_ok {r : Booked α} {c : Drawing α} (h : Keeps arguments Q r c l) {v : α} {s : Supply}
    (hc : c l.supply = .ok v s) :
    ∃ l', r l = .ok v l' ∧ l'.supply = s ∧ l'.Balanced arguments ∧ Q v l' := by
  unfold Keeps at h
  cases hr : r l with
  | error f l' =>
    rw [hr, hc] at h
    exact nomatch h.1
  | ok w l' =>
    rw [hr, hc] at h
    obtain ⟨hw, hl', hq⟩ := h
    injection hw with hvalue hsupply
    subst hvalue hsupply
    exact ⟨l', rfl, rfl, hl', hq⟩

lemma of_error {r : Booked α} {c : Drawing α} (h : Keeps arguments Q r c l) {f : Failure}
    {s : Supply} (hc : c l.supply = .error f s) :
    ∃ l', r l = .error f l' ∧ l'.supply = s ∧ l'.Balanced arguments := by
  unfold Keeps at h
  cases hr : r l with
  | ok v l' =>
    rw [hr, hc] at h
    exact nomatch h.1
  | error g l' =>
    rw [hr, hc] at h
    obtain ⟨hg, hl'⟩ := h
    injection hg with hfailure hsupply
    subst hfailure hsupply
    exact ⟨l', rfl, rfl, hl'⟩

end Keeps

end Judgment

section Steps

variable {arguments : List Argument} {l : Ledger} (hl : l.Balanced arguments) (policy : Policy)
  (offset : Nat)

include hl

lemma keeps_next :
    Keeps arguments (fun v l' => l'.handed.getLast? = some v) (next offset) (Supply.next offset) l := by
  obtain ⟨⟨position, remaining⟩, handed⟩ := l
  have hremaining : remaining = arguments.drop position := hl.remaining
  cases remaining with
  | nil => exact ⟨rfl, hl⟩
  | cons a rest =>
    have ha : arguments[position]? = some a := by
      rw [← List.head?_drop, ← hremaining, List.head?_cons]
    have hrest : rest = arguments.drop (position + 1) := by
      rw [← List.tail_drop, ← hremaining, List.tail_cons]
    have hlt : position < arguments.length := (List.getElem?_eq_some_iff.mp ha).1
    have hhanded : handed ++ [⟨position, a⟩] = served arguments (position + 1) := by
      rw [served_succ ha]
      exact congrArg (· ++ _) hl.handed
    exact ⟨rfl, ⟨hlt, hrest, hhanded⟩, List.getLast?_concat⟩

lemma keeps_accept (role : Role) (n : Nat) :
    Keeps arguments (fun _ _ => True) (Size.accept offset role n) (Size.accept offset role n) l := by
  unfold Size.accept
  split_ifs
  · exact .pure hl trivial
  · exact .throw hl

lemma keeps_written (role : Role) (size : Size) :
    Keeps arguments (fun _ _ => True) (size.written offset role) (size.written offset role) l := by
  cases size with
  | literal n => exact .bind (keeps_accept hl offset role n) fun _ _ hl _ => .pure hl trivial
  | absent | fromArgument => exact .pure hl trivial

lemma keeps_drawn (role : Role) (size : Size) :
    Keeps arguments (fun _ _ => True) (size.drawnBy (next offset) policy offset role)
      (size.drawn policy offset role) l := by
  cases size with
  | absent | literal => exact .pure hl trivial
  | fromArgument =>
    refine .bind (keeps_next hl offset) fun v l' hl' _ => ?_
    obtain ⟨index, argument⟩ := v
    cases argument with
    | integer v => exact .pure hl' trivial
    | _ =>
      cases policy with
      | lenient => exact .pure hl' trivial
      | strict => exact .throw hl'

lemma keeps_withWidth (layout : Layout) (width : Option Int) :
    Keeps arguments (fun _ _ => True) (layout.withWidth offset width)
      (layout.withWidth offset width) l := by
  cases width with
  | none => exact .pure hl trivial
  | some v => exact .bind (keeps_accept hl offset _ _) fun _ _ hl _ => .pure hl trivial

lemma keeps_withPrecision (layout : Layout) (precision : Option Int) :
    Keeps arguments (fun _ _ => True) (layout.withPrecision offset precision)
      (layout.withPrecision offset precision) l := by
  cases precision with
  | none => exact .pure hl trivial
  | some v =>
    simp only [Layout.withPrecision]
    split_ifs
    · exact .pure hl trivial
    · exact .bind (keeps_accept hl offset _ _) fun _ _ hl _ => .pure hl trivial

/-- A directive that is settled shows the argument that was handed out last, unless it shows none. -/
lemma keeps_settle (d : Directive) :
    Keeps arguments
      (fun settled l' => settled.value
        = if d.conversion = .percent then none else l'.handed.getLast?)
      (settle policy offset d) (d.settle policy offset) l := by
  unfold settle Directive.settle Directive.settleBy
  refine .bind (keeps_written hl offset _ _) fun width l hl _ => ?_
  refine .bind (keeps_written hl offset _ _) fun precision l hl _ => ?_
  refine .bind (keeps_drawn hl policy offset _ _) fun drawnWidth l hl _ => ?_
  refine .bind (keeps_withWidth hl offset _ _) fun layout l hl _ => ?_
  refine .bind (keeps_drawn hl policy offset _ _) fun drawnPrecision l hl _ => ?_
  refine .bind (keeps_withPrecision hl offset _ _) fun layout l hl _ => ?_
  split_ifs with hpercent htakes htakes
  · exact absurd hpercent (Conversion.takesValue_iff.mp htakes)
  · exact .pure hl rfl
  · exact .bind (keeps_next hl offset) fun v l hl hlast => .pure hl hlast.symm
  · exact absurd (Conversion.takesValue_iff.mpr hpercent) htakes

end Steps

end Booked

end TypedFormat
