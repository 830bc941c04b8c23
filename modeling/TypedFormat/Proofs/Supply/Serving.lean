import TypedFormat.Proofs.Supply.Ledger
import TypedFormat.Proofs.Supply.Substitution

/-!
# Many calls on one supply

A supply answers calls for the next argument and calls that settle a directive, of which each may
fail. Whatever the calls are, a ledger of them has the first arguments of the list, each once and in
order, as many as the position says (`Ledger.serves_after`).
-/

namespace TypedFormat

/-! ### Calls -/

/-- A call on a supply: for the next argument, or to settle a directive. -/
inductive Call where
  | next (offset : Nat)
  | settle (policy : Policy) (offset : Nat) (d : Directive)

namespace Call

/-- What a call leaves of a supply. -/
def leave (s : Supply) : Call → Supply
  | .next offset            => endState (Supply.next offset s)
  | .settle policy offset d => endState (d.settle policy offset s)

/-- What a call makes of a ledger. -/
def book (l : Ledger) : Call → Ledger
  | .next offset            => endState (Booked.next offset l)
  | .settle policy offset d => endState (Booked.settle policy offset d l)

end Call

/-- The supply after calls. -/
def Supply.after (s : Supply) (calls : List Call) : Supply :=
  calls.foldl Call.leave s

/-- The ledger after calls. -/
def Ledger.after (l : Ledger) (calls : List Call) : Ledger :=
  calls.foldl Call.book l

/-- A size that is written in a directive is past the limit. -/
def Directive.WritesTooMuch (d : Directive) : Prop :=
  ∃ n, fieldLimit < n ∧ (d.width = .literal n ∨ d.precision = .literal n)

/-- Such a directive is not settled, and draws nothing. -/
lemma Directive.WritesTooMuch.settle_eq {d : Directive} (h : d.WritesTooMuch) (policy : Policy)
    (offset : Nat) (s : Supply) :
    ∃ role n, d.settle policy offset s = .error (.tooLarge offset role n) s := by
  obtain ⟨n, hn, hwidth | hprecision⟩ := h
  · rw [settle_eq_bind, hwidth, Size.written_of_lt hn]
    exact ⟨.width, n, rfl⟩
  · rw [settle_eq_bind]
    rcases Size.written_cases offset .width d.width with ⟨q, hq⟩ | ⟨m, -, -, hm⟩
    · rw [hq, hprecision, Size.written_of_lt hn]
      exact ⟨.precision, n, rfl⟩
    · rw [hm]
      exact ⟨.width, m, rfl⟩

lemma Supply.next_eq_error {offset : Nat} {s s' : Supply} {f : Failure}
    (h : next offset s = .error f s') :
    s' = s ∧ s.remaining = [] ∧ f = .underflow offset s.position := by
  obtain ⟨position, remaining⟩ := s
  cases remaining with
  | nil =>
    cases h
    exact ⟨rfl, rfl, rfl⟩
  | cons a rest => nomatch h

lemma Drawing.Draws.position_le {α : Type} {n : Nat} {Q : α → Supply → Prop}
    {P : Failure → Supply → Prop} {c : Drawing α} {s : Supply} (h : Draws n Q P c s) :
    s.position ≤ (endState (c s)).position := by
  cases hc : c s with
  | ok v s' =>
    obtain ⟨-, rfl, -⟩ := h.of_ok hc
    exact Nat.le_add_right _ _
  | error f s' =>
    obtain ⟨-, k, -, -, rfl, -⟩ := h.of_error hc
    exact Nat.le_add_right _ _

/-! ### What a call does -/

/-- A call for the next argument hands it out, or finds that all were handed out and leaves everything
as it is. -/
structure ServesNext (arguments : List Argument) (l : Ledger) (offset : Nat) : Prop where
  ok {v : Drawn} {s : Supply} (h : Supply.next offset l.supply = .ok v s) :
    s.position = l.supply.position + 1 ∧ (Call.next offset).book l = ⟨s, l.handed ++ [v]⟩
  error {f : Failure} {s : Supply} (h : Supply.next offset l.supply = .error f s) :
    s = l.supply ∧ (Call.next offset).book l = l ∧
      f = .underflow offset arguments.length ∧ s.position = arguments.length

/-- A call that settles a directive hands out its arity, and the directive then shows the last of these
arguments if it shows any. A call that fails hands out at most its arity. -/
structure ServesSettle (arguments : List Argument) (l : Ledger) (policy : Policy) (offset : Nat)
    (d : Directive) : Prop where
  ok {settled : Settled} {s : Supply} (h : d.settle policy offset l.supply = .ok settled s) :
    s.position = l.supply.position + d.arity ∧
    (settled.value = none ↔ d.conversion = .percent) ∧
    ∃ handed, (Call.settle policy offset d).book l = ⟨s, l.handed ++ handed⟩ ∧
      handed.length = d.arity ∧
      settled.value = if d.conversion = .percent then none else handed.getLast?
  error {f : Failure} {s : Supply} (h : d.settle policy offset l.supply = .error f s) :
    l.supply.position ≤ s.position ∧ s.position ≤ l.supply.position + d.arity ∧
    (∃ handed, (Call.settle policy offset d).book l = ⟨s, l.handed ++ handed⟩ ∧
      handed.length = s.position - l.supply.position) ∧
    ∀ o index, f = .underflow o index →
      o = offset ∧ index = arguments.length ∧ s.position = arguments.length
  tooLarge (h : d.WritesTooMuch) :
    ∃ role n, d.settle policy offset l.supply = .error (.tooLarge offset role n) l.supply

namespace Ledger.Balanced

variable {arguments : List Argument} {l : Ledger} (hl : l.Balanced arguments)

include hl

lemma servesNext (offset : Nat) : ServesNext arguments l offset where
  ok := by
    intro v s h
    obtain ⟨-, hadvance, -⟩ := (Supply.draws_next .strict offset l.supply).of_ok h
    refine ⟨congrArg Supply.position hadvance, ?_⟩
    rw [Call.book, Booked.next, h]
    rfl
  error := by
    intro f s h
    obtain ⟨rfl, hnil, rfl⟩ := Supply.next_eq_error h
    have hend := hl.position_eq_of_remaining_nil hnil
    refine ⟨rfl, ?_, by rw [hend], hend⟩
    rw [Call.book, Booked.next, h]
    rfl

lemma servesSettle (policy : Policy) (offset : Nat) (d : Directive) :
    ServesSettle arguments l policy offset d where
  ok := by
    intro settled s h
    obtain ⟨l', hr, rfl, hl', hvalue⟩ := (Booked.keeps_settle hl policy offset d).of_ok h
    obtain ⟨-, hadvance, -⟩ := (Directive.draws_settle policy offset l.supply d).of_ok h
    have hposition : l'.supply.position = l.supply.position + d.arity :=
      congrArg Supply.position hadvance
    obtain ⟨handed, hbook, hlength⟩ := hl.handed_eq_append hl' hposition
    have hne : d.conversion ≠ .percent → handed ≠ [] := by
      intro hvalue
      rw [← List.length_pos_iff, hlength, Directive.arity, Conversion.arity,
        if_pos (Conversion.takesValue_iff.mpr hvalue)]
      exact Nat.succ_pos _
    have hlast : settled.value = if d.conversion = .percent then none else handed.getLast? := by
      rw [hvalue]
      split_ifs with hpercent
      · rfl
      · rw [hbook, List.getLast?_append_of_ne_nil _ (hne hpercent)]
    have hnone : settled.value = none ↔ d.conversion = .percent := by
      rw [hlast]
      split_ifs with hpercent
      · simp [hpercent]
      · simp [hpercent, hne hpercent]
    refine ⟨hposition, hnone, handed, ?_, hlength, hlast⟩
    rw [Call.book, hr]
    exact hbook
  error := by
    intro f s h
    obtain ⟨l', hr, rfl, hl'⟩ := (Booked.keeps_settle hl policy offset d).of_error h
    obtain ⟨hleaves, k, hk, -, hadvance, -⟩ :=
      (Directive.draws_settle policy offset l.supply d).of_error h
    have hposition : l'.supply.position = l.supply.position + k :=
      congrArg Supply.position hadvance
    obtain ⟨handed, hbook, hlength⟩ := hl.handed_eq_append hl' hposition
    refine ⟨by omega, by omega, ⟨handed, ?_, by omega⟩, ?_⟩
    · rw [Call.book, hr]
      exact hbook
    · rintro o index rfl
      cases hleaves with
      | underflow hnil =>
        have hend := hl'.position_eq_of_remaining_nil hnil
        exact ⟨rfl, hend, hend⟩
  tooLarge h := h.settle_eq policy offset l.supply

/-- One call keeps a ledger balanced, and the position does not go back. -/
lemma book (call : Call) :
    (call.book l).supply = call.leave l.supply ∧ (call.book l).Balanced arguments ∧
      l.supply.position ≤ (call.leave l.supply).position := by
  cases call with
  | next offset =>
    obtain ⟨hsupply, hbalanced⟩ := (Booked.keeps_next hl offset).endState_eq
    exact ⟨hsupply, hbalanced, (Supply.draws_next .strict offset l.supply).position_le⟩
  | settle policy offset d =>
    obtain ⟨hsupply, hbalanced⟩ := (Booked.keeps_settle hl policy offset d).endState_eq
    exact ⟨hsupply, hbalanced, (Directive.draws_settle policy offset l.supply d).position_le⟩

/-- So do any number of calls. -/
lemma after (calls : List Call) :
    (l.after calls).supply = l.supply.after calls ∧ (l.after calls).Balanced arguments ∧
      l.supply.position ≤ (l.supply.after calls).position := by
  induction calls generalizing l with
  | nil => exact ⟨rfl, hl, Nat.le_refl _⟩
  | cons call calls ih =>
    obtain ⟨hsupply, hbalanced, hle⟩ := hl.book call
    obtain ⟨hsupply', hbalanced', hle'⟩ := ih hbalanced
    rw [hsupply] at hsupply' hle'
    exact ⟨hsupply', hbalanced', Nat.le_trans hle hle'⟩

end Ledger.Balanced

/-- Whatever calls were made on the arguments: those handed out are each at its place in the list, in
strictly increasing order, the others remain, and the next call goes on from there. -/
theorem Ledger.serves_after (arguments : List Argument) (calls : List Call) :
    let l := (ofList arguments).after calls
    l.supply = (Supply.ofList arguments).after calls ∧
      l.supply.position + l.supply.remaining.length = arguments.length ∧
      (l.handed.map Drawn.index).Pairwise (· < ·) ∧
      (∀ v ∈ l.handed, arguments[v.index]? = some v.argument) ∧
      (∀ further, l.supply.position ≤ (l.supply.after further).position) ∧
      (∀ offset, ServesNext arguments l offset) ∧
      ∀ policy offset d, ServesSettle arguments l policy offset d := by
  intro l
  obtain ⟨hsupply, hl, -⟩ := (balanced_ofList arguments).after calls
  refine ⟨hsupply, hl.position_add_remaining, ?_, ?_, fun further => (hl.after further).2.2,
    hl.servesNext, hl.servesSettle⟩
  · rw [hl.handed]
    exact pairwise_served arguments _
  · intro v hv
    rw [hl.handed] at hv
    exact getElem?_of_mem_served hv

end TypedFormat
