import Mathlib
import TypedFormat.Command.Session
import TypedFormat.Proofs.Format.Fitting

/-!
# A judgment on sessions

`Session.Meets P session Q` says of a host with a state that from every state with `P` the session
ends in a state with `Q`, which also says what the session ends with. There is a rule for each way to
build a session, so that no session has to be run step by step to know what it does to the host.
-/

namespace TypedFormat.Session

variable {σ α β : Type}

/-- What a session ends with and leaves, from some messages on the console and some state of the
host. -/
def runFrom (session : Session (StateM σ) α) (written : String) (s : σ) :
    (Except Trouble α × String) × σ :=
  (session.run.run written).run s

/-- From every state with `P` a session ends in a state with `Q`. -/
def Meets (P : σ → Prop) (session : Session (StateM σ) α) (Q : Except Trouble α → σ → Prop) : Prop :=
  ∀ written s, P s → Q (session.runFrom written s).1.1 (session.runFrom written s).2

variable {P P' : σ → Prop} {Q Q' : Except Trouble α → σ → Prop}

lemma Meets.mono {session : Session (StateM σ) α} (h : Meets P session Q) (hP : ∀ s, P' s → P s)
    (hQ : ∀ r s, Q r s → Q' r s) : Meets P' session Q' := by
  intro written s hs
  exact hQ _ _ (h written s (hP s hs))

/-- What holds before a session whatever the state is may be used of all of it. -/
lemma meets_of_fact {fact : Prop} {session : Session (StateM σ) α} (h : fact → Meets P session Q) :
    Meets (fun s => P s ∧ fact) session Q := by
  rintro written s ⟨hs, hfact⟩
  exact h hfact written s hs

lemma meets_pure {a : α} (h : ∀ s, P s → Q (.ok a) s) : Meets P (pure a) Q := by
  intro written s hs
  exact h s hs

lemma meets_throw {trouble : Trouble} (h : ∀ s, P s → Q (.error trouble) s) :
    Meets P (throw trouble) Q := by
  intro written s hs
  exact h s hs

/-- What two sessions come to, one after the other. -/
lemma runFrom_bind (session : Session (StateM σ) β) (next : β → Session (StateM σ) α)
    (written : String) (s : σ) :
    (session >>= next).runFrom written s
      = match session.runFrom written s with
        | ((.ok b, written), s)          => (next b).runFrom written s
        | ((.error trouble, written), s) => ((.error trouble, written), s) := by
  unfold runFrom
  rw [ExceptT.run_bind, StateT.run_bind, StateT.run_bind]
  show (match (session.run.run written).run s with | p => _) = _
  rcases (session.run.run written).run s with ⟨⟨_ | b, written'⟩, s'⟩ <;> rfl

/-- The second session runs after every value that the first one gives; trouble in the first one is
trouble of the whole. -/
lemma meets_bind {session : Session (StateM σ) β} {next : β → Session (StateM σ) α}
    {R : Except Trouble β → σ → Prop} (hsession : Meets P session R)
    (hnext : ∀ b, Meets (R (.ok b)) (next b) Q)
    (htrouble : ∀ trouble s, R (.error trouble) s → Q (.error trouble) s) :
    Meets P (session >>= next) Q := by
  intro written s hs
  have hR := hsession written s hs
  rw [runFrom_bind]
  rcases hrun : session.runFrom written s with ⟨⟨trouble | b, written'⟩, s'⟩ <;> rw [hrun] at hR
  · exact htrouble trouble s' hR
  · exact hnext b written' s' hR

lemma meets_onHost {action : StateM σ α} (h : ∀ s, P s → Q (.ok (action.run s).1) (action.run s).2) :
    Meets P (onHost action) Q := by
  intro written s hs
  exact h s hs

lemma meets_demand {trouble : FileFault → Trouble} {result : Except FileFault α}
    (hok : ∀ a s, result = .ok a → P s → Q (.ok a) s)
    (herror : ∀ fault s, result = .error fault → P s → Q (.error (trouble fault)) s) :
    Meets P (demand trouble result) Q := by
  cases result with
  | ok a => exact meets_pure fun s hs => hok a s rfl hs
  | error fault => exact meets_throw fun s hs => herror fault s rfl hs

/-! ### Sessions without trouble -/

/-- From every state with `P` a session gives a value and leaves a state with `R`. -/
def Gives (P : σ → Prop) (session : Session (StateM σ) α) (R : α → σ → Prop) : Prop :=
  Meets P session fun result s => ∃ a, result = .ok a ∧ R a s

lemma gives_pure {R : α → σ → Prop} {a : α} (h : ∀ s, P s → R a s) : Gives P (pure a) R :=
  meets_pure fun s hs => ⟨a, rfl, h s hs⟩

lemma gives_onHost {R : α → σ → Prop} {action : StateM σ α}
    (h : ∀ s, P s → R (action.run s).1 (action.run s).2) : Gives P (onHost action) R :=
  meets_onHost fun s hs => ⟨_, rfl, h s hs⟩

/-- What follows a session without trouble decides what comes of both. -/
lemma Gives.bind {session : Session (StateM σ) β} {next : β → Session (StateM σ) α}
    {R : β → σ → Prop} (h : Gives P session R) (hnext : ∀ b, Meets (R b) (next b) Q) :
    Meets P (session >>= next) Q := by
  refine meets_bind h (fun b => (hnext b).mono ?_ fun _ _ hs => hs) ?_
  · rintro s ⟨b', hb', hs⟩
    cases hb'
    exact hs
  · rintro trouble s ⟨b', hb', -⟩
    cases hb'

lemma gives_forM {items : List β} {f : β → Session (StateM σ) Unit}
    (h : ∀ b, Gives P (f b) fun _ => P) : Gives P (items.forM f) fun _ => P := by
  induction items with
  | nil => exact gives_pure fun _ hs => hs
  | cons item items ih => exact (h item).bind fun _ => ih

/-! ### Guards -/

/-- A session that leaves what holds as it is, and is no trouble just if a condition is met. -/
def Guards (P : σ → Prop) (session : Session (StateM σ) Unit) (trouble : Trouble) (ok : Bool) : Prop :=
  Meets P session fun result s => P s ∧ result = if ok then .ok () else .error trouble

section

variable {session : Session (StateM σ) Unit} {trouble : Trouble} {ok : Bool}

/-- What follows a guard runs just if its condition is met. -/
lemma Guards.bind (h : Guards P session trouble ok) {next : Unit → Session (StateM σ) α}
    (hnext : ok = true → Meets P (next ()) Q)
    (htrouble : ok = false → ∀ s, P s → Q (.error trouble) s) :
    Meets P (session >>= next) Q := by
  cases ok with
  | true =>
    refine meets_bind h (fun _ => ?_) ?_
    · exact (hnext rfl).mono (fun _ hs => hs.1) fun _ _ hQ => hQ
    · rintro trouble' s ⟨-, hresult⟩
      cases hresult
  | false =>
    refine meets_bind h (fun _ => meets_of_fact nofun) ?_
    rintro trouble' s ⟨hs, hresult⟩
    obtain rfl := Except.error.inj hresult
    exact htrouble rfl s hs

/-- A session that is run just if the condition is met, and is itself no trouble. -/
lemma Gives.guards (h : Gives P session fun _ => P) (ok : Bool) :
    Guards P (if ok then session else throw trouble) trouble ok := by
  cases ok with
  | true =>
    refine h.mono (fun _ hs => hs) ?_
    rintro result s ⟨_, rfl, hs⟩
    exact ⟨hs, rfl⟩
  | false => exact meets_throw fun _ hs => ⟨hs, rfl⟩

/-- Guards in a row are one for all their conditions. -/
lemma guards_forM {items : List β} {f : β → Session (StateM σ) Unit} {p : β → Bool}
    (h : ∀ b, Guards P (f b) trouble (p b)) : Guards P (items.forM f) trouble (items.all p) := by
  induction items with
  | nil => exact meets_pure fun _ hs => ⟨hs, rfl⟩
  | cons item items ih =>
    refine (h item).bind (fun hitem => ?_) fun hitem s hs => ?_
    · rw [List.all_cons, hitem, Bool.true_and]
      exact ih
    · rw [List.all_cons, hitem]
      exact ⟨hs, rfl⟩

end

/-! ### Messages -/

section Messages

variable {Q : Except Trouble Unit → σ → Prop} (console : Console) (severity : Severity)
  (template : String) (arguments : List Argument)

lemma runFrom_say (written : String) (s : σ) :
    (say console severity template arguments : Session (StateM σ) Unit).runFrom written s
      = match (console.log severity template arguments : Delivery String Bool) written with
        | .ok _ written          => ((.ok (), written), s)
        | .error failure written => ((.error (.format failure), written), s) := by
  unfold say
  rw [runFrom_bind]
  show runFrom (match (console.log severity template arguments : Delivery String Bool) written with
    | .ok _ written          => set written
    | .error failure written => do set written; throw (.format failure)) written s = _
  split <;> rfl

/-- A message whose arguments fit its template is no trouble. -/
lemma gives_say (hfits : fits template.toList arguments = true) :
    Gives P (say console severity template arguments) fun _ => P := by
  intro written s hs
  obtain ⟨text, htext⟩ := formatChars_of_fits console.policy hfits
  have hlog : ∃ shown written', (console.log severity template arguments : Delivery String Bool)
      written = .ok shown written' := by
    unfold Console.log
    split_ifs
    · rw [htext]
      exact ⟨true, _, rfl⟩
    · exact ⟨false, _, rfl⟩
  obtain ⟨shown, written', hlog⟩ := hlog
  rw [runFrom_say, hlog]
  exact ⟨(), rfl, hs⟩

end Messages

/-! ### Reading -/

/-- A property of the host's state that reading files and the clock does not change. -/
structure Lasting [Host (StateM σ)] (P : σ → Prop) : Prop where
  namesAt : ∀ path s, P s → P ((Host.namesAt path : StateM σ _).run s).2
  bytesAt : ∀ path s, P s → P ((Host.bytesAt path : StateM σ _).run s).2
  now : ∀ s, P s → P ((Host.now : StateM σ _).run s).2

namespace Lasting

variable [Host (StateM σ)] (hP : Lasting P) (path : String)

include hP

lemma gives_namesAt : Gives P (onHost (Host.namesAt path)) fun _ => P :=
  gives_onHost (hP.namesAt path)

lemma gives_bytesAt : Gives P (onHost (Host.bytesAt path)) fun _ => P :=
  gives_onHost (hP.bytesAt path)

omit path in
lemma gives_now : Gives P (onHost Host.now) fun _ => P :=
  gives_onHost hP.now

end Lasting

end TypedFormat.Session
