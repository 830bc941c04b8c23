import Mathlib
import TypedFormat.Outlet
import TypedFormat.Proofs.Format.Rendition

/-!
# Requests at one outlet

A run is a list of requests, one after the other at the same outlet. A request that fails to render
leaves the outlet as it was. A text takes all others whole, and a store takes them as long as they
fit: of the first that does not it keeps the part that fits, and is full from then on. So what a
store has in the end is the front of what a text would have, as far as the capacity goes.
-/

namespace TypedFormat

/-! ### Runs -/

/-- The text that a request asks for, or the failure to render it. -/
def Request.rendered : Request → Except Failure String
  | .plain text                          => .ok text
  | .formatted template arguments policy => format template arguments policy
  | .line template arguments policy      => formatLine template arguments policy

/-- What a request came to, and the outlet before and after it. -/
structure Step (σ : Type) where
  request : Request
  before : σ
  result : Except Failure Unit
  after : σ

section Runs

variable {σ : Type} [Outlet σ]

/-- A request at an outlet. -/
def Request.step (request : Request) (outlet : σ) : Step σ :=
  match request.deliver outlet with
  | .ok _ after    => ⟨request, outlet, .ok (), after⟩
  | .error f after => ⟨request, outlet, .error f, after⟩

/-- Requests one after the other. -/
def run : List Request → σ → List (Step σ)
  | [],              _      => []
  | request :: rest, outlet => request.step outlet :: run rest (request.step outlet).after

/-- The outlet that a run leaves. -/
def outletAfter (requests : List Request) (outlet : σ) : σ :=
  requests.foldl (fun outlet (request : Request) => (request.step outlet).after) outlet

/-- What holds of every step from an outlet as in `Inv`, which it keeps, holds throughout a run. -/
lemma forall_mem_run (Inv : σ → Prop) {P : Step σ → Prop}
    (hstep : ∀ (request : Request) (outlet : σ), Inv outlet →
      P (request.step outlet) ∧ Inv (request.step outlet).after)
    (requests : List Request) {outlet : σ} (h : Inv outlet) :
    ∀ step ∈ run requests outlet, P step := by
  induction requests generalizing outlet with
  | nil =>
    intro step hmem
    cases hmem
  | cons request rest ih =>
    obtain ⟨hp, hinv⟩ := hstep request outlet h
    intro step hmem
    rcases List.mem_cons.mp hmem with rfl | hmem
    · exact hp
    · exact ih hinv step hmem

/-! ### One request -/

namespace Request

variable {request : Request} {text : String} {outlet after : σ}

lemma deliver_eq (request : Request) (outlet : σ) :
    request.deliver outlet = deliverResult (request.rendered.map String.toList) outlet := by
  cases request with
  | plain text => rfl
  | formatted template arguments policy =>
    simp only [deliver, rendered, formatTo, format]
    cases formatChars policy template.toList arguments <;> simp [Except.map]
  | line template arguments policy =>
    simp only [deliver, rendered, formatLineTo, formatLine, format]
    cases formatChars policy template.toList arguments <;> simp [Except.map]

@[simp] lemma request_step (request : Request) (outlet : σ) :
    (request.step outlet).request = request := by
  unfold step
  cases request.deliver outlet <;> rfl

@[simp] lemma before_step (request : Request) (outlet : σ) :
    (request.step outlet).before = outlet := by
  unfold step
  cases request.deliver outlet <;> rfl

/-- A request that fails to render does nothing else. -/
lemma step_of_error {f : Failure} (h : request.rendered = .error f) (outlet : σ) :
    request.step outlet = ⟨request, outlet, .error f, outlet⟩ := by
  have hdeliver : request.deliver outlet = .error f outlet := by
    rw [deliver_eq, h]
    rfl
  rw [step, hdeliver]

lemma step_of_delivered (h : request.rendered = .ok text)
    (houtlet : Outlet.deliver text.toList outlet = .ok () after) :
    request.step outlet = ⟨request, outlet, .ok (), after⟩ := by
  have hdeliver : request.deliver outlet = .ok () after := by
    rw [deliver_eq, h]
    simp [Except.map, deliverResult, deliverText, EStateM.adaptExcept, houtlet]
  rw [step, hdeliver]

lemma step_of_refused {reason : String} (h : request.rendered = .ok text)
    (houtlet : Outlet.deliver text.toList outlet = .error reason after) :
    request.step outlet = ⟨request, outlet, .error (.undelivered reason), after⟩ := by
  have hdeliver : request.deliver outlet = .error (.undelivered reason) after := by
    rw [deliver_eq, h]
    simp [Except.map, deliverResult, deliverText, EStateM.adaptExcept, houtlet]
  rw [step, hdeliver]

/-- Rendering never fails as a delivery does. -/
lemma rendered_ne_undelivered (request : Request) (reason : String) :
    request.rendered ≠ .error (.undelivered reason) := by
  have hformat : ∀ template arguments policy,
      format template arguments policy ≠ .error (.undelivered reason) := by
    intro template arguments policy h
    rcases Scanner.leaves_of_failure (failure?_eq_some_iff.mpr h) with
      ⟨o, found, hmalformed⟩ | ⟨o, k, -, hleaves⟩
    · cases hmalformed
    · cases hleaves
  cases request with
  | plain text => simp [rendered]
  | formatted template arguments policy => exact hformat template arguments policy
  | line template arguments policy =>
    intro h
    simp only [rendered, formatLine] at h
    cases hf : format template arguments policy with
    | ok text => simp [hf, Except.map] at h
    | error f =>
      rw [hf] at h
      cases h
      exact hformat template arguments policy hf

/-- The text that a request adds to those before it. -/
def addition (request : Request) : String :=
  match request.rendered with
  | .ok text => text
  | .error _ => ""

end Request

end Runs

/-- The texts of requests that render, one behind the other. -/
def additions (requests : List Request) : String :=
  requests.foldr (fun request rest => request.addition ++ rest) ""

/-! ### Texts -/

lemma Request.step_string {request : Request} {text : String} (h : request.rendered = .ok text)
    (written : String) : request.step written = ⟨request, written, .ok (), written ++ text⟩ := by
  refine step_of_delivered h ?_
  show EStateM.Result.ok () (written ++ String.ofList text.toList) = _
  rw [String.ofList_toList]

lemma outletAfter_string (requests : List Request) (written : String) :
    outletAfter requests written = written ++ additions requests := by
  induction requests generalizing written with
  | nil => simp [outletAfter, additions]
  | cons request rest ih =>
    have hstep : (request.step written).after = written ++ request.addition := by
      unfold Request.addition
      cases h : request.rendered with
      | ok text => rw [Request.step_string h]
      | error f => rw [Request.step_of_error h, String.append_empty]
    show outletAfter rest (request.step written).after = _
    rw [ih, hstep, String.append_assoc]
    rfl

/-! ### Stores -/

namespace Store

/-- The bytes fit in behind those that the store has. -/
def Fits (store : Store) (bytes : List UInt8) : Prop :=
  ∀ c, store.capacity = some c → store.bytes.length + bytes.length ≤ c

/-- The store has as many bytes as it can. -/
def Full (store : Store) : Prop :=
  store.capacity = some store.bytes.length

/-- The store with more bytes at the end. -/
def append (store : Store) (bytes : List UInt8) : Store :=
  { store with bytes := store.bytes ++ bytes }

/-- The longest beginning of some bytes that fits in. -/
structure LongestFit (store : Store) (bytes part : List UInt8) : Prop where
  begins : part <+: bytes
  fits : store.Fits part
  longest : ∀ more, more <+: bytes → store.Fits more → more <+: part

/-- What a store comes to hold of some bytes. -/
def clip (store : Store) (bytes : List UInt8) : List UInt8 :=
  store.capacity.elim bytes bytes.take

variable {store : Store} {bytes : List UInt8}

lemma write_of_fits (h : store.Fits bytes) : write bytes store = .ok () (store.append bytes) := by
  unfold write room
  cases hc : store.capacity with
  | none => simp [append, hc]
  | some c =>
    have hle := h c hc
    have hroom : bytes.length ≤ c - store.bytes.length := by omega
    simp [append, hc, hroom]

lemma write_of_not_fits (hstore : store.Fits []) (h : ¬ store.Fits bytes) :
    ∃ part, write bytes store = .error store.refusal (store.append part) ∧
      store.LongestFit bytes part ∧ part ≠ bytes ∧ (store.append part).Full := by
  unfold Fits at h
  push Not at h
  obtain ⟨c, hc, hlt⟩ := h
  have hle : store.bytes.length ≤ c := hstore c hc
  have hroom : ¬ bytes.length ≤ c - store.bytes.length := by omega
  have hlength : (bytes.take (c - store.bytes.length)).length = c - store.bytes.length := by
    rw [List.length_take]
    omega
  refine ⟨bytes.take (c - store.bytes.length), ?_, ⟨List.take_prefix _ _, ?_, ?_⟩, ?_, ?_⟩
  · unfold write room
    simp [append, hc, hroom]
  · intro c' hc'
    obtain rfl := Option.some.inj (hc.symm.trans hc')
    omega
  · intro more hmore hfits
    have hfits := hfits c hc
    rw [List.prefix_take_iff]
    exact ⟨hmore, by omega⟩
  · intro heq
    rw [heq] at hlength
    omega
  · show store.capacity = some (store.bytes ++ _).length
    rw [hc, List.length_append, hlength]
    congr
    omega

/-- What a request can come to at a store. -/
inductive Handles : Step Store → Prop where
  /-- It does not render, and fails in the same way. -/
  | failed {request : Request} {store : Store} {f : Failure}
      (hrendered : request.rendered = .error f) (hf : ∀ reason, f ≠ .undelivered reason) :
      Handles ⟨request, store, .error f, store⟩
  /-- Its text fits. -/
  | stored {request : Request} {store : Store} {text : String}
      (hrendered : request.rendered = .ok text) (hfits : store.Fits (Utf8.encode text.toList)) :
      Handles ⟨request, store, .ok (), store.append (Utf8.encode text.toList)⟩
  /-- Its text does not fit, and fills the store. -/
  | refused {request : Request} {store : Store} {text : String} {part : List UInt8}
      (hrendered : request.rendered = .ok text)
      (hpart : store.LongestFit (Utf8.encode text.toList) part)
      (hne : part ≠ Utf8.encode text.toList) (hfull : (store.append part).Full) :
      Handles ⟨request, store, .error (.undelivered store.refusal), store.append part⟩

lemma handles_step (hstore : store.Fits []) (request : Request) :
    Handles (request.step store) := by
  cases hrendered : request.rendered with
  | error f =>
    rw [Request.step_of_error hrendered]
    refine .failed hrendered fun reason hf => ?_
    exact request.rendered_ne_undelivered reason (hf ▸ hrendered)
  | ok text =>
    by_cases hfits : store.Fits (Utf8.encode text.toList)
    · rw [Request.step_of_delivered hrendered (write_of_fits hfits)]
      exact .stored hrendered hfits
    · obtain ⟨part, hwrite, hpart, hne, hfull⟩ := write_of_not_fits hstore hfits
      rw [Request.step_of_refused hrendered hwrite]
      exact .refused hrendered hpart hne hfull

lemma clip_of_fits (h : store.Fits bytes) :
    store.clip (store.bytes ++ bytes) = store.bytes ++ bytes := by
  unfold clip
  cases hc : store.capacity with
  | none => rfl
  | some c =>
    have hle := h c hc
    exact List.take_of_length_le (by simpa using hle)

@[simp] lemma clip_bytes (h : store.Fits []) : store.clip store.bytes = store.bytes := by
  simpa using clip_of_fits h

lemma clip_of_full {part : List UInt8} (hpart : part <+: bytes) (h : (store.append part).Full) :
    store.clip (store.bytes ++ bytes) = store.bytes ++ part := by
  have hc : store.capacity = some (store.bytes ++ part).length := h
  obtain ⟨more, rfl⟩ := hpart
  rw [clip, hc, ← List.append_assoc]
  exact List.take_left

lemma clip_clip_append (store : Store) (first second : List UInt8) :
    store.clip (store.clip first ++ second) = store.clip (first ++ second) := by
  unfold clip
  cases store.capacity with
  | none => rfl
  | some c =>
    simp only [Option.elim_some, List.take_append, List.take_take, List.length_take, Nat.min_self]
    congr 2
    omega

/-- Whatever a request comes to, the store has what it had with the request's text behind it, as
far as the capacity goes. -/
lemma Handles.after_eq {step : Step Store} (h : Handles step) (hbefore : step.before.Fits []) :
    step.after = { step.before with
      bytes := step.before.clip
        (step.before.bytes ++ Utf8.encode step.request.addition.toList) } := by
  cases h with
  | failed hrendered hf => simp [Request.addition, hrendered, clip_bytes hbefore]
  | stored hrendered hfits =>
    simp only [Request.addition, hrendered, clip_of_fits hfits]
    rfl
  | refused hrendered hpart hne hfull =>
    simp only [Request.addition, hrendered, clip_of_full hpart.begins hfull]
    rfl

lemma Handles.after_fits {step : Step Store} (h : Handles step) (hbefore : step.before.Fits []) :
    step.after.Fits [] := by
  intro c hc
  rw [h.after_eq hbefore] at hc ⊢
  have hc' : step.before.capacity = some c := hc
  simp only [clip, hc', Option.elim_some, List.length_take, List.length_nil]
  omega

lemma outletAfter_store (requests : List Request) (hstore : store.Fits []) :
    outletAfter requests store = { store with
      bytes := store.clip (store.bytes ++ Utf8.encode (additions requests).toList) } := by
  induction requests generalizing store with
  | nil => simp [outletAfter, additions, clip_bytes hstore]
  | cons request rest ih =>
    have hhandles := handles_step hstore request
    have hbefore : (request.step store).before.Fits [] := by rwa [Request.before_step]
    have hafter := hhandles.after_eq hbefore
    rw [Request.before_step, Request.request_step] at hafter
    have hrest := ih (hhandles.after_fits hbefore)
    show outletAfter rest (request.step store).after = _
    rw [hrest, hafter]
    have hclip := clip_clip_append store
      (store.bytes ++ Utf8.encode request.addition.toList) (Utf8.encode (additions rest).toList)
    have hadditions : additions (request :: rest) = request.addition ++ additions rest := rfl
    rw [hadditions, String.toList_append, Utf8.encode_append, ← List.append_assoc, ← hclip]
    rfl

end Store

/-- Over any run of requests at one outlet, a request that fails to render fails in the same way and
leaves the outlet as it was. A text takes every other one whole, at its end. So does a store, as
long as the bytes fit; else it takes the longest beginning that fits, and is full. In the end the
outlet has the texts of the requests that render, in order, as far as its capacity goes. -/
theorem run_delivers (requests : List Request) :
    (∀ (σ : Type) [Outlet σ] (outlet : σ), ∀ step ∈ run requests outlet, ∀ f,
      step.request.rendered = .error f → step.result = .error f ∧ step.after = step.before) ∧
    (∀ written : String,
      (∀ step ∈ run requests written, ∀ text, step.request.rendered = .ok text →
        step.result = .ok () ∧ step.after = step.before ++ text) ∧
      outletAfter requests written = written ++ additions requests) ∧
    (∀ store : Store, store.Fits [] →
      (∀ step ∈ run requests store, Store.Handles step) ∧
      (outletAfter requests store).bytes
        = store.clip (store.bytes ++ Utf8.encode (additions requests).toList)) := by
  refine ⟨?_, ?_, ?_⟩
  · intro σ _ outlet
    refine forall_mem_run (fun _ => True) (fun request outlet _ => ⟨?_, trivial⟩) requests trivial
    intro f h
    rw [Request.request_step] at h
    rw [Request.step_of_error h]
    exact ⟨rfl, rfl⟩
  · intro written
    refine ⟨?_, outletAfter_string requests written⟩
    refine forall_mem_run (fun _ => True) (fun request outlet _ => ⟨?_, trivial⟩) requests trivial
    intro text h
    rw [Request.request_step] at h
    rw [Request.step_string h]
    exact ⟨rfl, rfl⟩
  · intro store hstore
    constructor
    · refine forall_mem_run (fun store => store.Fits []) (fun request store hfits => ?_) requests
        hstore
      have hhandles := Store.handles_step hfits request
      refine ⟨hhandles, hhandles.after_fits ?_⟩
      rwa [Request.before_step]
    · rw [Store.outletAfter_store requests hstore]

/-- A text with room, a failure, a text that is cut after its third byte, and one without room. -/
theorem run_delivers_to_full_store :
    let requests : List Request := [.plain "ab", .formatted "%d%d" [.integer 1] .strict,
      .line "é%d" [.integer 7] .strict, .plain "z"]
    let store : Store := { capacity := some 5 }
    (∀ step ∈ run requests "> ", ∀ f, step.request.rendered = .error f →
      step.result = .error f ∧ step.after = step.before) ∧
    outletAfter requests "> " = "> abé7\nz" ∧
    store.Fits [] ∧ (∀ step ∈ run requests store, Store.Handles step) ∧
    (outletAfter requests store).bytes = [97, 98, 195, 169, 55] := by
  intro requests store
  have hadditions : additions requests = "abé7\nz" := by cbv
  have hfits : store.Fits [] := by
    intro c hc
    simp [store]
  obtain ⟨hfailed, htext, hstore⟩ := run_delivers requests
  obtain ⟨hhandles, hbytes⟩ := hstore store hfits
  refine ⟨hfailed String "> ", ?_, hfits, hhandles, ?_⟩
  · rw [(htext "> ").2, hadditions]
    rfl
  · rw [hbytes, hadditions]
    rfl

end TypedFormat
