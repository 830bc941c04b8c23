import TypedFormat.Command.Verification
import TypedFormat.Proofs.Command.Judgment

/-!
# Parts of a verification

Reading suites, reading the clock and writing messages are no trouble on any host: a file that cannot
be used is skipped, and the arguments of every message fit its template. Running the trials is none if
all cases return.
-/

namespace TypedFormat.Verification

open Session

variable {σ : Type} {P : σ → Prop} (console : Console)

/-- The trials are run to their end if all cases return. -/
lemma guards_runTrials (suites : List Suite) :
    Guards P (runTrials console suites : Session (StateM σ) Unit) .stopped (returns suites) :=
  guards_forM fun trial => guards_forM fun suite => (gives_say _ _ _ _ rfl).guards (trial.returns suite)

lemma gives_sayFailures (tally : Tally) :
    Gives P (sayFailures console tally : Session (StateM σ) Unit) fun _ => P :=
  gives_forM fun _ => gives_say _ _ _ _ rfl

variable [Host (StateM σ)] (hP : Lasting P)

include hP

lemma gives_timestamp : Gives P (timestamp : Session (StateM σ) String) fun _ => P :=
  hP.gives_now.bind fun _ => gives_pure fun _ hs => hs

lemma gives_load [Json.Package] [Digest] (directory : String) (names : List String) :
    Gives P (load console directory names : Session (StateM σ) (List Loaded)) fun _ => P := by
  induction names with
  | nil => exact gives_pure fun _ hs => hs
  | cons name names ih =>
    refine (hP.gives_bytesAt _).bind fun read => ?_
    split
    · exact Gives.bind ih fun _ => gives_pure fun _ hs => hs
    · exact (gives_say _ _ _ _ rfl).bind fun _ => ih
    · exact (gives_say _ _ _ _ rfl).bind fun _ => ih

end TypedFormat.Verification
