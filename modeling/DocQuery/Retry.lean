import DocQuery.Error
import DocQuery.Event

/-!
# Retries

A write that fails because the server is not the primary is tried again, a bounded number of times
and without a pause. `RetryPolicy.run` runs an operation in this way and tells which failures it
passed over.

* `attempt_of_ok`, `attempt_of_refused`: a success and a failure not passed over end the run;
* `length_retries_le`: there are at most as many retries as the policy allows.
-/

namespace DocQuery

/-- The codes by which a server tells that it is not the primary. -/
def notPrimaryCodes : List Int32 := [10107, 13435, 10058]

/-- Whether a code tells that a server is not the primary. -/
def isNotPrimaryCode (code : Int32) : Bool := notPrimaryCodes.contains code

/-- How often a write is tried again. -/
structure RetryPolicy where
  maxRetries : UInt32 := 1
  deriving DecidableEq

/-- What a run with retries leaves behind: the result of its last attempt, the state, and the
failures that were passed over, in order. -/
structure Attempts (ε α σ : Type) where
  result : Except ε α
  state : σ
  retries : List ε

namespace RetryPolicy

variable {ε α σ : Type} (isTransient : ε → Bool) (operation : σ → Except ε α × σ)

/-- Runs an operation with some retries left. -/
def attempt : Nat → σ → Attempts ε α σ
  | 0, x => ⟨(operation x).1, (operation x).2, []⟩
  | left + 1, x =>
    match operation x with
    | (.ok a, y) => ⟨.ok a, y, []⟩
    | (.error e, y) =>
      if isTransient e then
        let rest := attempt left y
        { rest with retries := e :: rest.retries }
      else ⟨.error e, y, []⟩

/-- Runs an operation as a policy allows. -/
def run (p : RetryPolicy) (x : σ) : Attempts ε α σ :=
  attempt isTransient operation p.maxRetries.toNat x

/-- A success ends the run. -/
theorem attempt_of_ok {left : Nat} {x y : σ} {a : α} (h : operation x = (.ok a, y)) :
    attempt isTransient operation left x = ⟨.ok a, y, []⟩ := by
  cases left <;> simp [attempt, h]

/-- A failure that is not passed over ends the run. -/
theorem attempt_of_refused {left : Nat} {x y : σ} {e : ε} (h : operation x = (.error e, y))
    (he : isTransient e = false) :
    attempt isTransient operation left x = ⟨.error e, y, []⟩ := by
  cases left <;> simp [attempt, h, he]

/-- There are at most as many retries as are left. -/
theorem length_retries_le (left : Nat) (x : σ) :
    (attempt isTransient operation left x).retries.length ≤ left := by
  induction left generalizing x with
  | zero => simp [attempt]
  | succ left ih =>
    unfold attempt
    split
    · simp
    · split
      · simp [ih]
      · simp

/-- What a run has to tell of the failures it passed over. -/
def events (p : RetryPolicy) (describe : ε → String) (retries : List ε) : List Event :=
  (retries.zipIdx 1).map (fun e => .retrying e.2 p.maxRetries.toNat (describe e.1))

end RetryPolicy

end DocQuery
