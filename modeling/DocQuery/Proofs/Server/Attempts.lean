import Mathlib.Logic.Function.Iterate
import Mathlib.Order.Bounds.Basic
import DocQuery.Proofs.Server.Failover

/-!
# Counted attempts

A run with retries as a loop: every turn makes one attempt and decides whether there is to be
another, with a counter that is a word of thirty-two bits. `RetryPolicy.turn` is one turn, and
`RetryPolicy.run` is what the turns come to.

* `turn_of_passesOver`, `turn_of_not_passesOver`, `turn_of_exhausted`: what a turn does;
* `TurnsInto`, `turnsInto_attempt`: what the turns of a loop with some retries left come to;
* `run_ends_at_first_final`: for any sequence of outcomes a run ends with the first one that is a
  success, is not to be retried, or has used up the budget. It tells of those before it, and the
  counter counts them.
-/

namespace DocQuery

namespace RetryPolicy

variable {ε α σ : Type}

/-- A loop between two attempts: how many were passed over, what the operation works on, and what
was told. -/
structure Pause (σ : Type) where
  counter : UInt32 := 0
  state : σ
  log : List Event := []

/-- A loop that goes on or has ended with a result. -/
inductive Progress (ε α σ : Type)
  | going (x : Pause σ)
  | ended (result : Except ε α) (x : Pause σ)

section

variable (p : RetryPolicy) (isTransient : ε → Bool) (describe : ε → String)
  (operation : σ → Except ε α × σ)

/-- A retry as it is told. -/
def retrying (number : Nat) (e : ε) : Event := .retrying number p.maxRetries.toNat (describe e)

/-- One turn of the loop. -/
def turn : Progress ε α σ → Progress ε α σ
  | .ended r x => .ended r x
  | .going x =>
    match operation x.state with
    | (.ok a, y) => .ended (.ok a) { x with state := y }
    | (.error e, y) =>
      if x.counter < p.maxRetries && isTransient e then
        let counter := x.counter + 1
        .going ⟨counter, y, x.log ++ [p.retrying describe counter.toNat e]⟩
      else .ended (.error e) { x with state := y }

/-! ### Turns -/

theorem turn_ended (r : Except ε α) (x : Pause σ) :
    p.turn isTransient describe operation (.ended r x) = .ended r x := rfl

/-- A loop that has ended stays as it is. -/
theorem turns_ended (n : Nat) (r : Except ε α) (x : Pause σ) :
    (p.turn isTransient describe operation)^[n] (.ended r x) = .ended r x :=
  Function.iterate_fixed (p.turn_ended isTransient describe operation r x) n

/-- A result that is not passed over ends the loop. -/
theorem turn_of_not_passesOver {x : Pause σ}
    (h : passesOver isTransient (operation x.state).1 = false) :
    p.turn isTransient describe operation (.going x)
      = .ended (operation x.state).1 { x with state := (operation x.state).2 } := by
  rw [turn]
  rcases hx : operation x.state with ⟨e | a, y⟩
  · rw [hx] at h
    have he : isTransient e = false := h
    simp [he]
  · rfl

/-- Without retries left every result ends the loop. -/
theorem turn_of_exhausted {x : Pause σ} (h : x.counter = p.maxRetries) :
    p.turn isTransient describe operation (.going x)
      = .ended (operation x.state).1 { x with state := (operation x.state).2 } := by
  rw [turn]
  rcases operation x.state with ⟨e | a, y⟩
  · simp [h]
  · rfl

/-- A failure that is passed over is told and counted, if there are retries left. -/
theorem turn_of_passesOver {x : Pause σ} {e : ε} (hlt : x.counter < p.maxRetries)
    (he : (operation x.state).1 = .error e) (htransient : isTransient e = true) :
    p.turn isTransient describe operation (.going x)
      = .going ⟨x.counter + 1, (operation x.state).2,
          x.log ++ [p.retrying describe (x.counter + 1).toNat e]⟩ := by
  rw [turn]
  rcases hx : operation x.state with ⟨r, y⟩
  rw [hx] at he
  have hr : r = .error e := he
  subst hr
  simp [hlt, htransient]

/-- The retries told of some failures, numbered from a number on. -/
def told (first : Nat) (es : List ε) : List Event :=
  (es.zipIdx first).map (fun e => p.retrying describe e.2 e.1)

@[simp] theorem told_nil (first : Nat) : p.told describe first [] = [] := rfl

theorem told_cons (first : Nat) (e : ε) (es : List ε) :
    p.told describe first (e :: es)
      = p.retrying describe first e :: p.told describe (first + 1) es := by
  rw [told, List.zipIdx_cons]
  rfl

theorem length_told (first : Nat) (es : List ε) :
    (p.told describe first es).length = es.length := by
  rw [told, List.length_map, List.length_zipIdx]

theorem getElem?_told (first j : Nat) (es : List ε) :
    (p.told describe first es)[j]? = es[j]?.map (p.retrying describe (first + j)) := by
  rw [told, List.getElem?_map, List.getElem?_zipIdx, Option.map_map]
  rfl

theorem take_told (first n : Nat) (es : List ε) :
    (p.told describe first es).take n = p.told describe first (es.take n) := by
  apply List.ext_getElem?
  intro j
  rw [List.getElem?_take, getElem?_told, getElem?_told, List.getElem?_take]
  split <;> rfl

/-- The loop after `i` failures were passed over. -/
abbrev Pause.at (i : Nat) (y : σ) (log : List Event) : Pause σ := ⟨UInt32.ofNat i, y, log⟩

/-- The turns of a loop that has passed over `i` failures come to what a run leaves behind: they
pass over its failures, one each, and one more turn ends the loop. -/
structure TurnsInto (i : Nat) (y : σ) (log : List Event) (r : Attempts ε α σ) : Prop where
  going : ∀ n ≤ r.retries.length,
    (p.turn isTransient describe operation)^[n] (.going (.at i y log))
      = .going (.at (i + n) (before operation n y)
          (log ++ p.told describe (i + 1) (r.retries.take n)))
  ended : (p.turn isTransient describe operation)^[r.retries.length + 1] (.going (.at i y log))
    = .ended r.result (.at (i + r.retries.length) r.state
        (log ++ p.told describe (i + 1) r.retries))

/-- A loop whose first turn ends it. -/
theorem turnsInto_of_ended {i : Nat} {y : σ} {log : List Event}
    (h : p.turn isTransient describe operation (.going (.at i y log))
      = .ended (operation y).1 (.at i (operation y).2 log)) :
    p.TurnsInto isTransient describe operation i y log ⟨(operation y).1, (operation y).2, []⟩ where
  going n hn := by
    have hn0 : n = 0 := Nat.le_zero.1 hn
    simp [hn0]
  ended := by simpa using h

/-- A loop whose first turn passes over a failure. -/
theorem turnsInto_of_going {i : Nat} {y : σ} {log : List Event} {e : ε} {r : Attempts ε α σ}
    (h : p.turn isTransient describe operation (.going (.at i y log))
      = .going (.at (i + 1) (operation y).2 (log ++ [p.retrying describe (i + 1) e])))
    (hr : p.TurnsInto isTransient describe operation (i + 1) (operation y).2
      (log ++ [p.retrying describe (i + 1) e]) r) :
    p.TurnsInto isTransient describe operation i y log { r with retries := e :: r.retries } where
  going n hn := by
    cases n with
    | zero => simp
    | succ n =>
      have hn' : n ≤ r.retries.length := Nat.le_of_succ_le_succ hn
      rw [Function.iterate_succ_apply, h, hr.going n hn', before_succ, List.take_succ_cons,
        told_cons, List.append_assoc, List.singleton_append, Nat.add_right_comm, Nat.add_assoc]
  ended := by
    rw [List.length_cons, Function.iterate_succ_apply, h, hr.ended, told_cons, List.append_assoc,
      List.singleton_append, Nat.add_right_comm, Nat.add_assoc]

/-- Once the turns have ended the loop they come to nothing else. -/
theorem TurnsInto.turns_of_lt {p : RetryPolicy} {isTransient : ε → Bool} {describe : ε → String}
    {operation : σ → Except ε α × σ} {i : Nat} {y : σ} {log : List Event} {r : Attempts ε α σ}
    (h : p.TurnsInto isTransient describe operation i y log r) {n : Nat}
    (hn : r.retries.length < n) :
    (p.turn isTransient describe operation)^[n] (.going (.at i y log))
      = .ended r.result (.at (i + r.retries.length) r.state
        (log ++ p.told describe (i + 1) r.retries)) := by
  obtain ⟨m, rfl⟩ := Nat.exists_eq_add_of_le' (Nat.succ_le_of_lt hn)
  rw [Function.iterate_add_apply, h.ended, turns_ended]

/-- A counter within the budget is the number that it counts to. -/
theorem counter_of_le {n : Nat} (h : n ≤ p.maxRetries.toNat) :
    (UInt32.ofNat n).toNat = n ∧ UInt32.ofNat n ≤ p.maxRetries := by
  have hsize : p.maxRetries.toNat < UInt32.size := p.maxRetries.toNat_lt_size
  have hn : (UInt32.ofNat n).toNat = n := UInt32.toNat_ofNat_of_lt (by omega)
  refine ⟨hn, ?_⟩
  rw [UInt32.le_iff_toNat_le, hn]
  exact h

/-- A counter below the budget has room for one more. -/
theorem ofNat_add_one_of_lt {i : Nat} (h : i < p.maxRetries.toNat) :
    UInt32.ofNat i < p.maxRetries ∧ UInt32.ofNat i + 1 = UInt32.ofNat (i + 1) ∧
      (UInt32.ofNat (i + 1)).toNat = i + 1 := by
  refine ⟨?_, (UInt32.ofNat_add i 1).symm, (p.counter_of_le h).1⟩
  rw [UInt32.lt_iff_toNat_lt, (p.counter_of_le h.le).1]
  exact h

/-- The turns of a loop come to what the attempts that it has left come to. -/
theorem turnsInto_attempt {i left : Nat} (h : i + left = p.maxRetries.toNat) (y : σ)
    (log : List Event) :
    p.TurnsInto isTransient describe operation i y log
      (attempt isTransient operation left y) := by
  -- on the retries left; the counter is what is missing to the budget, so it never overflows
  induction left generalizing i y log with
  | zero =>
    have hmax : UInt32.ofNat i = p.maxRetries := by
      rw [show i = p.maxRetries.toNat from h, UInt32.ofNat_toNat]
    rw [attempt]
    exact p.turnsInto_of_ended isTransient describe operation
      (p.turn_of_exhausted isTransient describe operation hmax)
  | succ left ih =>
    cases hover : passesOver isTransient (operation y).1 with
    | false =>
      rw [attempt_of_not_passesOver isTransient operation hover]
      exact p.turnsInto_of_ended isTransient describe operation
        (p.turn_of_not_passesOver isTransient describe operation hover)
    | true =>
      obtain ⟨e, he, hrun⟩ := attempt_of_passesOver isTransient operation left hover
      have htransient : isTransient e = true := by rwa [he] at hover
      obtain ⟨hlt, hcounter, hnumber⟩ := p.ofNat_add_one_of_lt (i := i) (by omega)
      rw [hrun]
      refine p.turnsInto_of_going isTransient describe operation ?_ (ih (by omega) _ _)
      rw [p.turn_of_passesOver isTransient describe operation hlt he htransient, hcounter, hnumber]

/-- A run is what the turns of a fresh loop come to. -/
theorem turnsInto_run (y : σ) :
    p.TurnsInto isTransient describe operation 0 y [] (p.run isTransient operation y) :=
  p.turnsInto_attempt isTransient describe operation (Nat.zero_add _) y []

end

/-! ### Sequences of outcomes -/

/-- The operation that yields the outcomes of a sequence. Its state is the number of times that it
was run. -/
def script (outcomes : Nat → Except ε α) (n : Nat) : Except ε α × Nat := (outcomes n, n + 1)

theorem before_script (outcomes : Nat → Except ε α) (n i : Nat) :
    before (script outcomes) n i = i + n := by
  induction n generalizing i with
  | zero => rfl
  | succ n ih =>
    rw [before_succ, ih, script]
    exact Nat.add_right_comm i 1 n

theorem outcome_script (outcomes : Nat → Except ε α) (n : Nat) :
    outcome (script outcomes) n 0 = outcomes n := by
  rw [outcome, before_script, Nat.zero_add, script]

/-- The outcomes at which a run ends: a success, a failure that is not to be retried, and whatever
the last attempt yields that the policy allows. -/
inductive IsFinal (p : RetryPolicy) (isTransient : ε → Bool) (outcomes : Nat → Except ε α)
    (n : Nat) : Prop
  | success (a : α) (h : outcomes n = .ok a)
  | refused (e : ε) (h : outcomes n = .error e) (he : isTransient e = false)
  | exhausted (h : n = p.maxRetries.toNat)

theorem isFinal_iff (p : RetryPolicy) (isTransient : ε → Bool) (outcomes : Nat → Except ε α)
    (n : Nat) : p.IsFinal isTransient outcomes n ↔
      passesOver isTransient (outcomes n) = false ∨ n = p.maxRetries.toNat := by
  constructor
  · rintro (⟨a, h⟩ | ⟨e, h, he⟩ | h)
    · exact .inl (by rw [h]; rfl)
    · exact .inl (by rw [h]; exact he)
    · exact .inr h
  · rintro (h | h)
    · rcases hn : outcomes n with e | a
      · rw [hn] at h
        exact .refused e hn h
      · exact .success a hn
    · exact .exhausted h

/-- The number of failures that a run passes over is that of the first outcome that ends it. -/
theorem isLeast_length_retries (p : RetryPolicy) (isTransient : ε → Bool)
    (outcomes : Nat → Except ε α) :
    let r := p.run isTransient (script outcomes) 0
    IsLeast {n | p.IsFinal isTransient outcomes n} r.retries.length ∧
      r.state = r.retries.length + 1 ∧
      r.result = outcomes r.retries.length ∧
      ∀ j < r.retries.length, ∃ e, outcomes j = .error e ∧ r.retries[j]? = some e := by
  intro r
  obtain ⟨k, hk, hover, hend, hresult, hstate, hretries⟩ :=
    attempt_spec isTransient (script outcomes) p.maxRetries.toNat 0
  have hrun : attempt isTransient (script outcomes) p.maxRetries.toNat 0 = r := rfl
  simp only [outcome_script, before_script, hrun] at hover hend hresult hstate hretries
  have hlength : r.retries.length = k := by simpa using congrArg List.length hretries
  rw [hlength]
  refine ⟨⟨?_, ?_⟩, ?_, hresult, ?_⟩
  · refine (p.isFinal_iff isTransient outcomes k).2 ?_
    rcases Nat.lt_or_eq_of_le hk with hlt | heq
    · exact .inl (hend hlt)
    · exact .inr heq
  · intro n hn
    by_contra hlt
    rw [Nat.not_le] at hlt
    rcases (p.isFinal_iff isTransient outcomes n).1 hn with hstop | hmax
    · rw [hover n hlt] at hstop
      cases hstop
    · omega
  · rw [← Nat.zero_add (k + 1)]
    exact hstate
  · intro j hj
    have hget : (r.retries.map Except.error)[j]? = some (outcomes j) := by
      rw [hretries, List.getElem?_map, List.getElem?_range hj]
      rfl
    rw [List.getElem?_map, Option.map_eq_some_iff] at hget
    obtain ⟨e, he, houtcome⟩ := hget
    exact ⟨e, houtcome.symm, he⟩

/-- **A run ends at the first final outcome.** For any budget and any sequence of outcomes there is
a first one that ends a run, number `k`. The operation is run `k + 1` times, and the run yields that
outcome as it is. It tells of the `k` failures before it, each with its number and the budget. In
the loop `n ≤ k` turns are as many retries, and the counter is their number, at most the budget;
after any more turns the loop has ended. -/
theorem run_ends_at_first_final (p : RetryPolicy) (isTransient : ε → Bool) (describe : ε → String)
    (outcomes : Nat → Except ε α) :
    let r := p.run isTransient (script outcomes) 0
    let told := p.events describe r.retries
    let turns := fun n => (p.turn isTransient describe (script outcomes))^[n] (.going ⟨0, 0, []⟩)
    ∃ k, IsLeast {n | p.IsFinal isTransient outcomes n} k ∧
      r.state = k + 1 ∧
      r.result = outcomes k ∧
      told.length = k ∧
      (∀ j < k, ∃ e, outcomes j = .error e ∧
        told[j]? = some (.retrying (j + 1) p.maxRetries.toNat (describe e))) ∧
      (∀ n ≤ k, ∃ c : UInt32, turns n = .going ⟨c, n, told.take n⟩ ∧
        c.toNat = n ∧ c ≤ p.maxRetries) ∧
      (∀ n > k, ∃ c : UInt32, turns n = .ended (outcomes k) ⟨c, k + 1, told⟩ ∧
        c.toNat = k ∧ c ≤ p.maxRetries) := by
  intro r told turns
  obtain ⟨hleast, hstate, hresult, hretries⟩ := p.isLeast_length_retries isTransient outcomes
  have hturns := p.turnsInto_run isTransient describe (script outcomes) 0
  have htold : told = p.told describe 1 r.retries := rfl
  have hbudget : r.retries.length ≤ p.maxRetries.toNat := hleast.2 (.exhausted rfl)
  -- what is told, one by one, then the turns up to the last retry and those behind it
  refine ⟨r.retries.length, hleast, hstate, hresult, ?_, ?_, ?_, ?_⟩
  · rw [htold, length_told]
  · intro j hj
    obtain ⟨e, houtcome, he⟩ := hretries j hj
    refine ⟨e, houtcome, ?_⟩
    rw [htold, getElem?_told, he, Nat.add_comm 1 j]
    rfl
  · intro n hn
    refine ⟨UInt32.ofNat n, ?_, p.counter_of_le (hn.trans hbudget)⟩
    have h := hturns.going n hn
    rw [Nat.zero_add, List.nil_append, before_script, Nat.zero_add] at h
    rw [htold, p.take_told describe]
    exact h
  · intro n hn
    refine ⟨UInt32.ofNat r.retries.length, ?_, p.counter_of_le hbudget⟩
    have h := hturns.turns_of_lt hn
    rw [Nat.zero_add, List.nil_append, hstate, hresult] at h
    exact h

end RetryPolicy

end DocQuery
