import DocQuery.Proofs.Server.Clients
import DocQuery.Server.Collection

/-!
# Writes while the primary changes

A write is made again when the reply says that the server is not the primary. How a run of attempts
goes is settled by what the attempts would yield if all of them were made: `RetryPolicy.before` is
the state before an attempt and `RetryPolicy.outcome` is what it yields. `FollowsReplies` says the
same of a write and the replies of a server: a command is sent for each attempt, up to the first
reply that is not passed over, or until the budget is used up, and the last reply is the result.

* `RetryPolicy.attempt_spec`: a run ends with the first attempt that is not passed over, or with the
  last one that is allowed;
* `Asks.exists_commands`, `Asks.exists_outcome`: attempts on a server that is reached take its
  replies one after the other;
* `Reports.passesOver_iff`, `Reports.passesOver_insert_iff`: which replies are passed over. A code
  counts in whatever form it comes, but for an insert only that of a refused command counts;
* `writes_follow_replies`: inserts, updates and removals, with any client;
* `insert_gives_up_on_write_error`: an insert ends where an update and a removal go on.
-/

namespace DocQuery

/-! ### Attempts -/

namespace RetryPolicy

variable {ε α σ : Type} (isTransient : ε → Bool) (operation : σ → Except ε α × σ)

/-- The state before attempt number `n`, counted from zero, if all attempts are made. -/
def before : Nat → σ → σ
  | 0, x => x
  | n + 1, x => before n (operation x).2

/-- What attempt number `n` yields. -/
def outcome (n : Nat) (x : σ) : Except ε α := (operation (before operation n x)).1

/-- Whether a result is passed over while there are attempts left. -/
def passesOver : Except ε α → Bool
  | .ok _ => false
  | .error e => isTransient e

@[simp] theorem before_zero (x : σ) : before operation 0 x = x := rfl

theorem before_succ (n : Nat) (x : σ) :
    before operation (n + 1) x = before operation n (operation x).2 := rfl

/-- The state before an attempt is the one that the attempt before it leaves behind. -/
theorem before_succ_eq (n : Nat) (x : σ) :
    before operation (n + 1) x = (operation (before operation n x)).2 := by
  induction n generalizing x with
  | zero => rfl
  | succ n ih => rw [before_succ, ih, before_succ]

@[simp] theorem outcome_zero (x : σ) : outcome operation 0 x = (operation x).1 := rfl

/-- A result that is not passed over ends a run at once. -/
theorem attempt_of_not_passesOver {left : Nat} {x : σ}
    (h : passesOver isTransient (operation x).1 = false) :
    attempt isTransient operation left x = ⟨(operation x).1, (operation x).2, []⟩ := by
  rcases hx : operation x with ⟨_ | a, y⟩
  · rw [hx] at h
    exact attempt_of_refused isTransient operation hx h
  · exact attempt_of_ok isTransient operation hx

/-- A result that is passed over is followed by a run with one attempt less. -/
theorem attempt_of_passesOver (left : Nat) {x : σ}
    (h : passesOver isTransient (operation x).1 = true) :
    ∃ e, (operation x).1 = .error e ∧
      attempt isTransient operation (left + 1) x
        = { attempt isTransient operation left (operation x).2 with
            retries := e :: (attempt isTransient operation left (operation x).2).retries } := by
  rcases hx : operation x with ⟨e | a, y⟩
  · rw [hx] at h
    have he : isTransient e = true := h
    exact ⟨e, rfl, by simp [attempt, hx, he]⟩
  · rw [hx] at h
    cases h

/-- A run ends with the first attempt that is not passed over, or with the last one that is
allowed. The failures of the attempts before it are those that it tells of. -/
theorem attempt_spec (left : Nat) (x : σ) :
    ∃ k ≤ left,
      (∀ j < k, passesOver isTransient (outcome operation j x) = true) ∧
      (k < left → passesOver isTransient (outcome operation k x) = false) ∧
      (attempt isTransient operation left x).result = outcome operation k x ∧
      (attempt isTransient operation left x).state = before operation (k + 1) x ∧
      (attempt isTransient operation left x).retries.map .error
        = (List.range k).map (fun j => outcome operation j x) := by
  induction left generalizing x with
  | zero => exact ⟨0, Nat.le_refl 0, by simp, by simp, rfl, rfl, rfl⟩
  | succ left ih =>
    cases h : passesOver isTransient (operation x).1 with
    | false =>
      refine ⟨0, Nat.zero_le _, by simp, fun _ => h, ?_⟩
      rw [attempt_of_not_passesOver isTransient operation h]
      exact ⟨rfl, rfl, rfl⟩
    | true =>
      -- the first attempt is passed over, and the run goes on from where it ended
      obtain ⟨e, he, hrun⟩ := attempt_of_passesOver isTransient operation left h
      obtain ⟨k, hk, hover, hend, hresult, hstate, hretries⟩ := ih (operation x).2
      refine ⟨k + 1, by omega, ?_, ?_, ?_⟩
      · intro j hj
        cases j with
        | zero => exact h
        | succ j => exact hover j (by omega)
      · intro hlt
        exact hend (by omega)
      · rw [hrun]
        refine ⟨hresult, hstate, ?_⟩
        rw [List.map_cons, hretries, List.range_succ_eq_map, List.map_cons, List.map_map,
          outcome_zero, he]
        rfl

end RetryPolicy

/-! ### Replies -/

/-- The code of the error that a reply reports, in whatever form. -/
def Reply.code? : Reply → Option Int32
  | .commandError code | .writeError code | .writeConcernError code => some code
  | _ => none

/-- A reply that says that the server is not the primary. -/
def Reply.SaysNotPrimary (r : Reply) : Prop :=
  r.code? = some 10107 ∨ r.code? = some 13435 ∨ r.code? = some 10058

/-- A reply that refuses the whole command because the server is not the primary. -/
def Reply.RefusesAsNotPrimary (r : Reply) : Prop :=
  r.SaysNotPrimary ∧ ∃ code, r = .commandError code

theorem isNotPrimaryCode_iff {code : Int32} :
    isNotPrimaryCode code = true ↔ code = 10107 ∨ code = 13435 ∨ code = 10058 := by
  simp [isNotPrimaryCode, notPrimaryCodes]

theorem Reply.not_saysNotPrimary {r : Reply} (h : ¬ r.IsAboutWrite) : ¬ r.SaysNotPrimary := by
  cases r with
  | batch docs => simp [SaysNotPrimary, code?]
  | values vs => simp [SaysNotPrimary, code?]
  | _ => exact absurd trivial h

/-- A result that is at most called malformed is not passed over. -/
theorem RetryPolicy.passesOver_of_malformed {α : Type} {result : Except Failure α}
    (h : ∀ f, result = .error f → f = .malformedReply) :
    passesOver Failure.isNotPrimary result = false := by
  cases result with
  | ok a => rfl
  | error f => rw [h f rfl]; rfl

namespace Reports

variable {α : Type} {Tells : Nat → α → Prop} {r : Reply} {result : Except Failure α}

/-- A write that tells write errors and write concern errors as such passes over every reply that
says that the server is not the primary, in whatever form. -/
theorem passesOver_iff (h : Reports .write .writeConcern Tells r result) :
    RetryPolicy.passesOver Failure.isNotPrimary result = true ↔ r.SaysNotPrimary := by
  cases h with
  | done h => simp [RetryPolicy.passesOver, Reply.SaysNotPrimary, Reply.code?]
  | commandError code | writeError code | writeConcernError code =>
    simp only [Reply.SaysNotPrimary, Reply.code?, Option.some.injEq]
    exact isNotPrimaryCode_iff
  | other hr hf =>
    simp [RetryPolicy.passesOver_of_malformed hf, Reply.not_saysNotPrimary hr]

/-- An insert passes over such a reply only if it refuses the whole command. -/
theorem passesOver_insert_iff (h : Reports .insertMany .insertMany Tells r result) :
    RetryPolicy.passesOver Failure.isNotPrimary result = true ↔ r.RefusesAsNotPrimary := by
  cases h with
  | done h => simp [RetryPolicy.passesOver, Reply.RefusesAsNotPrimary]
  | commandError code =>
    simp only [Reply.RefusesAsNotPrimary, Reply.SaysNotPrimary, Reply.code?, Option.some.injEq]
    exact isNotPrimaryCode_iff.trans ⟨fun hcode => ⟨hcode, code, rfl⟩, And.left⟩
  | writeError code | writeConcernError code =>
    simp [RetryPolicy.passesOver, Failure.isNotPrimary, Reply.RefusesAsNotPrimary]
  | other hr hf =>
    simp [RetryPolicy.passesOver_of_malformed hf, Reply.RefusesAsNotPrimary,
      Reply.not_saysNotPrimary hr]

/-- What a call yields may be read in another way. -/
theorem map {β : Type} {onWrite onConcern : Int32 → Failure} {Tells' : Nat → β → Prop} (f : α → β)
    (h : Reports onWrite onConcern Tells r result) (htells : ∀ n a, Tells n a → Tells' n (f a)) :
    Reports onWrite onConcern Tells' r (result.map f) := by
  cases h with
  | done h => exact .done (htells _ _ h)
  | commandError code => exact .commandError code
  | writeError code => exact .writeError code
  | writeConcernError code => exact .writeConcernError code
  | other hr hf =>
    refine .other hr ?_
    rintro g hg
    cases result with
    | ok a => cases hg
    | error e =>
      cases hg
      exact hf g rfl

end Reports

/-! ### Attempts on a server -/

namespace Asks

variable {σ α : Type} {server : σ → Server} {call : Call σ α} {Is : Command → Prop}
  {Answers : Command → Reply → Except Failure α → Prop}

/-- One more attempt sends one more command, and yields what goes with the next reply. -/
theorem exists_next (h : Asks server call Is Answers) {x : σ} (hx : (server x).reachable = true)
    {n : Nat} {cs : List Command} (hlength : cs.length = n) (hcs : ∀ c ∈ cs, Is c)
    (hserver : server (RetryPolicy.before call n x) = (server x).after cs) :
    ∃ c, (∀ d ∈ cs ++ [c], Is d) ∧
      server (RetryPolicy.before call (n + 1) x) = (server x).after (cs ++ [c]) ∧
      Answers c ((server x).reply n) (RetryPolicy.outcome call n x) := by
  have hreach : (server (RetryPolicy.before call n x)).reachable = true := by
    rw [hserver]
    exact hx
  obtain ⟨c, hc, hafter, hanswer⟩ := h _ hreach
  refine ⟨c, ?_, ?_, ?_⟩
  · simp only [List.forall_mem_append, List.forall_mem_singleton]
    exact ⟨hcs, hc⟩
  · rw [RetryPolicy.before_succ_eq, hafter, hserver, Server.after_after]
  · rw [hserver, Server.reply_after, hlength] at hanswer
    exact hanswer

/-- Before an attempt the server has been sent a command for each attempt before it. -/
theorem exists_commands (h : Asks server call Is Answers) {x : σ}
    (hx : (server x).reachable = true) (n : Nat) :
    ∃ cs : List Command, cs.length = n ∧ (∀ c ∈ cs, Is c) ∧
      server (RetryPolicy.before call n x) = (server x).after cs := by
  induction n with
  | zero => exact ⟨[], rfl, by simp, by simp⟩
  | succ n ih =>
    obtain ⟨cs, hlength, hcs, hserver⟩ := ih
    obtain ⟨c, hall, hafter, -⟩ := h.exists_next hx hlength hcs hserver
    exact ⟨cs ++ [c], by simp [hlength], hall, hafter⟩

/-- An attempt sends one more command, and yields what goes with the reply with its number. -/
theorem exists_outcome (h : Asks server call Is Answers) {x : σ}
    (hx : (server x).reachable = true) (n : Nat) :
    ∃ (cs : List Command) (c : Command), cs.length = n ∧ (∀ d ∈ cs ++ [c], Is d) ∧
      server (RetryPolicy.before call (n + 1) x) = (server x).after (cs ++ [c]) ∧
      Answers c ((server x).reply n) (RetryPolicy.outcome call n x) := by
  obtain ⟨cs, hlength, hcs, hserver⟩ := h.exists_commands hx n
  obtain ⟨c, hnext⟩ := h.exists_next hx hlength hcs hserver
  exact ⟨cs, c, hlength, hnext⟩

end Asks

/-! ### Writes -/

section

variable {σ : Type} [Client σ] (server : σ → Server)

/-- A write that follows the replies of the server: it sends a command of its kind for each attempt,
up to the first reply that is not passed over, but no more often than the policy allows. Its result
goes with the last command and the reply to it, failures in the words of the client. -/
def FollowsReplies {α : Type} (p : RetryPolicy) (IsPassedOver : Reply → Prop)
    (Is : Command → Prop) (Answers : Command → Reply → Except Failure α → Prop)
    (write : σ → Response α σ) : Prop :=
  ∀ x, (server x).reachable = true →
    ∃ (passed : List Command) (last : Command) (result : Except Failure α),
      passed.length ≤ p.maxRetries.toNat ∧
      (∀ j < passed.length, IsPassedOver ((server x).reply j)) ∧
      (passed.length < p.maxRetries.toNat → ¬ IsPassedOver ((server x).reply passed.length)) ∧
      (∀ c ∈ passed ++ [last], Is c) ∧
      server (write x).server = (server x).after (passed ++ [last]) ∧
      Answers last ((server x).reply passed.length) result ∧
      (write x).result = result.mapError (fun f => .reported .backend (Client.describe σ f))

variable {server} {α : Type} {p : RetryPolicy} {IsPassedOver : Reply → Prop} {Is : Command → Prop}
  {Answers : Command → Reply → Except Failure α → Prop}

/-- A write follows the replies if the results of its call are passed over as its replies are. -/
theorem followsReplies_ofWrite {call : Call σ α} (h : Asks server call Is Answers)
    (hover : ∀ c r result, Answers c r result →
      (RetryPolicy.passesOver Failure.isNotPrimary result = true ↔ IsPassedOver r))
    (log : List Event) :
    FollowsReplies server p IsPassedOver Is Answers (Response.ofWrite p call log) := by
  intro x hx
  obtain ⟨k, hk, hpassed, hend, hresult, hstate, -⟩ :=
    RetryPolicy.attempt_spec Failure.isNotPrimary call p.maxRetries.toNat x
  obtain ⟨passed, last, rfl, his, hserver, hanswer⟩ := h.exists_outcome hx k
  refine ⟨passed, last, _, hk, ?_, ?_, his, ?_, hanswer, ?_⟩
  · intro j hj
    obtain ⟨_, c, -, -, -, hj'⟩ := h.exists_outcome hx j
    exact (hover c _ _ hj').1 (hpassed j hj)
  · intro hlt hsays
    have hpass := (hover last _ _ hanswer).2 hsays
    rw [hend hlt] at hpass
    cases hpass
  · rw [← hserver, ← hstate]
    rfl
  · rw [← hresult]
    rfl

/-- The result of a write may be read in another way. -/
theorem FollowsReplies.map {β : Type} {Answers' : Command → Reply → Except Failure β → Prop}
    {write : σ → Response α σ} (h : FollowsReplies server p IsPassedOver Is Answers write)
    (f : α → β)
    (hanswers : ∀ c r result, Is c → Answers c r result → Answers' c r (result.map f)) :
    FollowsReplies server p IsPassedOver Is Answers' (fun x => (write x).map f) := by
  intro x hx
  obtain ⟨passed, last, result, hk, hpassed, hend, his, hserver, hanswer, hresult⟩ := h x hx
  refine ⟨passed, last, result.map f, hk, hpassed, hend, his, hserver, ?_, ?_⟩
  · exact hanswers last _ _ (his last (by simp)) hanswer
  · have hmap : ((write x).map f).result = (write x).result.map f := rfl
    rw [hmap, hresult]
    cases result <;> rfl

end

/-! ### Inserts, updates and removals -/

/-- What an insert yields: the identifiers of the documents that were sent, one by one. -/
def InsertYields (w : Option WriteConcern) (c : Command) (r : Reply)
    (result : Except Failure (List Value)) : Prop :=
  ∃ sent, c = .insert sent w ∧
    Reports .insertMany .insertMany
      (fun _ ids => ids.map some = sent.map (fun d => OrderedMap.get? d "_id")) r result

/-- The identifiers that a call yields in some order are yielded in the order of the documents. -/
theorem InsertYields.of_inserted {ds : List Document} {w : Option WriteConcern} {c : Command}
    {r : Reply} {result : Except Failure InsertedIds} (hc : c.IsInsertOf ds w)
    (h : ∃ sent, c = .insert sent w ∧
      Reports .insertMany .insertMany (fun _ ids => ids.AreOf sent) r result) :
    InsertYields w c r (result.map InsertedIds.inOrder) := by
  obtain ⟨sent, rfl, hreports⟩ := h
  obtain ⟨_, heq, hsent⟩ := hc
  cases heq
  refine ⟨sent, rfl, hreports.map InsertedIds.inOrder ?_⟩
  intro _ ids hids
  exact InsertedIds.map_some_inOrder hids (Identifies.forall_isSome hsent)

/-- **Writes follow the replies of the server.** A write that has something to say, and that the
client sends as one command when it is called, is sent once for each attempt as long as the replies
say that the server is not the primary and the policy of the collection allows it, and its result is
that of the last reply. Updates and removals look at the code of a reply in whatever form it comes.
Inserts look at it only where the whole command is refused: a write error and a write concern error
end them, whatever their codes are. -/
theorem writes_follow_replies {σ : Type} [Client σ] (server : σ → Server) (c : Collection)
    (t : Settings) :
    (∀ (documents : List Document) (q : Where), documents ≠ [] →
      let w := q.options.writeConcern t
      Client.SendsInsert σ server documents w →
        FollowsReplies server c.policy Reply.RefusesAsNotPrimary (Command.IsInsertOf documents w)
          (InsertYields w) (c.insert documents q t)) ∧
    (∀ q : Update, q.directives.update ≠ [] →
      let w := q.options.writeConcern t
      let filter := q.filter.render
      let u := q.directives.update
      let multiple := q.directives.multiple
      let upsert := q.directives.upsert
      Client.SendsUpdate σ server filter u multiple upsert w →
        FollowsReplies server c.policy Reply.SaysNotPrimary
          (· = .update filter u multiple upsert w) CountYields (c.update q t)) ∧
    (∀ q : Remove,
      let w := q.options.writeConcern t
      let filter := q.filter.render
      let one := q.directives.justOne
      Client.SendsDelete σ server filter one w →
        FollowsReplies server c.policy Reply.SaysNotPrimary (· = .delete filter one w)
          CountYields (c.remove q t)) := by
  refine ⟨?insert, ?update, ?remove⟩
  case insert =>
    intro documents q hne w hsends x hx
    rw [Collection.insert, if_neg (by simpa using hne)]
    have hwrite := fun log => followsReplies_ofWrite (p := c.policy) hsends
      (fun _ _ _ ⟨_, _, h⟩ => h.passesOver_insert_iff) log
    exact (hwrite _).map InsertedIds.inOrder (fun _ _ _ => InsertYields.of_inserted) x hx
  case update =>
    intro q hne w filter u multiple upsert hsends x hx
    have hsome : ¬ q.directives.update.isEmpty = true := by simpa using hne
    rw [Collection.update, if_neg hsome]
    exact followsReplies_ofWrite hsends (fun _ _ _ h => h.passesOver_iff) _ x hx
  case remove =>
    intro q w filter one hsends x hx
    exact followsReplies_ofWrite hsends (fun _ _ _ h => h.passesOver_iff) _ x hx

/-- A scripted server, on which a document without an identifier is inserted, a field is updated and
all documents are removed. -/
theorem writes_follow_replies_users :
    let users : Collection := { database := "db", name := "users", policy := ⟨2⟩ }
    let d : Document := [("x", .int32 1)]
    let q : Update := { directives := { changes := [("x", .set, .null)] } }
    let u : Document := [("$set", .document [("x", .null)])]
    ([d] ≠ [] ∧ Client.SendsInsert Server id [d] none ∧
        FollowsReplies id ⟨2⟩ Reply.RefusesAsNotPrimary (Command.IsInsertOf [d] none)
          (InsertYields none) (users.insert [d] { directives := () } {})) ∧
      (q.directives.update ≠ [] ∧ Client.SendsUpdate Server id [] u true false none ∧
        FollowsReplies id ⟨2⟩ Reply.SaysNotPrimary (· = .update [] u true false none) CountYields
          (users.update q {})) ∧
      Client.SendsDelete Server id [] false none ∧
        FollowsReplies id ⟨2⟩ Reply.SaysNotPrimary (· = .delete [] false none) CountYields
          (users.remove Remove.empty {}) := by
  intro users d q u
  have hd : [d] ≠ [] := List.cons_ne_nil d []
  have hq : q.directives.update ≠ [] := by decide
  have hinsert := Server.sendsInsert [d] none
  have hupdate := Server.sendsUpdate [] u true false none
  have hdelete := Server.sendsDelete [] false none
  obtain ⟨insert, update, remove⟩ := writes_follow_replies id users {}
  exact ⟨⟨hd, hinsert, insert [d] { directives := () } hd hinsert⟩,
    ⟨hq, hupdate, update q hq hupdate⟩, hdelete, remove Remove.empty hdelete⟩

/-- An insert does not follow the replies as updates and removals do: a write error that says that
the server is not the primary ends it at once, where a removal tries again and succeeds. -/
theorem insert_gives_up_on_write_error :
    let users : Collection := { database := "db", name := "users" }
    let d : Document := [("_id", .int32 1)]
    let q : Where := { directives := () }
    let s : Server := { reachable := true, replies := [.writeError 10107, .done 1] }
    ¬ FollowsReplies id users.policy Reply.SaysNotPrimary (Command.IsInsertOf [d] none)
        (InsertYields none) (users.insert [d] q {}) ∧
      (users.insert [d] q {} s).result
        = .error (.reported .backend "insert failed with code 10107") ∧
      (users.insert [d] q {} s).server.sent = [.insert [d] none] ∧
      (users.remove Remove.empty {} s).result = .ok 1 ∧
      (users.remove Remove.empty {} s).server.sent = [.delete [] false none, .delete [] false none]
    := by
  intro users d q s
  refine ⟨?_, rfl, rfl, rfl, rfl⟩
  intro h
  obtain ⟨passed, last, _, -, -, hend, -, hserver, -, -⟩ := h s rfl
  have hsent : (users.insert [d] q {} s).server.sent.length = 1 := rfl
  have hpassed : passed.length = 0 := by
    have hlength := congrArg (fun s : Server => s.sent.length) hserver
    simpa [hsent, s] using hlength
  rw [hpassed] at hend
  exact hend (by decide) (.inl rfl)

end DocQuery
