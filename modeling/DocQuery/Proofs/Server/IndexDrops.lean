import DocQuery.Index
import Mathlib.Data.List.Forall2

/-!
# Dropping several indexes

Indexes are dropped one after the other, each by a call of its own, up to the first call that the
target refuses. The calls can be seen on any target that notes them, `IndexTarget.noting`, and how
far they go is settled by what the calls would be answered if all of them were made,
`IndexTarget.answers`.

* `IndexKeys.forall₂_normalize`: keys without short words have the same fields in the same order;
* `IndexTarget.UpToFirstRefusal`, `IndexTarget.upToFirstRefusal_dropEach`: which calls are made,
  what they leave behind, and what comes back;
* `drops_up_to_first_refusal`: the steps on indexes, whatever the target is.
-/

namespace DocQuery

/-! ### Short words -/

namespace IndexKeys

/-- What stands in the place of a direction: the directions that the three words are short for, and
every other value itself. -/
inductive StandsFor : Value → Value → Prop
  | ascending : StandsFor (.string "asc") (.int32 1)
  | descending : StandsFor (.string "desc") (.int32 (-1))
  | places : StandsFor (.string "geo") (.string "2d")
  | other {v : Value} (ha : v ≠ .string "asc") (hd : v ≠ .string "desc") (hg : v ≠ .string "geo") :
    StandsFor v v

theorem standsFor_ofWord (word : String) : StandsFor (.string word) (ofWord word) := by
  by_cases ha : word = "asc"
  · subst ha; exact .ascending
  · by_cases hd : word = "desc"
    · subst hd; exact .descending
    · by_cases hg : word = "geo"
      · subst hg; exact .places
      · rw [ofWord, if_neg ha, if_neg hd, if_neg hg]
        exact .other (by simpa using ha) (by simpa using hd) (by simpa using hg)

/-- A direction without short words stands for the direction. -/
theorem standsFor_direction (v : Value) : StandsFor v (direction v) := by
  cases v with
  | string word => exact standsFor_ofWord word
  | _ => exact .other (by simp) (by simp) (by simp)

/-- Keys without short words have the same fields in the same order. -/
theorem forall₂_normalize (keys : Document) :
    List.Forall₂ (fun e f => e.1 = f.1 ∧ StandsFor e.2 f.2) keys (normalize keys) := by
  rw [normalize, List.forall₂_map_right_iff, List.forall₂_same]
  intro e _
  exact ⟨rfl, standsFor_direction e.2⟩

end IndexKeys

/-! ### Calls -/

namespace IndexTarget

variable {σ : Type} (target : IndexTarget σ)

/-- The target that notes every call before it is answered. -/
def noting : IndexTarget (σ × List IndexCall) where
  create keys options x :=
    let r := target.create keys options x.1
    (r.1, r.2, x.2 ++ [.create keys options])
  drop spec x :=
    let r := target.drop spec x.1
    (r.1, r.2, x.2 ++ [.drop spec])
  dropAll x :=
    let r := target.dropAll x.1
    (r.1, r.2, x.2 ++ [.dropAll])

/-- What the target is left as by calls that drop these indexes, one after the other. -/
def after (specs : List IndexSpec) (x : σ) : σ :=
  specs.foldl (fun y spec => (target.drop spec y).2) x

/-- What such calls are answered, if all of them are made. -/
def answers : List IndexSpec → σ → List (Except Error Unit)
  | [], _ => []
  | spec :: specs, x => (target.drop spec x).1 :: answers specs (target.drop spec x).2

@[simp] theorem after_nil (x : σ) : target.after [] x = x := rfl

@[simp] theorem after_cons (spec : IndexSpec) (specs : List IndexSpec) (x : σ) :
    target.after (spec :: specs) x = target.after specs (target.drop spec x).2 := rfl

/-- Dropping indexes on a target that notes its calls: the calls are those for the first indexes, up
to the first one that is refused, and its refusal comes back; or none is refused, and there is one
call for every index. -/
inductive UpToFirstRefusal (specs : List IndexSpec) (x : σ) (log : List IndexCall) :
    Except Error Unit × σ × List IndexCall → Prop
  | all (h : ∀ a ∈ target.answers specs x, a = .ok ()) :
    UpToFirstRefusal specs x log (.ok (), target.after specs x, log ++ specs.map .drop)
  | refused (k : Nat) (e : Error) (hbefore : ∀ j < k, (target.answers specs x)[j]? = some (.ok ()))
      (hk : (target.answers specs x)[k]? = some (.error e)) :
    UpToFirstRefusal specs x log (.error e, target.after (specs.take (k + 1)) x,
      log ++ (specs.take (k + 1)).map .drop)

variable {target}

/-- A first call that is refused ends the run. -/
theorem UpToFirstRefusal.of_error {spec : IndexSpec} {x y : σ} {e : Error}
    (h : target.drop spec x = (.error e, y)) (specs : List IndexSpec) (log : List IndexCall) :
    target.UpToFirstRefusal (spec :: specs) x log (.error e, y, log ++ [.drop spec]) := by
  have hrefused : target.UpToFirstRefusal (spec :: specs) x log
      (.error e, target.after [spec] x, log ++ [spec].map .drop) :=
    .refused 0 e (by simp) (by simp [answers, h])
  simpa [h] using hrefused

/-- A first call that is carried out is followed by the calls for the other indexes. -/
theorem UpToFirstRefusal.of_ok {spec : IndexSpec} {x y : σ} {specs : List IndexSpec}
    {log : List IndexCall} {r : Except Error Unit × σ × List IndexCall}
    (h : target.drop spec x = (.ok (), y))
    (hr : target.UpToFirstRefusal specs y (log ++ [.drop spec]) r) :
    target.UpToFirstRefusal (spec :: specs) x log r := by
  have hanswers : target.answers (spec :: specs) x = .ok () :: target.answers specs y := by
    rw [answers, h]
  cases hr with
  | all hall =>
    have hwhole : target.UpToFirstRefusal (spec :: specs) x log
        (.ok (), target.after (spec :: specs) x, log ++ (spec :: specs).map .drop) :=
      .all (by rw [hanswers]; exact List.forall_mem_cons.2 ⟨rfl, hall⟩)
    simpa [h] using hwhole
  | refused k e hbefore hk =>
    have hbefore' : ∀ j < k + 1, (target.answers (spec :: specs) x)[j]? = some (.ok ()) := by
      intro j hj
      rw [hanswers]
      cases j with
      | zero => rfl
      | succ j => exact hbefore j (by omega)
    have hwhole : target.UpToFirstRefusal (spec :: specs) x log
        (.error e, target.after ((spec :: specs).take (k + 2)) x,
          log ++ ((spec :: specs).take (k + 2)).map .drop) :=
      .refused (k + 1) e hbefore' (by rw [hanswers]; exact hk)
    simpa [h] using hwhole

variable (target)

/-- Indexes are dropped up to the first refusal. -/
theorem upToFirstRefusal_dropEach (specs : List IndexSpec) (x : σ) (log : List IndexCall) :
    target.UpToFirstRefusal (specs.map IndexSpec.normalize) x log
      (target.noting.dropEach specs (x, log)) := by
  -- the calls behind the first one start from the target that it leaves behind and its log
  induction specs generalizing x log with
  | nil =>
    have hall : target.UpToFirstRefusal [] x log (.ok (), x, log ++ []) := .all (by simp [answers])
    rw [List.append_nil] at hall
    exact hall
  | cons spec specs ih =>
    have hnoted : target.noting.drop spec.normalize (x, log)
        = ((target.drop spec.normalize x).1, (target.drop spec.normalize x).2,
            log ++ [.drop spec.normalize]) := rfl
    rw [dropEach, hnoted, List.map_cons]
    rcases hdrop : target.drop spec.normalize x with ⟨e | ⟨⟩, y⟩
    · exact .of_error hdrop _ log
    · exact .of_ok hdrop (ih y _)

end IndexTarget

/-- **Several indexes are dropped up to the first refusal.** On any target that notes its calls, a
step that drops indexes makes one call for each, in order: names as they are, keys without short
words. The first call that is refused is the last one, and its refusal comes back; if there is none
the step succeeds. A step that creates an index makes one call, with its keys without short words,
and gives back the answer. Keys without short words have the same fields in the same order, and stay
as they are when short words are taken out again. -/
theorem drops_up_to_first_refusal {σ : Type} (target : IndexTarget σ) (x : σ)
    (log : List IndexCall) :
    (∀ specs : List IndexSpec,
      target.UpToFirstRefusal (specs.map IndexSpec.normalize) x log
        ((IndexStep.drop specs).run target.noting (x, log))) ∧
    (∀ name : String, (IndexSpec.name name).normalize = .name name) ∧
    (∀ keys : Document, (IndexSpec.keys keys).normalize = .keys (IndexKeys.normalize keys)) ∧
    (∀ keys options : Document,
      let answer := target.create (IndexKeys.normalize keys) options x
      (IndexStep.create keys options).run target.noting (x, log)
        = (answer.1, answer.2, log ++ [.create (IndexKeys.normalize keys) options])) ∧
    (∀ keys : Document,
      List.Forall₂ (fun e f => e.1 = f.1 ∧ IndexKeys.StandsFor e.2 f.2) keys
        (IndexKeys.normalize keys)) ∧
    ∀ keys : Document, IndexKeys.normalize (IndexKeys.normalize keys) = IndexKeys.normalize keys :=
  ⟨fun specs => target.upToFirstRefusal_dropEach specs x log, fun _ => rfl, fun _ => rfl,
    fun _ _ => rfl, IndexKeys.forall₂_normalize, IndexKeys.normalize_normalize⟩

/-- Of three indexes the second is refused, so the third is not asked for. -/
example :
    let recorder : IndexRecorder := { refuse := fun n => if n = 1 then some .emptyUpdate else none }
    let specs : List IndexSpec := [.name "a_1", .keys [("b", .string "desc")], .name "c_1"]
    let r := (IndexStep.drop specs).run IndexRecorder.target recorder
    r.1 = .error .emptyUpdate ∧
      r.2.calls = [.drop (.name "a_1"), .drop (.keys [("b", .int32 (-1))])] :=
  ⟨rfl, rfl⟩

end DocQuery
