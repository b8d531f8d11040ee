import DocQuery.Proofs.Query.OptionReading
import DocQuery.Proofs.Query.Refusal

/-!
# Options of other queries

Each kind of query knows some of the names that are read from options documents: the acknowledgement,
the journal and the timeout are known to all, what is deleted to remove queries, and how much is
changed and how to update queries. What a document gives under the other names changes nothing in
the query. But all names are read before it is asked which of them the query knows, so a wrong value
under a name that only other queries know refuses the document.

* `OptionStep.run_patch`: what an options document does to a query;
* `Query.settle`, `Remove.settle`, `Update.settle`: the queries with what a document gives under the
  names that they know;
* `TakesOptions`: a kind of query takes documents as it would without the names it does not know,
  as far as these are accepted;
* `foreign_options_ignored_iff`: all kinds do.
-/

namespace DocQuery

/-- An options document is refused for its first wrong value, and else gives what it gives. -/
theorem OptionStep.run_patch {κ : Type} [Directives κ] (d : Document) (q : Query κ) (t : Settings) :
    (OptionStep.patch d).run q t = match OptionsPatch.mismatch? d with
      | none => (q.patch (OptionsPatch.given d)).answerOptions t
      | some m => ⟨q, t, .refused (.badQueryOption m)⟩ := by
  rw [OptionStep.run, OptionsPatch.read_eq]
  cases OptionsPatch.mismatch? d <;> rfl

/-! ### What a query knows -/

/-- The names that all queries know. -/
def sharedNames : List String := ["safe", "fsync", "timeout"]

/-- Execution options with what a document gives for them. -/
def Options.settle (o : Options) (d : Document) : Options where
  safe := (OptionsPatch.flag? d "safe").getD o.safe
  fsync := (OptionsPatch.flag? d "fsync").getD o.fsync
  timeout := (OptionsPatch.number? d "timeout").or o.timeout

/-- A query with what a document gives for its execution options. -/
def Query.settle {κ : Type} (d : Document) (q : Query κ) : Query κ :=
  { q with options := q.options.settle d }

/-- A remove query with what a document gives for its options. -/
def Remove.settle (d : Document) (q : Remove) : Remove :=
  { q with
    options := q.options.settle d
    directives := ⟨(OptionsPatch.flag? d "justOne").getD q.directives.justOne⟩ }

/-- An update query with what a document gives for its options. -/
def Update.settle (d : Document) (q : Update) : Update :=
  { q with
    options := q.options.settle d
    directives := { q.directives with
      upsert := (OptionsPatch.flag? d "upsert").getD q.directives.upsert
      multiple := (OptionsPatch.flag? d "multiple").getD q.directives.multiple
      atomic := (OptionsPatch.flag? d "atomic").getD q.directives.atomic } }

/-- How a kind of query that knows some names takes an options document. -/
structure TakesOptions (κ : Type) [Directives κ] (known : List String)
    (settle : Document → Query κ → Query κ) (d : Document) : Prop where
  /-- If the document is accepted it replaces what it gives under the known names. -/
  accepted : ∀ (q : Query κ) (t : Settings), OptionsPatch.mismatch? d = none →
    (OptionStep.patch d).run q t = (settle d q).answerOptions t
  /-- Otherwise it is refused for its first wrong value, and the query stays as it was. -/
  refused : ∀ (q : Query κ) (t : Settings) (m : Mismatch), OptionsPatch.mismatch? d = some m →
    (OptionStep.patch d).run q t = ⟨q, t, .refused (.badQueryOption m)⟩
  /-- Names that no query knows could be left out. -/
  strangers : ∀ (q : Query κ) (t : Settings),
    (OptionStep.patch d).run q t = (OptionStep.patch (OptionsPatch.own OptionsPatch.names d)).run q t
  /-- Names that are not known could be left out if their values are accepted. -/
  foreign : ∀ (q : Query κ) (t : Settings),
    OptionsPatch.mismatch? (OptionsPatch.foreign known d) = none →
      (OptionStep.patch d).run q t = (OptionStep.patch (OptionsPatch.own known d)).run q t
  /-- Without them the query would be the same, and the document refused or not as it is, only if
  their values are accepted, or it is refused anyway. -/
  agrees_iff : ∀ (q : Query κ) (t : Settings),
    ((OptionStep.patch d).run q t).report.isRefused
        = ((OptionStep.patch (OptionsPatch.own known d)).run q t).report.isRefused ∧
      ((OptionStep.patch d).run q t).state
        = ((OptionStep.patch (OptionsPatch.own known d)).run q t).state ↔
      OptionsPatch.mismatch? (OptionsPatch.foreign known d) = none ∨
        OptionsPatch.mismatch? (OptionsPatch.own known d) ≠ none

section

variable {κ : Type} [Directives κ] {settle : Document → Query κ → Query κ} {ns : List String}

/-- Whether a document is refused. -/
theorem OptionStep.isRefused_run_patch (d : Document) (q : Query κ) (t : Settings) :
    ((OptionStep.patch d).run q t).report.isRefused = (OptionsPatch.mismatch? d).isSome := by
  rw [run_patch]
  cases OptionsPatch.mismatch? d <;> rfl

/-- Entries that are accepted can be left out if the query does not look at them. -/
theorem OptionStep.run_own {d : Document}
    (hpatch : ∀ d (q : Query κ), q.patch (OptionsPatch.given d) = settle d q)
    (hown : ∀ d q, settle (OptionsPatch.own ns d) q = settle d q)
    (h : OptionsPatch.mismatch? (OptionsPatch.foreign ns d) = none) (q : Query κ) (t : Settings) :
    (OptionStep.patch d).run q t = (OptionStep.patch (OptionsPatch.own ns d)).run q t := by
  rw [run_patch, run_patch, ← OptionsPatch.mismatch?_of_foreign h, hpatch, hpatch, hown]

/-- What a kind of query has to be for that: it settles what is given under the names that it
knows. -/
theorem takesOptions_of_settle {known : List String} (hknown : known ⊆ OptionsPatch.names)
    (hpatch : ∀ d (q : Query κ), q.patch (OptionsPatch.given d) = settle d q)
    (hown : ∀ ns, known ⊆ ns → ∀ d q, settle (OptionsPatch.own ns d) q = settle d q)
    (d : Document) : TakesOptions κ known settle d where
  accepted q t h := by rw [OptionStep.run_patch, h, hpatch]
  refused q t m h := by rw [OptionStep.run_patch, h]
  strangers q t :=
    OptionStep.run_own hpatch (hown _ hknown) (OptionsPatch.mismatch?_foreign_names d) q t
  foreign q t h := OptionStep.run_own hpatch (hown _ (List.Subset.refl _)) h q t
  agrees_iff q t := by
    rw [OptionStep.isRefused_run_patch, OptionStep.isRefused_run_patch,
      OptionsPatch.isSome_mismatch?_own_iff]
    refine and_iff_left_of_imp ?_
    rintro (hforeign | hrefused)
    · rw [OptionStep.run_own hpatch (hown _ (List.Subset.refl _)) hforeign]
    · obtain ⟨m, hm⟩ := Option.ne_none_iff_exists'.1 hrefused
      have hd : OptionsPatch.mismatch? d ≠ none := fun h =>
        hrefused (OptionsPatch.mismatch?_eq_none_iff_own_foreign.1 h).1
      obtain ⟨m', hm'⟩ := Option.ne_none_iff_exists'.1 hd
      rw [OptionStep.run_patch, OptionStep.run_patch, hm, hm']

end

/-! ### The four kinds -/

theorem Options.patch_given (o : Options) (d : Document) :
    o.patch (OptionsPatch.given d) = o.settle d := by
  rw [patch, settle, Option.orElse_eq_orElse, Option.orElse_eq_or]
  rfl

theorem Options.settle_own {ns : List String} (h : sharedNames ⊆ ns) (o : Options) (d : Document) :
    o.settle (OptionsPatch.own ns d) = o.settle d := by
  have hsafe : "safe" ∈ ns := h (by decide)
  have hfsync : "fsync" ∈ ns := h (by decide)
  have htimeout : "timeout" ∈ ns := h (by decide)
  simp only [settle, OptionsPatch.flag?_own hsafe, OptionsPatch.flag?_own hfsync,
    OptionsPatch.number?_own htimeout]

/-- A query without options of its own takes those of all queries. -/
theorem takesOptions_shared {κ : Type} [Directives κ]
    (hpatch : ∀ (x : κ) (p : OptionsPatch), Directives.patch x p = x) (d : Document) :
    TakesOptions κ sharedNames Query.settle d := by
  refine takesOptions_of_settle (by decide) (fun d q => ?_) (fun ns hns d q => ?_) d
  · rw [Query.patch, hpatch, Options.patch_given]
    rfl
  · rw [Query.settle, Options.settle_own hns]
    rfl

theorem takesOptions_remove (d : Document) :
    TakesOptions RemoveDirectives ("justOne" :: sharedNames) Remove.settle d := by
  refine takesOptions_of_settle (by decide)
    (fun d q => by rw [Query.patch, Options.patch_given]; rfl) (fun ns hns d q => ?_) d
  obtain ⟨hone, hshared⟩ := List.cons_subset.1 hns
  rw [Remove.settle, Options.settle_own hshared, OptionsPatch.flag?_own hone]
  rfl

theorem takesOptions_update (d : Document) :
    TakesOptions UpdateDirectives ("upsert" :: "multiple" :: "atomic" :: sharedNames)
      Update.settle d := by
  refine takesOptions_of_settle (by decide)
    (fun d q => by rw [Query.patch, Options.patch_given]; rfl) (fun ns hns d q => ?_) d
  simp only [List.cons_subset] at hns
  obtain ⟨hupsert, hmultiple, hatomic, hshared⟩ := hns
  rw [Update.settle, Options.settle_own hshared, OptionsPatch.flag?_own hupsert,
    OptionsPatch.flag?_own hmultiple, OptionsPatch.flag?_own hatomic]
  rfl

/-- **Options of other queries are ignored as far as they are accepted.** A document of which each
entry under a name that some query knows is null or of its type gives a query what it says under the
names that the query knows, and changes nothing else in it; any other document is refused for its
first wrong value, and changes nothing. Names that no query knows could be left out. So could those
that only other queries know, unless it is for a wrong value under one of these alone that the
document is refused. -/
theorem foreign_options_ignored_iff (d : Document) :
    (TakesOptions Unit sharedNames Query.settle d ∧
      TakesOptions FindDirectives sharedNames Query.settle d ∧
      TakesOptions RemoveDirectives ("justOne" :: sharedNames) Remove.settle d ∧
      TakesOptions UpdateDirectives ("upsert" :: "multiple" :: "atomic" :: sharedNames)
        Update.settle d) ∧
      (OptionsPatch.mismatch? d = none ↔
        ∀ e ∈ d, e.1 ∈ OptionsPatch.names →
          e.2 = .null ∨
            if e.1 = "timeout" then e.2.count?.isSome = true else e.2.truth?.isSome = true) :=
  ⟨⟨takesOptions_shared (fun _ _ => rfl) d, takesOptions_shared (fun _ _ => rfl) d,
    takesOptions_remove d, takesOptions_update d⟩, OptionsPatch.mismatch?_eq_none_iff⟩

/-- An options document for a remove query, with an option of update queries and one of none. -/
theorem foreign_options_ignored_iff_upsert :
    let d : Document := [("upsert", .bool true), ("justOne", .bool true), ("retry", .string "no"),
      ("timeout", .int32 5), ("safe", .null)]
    let q : Remove := Remove.empty
    let r := (OptionStep.patch d).run q {}
    OptionsPatch.mismatch? d = none ∧
      OptionsPatch.mismatch? (OptionsPatch.foreign ("justOne" :: sharedNames) d) = none ∧
      r.state.directives.justOne = true ∧ r.state.options = ⟨false, false, some 5⟩ ∧
      r = (OptionStep.patch [("justOne", .bool true), ("timeout", .int32 5), ("safe", .null)]).run
        q {} := by
  intro d q r
  obtain ⟨⟨-, -, hremove, -⟩, -⟩ := foreign_options_ignored_iff d
  have haccepted : OptionsPatch.mismatch? d = none := by decide
  have hforeign : OptionsPatch.mismatch? (OptionsPatch.foreign ("justOne" :: sharedNames) d) = none :=
    by decide
  have hrun : r = (Remove.settle d q).answerOptions {} := hremove.accepted q {} haccepted
  refine ⟨haccepted, hforeign, ?_, ?_, hremove.foreign q {} hforeign⟩
  · rw [hrun]
    decide
  · rw [hrun]
    decide

/-- A wrong value for an option of remove queries keeps a find query from waiting for writes, which
it does without that option. -/
theorem foreign_option_refuses :
    let d : Document := [("safe", .bool true), ("justOne", .string "yes")]
    let r := (OptionStep.patch d).run Find.empty {}
    let r' := (OptionStep.patch (OptionsPatch.own sharedNames d)).run Find.empty {}
    OptionsPatch.own sharedNames d = [("safe", .bool true)] ∧
      (r.report.isRefused = true ∧ r.state.options.safe = false) ∧
      r'.report.isRefused = false ∧ r'.state.options.safe = true := by
  intro d r r'
  exact ⟨by decide, ⟨by decide, by decide⟩, by decide, by decide⟩

end DocQuery
