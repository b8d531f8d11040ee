import Mathlib.Algebra.Order.Ring.Int
import DocQuery.Query.Find
import DocQuery.Query.Remove
import DocQuery.Query.Update

/-!
# Timeouts

A span of time is kept as its whole milliseconds in a word of sixty-four bits, and is reported as
the same word with a sign. Seconds alone fill a word, so the milliseconds of long spans come out
too small, and those of spans half as long are reported below zero.

* `Duration.totalMillis_mono`, `Duration.ofMillis_le_iff`: spans and their milliseconds;
* `Duration.toNat_millis`, `Duration.toInt_reported`: what is kept of a span and what is reported;
* `Duration.reported_nonneg_iff`, `Duration.reported_mono_iff`, `Duration.millis_mono_iff`: up to
  which spans these are in order;
* `timeouts_ordered_iff`: the timeouts of queries of all kinds.
-/

namespace DocQuery

namespace Duration

/-- A span with less than a second of nanoseconds. -/
def IsNormal (d : Duration) : Prop := d.nanos.toNat < 1000000000

instance (d : Duration) : Decidable d.IsNormal := inferInstanceAs (Decidable (_ < _))

/-- Spans are compared by their seconds and then by their nanoseconds. -/
instance : LE Duration :=
  ⟨fun c d => c.seconds < d.seconds ∨ c.seconds = d.seconds ∧ c.nanos ≤ d.nanos⟩

instance (c d : Duration) : Decidable (c ≤ d) :=
  inferInstanceAs (Decidable (c.seconds < d.seconds ∨ c.seconds = d.seconds ∧ c.nanos ≤ d.nanos))

theorem le_iff {c d : Duration} :
    c ≤ d ↔ c.seconds.toNat < d.seconds.toNat ∨
      c.seconds.toNat = d.seconds.toNat ∧ c.nanos.toNat ≤ d.nanos.toNat := by
  rw [← UInt64.lt_iff_toNat_lt, UInt64.toNat_inj, ← UInt32.le_iff_toNat_le]
  exact Iff.rfl

theorem le_trans {b c d : Duration} (hbc : b ≤ c) (hcd : c ≤ d) : b ≤ d := by
  rw [le_iff] at hbc hcd ⊢
  omega

/-- Longer spans have no fewer milliseconds. -/
theorem totalMillis_mono {c d : Duration} (hc : c.IsNormal) (h : c ≤ d) :
    c.totalMillis ≤ d.totalMillis := by
  rw [le_iff] at h
  rw [IsNormal] at hc
  rw [totalMillis, totalMillis]
  omega

/-- The span of some milliseconds. -/
def ofMillis (m : Nat) : Duration :=
  ⟨UInt64.ofNat (m / 1000), UInt32.ofNat (m % 1000 * 1000000)⟩

theorem toNat_nanos_ofMillis (m : Nat) : (ofMillis m).nanos.toNat = m % 1000 * 1000000 := by
  rw [ofMillis, UInt32.toNat_ofNat', Nat.mod_eq_of_lt]
  omega

theorem isNormal_ofMillis (m : Nat) : (ofMillis m).IsNormal := by
  rw [IsNormal, toNat_nanos_ofMillis]
  omega

variable {m : Nat}

theorem toNat_seconds_ofMillis (hm : m ≤ 2 ^ 64) : (ofMillis m).seconds.toNat = m / 1000 := by
  rw [ofMillis, UInt64.toNat_ofNat', Nat.mod_eq_of_lt]
  omega

theorem totalMillis_ofMillis (hm : m ≤ 2 ^ 64) : (ofMillis m).totalMillis = m := by
  rw [totalMillis, toNat_seconds_ofMillis hm, toNat_nanos_ofMillis]
  omega

/-- A span is as long as some milliseconds if it has as many. -/
theorem ofMillis_le_iff (hm : m ≤ 2 ^ 64) {d : Duration} (hd : d.IsNormal) :
    ofMillis m ≤ d ↔ m ≤ d.totalMillis := by
  rw [le_iff, toNat_seconds_ofMillis hm, toNat_nanos_ofMillis, totalMillis]
  rw [IsNormal] at hd
  omega

theorem ofMillis_le_ofMillis {k : Nat} (hk : k ≤ m) (hm : m ≤ 2 ^ 64) : ofMillis k ≤ ofMillis m := by
  rw [ofMillis_le_iff (Nat.le_trans hk hm) (isNormal_ofMillis m), totalMillis_ofMillis hm]
  exact hk

/-! ### Words -/

/-- What is kept of a span. -/
theorem toNat_millis (d : Duration) : d.millis.toNat = d.totalMillis % 2 ^ 64 := by
  rw [millis, UInt64.toNat_ofNat']

/-- The milliseconds of a span as they are reported. -/
def reported (d : Duration) : Int64 := d.millis.toInt64

theorem toInt_reported (d : Duration) : d.reported.toInt = Int.bmod d.totalMillis (2 ^ 64) := by
  show d.millis.toBitVec.toInt = _
  rw [BitVec.toInt_eq_toNat_bmod]
  show Int.bmod d.millis.toNat (2 ^ 64) = _
  rw [toNat_millis, Int.natCast_emod, ← Int.emod_bmod (d.totalMillis : Int)]

theorem toInt_reported_of_lt {d : Duration} (h : d.totalMillis < 2 ^ 63) :
    d.reported.toInt = d.totalMillis := by
  rw [toInt_reported]
  exact Int.bmod_eq_of_le (by omega) (by omega)

theorem toNat_millis_of_lt {d : Duration} (h : d.totalMillis < 2 ^ 64) :
    d.millis.toNat = d.totalMillis := by
  rw [toNat_millis, Nat.mod_eq_of_lt h]

/-- The first span that is reported below zero. -/
theorem toInt_reported_half : (ofMillis (2 ^ 63)).reported.toInt = -2 ^ 63 := by
  rw [toInt_reported, totalMillis_ofMillis (by decide)]
  decide

/-- The first span of which nothing is kept. -/
theorem toNat_millis_full : (ofMillis (2 ^ 64)).millis.toNat = 0 := by
  rw [toNat_millis, totalMillis_ofMillis (by decide), Nat.mod_self]

variable {d : Duration}

/-- No span up to a span is reported below zero exactly if it has less than 2 ^ 63 milliseconds. -/
theorem reported_nonneg_iff (hd : d.IsNormal) :
    (∀ c : Duration, c.IsNormal → c ≤ d → 0 ≤ c.reported) ↔ d.totalMillis < 2 ^ 63 := by
  constructor
  · intro h
    refine Nat.lt_of_not_le (fun hlong => ?_)
    have hhalf := h (ofMillis (2 ^ 63)) (isNormal_ofMillis _)
      ((ofMillis_le_iff (by decide) hd).2 hlong)
    rw [Int64.le_iff_toInt_le, toInt_reported_half] at hhalf
    exact absurd hhalf (by decide)
  · intro h c hc hcd
    have hcm := totalMillis_mono hc hcd
    rw [Int64.le_iff_toInt_le, toInt_reported_of_lt (Nat.lt_of_le_of_lt hcm h), Int64.toInt_zero]
    omega

/-- The spans up to a span are reported in order under the same condition. -/
theorem reported_mono_iff (hd : d.IsNormal) :
    (∀ b c : Duration, b.IsNormal → c.IsNormal → b ≤ c → c ≤ d → b.reported ≤ c.reported) ↔
      d.totalMillis < 2 ^ 63 := by
  constructor
  · intro h
    refine Nat.lt_of_not_le (fun hlong => ?_)
    have hhalf := h (ofMillis 0) (ofMillis (2 ^ 63)) (isNormal_ofMillis _) (isNormal_ofMillis _)
      (ofMillis_le_ofMillis (by decide) (by decide)) ((ofMillis_le_iff (by decide) hd).2 hlong)
    rw [Int64.le_iff_toInt_le, toInt_reported_half] at hhalf
    exact absurd hhalf (by decide)
  · intro h b c hb hc hbc hcd
    have hbm := totalMillis_mono hb hbc
    have hcm := totalMillis_mono hc hcd
    rw [Int64.le_iff_toInt_le, toInt_reported_of_lt (by omega), toInt_reported_of_lt (by omega)]
    omega

/-- The spans up to a span are kept in order exactly if it has less than 2 ^ 64 milliseconds. -/
theorem millis_mono_iff (hd : d.IsNormal) :
    (∀ b c : Duration, b.IsNormal → c.IsNormal → b ≤ c → c ≤ d → b.millis ≤ c.millis) ↔
      d.totalMillis < 2 ^ 64 := by
  constructor
  · intro h
    refine Nat.lt_of_not_le (fun hlong => ?_)
    have hfull := h (ofMillis 1) (ofMillis (2 ^ 64)) (isNormal_ofMillis _) (isNormal_ofMillis _)
      (ofMillis_le_ofMillis (by decide) (by decide)) ((ofMillis_le_iff (by decide) hd).2 hlong)
    rw [UInt64.le_iff_toNat_le, toNat_millis_full] at hfull
    exact absurd hfull (by decide)
  · intro h b c hb hc hbc hcd
    have hbm := totalMillis_mono hb hbc
    have hcm := totalMillis_mono hc hcd
    rw [UInt64.le_iff_toNat_le, toNat_millis_of_lt (by omega), toNat_millis_of_lt (by omega)]
    exact hbm

end Duration

/-! ### Queries -/

/-- The ways to set the timeout that holds for a query: as its own, or as that of all operations
if it has none of its own. -/
inductive SetsTimeout {κ : Type} (q : Query κ) : (Duration → OptionStep) → Prop
  | own : SetsTimeout q .timeout
  | default (h : q.options.timeout = none) : SetsTimeout q .defaultTimeout

/-- A kind of query keeps a span that was set as the timeout: it is reported among the options of
the query, holds for it, and is how long its writes wait. -/
def KeepsTimeout (κ : Type) [Directives κ] (d : Duration) : Prop :=
  ∀ (q : Query κ) (t : Settings) (set : Duration → OptionStep), SetsTimeout q set →
    let r := (set d).run q t
    OrderedMap.get? (r.state.optionsDocument r.settings) "timeout" = some (.int64 d.reported) ∧
      r.state.options.effectiveTimeout r.settings = d.millis ∧
      ∀ w, r.state.options.writeConcern r.settings = some w → w.timeout = d.millis

/-- The timeout that was set holds. -/
theorem SetsTimeout.effectiveTimeout_run {κ : Type} [Directives κ] {q : Query κ}
    {set : Duration → OptionStep} (h : SetsTimeout q set) (t : Settings) (d : Duration) :
    let r := (set d).run q t
    r.state.options.effectiveTimeout r.settings = d.millis := by
  cases h with
  | own => rfl
  | default h =>
    show q.options.effectiveTimeout ⟨d.millis⟩ = d.millis
    rw [Options.effectiveTimeout, h]
    rfl

/-- The timeout that holds is reported if no directive is reported under the same name. -/
theorem Query.get?_optionsDocument_timeout {κ : Type} [Directives κ] (q : Query κ) (t : Settings)
    (hown : OrderedMap.last? (Directives.document q.directives) "timeout" = none) :
    OrderedMap.get? (q.optionsDocument t) "timeout"
      = some (.int64 (q.options.effectiveTimeout t).toInt64) := by
  rw [Query.optionsDocument, OrderedMap.get?_insertAll, hown]
  rfl

theorem Options.timeout_writeConcern {o : Options} {t : Settings} {w : WriteConcern}
    (h : o.writeConcern t = some w) : w.timeout = o.effectiveTimeout t := by
  rw [writeConcern, Option.ite_none_right_eq_some] at h
  rw [← Option.some.inj h.2]

/-- A kind of query without directives under the name keeps all spans. -/
theorem keepsTimeout_of_last? {κ : Type} [Directives κ]
    (hown : ∀ x : κ, OrderedMap.last? (Directives.document x) "timeout" = none) (d : Duration) :
    KeepsTimeout κ d := by
  intro q t set hset r
  have heffective : r.state.options.effectiveTimeout r.settings = d.millis :=
    hset.effectiveTimeout_run t d
  refine ⟨?_, heffective, fun w hw => ?_⟩
  · rw [Query.get?_optionsDocument_timeout _ _ (hown _), heffective]
    rfl
  · rw [Options.timeout_writeConcern hw, heffective]

/-- **Timeouts are in order up to a bound.** A query of any kind reports and hands on the span that
was set, as its own or for all operations, in words of sixty-four bits: what is handed on is the
rest of its milliseconds by 2 ^ 64, and what is reported is that with a sign. All spans up to a span
are reported from zero on and in order exactly if it has less than 2 ^ 63 milliseconds, and they are
handed on in order exactly if it has less than 2 ^ 64. -/
theorem timeouts_ordered_iff {d : Duration} (hd : d.IsNormal) :
    (KeepsTimeout Unit d ∧ KeepsTimeout FindDirectives d ∧ KeepsTimeout UpdateDirectives d ∧
      KeepsTimeout RemoveDirectives d) ∧
      (∀ (q : Find) (t : Settings), (q.readOptions t).maxTime = q.options.effectiveTimeout t ∧
        (q.readOneOptions t).maxTime = q.options.effectiveTimeout t) ∧
      (d.millis.toNat = d.totalMillis % 2 ^ 64 ∧
        d.reported.toInt = Int.bmod d.totalMillis (2 ^ 64)) ∧
      ((∀ c : Duration, c.IsNormal → c ≤ d → 0 ≤ c.reported) ↔ d.totalMillis < 2 ^ 63) ∧
      ((∀ b c : Duration, b.IsNormal → c.IsNormal → b ≤ c → c ≤ d → b.reported ≤ c.reported) ↔
        d.totalMillis < 2 ^ 63) ∧
      ((∀ b c : Duration, b.IsNormal → c.IsNormal → b ≤ c → c ≤ d → b.millis ≤ c.millis) ↔
        d.totalMillis < 2 ^ 64) := by
  refine ⟨⟨?_, ?_, ?_, ?_⟩, fun q t => ⟨rfl, rfl⟩, ⟨d.toNat_millis, d.toInt_reported⟩,
    Duration.reported_nonneg_iff hd, Duration.reported_mono_iff hd, Duration.millis_mono_iff hd⟩
  · exact keepsTimeout_of_last? (fun _ => rfl) d
  · exact keepsTimeout_of_last? (fun _ => rfl) d
  · exact keepsTimeout_of_last? (fun _ => rfl) d
  · exact keepsTimeout_of_last? (fun _ => rfl) d

/-- The longest span that is reported as it is, as the timeout of all operations. -/
theorem timeouts_ordered_iff_longest :
    let q : Remove := Remove.empty
    let d : Duration := ⟨9223372036854775, 807000000⟩
    let r := (OptionStep.defaultTimeout d).run q {}
    SetsTimeout q .defaultTimeout ∧ d.IsNormal ∧ d.totalMillis < 2 ^ 63 ∧
      OrderedMap.get? (r.state.optionsDocument r.settings) "timeout" = some (.int64 d.reported) ∧
      (⟨1, 0⟩ : Duration).reported ≤ d.reported := by
  intro q d r
  have hset : SetsTimeout q .defaultTimeout := .default rfl
  have hd : d.IsNormal := by decide
  have hshort : d.totalMillis < 2 ^ 63 := by decide
  obtain ⟨⟨-, -, -, hremove⟩, -, -, -, hordered, -⟩ := timeouts_ordered_iff hd
  exact ⟨hset, hd, hshort, (hremove q {} _ hset).1,
    hordered.2 hshort ⟨1, 0⟩ d (by decide) hd (by decide) (by decide)⟩

/-- Of a second and two longer spans, the first of these is reported below zero, and less is handed
to a read for the other than for the second. -/
theorem long_timeout_is_short :
    let short : Duration := ⟨1, 0⟩
    let long : Duration := ⟨9223372036854776, 0⟩
    let longer : Duration := ⟨18446744073709552, 0⟩
    let after (d : Duration) : Find := ((OptionStep.timeout d).run Find.empty {}).state
    (short.IsNormal ∧ long.IsNormal ∧ longer.IsNormal ∧ short ≤ long ∧ long ≤ longer) ∧
      OrderedMap.get? ((after short).optionsDocument {}) "timeout" = some (.int64 1000) ∧
      OrderedMap.get? ((after long).optionsDocument {}) "timeout"
        = some (.int64 (-9223372036854775616)) ∧
      ((after short).readOptions {}).maxTime = 1000 ∧
      ((after longer).readOptions {}).maxTime = 384 := by
  intro short long longer after
  exact ⟨by decide, by decide, by decide, by decide, by decide⟩

end DocQuery
