/-!
# Ordered maps

Entries keyed by text, kept in the order in which their keys were first inserted. Inserting under
a key that is present replaces the value in place, so the position of a key never changes.

* `get?_insert`: reading after an insertion;
* `keys_insert`: an insertion keeps the keys, or appends the new one;
* `nodup_keys_insert`: keys that are distinct stay distinct;
* `get?_insertAll`, `keys_insertAll_nil`: after several insertions a key has the last value that was
  given to it, and the place at which it was first mentioned;
* `KeepsLast`, `keepsLast_insertAll`: the same as a property of a map, which only one map has.
-/

namespace DocQuery

/-- Entries keyed by text, in order of first insertion. -/
abbrev OrderedMap (α : Type) := List (String × α)

namespace OrderedMap

variable {α : Type}

/-- The keys, in order. -/
def keys (m : OrderedMap α) : List String := m.map Prod.fst

/-- The value under a key. -/
def get? : OrderedMap α → String → Option α
  | [], _ => none
  | (k, a) :: m, key => if k = key then some a else get? m key

/-- Whether a key is present. -/
def hasKey (m : OrderedMap α) (key : String) : Bool := (get? m key).isSome

/-- Puts a value under a key: in place when the key is present, at the end otherwise. -/
def insert : OrderedMap α → String → α → OrderedMap α
  | [], key, a => [(key, a)]
  | (k, b) :: m, key, a => if k = key then (k, a) :: m else (k, b) :: insert m key a

/-- Puts several entries, one after the other. -/
def insertAll (m : OrderedMap α) (entries : List (String × α)) : OrderedMap α :=
  entries.foldl (fun m e => insert m e.1 e.2) m

/-- The last value that some entries give to a key. -/
def last? (entries : List (String × α)) (key : String) : Option α := get? entries.reverse key

@[simp] theorem keys_nil : keys ([] : OrderedMap α) = [] := rfl

@[simp] theorem keys_cons (k : String) (a : α) (m : OrderedMap α) :
    keys ((k, a) :: m) = k :: keys m := rfl

@[simp] theorem get?_nil (key : String) : get? ([] : OrderedMap α) key = none := rfl

theorem get?_cons (k key : String) (a : α) (m : OrderedMap α) :
    get? ((k, a) :: m) key = if k = key then some a else get? m key := rfl

/-- A key is present exactly when it has a value. -/
theorem get?_eq_none_iff {m : OrderedMap α} {key : String} : get? m key = none ↔ key ∉ keys m := by
  induction m with
  | nil => simp
  | cons e m ih =>
    obtain ⟨k, a⟩ := e
    by_cases h : k = key
    · simp [get?_cons, h]
    · simp [get?_cons, h, ih, Ne.symm h]

theorem hasKey_iff {m : OrderedMap α} {key : String} : hasKey m key = true ↔ key ∈ keys m := by
  rw [hasKey, Option.isSome_iff_ne_none, ne_eq, get?_eq_none_iff, Classical.not_not]

/-- Reading after an insertion sees the new value under its key and the old ones elsewhere. -/
theorem get?_insert (m : OrderedMap α) (k key : String) (a : α) :
    get? (insert m k a) key = if k = key then some a else get? m key := by
  induction m with
  | nil => rfl
  | cons e m ih =>
    obtain ⟨j, b⟩ := e
    by_cases h : j = k
    · subst h
      by_cases hk : j = key <;> simp [insert, get?_cons, hk]
    · by_cases hj : j = key
      · subst hj; simp [insert, get?_cons, h, Ne.symm h]
      · simp [insert, get?_cons, h, hj, ih]

/-- An insertion keeps the keys when its key is present and appends it otherwise. -/
theorem keys_insert (m : OrderedMap α) (k : String) (a : α) :
    keys (insert m k a) = if k ∈ keys m then keys m else keys m ++ [k] := by
  induction m with
  | nil => rfl
  | cons e m ih =>
    obtain ⟨j, b⟩ := e
    by_cases h : j = k
    · simp [insert, h]
    · by_cases hm : k ∈ keys m <;> simp [insert, h, hm, ih, Ne.symm h]

/-- An insertion under an absent key appends the entry. -/
theorem insert_of_notMem {m : OrderedMap α} {k : String} (a : α) (h : k ∉ keys m) :
    insert m k a = m ++ [(k, a)] := by
  induction m with
  | nil => rfl
  | cons e m ih =>
    obtain ⟨j, b⟩ := e
    simp only [keys_cons, List.mem_cons, not_or] at h
    simp [insert, Ne.symm h.1, ih h.2]

/-- Distinct keys stay distinct. -/
theorem nodup_keys_insert {m : OrderedMap α} (k : String) (a : α) (h : (keys m).Nodup) :
    (keys (insert m k a)).Nodup := by
  rw [keys_insert]
  by_cases hk : k ∈ keys m
  · simpa [hk] using h
  · rw [if_neg hk, List.nodup_append]
    refine ⟨h, by simp, ?_⟩
    rintro x hx y hy rfl
    rw [List.mem_singleton] at hy
    exact hk (hy ▸ hx)

@[simp] theorem insertAll_nil (m : OrderedMap α) : insertAll m [] = m := rfl

@[simp] theorem insertAll_cons (m : OrderedMap α) (k : String) (a : α) (es : List (String × α)) :
    insertAll m ((k, a) :: es) = insertAll (insert m k a) es := rfl

theorem insertAll_append (m : OrderedMap α) (es fs : List (String × α)) :
    insertAll m (es ++ fs) = insertAll (insertAll m es) fs := List.foldl_append

theorem get?_append (m n : OrderedMap α) (key : String) :
    get? (m ++ n) key = (get? m key).or (get? n key) := by
  induction m with
  | nil => rfl
  | cons e m ih =>
    obtain ⟨k, a⟩ := e
    by_cases h : k = key <;> simp [get?_cons, h, ih]

/-- Where keys are distinct, an entry is what is found under its key. -/
theorem get?_eq_some_iff {m : OrderedMap α} (h : (keys m).Nodup) {key : String} {a : α} :
    get? m key = some a ↔ (key, a) ∈ m := by
  induction m with
  | nil => simp
  | cons e m ih =>
    obtain ⟨k, b⟩ := e
    rw [keys_cons, List.nodup_cons] at h
    rw [get?_cons, List.mem_cons, Prod.mk.injEq]
    by_cases hk : k = key
    · subst hk
      have hm : (k, a) ∉ m := fun hm => h.1 (List.mem_map.2 ⟨_, hm, rfl⟩)
      simp [hm, eq_comm]
    · rw [if_neg hk, ih h.2]
      simp [Ne.symm hk]

/-- What is found under a key was put under it. -/
theorem mem_of_get?_eq_some {m : OrderedMap α} {key : String} {a : α} (h : get? m key = some a) :
    (key, a) ∈ m := by
  induction m with
  | nil => cases h
  | cons e m ih =>
    obtain ⟨k, b⟩ := e
    rw [get?_cons] at h
    by_cases hk : k = key
    · rw [if_pos hk, Option.some.injEq] at h
      rw [hk, h]
      exact List.mem_cons_self
    · rw [if_neg hk] at h
      exact List.mem_cons_of_mem _ (ih h)

theorem mem_of_last?_eq_some {es : List (String × α)} {key : String} {a : α}
    (h : last? es key = some a) : (key, a) ∈ es :=
  List.mem_reverse.1 (mem_of_get?_eq_some h)

@[simp] theorem last?_nil (key : String) : last? ([] : List (String × α)) key = none := rfl

theorem last?_cons (k key : String) (a : α) (es : List (String × α)) :
    last? ((k, a) :: es) key = (last? es key).or (if k = key then some a else none) := by
  rw [last?, List.reverse_cons, get?_append, get?_cons, get?_nil, last?]

theorem last?_eq_none_iff {es : List (String × α)} {key : String} :
    last? es key = none ↔ key ∉ keys es := by
  rw [last?, get?_eq_none_iff, keys, List.map_reverse, List.mem_reverse]
  exact Iff.rfl

/-- The last value that is given to a key is one behind which the key is not mentioned. -/
theorem last?_eq_some_iff {es : List (String × α)} {key : String} {a : α} :
    last? es key = some a ↔ ∃ before after, es = before ++ (key, a) :: after ∧ key ∉ keys after := by
  constructor
  · intro h
    induction es with
    | nil => cases h
    | cons e es ih =>
      obtain ⟨k, b⟩ := e
      rw [last?_cons] at h
      cases hlast : last? es key with
      | some c =>
        rw [hlast, Option.some_or, Option.some.injEq] at h
        obtain ⟨before, after, hes, hafter⟩ := ih (hlast.trans (congrArg some h))
        exact ⟨(k, b) :: before, after, by rw [hes, List.cons_append], hafter⟩
      | none =>
        rw [hlast, Option.none_or, Option.ite_none_right_eq_some, Option.some.injEq] at h
        obtain ⟨rfl, rfl⟩ := h
        exact ⟨[], es, rfl, last?_eq_none_iff.1 hlast⟩
  · rintro ⟨before, after, rfl, hafter⟩
    induction before with
    | nil => rw [List.nil_append, last?_cons, last?_eq_none_iff.2 hafter, if_pos rfl, Option.none_or]
    | cons e before ih => rw [List.cons_append, last?_cons, ih, Option.some_or]

/-- After several insertions a key has the last value that was given to it. -/
theorem get?_insertAll (m : OrderedMap α) (es : List (String × α)) (key : String) :
    get? (insertAll m es) key = (last? es key).or (get? m key) := by
  induction es generalizing m with
  | nil => rfl
  | cons e es ih =>
    obtain ⟨k, a⟩ := e
    rw [insertAll_cons, ih, get?_insert, last?_cons, Option.or_assoc]
    by_cases h : k = key <;> simp [h]

/-- Entries that are put into an empty map leave it empty only if there are none. -/
theorem insertAll_nil_eq_nil_iff {es : List (String × α)} : insertAll [] es = [] ↔ es = [] := by
  constructor
  · intro h
    cases es with
    | nil => rfl
    | cons e es =>
      have hfirst : get? (insertAll [] (e :: es)) e.1 = none := by rw [h, get?_nil]
      rw [get?_insertAll, last?_cons, if_pos rfl] at hfirst
      cases hlast : last? es e.1 <;> simp [hlast] at hfirst
  · rintro rfl
    rfl

theorem nodup_keys_insertAll {m : OrderedMap α} (h : (keys m).Nodup) (es : List (String × α)) :
    (keys (insertAll m es)).Nodup := by
  induction es generalizing m with
  | nil => exact h
  | cons e es ih => exact ih (nodup_keys_insert e.1 e.2 h)

/-- The keys after several insertions: those that were there, and then the new ones, each at its
first mention. -/
theorem eraseDups_keys_insertAll (m : OrderedMap α) (es : List (String × α)) :
    (keys (insertAll m es)).eraseDups = (keys m ++ keys es).eraseDups := by
  induction es generalizing m with
  | nil => simp
  | cons e es ih =>
    obtain ⟨k, a⟩ := e
    rw [insertAll_cons, ih, keys_insert, keys_cons]
    by_cases h : k ∈ keys m
    · have hr : (k :: keys es).removeAll (keys m) = (keys es).removeAll (keys m) := by
        simp [List.removeAll, h]
      rw [if_pos h, List.eraseDups_append, List.eraseDups_append, hr]
    · rw [if_neg h, List.append_assoc, List.singleton_append]

/-- A list whose entries are distinct has no entry twice. -/
theorem eraseDups_of_nodup {l : List String} (h : l.Nodup) : l.eraseDups = l := by
  induction l with
  | nil => rfl
  | cons a l ih =>
    rw [List.nodup_cons] at h
    have hf : l.filter (fun b => !b == a) = l := by
      rw [List.filter_eq_self]
      intro b hb
      have hne : b ≠ a := fun he => h.1 (he ▸ hb)
      simpa using hne
    rw [List.eraseDups_cons, hf, ih h.2]

/-- Entries that are put into an empty map stand in the order in which their keys are first
mentioned. -/
theorem keys_insertAll_nil (es : List (String × α)) :
    keys (insertAll [] es) = (keys es).eraseDups := by
  have h : (keys (insertAll [] es)).Nodup := nodup_keys_insertAll (m := []) List.nodup_nil es
  rw [← eraseDups_of_nodup h, eraseDups_keys_insertAll, keys_nil, List.nil_append]

/-- The map with the same keys and every value in another form. -/
def mapValues {β : Type} (f : α → β) (m : OrderedMap α) : OrderedMap β :=
  m.map (fun e => (e.1, f e.2))

theorem keys_mapValues {β : Type} (f : α → β) (m : OrderedMap α) :
    keys (mapValues f m) = keys m := by
  rw [keys, mapValues, List.map_map]
  rfl

theorem get?_mapValues {β : Type} (f : α → β) (m : OrderedMap α) (key : String) :
    get? (mapValues f m) key = (get? m key).map f := by
  induction m with
  | nil => rfl
  | cons e m ih =>
    obtain ⟨k, a⟩ := e
    have htail : get? (mapValues f ((k, a) :: m)) key
        = if k = key then some (f a) else get? (mapValues f m) key := rfl
    rw [htail, ih, get?_cons]
    by_cases h : k = key <;> simp [h]

theorem last?_mapValues {β : Type} (f : α → β) (es : List (String × α)) (key : String) :
    last? (mapValues f es) key = (last? es key).map f := by
  rw [last?, mapValues, ← List.map_reverse]
  exact get?_mapValues f es.reverse key

/-- Maps with the same distinct keys and the same values under them are equal. -/
theorem eq_of_get?_eq {m n : OrderedMap α} (hm : (keys m).Nodup) (hkeys : keys m = keys n)
    (h : ∀ key, get? m key = get? n key) : m = n := by
  induction m generalizing n with
  | nil =>
    cases n with
    | nil => rfl
    | cons e n => cases hkeys
  | cons e m ih =>
    obtain ⟨k, a⟩ := e
    cases n with
    | nil => cases hkeys
    | cons e n =>
      obtain ⟨j, b⟩ := e
      rw [keys_cons, keys_cons, List.cons.injEq] at hkeys
      obtain ⟨rfl, htail⟩ := hkeys
      rw [keys_cons, List.nodup_cons] at hm
      have hab : a = b := by simpa [get?_cons] using h k
      have hrest : ∀ key, get? m key = get? n key := by
        intro key
        by_cases hk : k = key
        · have hn : k ∉ keys n := htail ▸ hm.1
          rw [← hk, get?_eq_none_iff.2 hm.1, get?_eq_none_iff.2 hn]
        · simpa [get?_cons, hk] using h key
      rw [hab, ih hm.2 htail hrest]

/-- A map that keeps the last of several entries for every key, its value in the form `f`, and the
keys in the order in which they are first mentioned. -/
structure KeepsLast {β : Type} (f : α → β) (entries : List (String × α)) (m : OrderedMap β) :
    Prop where
  keys_eq : keys m = (keys entries).eraseDups
  get?_eq : ∀ key, get? m key = (last? entries key).map f

/-- Putting entries into an empty map, one after the other, keeps the last ones. -/
theorem keepsLast_insertAll (entries : List (String × α)) :
    KeepsLast (fun a => a) entries (insertAll [] entries) where
  keys_eq := keys_insertAll_nil entries
  get?_eq key := by rw [get?_insertAll, get?_nil, Option.or_none, Option.map_id']

theorem KeepsLast.mapValues {β γ : Type} {f : α → β} {entries : List (String × α)}
    {m : OrderedMap β} (h : KeepsLast f entries m) (g : β → γ) :
    KeepsLast (fun a => g (f a)) entries (OrderedMap.mapValues g m) where
  keys_eq := by rw [keys_mapValues, h.keys_eq]
  get?_eq key := by rw [get?_mapValues, h.get?_eq, Option.map_map]; rfl

/-- A map that keeps the last of entries in another form keeps the last of the entries. -/
theorem KeepsLast.of_mapValues {β γ : Type} {f : β → γ} {g : α → β} {entries : List (String × α)}
    {m : OrderedMap γ} (h : KeepsLast f (OrderedMap.mapValues g entries) m) :
    KeepsLast (fun a => f (g a)) entries m where
  keys_eq := by rw [h.keys_eq, keys_mapValues]
  get?_eq key := by rw [h.get?_eq, last?_mapValues, Option.map_map]; rfl

/-- Only one map keeps the last of several entries. -/
theorem KeepsLast.unique {β : Type} {f : α → β} {entries : List (String × α)} {m n : OrderedMap β}
    (hm : KeepsLast f entries m) (hn : KeepsLast f entries n) : m = n := by
  have hkeys : keys m = keys n := by rw [hm.keys_eq, hn.keys_eq]
  have hnodup : (keys m).Nodup := by
    rw [hm.keys_eq, ← keys_insertAll_nil]
    exact nodup_keys_insertAll (m := []) List.nodup_nil entries
  refine eq_of_get?_eq hnodup hkeys (fun key => ?_)
  rw [hm.get?_eq, hn.get?_eq]

end OrderedMap

end DocQuery
