import DocQuery.Proofs.Double.Whole
import DocQuery.Proofs.Server.Clients
import DocQuery.Server.Collection

/-!
# Names of indexes

An index that is given no name is named after its keys, twice: by the client of the database when
the index is created, and by the library when the index is dropped. Both join fields and directions
by underscores, so they name the same index exactly when they show every direction alike. A client
that shows a direction as any other value puts texts between quotes and writes doubles with their
fraction, which the library does not.

* `IndexKeys.nameBy_eq_iff`: names are equal exactly when all directions are shown alike, if a
  direction that is not shown alike cannot be mistaken for another one and what follows it;
* `IndexKeys.apart_of_no_underscore`, `IndexKeys.apart_quoted`: such directions;
* `IndexKeys.shownAlike_double_iff`: which doubles are shown alike;
* `index_names_agree_iff`: when creating and dropping an index by its keys name the same index;
* `index_dropped_by_another_name`: keys for which they do not.
-/

namespace DocQuery

namespace IndexKeys

/-! ### Joined names -/

/-- The name of keys whose directions are shown by `shown`. -/
def nameBy (shown : Value → String) (keys : Document) : String :=
  String.intercalate "_" (keys.map (fun e => e.1 ++ "_" ++ shown e.2))

theorem name_eq_nameBy (keys : Document) : name keys = nameBy directionText keys := rfl

/-- What follows the first direction in a name. -/
def following (shown : Value → String) (keys : Document) : List Char :=
  keys.flatMap (fun e => '_' :: (e.1.toList ++ '_' :: (shown e.2).toList))

theorem following_cons (shown : Value → String) (e : String × Value) (keys : Document) :
    following shown (e :: keys)
      = '_' :: (e.1.toList ++ '_' :: ((shown e.2).toList ++ following shown keys)) := by
  simp [following]

theorem toList_nameBy_cons (shown : Value → String) (e : String × Value) (keys : Document) :
    (nameBy shown (e :: keys)).toList
      = e.1.toList ++ '_' :: ((shown e.2).toList ++ following shown keys) := by
  induction keys generalizing e with
  | nil => simp [nameBy, following]
  | cons e' keys ih =>
    have hcons : nameBy shown (e :: e' :: keys)
        = e.1 ++ "_" ++ shown e.2 ++ "_" ++ nameBy shown (e' :: keys) := by
      simp [nameBy]
    rw [hcons, String.toList_append, ih, following_cons]
    simp

/-- What may follow a direction: nothing, or an underscore and more. -/
def Follows (r : List Char) : Prop := r.head?.all (· == '_')

theorem follows_following (shown : Value → String) (keys : Document) :
    Follows (following shown keys) := by
  cases keys <;> rfl

/-- Texts that are still told apart when other keys follow them. -/
def Apart (a b : List Char) : Prop :=
  ∀ r r', Follows r → Follows r' → a ++ r ≠ b ++ r'

section

variable {f g : Value → String} (h : ∀ v, f v = g v ∨ Apart (f v).toList (g v).toList)

include h

/-- A direction and what follows it are equal only one by one. -/
theorem append_following_eq_iff (v : Value) (keys : Document) :
    (f v).toList ++ following f keys = (g v).toList ++ following g keys
      ↔ f v = g v ∧ following f keys = following g keys := by
  rcases h v with heq | hapart
  · rw [heq, List.append_cancel_left_eq]
    exact ⟨fun hrest => ⟨rfl, hrest⟩, And.right⟩
  · constructor
    · intro hall
      exact absurd hall (hapart _ _ (follows_following f keys) (follows_following g keys))
    · rintro ⟨heq, hfollowing⟩
      rw [heq, hfollowing]

theorem following_eq_iff (keys : Document) :
    following f keys = following g keys ↔ ∀ e ∈ keys, f e.2 = g e.2 := by
  induction keys with
  | nil => simp [following]
  | cons e keys ih =>
    rw [following_cons, following_cons, List.cons_inj_right, List.append_cancel_left_eq,
      List.cons_inj_right, append_following_eq_iff h, ih, List.forall_mem_cons]

/-- Two names are equal exactly when all directions are shown alike. -/
theorem nameBy_eq_iff (keys : Document) :
    nameBy f keys = nameBy g keys ↔ ∀ e ∈ keys, f e.2 = g e.2 := by
  cases keys with
  | nil => simp [nameBy]
  | cons e keys =>
    rw [← String.toList_inj, toList_nameBy_cons, toList_nameBy_cons, List.append_cancel_left_eq,
      List.cons_inj_right, append_following_eq_iff h, following_eq_iff h, List.forall_mem_cons]

end

/-! ### Texts that are told apart -/

/-- A text without underscores is what stands before the first one. -/
theorem takeWhile_append_of_follows {a r : List Char} (ha : '_' ∉ a) (hr : Follows r) :
    (a ++ r).takeWhile (· != '_') = a := by
  have hall : ∀ c ∈ a, (c != '_') = true := by
    intro c hc
    exact bne_iff_ne.2 (fun heq => ha (heq ▸ hc))
  rw [List.takeWhile_append_of_pos hall]
  cases r with
  | nil => simp
  | cons c r =>
    have hc : c = '_' := by simpa [Follows] using hr
    simp [hc]

/-- Different texts without underscores are told apart. -/
theorem apart_of_no_underscore {a b : List Char} (ha : '_' ∉ a) (hb : '_' ∉ b) (hne : a ≠ b) :
    Apart a b := by
  intro r r' hr hr' heq
  apply hne
  rw [← takeWhile_append_of_follows ha hr, heq, takeWhile_append_of_follows hb hr']

/-- A text between quotes is told apart from the text itself, also if there are underscores and
quotes in it. -/
theorem apart_quoted (a : List Char) : Apart ('"' :: (a ++ ['"'])) a := by
  intro r r' _ hr' heq
  rw [List.cons_append, List.append_assoc] at heq
  induction a with
  | nil =>
    cases r' with
    | nil => cases heq
    | cons c r' =>
      have hc : c = '_' := by simpa [Follows] using hr'
      rw [hc] at heq
      cases heq
  | cons c a ih =>
    obtain ⟨rfl, hrest⟩ := List.cons.inj heq
    exact ih hrest

/-! ### Directions -/

theorem no_underscore_int (n : Int) : '_' ∉ (toString n).toList := by
  rw [Int.toString_eq_repr, Int.repr_eq_if]
  split <;> simp [Nat.repr_eq_ofList_toDigits, Nat.underscore_not_in_toDigits]

theorem no_underscore_positional (d : Double.Decimal) : '_' ∉ d.positional.toList := by
  have hdigits : '_' ∉ Nat.toDigits 10 d.digits := Nat.underscore_not_in_toDigits
  rw [Double.Decimal.positional, String.toList_ofList]
  split
  · simp [hdigits]
  · split
    · intro h
      rcases List.mem_append.1 h with h | h
      · exact hdigits (List.mem_of_mem_take h)
      · rcases List.mem_cons.1 h with h | h
        · cases h
        · exact hdigits (List.mem_of_mem_drop h)
    · simp [hdigits]

theorem no_underscore_double (x : Double) : '_' ∉ x.text.toList := by
  rw [Double.text]
  split
  · decide
  · split <;> decide
  · have hdigits := no_underscore_positional
    dsimp only
    split <;> simp [hdigits]

theorem toList_text_string (s : String) :
    (Value.string s).text.toList = '"' :: (s.toList ++ ['"']) := by
  simp [Value.text]

/-- A direction is shown by the library as any other value is, or it is told apart. -/
theorem text_eq_or_apart (v : Value) :
    v.text = directionText v ∨ Apart v.text.toList (directionText v).toList := by
  cases v with
  | string s =>
    right
    rw [toList_text_string]
    exact apart_quoted s.toList
  | double x =>
    by_cases h : x.text = toString x.truncate
    · exact .inl h
    · exact .inr (apart_of_no_underscore (no_underscore_double x) (no_underscore_int _)
        (mt String.toList_inj.1 h))
  | _ => exact .inl rfl

/-- Directions that both names show alike. The words `asc` and `desc` are among them, as they stand
for numbers. -/
def ShownAlike : Value → Prop
  | .string word => word = "asc" ∨ word = "desc"
  | .double x => x.text = toString x.truncate
  | _ => True

/-- A text between quotes is another text. -/
theorem text_string_ne (s : String) : (Value.string s).text ≠ s := by
  intro h
  have hlength := congrArg (fun t => t.toList.length) h
  simp only [toList_text_string, List.length_cons, List.length_append] at hlength
  omega

theorem text_direction_eq_iff (v : Value) :
    (direction v).text = directionText (direction v) ↔ ShownAlike v := by
  cases v with
  | string word =>
    rw [direction, ofWord, ShownAlike]
    by_cases hasc : word = "asc"
    · simp only [hasc, if_true, true_or, iff_true]
      rfl
    · by_cases hdesc : word = "desc"
      · simp only [hdesc, if_neg (show ¬ "desc" = "asc" by decide), if_true, or_true, iff_true]
        rfl
      · simp only [hasc, hdesc, if_false, or_self, iff_false]
        split
        · exact text_string_ne "2d"
        · exact text_string_ne word
  | double x => exact Iff.rfl
  | _ => exact ⟨fun _ => trivial, fun _ => rfl⟩

/-- Among the doubles below `2 ^ 53`, which are those without a positive exponent, the whole ones are
shown alike. -/
theorem shownAlike_double_iff {x : Double}
    (hsmall : ∀ negative m q, x.classify = .finite negative m q → q ≤ 0) :
    ShownAlike (.double x) ↔ x.IsWhole :=
  Double.text_eq_truncate_iff hsmall

/-- Creating and dropping an index by its keys gives it one name if both show every direction
alike, and only then. -/
theorem nameBy_normalize_eq_iff (keys : Document) :
    nameBy Value.text (normalize keys) = name (normalize keys) ↔ ∀ e ∈ keys, ShownAlike e.2 := by
  rw [name_eq_nameBy, nameBy_eq_iff text_eq_or_apart, normalize, List.forall_mem_map]
  exact forall₂_congr (fun e _ => text_direction_eq_iff e.2)

end IndexKeys

/-! ### What is sent -/

/-- The name of the index that a command is about, if `derive` names an index that is given none. -/
def Command.indexName? (derive : Document → String) : Command → Option String
  | .createIndex keys o => some (o.name.getD (derive keys))
  | .dropIndex name => some name
  | _ => none

namespace Collection

variable {σ : Type} [Client σ] {server : σ → Server} (hclient : Client.SendsIndexes σ server)
  (c : Collection) {x : σ} (hx : (server x).reachable = true)

include hclient hx

/-- Creating an index sends its keys without short words. -/
theorem server_create {options : Document} {o : IndexOptions}
    (h : Client.readIndexOptions σ options = .ok o) (keys : Document) :
    server (c.indexes (.create keys options) x).server
      = (server x).after [.createIndex (IndexKeys.normalize keys) o] := by
  have hcreate : (c.indexes (.create keys options) x).server
      = (c.createIndex (IndexKeys.normalize keys) options x).server := rfl
  rw [hcreate, createIndex, h]
  exact hclient.createIndex _ _ x hx

/-- Dropping an index by its keys sends the name of the keys without short words. -/
theorem server_drop_keys (keys : Document) :
    server (c.indexes (.drop [.keys keys]) x).server
      = (server x).after [.dropIndex (IndexKeys.name (IndexKeys.normalize keys))] := by
  have hdrop : (c.indexes (.drop [.keys keys]) x).server
      = (c.dropIndex (.keys (IndexKeys.normalize keys)) x).server := by
    rw [indexes, IndexStep.run, IndexTarget.dropEach_singleton]
    rfl
  rw [hdrop, dropIndex]
  exact hclient.dropIndex _ x hx

end Collection

/-- **When creating and dropping an index by its keys name the same index.** Let a client send the
keys, options and names of indexes as they are handed over, read no name where none is given, and
name such an index after its keys, showing their directions as any other values. Then an index that
is created without a name and dropped by the same keys is dropped by the name that it was given
exactly when all its directions are shown alike: never if one of them is a word other than `asc` and
`desc`, only if its text is that of its integer part for a double, and always otherwise. Doubles
below `2 ^ 53` are shown alike exactly when they are whole. -/
theorem index_names_agree_iff {σ : Type} [Client σ] (server : σ → Server)
    (hclient : Client.SendsIndexes σ server) (hnames : Client.ReadsNames σ) (c : Collection)
    (derive : Document → String) (hderive : ∀ keys, derive keys = IndexKeys.nameBy Value.text keys)
    (keys options : Document) (o : IndexOptions)
    (hread : Client.readIndexOptions σ options = .ok o)
    (hname : ∀ v, ("name", v) ∈ options → v = .null) (x : σ) (hx : (server x).reachable = true) :
    let after := (c.indexes (.create keys options) x).server
    (∃ created dropped : Command, ∃ name name' : String,
      (server after).sent = (server x).sent ++ [created] ∧ created.indexName? derive = some name ∧
      (server (c.indexes (.drop [.keys keys]) after).server).sent
        = (server after).sent ++ [dropped] ∧
      dropped.indexName? derive = some name' ∧
      (name = name' ↔ ∀ e ∈ keys, IndexKeys.ShownAlike e.2)) ∧
    ∀ y : Double, (∀ negative m q, y.classify = .finite negative m q → q ≤ 0) →
      (IndexKeys.ShownAlike (.double y) ↔ y.IsWhole) := by
  intro after
  have hafter : server after = (server x).after [.createIndex (IndexKeys.normalize keys) o] :=
    c.server_create hclient hx hread keys
  have hreach : (server after).reachable = true := by
    rw [hafter]
    exact hx
  refine ⟨⟨.createIndex (IndexKeys.normalize keys) o,
    .dropIndex (IndexKeys.name (IndexKeys.normalize keys)), _, _, ?_, rfl, ?_, rfl, ?_⟩, ?_⟩
  · rw [hafter, Server.sent_after]
  · rw [c.server_drop_keys hclient hreach keys, Server.sent_after]
  · rw [hnames options o hread hname, Option.getD_none, hderive]
    exact IndexKeys.nameBy_normalize_eq_iff keys
  · exact fun _ => IndexKeys.shownAlike_double_iff

/-- An index of two fields, one of them with a whole double for its direction. -/
theorem index_names_agree_whole :
    let users : Collection := { database := "db", name := "users" }
    let derive := IndexKeys.nameBy Value.text
    let keys : Document := [("a", .string "desc"), ("b", .double ⟨0x4000000000000000⟩)]
    let options : Document := [("unique", .bool true)]
    let s : Server := { reachable := true }
    let after := (users.indexes (.create keys options) s).server
    (Client.SendsIndexes Server id ∧ Client.ReadsNames Server ∧
      (∀ d, derive d = IndexKeys.nameBy Value.text d) ∧
      Client.readIndexOptions Server options = .ok { others := options } ∧
      (∀ v, ("name", v) ∈ options → v = .null) ∧ s.reachable = true) ∧
    ∃ created dropped : Command, ∃ name : String,
      after.sent = [created] ∧ created.indexName? derive = some name ∧
      (users.indexes (.drop [.keys keys]) after).server.sent = [created, dropped] ∧
      dropped.indexName? derive = some name := by
  intro users derive keys options s after
  have hserver : Client.SendsIndexes Server id := Server.sendsIndexes
  have hnames : Client.ReadsNames Server := Server.readsNames
  have hderive : ∀ d, derive d = IndexKeys.nameBy Value.text d := fun _ => rfl
  have hread : Client.readIndexOptions Server options = .ok { others := options } := rfl
  have hname : ∀ v, ("name", v) ∈ options → v = .null := by simp [options]
  have hwhole : Double.IsWhole ⟨0x4000000000000000⟩ :=
    ⟨false, 2, 51, by decide, by decide, by decide⟩
  have halike : ∀ e ∈ keys, IndexKeys.ShownAlike e.2 := by
    simp only [keys, List.forall_mem_cons]
    exact ⟨.inr rfl, Double.text_of_whole hwhole, by simp⟩
  obtain ⟨⟨created, dropped, name, name', hcreated, hname₁, hdropped, hname₂, hiff⟩, -⟩ :=
    index_names_agree_iff id hserver hnames users derive hderive keys options _ hread hname s rfl
  refine ⟨⟨hserver, hnames, hderive, hread, hname, rfl⟩, created, dropped, name, hcreated, hname₁,
    ?_, ?_⟩
  · exact hdropped.trans (congrArg (· ++ [dropped]) hcreated)
  · rw [hname₂, hiff.2 halike]

/-- An index of places is created by one name and dropped by another, and so is an index whose
direction is a fraction. -/
theorem index_dropped_by_another_name :
    let users : Collection := { database := "db", name := "users" }
    let derive := IndexKeys.nameBy Value.text
    let s : Server := { reachable := true }
    let named (step : IndexStep) :=
      (users.indexes step s).server.sent.map (Command.indexName? derive)
    let places : Document := [("loc", .string "geo")]
    let halves : Document := [("a", .double ⟨0x3ff8000000000000⟩)]
    named (.create places []) = [some "loc_\"2d\""] ∧
      named (.drop [.keys places]) = [some "loc_2d"] ∧
      named (.create halves []) = [some "a_1.5"] ∧ named (.drop [.keys halves]) = [some "a_1"] :=
  ⟨rfl, rfl, by decide, rfl⟩

end DocQuery
