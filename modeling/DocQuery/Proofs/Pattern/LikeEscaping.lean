import DocQuery.Proofs.Pattern.LikeMatching

/-!
# LIKE patterns without flags

An expression can be read in the plainest way: a backslash takes the character behind it as it is, a
caret at the start and a dollar sign at the end are anchors, and every other character is itself.
This is what a server reads only where no operator is left without a backslash. The expression of a
LIKE pattern leaves none: taken apart it is the body of the pattern between the anchors, and it
finds the subjects that fit.

* `Regex.tokens?`, `Regex.plain`: the plain reading;
* `Like.tokens?_escape`: escaping is undone by it;
* `Like.Parts.eq_anchor_of_bare`, `Like.Parts.plain_tokens`: what it meets in the expression of a
  pattern, and what it makes of it;
* `Like.fits_parts_all_iff`: the patterns that every subject fits;
* `Like.regex_is_literal`: what the expression of a pattern holds and what it finds.
-/

namespace DocQuery

namespace Regex

/-- A character of an expression, with a backslash in front of it or without one. -/
inductive Token
  | bare (c : Char)
  | escaped (c : Char)
  deriving DecidableEq

/-- The character itself. -/
def Token.char : Token → Char
  | .bare c => c
  | .escaped c => c

/-- The tokens of an expression, or none if it ends in a backslash that nothing follows. -/
def tokens? : List Char → Option (List Token)
  | [] => some []
  | c :: cs =>
    if c = '\\' then
      match cs with
      | [] => none
      | e :: es => (tokens? es).map (.escaped e :: ·)
    else (tokens? cs).map (.bare c :: ·)

/-- The characters that mean something in an expression unless they are escaped. -/
def metacharacters : List Char := '\\' :: '^' :: '$' :: ']' :: '\x7d' :: operators

/-- What is left of an expression, read plainly: a bare dollar sign at the end is an anchor. -/
def plainRest : List Token → List Piece
  | [] => []
  | [.bare '$'] => [.stop]
  | t :: ts => .char t.char :: plainRest ts

/-- An expression, read plainly: a bare caret at the start is an anchor too. -/
def plain : List Token → List Piece
  | .bare '^' :: ts => .start :: plainRest ts
  | ts => plainRest ts

theorem tokens?_escaped (e : Char) (es : List Char) :
    tokens? ('\\' :: e :: es) = (tokens? es).map (.escaped e :: ·) := by
  rw [tokens?, if_pos rfl]

theorem tokens?_bare {c : Char} (hc : c ≠ '\\') (cs : List Char) :
    tokens? (c :: cs) = (tokens? cs).map (.bare c :: ·) := by
  rw [tokens?.eq_def]
  simp only [hc, if_false]

/-- A token that is no bare dollar sign is its character. -/
theorem plainRest_cons {t : Token} (ht : t ≠ .bare '$') (ts : List Token) :
    plainRest (t :: ts) = .char t.char :: plainRest ts := by
  rw [plainRest]
  rintro rfl -
  exact ht rfl

/-- Without a bare caret at the start there is no anchor there. -/
theorem plain_of_head? {ts : List Token} (h : ts.head? ≠ some (.bare '^')) :
    plain ts = plainRest ts := by
  rw [plain]
  rintro rest rfl
  exact h rfl

end Regex

namespace Like

/-- A character of a body as it stands in an expression. -/
def token (c : Char) : Regex.Token := if special.contains c then .escaped c else .bare c

/-- The tokens of the expression of a pattern with the parts. -/
def Parts.tokens (l : Parts) : List Regex.Token :=
  (if l.openStart then [] else [.bare '^'])
    ++ (l.body.map token ++ if l.openEnd then [] else [.bare '$'])

@[simp] theorem char_token (c : Char) : (token c).char = c := by
  rw [token]
  split <;> rfl

/-- What means something in an expression is special. -/
theorem mem_special_of_mem_metacharacters {c : Char} (hc : c ∈ Regex.metacharacters) :
    c ∈ special := by
  have hall : Regex.metacharacters.all special.contains = true := by decide
  exact List.contains_iff_mem.1 (List.all_eq_true.1 hall c hc)

/-- Nothing that means something is left without a backslash. -/
theorem notMem_metacharacters_of_token {c d : Char} (h : token c = .bare d) :
    d ∉ Regex.metacharacters := by
  intro hd
  rw [token] at h
  split at h
  · cases h
  · next hc =>
    cases h
    exact hc (List.contains_iff_mem.2 (mem_special_of_mem_metacharacters hd))

/-- An escaped text is taken apart into its characters, whatever follows. -/
theorem tokens?_escape (b rest : List Char) :
    Regex.tokens? (escape b ++ rest) = (Regex.tokens? rest).map (b.map token ++ ·) := by
  induction b with
  | nil => simp [escape]
  | cons c b ih =>
    by_cases hc : c ∈ special
    · rw [escape, if_pos (List.contains_iff_mem.2 hc), List.cons_append, List.cons_append,
        Regex.tokens?_escaped, ih]
      simp [token, hc, Function.comp_def]
    · have hback : c ≠ '\\' := by
        rintro rfl
        exact hc (by decide)
      rw [escape, if_neg (by simpa using hc), List.cons_append, Regex.tokens?_bare hback, ih]
      simp [token, hc, Function.comp_def]

/-- The expression of a pattern is taken apart into its body between the anchors. -/
theorem Parts.tokens?_regexChars (l : Parts) : Regex.tokens? l.regexChars = some l.tokens := by
  obtain ⟨openStart, openEnd, b⟩ := l
  have hstop : Regex.tokens? (if openEnd then [] else ['$'])
      = some (if openEnd then [] else [.bare '$']) := by
    cases openEnd <;> decide
  cases openStart with
  | false =>
    show Regex.tokens? ('^' :: (escape b ++ _)) = _
    rw [Regex.tokens?_bare (by decide), tokens?_escape, hstop]
    rfl
  | true =>
    show Regex.tokens? (escape b ++ _) = _
    rw [tokens?_escape, hstop]
    rfl

/-- Behind the start of an expression only its last character is bare and means something. -/
theorem eq_stop_of_bare {openEnd : Bool} {b : List Char} {us vs : List Regex.Token} {c : Char}
    (h : b.map token ++ (if openEnd then [] else [.bare '$']) = us ++ .bare c :: vs)
    (hc : c ∈ Regex.metacharacters) : vs = [] ∧ c = '$' := by
  induction b generalizing us with
  | nil =>
    cases openEnd <;> cases us <;> simp at h
    exact ⟨h.2, h.1.symm⟩
  | cons d b ih =>
    cases us with
    | nil => exact absurd hc (notMem_metacharacters_of_token (List.cons.inj h).1)
    | cons u us => exact ih (List.cons.inj h).2

/-- A character of an expression is bare and means something only if it is one of the anchors. -/
theorem Parts.eq_anchor_of_bare {l : Parts} {us vs : List Regex.Token} {c : Char}
    (h : l.tokens = us ++ .bare c :: vs) (hc : c ∈ Regex.metacharacters) :
    us = [] ∧ c = '^' ∨ vs = [] ∧ c = '$' := by
  obtain ⟨openStart, openEnd, b⟩ := l
  cases openStart with
  | true => exact .inr (eq_stop_of_bare h hc)
  | false =>
    cases us with
    | nil =>
      cases (List.cons.inj h).1
      exact .inl ⟨rfl, rfl⟩
    | cons u us => exact .inr (eq_stop_of_bare (List.cons.inj h).2 hc)

theorem plainRest_map_token (openEnd : Bool) (b : List Char) :
    Regex.plainRest (b.map token ++ if openEnd then [] else [.bare '$'])
      = b.map .char ++ if openEnd then [] else [.stop] := by
  induction b with
  | nil => cases openEnd <;> rfl
  | cons c b ih =>
    have hc : token c ≠ .bare '$' :=
      fun h => notMem_metacharacters_of_token h (by decide)
    rw [List.map_cons, List.cons_append, Regex.plainRest_cons hc, ih, char_token]
    rfl

/-- Read plainly, the expression of a pattern is what has to be found. -/
theorem Parts.plain_tokens (l : Parts) : Regex.plain l.tokens = l.pieces := by
  obtain ⟨openStart, openEnd, b⟩ := l
  cases openStart with
  | false =>
    show Regex.Piece.start :: Regex.plainRest (b.map token ++ _) = _
    rw [plainRest_map_token]
    rfl
  | true =>
    show Regex.plain (b.map token ++ _) = _
    rw [Regex.plain_of_head?, plainRest_map_token]
    · rfl
    · cases b with
      | nil => cases openEnd <;> decide
      | cons c b =>
        intro h
        exact notMem_metacharacters_of_token (Option.some.inj h) (by decide)

@[simp] theorem Parts.shown_false (l : Parts) : l.shown false = l := by
  simp [shown]

/-- Every subject fits a pattern without a body that is open at one of its ends, and no other
pattern is fitted even by the subjects without line breaks. -/
theorem Parts.fits_all_iff (l : Parts) :
    (∀ s : List Char, '\n' ∉ s → l.Fits id s) ↔
      l.body = [] ∧ (l.openStart = true ∨ l.openEnd = true) := by
  constructor
  · intro h
    have hbody : l.body = [] := by
      have hlength := (h [] (by decide)).length_le
      exact List.eq_nil_of_length_eq_zero (Nat.le_zero.1 hlength)
    have hchar := h ['a'] (by decide)
    obtain ⟨openStart, openEnd, b⟩ := l
    dsimp only at hbody
    subst hbody
    cases openStart <;> cases openEnd <;> simp [Fits] at hchar ⊢
  · rintro ⟨hbody, hopen⟩ s -
    obtain ⟨openStart, openEnd, b⟩ := l
    dsimp only at hbody hopen
    subst hbody
    cases openStart <;> cases openEnd <;> simp [Fits] at hopen ⊢

/-- Two patterns are fitted by every subject. -/
theorem fits_parts_all_iff (p : String) :
    (∀ s : List Char, '\n' ∉ s → (parts p.toList).Fits id s) ↔ p = "%" ∨ p = "%%" := by
  rw [Parts.fits_all_iff]
  constructor
  · rintro ⟨hbody, hopen⟩
    have hp := pattern_parts p.toList
    rw [Parts.pattern, hbody] at hp
    rcases hstart : (parts p.toList).openStart <;> rcases hend : (parts p.toList).openEnd <;>
      simp only [hstart, hend] at hp hopen
    case false.false => simp at hopen
    case true.true => exact .inr (String.toList_inj.1 hp.symm)
    all_goals exact .inl (String.toList_inj.1 hp.symm)
  · rintro (rfl | rfl) <;> decide

/-- **The expression of a LIKE pattern is literal.** It is taken apart into characters with and
without a backslash; a bare one means something only if it is the caret at the start or the dollar
sign at the end; and read plainly, as a server reads it too, it finds in a subject without line
breaks exactly what fits the pattern. All subjects fit a percent sign and two of them, and no other
pattern. -/
theorem regex_is_literal (p : String) :
    ∃ ts, Regex.tokens? (regex p).toList = some ts ∧
      (∀ us c vs, ts = us ++ .bare c :: vs → c ∈ Regex.metacharacters →
        us = [] ∧ c = '^' ∨ vs = [] ∧ c = '$') ∧
      Regex.read false false (regex p).toList = some (Regex.plain ts) ∧
      (∀ s : List Char, '\n' ∉ s →
        (Regex.findsFrom id false (Regex.plain ts) none s = true ↔
          (parts p.toList).Fits id s)) ∧
      ((∀ s : List Char, '\n' ∉ s → Regex.findsFrom id false (Regex.plain ts) none s = true) ↔
        p = "%" ∨ p = "%%") := by
  let l := parts p.toList
  have hfinds : ∀ s : List Char, '\n' ∉ s →
      (Regex.findsFrom id false (Regex.plain l.tokens) none s = true ↔ l.Fits id s) := by
    intro s hs
    rw [l.plain_tokens]
    exact l.findsFrom_pieces_iff id false hs
  refine ⟨l.tokens, ?_, fun us c vs h hc => Parts.eq_anchor_of_bare h hc, ?_, hfinds, ?_⟩
  · rw [toList_regex]
    exact l.tokens?_regexChars
  · rw [toList_regex, l.plain_tokens]
    exact (l.read_regexChars false).trans (by rw [l.shown_false])
  · rw [← fits_parts_all_iff]
    exact forall₂_congr hfinds

/-- A pattern that is open at its start, with a percent sign inside and special characters at the
end of its body. -/
theorem regex_is_literal_dollar :
    ∃ ts, Regex.tokens? (regex "%a%.$").toList = some ts ∧
      '\n' ∉ "1 a%.$".toList ∧ '\n' ∉ "1 a%b$".toList ∧
      Regex.findsFrom id false (Regex.plain ts) none "1 a%.$".toList = true ∧
      Regex.findsFrom id false (Regex.plain ts) none "1 a%b$".toList = false := by
  obtain ⟨ts, hts, -, -, hfinds, -⟩ := regex_is_literal "%a%.$"
  have hfit : '\n' ∉ "1 a%.$".toList := by decide
  have hmiss : '\n' ∉ "1 a%b$".toList := by decide
  refine ⟨ts, hts, hfit, hmiss, (hfinds _ hfit).2 (by decide), ?_⟩
  rw [← Bool.not_eq_true, hfinds _ hmiss]
  decide

end Like

end DocQuery
