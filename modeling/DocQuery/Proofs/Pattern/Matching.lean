import DocQuery.Pattern.Regex

/-!
# Matching

What a server does with a regular expression, for expressions without operators: characters,
escaped characters, and the anchors at both ends. The flags are those of the server: `i` takes
letters that differ only in case for the same, `x` passes over white space and comments in the
expression, and `m` lets the anchors match at line breaks inside the subject. The flags `s` and `u`
say nothing about such an expression.

Which letters differ only in case is left open: a function sends those that do to the same
character.

* `Regex.read`: the pieces of an expression;
* `Regex.finds?`: whether an expression is found in a subject;
* `Regex.findsFrom_iff`: it is found where the subject splits in two and the pieces match from
  there.
-/

namespace DocQuery.Regex

/-- A piece of an expression: a character, or the start or the end of the subject. -/
inductive Piece
  | char (c : Char)
  | start
  | stop
  deriving DecidableEq

/-- The white space that an expression may be laid out with. -/
def layout : List Char :=
  [' ', '\t', '\n', '\x0b', '\x0c', '\r', '\u0085', '\u200e', '\u200f', '\u2028', '\u2029']

/-- Whether a character is passed over in an expression that is laid out. -/
def isLayout (c : Char) : Bool := layout.contains c

/-- The characters that are operators unless they are escaped. -/
def operators : List Char := ['.', '[', '(', ')', '|', '*', '+', '?', '\x7b']

/-- The pieces of an expression, or none if it has operators, escapes of letters or digits, or
nothing behind a backslash. If the expression is `extended`, white space is passed over and a
`comment` reaches from a number sign to the next line break. -/
def read (extended : Bool) (comment : Bool) : List Char → Option (List Piece)
  | [] => some []
  | c :: cs =>
    if comment then read extended (c != '\n') cs
    else if c = '\\' then
      match cs with
      | [] => none
      | e :: es => if e.isAlphanum then none else (read extended false es).map (.char e :: ·)
    else if extended && isLayout c then read extended false cs
    else if extended && c == '#' then read extended true cs
    else if c = '^' then (read extended false cs).map (.start :: ·)
    else if c = '$' then (read extended false cs).map (.stop :: ·)
    else if operators.contains c then none
    else (read extended false cs).map (.char c :: ·)

/-- An escaped character that is neither a letter nor a digit is read as itself. -/
theorem read_escaped (extended : Bool) {e : Char} (he : e.isAlphanum = false) (es : List Char) :
    read extended false ('\\' :: e :: es) = (read extended false es).map (.char e :: ·) := by
  simp [read, he]

/-- How a character that is no backslash is read. -/
theorem read_unescaped (extended : Bool) {c : Char} (hc : c ≠ '\\') (cs : List Char) :
    read extended false (c :: cs) =
      if extended && isLayout c then read extended false cs
      else if extended && c == '#' then read extended true cs
      else if c = '^' then (read extended false cs).map (.start :: ·)
      else if c = '$' then (read extended false cs).map (.stop :: ·)
      else if operators.contains c then none
      else (read extended false cs).map (.char c :: ·) := by
  rw [read.eq_def]
  simp only [hc, Bool.false_eq_true, if_false]

/-- Whether the start of the subject, or of one of its lines, is behind a character. -/
def atStart (lines : Bool) (before : Option Char) (rest : List Char) : Bool :=
  before.isNone || (lines && before == some '\n' && !rest.isEmpty)

/-- Whether the end of the subject, or of one of its lines, is in front of the rest. A line break at
the end of the subject may follow its end. -/
def atStop (lines : Bool) (rest : List Char) : Bool :=
  rest.isEmpty || rest == ['\n'] || (lines && rest.head? == some '\n')

/-- Whether pieces match the beginning of what is left of a subject. Characters are compared by what
`fold` makes of them. -/
def matchesAt (fold : Char → Char) (lines : Bool) :
    List Piece → Option Char → List Char → Bool
  | [], _, _ => true
  | .start :: ps, before, cs => atStart lines before cs && matchesAt fold lines ps before cs
  | .stop :: ps, before, cs => atStop lines cs && matchesAt fold lines ps before cs
  | .char _ :: _, _, [] => false
  | .char p :: ps, _, c :: cs => fold p == fold c && matchesAt fold lines ps (some c) cs

/-- Whether pieces match anywhere in what is left of a subject. -/
def findsFrom (fold : Char → Char) (lines : Bool) (ps : List Piece) :
    Option Char → List Char → Bool
  | before, [] => matchesAt fold lines ps before []
  | before, c :: cs =>
    matchesAt fold lines ps before (c :: cs) || findsFrom fold lines ps (some c) cs

/-- Whether an expression has a flag. -/
def hasFlag (r : Regex) (flag : Char) : Bool := r.flags.toList.contains flag

/-- Whether an expression is found in a subject, if the expression can be read. Letters that `fold`
sends to the same character differ only in case. -/
def finds? (fold : Char → Char) (r : Regex) (subject : String) : Option Bool :=
  (read (r.hasFlag 'x') false r.pattern.toList).map fun ps =>
    findsFrom (if r.hasFlag 'i' then fold else id) (r.hasFlag 'm') ps none subject.toList

/-- What is behind the next character, once `c :: m` is read: the last character of `m`, or `c`. -/
theorem getLast?_cons_or (c : Char) (m : List Char) (before : Option Char) :
    (c :: m).getLast?.or before = m.getLast?.or (some c) := by
  rw [List.getLast?_cons, Option.some_or]
  cases m.getLast? <;> rfl

/-- Pieces are found where a subject splits in two and they match from there. -/
theorem findsFrom_iff (fold : Char → Char) (lines : Bool) (ps : List Piece)
    (before : Option Char) (cs : List Char) :
    findsFrom fold lines ps before cs = true ↔
      ∃ pre rest, cs = pre ++ rest ∧
        matchesAt fold lines ps (pre.getLast?.or before) rest = true := by
  induction cs generalizing before with
  | nil =>
    rw [findsFrom]
    constructor
    · intro h
      exact ⟨[], [], rfl, h⟩
    · rintro ⟨pre, rest, hsplit, h⟩
      obtain ⟨rfl, rfl⟩ := List.append_eq_nil_iff.1 hsplit.symm
      exact h
  | cons c cs ih =>
    rw [findsFrom, Bool.or_eq_true, ih]
    constructor
    · rintro (h | ⟨pre, rest, rfl, h⟩)
      · exact ⟨[], c :: cs, rfl, h⟩
      · refine ⟨c :: pre, rest, rfl, ?_⟩
        rw [getLast?_cons_or]
        exact h
    · rintro ⟨pre, rest, hsplit, h⟩
      cases pre with
      | nil =>
        left
        rw [hsplit]
        exact h
      | cons d pre =>
        obtain ⟨rfl, rfl⟩ := List.cons.inj hsplit
        right
        refine ⟨pre, rest, rfl, ?_⟩
        rw [← getLast?_cons_or c pre before]
        exact h

/-- Behind a character that is no line break there is no start. -/
theorem atStart_eq_isNone {lines : Bool} {before : Option Char} (h : before ≠ some '\n')
    (rest : List Char) : atStart lines before rest = before.isNone := by
  simp [atStart, h]

/-- In front of a rest without line breaks there is an end only if the rest is empty. -/
theorem atStop_eq_isEmpty (lines : Bool) {rest : List Char} (h : '\n' ∉ rest) :
    atStop lines rest = rest.isEmpty := by
  cases rest with
  | nil => rfl
  | cons c rest =>
    rw [List.mem_cons, not_or] at h
    have hc : c ≠ '\n' := Ne.symm h.1
    simp [atStop, hc]

/-- Characters and what follows them match a subject that begins with these characters and goes on
with what follows. -/
theorem matchesAt_chars_iff (fold : Char → Char) (lines : Bool) (b : List Char) (ps : List Piece)
    (before : Option Char) (cs : List Char) :
    matchesAt fold lines (b.map .char ++ ps) before cs = true ↔
      ∃ m rest, cs = m ++ rest ∧ m.map fold = b.map fold ∧
        matchesAt fold lines ps (m.getLast?.or before) rest = true := by
  induction b generalizing before cs with
  | nil =>
    constructor
    · intro h
      exact ⟨[], cs, rfl, rfl, h⟩
    · rintro ⟨m, rest, rfl, hm, h⟩
      rw [List.map_nil, List.map_eq_nil_iff] at hm
      subst hm
      exact h
  | cons p b ih =>
    cases cs with
    | nil =>
      rw [List.map_cons, List.cons_append, matchesAt]
      constructor
      · intro h
        cases h
      · rintro ⟨m, rest, hsplit, hm, -⟩
        obtain ⟨rfl, -⟩ := List.append_eq_nil_iff.1 hsplit.symm
        cases hm
    | cons c cs =>
      rw [List.map_cons, List.cons_append, matchesAt, Bool.and_eq_true, beq_iff_eq, ih]
      constructor
      · rintro ⟨hc, m, rest, rfl, hm, h⟩
        refine ⟨c :: m, rest, rfl, ?_, ?_⟩
        · rw [List.map_cons, List.map_cons, hc, hm]
        · rw [getLast?_cons_or]
          exact h
      · rintro ⟨m, rest, hsplit, hm, h⟩
        cases m with
        | nil => cases hm
        | cons d m =>
          obtain ⟨rfl, rfl⟩ := List.cons.inj hsplit
          obtain ⟨hd, hm⟩ := List.cons.inj hm
          refine ⟨hd.symm, m, rest, rfl, hm, ?_⟩
          rw [← getLast?_cons_or c m before]
          exact h

end DocQuery.Regex
