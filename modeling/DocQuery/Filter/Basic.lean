import DocQuery.Filter.Clause
import DocQuery.Event

/-!
# Filters

A filter is a list of branches of which one has to match; a branch is a list of clauses that all
have to match. Conditions and sub-filters join it by a chain: by *and* they go into the last branch,
which is opened when there is none, by *or* they open a branch of their own.

`Filter.load` reads a filter from a document and `Filter.render` writes it, leaving out every list
of a single entry.
-/

namespace DocQuery

/-- How something joins a filter. -/
inductive Chain
  /-- It goes into the last branch. -/
  | and
  /-- It opens a branch. -/
  | or
  deriving DecidableEq

/-- Changes the last entry of a list; of an empty list, a given first one. -/
def amendLast {α : Type} (first : α) (f : α → α) : List α → List α
  | [] => [f first]
  | [a] => [f a]
  | a :: b :: as => a :: amendLast first f (b :: as)

/-- The last entry is changed and the others stay. -/
theorem amendLast_eq {α : Type} (first : α) (f : α → α) (as : List α) :
    amendLast first f as = as.dropLast ++ [f (as.getLastD first)] := by
  induction as with
  | nil => rfl
  | cons a as ih =>
    cases as with
    | nil => rfl
    | cons b as => rw [amendLast, ih]; rfl

/-- Clauses that all have to match. -/
abbrev Branch := List Clause

namespace Branch

/-- A document as a branch: one clause for each of the documents it joins. -/
def ofDocument (d : Document) : Branch :=
  match Document.operands? .all d with
  | some ds => ds.map Clause.ofDocument
  | none => [Clause.ofDocument d]

/-- A branch as a document. A branch of one clause is that clause. -/
def render (b : Branch) : Document :=
  match b.map Clause.render with
  | [d] => Document.unwrap d
  | ds => Document.join .all ds

@[simp] theorem render_singleton (c : Clause) : render [c] = Document.unwrap c.render := rfl

@[simp] theorem render_cons_cons (c e : Clause) (b : Branch) :
    render (c :: e :: b) = Document.join .all ((c :: e :: b).map Clause.render) := rfl

/-- The branch with a condition on one more field, in its last clause. -/
def constrain (b : Branch) (field : String) (v : Value) : Branch :=
  amendLast (.fields []) (fun c => c.constrain field v) b

/-- Whether a condition turns the last clause into a list. -/
def promotes (b : Branch) (field : String) (v : Value) : Bool :=
  match b.getLast? with
  | some c => c.promotes field v
  | none => false

end Branch

/-- Branches of which one has to match. Without branches everything matches. -/
structure Filter where
  branches : List Branch := []
  deriving DecidableEq

namespace Filter

/-- The filter that a document stands for. Branches without a condition are left out. -/
def load (d : Document) : Filter :=
  let alternatives := (Document.operands? .any d).getD [d]
  ⟨(alternatives.filter (fun e => !e.isEmpty)).map Branch.ofDocument⟩

/-- The document of a filter. -/
def render (f : Filter) : Document :=
  match f.branches.map Branch.render with
  | [] => []
  | [d] => d
  | ds => Document.join .any ds

@[simp] theorem render_nil : render ⟨[]⟩ = [] := rfl

@[simp] theorem render_singleton (b : Branch) : render ⟨[b]⟩ = b.render := rfl

@[simp] theorem render_cons_cons (b c : Branch) (bs : List Branch) :
    render ⟨b :: c :: bs⟩ = Document.join .any ((b :: c :: bs).map Branch.render) := rfl

/-- The filter with a condition on one more field. -/
def constrain (f : Filter) (chain : Chain) (field : String) (v : Value) : Filter :=
  match chain with
  | .or => ⟨f.branches ++ [[.fields [(field, v)]]]⟩
  | .and => ⟨amendLast [] (fun b => b.constrain field v) f.branches⟩

/-- What constraining a filter has to tell. -/
def constrainEvents (f : Filter) (chain : Chain) (field : String) (v : Value) : List Event :=
  match chain, f.branches.getLast? with
  | .and, some b => if b.promotes field v then [.promoted field] else []
  | _, _ => []

/-- The filter with a sub-filter as a clause of its own. An empty sub-filter is left out. -/
def embed (f : Filter) (chain : Chain) (d : Document) : Filter :=
  let inner := Document.unwrap d
  if inner.isEmpty then f
  else
    match chain with
    | .or => ⟨f.branches ++ [[Clause.ofDocument inner]]⟩
    | .and => ⟨amendLast [] (fun b => b ++ [Clause.ofDocument inner]) f.branches⟩

/-- Conditions on several fields, one after the other, with what there is to tell. -/
def constrainAll (f : Filter) (chain : Chain) : List (String × Value) → Filter × List Event
  | [] => (f, [])
  | (field, v) :: rest =>
    let (g, events) := constrainAll (f.constrain chain field v) chain rest
    (g, f.constrainEvents chain field v ++ events)

end Filter

end DocQuery
