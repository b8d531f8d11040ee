import DocQuery.Filter.Basic
import DocQuery.Filter.Condition
import DocQuery.Options

/-!
# Steps

What can be asked of a query, as data. A filter step adds to the filter or replaces it; an option
step sets an execution option or reads the options back. A sub-filter is given as an `Input`: a
document, a value that should be one, or the steps that build it, so steps hold steps.
-/

namespace DocQuery

/-- What a sub-clause is given as. -/
inductive Input (σ : Type)
  /-- A document, taken as it is. -/
  | document (d : Document)
  /-- A value, which has to be a document. -/
  | value (v : Value)
  /-- The steps that build it. -/
  | steps (ss : List σ)

/-- How a sub-filter is turned round. -/
inductive Exclusion
  | nor
  | not
  deriving DecidableEq

/-- The field that holds the sub-filters turned round. -/
def Exclusion.key : Exclusion → String
  | .nor => "$nor"
  | .not => "$not"

/-- A step on the execution options. -/
inductive OptionStep
  | safe (on : Bool)
  | fsync (on : Bool)
  | timeout (d : Duration)
  /-- Sets the timeout of all operations without one of their own. -/
  | defaultTimeout (d : Duration)
  /-- Sets the options that a document gives. -/
  | patch (d : Document)
  /-- Reads the write concern. -/
  | writeConcern

mutual

/-- A step on the filter. -/
inductive FilterStep
  /-- A condition on a field. -/
  | condition (chain : Chain) (field : String) (c : Condition)
  /-- What each of several fields has to equal. -/
  | fields (chain : Chain) (d : Document)
  /-- A sub-filter. -/
  | clause (chain : Chain) (input : Input QueryStep)
  /-- A sub-filter that must not match. -/
  | exclusion (chain : Chain) (e : Exclusion) (input : Input QueryStep)
  /-- Replaces the filter by the one a document stands for. -/
  | load (d : Document)
  /-- Replaces the filter by the one its own document stands for. -/
  | reload
  /-- Drops the filter. -/
  | clear

/-- A step that every query takes. -/
inductive QueryStep
  | filter (s : FilterStep)
  | option (s : OptionStep)

end

end DocQuery
