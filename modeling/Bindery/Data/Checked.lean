/-!
# Checks that report everything

Untyped data is checked against what is expected of it, and every deviation is reported, not
only the first.  `Checked` is the outcome of such a check; combining two outcomes keeps the
issues of both.
-/

namespace Bindery.Data

/-- A deviation from what is expected of a piece of data. -/
inductive Problem where
  | missing
  | unexpected
  | keyNotText
  | notText
  | notUnicode
  | notInteger
  | unclearInteger
  | fractionalInteger
  | notFinite
  | integerTooLarge
  | notBool
  | unclearBool
  | notMap
  | notTuple
  | notList
  | notModel (name : String)
  | cyclic
  | tooDeep
  | notOneOf (labels : List String)
  /-- A rule that a value has to keep refuses it. -/
  | refused (reason : String)
  deriving DecidableEq, Repr

/-- Choices as a message lists them: quoted, with commas, and "or" before the last. -/
def choices : List String → String
  | [] => ""
  | [only] => "'" ++ only ++ "'"
  | [first, last] => "'" ++ first ++ "' or '" ++ last ++ "'"
  | first :: more => "'" ++ first ++ "', " ++ choices more

/-- The wording of a deviation. -/
def Problem.message : Problem → String
  | missing => "Field required"
  | unexpected => "Extra inputs are not permitted"
  | keyNotText => "Keys should be strings"
  | notText => "Input should be a valid string"
  | notUnicode => "Input should be a valid string, unable to parse raw data as a unicode string"
  | notInteger => "Input should be a valid integer"
  | unclearInteger => "Input should be a valid integer, unable to parse string as an integer"
  | fractionalInteger => "Input should be a valid integer, got a number with a fractional part"
  | notFinite => "Input should be a finite number"
  | integerTooLarge => "Unable to parse input string as an integer, exceeded maximum size"
  | notBool => "Input should be a valid boolean"
  | unclearBool => "Input should be a valid boolean, unable to interpret input"
  | notMap => "Input should be a valid dictionary"
  | notTuple => "Input should be a valid tuple"
  | notList => "Input should be a valid list"
  | notModel name => "Input should be a valid dictionary or instance of " ++ name
  | cyclic => "Recursion error - cyclic reference detected"
  | tooDeep => "Recursion error - maximum validation depth exceeded"
  | notOneOf labels => "Input should be " ++ choices labels
  | refused reason => "Value error, " ++ reason

/-- A deviation and where it is: the keys and indices that lead to it. -/
structure Issue where
  path : List String
  problem : Problem
  deriving DecidableEq, Repr

namespace Issue

/-- An issue as a message shows it. -/
def message (issue : Issue) : String :=
  ".".intercalate issue.path ++ ": " ++ issue.problem.message

/-- An issue of a part, seen from the whole. -/
def under (step : String) (issue : Issue) : Issue := { issue with path := step :: issue.path }

/-- Several issues in one message. -/
def summary (issues : List Issue) : String := "; ".intercalate (issues.map message)

end Issue

/-- The outcome of a check: a value, or the issues that were found. -/
inductive Checked (α : Type) where
  | valid (value : α)
  | invalid (issues : List Issue)
  deriving Repr

namespace Checked

variable {α β : Type}

instance [Inhabited α] : Inhabited (Checked α) := ⟨.valid default⟩

/-- The outcome with its value changed. -/
def map (f : α → β) : Checked α → Checked β
  | valid value => valid (f value)
  | invalid issues => invalid issues

/-- The outcome of two checks, with the issues of both in order. -/
def apply (f : Checked (α → β)) (value : Checked α) : Checked β :=
  match f, value with
  | valid f, valid value => valid (f value)
  | valid _, invalid issues => invalid issues
  | invalid issues, valid _ => invalid issues
  | invalid first, invalid second => invalid (first ++ second)

instance : Applicative Checked where
  pure := valid
  seq f value := apply f (value ())

/-- The outcome of a single deviation. -/
def fail (problem : Problem) : Checked α := invalid [⟨[], problem⟩]

/-- The outcome of the check of a part, seen from the whole. -/
def under (step : String) : Checked α → Checked α
  | valid value => valid value
  | invalid issues => invalid (issues.map (·.under step))

/-- The issues of an outcome. -/
def issues : Checked α → List Issue
  | valid _ => []
  | invalid issues => issues

/-- The outcomes of several checks as one. -/
def all : List (Checked α) → Checked (List α)
  | [] => valid []
  | first :: rest => apply (map (fun value values => value :: values) first) (all rest)

/-- The outcome as a value or an error. -/
def toExcept : Checked α → Except (List Issue) α
  | valid value => .ok value
  | invalid issues => .error issues

end Checked

end Bindery.Data
