import EmailStudio.Value.Edit

/-!
# Issues of records

Settings and request bodies are records with typed fields. What does not fit is told by a problem
and the place of it; all fields are read before any issue is reported.
-/

namespace EmailStudio

/-- What can be wrong with a field of a record. -/
inductive IntakeProblem where
  | missing
  | notText
  | tooShort
  | tooLong
  | notInteger
  | unreadableInteger
  | hugeInteger
  | notFinite
  | fractional
  | tooSmall
  | tooBig
  | notBoolean
  | unreadableBoolean
  | notOneOf
  | notList
  | notObject
  | notRecord
  | unreadable
  /-- A rule about the whole record is broken. -/
  | rule (message : String)
deriving DecidableEq, Repr

namespace IntakeProblem

/-- The name that a problem is told by. -/
def name : IntakeProblem → String
  | missing => "missing"
  | notText => "string_type"
  | tooShort => "string_too_short"
  | tooLong => "string_too_long"
  | notInteger => "int_type"
  | unreadableInteger => "int_parsing"
  | hugeInteger => "int_parsing_size"
  | notFinite => "finite_number"
  | fractional => "int_from_float"
  | tooSmall => "greater_than_equal"
  | tooBig => "less_than_equal"
  | notBoolean => "bool_type"
  | unreadableBoolean => "bool_parsing"
  | notOneOf => "literal_error"
  | notList => "list_type"
  | notObject => "dict_type"
  | notRecord => "model_attributes_type"
  | unreadable => "json_invalid"
  | rule _ => "value_error"

/-- The wording of a broken rule; other problems are told by their names alone. -/
def message? : IntakeProblem → Option String
  | rule message => some ("Value error, " ++ message)
  | _ => none

end IntakeProblem

/-- A problem and where it is. -/
structure IntakeIssue where
  problem : IntakeProblem
  place : List Step
deriving DecidableEq, Repr

namespace IntakeIssue

/-- The issue of a part as one of the whole. -/
def within (step : Step) (issue : IntakeIssue) : IntakeIssue :=
  { issue with place := step :: issue.place }

def toValue (issue : IntakeIssue) : Value :=
  .object ([("type", .text issue.problem.name), ("loc", .list (issue.place.map (·.toValue)))]
    ++ (issue.problem.message?.map fun message => ("msg", .text message)).toList)

end IntakeIssue

/-- What comes of reading: a result, or issues. -/
structure Reading (α : Type) where
  result : Except (List IntakeIssue) α

namespace Reading

variable {α β : Type}

def good (a : α) : Reading α := ⟨.ok a⟩

def bad (problem : IntakeProblem) : Reading α := ⟨.error [⟨problem, []⟩]⟩

def map (f : α → β) (x : Reading α) : Reading β := ⟨x.result.map f⟩

/-- Reads both; the issues of the first come before those of the second. -/
def seq (f : Reading (α → β)) (x : Unit → Reading α) : Reading β :=
  ⟨match f.result, (x ()).result with
    | .ok f, .ok a => .ok (f a)
    | .ok _, .error issues => .error issues
    | .error issues, .ok _ => .error issues
    | .error issues, .error more => .error (issues ++ more)⟩

instance : Applicative Reading where
  pure := good
  map := map
  seq := seq

/-- Reads on with a result. -/
def andThen (x : Reading α) (f : α → Reading β) : Reading β :=
  match x.result with
  | .ok a => f a
  | .error issues => ⟨.error issues⟩

/-- The reading of a part of a whole. -/
def within (step : Step) (x : Reading α) : Reading α :=
  ⟨x.result.mapError fun issues => issues.map (·.within step)⟩

end Reading

end EmailStudio
