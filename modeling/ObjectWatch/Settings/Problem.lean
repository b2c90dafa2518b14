/-!
# What can be wrong with a setting

A configuration is checked field by field.  Every field that is not acceptable gives one problem, and
the problems are reported together, in the order of the fields.
-/

namespace ObjectWatch

/-- What is wrong with the value of one field. -/
inductive Complaint where
  | notText
  | notNumber
  | numberSpelling
  | notInteger
  | integerSpelling
  | integerSize
  | integerFraction
  | notFinite
  | notTruth
  | truthSpelling
  /-- A value of the right type that is not allowed. -/
  | refused (reason : String)
  /-- The configuration cannot be changed any more. -/
  | frozen
deriving DecidableEq, Repr

namespace Complaint

/-- The machine-readable name of a complaint. -/
def code : Complaint -> String
  | notText => "string_type"
  | notNumber => "float_type"
  | numberSpelling => "float_parsing"
  | notInteger => "int_type"
  | integerSpelling => "int_parsing"
  | integerSize => "int_parsing_size"
  | integerFraction => "int_from_float"
  | notFinite => "finite_number"
  | notTruth => "bool_type"
  | truthSpelling => "bool_parsing"
  | refused _ => "value_error"
  | frozen => "frozen_instance"

/-- The wording of a complaint about a value that was not written as a text. -/
def message : Complaint -> String
  | notText => "Input should be a valid string"
  | notNumber => "Input should be a valid number"
  | numberSpelling => "Input should be a valid number, unable to parse string as a number"
  | notInteger => "Input should be a valid integer"
  | integerSpelling => "Input should be a valid integer, unable to parse string as an integer"
  | integerSize => "Unable to parse input string as an integer, exceeded maximum size"
  | integerFraction => "Input should be a valid integer, got a number with a fractional part"
  | notFinite => "Input should be a finite number"
  | notTruth => "Input should be a valid boolean"
  | truthSpelling => "Input should be a valid boolean, unable to interpret input"
  | refused reason => "Value error, " ++ reason
  | frozen => "Instance is frozen"

end Complaint

/-- A field and what is wrong with its value. -/
structure Problem where
  field : String
  complaint : Complaint
deriving DecidableEq, Repr

/-- The problems of a configuration, which is known under a name. -/
structure Rejection where
  subject : String
  problems : List Problem
deriving DecidableEq, Repr

namespace Rejection

/-- The name of the kind in notices. -/
def name : String := "ValidationError"

/-- The first line of a report.  The report goes on with a description of every problem, which is left out
here. -/
def message (rejection : Rejection) : String :=
  let count := rejection.problems.length
  toString count ++ " validation error" ++ (if count = 1 then "" else "s") ++ " for " ++
    rejection.subject

end Rejection

/-- A part of a configuration that was checked: its value, or its problems. -/
inductive Checked (α : Type) where
  | ok (value : α)
  | problems (list : List Problem)

namespace Checked

/-- Use the value of a part. -/
def map {α β : Type} (f : α -> β) : Checked α -> Checked β
  | ok value => ok (f value)
  | problems list => problems list

/-- Put two parts together.  The problems of both are kept. -/
def apply {α β : Type} : Checked (α -> β) -> Checked α -> Checked β
  | ok f, ok value => ok (f value)
  | ok _, problems list => problems list
  | problems list, ok _ => problems list
  | problems first, problems second => problems (first ++ second)

/-- Put the next part to those checked before. -/
instance : Applicative Checked where
  pure := ok
  map := map
  seq f value := apply f (value ())

/-- The check of a single field. -/
def ofField {α : Type} (field : String) : Except Complaint α -> Checked α
  | .ok value => ok value
  | .error complaint => problems [⟨field, complaint⟩]

/-- The result of the check of a whole configuration. -/
def result {α : Type} (subject : String) : Checked α -> Except Rejection α
  | ok value => .ok value
  | problems list => .error ⟨subject, list⟩

end Checked
end ObjectWatch
