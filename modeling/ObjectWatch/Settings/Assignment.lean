import ObjectWatch.Settings.Target

/-!
# Assigning to a target

A target cannot be changed once it is made.  Names that begin with an underscore are free for notes
that are no part of it, with a few exceptions: the names under which every object keeps its fields
and its type, and names that belong to all targets together or are computed.
-/

namespace ObjectWatch

/-- Why an assignment is refused. -/
inductive AssignmentError where
  /-- The name is no free one. -/
  | frozen (name : String)
  /-- The fields of an object can only be replaced by an object. -/
  | notFields (kind : String)
  /-- The type of an object can only be replaced by a type, and no datum is one. -/
  | notType (kind : String)
  | notWritable (name : String)
  | computed (name : String)
  | shared (name : String)
deriving DecidableEq, Repr

namespace AssignmentError

/-- The report on an assignment to a frozen name, and none on the other ones. -/
def rejection? : AssignmentError -> Option Rejection
  | frozen name => some ⟨Target.subject, [⟨name, .frozen⟩]⟩
  | _ => none

/-- The name of the kind in messages. -/
def name : AssignmentError -> String
  | frozen _ => Rejection.name
  | notFields _ => "TypeError"
  | notType _ => "TypeError"
  | notWritable _ => "AttributeError"
  | computed _ => "AttributeError"
  | shared _ => "AttributeError"

/-- The wording. -/
def message : AssignmentError -> String
  | frozen name => Rejection.message ⟨Target.subject, [⟨name, .frozen⟩]⟩
  | notFields kind => "__dict__ must be set to a dictionary, not a '" ++ kind ++ "'"
  | notType kind => "__class__ must be set to a class, not '" ++ kind ++ "' object"
  | notWritable name =>
      "attribute '" ++ name ++ "' of '" ++ Target.subject ++ "' objects is not writable"
  | computed name =>
      "property '" ++ name ++ "' of '" ++ Target.subject ++ "' object has no setter"
  | shared name =>
      "'" ++ name ++ "' is a ClassVar of `" ++ Target.subject ++
        "` and cannot be set on an instance. If you want to set a value on the class, use `" ++
        Target.subject ++ "." ++ name ++ " = value`."

end AssignmentError

namespace Target

/-- The names of what is computed from a target. -/
def computedNames : List String := ["__fields__", "__fields_set__"]

/-- The names of what belongs to all targets together. -/
def sharedNames : List String :=
  ["__class_vars__", "__private_attributes__", "__signature__", "__pydantic_complete__",
    "__pydantic_core_schema__", "__pydantic_custom_init__", "__pydantic_decorators__",
    "__pydantic_generic_metadata__", "__pydantic_parent_namespace__", "__pydantic_post_init__",
    "__pydantic_root_model__", "__pydantic_serializer__", "__pydantic_validator__",
    "__pydantic_fields__", "__pydantic_setattr_handlers__", "__pydantic_computed_fields__"]

/-- Assign to a name.  Where that is possible at all, the target stays as it is. -/
def assign (target : Target) (name : String) (value : Value) : Except AssignmentError Target :=
  if name.toList.head? ≠ some '_' then .error (.frozen name)
  else if name ∈ sharedNames then .error (.shared name)
  else if name ∈ computedNames then .error (.computed name)
  else if name = "__weakref__" then .error (.notWritable name)
  else if name = "__class__" then .error (.notType value.kindName)
  else
    match value with
    | .object _ => .ok target
    | value => if name = "__dict__" then .error (.notFields value.kindName) else .ok target

/-- Whatever is assigned, the target stays as it is. -/
theorem eq_of_assign {target result : Target} {name : String} {value : Value}
    (assigned : target.assign name value = .ok result) : result = target := by
  unfold assign at assigned
  repeat' split at assigned
  all_goals simp_all

end Target
end ObjectWatch
