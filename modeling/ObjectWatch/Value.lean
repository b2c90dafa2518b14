/-!
# Loosely typed values

Configuration arguments and the context of an error report come as data whose type is only known
when it is looked at.  An object keeps its entries in the order in which they were written.
-/

namespace ObjectWatch

/-- A datum of unknown type. -/
inductive Value where
  | null
  | bool (b : Bool)
  | int (n : Int)
  | float (x : Float)
  | text (s : String)
  | list (items : List Value)
  | object (entries : List (String × Value))
deriving Inhabited

namespace Value

/-- An optional text. -/
def ofText? : Option String -> Value
  | none => null
  | some s => text s

/-- The entry of an object under a name. -/
def get? (name : String) : Value -> Option Value
  | object entries => entries.lookup name
  | _ => none

/-- The name of the type of a datum in messages. -/
def kindName : Value -> String
  | null => "NoneType"
  | bool _ => "bool"
  | int _ => "int"
  | float _ => "float"
  | text _ => "str"
  | list _ => "list"
  | object _ => "dict"

/-- Whether a datum counts as a yes: everything does except nothing, no, zero and what is empty. -/
def isYes : Value -> Bool
  | null => false
  | bool b => b
  | int n => n != 0
  | float x => x != 0.0
  | text s => s != ""
  | list items => !items.isEmpty
  | object entries => !entries.isEmpty

end Value
end ObjectWatch
