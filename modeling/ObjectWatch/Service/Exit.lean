/-!
# The end of a program

A program ends with a status of its own or because it was asked to exit.  Such a request may bring a
message, which then stands in the place of the status.
-/

namespace ObjectWatch

/-- How a program ends. -/
inductive ExitStatus where
  | code (n : Nat)
  /-- As asked for by a request to exit that went through. -/
  | requested (message : Option String)
deriving DecidableEq, Repr

namespace ExitStatus

/-- The status of a program that is done, by whether all went well. -/
def ofSuccess (success : Bool) : ExitStatus := .code (if success then 0 else 1)

end ExitStatus
end ObjectWatch
