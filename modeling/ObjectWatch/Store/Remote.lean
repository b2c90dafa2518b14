import ObjectWatch.Body

/-!
# The remote side

A store answers two requests about an object: a cheap one for its metadata and one for its content.
The remote side of a run is given by the replies that the store still has to give, in order and
separately for the two requests.  A reply is an answer or a fault, and while it is awaited the run
may be interrupted.  A store that has run out of replies fails.

An answer without a tag has the empty token, and one without a body is a failed retrieval.

A client has to be built before anything can be asked.  That can fail too, although nothing is sent.
-/

namespace ObjectWatch

/-- What reaches the program while it waits for a reply. -/
structure Interruption where
  /-- The pause between polls is cancelled. -/
  cancels : Bool := false
  /-- The service is asked to stop. -/
  stops : Bool := false
deriving DecidableEq, Repr

/-- A reply of the store, and what happens while it is awaited. -/
structure Reply (α : Type) where
  interruption : Interruption := {}
  outcome : Except Fault α

/-- What a request for metadata brings. -/
structure Metadata where
  tag : Option String := none
  encoding : Option String := none
deriving DecidableEq, Repr

namespace Metadata

/-- The token of the version. -/
def token (metadata : Metadata) : String := metadata.tag.getD ""

end Metadata

/-- What a request for content brings. -/
structure Delivery where
  body : Option Body := none
  encoding : Option String := none

namespace Delivery

/-- The body of the content. -/
def content (delivery : Delivery) : Except Fault Body :=
  match delivery.body with
  | some body => .ok body
  | none => .error (.missingEntry (some "Body"))

end Delivery

/-- The replies that a store still has to give. -/
structure Remote where
  heads : List (Reply Metadata) := []
  gets : List (Reply Delivery) := []
  /-- How the next attempts to build a client fail, if they do.  Every attempt after them succeeds. -/
  clients : List (Option Fault) := []

namespace Remote

/-- The fault of a store that has run out of replies. -/
def exhausted : Fault := .badState "no scripted response"

/-- The first reply of a list, and the replies after it. -/
def next {α : Type} : List (Reply α) -> Reply α × List (Reply α)
  | [] => ({ outcome := .error exhausted }, [])
  | reply :: rest => (reply, rest)

/-- Ask for metadata. -/
def head (remote : Remote) : Reply Metadata × Remote :=
  let (reply, heads) := next remote.heads
  (reply, { remote with heads })

/-- Ask for content. -/
def get (remote : Remote) : Reply Delivery × Remote :=
  let (reply, gets) := next remote.gets
  (reply, { remote with gets })

/-- Build a client. -/
def client (remote : Remote) : Option Fault × Remote :=
  (remote.clients.head?.join, { remote with clients := remote.clients.tail })

/-- Whether no request for metadata is answered any more. -/
def isSilent (remote : Remote) : Bool := remote.heads.isEmpty

end Remote
end ObjectWatch
