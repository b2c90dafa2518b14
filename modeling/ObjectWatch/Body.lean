import ObjectWatch.Checksum
import ObjectWatch.Fault

/-!
# Remote content being served

A body hands out its bytes in order.  It may serve fewer bytes than asked for, may fail when a given
offset is reached, and may refuse to be closed.  Reading keeps the unread part in the body, so a
reader that stops can go on where it stopped, and nothing is served twice.

How many bytes a read serves may be different from read to read.  A read that serves something leaves
fewer bytes than it found, so the reads are told apart by the number of bytes that they find.
-/

namespace ObjectWatch

/-- A computation on a state that can end in a fault; the state survives the fault. -/
abbrev Attempt (σ : Type) := EStateM Fault σ

/-- Content served by a store. -/
structure Body where
  /-- The bytes that are still served. -/
  rest : Bytes
  /-- How reading fails once the bytes are used up; without it the content ends there. -/
  failure : Option Fault := none
  /-- The most bytes that one read serves. -/
  readCap : Option Nat := none
  /-- How closing fails, if it does. -/
  closeFault : Option Fault := none
  closed : Bool := false
  /-- The most bytes, at least one, that the read serves which finds the given number of bytes. -/
  limits : Nat -> Option { limit : Nat // 0 < limit } := fun _ => none

namespace Body

/-- A body that serves the bytes without failing. -/
def ofBytes (bytes : Bytes) : Body := { rest := bytes }

/-- How many bytes a read of the given size serves at most. -/
def capped (body : Body) (size : Nat) : Nat :=
  let most := match body.readCap with
    | some cap => min size cap
    | none => size
  match body.limits body.rest.length with
  | some limit => min most limit
  | none => most

/-- Hand out the next bytes. -/
def serve (body : Body) (count : Nat) : Bytes × Body :=
  (body.rest.take count, { body with rest := body.rest.drop count })

/-- Read up to `size` bytes, or everything.  A body that fails somewhere cannot serve everything, and
it fails when it is asked for more than it has. -/
def read (size : Option Nat) : Attempt Body Bytes := fun body =>
  if body.closed then .error (.badValue "I/O operation on closed file.") body
  else
    match size, body.failure with
    | some 0, _ => .ok [] body
    | some size, none =>
        let (chunk, body) := body.serve (body.capped size)
        .ok chunk body
    | some size, some fault =>
        if body.rest = [] then .error fault body
        else
          let (chunk, body) := body.serve (body.capped size)
          .ok chunk body
    | none, none =>
        let (chunk, body) := body.serve body.rest.length
        .ok chunk body
    | none, some fault => .error fault body

/-- Close the body.  A body that refuses stays open. -/
def close : Attempt Body Unit := fun body =>
  match body.closeFault with
  | some fault => .error fault body
  | none => .ok () { body with closed := true }

/-- Serving loses nothing: what is handed out and what is kept make up what was there. -/
theorem serve_append (body : Body) (count : Nat) :
    (body.serve count).1 ++ (body.serve count).2.rest = body.rest := by
  simp [serve]

end Body
end ObjectWatch
