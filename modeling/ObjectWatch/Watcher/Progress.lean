import ObjectWatch.Text.Quoted

/-!
# What a watcher remembers

Between two polls a watcher remembers the token of the version that it saw last, whether it polled
at all, and whether it may still decode.  An empty token stands for nothing seen so far.

Decoding that failed once is given up for good: no operation leaves the disabled state.
-/

namespace ObjectWatch

/-- Whether content is decoded. -/
inductive DecodeState where
  | untried
  | active
  | disabled
deriving DecidableEq, Repr

namespace DecodeState

/-- The name of a state. -/
def name : DecodeState -> String
  | untried => "untried"
  | active => "active"
  | disabled => "disabled"

end DecodeState

/-- What is remembered between polls. -/
structure Progress where
  token : String := ""
  hasPolled : Bool := false
  decodeState : DecodeState := .untried
deriving DecidableEq, Repr

namespace Progress

/-- Whether a token is the one seen last. -/
def knows (progress : Progress) (token : String) : Bool := token == progress.token

/-- Remember a token. -/
def commit (progress : Progress) (token : String) : Progress := { progress with token }

/-- Remember that there was a poll. -/
def markPolled (progress : Progress) : Progress := { progress with hasPolled := true }

/-- Whether decoding may be attempted. -/
def mayDecode (progress : Progress) : Bool := progress.decodeState ≠ .disabled

/-- Remember that content was decoded. -/
def markDecoded (progress : Progress) : Progress :=
  match progress.decodeState with
  | .untried => { progress with decodeState := .active }
  | _ => progress

/-- Give decoding up. -/
def disableDecoding (progress : Progress) : Progress := { progress with decodeState := .disabled }

/-- The form in which what is remembered is shown. -/
def shown (progress : Progress) : String :=
  "FetcherSession(last_change_token=" ++ Text.quoted progress.token ++ ", has_polled_before=" ++
    Text.shownBool progress.hasPolled ++ ", decode_state=" ++ progress.decodeState.name ++ ")"

theorem knows_commit (progress : Progress) (token : String) :
    (progress.commit token).knows token = true := by
  simp [knows, commit]

/-- A success cannot bring back decoding that was given up. -/
theorem markDecoded_disableDecoding (progress : Progress) :
    progress.disableDecoding.markDecoded = progress.disableDecoding := rfl

end Progress
end ObjectWatch
