import RailWatch.Duration
import RailWatch.Journey
/-!
# RailWatch.Fetch

One fetch of a train, from the request to the outcome.

A fetch **ends** in one of three ways: its source replied in time, with a body or an error; the
time it may take ran out; or the task that carried it out died. `FetchEnding.result` says what
comes of it. Only a body that was received and is not a payload is a failure for good; everything
else may go better next time.
-/

namespace RailWatch

/-- Why no body was received. -/
inductive TransportError
  /-- The request could not be made, or broke off. -/
  | http (text : String)
  /-- The server answered with an error status. -/
  | status (code : Nat) (message : String)
  /-- The time a fetch may take ran out. -/
  | timeout (budget : Duration)
  /-- The source could not be set up. -/
  | notConfigured (text : String)
deriving DecidableEq

/-- The error in words. -/
def TransportError.message : TransportError → String
  | http text => "HTTP error: " ++ text
  | status code message => "API error " ++ Text.padded 1 code ++ ": " ++ message
  | timeout budget => "timed out after " ++ budget.text
  | notConfigured text => "not configured: " ++ text

/-- What a source replies to a request. -/
abbrev Reply := Except TransportError String

/-- Why a fetch failed. -/
inductive FetchFailure
  /-- No body was received. -/
  | transport (error : TransportError)
  /-- The body is no payload, or one without the needed fields. -/
  | payload (error : PayloadError)
  /-- The task that carried out the fetch died. -/
  | task (text : String)
deriving DecidableEq

namespace FetchFailure

/-- The failure in words. -/
def message : FetchFailure → String
  | transport error => "transport failure: " ++ error.message
  | payload error => "parse failure: " ++ error.message
  | task text => "fetch task failed: " ++ text

/-- Whether the next fetch may go better. -/
def isRetryable : FetchFailure → Bool
  | transport _ | task _ => true
  | payload _ => false

end FetchFailure

/-- How a fetch ends. -/
inductive FetchEnding
  /-- The source replied in time. -/
  | replied (reply : Reply)
  /-- The source did not reply in time. -/
  | silent
  /-- The task that carried out the fetch died, with these last words. -/
  | died (text : String)

/-- What comes of a fetch. -/
abbrev FetchResult := Except FetchFailure Outcome

/-- What comes of a fetch of a train that ends so, when it may take as long as `budget`. -/
def FetchEnding.result (id : String) (budget : Duration) : FetchEnding → FetchResult
  | replied (.ok body) =>
    match Journey.ofText id body with
    | .ok outcome => .ok outcome
    | .error e => .error (.payload e)
  | replied (.error e) => .error (.transport e)
  | silent => .error (.transport (.timeout budget))
  | died text => .error (.task text)

/-- Why a train was not found before it is tracked. -/
inductive LookupError
  /-- The train does not run that day. -/
  | notFound
  /-- The fetch failed. -/
  | failed (failure : FetchFailure)
deriving DecidableEq

/-- The error in words. -/
def LookupError.message : LookupError → String
  | notFound => "train not found"
  | failed failure => failure.message

/-- What a lookup finds, given what came of its fetch. -/
def lookupTrain : FetchResult → Except LookupError Train
  | .ok (.found train) => .ok train
  | .ok .notFound => .error .notFound
  | .error failure => .error (.failed failure)

end RailWatch
