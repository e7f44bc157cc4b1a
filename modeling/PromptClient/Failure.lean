import PromptClient.Time.Duration

/-! # Failures

Why a submission did not bring a result, by cause, and the one wording of each.
-/

namespace PromptClient

/-- Found before anything is sent. -/
inductive ValidationFault
  | notLoggedIn
  | missingToken
  | missingFile
  | unreadableFile (path source : String)
  | emptyPrompt
  | unknownField (tool field : String)
deriving DecidableEq, Repr

/-- The backend did not take the job. -/
inductive SubmissionFault
  | rejected (status : Nat) (body : String)
  | transport (detail : String)
  | emptyKey
deriving DecidableEq, Repr

/-- The result could not be had. -/
inductive PollFault
  | failed (key : String) (status : Nat) (body : String)
  | transport (detail : String)
  | timedOut (key : String) (waited : Duration)
deriving DecidableEq, Repr

/-- Any failure of a submission. -/
inductive Failure
  | validation (fault : ValidationFault)
  | submission (fault : SubmissionFault)
  | poll (fault : PollFault)
  | busy
  | cancelled
deriving DecidableEq, Repr

def ValidationFault.message : ValidationFault → String
  | .notLoggedIn => "Please log in before submitting."
  | .missingToken => "Please enter an access token."
  | .missingFile => "Please select a file."
  | .unreadableFile path source => s!"Failed to read credential file {path}: {source}"
  | .emptyPrompt => "Please enter a prompt."
  | .unknownField tool field => s!"{tool} has no field named {field}"

def SubmissionFault.message : SubmissionFault → String
  | .rejected status body =>
      "Job submission rejected with status " ++ Text.Decimal.ofNat status ++ ": " ++ body
  | .transport detail => "Job submission failed: " ++ detail
  | .emptyKey => "Job submission returned an empty job key"

def PollFault.message : PollFault → String
  | .failed key status body =>
      "Result lookup for job " ++ key ++ " failed with status " ++
        Text.Decimal.ofNat status ++ ": " ++ body
  | .transport detail => "Result lookup failed: " ++ detail
  | .timedOut key waited => "Job " ++ key ++ " did not finish within " ++ waited.text

def Failure.message : Failure → String
  | .validation fault => fault.message
  | .submission fault => fault.message
  | .poll fault => fault.message
  | .busy => "A submission is already in progress"
  | .cancelled => "Job task was cancelled"

end PromptClient
