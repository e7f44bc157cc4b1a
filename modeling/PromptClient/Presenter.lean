import PromptClient.Failure

/-! # Presenting results

A result is a Markdown text. It is rendered and then sanitized; nothing that comes
from the backend is shown as HTML in any other way. Failures are shown in their own
words.
-/

namespace PromptClient

/-- What the user is shown. -/
inductive Notice
  | status (text : String)
  | html (text : String)
  | error (text : String)
  /-- Raised before anything has been sent. -/
  | alert (text : String)
deriving DecidableEq, Repr

def loadingText : String :=
  "Loading - this can take several minutes, so please be patient..."

/-- How a result becomes HTML that is safe to show. -/
structure Presenter where
  render : String → String
  sanitize : String → String

namespace Presenter

def safeHtml (presenter : Presenter) (markdown : String) : String :=
  presenter.sanitize (presenter.render markdown)

def present (presenter : Presenter) : Except Failure String → Notice
  | .ok markdown => .html (presenter.safeHtml markdown)
  | .error failure => .error failure.message

end Presenter

end PromptClient
