import PromptClient.Text.Percent
import PromptClient.Tool

/-! # Authorize requests

The address of a provider's authorize page with the parameters of one login. Every
value is percent-encoded, so none can reach into another parameter.
-/

namespace PromptClient

structure ProviderSettings where
  clientId : String
  redirectUri : Option String
  authorizeUrl : Option String
  scope : Option String
deriving DecidableEq, Repr, Inhabited

def ProviderSettings.unset : ProviderSettings :=
  ⟨"", none, none, none⟩

/-- Everything an authorize request is made of, apart from the page to return to. -/
structure AuthorizeSettings where
  authorizeUrl : String
  scopeParameter : String
  scope : String
  clientId : String
  redirectUri : Option String
deriving DecidableEq, Repr

namespace AuthorizeSettings

def defaultUrl : Provider → String
  | .google => "https://accounts.google.com/o/oauth2/v2/auth"
  | .slack => "https://slack.com/oauth/v2/authorize"

/-- Tokens of a user have a scope parameter of their own at one provider. -/
def scopeParameterOf : Provider → String
  | .google => "scope"
  | .slack => "user_scope"

/-- The scope that is asked for unless another is configured. -/
def defaultScope : Provider → String
  | .google => "https://www.googleapis.com/auth/documents.readonly"
  | .slack => "channels:history,channels:read,search:read"

def ofProvider (provider : Provider) (settings : ProviderSettings) : AuthorizeSettings :=
  { authorizeUrl := settings.authorizeUrl.getD (defaultUrl provider)
    scopeParameter := scopeParameterOf provider
    scope := settings.scope.getD (defaultScope provider)
    clientId := settings.clientId
    redirectUri := settings.redirectUri }

def parameters (settings : AuthorizeSettings) (returnPage : String) :
    List (String × String) :=
  [(settings.scopeParameter, settings.scope), ("client_id", settings.clientId)] ++
    (match settings.redirectUri with
      | some uri => [("redirect_uri", uri)]
      | none => []) ++
    [("response_type", "code"), ("state", returnPage)]

def url (settings : AuthorizeSettings) (returnPage : String) : String :=
  let written := (settings.parameters returnPage).map fun (name, value) =>
    name ++ "=" ++ Text.Percent.encode value
  settings.authorizeUrl ++ "?" ++ String.intercalate "&" written

end AuthorizeSettings

end PromptClient
