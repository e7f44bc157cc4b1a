import PromptClient.Credential

/-! # The form

The form shows its view a snapshot whenever what is to be seen has changed: when it
is locked or unlocked, and when its layout is replaced by a different one.
-/

namespace PromptClient

/-- Which credential controls are shown, and whether they allow submitting. -/
structure CredentialLayout where
  loginSectionVisible : Bool
  manualSectionVisible : Bool
  loginVisible : Bool
  logoutVisible : Bool
  submitReady : Bool
deriving DecidableEq, Repr

def CredentialLayout.hidden : CredentialLayout :=
  ⟨false, false, false, false, false⟩

def CredentialLayout.derive (mode : CredentialMode) (loggedIn manualPresent : Bool) :
    CredentialLayout :=
  let sessionBased := mode = .session
  { loginSectionVisible := sessionBased
    manualSectionVisible := !sessionBased
    loginVisible := !loggedIn
    logoutVisible := loggedIn
    submitReady := if sessionBased then loggedIn else manualPresent }

structure FormSnapshot where
  controlsEnabled : Bool
  submitEnabled : Bool
  layout : CredentialLayout
deriving DecidableEq, Repr

/-- The form's state. At most one submission holds the lock. -/
structure Form where
  locked : Bool
  layout : CredentialLayout
deriving DecidableEq, Repr

namespace Form

def initial : Form := ⟨false, .hidden⟩

def snapshot (form : Form) : FormSnapshot :=
  { controlsEnabled := !form.locked
    submitEnabled := !form.locked && form.layout.submitReady
    layout := form.layout }

def canSubmit (form : Form) : Bool :=
  form.snapshot.submitEnabled

/-- The form with the lock taken, unless it is taken already. -/
def lock? (form : Form) : Option Form :=
  if form.locked then none else some { form with locked := true }

def unlock (form : Form) : Form :=
  { form with locked := false }

def withLayout (form : Form) (layout : CredentialLayout) : Form :=
  { form with layout := layout }

def shownFor (form : Form) (layout : CredentialLayout) : List FormSnapshot :=
  if form.layout = layout then [] else [(form.withLayout layout).snapshot]

end Form

end PromptClient
