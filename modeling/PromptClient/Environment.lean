import PromptClient.FileTree

/-! # Environment

The variables that a program is started with, and where they say that the files of
an account belong.
-/

namespace PromptClient

/-- What a program finds around it when it starts. -/
structure Environment where
  settings : List (String × String)
  /-- The home folder that the account list names. -/
  account : Option String
deriving Repr, Inhabited

namespace Environment

def value? (environment : Environment) (name : String) : Option String :=
  environment.settings.lookup name

/-- The home folder: what the variable says unless it is empty, else what the account
list says. -/
def home? (environment : Environment) : Option String :=
  match environment.value? "HOME" with
  | some folder => if folder = "" then environment.account else some folder
  | none => environment.account

/-- The folder that a variable names if it is absolute, else one below the home
folder. -/
def folder? (environment : Environment) (name below : String) : Option String :=
  match environment.value? name with
  | some folder =>
      if folder.startsWith "/" then some folder
      else environment.home?.map fun home => FileTree.join home below
  | none => environment.home?.map fun home => FileTree.join home below

def configFolder (environment : Environment) : String :=
  (environment.folder? "XDG_CONFIG_HOME" ".config").getD "."

def dataFolder (environment : Environment) : String :=
  (environment.folder? "XDG_DATA_HOME" ".local/share").getD "."

end Environment

end PromptClient
