import PromptClient.Json.Printer
import PromptClient.Json.Reader
import PromptClient.Tool

/-! # The written form of a provider

A provider is written as a JSON text with its name. Reading also takes an object
whose only member has that name and the value null.
-/

namespace PromptClient.Provider

def ofJson? : Json → Option Provider
  | .text name => ofName? name
  | .object [(name, .null)] => ofName? name
  | _ => none

def read? (text : String) : Option Provider :=
  (Json.parse? text).bind ofJson?

def write (provider : Provider) : String :=
  (Json.text provider.name).compact

theorem ofJson?_text (provider : Provider) :
    ofJson? (.text provider.name) = some provider := by
  cases provider <;> rfl

end PromptClient.Provider
