import PromptClient.Html.Writer
import PromptClient.Markdown.Page
import PromptClient.Presenter

/-! # Showing Markdown

Results are Markdown. They are shown as HTML of which only harmless parts are left.
-/

namespace PromptClient

def Presenter.markdown : Presenter :=
  { render := Markdown.toHtml
    sanitize := Html.sanitize }

end PromptClient
