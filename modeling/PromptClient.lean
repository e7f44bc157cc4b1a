import PromptClient.Arguments.Grammar
import PromptClient.Arguments.Invocation
import PromptClient.Attempt
import PromptClient.Authorize
import PromptClient.Backend
import PromptClient.Command
import PromptClient.Config
import PromptClient.Cookie
import PromptClient.Cookie.Text
import PromptClient.Credential
import PromptClient.Desk
import PromptClient.Environment
import PromptClient.Failure
import PromptClient.FileTree
import PromptClient.Form
import PromptClient.History
import PromptClient.Html.Basic
import PromptClient.Html.Builder
import PromptClient.Html.Draft
import PromptClient.Html.Modes
import PromptClient.Html.NamedChars
import PromptClient.Html.Parse
import PromptClient.Html.Policy
import PromptClient.Html.Reader
import PromptClient.Html.Stack
import PromptClient.Html.Writer
import PromptClient.Job
import PromptClient.Json.Basic
import PromptClient.Json.Printer
import PromptClient.Json.Reader
import PromptClient.Login
import PromptClient.Main
import PromptClient.Markdown.Basic
import PromptClient.Markdown.Definition
import PromptClient.Markdown.Emphasis
import PromptClient.Markdown.Frame
import PromptClient.Markdown.Inline
import PromptClient.Markdown.Line
import PromptClient.Markdown.Opening
import PromptClient.Markdown.Outline
import PromptClient.Markdown.Page
import PromptClient.Markdown.Reference
import PromptClient.Markdown.Table
import PromptClient.Markdown.Tag
import PromptClient.Markdown.Target
import PromptClient.Markdown.Token
import PromptClient.MarkdownPresenter
import PromptClient.Number.Binary64
import PromptClient.Number.Scientific
import PromptClient.Number.Shortest
import PromptClient.Presenter
import PromptClient.Prompt
import PromptClient.Proofs.Address
import PromptClient.Proofs.Attempt
import PromptClient.Proofs.AuthorizeQuery
import PromptClient.Proofs.CallingOff
import PromptClient.Proofs.CookieFile
import PromptClient.Proofs.CookieHeader
import PromptClient.Proofs.CookieJson
import PromptClient.Proofs.CookieStores
import PromptClient.Proofs.Course
import PromptClient.Proofs.Credentials
import PromptClient.Proofs.Crowd
import PromptClient.Proofs.Databases
import PromptClient.Proofs.Encoding
import PromptClient.Proofs.Events
import PromptClient.Proofs.Expiry
import PromptClient.Proofs.Fields
import PromptClient.Proofs.FormUse
import PromptClient.Proofs.History
import PromptClient.Proofs.HttpJobs
import PromptClient.Proofs.Import
import PromptClient.Proofs.Json
import PromptClient.Proofs.JsonNumbers
import PromptClient.Proofs.JsonPlaces
import PromptClient.Proofs.JsonSkipping
import PromptClient.Proofs.Judgement
import PromptClient.Proofs.LoginState
import PromptClient.Proofs.Office
import PromptClient.Proofs.OneLine
import PromptClient.Proofs.Orders
import PromptClient.Proofs.Overlap
import PromptClient.Proofs.PollLimit
import PromptClient.Proofs.Polling
import PromptClient.Proofs.Prompt
import PromptClient.Proofs.Reception
import PromptClient.Proofs.Recording
import PromptClient.Proofs.RequestBody
import PromptClient.Proofs.Rounding
import PromptClient.Proofs.SessionCookie
import PromptClient.Proofs.SessionReading
import PromptClient.Proofs.Stores
import PromptClient.Proofs.Submission
import PromptClient.Proofs.Trimming
import PromptClient.Proofs.Upkeep
import PromptClient.ProviderText
import PromptClient.Rehearsal.Clockwork
import PromptClient.Rehearsal.Errands
import PromptClient.Rehearsal.Script
import PromptClient.Rehearsal.Server
import PromptClient.Rehearsal.Stage
import PromptClient.Rehearsal.Terminal
import PromptClient.Request
import PromptClient.Session
import PromptClient.Storage
import PromptClient.Store.Database
import PromptClient.Store.FieldStore
import PromptClient.Store.Fields
import PromptClient.Store.Text
import PromptClient.Terminal.Line
import PromptClient.Terminal.Run
import PromptClient.Terminal.Workplace
import PromptClient.Text.Base64
import PromptClient.Text.Blank
import PromptClient.Text.CaseFold
import PromptClient.Text.Decimal
import PromptClient.Text.Percent
import PromptClient.Text.Punctuation
import PromptClient.Text.Utf8
import PromptClient.Time.Calendar
import PromptClient.Time.Duration
import PromptClient.Toml.Basic
import PromptClient.Toml.Document
import PromptClient.Toml.Moment
import PromptClient.Toml.Number
import PromptClient.Toml.Reader
import PromptClient.Toml.Text
import PromptClient.Tool
import PromptClient.Url.Host
import PromptClient.Url.Parse
import PromptClient.Url.Path
import PromptClient.Wire
import PromptClient.Proofs.OneLine
