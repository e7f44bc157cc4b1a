import PromptClient.Arguments.Invocation
import PromptClient.MarkdownPresenter
import PromptClient.Terminal.Workplace

/-! # Runs of the program

From the arguments of a run to the command that it carries out, or to the reason why
it carries out none.
-/

namespace PromptClient

/-- What a run finds when it starts. -/
structure World where
  environment : Environment
  files : FileTree
  /-- The time of day, in epoch seconds. -/
  clock : Int
  browserOpens : Bool

namespace World

/-- End at once. -/
def endWith (world : World) (line : Line) (status : ExitStatus) :
    FileTree × List Line × ExitStatus :=
  (world.files, [line], status)

def config (world : World) (invocation : Invocation) : Except ConfigFault Config :=
  let path := invocation.configPath.getD (Config.defaultPath world.environment)
  Config.load world.environment world.files path

/-- The world with a folder for log files, if one can be made. -/
def withLogFolder (world : World) (config : Config) : World :=
  match world.files.makeFolders (config.logFolder world.environment) with
  | .ok files => { world with files := files }
  | .error _ => world

def workplace (world : World) (config : Config) (tool : Tool) (resultPath : Option String) :
    Except String Workplace :=
  Workplace.start config world.environment world.files tool .markdown world.clock
    world.browserOpens resultPath

/-- The place at which an invocation is carried out, or the way in which it has ended
before it came to that. -/
def prepare (world : World) (invocation : Invocation) :
    Except (FileTree × List Line × ExitStatus) Workplace :=
  match world.config invocation with
  | .error fault =>
      .error (world.endWith (.err ("Failed to load config: " ++ fault.message)) .failure)
  | .ok config =>
      let ready := world.withLogFolder config
      match ready.workplace config invocation.tool invocation.resultPath with
      | .error message => .error (ready.endWith (.err ("Error: " ++ message)) .failure)
      | .ok place => .ok place

/-- The command of a run and the place for it, or the way in which the run has ended
without one. -/
def start (world : World) (arguments : List String) :
    Except (FileTree × List Line × ExitStatus) (Workplace × Command) :=
  match Arguments.request arguments with
  | .help => .error (world.endWith (.out Arguments.helpText) .success)
  | .version => .error (world.endWith (.out Arguments.versionText) .success)
  | .misuse => .error (world.endWith (.err Arguments.misuseText) .misuse)
  | .run invocation =>
      match world.prepare invocation with
      | .error ended => .error ended
      | .ok place => .ok (place, invocation.command)

end World

end PromptClient
