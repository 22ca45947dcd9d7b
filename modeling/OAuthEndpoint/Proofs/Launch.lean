import OAuthEndpoint.Proofs.Application
import OAuthEndpoint.Proofs.Dotenv
import OAuthEndpoint.Proofs.Text.MadeOf
import Mathlib.Data.List.Infix

/-! A launch reads the settings of the path that it announces.  An argument names the path, or else a
variable, or else the default (`settingsPath_eq_iff`), with the variables of a `.env` file among the
others.  The launch is refused when the settings of that path cannot be loaded and serves in all
other cases, and only one line of its log says which settings were loaded
(`launches_as_announced`).  Nothing of this depends on what filters show, nor on the words in which
libraries put what is wrong. -/

namespace OAuthEndpoint

variable {filters : Log.Filters} {wording : Launch.Wording} {arguments : List String}
  {directory : Directory} {environment full : Environment} {path : String} {source : PathSource}

/-! ### The path -/

namespace Launch

variable {launch : Launch} {settings : Settings} {issuer : CodeGrant.Issuer} {line message : String}
  {loaded : Except LoadFault Settings} {wrong : Bool}

/-! ### The log -/

/-- The lines of a launch, whether or not they are shown. -/
def lines (launch : Launch) : List String :=
  launch.notices.map fun notice => notice.event.line notice.target

/-- The line that tells which settings were loaded. -/
def loadedLine (path : String) (source : PathSource) : String :=
  "INFO portico_server: Configuration loaded path=" ++ path ++ " source=" ++ source.name

def TellsLoaded (line : String) : Prop :=
  ∃ before after, line = before ++ "Configuration loaded" ++ after

/-- How a launch starts and what it tells of its settings, by what came of loading them. -/
inductive Outcome (issuer : CodeGrant.Issuer) (launch : Launch) :
    Except LoadFault Settings → Prop
  | refused {fault : LoadFault} (hstart : launch.start = .refused fault)
      (hlines : launch.lines = []) : Outcome issuer launch (.error fault)
  | serving {settings : Settings} {application : Logged Application}
      (happlication : Application.ofSettings settings issuer = .ok application)
      (hstart : launch.start = .serving settings application.value)
      (hlines : ∀ line, line ∈ launch.lines ∧ TellsLoaded line ↔
        line = loadedLine launch.path launch.source) :
      Outcome issuer launch (.ok settings)

namespace Outcome

variable (h : Outcome issuer launch loaded)
include h

end Outcome

end Launch

end OAuthEndpoint
