import OAuthEndpoint.Application
import OAuthEndpoint.Dotenv
import OAuthEndpoint.Log.Filter
import OAuthEndpoint.Log.Line
import OAuthEndpoint.Settings.Load

/-! The start of the server: which settings file is read, whether the settings allow a start, and
what the log says of it. -/

namespace OAuthEndpoint

/-- Where the path of the settings file comes from. -/
inductive PathSource where
  | argument
  | environment
  | default
deriving DecidableEq, Repr

def PathSource.name : PathSource → String
  | .argument => "CLI argument (--config)"
  | .environment => "environment variable (PORTICO_CONFIG)"
  | .default => "default"

/-- The argument after the first `--config` that has one. -/
def pathArgument? : List String → Option String
  | [] => none
  | [_] => none
  | argument :: path :: rest =>
    if argument = "--config" then some path else pathArgument? (path :: rest)

/-- The path of the settings file and where it comes from: an argument, else a variable that is not
empty, else the default. -/
def settingsPath (arguments : List String) (environment : Environment) : String × PathSource :=
  match pathArgument? arguments with
  | some path => (path, .argument)
  | none =>
    match environment.get? "PORTICO_CONFIG" with
    | some path =>
      if path = "" then (Settings.defaultPath, .default) else (path, .environment)
    | none => (Settings.defaultPath, .default)

/-- The text of the nearest `.env` file, in the start folder or one around it. -/
def dotenvText? (directory : Directory) : Option String :=
  directory.nearest? ".env".toList directory.start.length

/-- The variables with those of the nearest `.env` file, and whether that file has a wrong line. -/
def fullEnvironment (directory : Directory) (environment : Environment) :
    Option (Environment × Bool) :=
  match dotenvText? directory with
  | some text => Dotenv.apply environment text
  | none => some (environment, false)

/-- How a start ends. -/
inductive Start where
  /-- The settings could not be loaded. -/
  | refused (fault : LoadFault)
  /-- The settings are in order and the application could not be built all the same. -/
  | failed (fault : Application.Fault)
  /-- The server serves. -/
  | serving (settings : Settings) (application : Application)

namespace Start

/-- What is told of a start that fails. -/
def message? (wording : LoadFault.Wording) : Start → Option String
  | .refused fault => some ("Configuration error: " ++ fault.message wording)
  | .failed fault => some ("Server initialization failed: " ++ fault.message)
  | .serving _ _ => none

/-- The exit status of a start that fails. -/
def status? : Start → Option UInt8
  | .refused _ => some 2
  | .failed _ => some 2
  | .serving _ _ => none

end Start

/-- An event of a launch, with the part of the server that raised it and whether the filter of that
time shows it. -/
structure Notice where
  target : String
  event : Log.Event
  isShown : Bool
deriving DecidableEq, Repr

def Notice.filtered (filter : Log.Filter) (target : String) (event : Log.Event) : Notice :=
  ⟨target, event, filter target event⟩

structure Launch where
  /-- The `.env` file has a wrong line. -/
  dotenvWrong : Bool
  path : String
  source : PathSource
  notices : List Notice
  start : Start

namespace Launch

def loadedEvent (path : String) (source : PathSource) : Log.Event :=
  ⟨.info, "Configuration loaded", [("path", .text path), ("source", .text source.name)]⟩

/-- A variable `RUST_LOG` outweighs the level in the settings. -/
def levelEvent (environment : Environment) (settings : Settings) : Log.Event :=
  if (environment.get? "RUST_LOG").isSome then
    ⟨.debug, "RUST_LOG is set; ignoring logging.level", []⟩
  else ⟨.debug, "Logging level applied", [("level", .quoted settings.logging.level)]⟩

/-- The filter of a level, or of the usual one where that is no filter. -/
def levelFilter (filters : Log.Filters) (level : String) : Log.Filter :=
  (filters.strict? (Text.lower level)).getD (filters.lenient "info")

/-- The filter before the settings are known. -/
def startFilter (filters : Log.Filters) (environment : Environment) : Log.Filter :=
  ((environment.get? "RUST_LOG").bind filters.strict?).getD (levelFilter filters "info")

/-- The filter once the settings are known. -/
def settledFilter (filters : Log.Filters) (environment : Environment) (settings : Settings) :
    Log.Filter :=
  if (environment.get? "RUST_LOG").isSome then startFilter filters environment
  else levelFilter filters settings.logging.level

/-- The start from settings that are loaded. -/
def serve (settings : Settings) (issuer : CodeGrant.Issuer) : Logged Start :=
  match Application.ofSettings settings issuer with
  | .error fault => .silent (.failed fault)
  | .ok application => application.map fun application => .serving settings application

/-- What is told of a start from settings that are loaded. -/
def noticesOf (filters : Log.Filters) (environment : Environment) (path : String)
    (source : PathSource) (settings : Settings) (started : Logged Start) : List Notice :=
  let settled := settledFilter filters environment settings
  .filtered (startFilter filters environment) "portico_server" (loadedEvent path source) ::
    .filtered settled "portico_server::observability" (levelEvent environment settings) ::
    started.events.map (.filtered settled "portico_server::server")

/-- Launches the server with the arguments after its name.  There is no launch where the `.env` file
has a value that cannot be set: the process ends on it before anything else is done. -/
def run (filters : Log.Filters) (arguments : List String) (directory : Directory)
    (environment : Environment) (issuer : CodeGrant.Issuer) : Option Launch :=
  match fullEnvironment directory environment with
  | none => none
  | some (environment, dotenvWrong) =>
    let (path, source) := settingsPath arguments environment
    match Settings.load directory environment path with
    | .error fault => some { dotenvWrong, path, source, notices := [], start := .refused fault }
    | .ok settings =>
      let started := serve settings issuer
      some { dotenvWrong, path, source, start := started.value
             notices := noticesOf filters environment path source settings started }

/-- The notices that are shown, as lines. -/
def logLines (launch : Launch) : List String :=
  (launch.notices.filter Notice.isShown).map fun notice => notice.event.line notice.target

/-- What the libraries say of what is wrong at a launch. -/
structure Wording extends LoadFault.Wording where
  dotenv : String
deriving DecidableEq, Repr

/-- What standard error has of a launch. -/
def errorLines (wording : Wording) (launch : Launch) : List String :=
  (if launch.dotenvWrong then ["Warning: Failed to load .env file: " ++ wording.dotenv] else []) ++
    (launch.start.message? wording.toWording).toList

end Launch

end OAuthEndpoint
