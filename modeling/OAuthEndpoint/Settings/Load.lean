import OAuthEndpoint.Settings.Directory
import OAuthEndpoint.Settings.Environment
import OAuthEndpoint.Settings.Format
import OAuthEndpoint.Settings.Reader

/-! Loading settings: the defaults, a settings file over them, and environment variables over that.
The file may be missing, but where it is there it must be a document of the format that its name
says. -/

namespace OAuthEndpoint

/-- Why settings cannot be loaded. -/
inductive LoadFault where
  /-- The settings file is there and cannot be read. -/
  | unreadable
  /-- A setting is of the wrong kind, or one that is needed is missing. -/
  | unfit
  | invalid (fault : Settings.Fault)
deriving DecidableEq, Repr

namespace LoadFault

/-- What the libraries that read settings say of those at hand: why there is no document of them,
and why a document has none. -/
structure Wording where
  unreadable : String
  unfit : String
deriving DecidableEq, Repr

def message (wording : Wording) : LoadFault → String
  | .unreadable => "config build error: " ++ wording.unreadable
  | .unfit => "config deserialize error: " ++ wording.unfit
  | .invalid fault => fault.message

end LoadFault

namespace Settings

/-- The file that is read where no other is named. -/
def defaultPath : String := "portico.toml"

/-- Lays each value over what is at its place, in order. -/
def assignAll (base : Data) (layer : List (Data.Place × Data)) : Data :=
  layer.foldl (fun data entry => data.assign entry.1 entry.2) base

/-- The settings of a document: its keys name places. -/
def ofEntries (entries : List (String × Data)) : List (Data.Place × Data) :=
  entries.map fun entry => (Data.Place.ofKey entry.1, entry.2)

/-- The settings of a file whose name has an extension. -/
def ofFile (extension text : String) : Except LoadFault (List (Data.Place × Data)) :=
  match (Format.extensions.lookup extension).bind fun format => format.entries? text with
  | some entries => .ok (ofEntries entries)
  | none => .error .unreadable

/-- The file that stands for a path that leads to no file: the first whose name is longer by a known
extension. -/
def beside? (directory : Directory) (path : String) : Option (String × String) :=
  Format.extensions.findSome? fun (extension, _) =>
    match (Directory.withExtension? path extension).bind directory.find? with
    | some (.file text) => some (extension, text)
    | _ => none

/-- The settings in the file at a path; a path that leads nowhere has none. -/
def inFile (directory : Directory) (path : String) :
    Except LoadFault (List (Data.Place × Data)) :=
  match directory.find? path with
  | none => .ok []
  | some (.file text) => ofFile (Directory.extension path) text
  | some _ =>
    match beside? directory path with
    | some (extension, text) => ofFile extension text
    | none => .error .unreadable

/-- The settings file with the variables laid over it. -/
def merged (directory : Directory) (environment : Environment) (path : String) :
    Except LoadFault Data :=
  (inFile directory path).map fun file =>
    assignAll (assignAll (.table []) file) environment.settings

/-- Reads merged settings and checks them. -/
def ofData (data : Data) : Except LoadFault Settings :=
  match Settings.read? .lenient data with
  | none => .error .unfit
  | some settings =>
    match settings.validate with
    | .error fault => .error (.invalid fault)
    | .ok () => .ok settings

/-- Loads the settings of a path.  The keys of a document are laid down in its order; where two of
them touch one place, the order of a library's table of keys is taken to be that order. -/
def load (directory : Directory) (environment : Environment) (path : String) :
    Except LoadFault Settings := do
  ofData (← merged directory environment path)

/-- Loads the settings of a path, or of the default path where none is given. -/
def loadFrom (directory : Directory) (environment : Environment) :
    Option String → Except LoadFault Settings
  | some path => load directory environment path
  | none => load directory environment defaultPath

end Settings

end OAuthEndpoint
