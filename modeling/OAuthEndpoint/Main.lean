import OAuthEndpoint.Launch

/-! The command line of the server.  It gathers arguments, variables and files, launches, and prints
what the launch says.  It opens no socket: a listener hands each message to `Application.serve`. -/

open OAuthEndpoint

/-- The variables of the process. -/
def processEnvironment : IO Environment := do
  let bytes ← IO.FS.readBinFile "/proc/self/environ"
  let entries := (Text.split (· == 0) bytes.toList).map Text.Utf8.decodeLossy
  return ⟨entries.filterMap fun entry =>
    match Text.cut (· == '=') entry with
    | (name, some value) => some (String.ofList name, String.ofList value)
    | _ => none⟩

/-- What is at a path: nothing, a file, or something that cannot be read as one. -/
def entryAt (path : String) : IO (List (String × Entry)) := do
  try
    let bytes ← IO.FS.readBinFile path
    return [(path, .file (String.ofList (Text.Utf8.decodeLossy bytes.toList)))]
  catch
    | .noFileOrDirectory .. => return []
    | _ => return [(path, .device)]

/-- The folder that the process was started in. -/
def startFolder : IO Location := do
  let path := (← IO.currentDir).toString
  return (Directory.names path).filter fun name => !name.isEmpty

/-- What is at the paths of a `.env` file in a folder and in those around it. -/
def dotenvEntries (folder : Location) : IO (List (String × Entry)) := do
  let paths := (List.range (folder.length + 1)).map fun depth =>
    String.ofList ('/' :: Text.join ['/'] (folder.take depth ++ [".env".toList]))
  return (← paths.mapM entryAt).flatten

/-- What is at the path of the settings file and at the paths that may stand for it. -/
def settingsEntries (path : String) : IO (List (String × Entry)) := do
  let neighbours := Settings.Format.extensions.filterMap fun (extension, _) =>
    Directory.withExtension? path extension
  return (← (path :: neighbours).mapM entryAt).flatten

/-- What is said of faults in words of the server's own. -/
def wording : Launch.Wording where
  unreadable := "the settings file is no document of a known format"
  unfit := "a setting is missing or of the wrong kind"
  dotenv := "a line is wrong"

def main (arguments : List String) : IO UInt32 := do
  let inherited ← processEnvironment
  let start ← startFolder
  let dotenv ← dotenvEntries start
  let settings ← match fullEnvironment ⟨start, dotenv⟩ inherited with
    | some (environment, _) => settingsEntries (settingsPath arguments environment).1
    | none => pure []
  let entropy ← IO.getRandomBytes 32
  match Launch.run .plain arguments ⟨start, dotenv ++ settings⟩ inherited
      (.ofEntropy entropy.toList) with
  | none =>
    IO.eprintln "A value of the .env file holds a null character."
    return 101
  | some launch =>
    for line in launch.logLines do
      IO.println line
    for line in launch.errorLines wording do
      IO.eprintln line
    return (launch.start.status?.getD 0).toUInt32
