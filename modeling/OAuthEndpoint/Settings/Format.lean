import OAuthEndpoint.Ini
import OAuthEndpoint.Json.Reader
import OAuthEndpoint.Json5
import OAuthEndpoint.Ron.Document
import OAuthEndpoint.Toml.Document
import OAuthEndpoint.Yaml.Document

/-! The formats of settings files.  The extension of a file's name says which one it has. -/

namespace OAuthEndpoint.Settings

inductive Format where
  | toml
  | json
  | yaml
  | ini
  | ron
  | json5
deriving DecidableEq, Repr

namespace Format

/-- The extensions that name formats, in lower case letters alone. -/
def extensions : List (String × Format) :=
  [("toml", .toml), ("json", .json), ("yaml", .yaml), ("yml", .yaml), ("ini", .ini), ("ron", .ron),
    ("json5", .json5)]

/-- The data of a document. -/
def data? (format : Format) (text : String) : Option Data :=
  match format with
  | .toml => Toml.parse? text
  | .json => Json.parse? text
  | .yaml => Yaml.parse? text
  | .ini => Ini.parse? text
  | .ron => Ron.parse? text
  | .json5 => Json5.parse? text

/-- The text without a byte order mark at its start. -/
def withoutMark (text : String) : String :=
  match text.toList with
  | '\uFEFF' :: rest => String.ofList rest
  | _ => text

/-- The entries of a document, which is a table. -/
def entries? (format : Format) (text : String) : Option (List (String × Data)) :=
  match format.data? (withoutMark text) with
  | some (.table entries) => some entries
  | _ => none

end Format

end OAuthEndpoint.Settings
