import OAuthEndpoint.Log.Event

/-! Events as lines of text. -/

namespace OAuthEndpoint.Log

def FieldValue.render : FieldValue → String
  | .text value => value
  | .quoted value => "\"" ++ value ++ "\""
  | .flag value => toString value
  | .number value => toString value

/-- The level, the part of the program that speaks, the message and the fields. -/
def Event.line (event : Event) (target : String) : String :=
  event.level.name ++ " " ++ target ++ ": " ++ " ".intercalate
    (event.message :: event.fields.map fun field => field.1 ++ "=" ++ field.2.render)

end OAuthEndpoint.Log
