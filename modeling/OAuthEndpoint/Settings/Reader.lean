import OAuthEndpoint.Data.Reader
import OAuthEndpoint.Settings.Basic

/-! Settings read from a data tree.  A missing field has its default, a field that is unknown does
not count, and a field of the wrong kind fails the whole. -/

namespace OAuthEndpoint

open Data

def ServerSettings.read? (reading : Reading) (data : Data) : Option ServerSettings := do
  let field ← reading.record? ["host", "port"] data
  let host ← readOr reading.text "0.0.0.0" (field "host")
  let port ← readOr (reading.naturalBelow UInt16.size) 8080 (field "port")
  return { host, port := UInt16.ofNat port }

def LoggingSettings.read? (reading : Reading) (data : Data) : Option LoggingSettings := do
  let field ← reading.record? ["level"] data
  return { level := ← readOr reading.text "info" (field "level") }

def AuthorizeSettings.read? (reading : Reading) (data : Data) : Option AuthorizeSettings := do
  let field ← reading.record? ["min_state_length"] data
  return {
    minStateLength :=
      ← readOr (reading.naturalBelow UInt64.size) minStateLengthFloor (field "min_state_length") }

/-- A client must have an id. -/
def Client.read? (reading : Reading) (data : Data) : Option Client := do
  let field ← reading.record? ["client_id", "name", "redirect_uris"] data
  let id ← (field "client_id").bind reading.text
  let name ← readOr reading.text "" (field "name")
  let redirectUris ← readOr (readList? reading.text) [] (field "redirect_uris")
  return { id, name, redirectUris }

def Settings.read? (reading : Reading) (data : Data) : Option Settings := do
  let field ← reading.record? ["server", "logging", "authorize", "clients"] data
  return {
    server := ← readOr (ServerSettings.read? reading) {} (field "server")
    logging := ← readOr (LoggingSettings.read? reading) {} (field "logging")
    authorize := ← readOr (AuthorizeSettings.read? reading) {} (field "authorize")
    clients := ← readOr (readList? (Client.read? reading)) [] (field "clients") }

end OAuthEndpoint
