import OAuthEndpoint.Client
import OAuthEndpoint.Net.SocketAddress
import OAuthEndpoint.Text.Ascii

/-! The settings of the server and the check that they make sense.  The check reports the first
fault, in the order port, level, state length, clients. -/

namespace OAuthEndpoint

structure ServerSettings where
  host : String := "0.0.0.0"
  port : UInt16 := 8080
deriving DecidableEq, Repr

structure LoggingSettings where
  level : String := "info"
deriving DecidableEq, Repr

/-- A state of fewer characters than this can be guessed, whatever the settings say. -/
def minStateLengthFloor : Nat := 8

structure AuthorizeSettings where
  minStateLength : Nat := minStateLengthFloor
deriving DecidableEq, Repr

namespace AuthorizeSettings

inductive Fault where
  | stateLengthBelowFloor (length : Nat)
deriving DecidableEq, Repr

/-- The name of the field at fault. -/
def Fault.field : Fault → String
  | .stateLengthBelowFloor _ => "min_state_length"

def Fault.message (fault : Fault) : String :=
  match fault with
  | .stateLengthBelowFloor length =>
    "Invalid value for " ++ fault.field ++ ": must be at least " ++ toString minStateLengthFloor ++
      ", got " ++ toString length

def validate (settings : AuthorizeSettings) : Except Fault Unit :=
  if settings.minStateLength < minStateLengthFloor then
    .error (.stateLengthBelowFloor settings.minStateLength)
  else .ok ()

end AuthorizeSettings

structure Settings where
  server : ServerSettings := {}
  logging : LoggingSettings := {}
  authorize : AuthorizeSettings := {}
  clients : List Client := []
deriving DecidableEq, Repr

namespace Settings

/-- The names of the logging levels, from the most talkative to silence. -/
def levelNames : List String := ["trace", "debug", "info", "warn", "error", "off"]

inductive Fault where
  | portIsZero
  | unknownLevel
  | authorize (fault : AuthorizeSettings.Fault)
  | client (fault : Client.Fault)
  | duplicateClient (id : String)
deriving DecidableEq, Repr

def Fault.message : Fault → String
  | .portIsZero => "server.port must be > 0"
  | .unknownLevel =>
    "logging.level must be one of [" ++
      ", ".intercalate (levelNames.map fun name => "\"" ++ name ++ "\"") ++ "]"
  | .authorize fault => "authorize: " ++ fault.message
  | .client fault => "clients: " ++ fault.message
  | .duplicateClient id => "clients: duplicate client_id '" ++ id ++ "'"

/-- Checks clients one after another; `seen` holds the ids of those before. -/
def checkClients (seen : List String) : List Client → Except Fault Unit
  | [] => .ok ()
  | client :: clients =>
    match client.validate with
    | .error fault => .error (.client fault)
    | .ok () =>
      if client.id ∈ seen then .error (.duplicateClient client.id)
      else checkClients (client.id :: seen) clients

/-- Checks the settings.  The level may be written in any letter case. -/
def validate (settings : Settings) : Except Fault Unit :=
  if settings.server.port = 0 then .error .portIsZero
  else if Text.lower settings.logging.level ∉ levelNames then .error .unknownLevel
  else match settings.authorize.validate with
    | .error fault => .error (.authorize fault)
    | .ok () => checkClients [] settings.clients

/-- Where the server listens: a host that is no IP address stands for every local address. -/
def address (settings : Settings) : Net.SocketAddress where
  ip := (Net.IpAddress.parse? settings.server.host).getD (.v4 .unspecified)
  port := settings.server.port

end Settings

end OAuthEndpoint
