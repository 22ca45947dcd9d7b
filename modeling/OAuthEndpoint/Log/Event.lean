/-! What the endpoint tells the operator: events and spans with named fields, in order.  A `Logged`
value carries the events raised on the way to it. -/

namespace OAuthEndpoint.Log

inductive Level where
  | trace
  | debug
  | info
  | warn
  | error
deriving DecidableEq, Repr

namespace Level

def name : Level → String
  | .trace => "TRACE"
  | .debug => "DEBUG"
  | .info => "INFO"
  | .warn => "WARN"
  | .error => "ERROR"

/-- More severe levels rank higher. -/
def rank : Level → Nat
  | .trace => 0
  | .debug => 1
  | .info => 2
  | .warn => 3
  | .error => 4

end Level

/-- A field is shown as it is (`text`), or quoted as a string of the program is (`quoted`). -/
inductive FieldValue where
  | text (value : String)
  | quoted (value : String)
  | flag (value : Bool)
  | number (value : Nat)
deriving DecidableEq, Repr

structure Event where
  level : Level
  message : String
  fields : List (String × FieldValue)
deriving DecidableEq, Repr

/-- An entry of the log: something that happened, or the start of a stretch of work. -/
inductive Entry where
  | event (event : Event)
  | span (level : Level) (name : String) (fields : List (String × FieldValue))
deriving DecidableEq, Repr

/-- Who raises an entry: the server's own code, or the framework that it runs in. -/
inductive Origin where
  | server
  | framework
deriving DecidableEq, Repr

structure Record where
  origin : Origin
  entry : Entry
deriving DecidableEq, Repr

/-- The entries that have an origin. -/
def entriesOf (origin : Origin) (records : List Record) : List Entry :=
  (records.filter fun record => record.origin == origin).map Record.entry

/-- Events as records of one origin. -/
def recordsOf (origin : Origin) (events : List Event) : List Record :=
  events.map fun event => ⟨origin, .event event⟩

end OAuthEndpoint.Log

namespace OAuthEndpoint

/-- A value with the events raised on the way to it. -/
structure Logged (α : Type) where
  events : List Log.Event
  value : α
deriving Repr

namespace Logged

variable {α β : Type}

/-- A value that raised nothing. -/
def silent (value : α) : Logged α := ⟨[], value⟩

/-- A value that raised one event. -/
def raised (event : Log.Event) (value : α) : Logged α := ⟨[event], value⟩

/-- Goes on with the value; what that raises comes after. -/
def bind (first : Logged α) (next : α → Logged β) : Logged β :=
  ⟨first.events ++ (next first.value).events, (next first.value).value⟩

/-- The same events with another value. -/
def map (f : α → β) (logged : Logged α) : Logged β := ⟨logged.events, f logged.value⟩

/-- An event before all others. -/
def after (event : Log.Event) (logged : Logged α) : Logged α :=
  ⟨event :: logged.events, logged.value⟩

@[simp] theorem value_silent (value : α) : (silent value).value = value := rfl
@[simp] theorem events_raised (event : Log.Event) (value : α) :
    (raised event value).events = [event] := rfl
@[simp] theorem value_raised (event : Log.Event) (value : α) : (raised event value).value = value :=
  rfl
@[simp] theorem events_bind (first : Logged α) (next : α → Logged β) :
    (first.bind next).events = first.events ++ (next first.value).events := rfl
@[simp] theorem value_bind (first : Logged α) (next : α → Logged β) :
    (first.bind next).value = (next first.value).value := rfl
@[simp] theorem events_map (f : α → β) (logged : Logged α) : (logged.map f).events = logged.events :=
  rfl
@[simp] theorem value_map (f : α → β) (logged : Logged α) : (logged.map f).value = f logged.value :=
  rfl
@[simp] theorem events_after (event : Log.Event) (logged : Logged α) :
    (logged.after event).events = event :: logged.events := rfl
@[simp] theorem value_after (event : Log.Event) (logged : Logged α) :
    (logged.after event).value = logged.value := rfl

end Logged

end OAuthEndpoint
