import OAuthEndpoint.Log.Event
import OAuthEndpoint.Text.Ascii
import OAuthEndpoint.Text.Pieces

/-! Which events the log shows.  The server leaves the reading of filters to a library, which is a
parameter here (`Filters`).  One reading is that of filters without spans and fields: directives
such as `portico_server=debug` with commas between (`Filters.plain`). -/

namespace OAuthEndpoint.Log

open Text

/-- Which events of which part of the server are shown. -/
abbrev Filter := String → Event → Bool

/-- How filters are read.  The strict reading refuses a text that is wrong anywhere; the lenient one
leaves out what is wrong. -/
structure Filters where
  strict? : String → Option Filter
  lenient : String → Filter

/-- The least level that is shown, or none. -/
abbrev Threshold := Option Level

/-- The threshold of a level's name in any letter case, or of its number. -/
def Threshold.ofName? (name : List Char) : Option Threshold :=
  match String.ofList (name.map Char.toLower) with
  | "trace" | "5" => some (some .trace)
  | "debug" | "4" => some (some .debug)
  | "info" | "3" => some (some .info)
  | "warn" | "2" => some (some .warn)
  | "error" | "1" => some (some .error)
  | "off" | "0" => some none
  | _ => none

def Threshold.shows (threshold : Threshold) (event : Event) : Bool :=
  match threshold with
  | some level => level.rank ≤ event.level.rank
  | none => false

/-- What is shown of the targets that start with a text. -/
structure Directive where
  target : List Char
  threshold : Threshold
deriving DecidableEq, Repr

namespace Directive

def isTargetChar (c : Char) : Bool := c.isAlphanum || c == '_' || c == ':' || c == '-'

/-- Reads a directive.  A level alone is for all targets, and a target alone shows all levels. -/
def parse? (text : List Char) : Option Directive :=
  match Threshold.ofName? text with
  | some threshold => some ⟨[], threshold⟩
  | none =>
    let (target, level) := cut (· == '=') text
    if target.isEmpty || !target.all isTargetChar then none
    else match level with
      | none | some [] => some ⟨target, some .trace⟩
      | some name => (Threshold.ofName? name).map fun threshold => ⟨target, threshold⟩

/-- The more specific of two directives, and of equally specific ones the later. -/
def orLater (directive : Directive) : Option Directive → Directive
  | some other => if directive.target.length < other.target.length then other else directive
  | none => directive

end Directive

/-- The most specific directive for its target decides on an event.  Where there are no directives
at all, errors are shown. -/
def Filter.ofDirectives (directives : List Directive) : Filter := fun target event =>
  let directives := if directives.isEmpty then [⟨[], some .error⟩] else directives
  let fitting := directives.filter fun directive => directive.target.isPrefixOf target.toList
  match fitting.foldl (fun best directive => some (directive.orLater best)) none with
  | some directive => directive.threshold.shows event
  | none => false

/-- The directives of a filter, as they stand in its text. -/
def pieces (text : String) : List (List Char) :=
  (split (· == ',') text.toList).filter fun piece => !piece.isEmpty

def Filters.plain : Filters where
  strict? text := ((pieces text).mapM Directive.parse?).map Filter.ofDirectives
  lenient text := .ofDirectives ((pieces text).filterMap Directive.parse?)

end OAuthEndpoint.Log
