import OAuthEndpoint.Data.Basic

/-! The tables of a TOML document while it is read.  A table remembers how it came to be, since that
decides who may add to it: a header may name a table once, and a dotted key may add to tables that
no header named. -/

namespace OAuthEndpoint.Toml

inductive Origin where
  /-- Named by a header of its own. -/
  | header
  /-- Passed through by the header of a table inside it. -/
  | implied
  /-- Passed through by a dotted key. -/
  | dotted
deriving DecidableEq, Repr

inductive Node where
  /-- A value, which nothing may be added to. -/
  | leaf (data : Data)
  | table (origin : Origin) (entries : List (String × Node))
  /-- A list of tables that grows by headers; keys go to the last. -/
  | tables (earlier : List (List (String × Node))) (last : List (String × Node))

abbrev Entries := List (String × Node)

mutual

def Node.toData : Node → Data
  | .leaf data => data
  | .table _ entries => .table (entriesData entries)
  | .tables earlier last => .list (tablesData earlier ++ [.table (entriesData last)])

/-- The entries of a table as data. -/
def entriesData : List (String × Node) → List (String × Data)
  | [] => []
  | (key, node) :: entries => (key, node.toData) :: entriesData entries

/-- Each table of a list as data. -/
def tablesData : List (List (String × Node)) → List Data
  | [] => []
  | entries :: tables => .table (entriesData entries) :: tablesData tables

end

namespace Entries

/-- Adds a value at a dotted key.  The key must be new, and no table on the way may have a header of
its own; the way may lead through the last table of a list but not end there. -/
def assign (data : Data) : List String → Entries → Option Entries
  | [], _ => none
  | [key], entries =>
    if (entries.lookup key).isSome then none else some (entries ++ [(key, .leaf data)])
  | key :: path, entries =>
    match entries.lookup key with
    | none => (assign data path []).map fun inner => entries ++ [(key, .table .dotted inner)]
    | some (.table origin inner) =>
      if origin = .header then none
      else (assign data path inner).map fun inner => Data.put key (.table origin inner) entries
    | some (.tables earlier last) =>
      if path.length > 1 then
        (assign data path last).map fun last => Data.put key (.tables earlier last) entries
      else none
    | some (.leaf _) => none

/-- Walks to the table that holds the last key of a header, making the tables on the way, and
changes its entries there. -/
def atHeader (change : String → Entries → Option Entries) : List String → Entries → Option Entries
  | [], _ => none
  | [key], entries => change key entries
  | key :: path, entries =>
    match entries.lookup key with
    | none =>
      (atHeader change path []).map fun inner => entries ++ [(key, .table .implied inner)]
    | some (.table origin inner) =>
      (atHeader change path inner).map fun inner => Data.put key (.table origin inner) entries
    | some (.tables earlier last) =>
      (atHeader change path last).map fun last => Data.put key (.tables earlier last) entries
    | some (.leaf _) => none

/-- Opens the table of a header, which no header named before. -/
def openTable (key : String) (entries : Entries) : Option Entries :=
  match entries.lookup key with
  | none => some (entries ++ [(key, .table .header [])])
  | some (.table .implied inner) => some (Data.put key (.table .header inner) entries)
  | some _ => none

/-- Opens one more table of a list of tables. -/
def openItem (key : String) (entries : Entries) : Option Entries :=
  match entries.lookup key with
  | none => some (entries ++ [(key, .tables [] [])])
  | some (.tables earlier last) => some (Data.put key (.tables (earlier ++ [last]) []) entries)
  | some _ => none

/-- Changes the entries of the table that the last header opened. -/
def within (change : Entries → Option Entries) : List String → Entries → Option Entries
  | [], entries => change entries
  | key :: path, entries =>
    match entries.lookup key with
    | some (.table origin inner) =>
      (within change path inner).map fun inner => Data.put key (.table origin inner) entries
    | some (.tables earlier last) =>
      (within change path last).map fun last => Data.put key (.tables earlier last) entries
    | _ => none

end Entries

/-- The table of dotted keys and their values. -/
def tableOf? (members : List (List String × Data)) : Option Data :=
  (members.foldlM (fun entries member => Entries.assign member.2 member.1 entries) []).map
    fun entries => .table (entriesData entries)

end OAuthEndpoint.Toml
