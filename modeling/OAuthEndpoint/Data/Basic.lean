import OAuthEndpoint.Number.Binary64

/-! Data trees: what a settings file, an environment variable or a JSON text holds before it is read
as settings.  Tables keep their entries in order, each key once. -/

namespace OAuthEndpoint

inductive Data where
  | null
  | flag (value : Bool)
  | integer (value : Int)
  | float (value : Number.Binary64)
  | text (value : String)
  | list (items : List Data)
  | table (entries : List (String × Data))
deriving Repr, Inhabited

namespace Data

variable {α : Type}

/-- A value at a key: in the place of the one before, or else at the end. -/
def put (key : String) (value : α) : List (String × α) → List (String × α)
  | [] => [(key, value)]
  | entry :: entries =>
    if entry.1 == key then (key, value) :: entries else entry :: put key value entries

@[simp] theorem lookup_put_same (key : String) (value : α) (entries : List (String × α)) :
    (put key value entries).lookup key = some value := by
  induction entries with
  | nil => simp [put]
  | cons entry entries ih =>
    obtain ⟨name, first⟩ := entry
    by_cases h : name = key
    · simp [put, h]
    · have hne : (key == name) = false := beq_false_of_ne (Ne.symm h)
      simp [put, h, List.lookup_cons, hne, ih]

theorem lookup_put_other {key other : String} (h : other ≠ key) (value : α)
    (entries : List (String × α)) : (put key value entries).lookup other = entries.lookup other := by
  induction entries with
  | nil => simp [put, List.lookup_cons, beq_false_of_ne h]
  | cons entry entries ih =>
    obtain ⟨name, first⟩ := entry
    by_cases hk : name = key
    · simp [put, hk, List.lookup_cons, beq_false_of_ne h]
    · simp only [put, beq_iff_eq, hk, if_false, List.lookup_cons, ih]

/-- The entries of a table; all else has none. -/
def entries : Data → List (String × Data)
  | .table entries => entries
  | _ => []

/-- The items of a list; all else has none. -/
def items : Data → List Data
  | .list items => items
  | _ => []

mutual

/-- Lays data over other data: a table over a table entry by entry, and all else in its place. -/
def merge (base : Data) : Data → Data
  | .table upper => .table (mergeEntries base.entries upper)
  | .null => .null
  | .flag value => .flag value
  | .integer value => .integer value
  | .float value => .float value
  | .text value => .text value
  | .list items => .list items

/-- Lays each entry over the one of its key. -/
def mergeEntries (base : List (String × Data)) : List (String × Data) → List (String × Data)
  | [] => base
  | (key, value) :: upper =>
    mergeEntries (put key (merge ((base.lookup key).getD .null) value) base) upper

end

end Data

end OAuthEndpoint
