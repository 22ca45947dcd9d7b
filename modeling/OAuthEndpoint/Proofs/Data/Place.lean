import OAuthEndpoint.Data.Place
import OAuthEndpoint.Proofs.Data.Keys

/-! What stands at the end of a path of keys, before and after an assignment: the value at its own
path, and what was there at a path that parts from it (`get?_modify_same`,
`get?_modify_diverge`). -/

namespace OAuthEndpoint.Data

variable {data : Data} {path other : List String}

/-- The data at the end of a path of keys. -/
def get? : List String → Data → Option Data
  | [], data => some data
  | key :: path, data => (data.entries.lookup key).bind (get? path)

/-- The place at the end of a path of keys. -/
def placeOf (path : List String) : Place := path.map .key

/-- Two paths that part: neither goes on from the other. -/
def Diverge : List String → List String → Prop
  | first :: path, second :: other => first ≠ second ∨ Diverge path other
  | _, _ => False

instance instDecidableDiverge : (path other : List String) → Decidable (Diverge path other)
  | first :: path, second :: other =>
    have := instDecidableDiverge path other
    inferInstanceAs (Decidable (first ≠ second ∨ Diverge path other))
  | [], _ => .isFalse id
  | _ :: _, [] => .isFalse id

theorem placeOf_inj (h : placeOf path = placeOf other) : path = other :=
  List.map_injective_iff.mpr (fun _ _ => Step.key.inj) h

theorem get?_singleton (entries : List (String × Data)) (key : String) :
    (Data.table entries).get? [key] = entries.lookup key :=
  Option.bind_fun_some (entries.lookup key)

theorem not_diverge_self (path : List String) : ¬Diverge path path := by
  induction path with
  | nil => exact id
  | cons key path ih =>
    rintro (hkey | hrest)
    · exact hkey rfl
    · exact ih hrest

/-- What is missing on the way reads as null. -/
theorem get?_getD_null (found : Option Data) (path : List String) :
    (get? path (found.getD .null)).getD .null = (found.bind (get? path)).getD .null := by
  cases found with
  | some data => rfl
  | none => cases path <;> rfl

theorem entries_modify_cons (change : Data → Data) (key : String) (path : List String)
    (data : Data) :
    (modify change (placeOf (key :: path)) data).entries =
      put key (modify change (placeOf path) ((data.entries.lookup key).getD .null))
        data.entries := rfl

theorem get?_modify_same (change : Data → Data) (path : List String) (data : Data) :
    get? path (modify change (placeOf path) data) =
      some (change ((get? path data).getD .null)) := by
  induction path generalizing data with
  | nil => rfl
  | cons key path ih =>
    rw [get?, entries_modify_cons, lookup_put_same, Option.bind_some, ih, get?_getD_null, get?]

theorem get?_modify_diverge (change : Data → Data) (h : Diverge path other) (data : Data) :
    get? other (modify change (placeOf path) data) = get? other data := by
  induction path generalizing other data with
  | nil => exact h.elim
  | cons first path ih =>
    cases other with
    | nil => exact h.elim
    | cons second other =>
      rw [get?, get?, entries_modify_cons]
      -- The paths part at this key, or else below it.
      by_cases hkey : second = first
      · subst hkey
        have hrest : Diverge path other := h.resolve_left (not_not_intro rfl)
        rw [lookup_put_same, Option.bind_some, ih hrest]
        cases data.entries.lookup second with
        | some inner => rfl
        | none =>
          cases other with
          | nil => cases path <;> exact hrest.elim
          | cons key other => rfl
      · rw [lookup_put_other hkey]

/-! ### Sections -/

def IsTable : Data → Prop
  | .table _ => True
  | _ => False

theorem IsTable.eq (h : data.IsTable) : data = .table data.entries := by
  cases data with
  | table entries => rfl
  | null | flag | integer | float | text | list => exact h.elim

/-- A table whose entries of some names are tables, where they are there at all. -/
structure Sectioned (names : List String) (data : Data) : Prop where
  root : data.IsTable
  sections : ∀ name ∈ names, ∀ inner, data.get? [name] = some inner → inner.IsTable

/-- What is in a section, which is an empty one where it is missing. -/
theorem Sectioned.inner {names : List String} (h : data.Sectioned names) {name : String}
    (hname : name ∈ names) :
    ((data.get? [name]).getD (.table [])).IsTable ∧
      ∀ field, ((data.get? [name]).getD (.table [])).get? [field] = data.get? [name, field] := by
  have hboth (field : String) :
      data.get? [name, field] = (data.get? [name]).bind fun inner => inner.get? [field] := by
    rw [get?, get?]
    cases data.entries.lookup name <;> rfl
  cases hinner : data.get? [name] with
  | none => exact ⟨trivial, fun field => by rw [hboth, hinner]; rfl⟩
  | some inner =>
    exact ⟨h.sections name hname inner hinner, fun field => by rw [hboth, hinner]; rfl⟩

/-- A change within a section leaves sections. -/
theorem Sectioned.modify {names : List String} (h : data.Sectioned names)
    (change : Data → Data) (key next : String) (path : List String) :
    (modify change (placeOf (key :: next :: path)) data).Sectioned names where
  root := trivial
  sections name hname inner hinner := by
    rw [get?, entries_modify_cons] at hinner
    by_cases hkey : name = key
    · subst hkey
      rw [lookup_put_same] at hinner
      cases hinner
      trivial
    · rw [lookup_put_other hkey] at hinner
      exact h.sections name hname inner hinner

/-! ### Copies

Data laid over nothing is a copy of it, where each key stands once. -/

theorem get?_merge_null (h : data.KeyedOnce) (path : List String) :
    get? path (merge .null data) = (get? path data).map (merge .null) := by
  induction path generalizing data with
  | nil => rfl
  | cons key path ih =>
    cases h with
    | table distinct values_once =>
      rw [merge, get?, get?]
      simp only [entries]
      rw [lookup_mergeEntries distinct]
      split
      · next value hvalue =>
        rw [hvalue]
        exact ih (values_once (key, value) (mem_of_lookup hvalue))
      · next hnone =>
        rw [hnone]
        rfl
    | null | flag | integer | float | text | list => rfl

theorem IsTable.merge_null (h : data.IsTable) : (merge .null data).IsTable := by
  rw [h.eq]
  trivial

theorem Sectioned.merge_null {names : List String} (h : data.Sectioned names)
    (honce : data.KeyedOnce) : (merge .null data).Sectioned names where
  root := h.root.merge_null
  sections name hname inner hinner := by
    rw [get?_merge_null honce] at hinner
    obtain ⟨source, hsource, rfl⟩ := Option.map_eq_some_iff.mp hinner
    exact (h.sections name hname source hsource).merge_null

end OAuthEndpoint.Data
