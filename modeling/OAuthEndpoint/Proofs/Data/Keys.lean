import Mathlib.Data.List.Nodup
import OAuthEndpoint.Data.Basic

/-! The keys of tables.  Data is `KeyedOnce` when no table in it has a key twice; then laying a
table over another is decided key by key (`lookup_mergeEntries`). -/

namespace OAuthEndpoint.Data

variable {α : Type} {key : String} {value : α} {entries : List (String × α)}

/-- No table in the data, at any depth, has a key twice. -/
inductive KeyedOnce : Data → Prop
  | null : KeyedOnce .null
  | flag (value : Bool) : KeyedOnce (.flag value)
  | integer (value : Int) : KeyedOnce (.integer value)
  | float (value : Number.Binary64) : KeyedOnce (.float value)
  | text (value : String) : KeyedOnce (.text value)
  | list {items : List Data} (items_once : ∀ item ∈ items, KeyedOnce item) :
      KeyedOnce (.list items)
  | table {entries : List (String × Data)} (distinct : (entries.map Prod.fst).Nodup)
      (values_once : ∀ entry ∈ entries, KeyedOnce entry.2) : KeyedOnce (.table entries)

theorem lookup_eq_none_iff_not_mem : entries.lookup key = none ↔ key ∉ entries.map Prod.fst := by
  rw [List.lookup_eq_none_iff, List.mem_map]
  simp only [bne_iff_ne, ne_eq, not_exists, not_and]
  exact forall₂_congr fun _ _ => not_congr eq_comm

theorem mem_of_lookup (h : entries.lookup key = some value) : (key, value) ∈ entries := by
  obtain ⟨before, after, rfl, -⟩ := List.lookup_eq_some_iff.mp h
  simp

theorem mem_put {entry : String × α} (h : entry ∈ put key value entries) :
    entry = (key, value) ∨ entry ∈ entries := by
  induction entries with
  | nil => exact .inl (List.mem_singleton.mp h)
  | cons first entries ih =>
    rw [put] at h
    split at h
    · exact (List.mem_cons.mp h).imp_right (List.mem_cons_of_mem first)
    · rcases List.mem_cons.mp h with rfl | h
      · exact .inr List.mem_cons_self
      · exact (ih h).imp_right (List.mem_cons_of_mem first)

theorem keys_put_of_mem (h : key ∈ entries.map Prod.fst) (value : α) :
    (put key value entries).map Prod.fst = entries.map Prod.fst := by
  induction entries with
  | nil => cases h
  | cons first entries ih =>
    rw [put]
    by_cases hfirst : first.1 = key
    · simp [hfirst]
    · have hrest : key ∈ entries.map Prod.fst := by simpa [Ne.symm hfirst] using h
      simp [hfirst, ih hrest]

theorem put_of_not_mem (h : key ∉ entries.map Prod.fst) (value : α) :
    put key value entries = entries ++ [(key, value)] := by
  induction entries with
  | nil => rfl
  | cons first entries ih =>
    rw [List.map_cons, List.mem_cons, not_or] at h
    rw [put, if_neg (by simpa using Ne.symm h.1), ih h.2]
    rfl

theorem nodup_keys_append (h : (entries.map Prod.fst).Nodup) (hnew : key ∉ entries.map Prod.fst)
    (value : α) : ((entries ++ [(key, value)]).map Prod.fst).Nodup := by
  rw [List.map_append, List.map_singleton, List.nodup_append_comm]
  exact List.nodup_cons.mpr ⟨hnew, h⟩

theorem nodup_keys_put (h : (entries.map Prod.fst).Nodup) (key : String) (value : α) :
    ((put key value entries).map Prod.fst).Nodup := by
  by_cases hkey : key ∈ entries.map Prod.fst
  · rwa [keys_put_of_mem hkey]
  · rw [put_of_not_mem hkey]
    exact nodup_keys_append h hkey value

/-- What the upper table names lies over what the base has there, and all else stays. -/
theorem lookup_mergeEntries {upper : List (String × Data)} (h : (upper.map Prod.fst).Nodup)
    (base : List (String × Data)) (key : String) :
    (mergeEntries base upper).lookup key =
      match upper.lookup key with
      | some value => some (merge ((base.lookup key).getD .null) value)
      | none => base.lookup key := by
  induction upper generalizing base with
  | nil => rfl
  | cons first upper ih =>
    obtain ⟨name, value⟩ := first
    rw [List.map_cons, List.nodup_cons] at h
    rw [mergeEntries, ih h.2]
    by_cases hname : key = name
    · subst hname
      rw [lookup_eq_none_iff_not_mem.mpr h.1, List.lookup_cons_self]
      exact lookup_put_same key _ base
    · rw [lookup_put_other hname, List.lookup_cons, beq_false_of_ne hname]

end OAuthEndpoint.Data
