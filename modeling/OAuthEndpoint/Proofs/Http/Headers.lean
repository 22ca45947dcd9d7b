import OAuthEndpoint.Http.Headers

/-! What operations on header fields do to the values of a name. -/

namespace OAuthEndpoint.Http.Headers

theorem entries_appendAll (headers : Headers) (fields : List (String × String)) :
    (headers.appendAll fields).entries =
      headers.entries ++ fields.map fun field => (Text.lower field.1, field.2) := by
  induction fields generalizing headers with
  | nil => exact (List.append_nil _).symm
  | cons field fields ih =>
    have hstep : headers.appendAll (field :: fields) =
        (headers.append field.1 field.2).appendAll fields := rfl
    rw [hstep, ih, append, List.map_cons, List.append_assoc, List.singleton_append]

/-- Appended fields come after all others of their names, in their order. -/
theorem getAll_appendAll (headers : Headers) (fields : List (String × String)) (name : String) :
    (headers.appendAll fields).getAll name =
      headers.getAll name ++ (fields.filter fun field => Text.lower field.1 == name).map (·.2) := by
  rw [getAll, entries_appendAll, List.filter_append, List.map_append, List.filter_map,
    List.map_map]
  rfl

theorem getAll_append (headers : Headers) (other value name : String) :
    (headers.append other value).getAll name =
      headers.getAll name ++ if Text.lower other = name then [value] else [] := by
  rw [getAll, append, List.filter_append, List.map_append, getAll]
  by_cases hname : Text.lower other = name
  · simp [hname]
  · simp [hname]

/-- A value that is set is the only one of its name. -/
theorem getAll_set (headers : Headers) (name value : String) :
    (headers.set name value).getAll (Text.lower name) = [value] := by
  have hnone : headers.entries.filter (fun entry => entry.1 == Text.lower name &&
      entry.1 != Text.lower name) = [] := by
    rw [List.filter_eq_nil_iff]
    intro entry _ hboth
    rw [Bool.and_eq_true, bne_iff_ne, beq_iff_eq] at hboth
    exact hboth.2 hboth.1
  rw [getAll, set, List.filter_append, List.filter_filter, hnone]
  simp

theorem getAll_set_of_ne {name other : String} (h : Text.lower other ≠ name) (headers : Headers)
    (value : String) : (headers.set other value).getAll name = headers.getAll name := by
  have hkeep : ∀ entry ∈ headers.entries,
      ((entry.1 == name && entry.1 != Text.lower other) = true ↔ (entry.1 == name) = true) := by
    intro entry _
    rw [Bool.and_eq_true, and_iff_left_iff_imp, beq_iff_eq, bne_iff_ne]
    rintro rfl
    exact h.symm
  have hlast : [(Text.lower other, value)].filter (·.1 == name) = [] := by
    simp [h]
  rw [getAll, set, List.filter_append, List.filter_filter, hlast, List.append_nil,
    List.filter_congr fun entry hentry => Bool.eq_iff_iff.mpr (hkeep entry hentry), getAll]

theorem contains_iff (headers : Headers) (name : String) :
    headers.contains name = true ↔ headers.getAll name ≠ [] := by
  rw [contains, getAll, List.any_eq_true, ne_eq, List.map_eq_nil_iff, List.filter_eq_nil_iff]
  simp

/-- A default counts for its own name alone, and there only where no value is. -/
theorem getAll_setDefault (headers : Headers) (other value name : String) :
    (headers.setDefault other value).getAll name =
      if name = Text.lower other ∧ headers.getAll name = [] then [value]
      else headers.getAll name := by
  rw [setDefault]
  by_cases hthere : headers.contains (Text.lower other) = true
  · have hsome := (headers.contains_iff _).mp hthere
    rw [if_pos hthere, if_neg]
    rintro ⟨rfl, hnone⟩
    exact hsome hnone
  · have hnone : headers.getAll (Text.lower other) = [] :=
      Decidable.not_not.mp fun h => hthere ((headers.contains_iff _).mpr h)
    rw [if_neg hthere, getAll_append]
    by_cases hname : Text.lower other = name
    · subst hname
      rw [if_pos rfl, if_pos ⟨rfl, hnone⟩, hnone, List.nil_append]
    · rw [if_neg hname, if_neg fun h => hname h.1.symm, List.append_nil]

theorem get?_set (headers : Headers) (name value : String) :
    (headers.set name value).get? (Text.lower name) = some value := by
  have hnone : headers.entries.find? (fun entry => entry.1 != Text.lower name &&
      entry.1 == Text.lower name) = none := by
    rw [List.find?_eq_none]
    intro entry _ hboth
    rw [Bool.and_eq_true, bne_iff_ne, beq_iff_eq] at hboth
    exact hboth.1 hboth.2
  rw [get?, set, List.find?_append, List.find?_filter]
  simp only [Bool.decide_and, Bool.decide_eq_true, hnone, Option.none_or, List.find?_singleton,
    beq_self_eq_true, if_true, Option.map_some]

/-- A default for one name leaves the values of the others. -/
theorem get?_setDefault_of_ne {name other : String} (h : Text.lower other ≠ name)
    (headers : Headers) (value : String) :
    (headers.setDefault other value).get? name = headers.get? name := by
  rw [setDefault]
  by_cases hthere : headers.contains (Text.lower other) = true
  · rw [if_pos hthere]
  · rw [if_neg hthere, get?, append, List.find?_append, List.find?_singleton,
      beq_eq_false_iff_ne.mpr h, if_neg Bool.false_ne_true, Option.or_none, get?]

end OAuthEndpoint.Http.Headers
