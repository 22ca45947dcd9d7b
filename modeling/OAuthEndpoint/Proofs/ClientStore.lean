import Mathlib.Data.List.Nodup
import OAuthEndpoint.ClientStore

/-! What a store finds.  Of several clients with one id the last registered counts, and where the
ids differ every client is found under its own (`find?_foldl_insert_of_nodup`). -/

namespace OAuthEndpoint

theorem Client.validate_eq_ok_iff {client : Client} : client.validate = .ok () ↔ client.id ≠ "" := by
  rw [validate]
  by_cases h : client.id = ""
  · simp [h]
  · simp [h]

namespace ClientStore

variable {store : ClientStore} {client : Client} {clients : List Client} {id : String}

theorem find?_insert (store : ClientStore) (client : Client) (id : String) :
    (store.insert client).find? id = if client.id = id then some client else store.find? id := by
  rw [find?, insert, List.find?_append, List.find?_filter]
  simp only [Bool.decide_and, Bool.decide_eq_true]
  by_cases h : client.id = id
  · have hnone : store.clients.find? (fun other => other.id != client.id && other.id == id) =
        none := by
      rw [List.find?_eq_none]
      intro other _ hboth
      rw [Bool.and_eq_true, bne_iff_ne, beq_iff_eq] at hboth
      exact hboth.1 (hboth.2.trans h.symm)
    rw [hnone, if_pos h, Option.none_or, List.find?_singleton, beq_iff_eq.mpr h, if_pos rfl]
  · have hsame : (fun other : Client => other.id != client.id && other.id == id) =
        fun other => other.id == id := by
      funext other
      by_cases hother : other.id = id
      · rw [hother, beq_self_eq_true, Bool.and_true, bne_iff_ne]
        exact Ne.symm h
      · rw [beq_eq_false_iff_ne.mpr hother, Bool.and_false]
    rw [hsame, if_neg h, List.find?_singleton, beq_eq_false_iff_ne.mpr h, if_neg (by simp),
      Option.or_none, find?]

/-- The last client of an id is found, and one of the store before if there is none. -/
theorem find?_foldl_insert (store : ClientStore) (clients : List Client) (id : String) :
    (clients.foldl insert store).find? id =
      (clients.reverse.find? (·.id == id)).or (store.find? id) := by
  induction clients generalizing store with
  | nil => simp
  | cons client clients ih =>
    rw [List.foldl_cons, ih, find?_insert, List.reverse_cons, List.find?_append,
      List.find?_singleton, Option.or_assoc]
    by_cases h : client.id = id
    · rw [if_pos h, beq_iff_eq.mpr h, if_pos rfl, Option.some_or]
    · rw [if_neg h, beq_eq_false_iff_ne.mpr h, if_neg (by simp), Option.none_or]

theorem find?_foldl_insert_of_nodup (hdistinct : (clients.map Client.id).Nodup)
    (hmem : client ∈ clients) : (clients.foldl insert store).find? client.id = some client := by
  rw [find?_foldl_insert]
  cases hfind : clients.reverse.find? (·.id == client.id) with
  | none =>
    have hnone := List.find?_eq_none.mp hfind client (List.mem_reverse.mpr hmem)
    exact absurd (beq_self_eq_true client.id) hnone
  | some other =>
    have hother := List.mem_reverse.mp (List.mem_of_find?_eq_some hfind)
    have hid : other.id = client.id := by simpa using List.find?_some hfind
    rw [List.inj_on_of_nodup_map hdistinct hother hmem hid, Option.some_or]

theorem find?_foldl_insert_of_not_mem (h : id ∉ clients.map Client.id) :
    (clients.foldl insert store).find? id = store.find? id := by
  have hnone : clients.reverse.find? (·.id == id) = none := by
    rw [List.find?_eq_none]
    intro client hclient hid
    rw [beq_iff_eq] at hid
    exact h (List.mem_map.mpr ⟨client, List.mem_reverse.mp hclient, hid⟩)
  rw [find?_foldl_insert, hnone, Option.none_or]

/-- Registration fails at the first client without an id and nowhere else. -/
theorem registerAll_of_valid (h : ∀ client ∈ clients, client.id ≠ "") (store : ClientStore) :
    store.registerAll clients = .ok (clients.foldl insert store) := by
  induction clients generalizing store with
  | nil => rfl
  | cons client clients ih =>
    obtain ⟨hclient, hrest⟩ := List.forall_mem_cons.mp h
    have hregister : store.register client = .ok (store.insert client) := by
      rw [register, Client.validate_eq_ok_iff.mpr hclient]
      rfl
    rw [registerAll, hregister]
    exact ih hrest (store.insert client)

end ClientStore

end OAuthEndpoint
