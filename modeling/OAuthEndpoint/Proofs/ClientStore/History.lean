import Mathlib.Data.List.Dedup
import Mathlib.Data.List.Perm.Basic
import OAuthEndpoint.Proofs.ClientStore

/-! What a store answers over time.  Operations come in any order and number; under each id the
store has the client that was registered last (`HoldsLast`), and a registration that is refused
leaves no trace (`last_write_wins`). -/

namespace OAuthEndpoint.ClientStore

/-- What is asked of a store. -/
inductive Operation where
  | register (client : Client)
  | find (id : String)

inductive Answer where
  | registered
  | refused (fault : Client.Fault)
  | found (found : Except AuthError (Option Client))

/-- The store after an operation, and the answer to it. -/
def perform (store : ClientStore) : Operation → ClientStore × Answer
  | .register client =>
    match store.register client with
    | .ok store => (store, .registered)
    | .error fault => (store, .refused fault)
  | .find id => (store, .found (store.lookup id))

/-- The store after operations, and the answers to them in order. -/
def performAll (store : ClientStore) : List Operation → ClientStore × List Answer
  | [] => (store, [])
  | operation :: operations =>
    let (next, answer) := store.perform operation
    let (last, answers) := next.performAll operations
    (last, answer :: answers)

/-- The client that an operation registers, if it has an id. -/
def Operation.registered? : Operation → Option Client
  | .register client => if client.id = "" then none else some client
  | .find _ => none

/-- The clients that operations register, in order. -/
def registered (operations : List Operation) : List Client :=
  operations.filterMap Operation.registered?

/-- A store that has, under each id, the last of some clients that were registered with it. -/
structure HoldsLast (store : ClientStore) (clients : List Client) : Prop where
  found : ∀ id client, store.lookup id = .ok (some client) ↔
    ∃ before after, clients = before ++ client :: after ∧ client.id = id ∧
      ∀ later ∈ after, later.id ≠ id
  missing : ∀ id, store.lookup id = .ok none ↔ ∀ client ∈ clients, client.id ≠ id

variable {store : ClientStore} {client : Client} {clients : List Client} {id : String}

/-! ### One operation -/

theorem lookup_eq_some_iff :
    store.lookup id = .ok (some client) ↔ store.find? id = some client := by
  rw [lookup, Except.ok.injEq]

theorem lookup_eq_none_iff : store.lookup id = .ok none ↔ store.find? id = none := by
  rw [lookup, Except.ok.injEq]

theorem register_of_id_ne (h : client.id ≠ "") (store : ClientStore) :
    store.register client = .ok (store.insert client) := by
  rw [register, Client.validate_eq_ok_iff.mpr h]
  rfl

theorem register_of_id_eq (h : client.id = "") (store : ClientStore) :
    store.register client = .error .emptyId := by
  rw [register, Client.validate, if_pos h]
  rfl

theorem perform_register_of_id_ne (h : client.id ≠ "") (store : ClientStore) :
    store.perform (.register client) = (store.insert client, .registered) := by
  rw [perform, register_of_id_ne h]

theorem perform_register_of_id_eq (h : client.id = "") (store : ClientStore) :
    store.perform (.register client) = (store, .refused .emptyId) := by
  rw [perform, register_of_id_eq h]

theorem perform_eq (store : ClientStore) (operation : Operation) :
    (store.perform operation).1 = operation.registered?.toList.foldl insert store := by
  cases operation with
  | find id => rfl
  | register client =>
    by_cases h : client.id = ""
    · rw [perform_register_of_id_eq h, Operation.registered?, if_pos h]
      rfl
    · rw [perform_register_of_id_ne h, Operation.registered?, if_neg h]
      rfl

theorem lookup_perform_register_of_ne (h : id ≠ client.id) (store : ClientStore) :
    (store.perform (.register client)).1.lookup id = store.lookup id := by
  by_cases hid : client.id = ""
  · rw [perform_register_of_id_eq hid]
  · rw [perform_register_of_id_ne hid, lookup, find?_insert, if_neg (Ne.symm h), lookup]

theorem holdsLast_empty : HoldsLast empty [] where
  found id client := by simp [lookup, find?, empty]
  missing id := by simp [lookup, find?, empty]

/-- A member of a list with one more at its end is that one, or a member of the list before it. -/
theorem append_singleton_eq_iff {before after : List Client} {other : Client} :
    clients ++ [client] = before ++ other :: after ↔
      after = [] ∧ clients = before ∧ client = other ∨
      ∃ rest, after = rest ++ [client] ∧ clients = before ++ other :: rest := by
  constructor
  · intro h
    rcases List.eq_nil_or_concat after with rfl | ⟨rest, last, rfl⟩
    · obtain ⟨hbefore, hlast⟩ := List.append_inj' h rfl
      exact .inl ⟨rfl, hbefore, (List.cons.inj hlast).1⟩
    · rw [List.concat_eq_append, ← List.cons_append, ← List.append_assoc] at h
      obtain ⟨hbefore, hlast⟩ := List.append_inj' h rfl
      exact .inr ⟨rest, by rw [List.concat_eq_append, hlast], hbefore⟩
  · rintro (⟨rfl, rfl, rfl⟩ | ⟨rest, rfl, rfl⟩)
    · rfl
    · rw [List.append_assoc, List.cons_append]

/-- One more client takes the place of those of its id, and leaves those of all others. -/
theorem HoldsLast.insert (h : store.HoldsLast clients) (client : Client) :
    (store.insert client).HoldsLast (clients ++ [client]) where
  found id other := by
    simp only [lookup_eq_some_iff, find?_insert, append_singleton_eq_iff]
    by_cases hid : client.id = id
    · rw [if_pos hid, Option.some.injEq]
      constructor
      · rintro rfl
        exact ⟨clients, [], .inl ⟨rfl, rfl, rfl⟩, hid, List.forall_mem_nil _⟩
      · rintro ⟨before, after, ⟨-, -, rfl⟩ | ⟨rest, rfl, -⟩, -, hlater⟩
        · rfl
        · exact absurd hid (hlater client (by simp))
    · rw [if_neg hid, ← lookup_eq_some_iff, h.found]
      constructor
      · rintro ⟨before, after, hsplit, hother, hlater⟩
        refine ⟨before, after ++ [client], .inr ⟨after, rfl, hsplit⟩, hother, ?_⟩
        rw [List.forall_mem_append, List.forall_mem_singleton]
        exact ⟨hlater, hid⟩
      · rintro ⟨before, after, ⟨-, -, rfl⟩ | ⟨rest, rfl, hsplit⟩, hother, hlater⟩
        · exact absurd hother hid
        · exact ⟨before, rest, hsplit, hother, (List.forall_mem_append.mp hlater).1⟩
  missing id := by
    rw [lookup_eq_none_iff, find?_insert, List.forall_mem_append, List.forall_mem_singleton]
    by_cases hid : client.id = id
    · simp [hid]
    · rw [if_neg hid, ← lookup_eq_none_iff, h.missing, and_iff_left hid]

theorem HoldsLast.perform (h : store.HoldsLast clients) (operation : Operation) :
    (store.perform operation).1.HoldsLast (clients ++ operation.registered?.toList) := by
  rw [perform_eq]
  cases operation.registered? with
  | none => simpa using h
  | some client => exact h.insert client

/-! ### Operations in a row -/

theorem performAll_append (store : ClientStore) (first last : List Operation) :
    store.performAll (first ++ last) =
      (((store.performAll first).1.performAll last).1,
        (store.performAll first).2 ++ ((store.performAll first).1.performAll last).2) := by
  induction first generalizing store with
  | nil => rfl
  | cons operation first ih => simp only [List.cons_append, performAll, ih]

theorem length_performAll (store : ClientStore) (operations : List Operation) :
    (store.performAll operations).2.length = operations.length := by
  induction operations generalizing store with
  | nil => rfl
  | cons operation operations ih => simp only [performAll, List.length_cons, ih]

theorem HoldsLast.performAll (h : store.HoldsLast clients) (operations : List Operation) :
    (store.performAll operations).1.HoldsLast (clients ++ registered operations) := by
  induction operations generalizing store clients with
  | nil => simpa [ClientStore.performAll, registered] using h
  | cons operation operations ih =>
    have hrest := ih (h.perform operation)
    rw [List.append_assoc] at hrest
    have hregistered : registered (operation :: operations) =
        operation.registered?.toList ++ registered operations := by
      rw [registered, List.filterMap_cons]
      cases operation.registered? <;> rfl
    rw [hregistered]
    exact hrest

/-- After any operations the store holds what they registered last. -/
theorem holdsLast_performAll (operations : List Operation) :
    (empty.performAll operations).1.HoldsLast (registered operations) :=
  holdsLast_empty.performAll operations

theorem id_ne_of_mem_registered {operations : List Operation} (h : client ∈ registered operations) :
    client.id ≠ "" := by
  obtain ⟨operation, -, hregistered⟩ := List.mem_filterMap.mp h
  cases operation with
  | find id => cases hregistered
  | register other =>
    rw [Operation.registered?] at hregistered
    by_cases hid : other.id = ""
    · rw [if_pos hid] at hregistered
      cases hregistered
    · rw [if_neg hid, Option.some.injEq] at hregistered
      rwa [← hregistered]

/-- Each id counts once. -/
theorem HoldsLast.size_eq (h : store.HoldsLast clients) :
    store.size = (clients.map Client.id).dedup.length := by
  have hsame : ∀ id, id ∈ store.clients.map Client.id ↔ id ∈ (clients.map Client.id).dedup := by
    intro id
    rw [List.mem_dedup, ← not_iff_not]
    calc id ∉ store.clients.map Client.id
        ↔ store.find? id = none := by
          rw [find?, List.find?_eq_none]
          simp
      _ ↔ ∀ client ∈ clients, client.id ≠ id := by rw [← lookup_eq_none_iff, h.missing]
      _ ↔ id ∉ clients.map Client.id := by simp
  have hperm := (List.perm_ext_iff_of_nodup store.distinct (List.nodup_dedup _)).mpr hsame
  rw [size, ← hperm.length_eq, List.length_map]

/-- A look-up among operations is answered from those before it. -/
theorem answer_find (store : ClientStore) (before after : List Operation) (id : String) :
    (store.performAll (before ++ .find id :: after)).2[before.length]? =
      some (.found ((store.performAll before).1.lookup id)) := by
  have hlength := length_performAll store before
  rw [performAll_append, List.getElem?_append_right (by omega), hlength, Nat.sub_self]
  rfl

/-! ### Seeding -/

theorem registerAll_error_iff (store : ClientStore) (clients : List Client) :
    (∃ fault, store.registerAll clients = .error fault) ↔ ∃ client ∈ clients, client.id = "" := by
  induction clients generalizing store with
  | nil => simp [registerAll]
  | cons client clients ih =>
    rw [registerAll, List.exists_mem_cons_iff]
    by_cases h : client.id = ""
    · rw [register_of_id_eq h]
      exact ⟨fun _ => .inl h, fun _ => ⟨.emptyId, rfl⟩⟩
    · rw [register_of_id_ne h]
      simp only [ih, h, false_or]

theorem performAll_register_of_valid (h : ∀ client ∈ clients, client.id ≠ "")
    (store : ClientStore) :
    (store.performAll (clients.map .register)).1 = clients.foldl insert store := by
  induction clients generalizing store with
  | nil => rfl
  | cons client clients ih =>
    obtain ⟨hclient, hrest⟩ := List.forall_mem_cons.mp h
    rw [List.map_cons, performAll, perform_register_of_id_ne hclient]
    exact ih hrest (store.insert client)

/-- A store is a map from ids to the clients that were registered last with them, after any
operations. -/
theorem last_write_wins (operations : List Operation) :
    let store := (empty.performAll operations).1
    store.HoldsLast (registered operations) ∧
    (∀ id client, store.lookup id = .ok (some client) → client.id = id) ∧
    store.lookup "" = .ok none ∧
    (∀ client, client.id = "" → store.perform (.register client) = (store, .refused .emptyId)) ∧
    (∀ client, client.id ≠ "" → (store.perform (.register client)).2 = .registered) ∧
    (∀ client id, id ≠ client.id →
      (store.perform (.register client)).1.lookup id = store.lookup id) ∧
    store.size = ((registered operations).map Client.id).dedup.length ∧
    (∀ before id after, operations = before ++ .find id :: after →
      (empty.performAll operations).2[before.length]? =
        some (.found ((empty.performAll before).1.lookup id))) ∧
    ∀ clients,
      ((∃ fault, ofClients clients = .error fault) ↔ ∃ client ∈ clients, client.id = "") ∧
      ((∀ client ∈ clients, client.id ≠ "") →
        ofClients clients = .ok (empty.performAll (clients.map .register)).1) := by
  intro store
  have hlast : store.HoldsLast (registered operations) := holdsLast_performAll operations
  refine ⟨hlast, ?_, ?_, ?_, ?_, ?_, hlast.size_eq, ?_, fun clients => ⟨?_, ?_⟩⟩
  · intro id client hfound
    obtain ⟨before, after, -, hid, -⟩ := (hlast.found id client).mp hfound
    exact hid
  · exact (hlast.missing "").mpr fun client => id_ne_of_mem_registered
  · exact fun client hid => perform_register_of_id_eq hid store
  · intro client hid
    rw [perform_register_of_id_ne hid]
  · exact fun client id hid => lookup_perform_register_of_ne hid store
  · rintro before id after rfl
    exact answer_find empty before after id
  · exact registerAll_error_iff empty clients
  · intro hvalid
    rw [ofClients, registerAll_of_valid hvalid, performAll_register_of_valid hvalid]

end OAuthEndpoint.ClientStore
