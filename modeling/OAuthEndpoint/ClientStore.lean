import OAuthEndpoint.AuthError
import OAuthEndpoint.Client

/-! Where clients are looked up: any function from ids that may fail (`ClientLookup`), and a store in
memory that never does.  The store holds one client for each id. -/

namespace OAuthEndpoint

/-- Finds the client of an id; the error is the store's own. -/
abbrev ClientLookup := String → Except AuthError (Option Client)

/-- A store whose every lookup fails. -/
def ClientLookup.failing (error : AuthError) : ClientLookup := fun _ => .error error

structure ClientStore where
  clients : List Client
  distinct : (clients.map Client.id).Nodup

namespace ClientStore

def empty : ClientStore := ⟨[], List.nodup_nil⟩

def size (store : ClientStore) : Nat := store.clients.length

def isEmpty (store : ClientStore) : Bool := store.clients.isEmpty

def find? (store : ClientStore) (id : String) : Option Client :=
  store.clients.find? (·.id == id)

/-- The store with one more client, in the place of any other of its id. -/
def insert (store : ClientStore) (client : Client) : ClientStore where
  clients := store.clients.filter (·.id != client.id) ++ [client]
  distinct := by
    rw [List.map_append, List.nodup_append]
    refine ⟨List.Nodup.sublist (List.filter_sublist.map _) store.distinct, by simp, ?_⟩
    intro id hid other hother
    simp only [List.map_cons, List.map_nil, List.mem_singleton] at hother
    obtain ⟨c, hc, rfl⟩ := List.mem_map.mp hid
    simpa [hother] using (List.mem_filter.mp hc).2

/-- Adds a client that is in order, or replaces the one with its id. -/
def register (store : ClientStore) (client : Client) : Except Client.Fault ClientStore :=
  client.validate.map fun _ => store.insert client

/-- Registers the clients in order, and stops at the first that is not in order. -/
def registerAll (store : ClientStore) : List Client → Except Client.Fault ClientStore
  | [] => .ok store
  | client :: clients =>
    match store.register client with
    | .ok store => store.registerAll clients
    | .error fault => .error fault

def ofClients (clients : List Client) : Except Client.Fault ClientStore := empty.registerAll clients

/-- Lookups in a store in memory never fail. -/
def lookup (store : ClientStore) : ClientLookup := fun id => .ok (store.find? id)

end ClientStore

end OAuthEndpoint
