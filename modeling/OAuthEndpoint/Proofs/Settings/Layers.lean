import OAuthEndpoint.Proofs.Data.Place
import OAuthEndpoint.Proofs.Toml.Keys
import OAuthEndpoint.Settings.Load

/-! Settings in layers.  A layer sets some of the fields, and data that holds a layer is read as its
fields over the defaults (`Holds.read?`).  What a file holds is still there once it is laid into the
settings (`FileHolds.inFile`). -/

namespace OAuthEndpoint

namespace Settings

open Data

/-- Some of the fields, as one source sets them. -/
structure Layer where
  host : Option String := none
  port : Option UInt16 := none
  level : Option String := none
  minStateLength : Option Nat := none
deriving DecidableEq, Repr

/-- Each field of the upper layer where that has it, and of the lower one where not. -/
def Layer.over (upper lower : Layer) : Layer where
  host := upper.host.or lower.host
  port := upper.port.or lower.port
  level := upper.level.or lower.level
  minStateLength := upper.minStateLength.or lower.minStateLength

/-- The settings of a layer that lies over the defaults. -/
def Layer.settings (layer : Layer) (clients : List Client) : Settings where
  server := { host := layer.host.getD "0.0.0.0", port := layer.port.getD 8080 }
  logging := { level := layer.level.getD "info" }
  authorize := { minStateLength := layer.minStateLength.getD 8 }
  clients := clients

/-- The settings if they are in order, and their first fault if not. -/
def checked (settings : Settings) : Except LoadFault Settings :=
  match settings.validate with
  | .ok () => .ok settings
  | .error fault => .error (.invalid fault)

/-- The tables that the fields are in. -/
def sectionNames : List String := ["server", "logging", "authorize"]

/-- A table that describes a client, which may leave out its name and where it is sent back to. -/
structure IsClient (item : Data) (client : Client) : Prop where
  table : item.IsTable
  id : item.get? ["client_id"] = some (.text client.id)
  name : (item.get? ["name"]).getD (.text "") = .text client.name
  redirectUris : (item.get? ["redirect_uris"]).getD (.list []) =
    .list (client.redirectUris.map .text)

/-- Data with the fields of a layer in its sections, each of its kind, and with clients. -/
structure Holds (data : Data) (layer : Layer) (clients : List Client) : Prop where
  sectioned : data.Sectioned sectionNames
  host : data.get? ["server", "host"] = layer.host.map .text
  port : data.get? ["server", "port"] = layer.port.map fun port => .integer port.toNat
  level : data.get? ["logging", "level"] = layer.level.map .text
  minStateLength : data.get? ["authorize", "min_state_length"] =
    layer.minStateLength.map fun n => .integer n
  length_fits : ∀ n ∈ layer.minStateLength, n < UInt64.size
  clients : ∃ items, (data.get? ["clients"]).getD (.list []) = .list items ∧
    List.Forall₂ IsClient items clients

/-! ### Reading -/

variable {data item : Data} {layer : Layer} {clients : List Client} {client : Client}

theorem record?_of_isTable (h : data.IsTable) (reading : Reading) (names : List String) :
    reading.record? names data = some fun name => data.get? [name] := by
  rw [h.eq, Reading.record?, Option.some.injEq]
  funext name
  exact (get?_singleton data.entries name).symm

/-- A missing field reads as data that has the default. -/
theorem readOr_eq_getD {α : Type} {read : Data → Option α} {base : Data} {default : α}
    (h : read base = some default) (field : Option Data) :
    readOr read default field = read (field.getD base) := by
  cases field with
  | none => exact h.symm
  | some data => rfl

theorem readOr_map {α : Type} {read : Data → Option α} {make : α → Data} {field : Option α}
    (h : ∀ a ∈ field, read (make a) = some a) (default : α) :
    readOr read default (field.map make) = some (field.getD default) := by
  cases field with
  | none => rfl
  | some a => exact h a rfl

theorem mapM_eq_some {α β : Type} {read : α → Option β} {items : List α} {values : List β}
    (h : List.Forall₂ (fun item value => read item = some value) items values) :
    items.mapM read = some values := by
  induction h with
  | nil => rfl
  | cons hfirst hrest ih =>
    rw [List.mapM_cons, hfirst, ih]
    rfl

theorem lenient_text (text : String) : Reading.lenient.text (.text text) = some text := rfl

theorem naturalBelow_integer {n bound : Nat} (h : n < bound) :
    Reading.lenient.naturalBelow bound (.integer n) = some n := by
  have hnatural : Reading.lenient.natural (.integer n) = some n := by simp [Reading.lenient]
  rw [Reading.naturalBelow, hnatural, Option.filter_some, if_pos (by simpa using h)]

theorem IsClient.read? (h : IsClient item client) :
    Client.read? .lenient item = some client := by
  have hname : readOr Reading.lenient.text "" (item.get? ["name"]) = some client.name := by
    rw [readOr_eq_getD (lenient_text ""), h.name, lenient_text]
  have hnone : readList? Reading.lenient.text (.list []) = some [] := rfl
  have huris : readOr (readList? Reading.lenient.text) [] (item.get? ["redirect_uris"]) =
      some client.redirectUris := by
    rw [readOr_eq_getD hnone, h.redirectUris]
    refine mapM_eq_some ?_
    rw [List.forall₂_map_left_iff]
    exact List.forall₂_same.mpr fun _ _ => rfl
  simp only [Client.read?, record?_of_isTable h.table, Option.bind_eq_bind, Option.bind_some, h.id,
    lenient_text, hname, huris, Option.pure_def]

theorem readOr_port (port : Option UInt16) :
    ∃ n, readOr (Reading.lenient.naturalBelow UInt16.size) 8080
        (port.map fun port => .integer port.toNat) = some n ∧
      UInt16.ofNat n = port.getD 8080 := by
  cases port with
  | none => exact ⟨8080, rfl, rfl⟩
  | some port => exact ⟨port.toNat, naturalBelow_integer port.toNat_lt, UInt16.ofNat_toNat⟩

namespace Holds

theorem read?_server (h : Holds data layer clients) :
    readOr (ServerSettings.read? .lenient) {} (data.get? ["server"]) =
      some (layer.settings clients).server := by
  have hdefault : ServerSettings.read? .lenient (.table []) = some {} := rfl
  obtain ⟨htable, hfields⟩ := h.sectioned.inner (by decide : "server" ∈ sectionNames)
  have hhost : readOr Reading.lenient.text "0.0.0.0" (layer.host.map .text) = some _ :=
    readOr_map (fun text _ => lenient_text text) "0.0.0.0"
  obtain ⟨n, hn, hport⟩ := readOr_port layer.port
  rw [readOr_eq_getD hdefault]
  simp only [ServerSettings.read?, record?_of_isTable htable, hfields, h.host, h.port, hhost, hn,
    hport, Option.bind_eq_bind, Option.bind_some, Option.pure_def, Layer.settings]

theorem read?_logging (h : Holds data layer clients) :
    readOr (LoggingSettings.read? .lenient) {} (data.get? ["logging"]) =
      some (layer.settings clients).logging := by
  have hdefault : LoggingSettings.read? .lenient (.table []) = some {} := rfl
  obtain ⟨htable, hfields⟩ := h.sectioned.inner (by decide : "logging" ∈ sectionNames)
  have hlevel : readOr Reading.lenient.text "info" (layer.level.map .text) = some _ :=
    readOr_map (fun text _ => lenient_text text) "info"
  rw [readOr_eq_getD hdefault]
  simp only [LoggingSettings.read?, record?_of_isTable htable, hfields, h.level, hlevel,
    Option.bind_eq_bind, Option.bind_some, Option.pure_def, Layer.settings]

theorem read?_authorize (h : Holds data layer clients) :
    readOr (AuthorizeSettings.read? .lenient) {} (data.get? ["authorize"]) =
      some (layer.settings clients).authorize := by
  have hdefault : AuthorizeSettings.read? .lenient (.table []) = some {} := rfl
  obtain ⟨htable, hfields⟩ := h.sectioned.inner (by decide : "authorize" ∈ sectionNames)
  have hlength := readOr_map (fun n hn => naturalBelow_integer (h.length_fits n hn))
    minStateLengthFloor
  rw [readOr_eq_getD hdefault]
  simp only [AuthorizeSettings.read?, record?_of_isTable htable, hfields, h.minStateLength, hlength,
    Option.bind_eq_bind, Option.bind_some, Option.pure_def, Layer.settings]
  rfl

theorem read?_clients (h : Holds data layer clients) :
    readOr (readList? (Client.read? .lenient)) [] (data.get? ["clients"]) = some clients := by
  have hdefault : readList? (Client.read? .lenient) (.list []) = some [] := rfl
  obtain ⟨items, hitems, hclients⟩ := h.clients
  rw [readOr_eq_getD hdefault, hitems]
  exact mapM_eq_some (hclients.imp fun _ _ hclient => hclient.read?)

theorem read? (h : Holds data layer clients) :
    Settings.read? .lenient data = some (layer.settings clients) := by
  simp only [Settings.read?, record?_of_isTable h.sectioned.root, h.read?_server, h.read?_logging,
    h.read?_authorize, h.read?_clients, Option.bind_eq_bind, Option.bind_some, Option.pure_def]
  rfl

end Holds

theorem ofData_of_holds (h : Holds data layer clients) :
    ofData data = (layer.settings clients).checked := by
  rw [ofData, h.read?, checked]
  cases hvalid : (layer.settings clients).validate <;> simp only [hvalid]

/-! ### The file -/

/-- The file at a path is a TOML document that holds a layer and clients, and nothing beside them.
A file that is not there holds nothing. -/
inductive FileHolds (directory : Directory) (path : String) : Layer → List Client → Prop
  | missing (not_found : directory.find? path = none) : FileHolds directory path {} []
  | document {text : String} {entries : List (String × Data)} {layer : Layer}
      {clients : List Client} (found : directory.find? path = some (.file text))
      (named : Directory.extension path = "toml")
      (read : Format.toml.entries? text = some entries)
      (known : ∀ entry ∈ entries, entry.1 ∈ "clients" :: sectionNames)
      (holds : Holds (.table entries) layer clients) : FileHolds directory path layer clients

theorem holds_empty : Holds (.table []) {} [] where
  sectioned := ⟨trivial, fun _ _ _ h => by cases h⟩
  host := rfl
  port := rfl
  level := rfl
  minStateLength := rfl
  length_fits := fun _ h => by cases h
  clients := ⟨[], rfl, .nil⟩

theorem Holds.merge_null (h : Holds data layer clients) (honce : data.KeyedOnce) :
    Holds (merge .null data) layer clients where
  sectioned := h.sectioned.merge_null honce
  host := by rw [get?_merge_null honce, h.host, Option.map_map]; rfl
  port := by rw [get?_merge_null honce, h.port, Option.map_map]; rfl
  level := by rw [get?_merge_null honce, h.level, Option.map_map]; rfl
  minStateLength := by rw [get?_merge_null honce, h.minStateLength, Option.map_map]; rfl
  length_fits := h.length_fits
  clients := by
    obtain ⟨items, hitems, hclients⟩ := h.clients
    refine ⟨items, ?_, hclients⟩
    rw [get?_merge_null honce]
    cases hfound : data.get? ["clients"] with
    | none => rwa [hfound] at hitems
    | some found =>
      rw [hfound, Option.getD_some] at hitems
      rw [hitems]
      rfl

/-- Keys that name themselves are laid entry by entry. -/
theorem assignAll_ofEntries {entries : List (String × Data)}
    (h : ∀ entry ∈ entries, Place.ofKey entry.1 = placeOf [entry.1])
    (base : List (String × Data)) :
    assignAll (.table base) (ofEntries entries) = .table (mergeEntries base entries) := by
  induction entries generalizing base with
  | nil => rfl
  | cons entry entries ih =>
    obtain ⟨key, value⟩ := entry
    obtain ⟨hkey, hrest⟩ := List.forall_mem_cons.mp h
    rw [mergeEntries, ← ih hrest]
    rw [ofEntries, List.map_cons, hkey]
    rfl

theorem ofKey_of_known : ∀ key ∈ "clients" :: sectionNames, Place.ofKey key = placeOf [key] := by
  decide +kernel

theorem keyedOnce_of_entries {text : String} {entries : List (String × Data)}
    (h : Format.toml.entries? text = some entries) : (Data.table entries).KeyedOnce := by
  rw [Format.entries?] at h
  split at h
  · next found hfound =>
    cases h
    exact Toml.keyedOnce_of_parse hfound
  · cases h

theorem FileHolds.inFile {directory : Directory} {path : String}
    (h : FileHolds directory path layer clients) :
    ∃ file, inFile directory path = .ok file ∧
      Holds (assignAll (.table []) file) layer clients := by
  cases h with
  | missing not_found =>
    refine ⟨[], ?_, holds_empty⟩
    rw [Settings.inFile, not_found]
  | @document text entries layer clients found named read known holds =>
    refine ⟨ofEntries entries, ?_, ?_⟩
    · have hformat : (Format.extensions.lookup "toml").bind (fun format => format.entries? text) =
          Format.toml.entries? text := rfl
      simp only [Settings.inFile, found, ofFile, named, hformat, read]
    · rw [assignAll_ofEntries fun entry hentry => ofKey_of_known entry.1 (known entry hentry)]
      exact holds.merge_null (keyedOnce_of_entries read)

end Settings

end OAuthEndpoint
