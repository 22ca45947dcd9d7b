import OAuthEndpoint.Proofs.Settings.Valid

/-! What the check of settings reports.  Of several faults it tells of the first one, in the order
port, level, state length, clients, and of the clients it blames the first that has no id or repeats
one (`first_fault_told`). -/

namespace OAuthEndpoint.Settings

/-- The client at an index has no id, or one that was seen or that an earlier client has. -/
def IsFaulty (seen : List String) (clients : List Client) (i : Nat) : Prop :=
  ∃ client, clients[i]? = some client ∧
    (client.id = "" ∨ client.id ∈ seen ∨ ∃ earlier ∈ clients.take i, earlier.id = client.id)

/-- The client at the smallest index of a faulty one. -/
structure FirstFaulty (seen : List String) (clients : List Client) (client : Client) (i : Nat) :
    Prop where
  getElem? : clients[i]? = some client
  faulty : IsFaulty seen clients i
  first : ∀ j < i, ¬IsFaulty seen clients j

/-- What is wrong with a faulty client. -/
def clientFault (client : Client) : Fault :=
  if client.id = "" then .client .emptyId else .duplicateClient client.id

/-- The name of a logging level, in any letter case. -/
def IsLevel (name : String) : Prop :=
  Text.lower name ∈ ["trace", "debug", "info", "warn", "error", "off"]

/-- Settings that are in order up to their clients. -/
structure ValidHead (settings : Settings) : Prop where
  port : settings.server.port ≠ 0
  level : IsLevel settings.logging.level
  minStateLength : 8 ≤ settings.authorize.minStateLength

/-- The message of the first fault of settings, whatever the later ones are. -/
inductive FirstFault (settings : Settings) : String → Prop
  | port (h : settings.server.port = 0) : FirstFault settings "server.port must be > 0"
  | level (hport : settings.server.port ≠ 0) (h : ¬IsLevel settings.logging.level) :
      FirstFault settings
        ("logging.level must be one of " ++
          "[\"trace\", \"debug\", \"info\", \"warn\", \"error\", \"off\"]")
  | stateLength (hport : settings.server.port ≠ 0) (hlevel : IsLevel settings.logging.level)
      (h : settings.authorize.minStateLength < 8) :
      FirstFault settings
        ("authorize: Invalid value for min_state_length: must be at least 8, got " ++
          toString settings.authorize.minStateLength)
  | emptyId (hrest : settings.ValidHead) {client : Client} {i : Nat}
      (hfirst : FirstFaulty [] settings.clients client i) (h : client.id = "") :
      FirstFault settings "clients: Client ID cannot be empty"
  | duplicate (hrest : settings.ValidHead) {client : Client} {i : Nat}
      (hfirst : FirstFaulty [] settings.clients client i) (h : client.id ≠ "") :
      FirstFault settings ("clients: duplicate client_id '" ++ client.id ++ "'")

variable {settings : Settings} {seen : List String} {client : Client} {clients : List Client}
  {fault : Fault} {i : Nat}

/-! ### Clients -/

theorem isFaulty_zero_iff :
    IsFaulty seen (client :: clients) 0 ↔ client.id = "" ∨ client.id ∈ seen := by
  simp [IsFaulty]

/-- For the clients after it, the first one is one more whose id was seen. -/
theorem isFaulty_succ_iff :
    IsFaulty seen (client :: clients) (i + 1) ↔ IsFaulty (client.id :: seen) clients i := by
  simp only [IsFaulty, List.getElem?_cons_succ, List.take_succ_cons, List.mem_cons]
  grind

theorem firstFaulty_zero_iff {other : Client} :
    FirstFaulty seen (client :: clients) other 0 ↔
      client = other ∧ (client.id = "" ∨ client.id ∈ seen) := by
  constructor
  · intro h
    exact ⟨by simpa using h.getElem?, isFaulty_zero_iff.mp h.faulty⟩
  · rintro ⟨rfl, hfaulty⟩
    exact ⟨rfl, isFaulty_zero_iff.mpr hfaulty, by simp⟩

theorem firstFaulty_succ_iff {other : Client} :
    FirstFaulty seen (client :: clients) other (i + 1) ↔
      ¬(client.id = "" ∨ client.id ∈ seen) ∧
        FirstFaulty (client.id :: seen) clients other i := by
  constructor
  · intro h
    refine ⟨fun hfaulty => h.first 0 (by omega) (isFaulty_zero_iff.mpr hfaulty), ?_⟩
    refine ⟨h.getElem?, isFaulty_succ_iff.mp h.faulty, fun j hj hfaulty => ?_⟩
    exact h.first (j + 1) (by omega) (isFaulty_succ_iff.mpr hfaulty)
  · rintro ⟨hclient, h⟩
    refine ⟨h.getElem?, isFaulty_succ_iff.mpr h.faulty, fun j hj hfaulty => ?_⟩
    cases j with
    | zero => exact hclient (isFaulty_zero_iff.mp hfaulty)
    | succ j => exact h.first j (by omega) (isFaulty_succ_iff.mp hfaulty)

theorem checkClients_cons_of_faulty (h : client.id = "" ∨ client.id ∈ seen)
    (clients : List Client) :
    checkClients seen (client :: clients) = .error (clientFault client) := by
  rw [checkClients, Client.validate, clientFault]
  by_cases hid : client.id = ""
  · rw [if_pos hid, if_pos hid]
  · rw [if_neg hid, if_neg hid]
    exact if_pos (h.resolve_left hid)

theorem checkClients_cons_of_not_faulty (h : ¬(client.id = "" ∨ client.id ∈ seen))
    (clients : List Client) :
    checkClients seen (client :: clients) = checkClients (client.id :: seen) clients := by
  obtain ⟨hid, hseen⟩ := not_or.mp h
  rw [checkClients, Client.validate_eq_ok_iff.mpr hid]
  exact if_neg hseen

/-- The check of clients stops at the first faulty one. -/
theorem checkClients_eq_error_iff :
    checkClients seen clients = .error fault ↔
      ∃ client i, FirstFaulty seen clients client i ∧ clientFault client = fault := by
  induction clients generalizing seen with
  | nil =>
    constructor
    · nofun
    · rintro ⟨client, i, h, -⟩
      simpa using h.getElem?
  | cons first clients ih =>
    by_cases hfirst : first.id = "" ∨ first.id ∈ seen
    · rw [checkClients_cons_of_faulty hfirst, Except.error.injEq]
      constructor
      · intro h
        exact ⟨first, 0, firstFaulty_zero_iff.mpr ⟨rfl, hfirst⟩, h⟩
      · rintro ⟨client, i, h, rfl⟩
        cases i with
        | zero => rw [(firstFaulty_zero_iff.mp h).1]
        | succ i => exact absurd hfirst (firstFaulty_succ_iff.mp h).1
    · rw [checkClients_cons_of_not_faulty hfirst, ih]
      constructor
      · rintro ⟨client, i, h, hfault⟩
        exact ⟨client, i + 1, firstFaulty_succ_iff.mpr ⟨hfirst, h⟩, hfault⟩
      · rintro ⟨client, i, h, hfault⟩
        cases i with
        | zero => exact absurd (firstFaulty_zero_iff.mp h).2 hfirst
        | succ i => exact ⟨client, i, (firstFaulty_succ_iff.mp h).2, hfault⟩

/-! ### Settings -/

theorem validate_of_port (h : settings.server.port = 0) :
    settings.validate = .error .portIsZero := by
  rw [validate, if_pos h]

theorem validate_of_level (hport : settings.server.port ≠ 0)
    (h : ¬IsLevel settings.logging.level) : settings.validate = .error .unknownLevel := by
  rw [validate, if_neg hport]
  exact if_pos h

theorem validate_of_stateLength (hport : settings.server.port ≠ 0)
    (hlevel : IsLevel settings.logging.level) (h : settings.authorize.minStateLength < 8) :
    settings.validate =
      .error (.authorize (.stateLengthBelowFloor settings.authorize.minStateLength)) := by
  have hknown : Text.lower settings.logging.level ∈ levelNames := hlevel
  have hshort : settings.authorize.minStateLength < minStateLengthFloor := h
  rw [validate, if_neg hport, if_neg (not_not.mpr hknown), AuthorizeSettings.validate,
    if_pos hshort]

/-- Settings that are in order up to their clients fail with the first faulty one. -/
theorem ValidHead.validate_eq_error_iff (h : settings.ValidHead) :
    settings.validate = .error fault ↔
      ∃ client i, FirstFaulty [] settings.clients client i ∧ clientFault client = fault := by
  have hknown : Text.lower settings.logging.level ∈ levelNames := h.level
  rw [validate, if_neg h.port, if_neg (not_not.mpr hknown),
    AuthorizeSettings.validate_eq_ok_iff.mpr h.minStateLength]
  exact checkClients_eq_error_iff

theorem message_unknownLevel : Fault.unknownLevel.message = "logging.level must be one of " ++
    "[\"trace\", \"debug\", \"info\", \"warn\", \"error\", \"off\"]" := by
  decide

theorem message_stateLengthBelowFloor (length : Nat) :
    (Fault.authorize (.stateLengthBelowFloor length)).message =
      "authorize: Invalid value for min_state_length: must be at least 8, got " ++
        toString length := by
  have hstart : "authorize: " ++ ("Invalid value for " ++ ("min_state_length" ++
      (": must be at least " ++ (toString minStateLengthFloor ++ ", got ")))) =
      "authorize: Invalid value for min_state_length: must be at least 8, got " := by decide
  calc (Fault.authorize (.stateLengthBelowFloor length)).message
      = "authorize: " ++ ("Invalid value for " ++ "min_state_length" ++ ": must be at least " ++
          toString minStateLengthFloor ++ ", got " ++ toString length) := rfl
    _ = "authorize: " ++ ("Invalid value for " ++ ("min_state_length" ++ (": must be at least " ++
          (toString minStateLengthFloor ++ ", got ")))) ++ toString length := by
        simp only [String.append_assoc]
    _ = _ := by rw [hstart]

theorem message_clientFault_of_id_eq (h : client.id = "") :
    (clientFault client).message = "clients: Client ID cannot be empty" := by
  rw [clientFault, if_pos h]
  rfl

theorem message_clientFault_of_id_ne (h : client.id ≠ "") :
    (clientFault client).message = "clients: duplicate client_id '" ++ client.id ++ "'" := by
  rw [clientFault, if_neg h]
  rfl

theorem firstFault_of_validate (h : settings.validate = .error fault) :
    FirstFault settings fault.message := by
  by_cases hport : settings.server.port = 0
  · rw [validate_of_port hport, Except.error.injEq] at h
    rw [← h]
    exact .port hport
  by_cases hlevel : IsLevel settings.logging.level
  · by_cases hlength : settings.authorize.minStateLength < 8
    · rw [validate_of_stateLength hport hlevel hlength, Except.error.injEq] at h
      rw [← h, message_stateLengthBelowFloor]
      exact .stateLength hport hlevel hlength
    · have hrest : settings.ValidHead := ⟨hport, hlevel, Nat.not_lt.mp hlength⟩
      obtain ⟨client, i, hfirst, rfl⟩ := hrest.validate_eq_error_iff.mp h
      by_cases hid : client.id = ""
      · rw [message_clientFault_of_id_eq hid]
        exact .emptyId hrest hfirst hid
      · rw [message_clientFault_of_id_ne hid]
        exact .duplicate hrest hfirst hid
  · rw [validate_of_level hport hlevel, Except.error.injEq] at h
    rw [← h, message_unknownLevel]
    exact .level hport hlevel

theorem FirstFault.validate {message : String} (h : FirstFault settings message) :
    ∃ fault, settings.validate = .error fault ∧ fault.message = message := by
  cases h with
  | port h => exact ⟨_, validate_of_port h, rfl⟩
  | level hport h => exact ⟨_, validate_of_level hport h, message_unknownLevel⟩
  | stateLength hport hlevel h =>
    exact ⟨_, validate_of_stateLength hport hlevel h, message_stateLengthBelowFloor _⟩
  | emptyId hrest hfirst h =>
    exact ⟨_, hrest.validate_eq_error_iff.mpr ⟨_, _, hfirst, rfl⟩, message_clientFault_of_id_eq h⟩
  | duplicate hrest hfirst h =>
    exact ⟨_, hrest.validate_eq_error_iff.mpr ⟨_, _, hfirst, rfl⟩, message_clientFault_of_id_ne h⟩

/-- Settings pass exactly when nothing is wrong with them, and otherwise the message is that of the
first thing that is. -/
theorem first_fault_told (settings : Settings) :
    (settings.validate = .ok () ↔
      settings.server.port ≠ 0 ∧ IsLevel settings.logging.level ∧
      8 ≤ settings.authorize.minStateLength ∧
      (∀ client ∈ settings.clients, client.id ≠ "") ∧
      settings.clients.Pairwise fun client other => client.id ≠ other.id) ∧
    ∀ message, (∃ fault, settings.validate = .error fault ∧ fault.message = message) ↔
      FirstFault settings message := by
  refine ⟨?_, fun message => ⟨?_, FirstFault.validate⟩⟩
  · rw [validate_eq_ok_iff, ← List.pairwise_map (R := (· ≠ ·))]
    exact ⟨fun h => ⟨h.port, h.level, h.minStateLength, h.ids, h.distinct⟩,
      fun ⟨port, level, minStateLength, ids, distinct⟩ =>
        ⟨port, level, minStateLength, ids, distinct⟩⟩
  · rintro ⟨fault, hfault, rfl⟩
    exact firstFault_of_validate hfault

end OAuthEndpoint.Settings
