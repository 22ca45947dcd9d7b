import OAuthEndpoint.Proofs.ClientStore
import OAuthEndpoint.Settings.Load

/-! Which settings are in order (`validate_eq_ok_iff`).  Settings that were loaded are, wherever they
came from. -/

namespace OAuthEndpoint

theorem AuthorizeSettings.validate_eq_ok_iff {settings : AuthorizeSettings} :
    settings.validate = .ok () ↔ minStateLengthFloor ≤ settings.minStateLength := by
  rw [validate]
  by_cases h : settings.minStateLength < minStateLengthFloor
  · simp [h, Nat.not_le.mpr h]
  · simp [h, Nat.not_lt.mp h]

namespace Settings

/-- Settings that a server can be started with. -/
structure Valid (settings : Settings) : Prop where
  port : settings.server.port ≠ 0
  level : Text.lower settings.logging.level ∈ levelNames
  minStateLength : minStateLengthFloor ≤ settings.authorize.minStateLength
  ids : ∀ client ∈ settings.clients, client.id ≠ ""
  distinct : (settings.clients.map Client.id).Nodup

/-- Clients pass when each has an id that none before it has, those already seen included. -/
theorem checkClients_eq_ok_iff {seen : List String} {clients : List Client} :
    checkClients seen clients = .ok () ↔
      (∀ client ∈ clients, client.id ≠ "" ∧ client.id ∉ seen) ∧
      (clients.map Client.id).Nodup := by
  induction clients generalizing seen with
  | nil => simp [checkClients]
  | cons client clients ih =>
    rw [checkClients, List.forall_mem_cons, List.map_cons, List.nodup_cons]
    cases hvalid : client.validate with
    | error fault =>
      have hempty : ¬client.id ≠ "" := by
        intro hid
        rw [Client.validate_eq_ok_iff.mpr hid] at hvalid
        cases hvalid
      simp [hempty]
    | ok =>
      have hid := Client.validate_eq_ok_iff.mp hvalid
      by_cases hseen : client.id ∈ seen
      · simp [hseen]
      · simp only [hseen, if_false, ih, hid, ne_eq, not_false_eq_true, true_and]
        -- The first id is among those seen on one side, and distinct from the rest on the other.
        constructor
        · rintro ⟨hrest, hdistinct⟩
          refine ⟨fun other hother => ⟨(hrest other hother).1, fun hold => ?_⟩, ?_, hdistinct⟩
          · exact (hrest other hother).2 (List.mem_cons_of_mem _ hold)
          · intro hmem
            obtain ⟨other, hother, hsame⟩ := List.mem_map.mp hmem
            exact (hrest other hother).2 (hsame ▸ List.mem_cons_self)
        · rintro ⟨hrest, hfirst, hdistinct⟩
          refine ⟨fun other hother => ⟨(hrest other hother).1, fun hold => ?_⟩, hdistinct⟩
          rcases List.mem_cons.mp hold with hsame | hold
          · exact hfirst (List.mem_map.mpr ⟨other, hother, hsame⟩)
          · exact (hrest other hother).2 hold

theorem validate_eq_ok_iff {settings : Settings} : settings.validate = .ok () ↔ settings.Valid := by
  rw [validate]
  by_cases hport : settings.server.port = 0
  · rw [if_pos hport]
    exact ⟨nofun, fun h => absurd hport h.port⟩
  rw [if_neg hport]
  by_cases hlevel : Text.lower settings.logging.level ∈ levelNames
  · rw [if_neg (not_not.mpr hlevel)]
    cases hauthorize : settings.authorize.validate with
    | error fault =>
      refine ⟨nofun, fun h => ?_⟩
      rw [AuthorizeSettings.validate_eq_ok_iff.mpr h.minStateLength] at hauthorize
      cases hauthorize
    | ok =>
      have hlength := AuthorizeSettings.validate_eq_ok_iff.mp hauthorize
      simp only [checkClients_eq_ok_iff, List.not_mem_nil, not_false_eq_true, and_true]
      exact ⟨fun h => ⟨hport, hlevel, hlength, h.1, h.2⟩, fun h => ⟨h.ids, h.distinct⟩⟩
  · rw [if_pos hlevel]
    exact ⟨nofun, fun h => absurd h.level hlevel⟩

theorem valid_of_ofData {data : Data} {settings : Settings} (h : ofData data = .ok settings) :
    settings.Valid := by
  rw [ofData] at h
  cases hread : Settings.read? .lenient data with
  | none =>
    rw [hread] at h
    cases h
  | some found =>
    simp only [hread] at h
    cases hvalid : found.validate with
    | error fault =>
      rw [hvalid] at h
      cases h
    | ok =>
      rw [hvalid, Except.ok.injEq] at h
      rw [← h]
      exact validate_eq_ok_iff.mp hvalid

/-- Settings come out of loading in order or not at all. -/
theorem valid_of_load {directory : Directory} {environment : Environment} {path : String}
    {settings : Settings} (h : load directory environment path = .ok settings) :
    settings.Valid := by
  rw [load] at h
  cases hmerged : merged directory environment path with
  | error fault =>
    rw [hmerged] at h
    cases h
  | ok data =>
    rw [hmerged] at h
    exact valid_of_ofData h

end Settings

end OAuthEndpoint
