import OAuthEndpoint.RedirectTarget

/-! What a redirect target is resolved to: a registration that the request names, or the only one
where it names none, read as a hierarchical URL without a fragment (`resolve_eq_ok_iff`).  All else
is refused, for one reason (`resolve_eq_error_iff`). -/

namespace OAuthEndpoint.RedirectTarget

/-- The registration that a request chooses: the one it names, or the only one by naming none. -/
inductive Chosen (raw : String) (client : Client) : String → Prop
  | named (hne : raw ≠ "") (hmem : raw ∈ client.redirectUris) : Chosen raw client raw
  | only {registered : String} (hempty : raw = "") (honly : client.redirectUris = [registered]) :
      Chosen raw client registered

namespace Chosen

variable {raw registered : String} {client : Client}

theorem mem (h : Chosen raw client registered) : registered ∈ client.redirectUris := by
  cases h with
  | named _ hmem => exact hmem
  | only _ honly => simp [honly]

/-- A request chooses one registration at most. -/
theorem unique {other : String} (h : Chosen raw client registered)
    (h' : Chosen raw client other) : registered = other := by
  cases h with
  | named hne _ =>
    cases h' with
    | named => rfl
    | only hempty _ => exact absurd hempty hne
  | only hempty honly =>
    cases h' with
    | named hne _ => exact absurd hempty hne
    | only _ honly' =>
      rw [honly, List.singleton_inj] at honly'
      exact honly'

theorem eq_or_only (h : Chosen raw client registered) :
    registered = raw ∨ raw = "" ∧ client.redirectUris = [registered] := by
  cases h with
  | named => exact .inl rfl
  | only hempty honly => exact .inr ⟨hempty, honly⟩

end Chosen

theorem chosen_iff {raw registered : String} {client : Client} :
    Chosen raw client registered ↔
      raw = "" ∧ client.redirectUris = [registered] ∨
        raw ≠ "" ∧ raw = registered ∧ registered ∈ client.redirectUris := by
  constructor
  · intro h
    cases h with
    | named hne hmem => exact .inr ⟨hne, rfl, hmem⟩
    | only hempty honly => exact .inl ⟨hempty, honly⟩
  · rintro (⟨hempty, honly⟩ | ⟨hne, rfl, hmem⟩)
    · exact .only hempty honly
    · exact .named hne hmem

theorem choose_eq_ok_iff {raw registered : String} {client : Client} :
    choose raw client = .ok registered ↔ Chosen raw client registered := by
  rw [choose]
  constructor
  · intro h
    split at h
    · next hempty =>
      split at h
      · next only honly =>
        cases h
        exact .only hempty honly
      · cases h
    · next hne =>
      split at h
      · next hregistered =>
        cases h
        exact .named hne (List.contains_iff_mem.mp hregistered)
      · cases h
  · intro h
    cases h with
    | named hne hmem =>
      have hregistered : client.isRegistered raw = true := List.contains_iff_mem.mpr hmem
      rw [if_neg hne, if_pos hregistered]
    | only hempty honly => simp only [hempty, if_true, honly]

theorem isRedirectable_iff {url : Url} :
    isRedirectable url = true ↔ url.isHierarchical = true ∧ url.fragment = none := by
  rw [isRedirectable, Bool.and_eq_true, Option.isNone_iff_eq_none]

/-- Registration exempts no URI from the checks, and nothing but a registration passes. -/
theorem resolve_eq_ok_iff {raw : String} {client : Client} {url : Url} :
    resolve raw client = .ok url ↔ ∃ registered, Chosen raw client registered ∧
      Url.parse registered = .ok url ∧ url.isHierarchical = true ∧ url.fragment = none := by
  have hchosen := fun registered => @choose_eq_ok_iff raw registered client
  rw [resolve]
  cases hchoose : choose raw client with
  | error fault =>
    simp only [hchoose, reduceCtorEq, false_iff] at hchosen
    simp [hchosen]
  | ok chosen =>
    simp only [hchoose, Except.ok.injEq] at hchosen
    simp only [← hchosen, exists_eq_left']
    cases hparse : Url.parse chosen with
    | error fault => simp
    | ok parsed =>
      simp only [Except.ok.injEq]
      by_cases h : isRedirectable parsed = true
      · rw [if_pos h]
        have hparts := isRedirectable_iff.mp h
        constructor
        · intro heq
          cases heq
          exact ⟨rfl, hparts⟩
        · rintro ⟨rfl, -⟩
          rfl
      · rw [if_neg h]
        constructor
        · intro heq
          cases heq
        · rintro ⟨rfl, hparts⟩
          exact absurd (isRedirectable_iff.mpr hparts) h

/-- Why a request is refused its target: it names none and the client has not registered exactly
one, it names one that is not registered, or what it chooses is no URL or not one to be sent to. -/
inductive Refused (raw : String) (client : Client) : Fault → Prop
  | notChosen (hempty : raw = "") (hlength : client.redirectUris.length ≠ 1) :
      Refused raw client .notChosen
  | notRegistered (hne : raw ≠ "") (hmem : raw ∉ client.redirectUris) :
      Refused raw client .notRegistered
  | malformed {registered : String} {fault : Url.Fault} (hchosen : Chosen raw client registered)
      (hparse : Url.parse registered = .error fault) : Refused raw client (.malformed fault)
  | notRedirectable {registered : String} {url : Url} (hchosen : Chosen raw client registered)
      (hparse : Url.parse registered = .ok url)
      (h : url.isHierarchical = false ∨ url.fragment ≠ none) : Refused raw client .notRedirectable

theorem choose_eq_notChosen {raw : String} {client : Client} (hempty : raw = "")
    (hlength : client.redirectUris.length ≠ 1) : choose raw client = .error .notChosen := by
  rw [choose, if_pos hempty]
  split
  · next only honly => exact absurd (honly ▸ rfl) hlength
  · rfl

theorem choose_eq_notRegistered {raw : String} {client : Client} (hne : raw ≠ "")
    (hmem : raw ∉ client.redirectUris) : choose raw client = .error .notRegistered := by
  have hregistered : ¬client.isRegistered raw = true := fun h => hmem (List.contains_iff_mem.mp h)
  rw [choose, if_neg hne, if_neg hregistered]

theorem resolve_of_refused {raw : String} {client : Client} {fault : Fault}
    (h : Refused raw client fault) : resolve raw client = .error fault := by
  cases h with
  | notChosen hempty hlength => simp only [resolve, choose_eq_notChosen hempty hlength]
  | notRegistered hne hmem => simp only [resolve, choose_eq_notRegistered hne hmem]
  | malformed hchosen hparse => simp only [resolve, choose_eq_ok_iff.mpr hchosen, hparse]
  | notRedirectable hchosen hparse h =>
    simp only [resolve, choose_eq_ok_iff.mpr hchosen, hparse]
    refine if_neg fun hredirectable => ?_
    obtain ⟨hhierarchical, hfragment⟩ := isRedirectable_iff.mp hredirectable
    rcases h with h | h
    · rw [hhierarchical] at h
      cases h
    · exact h hfragment

theorem exists_chosen_or_refused (raw : String) (client : Client) :
    (∃ registered, Chosen raw client registered) ∨ ∃ fault, Refused raw client fault := by
  by_cases hempty : raw = ""
  · by_cases hlength : client.redirectUris.length = 1
    · obtain ⟨registered, honly⟩ := List.length_eq_one_iff.mp hlength
      exact .inl ⟨registered, .only hempty honly⟩
    · exact .inr ⟨_, .notChosen hempty hlength⟩
  · by_cases hmem : raw ∈ client.redirectUris
    · exact .inl ⟨raw, .named hempty hmem⟩
    · exact .inr ⟨_, .notRegistered hempty hmem⟩

/-- A target is resolved, or refused for one of the reasons. -/
theorem exists_resolved_or_refused (raw : String) (client : Client) :
    (∃ url, resolve raw client = .ok url) ∨ ∃ fault, Refused raw client fault := by
  rcases exists_chosen_or_refused raw client with ⟨registered, hchosen⟩ | hrefused
  · cases hparse : Url.parse registered with
    | error fault => exact .inr ⟨_, .malformed hchosen hparse⟩
    | ok url =>
      by_cases hhierarchical : url.isHierarchical = true
      · by_cases hfragment : url.fragment = none
        · exact .inl ⟨url, resolve_eq_ok_iff.mpr
            ⟨registered, hchosen, hparse, hhierarchical, hfragment⟩⟩
        · exact .inr ⟨_, .notRedirectable hchosen hparse (.inr hfragment)⟩
      · exact .inr ⟨_, .notRedirectable hchosen hparse (.inl (Bool.not_eq_true _ ▸ hhierarchical))⟩
  · exact .inr hrefused

theorem resolve_eq_error_iff {raw : String} {client : Client} {fault : Fault} :
    resolve raw client = .error fault ↔ Refused raw client fault := by
  constructor
  · intro h
    rcases exists_resolved_or_refused raw client with ⟨url, hurl⟩ | ⟨other, hrefused⟩
    · rw [h] at hurl
      cases hurl
    · have hother := resolve_of_refused hrefused
      rw [h, Except.error.injEq] at hother
      exact hother ▸ hrefused
  · exact resolve_of_refused

end OAuthEndpoint.RedirectTarget
