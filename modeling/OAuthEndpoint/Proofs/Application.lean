import OAuthEndpoint.Launch
import OAuthEndpoint.Proofs.Endpoint.Grant
import OAuthEndpoint.Proofs.Http.Location
import OAuthEndpoint.Proofs.Settings.Valid

/-! The server that comes of settings.  From settings that were loaded it starts, knows their clients
and no others, and grants nothing to a state that is shorter than they ask for
(`serves_of_load`).  A grant is read from the text that goes out, which ends as that of no error
does (`grants_iff`). -/

namespace OAuthEndpoint

/-- A response that sends a code and a state to where it leads. -/
def Http.Response.Grants (response : Response) (code state : String) : Prop :=
  ∃ before,
    response.location? = some (before ++ Form.serialize [("code", code), ("state", state)])

theorem Endpoint.granted_of_render {Session : Type} {service : AuthorizationService}
    {issuer : CodeGrant.Issuer} {inbound : InboundRequest} {session : Session} {location : Url}
    {headers : Http.Headers} {before code state : String}
    (hreply : ((granting Session service issuer).handle inbound session).value =
      .redirect location headers)
    (hends : location.render = before ++ Form.serialize [("code", code), ("state", state)]) :
    ∃ accepted code', (service.build inbound).value = .ok accepted ∧
      "code" ∈ accepted.responseTypes ∧ issuer accepted = .ok code' ∧ accepted.state = state := by
  have hlast : ∀ (url : Url) (first last : String × String), url.fragment = none →
      url.appendPairs [first, last] = location → last = ("state", state) := by
    intro url first last hfragment hlocation
    rw [← hlocation, Url.render_appendPairs_of_ne_nil hfragment (by simp)] at hends
    exact Form.last_eq_of_append_serialize hends
  rcases granting_cases service issuer inbound session with
    ⟨accepted, issued, hbuild, hcode, hissued⟩ | ⟨error, target, hfails⟩
  · rw [value_handle_of_issued hbuild hcode hissued, Reply.redirect.injEq] at hreply
    have hstate := hlast _ _ _ (AuthorizationService.noFragment_of_build hbuild) hreply.1
    exact ⟨accepted, issued, hbuild, hcode, hissued, (Prod.mk.inj hstate).2⟩
  · -- What an error puts last is its description, never a state.
    rw [hfails.value_handle] at hreply
    cases target with
    | none => cases hreply
    | some url =>
      obtain ⟨params, client, hverified⟩ := hfails.verified
      rw [Reply.failure, Reply.redirect.injEq] at hreply
      have hdescription := hlast _ _ _ hverified.noFragment hreply.1
      exact absurd (Prod.mk.inj hdescription).1 (by decide)

namespace Application

variable {store : ClientStore} {minStateLength : Nat} {issuer : CodeGrant.Issuer}
  {request : Http.Request} {code state : String}

theorem grants_iff :
    (∃ code, ((ofStore store minStateLength issuer).serve request).2.Grants code state) ↔
      Http.Route.of request = .endpoint ∧ ∃ accepted code,
        (AuthorizationService.build ⟨store.lookup, minStateLength⟩ request.inbound).value =
          .ok accepted ∧
        "code" ∈ accepted.responseTypes ∧ issuer accepted = .ok code ∧ accepted.state = state := by
  have hserve : ((ofStore store minStateLength issuer).serve request).2 =
      (Http.serve (.granting Unit ⟨store.lookup, minStateLength⟩ issuer) request none).value := rfl
  constructor
  · rintro ⟨code, before, hlocation⟩
    rw [hserve] at hlocation
    obtain ⟨hroute, location, headers, hreply, hrender⟩ :=
      Http.location?_serve_eq_some_iff.mp hlocation
    exact ⟨hroute, Endpoint.granted_of_render hreply hrender⟩
  · rintro ⟨hroute, accepted, code, hbuild, hcode, hissued, rfl⟩
    refine ⟨code, accepted.redirectUri.render ++ Url.separator accepted.redirectUri.query, ?_⟩
    rw [hserve]
    exact Http.location?_serve_eq_some_iff.mpr ⟨hroute, _, _,
      Endpoint.value_handle_of_issued hbuild hcode hissued,
      Url.render_appendPairs_of_ne_nil (AuthorizationService.noFragment_of_build hbuild) (by simp)⟩

/-- A request that is granted has a state, and one that is long enough. -/
theorem state_of_grants
    (h : ((ofStore store minStateLength issuer).serve request).2.Grants code state) :
    ∃ params, request.inbound.parameters = .ok params ∧ params.get "state" = state ∧
      minStateLength ≤ state.length := by
  obtain ⟨-, accepted, -, hbuild, -, -, rfl⟩ := grants_iff.mp ⟨code, h⟩
  obtain ⟨params, client, url, hverified, hstate, rfl⟩ :=
    AuthorizationService.build_eq_ok_iff.mp hbuild
  exact ⟨params, hverified.form, rfl, hstate.2⟩

end Application

namespace Settings

/-- The store of the clients of settings. -/
def store (settings : Settings) : ClientStore := settings.clients.foldl ClientStore.insert .empty

variable {directory : Directory} {environment : Environment} {path : String} {settings : Settings}

theorem Valid.ofSettings (h : settings.Valid) (issuer : CodeGrant.Issuer) :
    Application.ofSettings settings issuer = .ok (.raised (Application.seededEvent settings.store)
      (.ofStore settings.store settings.authorize.minStateLength issuer)) := by
  have hstore : ClientStore.ofClients settings.clients = .ok settings.store :=
    ClientStore.registerAll_of_valid h.ids .empty
  rw [Application.ofSettings, hstore]

theorem Valid.value_serve (h : settings.Valid) (issuer : CodeGrant.Issuer) :
    (Launch.serve settings issuer).value =
      .serving settings (.ofStore settings.store settings.authorize.minStateLength issuer) := by
  rw [Launch.serve, h.ofSettings]
  rfl

/-- Settings that were loaded make a server that starts, that finds each of their clients under its
id and none under any other, and that grants to no state which is too short. -/
theorem serves_of_load (h : load directory environment path = .ok settings)
    (issuer : CodeGrant.Issuer) :
    ∃ application : Logged Application,
      Application.ofSettings settings issuer = .ok application ∧
      (Launch.serve settings issuer).value = .serving settings application.value ∧
      (∀ client ∈ settings.clients,
        application.value.endpoint.service.lookup client.id = .ok (some client)) ∧
      (∀ id, id ∉ settings.clients.map Client.id →
        application.value.endpoint.service.lookup id = .ok none) ∧
      ∀ request code state, (application.value.serve request).2.Grants code state →
        ∃ params, request.inbound.parameters = .ok params ∧ params.get "state" = state ∧
          max 8 settings.authorize.minStateLength ≤ state.length := by
  have hvalid := valid_of_load h
  refine ⟨_, hvalid.ofSettings issuer, hvalid.value_serve issuer, ?_, ?_, ?_⟩
  · intro client hclient
    exact congrArg Except.ok (ClientStore.find?_foldl_insert_of_nodup hvalid.distinct hclient)
  · intro id hid
    exact congrArg Except.ok (ClientStore.find?_foldl_insert_of_not_mem hid)
  · intro request code state hgrants
    obtain ⟨params, hform, hget, hlength⟩ := Application.state_of_grants hgrants
    have hfloor : 8 ≤ settings.authorize.minStateLength := hvalid.minStateLength
    exact ⟨params, hform, hget, by omega⟩

/-- Two clients in a file, a variable that outweighs it, and a state of just enough characters. -/
theorem serves_of_load_two_clients :
    let directory := Directory.ofFiles [("portico.toml",
      "[authorize]\nmin_state_length = 20\n" ++
      "[[clients]]\nclient_id = \"c1\"\nredirect_uris = [\"https://app.example/cb\"]\n" ++
      "[[clients]]\nclient_id = \"c2\"\n")]
    let environment : Environment := ⟨[("PORTICO__AUTHORIZE__MIN_STATE_LENGTH", "10")]⟩
    let c1 : Client := ⟨"c1", "", ["https://app.example/cb"]⟩
    let c2 : Client := ⟨"c2", "", []⟩
    let settings : Settings := { authorize := { minStateLength := 10 }, clients := [c1, c2] }
    let issuer : CodeGrant.Issuer := fun _ => .ok "xyz"
    let request : Http.Request :=
      ⟨"GET", .parse "/oauth/authorize?client_id=c1&response_type=code&state=abcdefg%C3%9F%26j",
        .empty, []⟩
    load directory environment "portico.toml" = .ok settings ∧
    ∃ application, Application.ofSettings settings issuer = .ok application ∧
      application.value.endpoint.service.lookup "c2" = .ok (some c2) ∧
      application.value.endpoint.service.lookup "c3" = .ok none ∧
      (application.value.serve request).2.Grants "xyz" "abcdefgß&j" ∧
      max 8 10 ≤ "abcdefgß&j".length := by
  intro directory environment c1 c2 settings issuer request
  have hload : load directory environment "portico.toml" = .ok settings := by decide +kernel
  obtain ⟨application, happlication, -, hknown, hunknown, hlong⟩ := serves_of_load hload issuer
  have hgrants : (application.value.serve request).2.Grants "xyz" "abcdefgß&j" := by
    rw [(valid_of_load hload).ofSettings, Except.ok.injEq] at happlication
    rw [← happlication]
    exact ⟨"https://app.example/cb?", by decide +kernel⟩
  obtain ⟨params, -, -, hlength⟩ := hlong _ _ _ hgrants
  exact ⟨hload, application, happlication, hknown c2 (by decide), hunknown "c3" (by decide),
    hgrants, hlength⟩

end Settings

end OAuthEndpoint
