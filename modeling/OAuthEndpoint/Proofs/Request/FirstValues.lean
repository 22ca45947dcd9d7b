import OAuthEndpoint.Proofs.Request.Checks
import OAuthEndpoint.Proofs.Request.Parameters

/-! What a request depends on: the first values of five names, and no other pair.  Two requests with
the same first values are built alike (`build_alike`), and pairs that come after values of their
names, or that have other names, leave the first values as they are (`Shadows.agree`). -/

namespace OAuthEndpoint

open Text

namespace Parameters

/-- The first value of a name, if there is one. -/
def first? (params : Parameters) (name : String) : Option String :=
  (params.pairs.find? (·.1 == name)).map (·.2)

/-- The names whose values decide what becomes of a request. -/
def deciding : List String := ["client_id", "redirect_uri", "response_type", "state", "scope"]

/-- The same first values of all deciding names, where there are any. -/
def Agree (a b : Parameters) : Prop := ∀ name ∈ deciding, a.first? name = b.first? name

/-- Each of more pairs has a name that is there already, or none of the deciding ones. -/
def Shadows (params : Parameters) (more : List (String × String)) : Prop :=
  ∀ pair ∈ more, pair.1 ∈ params.pairs.map (·.1) ∨ pair.1 ∉ deciding

variable {a b params : Parameters} {more : List (String × String)} {name : String}

theorem get_eq_first? (params : Parameters) (name : String) :
    params.get name = (params.first? name).getD "" := rfl

theorem Agree.get_eq (h : a.Agree b) (hname : name ∈ deciding) : a.get name = b.get name := by
  rw [get_eq_first?, get_eq_first?, h name hname]

theorem first?_append (params : Parameters) (more : List (String × String)) (name : String) :
    (Parameters.mk (params.pairs ++ more)).first? name =
      (params.first? name).or ((Parameters.mk more).first? name) := by
  rw [first?, List.find?_append, Option.map_or]
  rfl

theorem first?_eq_none_iff : params.first? name = none ↔ name ∉ params.pairs.map (·.1) := by
  rw [first?, Option.map_eq_none_iff, List.find?_eq_none]
  constructor
  · intro h hmem
    obtain ⟨pair, hpair, rfl⟩ := List.mem_map.mp hmem
    exact h pair hpair (beq_self_eq_true pair.1)
  · intro h pair hpair hname
    exact h (List.mem_map.mpr ⟨pair, hpair, beq_iff_eq.mp hname⟩)

theorem Shadows.agree (h : params.Shadows more) : params.Agree ⟨params.pairs ++ more⟩ := by
  intro name hname
  rw [first?_append]
  cases hfirst : params.first? name with
  | some value => rfl
  | none =>
    -- Nothing of this name came before, so that none of the new pairs may have it.
    rw [Option.none_or, eq_comm, first?_eq_none_iff]
    intro hmem
    obtain ⟨pair, hpair, rfl⟩ := List.mem_map.mp hmem
    rcases h pair hpair with hthere | hother
    · exact first?_eq_none_iff.mp hfirst hthere
    · exact hother hname

end Parameters

namespace InboundRequest

/-- The request with more text in its query, after a `&` where it has one. -/
def addQuery (request : InboundRequest) (more : String) : InboundRequest :=
  { request with
    query := some (match request.query with
      | some query => query ++ "&" ++ more
      | none => more) }

variable {request : InboundRequest} {params : Parameters} {more : String}
  {added : List (String × String)}

theorem queryPairs_addQuery {pairs : List (String × String)}
    (hquery : request.queryPairs = .ok pairs) (hmore : Form.parse more = .ok added) :
    (request.addQuery more).queryPairs = .ok (pairs ++ added) := by
  rw [queryPairs] at hquery ⊢
  simp only [addQuery]
  cases hnone : request.query with
  | none =>
    rw [hnone, Except.ok.injEq] at hquery
    rw [← hquery]
    exact hmore
  | some query =>
    rw [hnone] at hquery
    exact Form.parse_append_amp_eq_ok_iff.mpr ⟨_, _, hquery, hmore, rfl⟩

/-- What is added to the query comes last, also where there is a body. -/
theorem parameters_addQuery (hparams : request.parameters = .ok params)
    (hmore : Form.parse more = .ok added) :
    (request.addQuery more).parameters = .ok ⟨params.pairs ++ added⟩ := by
  obtain ⟨inBody, inQuery, hbody, hquery, rfl⟩ := parameters_eq_ok_iff_parts.mp hparams
  have hsame : (request.addQuery more).bodyPairs = .ok inBody := hbody
  exact parameters_eq_ok_iff_parts.mpr
    ⟨inBody, inQuery ++ added, hsame, queryPairs_addQuery hquery hmore,
      congrArg Parameters.mk (List.append_assoc _ _ _)⟩

end InboundRequest

namespace AuthorizationService

/-- Both requests are accepted, equal in all that was checked, or both are rejected with one and the
same rejection. -/
inductive Alike : Except Rejection AuthorizationRequest → Except Rejection AuthorizationRequest →
    Prop
  | accepted {request request' : AuthorizationRequest} (client : request.client = request'.client)
      (redirectUri : request.redirectUri = request'.redirectUri)
      (responseTypes : request.responseTypes = request'.responseTypes)
      (state : request.state = request'.state) (scopes : request.scopes = request'.scopes) :
      Alike (.ok request) (.ok request')
  | rejected (rejection : Rejection) : Alike (.error rejection) (.error rejection)

variable {inbound inbound' : InboundRequest} {params params' : Parameters}

theorem target_congr (h : params.Agree params') (client : Client) :
    target params client = target params' client := by
  rw [target, target, RedirectTarget.requested, RedirectTarget.requested,
    h.get_eq (by decide : "redirect_uri" ∈ Parameters.deciding)]

theorem buildFor_alike (service : AuthorizationService) (h : params.Agree params')
    (client : Client) :
    Alike (service.buildFor params client) (service.buildFor params' client) := by
  have hstate := h.get_eq (by decide : "state" ∈ Parameters.deciding)
  rw [buildFor, buildFor, target_congr h, hstate]
  cases target params' client with
  | error error => exact .rejected _
  | ok url =>
    cases service.checkState (params'.get "state") with
    | error error => exact .rejected _
    | ok _ =>
      exact .accepted rfl rfl
        (congrArg TokenSet.parse (h.get_eq (by decide : "response_type" ∈ Parameters.deciding)))
        rfl (congrArg TokenSet.parse (h.get_eq (by decide : "scope" ∈ Parameters.deciding)))

/-- Requests with the same first values are built alike, and the same is told of it. -/
theorem build_alike (service : AuthorizationService) (hform : inbound.parameters = .ok params)
    (hform' : inbound'.parameters = .ok params') (h : params.Agree params') :
    Alike (service.build inbound).value (service.build inbound').value ∧
      (service.build inbound).events = (service.build inbound').events := by
  have hid := h.get_eq (by decide : "client_id" ∈ Parameters.deciding)
  rw [build, build, hform, hform']
  simp only [hid, Logged.value_bind, Logged.events_bind]
  cases (service.findClient (params'.get "client_id")).value with
  | error error => exact ⟨.rejected _, rfl⟩
  | ok client => exact ⟨service.buildFor_alike h client, rfl⟩

end AuthorizationService

end OAuthEndpoint
