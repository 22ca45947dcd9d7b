import OAuthEndpoint.AuthorizationRequest
import OAuthEndpoint.Proofs.Request.Parameters

/-! Where parameters travel.  A form counts the same in the body of a request, in its query, or cut
at a `&` between the two: nothing reaches over the cut, neither an escape nor a character whose
escapes stand on both sides of it (`carried_alike`). -/

namespace OAuthEndpoint

open Text

namespace InboundRequest

/-- A request whose body is read, and is a text. -/
structure Posts (request : InboundRequest) (form : String) : Prop where
  formBody : request.hasFormBody = true
  body : request.body = Utf8.encode form.toList

/-- The parameters cannot be read, which is told as a fault of the request. -/
def Malformed (request : InboundRequest) : Prop :=
  ∃ fault, request.parameters = .error fault ∧
    (AuthorizationService.formError fault).kind = .invalidRequest

variable {request : InboundRequest} {form query : String}

theorem hasFormBody_ofForm (body : List UInt8) : (ofForm body).hasFormBody = true := by
  have hclosed : (ofForm []).hasFormBody = true := by decide +kernel
  exact hclosed

theorem posts_ofForm (form : String) (query : Option String) :
    Posts { ofForm (Utf8.encode form.toList) with query } form :=
  ⟨hasFormBody_ofForm (Utf8.encode form.toList), rfl⟩

theorem malformed_iff : request.Malformed ↔ ¬∃ params, request.parameters = .ok params := by
  rw [Malformed]
  cases request.parameters with
  | error fault => simp [AuthorizationService.formError, AuthError.kind]
  | ok params => simp

theorem parameters_ofQuery (query : String) :
    (ofQuery query).parameters = (Form.parse query).map Parameters.mk :=
  parameters_eq_queryPairs rfl

theorem parameters_ofQuery_eq_ok_iff {params : Parameters} :
    (ofQuery query).parameters = .ok params ↔ Form.parse query = .ok params.pairs := by
  obtain ⟨pairs⟩ := params
  rw [parameters_ofQuery]
  cases Form.parse query <;> simp [Except.map]

namespace Posts

theorem bodyPairs (h : request.Posts form) : request.bodyPairs = Form.parse form := by
  have hdecoded : Utf8.decode? request.body = some form.toList := by
    rw [h.body, Utf8.decode?_encode]
  rw [InboundRequest.bodyPairs, if_pos h.formBody, hdecoded]
  simp only [String.ofList_toList]

/-- A form in the body alone is read as it is in a query. -/
theorem parameters_of_none (h : request.Posts form) (hquery : request.query = none) :
    request.parameters = (ofQuery form).parameters := by
  have hnone : request.queryPairs = .ok [] := by rw [queryPairs, hquery]
  rw [parameters_ofQuery, parameters, h.bodyPairs, hnone]
  cases Form.parse form with
  | error fault => rfl
  | ok pairs => exact congrArg (fun pairs => Except.ok (Parameters.mk pairs)) (List.append_nil _)

theorem parameters_eq_ok_iff_parse (h : request.Posts form) (hquery : request.query = some query)
    {params : Parameters} :
    request.parameters = .ok params ↔ ∃ inBody inQuery, Form.parse form = .ok inBody ∧
      Form.parse query = .ok inQuery ∧ params.pairs = inBody ++ inQuery := by
  have hpairs : request.queryPairs = Form.parse query := by rw [queryPairs, hquery]
  obtain ⟨pairs⟩ := params
  rw [parameters_eq_ok_iff_parts, h.bodyPairs, hpairs]
  simp only [Parameters.mk.injEq]

theorem parameters_eq_ok_iff (h : request.Posts form) (hquery : request.query = some query)
    {params : Parameters} :
    request.parameters = .ok params ↔ ∃ inBody inQuery, (ofQuery form).parameters = .ok inBody ∧
      (ofQuery query).parameters = .ok inQuery ∧ params.pairs = inBody.pairs ++ inQuery.pairs := by
  rw [h.parameters_eq_ok_iff_parse hquery]
  simp only [parameters_ofQuery_eq_ok_iff]
  constructor
  · rintro ⟨inBody, inQuery, hbody, hquery, hpairs⟩
    exact ⟨⟨inBody⟩, ⟨inQuery⟩, hbody, hquery, hpairs⟩
  · rintro ⟨inBody, inQuery, hbody, hquery, hpairs⟩
    exact ⟨inBody.pairs, inQuery.pairs, hbody, hquery, hpairs⟩

/-- A form in two parts is read as the whole is. -/
theorem parameters_eq_ok_iff_joined (h : request.Posts form) (hquery : request.query = some query)
    {params : Parameters} :
    request.parameters = .ok params ↔
      (ofQuery (form ++ "&" ++ query)).parameters = .ok params := by
  rw [h.parameters_eq_ok_iff_parse hquery, parameters_ofQuery_eq_ok_iff,
    Form.parse_append_amp_eq_ok_iff]

end Posts

end InboundRequest

theorem AuthorizationService.build_congr {service : AuthorizationService}
    {inbound inbound' : InboundRequest} (h : inbound.parameters = inbound'.parameters) :
    service.build inbound = service.build inbound' := by
  rw [build, build, h]

namespace InboundRequest

/-- A posted form and a query are read where a GET request of either is, to the pairs of the one and
then of the other, as is a GET request of both joined by a `&`.  A form that is posted alone and one
in a query are one and the same to the service. -/
theorem carried_alike {post : InboundRequest} {form : String} (hpost : post.Posts form) :
    (∀ query, post.query = some query →
      (∀ params, post.parameters = .ok params ↔
        ∃ inBody inQuery, (ofQuery form).parameters = .ok inBody ∧
          (ofQuery query).parameters = .ok inQuery ∧
          params.pairs = inBody.pairs ++ inQuery.pairs) ∧
      (∀ params, post.parameters = .ok params ↔
        (ofQuery (form ++ "&" ++ query)).parameters = .ok params) ∧
      (¬((∃ inBody, (ofQuery form).parameters = .ok inBody) ∧
          ∃ inQuery, (ofQuery query).parameters = .ok inQuery) →
        post.Malformed ∧ (ofQuery (form ++ "&" ++ query)).Malformed)) ∧
    (post.query = none → post.parameters = (ofQuery form).parameters ∧
      ∀ service : AuthorizationService, service.build post = service.build (ofQuery form)) := by
  constructor
  · intro query hquery
    have hjoined : ∀ params, post.parameters = .ok params ↔
        (ofQuery (form ++ "&" ++ query)).parameters = .ok params :=
      fun _ => hpost.parameters_eq_ok_iff_joined hquery
    refine ⟨fun _ => hpost.parameters_eq_ok_iff hquery, hjoined, ?_⟩
    intro hnot
    have hnone : ¬∃ params, post.parameters = .ok params := by
      rintro ⟨params, hparams⟩
      obtain ⟨inBody, inQuery, hbody, hread, -⟩ :=
        (hpost.parameters_eq_ok_iff hquery).mp hparams
      exact hnot ⟨⟨inBody, hbody⟩, inQuery, hread⟩
    refine ⟨malformed_iff.mpr hnone, malformed_iff.mpr ?_⟩
    rintro ⟨params, hparams⟩
    exact hnone ⟨params, (hjoined params).mpr hparams⟩
  · intro hquery
    have hparams := hpost.parameters_of_none hquery
    exact ⟨hparams, fun service => AuthorizationService.build_congr hparams⟩

/-- Two escapes that would spell one character and two digits that would spell one escape stay apart
where the cut is between them. -/
theorem carried_alike_cut_escapes :
    let post : InboundRequest :=
      { ofForm (Utf8.encode "state=%C3".toList) with query := some "%9F&&scope=a" }
    let post' : InboundRequest :=
      { ofForm (Utf8.encode "state=%4".toList) with query := some "1&scope=a" }
    post.Posts "state=%C3" ∧ post'.Posts "state=%4" ∧
    post.parameters = .ok ⟨[("state", "\uFFFD"), ("\uFFFD", ""), ("scope", "a")]⟩ ∧
    (ofQuery "state=%C3&%9F&&scope=a").parameters = post.parameters ∧
    post'.Malformed ∧ (ofQuery "state=%4&1&scope=a").Malformed := by
  intro post post'
  have hpost : post.Posts "state=%C3" := posts_ofForm _ _
  have hpost' : post'.Posts "state=%4" := posts_ofForm _ _
  have hparams : post.parameters =
      .ok ⟨[("state", "\uFFFD"), ("\uFFFD", ""), ("scope", "a")]⟩ := by
    decide +kernel
  have hbroken : ¬∃ inBody, (ofQuery "state=%4").parameters = .ok inBody := by
    have hfault : (ofQuery "state=%4").parameters = .error .malformedEscape := by decide +kernel
    rw [hfault]
    simp
  have hjoined := (((carried_alike hpost).1 _ rfl).2.1 _).mp hparams
  have hmalformed := ((carried_alike hpost').1 _ rfl).2.2 fun h => hbroken h.1
  exact ⟨hpost, hpost', hparams, hjoined.trans hparams.symm, hmalformed⟩

end InboundRequest

end OAuthEndpoint
