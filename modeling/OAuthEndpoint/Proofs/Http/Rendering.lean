import OAuthEndpoint.Proofs.Dispatch
import OAuthEndpoint.Proofs.Endpoint.Failures
import OAuthEndpoint.Proofs.Http.Headers
import OAuthEndpoint.Proofs.Http.Sendable

/-! What goes out for a reply.  The route to the endpoint adds nothing to what it answers but the
length of the body, and takes nothing of it but the locations that handlers wrote; every other route
keeps the endpoint out of the answer (`serves_replies`). -/

namespace OAuthEndpoint

/-- The body of an error as it goes out; no text of an error has a character to escape. -/
theorem WireError.object_pairs_ofKind (kind : AuthError.Kind) :
    Json.object (ofKind kind).pairs =
      "\x7b\"error\":\"" ++ kind.code ++ "\",\"error_description\":\"" ++ kind.description ++
        "\"\x7d" := by
  cases kind <;> decide +kernel

namespace Http

/-- The values of a name, or the length of the body where the name asks for it and no value is
there. -/
def valuesOrLength (size : Nat) (name : String) (values : List String) : List String :=
  if name = "content-length" ∧ values = [] then [toString size] else values

/-- A response that says what a reply says, each in its place. -/
inductive Response.Renders (response : Response) : Reply → Prop
  | redirect {location : Url} {headers : Headers}
      (status : response.status = 302)
      (body : response.body = "")
      (sentTo : response.headers.getAll "location" = [location.render])
      (others : ∀ name, name ≠ "location" →
        response.headers.getAll name = valuesOrLength 0 name (headers.getAll name)) :
      response.Renders (.redirect location headers)
  | json {error : WireError}
      (status : response.status = error.status)
      (body : response.body = "\x7b\"error\":\"" ++ error.code ++ "\",\"error_description\":\"" ++
        error.description ++ "\"\x7d")
      (contentType : response.headers.getAll "content-type" = ["application/json"])
      (nowhere : response.headers.getAll "location" = []) :
      response.Renders (.json error)

theorem Response.getAll_withLength (response : Response) (name : String) :
    response.withLength.headers.getAll name =
      valuesOrLength response.size name (response.headers.getAll name) :=
  response.headers.getAll_setDefault "content-length" (toString response.size) name

theorem Request.deliver_of_ne {request : Request} (h : request.method ≠ "HEAD")
    (response : Response) : request.deliver response = response.withLength := by
  rw [deliver, if_neg h]

variable {Session : Type} {endpoint : Endpoint Session} {inbound : InboundRequest}
  {session : Session}

theorem renders_ofReply_handle (endpoint : Endpoint Session) (inbound : InboundRequest)
    (session : Session) :
    (Response.ofReply (endpoint.handle inbound session).value).value.withLength.Renders
      (endpoint.handle inbound session).value := by
  cases hreply : (endpoint.handle inbound session).value with
  | redirect location headers =>
    rw [Response.ofReply_of_redirect hreply]
    refine .redirect rfl rfl ?_ ?_
    · rw [Response.getAll_withLength]
      exact headers.getAll_set "location" location.render
    · intro name hname
      have hother : Text.lower "location" ≠ name := hname.symm
      rw [Response.getAll_withLength]
      exact congrArg _ (Headers.getAll_set_of_ne hother headers location.render)
  | json error =>
    obtain ⟨kind, -, rfl⟩ := Endpoint.handle_eq_json_iff.mp hreply
    refine .json rfl (WireError.object_pairs_ofKind kind) ?_ ?_
    all_goals
      rw [Response.getAll_withLength]
      rfl

/-! ### What handlers write -/

/-- The headers of a grant are those that the handlers wrote, in their order. -/
theorem headers_of_completes {accepted : AuthorizationRequest} {calls : List (Call Session)}
    (hbuild : (endpoint.service.build inbound).value = .ok accepted)
    (hcalls : endpoint.chain.Completes accepted inbound session calls)
    (hserved : ∃ call ∈ calls, call.outcome = .handled) :
    ∃ location headers, (endpoint.handle inbound session).value = .redirect location headers ∧
      ∀ name, headers.getAll name = calls.flatMap (·.written.headerValues name) := by
  have hdispatch : (endpoint.chain.dispatch accepted inbound session).value =
      .ok (Call.left calls .empty) := by
    rw [Chain.dispatch_of_completes hcalls, if_pos (Chain.any_handled_iff.mpr hserved)]
  refine ⟨_, _, Endpoint.value_handle_of_response hbuild hdispatch, fun name => ?_⟩
  exact Call.getAll_left calls .empty name

/-! ### Routes -/

variable [Inhabited Session]

theorem route_of_endpoint {request : Request} (hpath : request.target.path = authorizePath)
    (hmethod : request.method ∈ ["GET", "HEAD", "POST"])
    (hbody : request.body.length ≤ bodyLimit) : Route.of request = .endpoint := by
  rw [Route.of, if_pos hpath, if_pos hmethod, if_pos hbody]

theorem route_ne_endpoint {request : Request} (h : request.method ∉ ["GET", "HEAD", "POST"]) :
    Route.of request ≠ .endpoint := by
  rw [Route.of, if_neg h]
  split
  · decide
  · split <;> decide

/-- Off the route to the endpoint no handler runs, and it makes no difference which one there is. -/
theorem serve_of_ne_endpoint {request : Request} (h : Route.of request ≠ .endpoint)
    (endpoint : Endpoint Session) (extension : Option Session) :
    invoked endpoint request extension = [] ∧
    ∀ {Session' : Type} [Inhabited Session'] (endpoint' : Endpoint Session')
      (extension' : Option Session'),
      serve endpoint request extension = serve endpoint' request extension' := by
  constructor
  · rw [invoked]
    split
    · next hroute => exact absurd hroute h
    · rfl
  · intro Session' _ endpoint' extension'
    rw [serve, serve]
    cases hroute : Route.of request with
    | endpoint => exact absurd hroute h
    | _ => rfl

/-- A body is a form whatever the method is, of those that have one. -/
theorem parameters_of_method {inbound : InboundRequest} (h : inbound.method ∈ ["PUT", "PATCH"]) :
    inbound.parameters = { inbound with method := "POST" }.parameters := by
  have hform : inbound.hasFormBody = { inbound with method := "POST" }.hasFormBody := by
    simp only [List.mem_cons, List.not_mem_nil, or_false] at h
    rcases h with hmethod | hmethod <;> simp [InboundRequest.hasFormBody, hmethod]
  simp only [InboundRequest.parameters, InboundRequest.bodyPairs, hform,
    InboundRequest.queryPairs]

/-- GET and POST requests are answered with the endpoint's reply and nothing else, and requests of
other methods but HEAD reach no handler, whatever their body. -/
theorem serves_replies (endpoint : Endpoint Session) (request : Request)
    (extension : Option Session) :
    (request.target.path = authorizePath → request.method ∈ ["GET", "POST"] →
      request.body.length ≤ bodyLimit →
      let inbound : InboundRequest := {
        method := request.method, query := request.target.query, headers := request.headers
        body := request.body }
      let session := extension.getD default
      (serve endpoint request extension).events = (endpoint.handle inbound session).events ∧
      (serve endpoint request extension).value.Renders (endpoint.handle inbound session).value ∧
      ∀ accepted calls, (endpoint.service.build inbound).value = .ok accepted →
        endpoint.chain.Completes accepted inbound session calls →
        (∃ call ∈ calls, call.outcome = .handled) →
        ∃ location headers, (endpoint.handle inbound session).value = .redirect location headers ∧
          ∀ name, headers.getAll name = calls.flatMap (·.written.headerValues name)) ∧
    serve endpoint request none = serve endpoint request (some default) ∧
    (request.method ∉ ["GET", "HEAD", "POST"] →
      invoked endpoint request extension = [] ∧
      ∀ {Session' : Type} [Inhabited Session'] (endpoint' : Endpoint Session')
        (extension' : Option Session'),
        serve endpoint request extension = serve endpoint' request extension') ∧
    ∀ inbound : InboundRequest, inbound.method ∈ ["PUT", "PATCH"] →
      inbound.parameters = { inbound with method := "POST" }.parameters := by
  refine ⟨?_, rfl, fun h => serve_of_ne_endpoint (route_ne_endpoint h) endpoint extension,
    fun _ => parameters_of_method⟩
  intro hpath hmethod hbody inbound session
  have hserved : request.method ∈ ["GET", "HEAD", "POST"] ∧ request.method ≠ "HEAD" := by
    simp only [List.mem_cons, List.not_mem_nil, or_false] at hmethod ⊢
    rcases hmethod with hget | hpost
    · simp [hget]
    · simp [hpost]
  have hroute := route_of_endpoint hpath hserved.1 hbody
  refine ⟨events_serve_of_endpoint hroute, ?_, ?_⟩
  · rw [value_serve_of_endpoint hroute, Request.deliver_of_ne hserved.2]
    exact renders_ofReply_handle endpoint inbound session
  · intro accepted calls
    exact headers_of_completes

/-- Two handlers that write to one header, and a location besides. -/
def clashing : Endpoint Unit where
  service := Endpoint.straying.service
  chain := Endpoint.straying.chain.register {
    name := "cookies"
    run := fun _ _ _ _ =>
      (⟨[], [("Set-Cookie", "a=1"), ("Location", "/"), ("set-cookie", "b=2")]⟩,
        .ok .notResponsible) }

theorem serves_replies_clashing :
    let request : Request :=
      ⟨"GET", .parse ("/oauth/authorize?client_id=c1&state=abcdefgh&" ++
        "redirect_uri=https%3A%2F%2Fapp.example%2Fother"), .empty, []⟩
    let response := (serve clashing request none).value
    response.status = 302 ∧
    response.headers.getAll "location" = ["https://app.example/other?code=a+b"] ∧
    response.headers.getAll "set-cookie" = ["a=1", "b=2"] ∧
    response.headers.getAll "content-length" = ["0"] := by
  intro request response
  have hreply : ∃ location headers,
      (clashing.handle request.inbound ()).value = .redirect location headers ∧
      location.render = "https://app.example/other?code=a+b" ∧
      headers.getAll "location" = ["https://evil.example/cb", "/"] ∧
      headers.getAll "set-cookie" = ["a=1", "b=2"] ∧ headers.getAll "content-length" = [] :=
    ⟨⟨"https", some ⟨"", "", some (.domain "app.example"), none⟩, .rooted ["other"],
        some "code=a+b", none⟩,
      .ofList [("location", "https://evil.example/cb"), ("set-cookie", "a=1"), ("location", "/"),
        ("set-cookie", "b=2")], by decide +kernel⟩
  obtain ⟨location, headers, hvalue, hlocation, -, hcookies, hlength⟩ := hreply
  obtain ⟨-, hrenders, -⟩ :=
    (serves_replies clashing request none).1 (by decide) (by decide) (by decide)
  have hrenders : response.Renders (clashing.handle request.inbound ()).value := hrenders
  rw [hvalue] at hrenders
  cases hrenders with
  | redirect status body sentTo others =>
    refine ⟨status, hlocation ▸ sentTo, ?_, ?_⟩
    · rw [others "set-cookie" (by decide), hcookies]
      rfl
    · rw [others "content-length" (by decide), hlength]
      rfl

end Http

end OAuthEndpoint
