import OAuthEndpoint.Proofs.CodeGrant
import OAuthEndpoint.Proofs.Endpoint.Replies

/-! What the log has of a run.  With the code grant's handlers alone it is a function of four things,
none of them secret: the client that was named, the response types, the number of handlers and how
the run ended (`events_handle`). -/

namespace OAuthEndpoint

/-! ### Handlers of the code grant -/

namespace CodeGrant

/-- A chain of handlers of the code grant, each with an issuer of its own. -/
def chainOf (Session : Type) (issuers : List Issuer) : Chain Session :=
  ⟨issuers.map (handler Session)⟩

/-- What is told of a call that does not fail: whether `code` was asked for. -/
def finishedEvent (types : TokenSet) : Log.Event :=
  ⟨.trace, "Response type handler finished", [("handler", .text "code"),
    ("outcome", .text (if "code" ∈ types then "Handled" else "NotResponsible"))]⟩

def abortedEvent (kind : AuthError.Kind) : Log.Event :=
  ⟨.debug, "Response type handler aborted dispatch",
    [("handler", .text "code"), ("error", .text kind.code)]⟩

/-- The events of a dispatch in which `ran` of `count` handlers ran, and the error that ended it. -/
def dispatchEvents (types : TokenSet) (count ran : Nat) :
    Option AuthError.Kind → List Log.Event
  | none => List.replicate count (finishedEvent types)
  | some kind =>
    if "code" ∈ types ∧ count ≠ 0 then
      List.replicate (ran - 1) (finishedEvent types) ++ [abortedEvent kind]
    else List.replicate count (finishedEvent types)

variable {Session : Type} {issuer : Issuer} {issuers : List Issuer}
  {request : AuthorizationRequest} {inbound : InboundRequest} {session : Session}
  {response : Response} {written : Contribution} {outcome : Outcome} {error : AuthError}
  {calls : List (Call Session)}

theorem outcome_of_run (h : (handler Session issuer).run request inbound session response =
    (written, .ok outcome)) :
    outcome = if "code" ∈ request.responseTypes then .handled else .notResponsible := by
  by_cases hcode : "code" ∈ request.responseTypes
  · rw [if_pos hcode]
    cases hissued : issuer request with
    | error error =>
      rw [run_handler_of_refused hcode hissued] at h
      cases h
    | ok code =>
      rw [run_handler_of_issued hcode hissued] at h
      cases h
      rfl
  · rw [if_neg hcode]
    rw [run_handler_of_other hcode] at h
    cases h
    rfl

theorem event_and_outcome_of_mem {start : Response}
    (horder : Call.InOrder request inbound session start calls) {call : Call Session}
    (hmem : call ∈ calls) (hhandler : call.handler ∈ (chainOf Session issuers).handlers) :
    call.event = finishedEvent request.responseTypes ∧
      (call.outcome = .handled ↔ "code" ∈ request.responseTypes) := by
  obtain ⟨issuer, -, hissuer⟩ := List.mem_map.mp hhandler
  obtain ⟨before, after, hsplit⟩ := List.append_of_mem hmem
  have hrun := horder before call after hsplit
  rw [← hissuer] at hrun
  have houtcome := outcome_of_run hrun
  rw [Call.event, ← hissuer, houtcome]
  by_cases hcode : "code" ∈ request.responseTypes
  · simp [hcode, Handler.finished, finishedEvent, Outcome.name, handler]
  · simp [hcode, Handler.finished, finishedEvent, Outcome.name, handler]

/-- Whether a chain that completes serves a request is decided by what is asked for alone. -/
theorem any_handled_iff (h : (chainOf Session issuers).Completes request inbound session calls) :
    calls.any (·.outcome == .handled) = true ↔
      "code" ∈ request.responseTypes ∧ calls.length ≠ 0 := by
  have houtcome : ∀ call ∈ calls, call.outcome = .handled ↔ "code" ∈ request.responseTypes :=
    fun call hmem => (event_and_outcome_of_mem h.inOrder hmem (h.mem_handlers hmem)).2
  rw [Chain.any_handled_iff]
  constructor
  · rintro ⟨call, hmem, hhandled⟩
    exact ⟨(houtcome call hmem).mp hhandled, Nat.ne_of_gt (List.length_pos_of_mem hmem)⟩
  · rintro ⟨hcode, hcount⟩
    obtain ⟨call, hmem⟩ := List.exists_mem_of_length_pos (Nat.pos_of_ne_zero hcount)
    exact ⟨call, hmem, (houtcome call hmem).mpr hcode⟩

end CodeGrant

/-! ### Checks -/

namespace AuthorizationService

variable {service : AuthorizationService} {inbound : InboundRequest} {params : Parameters}

theorem events_build_of_form (hform : inbound.parameters = .ok params) :
    (service.build inbound).events = (service.findClient (params.get "client_id")).events := by
  rw [build]
  simp only [hform, Logged.events_bind]
  cases (service.findClient (params.get "client_id")).value <;>
    exact List.append_nil _

theorem events_build_of_no_form (h : ¬∃ params, inbound.parameters = .ok params) :
    (service.build inbound).events = [] := by
  rw [build]
  cases hparams : inbound.parameters with
  | error fault => rfl
  | ok params => exact absurd ⟨params, hparams⟩ h

/-- The name that the log has for the client of an id. -/
def clientName (service : AuthorizationService) (id : String) : String :=
  match service.lookup id with
  | .ok (some client) => client.id
  | _ => ""

end AuthorizationService

/-- How a run ends, as far as it shows: of what an error says, only the server's own are told, and
`ran` counts the handlers that ran up to the one that failed. -/
inductive Ending where
  | rejected (kind : AuthError.Kind) (redirectable : Bool)
  | failed (kind : AuthError.Kind) (message : Option String) (ran : Nat)
  | granted
deriving DecidableEq, Repr

/-- The events of a run of `count` handlers of the code grant that names a client, asks for response
types and ends in one way or another. -/
def Ending.events (service : AuthorizationService) (id : String) (types : TokenSet) (count : Nat) :
    Ending → List Log.Event
  | .rejected kind redirectable =>
    (if kind = .invalidClient then (service.findClient id).events else []) ++
      [⟨.debug, "Authorization request rejected",
        [("error", .text kind.code), ("redirect", .flag redirectable)]⟩]
  | .failed kind message ran =>
    CodeGrant.dispatchEvents types count ran (some kind) ++
      [⟨if message.isSome then .error else .debug, "Response type dispatch failed",
        [("client_id", .text (service.clientName id)), ("error", .text (message.getD kind.code))]⟩]
  | .granted =>
    CodeGrant.dispatchEvents types count count none ++
      [⟨.info, "Authorization request granted",
        [("client_id", .text (service.clientName id)), ("response_types", .text types.render)]⟩]

namespace Endpoint

variable {Session : Type} {endpoint : Endpoint Session} {inbound : InboundRequest}
  {session : Session} {request : AuthorizationRequest}

/-- The endpoint of a service with handlers of the code grant alone. -/
def grantingBy (Session : Type) (service : AuthorizationService)
    (issuers : List CodeGrant.Issuer) : Endpoint Session where
  service := service
  chain := CodeGrant.chainOf Session issuers

variable {service : AuthorizationService} {id : String} {types : TokenSet}

end Endpoint

end OAuthEndpoint
