import OAuthEndpoint.CodeGrant
import OAuthEndpoint.Proofs.Dispatch
import OAuthEndpoint.Proofs.TokenSet

/-! What the handler of the code grant does, and what a chain of it alone makes of a request: the
code and the state, the issuer's error, or no response at all. -/

namespace OAuthEndpoint.CodeGrant

variable {Session : Type} {issuer : Issuer} {request : AuthorizationRequest}
  {inbound : InboundRequest} {session : Session} {response : Response} {code : String}
  {error : AuthError}

theorem run_handler_of_issued (hcode : "code" ∈ request.responseTypes)
    (hissued : issuer request = .ok code) :
    (handler Session issuer).run request inbound session response =
      (⟨("code", code) ::
        if (response.queryValues "state").isEmpty then [("state", request.state)] else [], []⟩,
        .ok .handled) := by
  simp only [handler, TokenSet.contains_iff_mem.mpr hcode, if_true, hissued]

theorem run_handler_of_refused (hcode : "code" ∈ request.responseTypes)
    (hrefused : issuer request = .error error) :
    (handler Session issuer).run request inbound session response = ({}, .error error) := by
  simp only [handler, TokenSet.contains_iff_mem.mpr hcode, if_true, hrefused]

theorem run_handler_of_other (hcode : "code" ∉ request.responseTypes) :
    (handler Session issuer).run request inbound session response = ({}, .ok .notResponsible) := by
  have hnot : ¬request.responseTypes.contains "code" = true := fun h =>
    hcode (TokenSet.contains_iff_mem.mp h)
  simp only [handler, hnot, if_false, Bool.false_eq_true]

/-! ### The handler alone -/

/-- The chain of the code grant alone. -/
def chain (Session : Type) (issuer : Issuer) : Chain Session :=
  Chain.empty.withHandler (handler Session issuer)

theorem completes_of_run {written : Contribution} {outcome : Outcome}
    (h : (handler Session issuer).run request inbound session .empty = (written, .ok outcome)) :
    (chain Session issuer).Completes request inbound session
      [⟨handler Session issuer, written, outcome⟩] where
  handlers := rfl
  inOrder := Call.inOrder_cons_iff.mpr ⟨h, Call.inOrder_nil _⟩

theorem value_dispatch_of_issued (hcode : "code" ∈ request.responseTypes)
    (hissued : issuer request = .ok code) :
    ((chain Session issuer).dispatch request inbound session).value =
      .ok ⟨[("code", code), ("state", request.state)], .empty⟩ := by
  rw [Chain.dispatch_of_completes (completes_of_run (run_handler_of_issued hcode hissued))]
  rfl

theorem value_dispatch_of_refused (hcode : "code" ∈ request.responseTypes)
    (hrefused : issuer request = .error error) :
    ((chain Session issuer).dispatch request inbound session).value = .error error := by
  have habort : (chain Session issuer).Aborts request inbound session []
      (handler Session issuer) error :=
    ⟨⟨[], rfl⟩, Call.inOrder_nil _, {}, run_handler_of_refused hcode hrefused⟩
  rw [Chain.dispatch_of_aborts habort]

theorem value_dispatch_of_other (hcode : "code" ∉ request.responseTypes) :
    ((chain Session issuer).dispatch request inbound session).value = .error .noHandler := by
  rw [Chain.dispatch_of_completes (completes_of_run (run_handler_of_other hcode))]
  rfl

end OAuthEndpoint.CodeGrant
