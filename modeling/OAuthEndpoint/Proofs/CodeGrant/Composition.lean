import Mathlib.Control.Monad.Basic
import OAuthEndpoint.Proofs.CodeGrant

/-! Handlers of the code grant among others.  Where a code is asked for each of them adds its own,
and the first adds the state unless that was written before, so that between them they write it once
at most (`codes_and_state_composed`).  Where no code is asked for they might as well not be there. -/

namespace OAuthEndpoint

variable {Session : Type}

/-- A handler that never writes a query parameter. -/
def Handler.Spares (handler : Handler Session) (key : String) : Prop :=
  ∀ request inbound session response,
    (handler.run request inbound session response).1.queryValues key = []

namespace CodeGrant

/-- A handler in its place in a chain: one of the code grant, or any other. -/
inductive Member (Session : Type) where
  | grant (issuer : Issuer)
  | other (handler : Handler Session)

namespace Member

def handler : Member Session → Handler Session
  | .grant issuer => CodeGrant.handler Session issuer
  | .other handler => handler

def issuer? : Member Session → Option Issuer
  | .grant issuer => some issuer
  | .other _ => none

def other? : Member Session → Option (Handler Session)
  | .grant _ => none
  | .other handler => some handler

end Member

def mixed (members : List (Member Session)) : Chain Session := ⟨members.map Member.handler⟩

/-- The chain without its handlers of the code grant. -/
def others (members : List (Member Session)) : Chain Session := ⟨members.filterMap Member.other?⟩

/-- A call of a member. -/
structure Turn (Session : Type) where
  member : Member Session
  written : Contribution
  outcome : Outcome

namespace Turn

def call (turn : Turn Session) : Call Session := ⟨turn.member.handler, turn.written, turn.outcome⟩

/-- What a turn of the code grant adds to a query parameter.  That of any other member does not
count. -/
def granted (turn : Turn Session) (key : String) : List String :=
  match turn.member with
  | .grant _ => turn.written.queryValues key
  | .other _ => []

end Turn

def granted (turns : List (Turn Session)) (key : String) : List String :=
  turns.flatMap fun turn => turn.granted key

variable {issuer : Issuer} {request : AuthorizationRequest} {inbound : InboundRequest}
  {session : Session} {response start : Response} {written : Contribution} {outcome : Outcome}
  {members : List (Member Session)} {turns : List (Turn Session)}

@[simp] theorem granted_cons (turn : Turn Session) (turns : List (Turn Session)) (key : String) :
    granted (turn :: turns) key = turn.granted key ++ granted turns key := rfl

theorem granted_append (before after : List (Turn Session)) (key : String) :
    granted (before ++ after) key = granted before key ++ granted after key :=
  List.flatMap_append

@[simp] theorem granted_grant (key : String) :
    (⟨.grant issuer, written, outcome⟩ : Turn Session).granted key = written.queryValues key := rfl

@[simp] theorem granted_other (other : Handler Session) (key : String) :
    (⟨.other other, written, outcome⟩ : Turn Session).granted key = [] := rfl

theorem granted_eq_nil (h : ∀ turn ∈ turns, turn.member.issuer? = none) (key : String) :
    granted turns key = [] := by
  rw [granted, List.flatMap_eq_nil_iff]
  intro turn hturn
  obtain ⟨member, written, outcome⟩ := turn
  cases member with
  | grant issuer => cases h _ hturn
  | other other => rfl

theorem exists_first_grant (h : ∃ turn ∈ turns, turn.member.issuer? ≠ none) :
    ∃ before issuer written outcome after,
      turns = before ++ ⟨.grant issuer, written, outcome⟩ :: after ∧
      ∀ turn ∈ before, turn.member.issuer? = none := by
  induction turns with
  | nil => simp at h
  | cons turn turns ih =>
    obtain ⟨member, written, outcome⟩ := turn
    cases member with
    | grant issuer => exact ⟨[], issuer, written, outcome, turns, rfl, by simp⟩
    | other other =>
      have hrest : ∃ turn ∈ turns, turn.member.issuer? ≠ none := by
        obtain ⟨turn, hmem, hgrant⟩ := h
        rcases List.mem_cons.mp hmem with rfl | hmem
        · exact absurd rfl hgrant
        · exact ⟨turn, hmem, hgrant⟩
      obtain ⟨before, issuer, written', outcome', after, rfl, hbefore⟩ := ih hrest
      exact ⟨⟨.other other, written, outcome⟩ :: before, issuer, written', outcome', after, rfl,
        List.forall_mem_cons.mpr ⟨rfl, hbefore⟩⟩

theorem inOrder_grant_cons_iff :
    Call.InOrder request inbound session start
        ((⟨.grant issuer, written, outcome⟩ :: turns).map Turn.call) ↔
      (handler Session issuer).run request inbound session start = (written, .ok outcome) ∧
      Call.InOrder request inbound session (start.add written) (turns.map Turn.call) :=
  Call.inOrder_cons_iff

theorem inOrder_other_cons_iff {other : Handler Session} :
    Call.InOrder request inbound session start
        ((⟨.other other, written, outcome⟩ :: turns).map Turn.call) ↔
      other.run request inbound session start = (written, .ok outcome) ∧
      Call.InOrder request inbound session (start.add written) (turns.map Turn.call) :=
  Call.inOrder_cons_iff

theorem exists_turns {calls : List (Call Session)}
    (h : members.map Member.handler = calls.map Call.handler) :
    ∃ turns : List (Turn Session), turns.map Turn.member = members ∧
      turns.map Turn.call = calls := by
  induction members generalizing calls with
  | nil => exact ⟨[], rfl, (List.map_eq_nil_iff.mp h.symm).symm⟩
  | cons member members ih =>
    cases calls with
    | nil => cases h
    | cons call calls =>
      rw [List.map_cons, List.map_cons, List.cons.injEq] at h
      obtain ⟨turns, rfl, rfl⟩ := ih h.2
      refine ⟨⟨member, call.written, call.outcome⟩ :: turns, rfl, ?_⟩
      rw [List.map_cons, Turn.call, h.1]

/-! ### One handler -/

/-- A call that is asked for a code and does not fail writes the code it was issued, and the state
unless that is there. -/
theorem written_of_run (hcode : "code" ∈ request.responseTypes)
    (h : (handler Session issuer).run request inbound session response = (written, .ok outcome)) :
    ∃ code, issuer request = .ok code ∧ written.queryValues "code" = [code] ∧
      written.queryValues "state" =
        if response.queryValues "state" = [] then [request.state] else [] := by
  cases hissued : issuer request with
  | error error =>
    rw [run_handler_of_refused hcode hissued] at h
    cases h
  | ok code =>
    rw [run_handler_of_issued hcode hissued] at h
    cases h
    refine ⟨code, rfl, ?_⟩
    by_cases hstate : response.queryValues "state" = []
    · simp [Contribution.queryValues, hstate]
    · simp [Contribution.queryValues, hstate]

/-- Only a handler that was asked for a code and was issued one serves the request; any other leaves
the response alone, and none of them writes a header. -/
theorem run_handler_alone (issuer : Issuer) (request : AuthorizationRequest)
    (inbound : InboundRequest) (session : Session) (response : Response) :
    ((handler Session issuer).run request inbound session response).1.headers = [] ∧
    (((handler Session issuer).run request inbound session response).2 = .ok .handled ↔
      "code" ∈ request.responseTypes ∧ ∃ code, issuer request = .ok code) ∧
    (((handler Session issuer).run request inbound session response).2 ≠ .ok .handled →
      response.add ((handler Session issuer).run request inbound session response).1 =
        response) := by
  by_cases hcode : "code" ∈ request.responseTypes
  · cases hissued : issuer request with
    | error error => simp [run_handler_of_refused hcode hissued]
    | ok code => simp [run_handler_of_issued hcode hissued, hcode]
  · simp [run_handler_of_other hcode, hcode]

/-! ### Members in turn -/

section Asked

variable (hcode : "code" ∈ request.responseTypes)
include hcode

/-- The codes are what the issuers issue, one for each of them and in their order. -/
theorem map_issuer_eq_granted
    (h : Call.InOrder request inbound session start (turns.map Turn.call)) :
    (turns.filterMap fun turn => turn.member.issuer?).map (fun issuer => issuer request) =
      (granted turns "code").map .ok := by
  induction turns generalizing start with
  | nil => rfl
  | cons turn turns ih =>
    obtain ⟨member, written, outcome⟩ := turn
    cases member with
    | grant issuer =>
      obtain ⟨hrun, hrest⟩ := inOrder_grant_cons_iff.mp h
      obtain ⟨code, hissued, hwritten, -⟩ := written_of_run hcode hrun
      rw [granted_cons, granted_grant, hwritten, List.singleton_append, List.map_cons,
        ← ih hrest, ← hissued]
      rfl
    | other other => exact ih (inOrder_other_cons_iff.mp h).2

/-- Once a state is there, no handler of the code grant adds one. -/
theorem granted_state_of_written
    (h : Call.InOrder request inbound session start (turns.map Turn.call))
    (hstate : start.queryValues "state" ≠ []) : granted turns "state" = [] := by
  induction turns generalizing start with
  | nil => rfl
  | cons turn turns ih =>
    obtain ⟨member, written, outcome⟩ := turn
    have hkept : (start.add written).queryValues "state" ≠ [] := by
      rw [Response.queryValues_add]
      exact List.append_ne_nil_of_left_ne_nil hstate _
    cases member with
    | grant issuer =>
      obtain ⟨hrun, hrest⟩ := inOrder_grant_cons_iff.mp h
      obtain ⟨code, -, -, hwritten⟩ := written_of_run hcode hrun
      rw [granted_cons, granted_grant, hwritten, if_neg hstate]
      exact ih hrest hkept
    | other other => exact ih (inOrder_other_cons_iff.mp h).2 hkept

/-- The first handler of the code grant decides: it adds the state if that was not there. -/
theorem granted_state_of_first {before after : List (Turn Session)}
    (h : Call.InOrder request inbound session start
      ((before ++ ⟨.grant issuer, written, outcome⟩ :: after).map Turn.call))
    (hfirst : ∀ turn ∈ before, turn.member.issuer? = none) :
    granted (before ++ ⟨.grant issuer, written, outcome⟩ :: after) "state" =
      if (Call.left (before.map Turn.call) start).queryValues "state" = [] then [request.state]
      else [] := by
  have hbefore := granted_eq_nil hfirst "state"
  rw [List.map_append, Call.inOrder_append_iff] at h
  obtain ⟨hrun, hrest⟩ := inOrder_grant_cons_iff.mp h.2
  obtain ⟨code, -, -, hwritten⟩ := written_of_run hcode hrun
  -- After the first one a state is there, its own or an earlier one.
  have hafter : granted after "state" = [] := by
    refine granted_state_of_written hcode hrest ?_
    rw [Response.queryValues_add, hwritten]
    by_cases hstate : (Call.left (before.map Turn.call) start).queryValues "state" = []
    · simp [hstate]
    · exact List.append_ne_nil_of_left_ne_nil hstate _
  rw [granted_append, granted_cons, granted_grant, hbefore, hafter, List.nil_append,
    List.append_nil, hwritten]

theorem length_granted_state_le
    (h : Call.InOrder request inbound session start (turns.map Turn.call)) :
    (granted turns "state").length ≤ 1 := by
  by_cases hgrant : ∃ turn ∈ turns, turn.member.issuer? ≠ none
  · obtain ⟨before, issuer, written, outcome, after, rfl, hfirst⟩ := exists_first_grant hgrant
    rw [granted_state_of_first hcode h hfirst]
    split
    · exact Nat.le_refl 1
    · exact Nat.zero_le 1
  · have hnone : ∀ turn ∈ turns, turn.member.issuer? = none := by
      intro turn hturn
      exact Decidable.not_not.mp fun hsome => hgrant ⟨turn, hturn, hsome⟩
    rw [granted_eq_nil hnone]
    exact Nat.zero_le 1

end Asked

/-- Where the other members spare a parameter, all its values come from the code grant. -/
theorem flatMap_queryValues_eq_granted {key : String}
    (h : Call.InOrder request inbound session start (turns.map Turn.call))
    (hspares : ∀ other, .other other ∈ turns.map Turn.member → other.Spares key) :
    turns.flatMap (fun turn => turn.written.queryValues key) = granted turns key := by
  induction turns generalizing start with
  | nil => rfl
  | cons turn turns ih =>
    have hrest := fun other hmem => hspares other (List.mem_cons_of_mem turn.member hmem)
    obtain ⟨member, written, outcome⟩ := turn
    rw [List.flatMap_cons, granted_cons]
    cases member with
    | grant issuer => rw [granted_grant, ih (inOrder_grant_cons_iff.mp h).2 hrest]
    | other other =>
      obtain ⟨hrun, horder⟩ := inOrder_other_cons_iff.mp h
      have hnone := hspares other List.mem_cons_self request inbound session start
      rw [hrun] at hnone
      rw [granted_other, hnone, ih horder hrest]

/-- A chain that is asked for no code runs as if its handlers of the code grant were not there. -/
theorem value_runFrom_of_other (hcode : "code" ∉ request.responseTypes)
    (members : List (Member Session)) (response : Response) (served : Bool) :
    (Chain.runFrom request inbound session (members.map Member.handler) response served).value =
      (Chain.runFrom request inbound session (members.filterMap Member.other?) response
        served).value := by
  induction members generalizing response served with
  | nil => rfl
  | cons member members ih =>
    cases member with
    | grant issuer =>
      have hdeclines : (Member.grant issuer : Member Session).handler.run request inbound session
          response = ({}, .ok .notResponsible) := run_handler_of_other hcode
      have hserved : (served || Outcome.notResponsible == .handled) = served := Bool.or_false _
      rw [List.map_cons, Chain.runFrom_cons_of_ok hdeclines, Logged.value_after,
        Response.add_empty, hserved, ih]
      rfl
    | other other =>
      have hkept : (Member.other other :: members).filterMap Member.other? =
          other :: members.filterMap Member.other? := rfl
      rw [hkept, List.map_cons, Member.handler]
      cases hrun : other.run request inbound session response with
      | mk written ended =>
        cases ended with
        | error error => rw [Chain.runFrom_cons_of_error hrun, Chain.runFrom_cons_of_error hrun]
        | ok outcome =>
          rw [Chain.runFrom_cons_of_ok hrun, Chain.runFrom_cons_of_ok hrun, Logged.value_after,
            Logged.value_after, ih]

/-! ### The whole chain -/

/-- How a chain came to its response: its members in turn, each on what those before it left, and
what the handlers of the code grant wrote among them. -/
structure Composed (members : List (Member Session)) (request : AuthorizationRequest)
    (inbound : InboundRequest) (session : Session) (turns : List (Turn Session))
    (response : Response) : Prop where
  covers : turns.map Turn.member = members
  inOrder : Call.InOrder request inbound session .empty (turns.map Turn.call)
  leaves : response = Call.left (turns.map Turn.call) .empty
  /-- Each issuer has issued its code, and the codes are these and in this order. -/
  codes : (members.filterMap Member.issuer?).map (fun issuer => issuer request) =
    (granted turns "code").map .ok
  state : ∀ before issuer written outcome after,
    turns = before ++ ⟨.grant issuer, written, outcome⟩ :: after →
    (∀ turn ∈ before, turn.member.issuer? = none) →
    granted turns "state" =
      if before.flatMap (fun turn => turn.written.queryValues "state") = [] then [request.state]
      else []
  once : (granted turns "state").length ≤ 1

theorem queryValues_left_turns (turns : List (Turn Session)) (key : String) :
    (Call.left (turns.map Turn.call) .empty).queryValues key =
      turns.flatMap fun turn => turn.written.queryValues key := by
  rw [Call.queryValues_left, List.flatMap_map]
  exact List.nil_append _

theorem exists_composed (hcode : "code" ∈ request.responseTypes)
    (h : ((mixed members).dispatch request inbound session).value = .ok response) :
    ∃ turns, Composed members request inbound session turns response := by
  obtain ⟨calls, hcalls, rfl⟩ := Chain.completes_of_value_ok h
  obtain ⟨turns, rfl, rfl⟩ := exists_turns hcalls.handlers
  have horder := hcalls.inOrder
  refine ⟨turns, rfl, horder, rfl, ?_, ?_, length_granted_state_le hcode horder⟩
  · rw [List.filterMap_map]
    exact map_issuer_eq_granted hcode horder
  · rintro before issuer written outcome after rfl hfirst
    rw [granted_state_of_first hcode horder hfirst, queryValues_left_turns]

namespace Composed

theorem queryValues_state (h : Composed members request inbound session turns response)
    (hgrant : ∃ issuer, .grant issuer ∈ members)
    (hspares : ∀ other, .other other ∈ members → other.Spares "state") :
    response.queryValues "state" = [request.state] := by
  obtain ⟨issuer, hissuer⟩ := hgrant
  rw [← h.covers] at hissuer hspares
  obtain ⟨turn, hturn, hmember⟩ := List.mem_map.mp hissuer
  have hsome : turn.member.issuer? ≠ none := by
    rw [hmember]
    exact Option.some_ne_none issuer
  obtain ⟨before, issuer, written, outcome, after, hsplit, hfirst⟩ :=
    exists_first_grant ⟨turn, hturn, hsome⟩
  have hall := flatMap_queryValues_eq_granted h.inOrder hspares
  have hbefore : before.flatMap (fun turn => turn.written.queryValues "state") = [] := by
    have horder := h.inOrder
    rw [hsplit, List.map_append, Call.inOrder_append_iff] at horder
    rw [flatMap_queryValues_eq_granted horder.1, granted_eq_nil hfirst]
    intro other hother
    refine hspares other ?_
    rw [hsplit, List.map_append]
    exact List.mem_append_left _ hother
  rw [h.leaves, queryValues_left_turns, hall,
    h.state before issuer written outcome after hsplit hfirst, if_pos hbefore]

end Composed

/-- Handlers of the code grant, in whatever places of a chain, add a code each and the state between
them once, unless another handler wrote one before them.  They change nothing where they are not
asked or fail. -/
theorem codes_and_state_composed (members : List (Member Session))
    (request : AuthorizationRequest) (inbound : InboundRequest) (session : Session) :
    (∀ response, ((mixed members).dispatch request inbound session).value = .ok response →
      "code" ∈ request.responseTypes →
      (∃ turns, Composed members request inbound session turns response) ∧
      ((∃ issuer, .grant issuer ∈ members) →
        (∀ other, .other other ∈ members → other.Spares "state") →
        response.queryValues "state" = [request.state])) ∧
    ("code" ∉ request.responseTypes →
      ((mixed members).dispatch request inbound session).value =
        ((others members).dispatch request inbound session).value) ∧
    ∀ issuer response,
      ((handler Session issuer).run request inbound session response).1.headers = [] ∧
      (((handler Session issuer).run request inbound session response).2 = .ok .handled ↔
        "code" ∈ request.responseTypes ∧ ∃ code, issuer request = .ok code) ∧
      (((handler Session issuer).run request inbound session response).2 ≠ .ok .handled →
        response.add ((handler Session issuer).run request inbound session response).1 =
          response) := by
  refine ⟨?_, ?_, ?_⟩
  · intro response hresponse hcode
    obtain ⟨turns, hcomposed⟩ := exists_composed hcode hresponse
    exact ⟨⟨turns, hcomposed⟩, hcomposed.queryValues_state⟩
  · intro hcode
    exact value_runFrom_of_other hcode members .empty false
  · intro issuer response
    exact run_handler_alone issuer request inbound session response

/-- A handler that adds how many pairs were written before it. -/
def counting : Handler Unit where
  name := "count"
  run := fun _ _ _ response =>
    (⟨[("count", toString response.query.length)], [("Cache-Control", "no-store")]⟩,
      .ok .notResponsible)

def asking : AuthorizationRequest where
  client := ⟨"c1", "", ["https://app.example/cb"]⟩
  redirectUri := {
    scheme := "https", authority := some ⟨"", "", some (.domain "app.example"), none⟩
    path := .rooted ["cb"], query := none, fragment := none }
  responseTypes := .ofList ["id_token", "code"]
  state := "abcdefgh"
  scopes := .empty
  params := ⟨[]⟩

theorem codes_and_state_composed_counting :
    let members : List (Member Unit) := [.other counting, .grant fun _ => .ok "first",
      .other counting, .grant fun request => .ok ("second " ++ request.state)]
    ∃ response, ((mixed members).dispatch asking (.ofQuery "") ()).value = .ok response ∧
      response.queryValues "code" = ["first", "second abcdefgh"] ∧
      response.queryValues "count" = ["0", "3"] ∧
      response.queryValues "state" = ["abcdefgh"] := by
  intro members
  have hresponse : ((mixed members).dispatch asking (.ofQuery "") ()).value = .ok
      ⟨[("count", "0"), ("code", "first"), ("state", "abcdefgh"), ("count", "3"),
        ("code", "second abcdefgh")],
        .ofList [("cache-control", "no-store"), ("cache-control", "no-store")]⟩ := by
    decide +kernel
  have hspares : ∀ other, .other other ∈ members → other.Spares "state" := by
    intro other hother
    have hcounting : other = counting := by simpa [members] using hother
    rw [hcounting]
    exact fun _ _ _ _ => rfl
  have hstate := ((codes_and_state_composed members asking (.ofQuery "") ()).1 _ hresponse
    (by decide)).2 ⟨_, List.mem_cons_of_mem _ List.mem_cons_self⟩ hspares
  exact ⟨_, hresponse, by decide, by decide, hstate⟩

end CodeGrant

end OAuthEndpoint
