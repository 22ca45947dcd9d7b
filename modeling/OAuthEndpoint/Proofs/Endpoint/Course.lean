import OAuthEndpoint.Proofs.Endpoint.Events

/-! The log of a run against what came of it.  `Course` says which events go with which reply, and a
run takes exactly one course (`course_iff`), so that no grant is made in silence and none is told of
that was not made (`log_faithful`). -/

namespace OAuthEndpoint

namespace AuthorizationService

variable {service : AuthorizationService} {inbound : InboundRequest} {params : Parameters}

/-- The store fails on the client that a request names. -/
def LookupFails (service : AuthorizationService) (inbound : InboundRequest) (id : String)
    (error : AuthError) : Prop :=
  (∃ params, inbound.parameters = .ok params ∧ params.get "client_id" = id) ∧
    service.lookup id = .error error

/-- What is told of the look-up of a request's client. -/
inductive Warns (service : AuthorizationService) (inbound : InboundRequest) :
    List Log.Event → Prop
  | failed {id : String} {error : AuthError} (h : service.LookupFails inbound id error) :
      Warns service inbound
        [⟨.warn, "Client lookup failed",
          [("client_id", .text id), ("error", .text error.message)]⟩]
  | silent (h : ¬∃ id error, service.LookupFails inbound id error) : Warns service inbound []

theorem Warns.told {events : List Log.Event} (h : service.Warns inbound events) :
    events.filterMap Log.Event.handler? = [] := by
  cases h <;> rfl

theorem lookupFails_iff (hform : inbound.parameters = .ok params) {id : String}
    {error : AuthError} : service.LookupFails inbound id error ↔
      params.get "client_id" = id ∧ service.lookup id = .error error := by
  simp [LookupFails, hform]

theorem not_lookupFails_of_error {fault : Form.Fault} (h : inbound.parameters = .error fault) :
    ¬∃ id error, service.LookupFails inbound id error := by
  rintro ⟨id, error, ⟨params, hform, -⟩, -⟩
  rw [h] at hform
  cases hform

theorem not_lookupFails_of_ok {found : Option Client} (hform : inbound.parameters = .ok params)
    (h : service.lookup (params.get "client_id") = .ok found) :
    ¬∃ id error, service.LookupFails inbound id error := by
  rintro ⟨id, error, hfails⟩
  obtain ⟨rfl, herror⟩ := (lookupFails_iff hform).mp hfails
  rw [h] at herror
  cases herror

/-- The checks of a request tell of a failing store and of nothing else. -/
theorem warns_build (service : AuthorizationService) (inbound : InboundRequest) :
    service.Warns inbound (service.build inbound).events := by
  cases hform : inbound.parameters with
  | error fault =>
    rw [events_build_of_no_form (by simp [hform])]
    exact .silent (not_lookupFails_of_error hform)
  | ok params =>
    rw [events_build_of_form hform, findClient]
    cases hlookup : service.lookup (params.get "client_id") with
    | error error => exact .failed ((lookupFails_iff hform).mpr ⟨rfl, hlookup⟩)
    | ok found =>
      have hsilent := not_lookupFails_of_ok hform hlookup
      cases found with
      | none => exact .silent hsilent
      | some client => exact .silent hsilent

theorem Warns.unique {events events' : List Log.Event} (h : service.Warns inbound events)
    (h' : service.Warns inbound events') : events = events' := by
  cases h with
  | failed hfails =>
    cases h' with
    | failed hfails' =>
      obtain ⟨⟨params, hform, rfl⟩, herror⟩ := hfails
      obtain ⟨rfl, herror'⟩ := (lookupFails_iff hform).mp hfails'
      rw [herror', Except.error.injEq] at herror
      rw [herror]
    | silent hsilent => exact absurd ⟨_, _, hfails⟩ hsilent
  | silent hsilent =>
    cases h' with
    | failed hfails => exact absurd ⟨_, _, hfails⟩ hsilent
    | silent _ => rfl

/-- A request that passes its checks had its client found. -/
theorem not_lookupFails_of_build_ok {accepted : AuthorizationRequest}
    (h : (service.build inbound).value = .ok accepted) :
    ¬∃ id error, service.LookupFails inbound id error := by
  obtain ⟨params, client, url, hverified, -⟩ := build_eq_ok_iff.mp h
  exact not_lookupFails_of_ok hverified.form hverified.known

theorem events_build_of_ok {accepted : AuthorizationRequest}
    (h : (service.build inbound).value = .ok accepted) : (service.build inbound).events = [] :=
  (service.warns_build inbound).unique (.silent (not_lookupFails_of_build_ok h))

theorem Warns.exists_mem_iff {events : List Log.Event} (h : service.Warns inbound events)
    (level : Log.Level) : (∃ event ∈ events, event.level = level) ↔
      level = .warn ∧ ∃ id error, service.LookupFails inbound id error := by
  cases h with
  | failed hfails =>
    have hfails : ∃ id error, service.LookupFails inbound id error := ⟨_, _, hfails⟩
    simp [hfails, eq_comm]
  | silent hsilent => simp [hsilent]

end AuthorizationService

namespace Chain

variable {Session : Type} {chain : Chain Session} {request : AuthorizationRequest}
  {inbound : InboundRequest} {session : Session} {calls : List (Call Session)}

theorem dispatch_of_served (h : chain.Completes request inbound session calls)
    (hserved : ∃ call ∈ calls, call.outcome = .handled) :
    chain.dispatch request inbound session =
      ⟨calls.map Call.event, .ok (Call.left calls .empty)⟩ := by
  rw [dispatch_of_completes h, if_pos (any_handled_iff.mpr hserved)]

theorem dispatch_of_unserved (h : chain.Completes request inbound session calls)
    (hnone : ∀ call ∈ calls, call.outcome ≠ .handled) :
    chain.dispatch request inbound session = ⟨calls.map Call.event, .error .noHandler⟩ := by
  have hserved : ¬∃ call ∈ calls, call.outcome = .handled := fun ⟨call, hmem, hhandled⟩ =>
    hnone call hmem hhandled
  rw [dispatch_of_completes h, if_neg (mt any_handled_iff.mp hserved)]

end Chain

namespace Endpoint

variable {Session : Type} {endpoint : Endpoint Session} {inbound : InboundRequest}
  {session : Session}

/-- What is told of a handler that ended without an error. -/
def finishedEvent (call : Call Session) : Log.Event :=
  ⟨.trace, "Response type handler finished",
    [("handler", .text call.handler.name), ("outcome", .text call.outcome.name)]⟩

/-- What is told last of a dispatch that failed: all of the server's own errors, and of the others
their code. -/
def dispatchFailedEvent (request : AuthorizationRequest) (error : AuthError) : Log.Event :=
  if error.kind = .storage then
    ⟨.error, "Response type dispatch failed",
      [("client_id", .text request.client.id), ("error", .text error.message)]⟩
  else
    ⟨.debug, "Response type dispatch failed",
      [("client_id", .text request.client.id), ("error", .text error.kind.code)]⟩

/-- The events of a run and its reply. -/
inductive Course (endpoint : Endpoint Session) (inbound : InboundRequest) (session : Session) :
    List Log.Event → Reply → Prop
  | rejected {warnings : List Log.Event} {rejection : Rejection}
      (hwarns : endpoint.service.Warns inbound warnings)
      (hbuild : (endpoint.service.build inbound).value = .error rejection) :
      Course endpoint inbound session
        (warnings ++ [⟨.debug, "Authorization request rejected",
          [("error", .text rejection.error.kind.code),
            ("redirect", .flag rejection.redirectUri.isSome)]⟩])
        (.failure rejection.redirectUri rejection.error)
  | granted {request : AuthorizationRequest} {calls : List (Call Session)}
      (hbuild : (endpoint.service.build inbound).value = .ok request)
      (hcalls : endpoint.chain.Completes request inbound session calls)
      (hserved : ∃ call ∈ calls, call.outcome = .handled) :
      Course endpoint inbound session
        (calls.map finishedEvent ++ [⟨.info, "Authorization request granted",
          [("client_id", .text request.client.id),
            ("response_types", .text request.responseTypes.render)]⟩])
        (.success request (Call.left calls .empty))
  | unserved {request : AuthorizationRequest} {calls : List (Call Session)}
      (hbuild : (endpoint.service.build inbound).value = .ok request)
      (hcalls : endpoint.chain.Completes request inbound session calls)
      (hnone : ∀ call ∈ calls, call.outcome ≠ .handled) :
      Course endpoint inbound session
        (calls.map finishedEvent ++ [dispatchFailedEvent request .noHandler])
        (.failure (some request.redirectUri) .noHandler)
  | aborted {request : AuthorizationRequest} {calls : List (Call Session)}
      {failing : Handler Session} {error : AuthError}
      (hbuild : (endpoint.service.build inbound).value = .ok request)
      (hcalls : endpoint.chain.Aborts request inbound session calls failing error) :
      Course endpoint inbound session
        (calls.map finishedEvent ++
          [⟨.debug, "Response type handler aborted dispatch",
            [("handler", .text failing.name), ("error", .text error.kind.code)]⟩,
            dispatchFailedEvent request error])
        (.failure (some request.redirectUri) error)

theorem level_dispatchFailedEvent_iff {level : Log.Level} (h : level ≠ .debug)
    (request : AuthorizationRequest) (error : AuthError) :
    (dispatchFailedEvent request error).level = level ↔
      level = .error ∧ error.kind = .storage := by
  rw [dispatchFailedEvent]
  by_cases hstorage : error.kind = .storage
  · simp [hstorage, eq_comm]
  · simp [hstorage, Ne.symm h]

theorem exists_mem_append_iff {first last : List Log.Event} {level : Log.Level} :
    (∃ event ∈ first ++ last, event.level = level) ↔
      (∃ event ∈ first, event.level = level) ∨ ∃ event ∈ last, event.level = level := by
  simp only [List.mem_append, or_and_right, exists_or]

theorem exists_mem_finished_iff {calls : List (Call Session)} {level : Log.Level} :
    (∃ event ∈ calls.map finishedEvent, event.level = level) ↔ level = .trace ∧ calls ≠ [] := by
  cases calls with
  | nil => simp
  | cons call calls => simp [finishedEvent, eq_comm]

theorem failedEvent_eq (request : AuthorizationRequest) (error : AuthError) :
    failedEvent request error = dispatchFailedEvent request error := by
  rw [failedEvent, dispatchFailedEvent, AuthError.isServerError]
  by_cases h : error.kind = .storage <;> simp [h]

theorem handle_of_ok {request : AuthorizationRequest}
    (h : (endpoint.service.build inbound).value = .ok request) (session : Session) :
    endpoint.handle inbound session = endpoint.answer request inbound session := by
  rw [handle, Logged.bind, AuthorizationService.events_build_of_ok h, h, List.nil_append]

/-- What a course says is so. -/
theorem Course.eq_handle {events : List Log.Event} {reply : Reply}
    (h : Course endpoint inbound session events reply) :
    endpoint.handle inbound session = ⟨events, reply⟩ := by
  cases h with
  | @rejected warnings rejection hwarns hbuild =>
    obtain rfl := hwarns.unique (endpoint.service.warns_build inbound)
    rw [handle, Logged.bind, hbuild]
    rfl
  | granted hbuild hcalls hserved =>
    rw [handle_of_ok hbuild, answer, Chain.dispatch_of_served hcalls hserved]
    rfl
  | unserved hbuild hcalls hnone =>
    rw [handle_of_ok hbuild, answer, Chain.dispatch_of_unserved hcalls hnone, ← failedEvent_eq]
    rfl
  | aborted hbuild hcalls =>
    rw [handle_of_ok hbuild, answer, Chain.dispatch_of_aborts hcalls, ← failedEvent_eq,
      Logged.bind]
    simp only [Logged.events_raised, Logged.value_raised, List.append_assoc]
    rfl

/-- Every run takes a course. -/
theorem exists_course (endpoint : Endpoint Session) (inbound : InboundRequest)
    (session : Session) : ∃ events reply, Course endpoint inbound session events reply := by
  cases hbuild : (endpoint.service.build inbound).value with
  | error rejection => exact ⟨_, _, .rejected (endpoint.service.warns_build inbound) hbuild⟩
  | ok request =>
    rcases endpoint.chain.completes_or_aborts request inbound session with
      ⟨calls, hcalls⟩ | ⟨calls, failing, error, hcalls⟩
    · by_cases hserved : ∃ call ∈ calls, call.outcome = .handled
      · exact ⟨_, _, .granted hbuild hcalls hserved⟩
      · exact ⟨_, _, .unserved hbuild hcalls fun call hmem h => hserved ⟨call, hmem, h⟩⟩
    · exact ⟨_, _, .aborted hbuild hcalls⟩

theorem course_iff {events : List Log.Event} {reply : Reply} :
    Course endpoint inbound session events reply ↔
      (endpoint.handle inbound session).events = events ∧
      (endpoint.handle inbound session).value = reply := by
  constructor
  · intro h
    rw [h.eq_handle]
    exact ⟨rfl, rfl⟩
  · rintro ⟨rfl, rfl⟩
    obtain ⟨events, reply, h⟩ := endpoint.exists_course inbound session
    rw [h.eq_handle]
    exact h

/-! ### What the levels say -/

/-- A dispatch that ended in one way or another. -/
def Dispatches (endpoint : Endpoint Session) (inbound : InboundRequest) (session : Session)
    (request : AuthorizationRequest) (ended : Except AuthError Response) : Prop :=
  (endpoint.service.build inbound).value = .ok request ∧
    (endpoint.chain.dispatch request inbound session).value = ended

variable {events : List Log.Event} {reply : Reply} {request request' : AuthorizationRequest}
  {ended ended' : Except AuthError Response}

/-- A request is dispatched once, and ends in one way. -/
theorem dispatches_iff (h : endpoint.Dispatches inbound session request ended) :
    endpoint.Dispatches inbound session request' ended' ↔ request = request' ∧ ended = ended' := by
  obtain ⟨hbuild, rfl⟩ := h
  constructor
  · rintro ⟨hbuild', rfl⟩
    rw [hbuild', Except.ok.injEq] at hbuild
    subst hbuild
    exact ⟨rfl, rfl⟩
  · rintro ⟨rfl, rfl⟩
    exact ⟨hbuild, rfl⟩

theorem not_dispatches {rejection : Rejection}
    (h : (endpoint.service.build inbound).value = .error rejection) :
    ¬endpoint.Dispatches inbound session request ended := by
  rintro ⟨hbuild, -⟩
  rw [h] at hbuild
  cases hbuild

/-- The levels of a course above the handlers' own, for each way in which it may end. -/
theorem Course.levels (h : Course endpoint inbound session events reply) {level : Log.Level}
    (htrace : level ≠ .trace) (hdebug : level ≠ .debug) :
    (∃ event ∈ events, event.level = level) ↔
      (level = .warn ∧ ∃ id error, endpoint.service.LookupFails inbound id error) ∨
      (level = .info ∧ ∃ request response,
        endpoint.Dispatches inbound session request (.ok response) ∧
        reply = .success request response) ∨
      (level = .error ∧ ∃ request error,
        endpoint.Dispatches inbound session request (.error error) ∧ error.kind = .storage) := by
  cases h with
  | rejected hwarns hbuild =>
    rw [exists_mem_append_iff, hwarns.exists_mem_iff]
    simp [not_dispatches hbuild, Ne.symm hdebug]
  | @granted request calls hbuild hcalls hserved =>
    have hends : endpoint.Dispatches inbound session request (.ok (Call.left calls .empty)) :=
      ⟨hbuild, by rw [Chain.dispatch_of_served hcalls hserved]⟩
    have hfound := AuthorizationService.not_lookupFails_of_build_ok hbuild
    rw [exists_mem_append_iff, exists_mem_finished_iff]
    simp [htrace, hfound, dispatches_iff hends, eq_comm]
  | @unserved request calls hbuild hcalls hnone =>
    have hends : endpoint.Dispatches inbound session request (.error .noHandler) :=
      ⟨hbuild, by rw [Chain.dispatch_of_unserved hcalls hnone]⟩
    have hfound := AuthorizationService.not_lookupFails_of_build_ok hbuild
    rw [exists_mem_append_iff, exists_mem_finished_iff]
    simp [htrace, hfound, dispatches_iff hends, level_dispatchFailedEvent_iff hdebug]
  | @aborted request calls failing error hbuild hcalls =>
    have hends : endpoint.Dispatches inbound session request (.error error) :=
      ⟨hbuild, by rw [Chain.dispatch_of_aborts hcalls]⟩
    have hfound := AuthorizationService.not_lookupFails_of_build_ok hbuild
    rw [exists_mem_append_iff, exists_mem_finished_iff]
    simp [htrace, hfound, dispatches_iff hends, level_dispatchFailedEvent_iff hdebug,
      Ne.symm hdebug]

theorem told_answer (endpoint : Endpoint Session) (request : AuthorizationRequest)
    (inbound : InboundRequest) (session : Session) :
    (endpoint.answer request inbound session).events.filterMap Log.Event.handler? =
      (endpoint.chain.invoked request inbound session).map fun handler => .text handler.name := by
  have htold := congrArg (List.filterMap id) (endpoint.chain.told_dispatch request inbound session)
  rw [List.filterMap_map, List.filterMap_map, Function.id_comp, Function.id_comp,
    List.filterMap_eq_map'] at htold
  rw [answer, Logged.events_bind, List.filterMap_append, htold]
  -- What is told after the dispatch names no handler.
  cases (endpoint.chain.dispatch request inbound session).value with
  | ok response => exact List.append_nil _
  | error error => exact List.append_nil _

/-- The handlers that run on a request are those that its log tells of. -/
theorem told_handle (endpoint : Endpoint Session) (inbound : InboundRequest) (session : Session) :
    (endpoint.handle inbound session).events.filterMap Log.Event.handler? =
      (endpoint.invoked inbound session).map fun handler => .text handler.name := by
  rw [handle, invoked, Logged.events_bind, List.filterMap_append,
    (endpoint.service.warns_build inbound).told, List.nil_append]
  cases (endpoint.service.build inbound).value with
  | error rejection => rfl
  | ok request => exact endpoint.told_answer request inbound session

/-- The log tells a run as it was: a warning where the store failed, the one rejection, or each
handler in turn and how the dispatch ended.  A grant is told of where one was made and nowhere
else, and likewise an error of the server's own. -/
theorem log_faithful (endpoint : Endpoint Session) (inbound : InboundRequest) (session : Session) :
    let run := endpoint.handle inbound session
    (∀ events reply, Course endpoint inbound session events reply ↔
      run.events = events ∧ run.value = reply) ∧
    ((∃ event ∈ run.events, event.level = .warn) ↔
      ∃ id error, endpoint.service.LookupFails inbound id error) ∧
    ((∃ event ∈ run.events, event.level = .info) ↔
      ∃ request response, endpoint.Dispatches inbound session request (.ok response) ∧
        run.value = .success request response) ∧
    ((∃ event ∈ run.events, event.level = .error) ↔
      ∃ request error, endpoint.Dispatches inbound session request (.error error) ∧
        error.kind = .storage) := by
  intro run
  have hcourse : Course endpoint inbound session run.events run.value :=
    course_iff.mpr ⟨rfl, rfl⟩
  refine ⟨fun events reply => course_iff, ?_, ?_, ?_⟩
  · rw [hcourse.levels (by decide) (by decide)]
    simp
  · rw [hcourse.levels (by decide) (by decide)]
    simp
  · rw [hcourse.levels (by decide) (by decide)]
    simp

end Endpoint

end OAuthEndpoint
