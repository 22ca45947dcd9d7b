import OAuthEndpoint.Dispatch
import OAuthEndpoint.Proofs.Http.Headers

/-! What a chain does with a request.  Its handlers run one after another, each on the response that
those before it left, until one fails; what they write adds up in their order.  The calls that a run
makes are data here, so that what was invoked, what was told of it and what came of it are read off
the same list (`runFrom_calls`, `invokedFrom_calls`); what is told names just the handlers that were
invoked (`told_dispatch`). -/

namespace OAuthEndpoint

variable {Session : Type} {request : AuthorizationRequest} {inbound : InboundRequest}
  {session : Session}

/-- The handler that an event tells of. -/
def Log.Event.handler? (event : Log.Event) : Option Log.FieldValue := event.fields.lookup "handler"

/-- The values that a contribution adds to a header, whose name is in lower case. -/
def Contribution.headerValues (contribution : Contribution) (name : String) : List String :=
  (contribution.headers.filter fun field => Text.lower field.1 == name).map (·.2)

/-- The values that a contribution adds to a query parameter. -/
def Contribution.queryValues (contribution : Contribution) (key : String) : List String :=
  (contribution.query.filter (·.1 == key)).map (·.2)

namespace Response

@[simp] theorem query_add (response : Response) (contribution : Contribution) :
    (response.add contribution).query = response.query ++ contribution.query := rfl

@[simp] theorem getAll_add (response : Response) (contribution : Contribution) (name : String) :
    (response.add contribution).headers.getAll name =
      response.headers.getAll name ++ contribution.headerValues name :=
  Http.Headers.getAll_appendAll response.headers contribution.headers name

@[simp] theorem queryValues_add (response : Response) (contribution : Contribution)
    (key : String) : (response.add contribution).queryValues key =
      response.queryValues key ++ contribution.queryValues key := by
  rw [queryValues, query_add, List.filter_append, List.map_append]
  rfl

@[simp] theorem add_empty (response : Response) : response.add {} = response := by
  rw [add, List.append_nil]
  rfl

end Response

/-- A call of a handler that ended without an error. -/
structure Call (Session : Type) where
  handler : Handler Session
  written : Contribution
  outcome : Outcome

namespace Call

/-- What the log has of a call. -/
def event (call : Call Session) : Log.Event := call.handler.finished call.outcome

/-- What calls leave of a response. -/
def left (calls : List (Call Session)) (start : Response) : Response :=
  calls.foldl (fun response call => response.add call.written) start

@[simp] theorem left_nil (start : Response) : left ([] : List (Call Session)) start = start := rfl

@[simp] theorem left_cons (call : Call Session) (calls : List (Call Session)) (start : Response) :
    left (call :: calls) start = left calls (start.add call.written) := rfl

/-- Calls only add to whatever a contribution only adds to, each after what those before it wrote. -/
theorem view_left {β : Type} (view : Response → List β) (part : Contribution → List β)
    (h : ∀ response contribution, view (response.add contribution) =
      view response ++ part contribution) (calls : List (Call Session)) (start : Response) :
    view (left calls start) = view start ++ calls.flatMap fun call => part call.written := by
  induction calls generalizing start with
  | nil => simp
  | cons call calls ih => rw [left_cons, ih, h, List.flatMap_cons, List.append_assoc]

theorem query_left (calls : List (Call Session)) (start : Response) :
    (left calls start).query = start.query ++ calls.flatMap (·.written.query) :=
  view_left (·.query) (·.query) Response.query_add calls start

theorem queryValues_left (calls : List (Call Session)) (start : Response) (key : String) :
    (left calls start).queryValues key =
      start.queryValues key ++ calls.flatMap (·.written.queryValues key) :=
  view_left (·.queryValues key) (·.queryValues key)
    (fun response contribution => response.queryValues_add contribution key) calls start

theorem getAll_left (calls : List (Call Session)) (start : Response) (name : String) :
    (left calls start).headers.getAll name =
      start.headers.getAll name ++ calls.flatMap (·.written.headerValues name) :=
  view_left (·.headers.getAll name) (·.headerValues name)
    (fun response contribution => response.getAll_add contribution name) calls start

/-- Every handler was called with the response that the calls before it left. -/
def InOrder (request : AuthorizationRequest) (inbound : InboundRequest) (session : Session)
    (start : Response) (calls : List (Call Session)) : Prop :=
  ∀ before call after, calls = before ++ call :: after →
    call.handler.run request inbound session (left before start) =
      (call.written, .ok call.outcome)

theorem inOrder_nil (start : Response) : InOrder request inbound session start [] :=
  fun before call after h => by simp at h

/-- A call comes before others when it is made first and they follow on what it left. -/
theorem inOrder_cons_iff {start : Response} {call : Call Session} {calls : List (Call Session)} :
    InOrder request inbound session start (call :: calls) ↔
      call.handler.run request inbound session start = (call.written, .ok call.outcome) ∧
      InOrder request inbound session (start.add call.written) calls := by
  constructor
  · intro h
    refine ⟨h [] call calls rfl, ?_⟩
    intro before later after hcalls
    exact h (call :: before) later after (by rw [hcalls, List.cons_append])
  · rintro ⟨hfirst, hrest⟩ before later after hcalls
    cases before with
    | nil =>
      rw [List.nil_append, List.cons.injEq] at hcalls
      obtain ⟨rfl, -⟩ := hcalls
      exact hfirst
    | cons head before =>
      rw [List.cons_append, List.cons.injEq] at hcalls
      obtain ⟨rfl, hrest'⟩ := hcalls
      exact hrest before later after hrest'

/-- Calls go on from what those before them left. -/
theorem inOrder_append_iff {start : Response} {first last : List (Call Session)} :
    InOrder request inbound session start (first ++ last) ↔
      InOrder request inbound session start first ∧
      InOrder request inbound session (left first start) last := by
  induction first generalizing start with
  | nil => exact (and_iff_right (inOrder_nil start)).symm
  | cons call first ih =>
    rw [List.cons_append, inOrder_cons_iff, inOrder_cons_iff, ih, left_cons, and_assoc]

end Call

namespace Chain

/-! ### One handler -/

theorem runFrom_cons_of_ok {handler : Handler Session} {response : Response}
    {written : Contribution} {outcome : Outcome}
    (h : handler.run request inbound session response = (written, .ok outcome))
    (handlers : List (Handler Session)) (served : Bool) :
    runFrom request inbound session (handler :: handlers) response served =
      (runFrom request inbound session handlers (response.add written)
        (served || outcome == .handled)).after (handler.finished outcome) := by
  rw [runFrom, h]

/-- What an aborting handler wrote is lost, and no handler after it runs. -/
theorem runFrom_cons_of_error {handler : Handler Session} {response : Response}
    {written : Contribution} {error : AuthError}
    (h : handler.run request inbound session response = (written, .error error))
    (handlers : List (Handler Session)) (served : Bool) :
    runFrom request inbound session (handler :: handlers) response served =
      .raised (handler.aborted error) (.error error) := by
  rw [runFrom, h]

/-- Handlers that do the same with two requests make the same run of both. -/
theorem runFrom_congr {request' : AuthorizationRequest} {inbound' : InboundRequest}
    {handlers : List (Handler Session)}
    (h : ∀ handler ∈ handlers, ∀ response, handler.run request inbound session response =
      handler.run request' inbound' session response) (response : Response) (served : Bool) :
    runFrom request inbound session handlers response served =
      runFrom request' inbound' session handlers response served := by
  induction handlers generalizing response served with
  | nil => rfl
  | cons handler handlers ih =>
    have hrest := ih fun other hother => h other (List.mem_cons_of_mem handler hother)
    have hsame := h handler List.mem_cons_self response
    cases hrun : handler.run request inbound session response with
    | mk written ended =>
      rw [hrun] at hsame
      cases ended with
      | error error => rw [runFrom_cons_of_error hrun, runFrom_cons_of_error hsame.symm]
      | ok outcome => rw [runFrom_cons_of_ok hrun, runFrom_cons_of_ok hsame.symm, hrest]

theorem invokedFrom_cons_of_ok {handler : Handler Session} {response : Response}
    {written : Contribution} {outcome : Outcome}
    (h : handler.run request inbound session response = (written, .ok outcome))
    (handlers : List (Handler Session)) :
    invokedFrom request inbound session (handler :: handlers) response =
      handler :: invokedFrom request inbound session handlers (response.add written) := by
  rw [invokedFrom, h]

theorem invokedFrom_cons_of_error {handler : Handler Session} {response : Response}
    {written : Contribution} {error : AuthError}
    (h : handler.run request inbound session response = (written, .error error))
    (handlers : List (Handler Session)) :
    invokedFrom request inbound session (handler :: handlers) response = [handler] := by
  rw [invokedFrom, h]

/-- The handlers that run are those that the events of the run tell of, in that order. -/
theorem told_runFrom (request : AuthorizationRequest) (inbound : InboundRequest)
    (session : Session) (handlers : List (Handler Session)) (response : Response) (served : Bool) :
    (runFrom request inbound session handlers response served).events.map Log.Event.handler? =
      (invokedFrom request inbound session handlers response).map fun handler =>
        some (.text handler.name) := by
  induction handlers generalizing response served with
  | nil => rfl
  | cons handler handlers ih =>
    cases hrun : handler.run request inbound session response with
    | mk written ended =>
      cases ended with
      | error error =>
        rw [runFrom_cons_of_error hrun, invokedFrom_cons_of_error hrun]
        rfl
      | ok outcome =>
        rw [runFrom_cons_of_ok hrun, invokedFrom_cons_of_ok hrun, Logged.events_after,
          List.map_cons, List.map_cons, ih]
        rfl

theorem told_dispatch (chain : Chain Session) (request : AuthorizationRequest)
    (inbound : InboundRequest) (session : Session) :
    (chain.dispatch request inbound session).events.map Log.Event.handler? =
      (chain.invoked request inbound session).map fun handler => some (.text handler.name) :=
  told_runFrom request inbound session chain.handlers .empty false

/-! ### Handlers in a row -/

/-- A run goes on from where its calls left the response, and has told of each of them. -/
theorem runFrom_calls {calls : List (Call Session)} {start : Response}
    (h : Call.InOrder request inbound session start calls) (handlers : List (Handler Session))
    (served : Bool) :
    runFrom request inbound session (calls.map Call.handler ++ handlers) start served =
      (⟨calls.map Call.event, ()⟩ : Logged Unit).bind fun _ =>
        runFrom request inbound session handlers (Call.left calls start)
          (served || calls.any (·.outcome == .handled)) := by
  induction calls generalizing start served with
  | nil => simp [Logged.bind]
  | cons call calls ih =>
    obtain ⟨hfirst, hrest⟩ := Call.inOrder_cons_iff.mp h
    rw [List.map_cons, List.cons_append, runFrom_cons_of_ok hfirst, ih hrest, Bool.or_assoc]
    rfl

theorem invokedFrom_calls {calls : List (Call Session)} {start : Response}
    (h : Call.InOrder request inbound session start calls) (handlers : List (Handler Session)) :
    invokedFrom request inbound session (calls.map Call.handler ++ handlers) start =
      calls.map Call.handler ++
        invokedFrom request inbound session handlers (Call.left calls start) := by
  induction calls generalizing start with
  | nil => rfl
  | cons call calls ih =>
    obtain ⟨hfirst, hrest⟩ := Call.inOrder_cons_iff.mp h
    rw [List.map_cons, List.cons_append, invokedFrom_cons_of_ok hfirst, ih hrest]
    rfl

/-- Handlers in a row all end without an error, or there is a first one that does not. -/
theorem exists_calls (request : AuthorizationRequest) (inbound : InboundRequest)
    (session : Session) (handlers : List (Handler Session)) (start : Response) :
    (∃ calls, handlers = calls.map Call.handler ∧
      Call.InOrder request inbound session start calls) ∨
    ∃ calls failing after written error,
      handlers = calls.map Call.handler ++ failing :: after ∧
      Call.InOrder request inbound session start calls ∧
      failing.run request inbound session (Call.left calls start) = (written, .error error) := by
  -- For any start: each call moves the response on which the handlers after it run.
  induction handlers generalizing start with
  | nil => exact .inl ⟨[], rfl, Call.inOrder_nil start⟩
  | cons handler handlers ih =>
    cases hrun : handler.run request inbound session start with
    | mk written ended =>
      cases ended with
      | error error =>
        exact .inr ⟨[], handler, handlers, written, error, rfl, Call.inOrder_nil start, hrun⟩
      | ok outcome =>
        have hfirst : ∀ calls, Call.InOrder request inbound session (start.add written) calls →
            Call.InOrder request inbound session start (⟨handler, written, outcome⟩ :: calls) :=
          fun calls hrest => Call.inOrder_cons_iff.mpr ⟨hrun, hrest⟩
        rcases ih (start.add written) with
          ⟨calls, rfl, horder⟩ | ⟨calls, failing, after, lost, error, rfl, horder, hfail⟩
        · exact .inl ⟨⟨handler, written, outcome⟩ :: calls, rfl, hfirst calls horder⟩
        · exact .inr ⟨⟨handler, written, outcome⟩ :: calls, failing, after, lost, error, rfl,
            hfirst calls horder, hfail⟩

/-! ### The whole chain -/

/-- A handler that is put at the end of a chain, as its own or shared with others. -/
inductive Enrolment (Session : Type) where
  | own (handler : Handler Session)
  | shared (handler : Handler Session)

def Enrolment.handler : Enrolment Session → Handler Session
  | .own handler => handler
  | .shared handler => handler

def enrol (chain : Chain Session) : Enrolment Session → Chain Session
  | .own handler => chain.withHandler handler
  | .shared handler => chain.register handler

/-- Both ways put a handler last, so that handlers run in the order of their enrolment. -/
theorem handlers_foldl_enrol (chain : Chain Session) (enrolments : List (Enrolment Session)) :
    (enrolments.foldl enrol chain).handlers =
      chain.handlers ++ enrolments.map Enrolment.handler := by
  induction enrolments generalizing chain with
  | nil => simp
  | cons enrolment enrolments ih =>
    have hlast : (chain.enrol enrolment).handlers = chain.handlers ++ [enrolment.handler] := by
      cases enrolment <;> rfl
    rw [List.foldl_cons, ih, hlast, List.map_cons, List.append_assoc, List.singleton_append]

/-- The calls of a chain none of whose handlers fails. -/
structure Completes (chain : Chain Session) (request : AuthorizationRequest)
    (inbound : InboundRequest) (session : Session) (calls : List (Call Session)) : Prop where
  handlers : chain.handlers = calls.map Call.handler
  inOrder : Call.InOrder request inbound session .empty calls

/-- The calls of a chain before its first handler that fails, that handler, and its error. -/
structure Aborts (chain : Chain Session) (request : AuthorizationRequest)
    (inbound : InboundRequest) (session : Session) (calls : List (Call Session))
    (failing : Handler Session) (error : AuthError) : Prop where
  handlers : ∃ after, chain.handlers = calls.map Call.handler ++ failing :: after
  inOrder : Call.InOrder request inbound session .empty calls
  fails : ∃ written,
    failing.run request inbound session (Call.left calls .empty) = (written, .error error)

variable {chain : Chain Session} {calls : List (Call Session)} {failing : Handler Session}
  {error : AuthError}

theorem Completes.length_eq (h : chain.Completes request inbound session calls) :
    chain.handlers.length = calls.length := by
  rw [h.handlers, List.length_map]

theorem Completes.mem_handlers (h : chain.Completes request inbound session calls)
    {call : Call Session} (hmem : call ∈ calls) : call.handler ∈ chain.handlers := by
  rw [h.handlers]
  exact List.mem_map_of_mem hmem

theorem Aborts.mem_handlers (h : chain.Aborts request inbound session calls failing error)
    {call : Call Session} (hmem : call ∈ calls) : call.handler ∈ chain.handlers := by
  obtain ⟨after, hhandlers⟩ := h.handlers
  rw [hhandlers]
  exact List.mem_append_left _ (List.mem_map_of_mem hmem)

theorem completes_or_aborts (chain : Chain Session) (request : AuthorizationRequest)
    (inbound : InboundRequest) (session : Session) :
    (∃ calls, chain.Completes request inbound session calls) ∨
      ∃ calls failing error, chain.Aborts request inbound session calls failing error := by
  rcases exists_calls request inbound session chain.handlers .empty with
    ⟨calls, hhandlers, horder⟩ | ⟨calls, failing, after, written, error, hhandlers, horder, hfail⟩
  · exact .inl ⟨calls, hhandlers, horder⟩
  · exact .inr ⟨calls, failing, error, ⟨after, hhandlers⟩, horder, written, hfail⟩

theorem dispatch_of_completes (h : chain.Completes request inbound session calls) :
    chain.dispatch request inbound session = ⟨calls.map Call.event,
      if calls.any (·.outcome == .handled) then .ok (Call.left calls .empty)
      else .error .noHandler⟩ := by
  have hrun := runFrom_calls h.inOrder [] false
  rw [List.append_nil, ← h.handlers] at hrun
  rw [dispatch, hrun, Bool.false_or, runFrom, Logged.bind, Logged.silent, List.append_nil]

theorem invoked_of_completes (h : chain.Completes request inbound session calls) :
    chain.invoked request inbound session = chain.handlers := by
  have hrun := invokedFrom_calls h.inOrder []
  rw [List.append_nil, ← h.handlers] at hrun
  rw [invoked, hrun, invokedFrom, List.append_nil]

theorem dispatch_of_aborts (h : chain.Aborts request inbound session calls failing error) :
    chain.dispatch request inbound session =
      ⟨calls.map Call.event ++ [failing.aborted error], .error error⟩ := by
  obtain ⟨after, hhandlers⟩ := h.handlers
  obtain ⟨written, hfail⟩ := h.fails
  rw [dispatch, hhandlers, runFrom_calls h.inOrder, runFrom_cons_of_error hfail]
  rfl

theorem invoked_of_aborts (h : chain.Aborts request inbound session calls failing error) :
    chain.invoked request inbound session = calls.map Call.handler ++ [failing] := by
  obtain ⟨after, hhandlers⟩ := h.handlers
  obtain ⟨written, hfail⟩ := h.fails
  rw [invoked, hhandlers, invokedFrom_calls h.inOrder, invokedFrom_cons_of_error hfail]

/-- A chain that gives a response has run to its end. -/
theorem completes_of_value_ok {response : Response}
    (h : (chain.dispatch request inbound session).value = .ok response) :
    ∃ calls, chain.Completes request inbound session calls ∧ response = Call.left calls .empty := by
  rcases chain.completes_or_aborts request inbound session with
    ⟨calls, hcalls⟩ | ⟨calls, failing, error, hcalls⟩
  · refine ⟨calls, hcalls, ?_⟩
    rw [dispatch_of_completes hcalls] at h
    split at h
    · exact (Except.ok.inj h).symm
    · cases h
  · rw [dispatch_of_aborts hcalls] at h
    cases h

theorem any_handled_iff :
    calls.any (·.outcome == .handled) = true ↔ ∃ call ∈ calls, call.outcome = .handled := by
  simp [List.any_eq_true]

/-- Dispatch adds up what the handlers write, in the order of their enrolment and each on top of
what those before it wrote, and nothing but an error ends it early. -/
theorem dispatch_folds (chain : Chain Session) (request : AuthorizationRequest)
    (inbound : InboundRequest) (session : Session) :
    (∀ calls failing error, chain.Aborts request inbound session calls failing error →
      (chain.dispatch request inbound session).value = .error error ∧
      (chain.dispatch request inbound session).events =
        calls.map Call.event ++ [failing.aborted error] ∧
      chain.invoked request inbound session = calls.map Call.handler ++ [failing]) ∧
    (∀ calls, chain.Completes request inbound session calls →
      (chain.dispatch request inbound session).events = calls.map Call.event ∧
      chain.invoked request inbound session = chain.handlers ∧
      ((chain.dispatch request inbound session).value = .error .noHandler ↔
        ∀ call ∈ calls, call.outcome ≠ .handled) ∧
      ((∃ call ∈ calls, call.outcome = .handled) →
        ∃ response, (chain.dispatch request inbound session).value = .ok response ∧
          response.query = calls.flatMap (·.written.query) ∧
          ∀ name, response.headers.getAll name = calls.flatMap (·.written.headerValues name))) ∧
    ((∃ calls, chain.Completes request inbound session calls) ∨
      ∃ calls failing error, chain.Aborts request inbound session calls failing error) ∧
    (∀ enrolments : List (Enrolment Session), enrolments.map Enrolment.handler = chain.handlers →
      enrolments.foldl enrol .empty = chain) := by
  refine ⟨?_, ?_, chain.completes_or_aborts request inbound session, ?_⟩
  · intro calls failing error h
    rw [dispatch_of_aborts h]
    exact ⟨rfl, rfl, invoked_of_aborts h⟩
  · intro calls h
    rw [dispatch_of_completes h]
    refine ⟨rfl, invoked_of_completes h, ?_, ?_⟩
    · by_cases hserved : ∃ call ∈ calls, call.outcome = .handled
      · rw [if_pos (any_handled_iff.mpr hserved)]
        obtain ⟨call, hmem, hhandled⟩ := hserved
        constructor
        · intro hvalue
          cases hvalue
        · intro hnone
          exact absurd hhandled (hnone call hmem)
      · rw [if_neg fun hany => hserved (any_handled_iff.mp hany)]
        exact ⟨fun _ call hmem hhandled => hserved ⟨call, hmem, hhandled⟩, fun _ => rfl⟩
    · intro hserved
      rw [if_pos (any_handled_iff.mpr hserved)]
      exact ⟨_, rfl, Call.query_left calls .empty, fun name => Call.getAll_left calls .empty name⟩
  · intro enrolments h
    have hall : (enrolments.foldl enrol .empty).handlers = chain.handlers := by
      rw [handlers_foldl_enrol, h]
      rfl
    exact congrArg Chain.mk hall

end Chain

end OAuthEndpoint
