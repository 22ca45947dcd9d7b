import OAuthEndpoint.Http.Router

/-! The layer that traces requests.  It opens a span around each request, and of its own accord it
tells that the request comes in, that its response goes out, and that a response is a fault of the
server. -/

namespace OAuthEndpoint.Http

open Log

/-- What a layer tells of a request.  Times are milliseconds from the request to its response. -/
structure TraceLayer where
  span : Request → Log.Entry
  onRequest : Request → List Event
  onResponse : Response → Nat → List Event
  onFailure : Response → Nat → List Event

namespace TraceLayer

def latencyField (latency : Nat) : String × FieldValue :=
  ("latency", .text (toString latency ++ " ms"))

/-- What a status of a server fault is called. -/
def faultName : Nat → String
  | 500 => "Internal Server Error"
  | 501 => "Not Implemented"
  | 502 => "Bad Gateway"
  | 503 => "Service Unavailable"
  | 504 => "Gateway Timeout"
  | 505 => "HTTP Version Not Supported"
  | 506 => "Variant Also Negotiates"
  | 507 => "Insufficient Storage"
  | 508 => "Loop Detected"
  | 510 => "Not Extended"
  | 511 => "Network Authentication Required"
  | _ => "<unknown status code>"

def startedEvent : Event := ⟨.debug, "started processing request", []⟩

def finishedEvent (status latency : Nat) : Event :=
  ⟨.debug, "finished processing request", [latencyField latency, ("status", .number status)]⟩

def failedEvent (status latency : Nat) : Event :=
  ⟨.error, "response failed",
    [("classification", .text ("Status code: " ++ toString status ++ " " ++ faultName status)),
      latencyField latency]⟩

/-- The layer that has a span of the server's own and the framework's events, as they are for
responses that are not of gRPC. -/
def withSpan (span : Request → Log.Entry) : TraceLayer where
  span := span
  onRequest _ := [startedEvent]
  onResponse response latency := [finishedEvent response.status latency]
  onFailure response latency := [failedEvent response.status latency]

/-- The log of a request: the span, what the layer tells before the request is served, what is told
while it is, and what the layer tells of the response, which it takes for a failure where the status
is that of a server fault. -/
def trace (layer : TraceLayer) (request : Request) (inner : List Record) (response : Response)
    (latency : Nat) : List Record :=
  ⟨.server, layer.span request⟩ ::
    (recordsOf .framework (layer.onRequest request) ++ inner ++
      recordsOf .framework (layer.onResponse response latency ++
        if 500 ≤ response.status ∧ response.status < 600 then layer.onFailure response latency
        else []))

end TraceLayer

/-- What the framework tells when it refuses a body. -/
def refusedEvent : Event :=
  ⟨.trace, "rejecting request",
    [("status", .number 413), ("body", .quoted Response.bodyTooLong.body),
      ("rejection_type", .quoted "axum_core::extract::rejection::LengthLimitError")]⟩

/-- What is told while a request is served. -/
def innerRecords (request : Request) (events : List Event) : List Record :=
  recordsOf .framework (if Route.of request = .bodyTooLong then [refusedEvent] else []) ++
    recordsOf .server events

end OAuthEndpoint.Http
