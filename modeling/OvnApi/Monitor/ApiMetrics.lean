import OvnApi.Monitor.Models
import OvnApi.Lib.Counter

/-! `ApiMetricsStore`: the counters that the middleware keeps of the requests and the
WebSocket connections. Finished requests are also counted by method and class of status,
in a dictionary. Every method is one block under the lock. -/

namespace OvnApi.Monitor

open Lib

/-- The method and the class of status that requests are counted by. -/
abbrev MethodStatus := String × String

structure ApiMetricsStore where
  startedPerf : ℚ
  httpRequestsTotal : ℕ := 0
  httpRequestsInFlight : ℕ := 0
  httpRequestErrorsTotal : ℕ := 0
  httpRequestDurationMsSum : ℚ := 0
  httpRequestDurationMsCount : ℕ := 0
  httpRequestsByMethodStatus : Counter MethodStatus := .empty
  websocketClientsCurrent : ℕ := 0
  websocketConnectionsTotal : ℕ := 0
  websocketMessagesSentTotal : ℕ := 0

/-- The arguments of `mark_http_request_finished`. -/
structure FinishedRequest where
  method : String
  statusCode : ℤ
  durationMs : ℚ
  errored : Bool

/-- The calls that change the store. -/
inductive ApiEvent where
  | requestStarted
  | requestFinished (request : FinishedRequest)
  | websocketConnected
  | websocketDisconnected
  | websocketMessageSent

def statusClass (statusCode : ℤ) : String :=
  if 0 < statusCode then toString (max statusCode 0 / 100) ++ "xx" else "error"

namespace ApiMetricsStore

variable (upper : String → String)

/-- `mark_http_request_finished`; `upper` is `str.upper`. -/
def requestFinished (s : ApiMetricsStore) (request : FinishedRequest) : ApiMetricsStore :=
  let method := upper request.method
  { s with
    httpRequestsTotal := s.httpRequestsTotal + 1
    httpRequestsInFlight := s.httpRequestsInFlight - 1
    httpRequestDurationMsSum := roundMillis (s.httpRequestDurationMsSum + request.durationMs)
    httpRequestDurationMsCount := s.httpRequestDurationMsCount + 1
    httpRequestErrorsTotal := s.httpRequestErrorsTotal + if request.errored then 1 else 0
    httpRequestsByMethodStatus := Counter.bump s.httpRequestsByMethodStatus
      (if method = "" then "UNKNOWN" else method, statusClass request.statusCode) }

def handle (s : ApiMetricsStore) : ApiEvent → ApiMetricsStore
  | .requestStarted => { s with httpRequestsInFlight := s.httpRequestsInFlight + 1 }
  | .requestFinished request => s.requestFinished upper request
  | .websocketConnected =>
    { s with
      websocketClientsCurrent := s.websocketClientsCurrent + 1
      websocketConnectionsTotal := s.websocketConnectionsTotal + 1 }
  | .websocketDisconnected => { s with websocketClientsCurrent := s.websocketClientsCurrent - 1 }
  | .websocketMessageSent =>
    { s with websocketMessagesSentTotal := s.websocketMessagesSentTotal + 1 }

def getSnapshot (s : ApiMetricsStore) (perf : ℚ) : ApiRuntimeMetrics where
  uptimeS := roundMillis (perf - s.startedPerf)
  httpRequestsTotal := s.httpRequestsTotal
  httpRequestsInFlight := s.httpRequestsInFlight
  httpRequestErrorsTotal := s.httpRequestErrorsTotal
  httpRequestDurationMsSum := s.httpRequestDurationMsSum
  httpRequestDurationMsCount := s.httpRequestDurationMsCount
  websocketClientsCurrent := s.websocketClientsCurrent
  websocketConnectionsTotal := s.websocketConnectionsTotal
  websocketMessagesSentTotal := s.websocketMessagesSentTotal

def httpStatusBreakdown (s : ApiMetricsStore) : List (MethodStatus × ℕ) :=
  s.httpRequestsByMethodStatus.rows

end ApiMetricsStore

end OvnApi.Monitor
