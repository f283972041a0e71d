import OvnApi.Lib.Threads
import OvnApi.Lib.Transition
import OvnApi.Monitor.ApiMetrics

/-! `ApiMetricsMiddleware` around an application that serves any number of calls at once.
A call enters, sends messages, and leaves by returning, by an exception or by cancellation;
the parts between two awaits are the steps. A request keeps the messages it has sent, and the
calls that have left stay in the state, so that each counter of the store can be compared with
a number of calls. -/

namespace OvnApi.Monitor

open Lib

namespace Middleware

/-- The keys of an ASGI scope that the middleware reads. -/
structure Scope where
  type : Option String
  method : Option String := none

/-- The keys of an ASGI message that `send_wrapper` reads. -/
structure Message where
  type : String
  status : Option ℤ := none

/-- The local variables of `_handle_http`. -/
structure HttpCall where
  method : String
  startedAt : ℚ
  statusCode : ℤ := 500

/-- How the application leaves; a cancellation is not an `Exception`. -/
inductive Ending where
  | returned
  | raised
  | cancelled
  deriving DecidableEq

/-- A call of the middleware, inside the application or after it. The middleware knows its
local variables only; what a request has sent, the latest message first, is its history. -/
inductive Task where
  | http (call : HttpCall) (sent : List Message)
  | websocket
  | passed
  | httpLeft (sent : List Message) (ending : Ending)
  | websocketLeft
  | passedLeft

structure State where
  store : ApiMetricsStore
  tasks : List Task := []

inductive Label where
  /-- A call enters at the time `perf`. -/
  | enter (scope : Scope) (perf : ℚ)
  /-- The application sends a message in call `i`. -/
  | send (i : ℕ) (message : Message)
  /-- The application leaves call `i` at the time `perf`. -/
  | leave (i : ℕ) (ending : Ending) (perf : ℚ)
  /-- A stream of the application counts a message it has sent. -/
  | messageSent

def HttpCall.sendWrapper (call : HttpCall) (message : Message) : HttpCall :=
  if message.type = "http.response.start" then { call with statusCode := message.status.getD 500 }
  else call

def HttpCall.errored (call : HttpCall) (ending : Ending) : Bool :=
  ending = .raised || 500 ≤ call.statusCode

/-- The arguments of `mark_http_request_finished` in the `finally` block. -/
def HttpCall.finished (call : HttpCall) (ending : Ending) (perf : ℚ) : FinishedRequest where
  method := call.method
  statusCode := call.statusCode
  durationMs := roundMillis ((perf - call.startedAt) * 1000)
  errored := call.errored ending

variable (upper : String → String)

/-- `__call__` up to the application. -/
def State.enter (s : State) (scope : Scope) (perf : ℚ) : State :=
  if scope.type = some "http" then
    { store := s.store.handle upper .requestStarted
      tasks := s.tasks ++ [.http { method := scope.method.getD "UNKNOWN", startedAt := perf } []] }
  else if scope.type = some "websocket" then
    { store := s.store.handle upper .websocketConnected, tasks := s.tasks ++ [.websocket] }
  else { s with tasks := s.tasks ++ [.passed] }

def State.send (s : State) (i : ℕ) (message : Message) : Option State :=
  match s.tasks[i]? with
  | some (.http call sent) =>
    some { s with tasks := s.tasks.set i (.http (call.sendWrapper message) (message :: sent)) }
  | some .websocket => some s
  | some .passed => some s
  | _ => none

/-- From the application on: the `finally` blocks. -/
def State.leave (s : State) (i : ℕ) (ending : Ending) (perf : ℚ) : Option State :=
  match s.tasks[i]? with
  | some (.http call sent) =>
    some
      { store := s.store.handle upper (.requestFinished (call.finished ending perf))
        tasks := s.tasks.set i (.httpLeft sent ending) }
  | some .websocket =>
    some
      { store := s.store.handle upper .websocketDisconnected
        tasks := s.tasks.set i .websocketLeft }
  | some .passed => some { s with tasks := s.tasks.set i .passedLeft }
  | _ => none

def step (s : State) : Label → Option State
  | .enter scope perf => some (s.enter upper scope perf)
  | .send i message => s.send i message
  | .leave i ending perf => s.leave upper i ending perf
  | .messageSent => some { s with store := s.store.handle upper .websocketMessageSent }

def State.fresh (perf : ℚ) : State where
  store := { startedPerf := perf }

/-! ### What a call counts for -/

/-- The status of the last response that was started; 500 if none was, or if it named none. -/
def finalStatus (sent : List Message) : ℤ :=
  match sent.find? (·.type = "http.response.start") with
  | some response => response.status.getD 500
  | none => 500

namespace Task

def inFlight : Task → Bool
  | .http _ _ => true
  | _ => false

def finished : Task → Bool
  | .httpLeft _ _ => true
  | _ => false

/-- A request that has left by an exception, or with a final status of 500 or more. -/
def failed : Task → Bool
  | .httpLeft sent ending => ending = .raised || 500 ≤ finalStatus sent
  | _ => false

def connected : Task → Bool
  | .websocket => true
  | _ => false

end Task

/-- The numbers of calls that the counters stand for. -/
@[ext] structure Tally where
  inFlight : ℕ
  finished : ℕ
  failed : ℕ
  connected : ℕ

def tally (tasks : List Task) : Tally where
  inFlight := tasks.countP Task.inFlight
  finished := tasks.countP Task.finished
  failed := tasks.countP Task.failed
  connected := tasks.countP Task.connected

/-- The counters of the store are these numbers. -/
structure Shows (store : ApiMetricsStore) (t : Tally) : Prop where
  inFlight : store.httpRequestsInFlight = t.inFlight
  total : store.httpRequestsTotal = t.finished
  durations : store.httpRequestDurationMsCount = t.finished
  byMethodStatus : (store.httpStatusBreakdown.map Prod.snd).sum = t.finished
  errors : store.httpRequestErrorsTotal = t.failed
  websockets : store.websocketClientsCurrent = t.connected

/-- No call can leave in a state where the clamp of its counter would change the value. -/
structure Unclamped (s : State) : Prop where
  http : ∀ (i : ℕ) (call : HttpCall) (sent : List Message), s.tasks[i]? = some (.http call sent) →
    max ((s.store.httpRequestsInFlight : ℤ) - 1) 0 = s.store.httpRequestsInFlight - 1
  websocket : ∀ i : ℕ, s.tasks[i]? = some .websocket →
    max ((s.store.websocketClientsCurrent : ℤ) - 1) 0 = s.store.websocketClientsCurrent - 1

/-! ### The store -/

section Store

variable {store : ApiMetricsStore} {t : Tally}

theorem Shows.requestStarted (h : Shows store t) :
    Shows (store.handle upper .requestStarted) { t with inFlight := t.inFlight + 1 } :=
  { h with inFlight := congrArg (· + 1) h.inFlight }

theorem Shows.requestFinished (h : Shows store t) (request : FinishedRequest) :
    Shows (store.handle upper (.requestFinished request))
      { t with
        inFlight := t.inFlight - 1
        finished := t.finished + 1
        failed := t.failed + if request.errored then 1 else 0 } where
  inFlight := congrArg (· - 1) h.inFlight
  total := congrArg (· + 1) h.total
  durations := congrArg (· + 1) h.durations
  byMethodStatus := (Counter.sum_bump _ _).trans (congrArg (· + 1) h.byMethodStatus)
  errors := congrArg (· + if request.errored then 1 else 0) h.errors
  websockets := h.websockets

theorem Shows.websocketConnected (h : Shows store t) :
    Shows (store.handle upper .websocketConnected) { t with connected := t.connected + 1 } :=
  { h with websockets := congrArg (· + 1) h.websockets }

theorem Shows.websocketDisconnected (h : Shows store t) :
    Shows (store.handle upper .websocketDisconnected) { t with connected := t.connected - 1 } :=
  { h with websockets := congrArg (· - 1) h.websockets }

theorem Shows.websocketMessageSent (h : Shows store t) :
    Shows (store.handle upper .websocketMessageSent) t :=
  { h with }

end Store

/-! ### The calls -/

def Tally.add (t : Tally) (task : Task) : Tally where
  inFlight := t.inFlight + if task.inFlight then 1 else 0
  finished := t.finished + if task.finished then 1 else 0
  failed := t.failed + if task.failed then 1 else 0
  connected := t.connected + if task.connected then 1 else 0

theorem tally_snoc (tasks : List Task) (task : Task) :
    tally (tasks ++ [task]) = (tally tasks).add task := by
  simp [tally, Tally.add, List.countP_singleton]

/-- A call that moves is counted as what it has become. -/
theorem tally_set {tasks : List Task} {i : ℕ} {task : Task} (h : tasks[i]? = some task)
    (task' : Task) : (tally (tasks.set i task')).add task = (tally tasks).add task' := by
  simp only [tally, Tally.add, countP_set_add h]

theorem Tally.add_right_cancel {t t' : Tally} (task : Task) (h : t.add task = t'.add task) :
    t = t' := by
  simp only [Tally.add, Tally.mk.injEq, Nat.add_right_cancel_iff] at h
  exact Tally.ext h.1 h.2.1 h.2.2.1 h.2.2.2

section Leave

variable {tasks : List Task} {i : ℕ} {call : HttpCall} {sent : List Message}

theorem tally_sendWrapper (h : tasks[i]? = some (.http call sent)) (message : Message) :
    tally (tasks.set i (.http (call.sendWrapper message) (message :: sent))) = tally tasks :=
  Tally.add_right_cancel _ (tally_set h (.http (call.sendWrapper message) (message :: sent)))

theorem tally_httpLeft (h : tasks[i]? = some (.http call sent)) (ending : Ending) :
    tally (tasks.set i (.httpLeft sent ending)) =
      { tally tasks with
        inFlight := (tally tasks).inFlight - 1
        finished := (tally tasks).finished + 1
        failed := (tally tasks).failed + if (Task.httpLeft sent ending).failed then 1 else 0 } := by
  have hset := tally_set h (.httpLeft sent ending)
  have hin : (tally (tasks.set i (.httpLeft sent ending))).inFlight + 1 = (tally tasks).inFlight :=
    congrArg Tally.inFlight hset
  refine Tally.add_right_cancel (.http call sent) (hset.trans ?_)
  ext
  · change (tally tasks).inFlight = (tally tasks).inFlight - 1 + 1
    omega
  all_goals rfl

theorem tally_websocketLeft (h : tasks[i]? = some .websocket) :
    tally (tasks.set i .websocketLeft) =
      { tally tasks with connected := (tally tasks).connected - 1 } := by
  have hset := tally_set h .websocketLeft
  have hconnected : (tally (tasks.set i .websocketLeft)).connected + 1 = (tally tasks).connected :=
    congrArg Tally.connected hset
  refine Tally.add_right_cancel .websocket (hset.trans ?_)
  ext
  on_goal 4 =>
    change (tally tasks).connected = (tally tasks).connected - 1 + 1
    omega
  all_goals rfl

theorem tally_passedLeft (h : tasks[i]? = some .passed) :
    tally (tasks.set i .passedLeft) = tally tasks :=
  Tally.add_right_cancel _ (tally_set h .passedLeft)

end Leave

/-! ### Runs -/

variable {upper} {s s' : State}

/-- The local variable of a request is the final status of what it has sent. -/
theorem statusCode_sendWrapper {call : HttpCall} {sent : List Message}
    (h : call.statusCode = finalStatus sent) (message : Message) :
    (call.sendWrapper message).statusCode = finalStatus (message :: sent) := by
  unfold finalStatus at h ⊢
  rw [HttpCall.sendWrapper, List.find?_cons]
  by_cases hstart : message.type = "http.response.start"
  · simp [hstart]
  · simpa [hstart] using h

/-- The store shows the calls, and each request knows its status. -/
structure Balanced (s : State) : Prop where
  shows : Shows s.store (tally s.tasks)
  status : ∀ call sent, .http call sent ∈ s.tasks → call.statusCode = finalStatus sent

theorem Balanced.enter (h : Balanced s) (scope : Scope) (perf : ℚ) :
    Balanced (s.enter upper scope perf) := by
  unfold State.enter
  split_ifs
  · refine ⟨?_, ?_⟩
    · rw [tally_snoc]
      exact h.shows.requestStarted upper
    · simp only [List.mem_append, List.mem_singleton]
      rintro call sent (hold | hnew)
      · exact h.status call sent hold
      · obtain ⟨rfl, rfl⟩ := Task.http.inj hnew
        rfl
  · refine ⟨?_, by simpa using h.status⟩
    rw [tally_snoc]
    exact h.shows.websocketConnected upper
  · refine ⟨?_, by simpa using h.status⟩
    rw [tally_snoc]
    exact h.shows

theorem Balanced.send {i : ℕ} {message : Message} (h : Balanced s)
    (hs : s.send i message = some s') : Balanced s' := by
  unfold State.send at hs
  split at hs
  · next call sent htask =>
    obtain rfl := Option.some.inj hs
    refine ⟨?_, fun call' sent' hmem => ?_⟩
    · rw [tally_sendWrapper htask]
      exact h.shows
    · rcases List.mem_or_eq_of_mem_set hmem with hold | hnew
      · exact h.status call' sent' hold
      · obtain ⟨rfl, rfl⟩ := Task.http.inj hnew
        exact statusCode_sendWrapper (h.status call sent (List.mem_of_getElem? htask)) message
  · exact Option.some.inj hs ▸ h
  · exact Option.some.inj hs ▸ h
  · cases hs

/-- A request that leaves is counted by how it ended and what it has sent. -/
theorem Balanced.leave {i : ℕ} {ending : Ending} {perf : ℚ} (h : Balanced s)
    (hs : s.leave upper i ending perf = some s') : Balanced s' := by
  have hstatus : ∀ task, (∀ call sent, task ≠ .http call sent) → ∀ call sent,
      .http call sent ∈ s.tasks.set i task → call.statusCode = finalStatus sent := by
    intro task htask call sent hmem
    rcases List.mem_or_eq_of_mem_set hmem with hold | hnew
    · exact h.status call sent hold
    · exact absurd hnew.symm (htask call sent)
  unfold State.leave at hs
  split at hs
  · next call sent htask =>
    obtain rfl := Option.some.inj hs
    have hfailed : (call.finished ending perf).errored = (Task.httpLeft sent ending).failed := by
      simp only [HttpCall.finished, HttpCall.errored, Task.failed,
        h.status call sent (List.mem_of_getElem? htask)]
    refine ⟨?_, hstatus _ (by simp)⟩
    rw [tally_httpLeft htask, ← hfailed]
    exact h.shows.requestFinished upper (call.finished ending perf)
  · next htask =>
    obtain rfl := Option.some.inj hs
    refine ⟨?_, hstatus _ (by simp)⟩
    rw [tally_websocketLeft htask]
    exact h.shows.websocketDisconnected upper
  · next htask =>
    obtain rfl := Option.some.inj hs
    refine ⟨?_, hstatus _ (by simp)⟩
    rw [tally_passedLeft htask]
    exact h.shows
  · cases hs

theorem Balanced.step {l : Label} (h : Balanced s)
    (hs : Middleware.step upper s l = some s') : Balanced s' := by
  cases l with
  | enter scope perf => exact Option.some.inj hs ▸ h.enter scope perf
  | send i message => exact h.send hs
  | leave i ending perf => exact h.leave hs
  | messageSent => exact Option.some.inj hs ▸ ⟨h.shows.websocketMessageSent upper, h.status⟩

theorem Shows.unclamped (h : Shows s.store (tally s.tasks)) : Unclamped s where
  http i call sent htask := by
    have hpos : 0 < s.tasks.countP Task.inFlight :=
      List.countP_pos_iff.mpr ⟨_, List.mem_of_getElem? htask, rfl⟩
    have hcount : s.store.httpRequestsInFlight = s.tasks.countP Task.inFlight := h.inFlight
    omega
  websocket i htask := by
    have hpos : 0 < s.tasks.countP Task.connected :=
      List.countP_pos_iff.mpr ⟨_, List.mem_of_getElem? htask, rfl⟩
    have hcount : s.store.websocketClientsCurrent = s.tasks.countP Task.connected := h.websockets
    omega

/-- In every state of every interleaving the counters are the numbers of calls, and no clamp
has anything to do. -/
theorem request_accounting_balances (upper : String → String) (perf : ℚ) (s : State)
    (h : Reach (step upper) anyStep (State.fresh perf) s) :
    Shows s.store (tally s.tasks) ∧ Unclamped s := by
  have hfresh : Balanced (State.fresh perf) :=
    ⟨⟨rfl, rfl, rfl, rfl, rfl, rfl⟩, fun _ _ hmem => absurd hmem List.not_mem_nil⟩
  have hbalanced := h.invariant hfresh fun _ _ _ hs _ hstep => hs.step hstep
  exact ⟨hbalanced.shows, hbalanced.shows.unclamped⟩

/-- Three requests overlap with a connection: one answers 200 and then raises, one is cancelled
before it has answered, and one has answered 404. -/
def overlapping : List Label :=
  [.enter ⟨some "http", some "GET"⟩ 0, .enter ⟨some "websocket", none⟩ 1,
   .enter ⟨some "http", some "POST"⟩ 2, .send 0 ⟨"http.response.start", some 200⟩,
   .leave 0 .raised 3, .leave 2 .cancelled 4, .enter ⟨some "http", some "GET"⟩ 5,
   .send 3 ⟨"http.response.start", some 404⟩, .send 3 ⟨"http.response.body", none⟩,
   .leave 3 .returned 6, .enter ⟨some "http", some "GET"⟩ 7]

theorem request_accounting_balances_overlapping :
    ∃ s, Reach (step id) anyStep (State.fresh 0) s ∧
      (s.tasks.map Task.finished = [true, false, true, true, false] ∧
        s.store.httpRequestErrorsTotal = 2) ∧
      Shows s.store (tally s.tasks) ∧ Unclamped s := by
  obtain ⟨s, hreach, hs⟩ : ∃ s, Reach (step id) anyStep (State.fresh 0) s ∧
      s.tasks.map Task.finished = [true, false, true, true, false] ∧
        s.store.httpRequestErrorsTotal = 2 :=
    exists_reach_of_mem_run overlapping (by decide +kernel)
  exact ⟨s, hreach, hs, request_accounting_balances id 0 s hreach⟩

end Middleware

end OvnApi.Monitor
