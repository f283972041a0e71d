import OvnApi.Monitor.Poller

/-! Starting and stopping live monitoring, by any number of threads. `start` makes the
thread under the lock, starts the services it reads, takes a first snapshot and only
then starts the thread it made; any of these may raise, and the thread is then never
started. -/

namespace OvnApi.Live

open OvnApi.Core Lib Monitor

inductive Call where
  | start
  | stop

inductive CallPc where
  | startEnter
  | startManager (tid : ℕ)
  | startScheduled (tid : ℕ)
  | startListener (tid : ℕ)
  | startRegister (tid : ℕ)
  | startRefresh (tid : ℕ)
  | startLaunch (tid : ℕ)
  | stopEnter
  | stopJoin (thread : Option ℕ)
  | stopListener
  | stopUnregister
  | stopScheduled
  | done
  | raised (exc : Exc)

def Call.entry : Call → CallPc
  | .start => .startEnter
  | .stop => .stopEnter

def CallPc.enters : CallPc → Bool
  | .startEnter => true
  | _ => false

/-- A `start` that has made a thread and not yet started it. -/
def CallPc.launching : CallPc → Bool
  | .startManager _ | .startScheduled _ | .startListener _ | .startRegister _ | .startRefresh _
  | .startLaunch _ => true
  | _ => false

/-- Code called at this point returns, or raises. -/
def CallPc.unless (next : CallPc) (a : Answer) : CallPc := a.raises.elim next .raised

structure Service where
  poller : Poller
  listenerRegistered : Bool

def callStep (s : Service) (a : Answer) : CallPc → Option (Service × CallPc)
  | .startEnter =>
    if s.poller.alive then some (s, .done)
    else some ({ s with poller := s.poller.spawn }, .startManager s.poller.workers.length)
  | .startManager tid => some (s, (CallPc.startScheduled tid).unless a)
  | .startScheduled tid => some (s, (CallPc.startListener tid).unless a)
  | .startListener tid =>
    if s.listenerRegistered then some (s, .startRefresh tid)
    else some ({ s with listenerRegistered := true }, .startRegister tid)
  | .startRegister tid => some (s, .startRefresh tid)
  | .startRefresh tid => some (s, (CallPc.startLaunch tid).unless a)
  | .startLaunch tid =>
    match s.poller.launch tid with
    | .ok poller => some ({ s with poller }, .done)
    | .error exc => some (s, .raised exc)
  | .stopEnter => some ({ s with poller := s.poller.signalStop }, .stopJoin s.poller.thread)
  | .stopJoin thread =>
    (s.poller.join thread a.timedOut).map fun
      | .ok () => (s, .stopListener)
      | .error exc => (s, .raised exc)
  | .stopListener =>
    if s.listenerRegistered then some ({ s with listenerRegistered := false }, .stopUnregister)
    else some (s, .stopScheduled)
  | .stopUnregister => some (s, .stopScheduled)
  | .stopScheduled => some (s, CallPc.done.unless a)
  | .done | .raised _ => none

/-! ### What the steps do to the workers -/

variable {s s' : Service} {a : Answer} {pc pc' : CallPc}

theorem CallPc.launching_unless (next : CallPc) (h : (next.unless a).launching = true) :
    next.launching = true := by
  unfold CallPc.unless at h
  cases hraises : a.raises with
  | none => simpa [hraises] using h
  | some exc => simp [hraises, CallPc.launching] at h

theorem callStep_effect (h : callStep s a pc = some (s', pc')) :
    CallEffect WorkerPc.active CallPc.launching (pc.enters = true ∧ s.poller.alive = false)
      s.poller.workers pc s'.poller.workers pc' := by
  cases pc with
  | done | raised => cases h
  | startEnter =>
    simp only [callStep] at h
    split_ifs at h with halive
    · cases h
      exact .go _ nofun
    · cases h
      exact s.poller.spawn_effect ⟨rfl, by simpa using halive⟩ _ _
  | startManager | startScheduled | startRegister | startRefresh =>
    cases h
    exact .go _ fun _ => rfl
  | startListener tid =>
    simp only [callStep] at h
    split_ifs at h <;> cases h <;>
      exact .go _ fun _ => rfl
  | startLaunch tid =>
    simp only [callStep] at h
    split at h
    · rename_i poller hlaunch
      cases h
      exact Poller.launch_effect hlaunch rfl rfl
    · cases h
      exact .go _ nofun
  | stopEnter | stopUnregister =>
    cases h
    exact .go _ nofun
  | stopJoin thread =>
    obtain ⟨joined, -, h⟩ := Option.map_eq_some_iff.mp h
    cases joined <;> cases h <;> exact .go _ nofun
  | stopListener =>
    simp only [callStep] at h
    split_ifs at h <;> cases h <;> exact .go _ nofun
  | stopScheduled =>
    cases h
    exact .go _ (CallPc.launching_unless .done)

def service : Polled Service Call CallPc Answer where
  poller := Service.poller
  setPoller s poller := { s with poller }
  entry := Call.entry
  callStep := callStep
  enters := CallPc.enters
  launching := CallPc.launching
  poller_setPoller _ _ := rfl
  launching_entry call := by cases call <;> rfl
  effect := callStep_effect

def init : Polled.State Service CallPc := ⟨⟨.init, false⟩, []⟩

end OvnApi.Live
