import OvnApi.Monitor.Poller

/-! Starting and stopping the CPU monitor, by any number of threads. Unlike the other
services `start` keeps no reference to the thread it made: after the first sample it
reads `self._thread` twice more, once for the assertion and once to start it. -/

namespace OvnApi.Cpu

open OvnApi.Core Lib Monitor

inductive Call where
  | start
  | stop

inductive CallPc where
  | startEnter
  | startRefresh
  | startAssert
  | startRead
  | startLaunch (tid : ℕ)
  | stopEnter
  | stopJoin (thread : Option ℕ)
  | done
  | raised (exc : Exc)

def Call.entry : Call → CallPc
  | .start => .startEnter
  | .stop => .stopEnter

def CallPc.enters : CallPc → Bool
  | .startEnter => true
  | _ => false

/-- A `start` that has made a thread and not yet started one. -/
def CallPc.launching : CallPc → Bool
  | .startRefresh | .startAssert | .startRead | .startLaunch _ => true
  | _ => false

/-- One step of a call; `timedOut` ends a join early. -/
def callStep (p : Poller) (timedOut : Bool) : CallPc → Option (Poller × CallPc)
  | .startEnter => if p.alive then some (p, .done) else some (p.spawn, .startRefresh)
  | .startRefresh => some (p, .startAssert)
  | .startAssert =>
    some (p, if p.thread.isSome then .startRead else .raised (.other "AssertionError" ""))
  | .startRead =>
    match p.thread with
    | some tid => some (p, .startLaunch tid)
    | none =>
      some (p, .raised (.other "AttributeError" "'NoneType' object has no attribute 'start'"))
  | .startLaunch tid =>
    match p.launch tid with
    | .ok p' => some (p', .done)
    | .error exc => some (p, .raised exc)
  | .stopEnter => some (p.signalStop, .stopJoin p.thread)
  | .stopJoin thread =>
    (p.join thread timedOut).map fun
      | .ok () => (p, .done)
      | .error exc => (p, .raised exc)
  | .done | .raised _ => none

/-! ### What the steps do to the workers -/

variable {p p' : Poller} {timedOut : Bool} {pc pc' : CallPc}

theorem callStep_effect (h : callStep p timedOut pc = some (p', pc')) :
    CallEffect WorkerPc.active CallPc.launching (pc.enters = true ∧ p.alive = false)
      p.workers pc p'.workers pc' := by
  cases pc with
  | done | raised => cases h
  | startEnter =>
    simp only [callStep] at h
    split_ifs at h with halive
    · cases h
      exact .go _ nofun
    · cases h
      exact p.spawn_effect ⟨rfl, by simpa using halive⟩ _ _
  | startRefresh | startAssert =>
    cases h
    exact .go _ fun _ => rfl
  | startRead =>
    simp only [callStep] at h
    split at h <;> cases h <;>
      exact .go _ fun _ => rfl
  | startLaunch tid =>
    simp only [callStep] at h
    split at h
    · rename_i poller hlaunch
      cases h
      exact Poller.launch_effect hlaunch rfl rfl
    · cases h
      exact .go _ nofun
  | stopEnter =>
    cases h
    exact .go _ nofun
  | stopJoin thread =>
    obtain ⟨joined, -, h⟩ := Option.map_eq_some_iff.mp h
    cases joined <;> cases h <;> exact .go _ nofun

def service : Polled Poller Call CallPc Bool where
  poller := id
  setPoller _ p := p
  entry := Call.entry
  callStep := callStep
  enters := CallPc.enters
  launching := CallPc.launching
  poller_setPoller _ _ := rfl
  launching_entry call := by cases call <;> rfl
  effect := callStep_effect

def init : Polled.State Poller CallPc := ⟨.init, []⟩

end OvnApi.Cpu
