import OvnApi.Core.Python
import OvnApi.Lib.Crew

/-! The thread that live monitoring and the CPU monitor each keep: it waits on the stop
event for an interval, refreshes, and waits again. Both services have the same three
fields for it, and their `start` and `stop` treat them alike under the lock. -/

namespace OvnApi.Monitor

open OvnApi.Core Lib

/-- Where a thread stands; it is `created` until `thread.start()`. -/
inductive WorkerPc where
  | created
  | waiting
  | refreshing
  | finished
  deriving DecidableEq

def WorkerPc.active : WorkerPc → Bool
  | .created | .finished => false
  | .waiting | .refreshing => true

/-- One step of `_run`. A refresh that raises makes no difference: the one service goes
on with its loop, the other keeps the text of the exception. -/
def WorkerPc.next (stopEvent : Bool) : WorkerPc → Option WorkerPc
  | .waiting => some (if stopEvent then .finished else .refreshing)
  | .refreshing => some .waiting
  | .created | .finished => none

structure Poller where
  thread : Option ℕ
  stopEvent : Bool
  workers : List WorkerPc
  deriving DecidableEq

namespace Poller

/-- The fields as `__init__` sets them. -/
def init : Poller := ⟨none, false, []⟩

/-- `self._thread is not None and self._thread.is_alive()`. -/
def alive (p : Poller) : Bool := (p.thread.bind (p.workers[·]?)).any WorkerPc.active

/-- The block of `start`, past the check that no worker is alive. -/
def spawn (p : Poller) : Poller where
  thread := some p.workers.length
  stopEvent := false
  workers := p.workers ++ [.created]

/-- The block of `stop`. -/
def signalStop (p : Poller) : Poller := { p with thread := none, stopEvent := true }

/-- `thread.start()`, which raises on a thread that was started before. -/
def launch (p : Poller) (tid : ℕ) : Except Exc Poller :=
  match p.workers[tid]? with
  | some .created => .ok { p with workers := p.workers.set tid .waiting }
  | _ => .error (.other "RuntimeError" "threads can only be started once")

/-- `if thread is not None: thread.join(timeout)`: nothing while the join is waiting. It
raises on a thread that has not been started. -/
def join (p : Poller) (thread : Option ℕ) (timedOut : Bool) : Option (Except Exc Unit) :=
  match thread.bind (p.workers[·]?) with
  | none | some .finished => some (.ok ())
  | some .created => some (.error (.other "RuntimeError" "cannot join thread before it is started"))
  | some .waiting | some .refreshing => if timedOut then some (.ok ()) else none

def work (p : Poller) (tid : ℕ) : Option Poller := do
  let pc ← p.workers[tid]?
  let pc' ← pc.next p.stopEvent
  pure { p with workers := p.workers.set tid pc' }

end Poller

/-- What the environment answers to a step of a call: whether the code called there
raises, and whether a join gives up. -/
structure Answer where
  raises : Option Exc
  timedOut : Bool

/-! ### What the steps do to the workers -/

section Effects

variable {p p' : Poller} {κ : Type} {launching : κ → Bool} {spawns : Prop} {cs : List κ} {c c' : κ}

theorem WorkerPc.active_of_next {stopEvent : Bool} {pc pc' : WorkerPc}
    (h : pc.next stopEvent = some pc') : pc.active = true := by
  cases pc with
  | created | finished => cases h
  | waiting | refreshing => rfl

theorem Poller.work_crewStep {tid : ℕ} (h : p.work tid = some p') :
    CrewStep WorkerPc.active launching p.workers cs p'.workers cs := by
  obtain ⟨pc, hpc, h⟩ := Option.bind_eq_some_iff.mp h
  obtain ⟨pc', hnext, h⟩ := Option.bind_eq_some_iff.mp h
  obtain rfl := Option.some.inj h
  exact .work tid pc pc' hpc fun _ => WorkerPc.active_of_next hnext

theorem Poller.spawn_effect (hspawns : spawns) (c c' : κ) :
    CallEffect WorkerPc.active launching spawns p.workers c p.spawn.workers c' :=
  .spawn c' WorkerPc.created hspawns rfl

theorem Poller.launch_effect {tid : ℕ} (h : p.launch tid = .ok p') (hc : launching c = true)
    (hc' : launching c' = false) :
    CallEffect WorkerPc.active launching spawns p.workers c p'.workers c' := by
  unfold Poller.launch at h
  split at h
  · obtain rfl := Except.ok.inj h
    exact .launch c' tid WorkerPc.waiting hc hc'
  · cases h

end Effects

/-! ### Services with a poller -/

/-- How a service keeps its poller, and what its calls do: they make a thread only at a point
that `enters` the block of `start`, where no worker is alive, and are `launching` it until they
start it. -/
structure Polled (σ γ κ α : Type) where
  poller : σ → Poller
  setPoller : σ → Poller → σ
  entry : γ → κ
  callStep : σ → α → κ → Option (σ × κ)
  enters : κ → Bool
  launching : κ → Bool
  poller_setPoller : ∀ s p, poller (setPoller s p) = p
  launching_entry : ∀ call, launching (entry call) = false
  effect : ∀ {s a pc s' pc'}, callStep s a pc = some (s', pc') →
    CallEffect WorkerPc.active launching (enters pc = true ∧ (poller s).alive = false)
      (poller s).workers pc (poller s').workers pc'

namespace Polled

variable {σ γ κ α : Type}

/-- The service, and the calls of any number of threads. -/
structure State (σ κ : Type) where
  service : σ
  calls : List κ

inductive Label (γ α : Type) where
  | enter (call : γ)
  | call (i : ℕ) (a : α)
  | worker (tid : ℕ)

def step (P : Polled σ γ κ α) (s : State σ κ) : Label γ α → Option (State σ κ)
  | .enter call => some { s with calls := s.calls ++ [P.entry call] }
  | .call i a => do
    let pc ← s.calls[i]?
    let (service, pc') ← P.callStep s.service a pc
    pure { service, calls := s.calls.set i pc' }
  | .worker tid => do
    let p ← (P.poller s.service).work tid
    pure { s with service := P.setPoller s.service p }

/-- The step is a `start` that finds no worker alive. -/
def spawns (P : Polled σ γ κ α) (s : State σ κ) : Label γ α → Bool
  | .call i _ => s.calls[i]?.any P.enters && !(P.poller s.service).alive
  | _ => false

/-- Where a `start` makes a thread, no worker is left from before a `stop` and no other
`start` is between making its thread and starting it. -/
def OneAtATime (P : Polled σ γ κ α) (s : State σ κ) (l : Label γ α) : Prop :=
  P.spawns s l = true →
    noneLeft WorkerPc.active (P.poller s.service).thread (P.poller s.service).workers = true ∧
      noneStarting P.launching s.calls = true

instance (P : Polled σ γ κ α) (s : State σ κ) (l : Label γ α) : Decidable (P.OneAtATime s l) :=
  inferInstanceAs (Decidable (_ → _))

variable {P : Polled σ γ κ α} {s s' s₀ : State σ κ} {l : Label γ α}

theorem step_crewStep (h : P.step s l = some s') (hok : P.OneAtATime s l) :
    CrewStep WorkerPc.active P.launching (P.poller s.service).workers s.calls
      (P.poller s'.service).workers s'.calls := by
  cases l with
  | enter call =>
    obtain rfl := Option.some.inj h
    exact .enter _ (P.launching_entry call)
  | call i a =>
    obtain ⟨pc, hpc, h⟩ := Option.bind_eq_some_iff.mp h
    obtain ⟨⟨service, pc'⟩, hstep, h⟩ := Option.bind_eq_some_iff.mp h
    obtain rfl := Option.some.inj h
    refine .of_call hpc (P.effect hstep) fun hspawns => hok ?_
    have halive : (P.poller s.service).alive = false := hspawns.2
    simp [spawns, hpc, hspawns.1, halive]
  | worker tid =>
    obtain ⟨p, hwork, h⟩ := Option.bind_eq_some_iff.mp h
    obtain rfl := Option.some.inj h
    simp only [P.poller_setPoller]
    exact Poller.work_crewStep hwork

theorem at_most_one (hworkers : (P.poller s₀.service).workers = []) (hcalls : s₀.calls = [])
    (h : Reach P.step P.OneAtATime s₀ s) :
    (P.poller s.service).workers.countP WorkerPc.active ≤ 1 :=
  h.one_worker (fun s => (P.poller s.service).workers) State.calls hworkers hcalls
    fun _ _ _ hok hstep => step_crewStep hstep hok

end Polled

end OvnApi.Monitor
