import OvnApi.Lib.Transition

/-! Services that keep a worker thread. Calls make worker threads and start them
later; workers come to an end by themselves. The load of a service is the number of
its active workers and of the calls that have made a worker and not yet started it.
If a call makes a worker only when the load is zero, there is never more than one
active worker, whichever worker a call starts in the end. -/

namespace OvnApi.Lib

variable {ω κ : Type}

/-- No worker is active but the one that the service keeps in `self._thread`: no `stop` has
given up waiting for one. -/
def noneLeft (active : ω → Bool) (thread : Option ℕ) (ws : List ω) : Bool :=
  (List.range ws.length).all fun t => thread == some t || !ws[t]?.any active

/-- No call has a worker to start. -/
def noneStarting (launching : κ → Bool) (cs : List κ) : Bool := cs.all fun c => !launching c

/-- Nothing runs and nothing is about to. -/
def idle (active : ω → Bool) (launching : κ → Bool) (ws : List ω) (cs : List κ) : Bool :=
  ws.all (fun w => !active w) && noneStarting launching cs

/-- What a step of a call may do to the workers, when it makes one only under `spawns`. -/
inductive CallEffect (active : ω → Bool) (launching : κ → Bool) (spawns : Prop) (ws : List ω)
    (c : κ) : List ω → κ → Prop where
  /-- It goes on, or gives up. -/
  | go (c' : κ) (hle : launching c' = true → launching c = true) :
      CallEffect active launching spawns ws c ws c'
  /-- It makes a worker. -/
  | spawn (c' : κ) (w : ω) (hspawns : spawns) (hw : active w = false) :
      CallEffect active launching spawns ws c (ws ++ [w]) c'
  /-- It starts a worker. -/
  | launch (c' : κ) (t : ℕ) (w : ω) (hc : launching c = true) (hc' : launching c' = false) :
      CallEffect active launching spawns ws c (ws.set t w) c'

inductive CrewStep (active : ω → Bool) (launching : κ → Bool) (ws : List ω) (cs : List κ) :
    List ω → List κ → Prop where
  /-- A call comes in. -/
  | enter (c : κ) (hc : launching c = false) : CrewStep active launching ws cs ws (cs ++ [c])
  | call (i : ℕ) (c c' : κ) (ws' : List ω) (hi : cs[i]? = some c)
      (heffect : CallEffect active launching (idle active launching ws cs = true) ws c ws' c') :
      CrewStep active launching ws cs ws' (cs.set i c')
  /-- A worker goes on, or ends. -/
  | work (t : ℕ) (w w' : ω) (ht : ws[t]? = some w) (hle : active w' = true → active w = true) :
      CrewStep active launching ws cs (ws.set t w') cs
  /-- The process ends and begins anew. -/
  | restart : CrewStep active launching ws cs [] []

/-! ### The load -/

variable {active : ω → Bool} {launching : κ → Bool} {ws ws' : List ω} {cs cs' : List κ} {c c' : κ}

theorem CallEffect.imp {P Q : Prop} (h : CallEffect active launching P ws c ws' c') (hPQ : P → Q) :
    CallEffect active launching Q ws c ws' c' := by
  cases h with
  | go _ hle => exact .go _ hle
  | spawn _ w hspawns hw => exact .spawn _ w (hPQ hspawns) hw
  | launch _ t w hc hc' => exact .launch _ t w hc hc'

section Check

variable {thread : Option ℕ} {enters : Prop} {i : ℕ}

/-- The check of `is_alive` sees the worker that the service keeps, and only that one. -/
theorem idle_of_not_alive (halive : (thread.bind (ws[·]?)).any active = false)
    (hleft : noneLeft active thread ws = true) (hstarting : noneStarting launching cs = true) :
    idle active launching ws cs = true := by
  refine Bool.and_eq_true_iff.mpr ⟨List.all_eq_true.mpr fun w hw => ?_, hstarting⟩
  obtain ⟨t, hlt, rfl⟩ := List.mem_iff_getElem.mp hw
  have hget : ws[t]? = some ws[t] := List.getElem?_eq_getElem hlt
  rcases Bool.or_eq_true_iff.mp (List.all_eq_true.mp hleft t (List.mem_range.mpr hlt)) with
    hkept | hother
  · obtain rfl := eq_of_beq hkept
    simpa [hget] using halive
  · simpa [hget] using hother

theorem CrewStep.of_call (hi : cs[i]? = some c)
    (heffect : CallEffect active launching (enters ∧ (thread.bind (ws[·]?)).any active = false)
      ws c ws' c')
    (hok : enters ∧ (thread.bind (ws[·]?)).any active = false →
      noneLeft active thread ws = true ∧ noneStarting launching cs = true) :
    CrewStep active launching ws cs ws' (cs.set i c') := by
  refine .call i c c' ws' hi (heffect.imp fun hspawns => ?_)
  obtain ⟨hleft, hstarting⟩ := hok hspawns
  exact idle_of_not_alive hspawns.2 hleft hstarting

end Check

def load (active : ω → Bool) (launching : κ → Bool) (ws : List ω) (cs : List κ) : ℕ :=
  ws.countP active + cs.countP launching

theorem load_of_idle (h : idle active launching ws cs = true) : load active launching ws cs = 0 := by
  obtain ⟨hws, hcs⟩ := Bool.and_eq_true_iff.mp h
  have hworkers : ws.countP active = 0 := by simpa [List.countP_eq_zero] using hws
  have hcalls : cs.countP launching = 0 := by simpa [List.countP_eq_zero, noneStarting] using hcs
  rw [load, hworkers, hcalls]

variable {α : Type} {p : α → Bool} {l : List α} {i : ℕ}

theorem countP_set_le (y : α) : (l.set i y).countP p ≤ l.countP p + if p y then 1 else 0 := by
  by_cases hi : i < l.length
  · rw [List.countP_set hi]
    omega
  · rw [List.set_eq_of_length_le (by omega)]
    omega

/-- Replacing an element that counts makes room for one. -/
theorem countP_set_of_pos {x : α} (hi : l[i]? = some x) (hx : p x = true) (y : α) :
    (l.set i y).countP p + 1 = l.countP p + if p y then 1 else 0 := by
  obtain ⟨hlt, rfl⟩ := List.getElem?_eq_some_iff.mp hi
  have hpos : 0 < l.countP p := List.countP_pos_iff.mpr ⟨_, List.getElem_mem hlt, hx⟩
  rw [List.countP_set hlt, if_pos hx]
  omega

theorem countP_set_of_imp {x y : α} (hi : l[i]? = some x) (hle : p y = true → p x = true) :
    (l.set i y).countP p ≤ l.countP p := by
  cases hy : p y with
  | false => simpa [hy] using countP_set_le (p := p) (l := l) (i := i) y
  | true =>
    have heq := countP_set_of_pos hi (hle hy) y
    rw [hy] at heq
    simp only [↓reduceIte, Nat.add_right_cancel_iff] at heq
    exact Nat.le_of_eq heq

/-- A step raises the load only from zero to one. -/
theorem CrewStep.load_le (h : CrewStep active launching ws cs ws' cs') :
    load active launching ws' cs' ≤ load active launching ws cs ∨
      load active launching ws cs = 0 ∧ load active launching ws' cs' ≤ 1 := by
  cases h with
  | enter c hc =>
    left
    simp [load, hc]
  | call i c c' _ hi heffect =>
    cases heffect with
    | go _ hle =>
      left
      exact Nat.add_le_add_left (countP_set_of_imp hi hle) _
    | spawn _ w hidle hw =>
      right
      have hzero := load_of_idle hidle
      refine ⟨hzero, ?_⟩
      have hcalls := countP_set_le (p := launching) (l := cs) (i := i) c'
      rw [load] at hzero ⊢
      rw [List.countP_append, List.countP_singleton, hw]
      split_ifs at hcalls <;> simp only [Bool.false_eq_true, ↓reduceIte] <;> omega
    | launch _ t w hc hc' =>
      left
      have hcalls := countP_set_of_pos hi hc c'
      have hworkers := countP_set_le (p := active) (l := ws) (i := t) w
      rw [hc'] at hcalls
      simp only [Bool.false_eq_true, ↓reduceIte] at hcalls
      rw [load, load]
      split_ifs at hworkers <;> omega
  | work t w w' ht hle =>
    left
    exact Nat.add_le_add_right (countP_set_of_imp ht hle) _
  | restart =>
    left
    exact Nat.zero_le _

/-- The rule for a service whose steps are such steps. -/
theorem Reach.one_worker {σ ℓ : Type} {step : σ → ℓ → Option σ} {ok : σ → ℓ → Prop} {s₀ s : σ}
    (workers : σ → List ω) (calls : σ → List κ) (hworkers : workers s₀ = []) (hcalls : calls s₀ = [])
    (hstep : ∀ s l s', ok s l → step s l = some s' →
      CrewStep active launching (workers s) (calls s) (workers s') (calls s'))
    (h : Reach step ok s₀ s) : (workers s).countP active ≤ 1 := by
  have hload : load active launching (workers s) (calls s) ≤ 1 := by
    apply Reach.at_most_one (fun s => load active launching (workers s) (calls s)) _ _ h
    · rw [hworkers, hcalls]
      exact Nat.zero_le _
    · intro s l s' hok hl
      exact (hstep s l s' hok hl).load_le
  exact Nat.le_trans (Nat.le_add_right _ _) hload

end OvnApi.Lib
