import Mathlib.Algebra.Order.Field.Rat
import Mathlib.Tactic.Linarith
import Mathlib.Tactic.Ring
import OvnApi.Lib.Prog

/-! Loops with a deadline. A program settles if it ends and does not set the clock back.
A `while` loop whose turn goes round only before the deadline, and takes some time when it
does, ends; the time left bounds its turns. -/

namespace OvnApi.Lib.Prog

variable {ω ε α β η ν κ : Type}

theorem ok_ne_outOfFuel (a : α) : (.ok a : Outcome ε α) ≠ .outOfFuel := fun h => by cases h

theorem raised_ne_outOfFuel (e : ε) : (.raised e : Outcome ε α) ≠ .outOfFuel := fun h => by cases h

theorem bind_bind (m : Prog ω ε α) (f : α → Prog ω ε β) (g : β → Prog ω ε κ) :
    (m >>= f) >>= g = m >>= fun a => f a >>= g := by
  funext w
  change Prog.bind (Prog.bind m f) g w = Prog.bind m (fun a => Prog.bind (f a) g) w
  unfold Prog.bind
  rcases m w with ⟨_ | _ | _, w'⟩ <;> rfl

theorem bind_outOfFuel {m : Prog ω ε α} {f : α → Prog ω ε β} {w : ω}
    (h : (m w).1 = .outOfFuel) : ((m >>= f) w).1 = .outOfFuel := by
  change (Prog.bind m f w).1 = _
  unfold Prog.bind
  rcases hr : m w with ⟨_ | _ | _, w'⟩
  · simp [hr] at h
  · simp [hr] at h
  · rfl

theorem attemptWith_outOfFuel (handles : ε → Option η) {v : ν} {m : Prog (ν × ω) ε α} {w : ω}
    (h : (m (v, w)).1 = .outOfFuel) : (attemptWith handles v m w).1 = .outOfFuel := by
  unfold attemptWith attempt
  rcases hr : m (v, w) with ⟨_ | _ | _, w'⟩
  · simp [hr] at h
  · simp [hr] at h
  · rfl

def Ends (m : Prog ω ε α) (w : ω) : Prop := (m w).1 ≠ .outOfFuel

theorem Ends.bind {m : Prog ω ε α} {f : α → Prog ω ε β} {w : ω} (hm : Ends m w)
    (hf : ∀ a w', m w = (.ok a, w') → Ends (f a) w') : Ends (m >>= f) w := by
  change (Prog.bind m f w).1 ≠ .outOfFuel
  unfold Prog.bind
  unfold Ends at hm
  rcases hr : m w with ⟨a | e | _, w'⟩
  · exact hf a w' hr
  · exact raised_ne_outOfFuel e
  · exact absurd (congrArg Prod.fst hr) hm

theorem Ends.attemptWith {handles : ε → Option η} {v : ν} {m : Prog (ν × ω) ε α} {w : ω}
    (hm : Ends m (v, w)) : Ends (Prog.attemptWith handles v m) w := by
  unfold Ends at hm ⊢
  unfold Prog.attemptWith Prog.attempt
  rcases hr : m (v, w) with ⟨a | e | _, w'⟩
  · exact ok_ne_outOfFuel _
  · cases hhandles : handles e <;> simp [hhandles]
  · exact absurd (congrArg Prod.fst hr) hm

/-! ### Programs that settle -/

/-- The program ends, and time does not go back. -/
def Settles (clock : ω → ℚ) (m : Prog ω ε α) : Prop :=
  ∀ w, Ends m w ∧ clock w ≤ clock (m w).2

abbrev Total (m : Prog ω ε α) : Prop := Settles (fun _ => 0) m

section Settles

variable {clock : ω → ℚ} {m : Prog ω ε α}

theorem Settles.wp {Q : α → ω → Prop} {w : ω} (h : Settles clock m)
    (hq : ∀ a w', clock w ≤ clock w' → Q a w') : Prog.wp m Q (fun _ _ => True) w := by
  refine wp_any (fun a w' hr => hq a w' ?_) fun _ _ _ => trivial
  have := (h w).2
  rwa [hr] at this

theorem Settles.pure (a : α) : Settles clock (Pure.pure a : Prog ω ε α) := fun _ =>
  ⟨ok_ne_outOfFuel a, le_rfl⟩

theorem Settles.raise (e : ε) : Settles clock (Prog.raise e : Prog ω ε α) := fun _ =>
  ⟨raised_ne_outOfFuel e, le_rfl⟩

theorem Settles.ofExcept (x : Except ε α) : Settles clock (Prog.ofExcept x : Prog ω ε α) := by
  cases x with
  | ok a => exact .pure a
  | error e => exact .raise e

theorem Settles.read {f : ω → α × ω} (h : ∀ w, clock w ≤ clock (f w).2) :
    Settles clock (Prog.read f : Prog ω ε α) := fun w => ⟨ok_ne_outOfFuel _, h w⟩

theorem Settles.bind {f : α → Prog ω ε β} (hm : Settles clock m)
    (hf : ∀ a, Settles clock (f a)) : Settles clock (m >>= f) := by
  intro w
  refine ⟨(hm w).1.bind fun a w' _ => (hf a w').1, ?_⟩
  have hfirst := (hm w).2
  change clock w ≤ clock (Prog.bind m f w).2
  unfold Prog.bind
  rcases hr : m w with ⟨a | e | _, w'⟩ <;> rw [hr] at hfirst
  · exact hfirst.trans (hf a w').2
  · exact hfirst
  · exact hfirst

theorem Settles.ite {p : Prop} [Decidable p] {m' : Prog ω ε α} (hm : Settles clock m)
    (hm' : Settles clock m') : Settles clock (if p then m else m') := by
  split_ifs
  · exact hm
  · exact hm'

theorem Settles.attempt {handles : ε → Option η} (hm : Settles clock m) :
    Settles clock (Prog.attempt handles m) := by
  intro w
  obtain ⟨hends, hlater⟩ := hm w
  unfold Ends at hends ⊢
  unfold Prog.attempt
  rcases hr : m w with ⟨a | e | _, w'⟩ <;> rw [hr] at hends hlater
  · exact ⟨ok_ne_outOfFuel _, hlater⟩
  · cases hhandles : handles e <;> simpa [hhandles] using hlater
  · exact absurd rfl hends

theorem Settles.forEach {body : κ → Prog ω ε Unit} (h : ∀ x, Settles clock (body x))
    (xs : List κ) : Settles clock (Prog.forEach body xs) := by
  induction xs with
  | nil => exact .pure ()
  | cons x xs ih => exact (h x).bind fun _ => ih

theorem Settles.tryFinally {fin : Prog ω ε β} (hm : Settles clock m) (hfin : Settles clock fin) :
    Settles clock (Prog.tryFinally m fin) := by
  intro w
  obtain ⟨hends, hlater⟩ := hm w
  unfold Ends at hends ⊢
  unfold Prog.tryFinally
  rcases hr : m w with ⟨a | e | _, w'⟩ <;> simp only [hr] at hends hlater ⊢
  · obtain ⟨hends', hlater'⟩ := hfin w'
    unfold Ends at hends'
    rcases hr' : fin w' with ⟨b | e | _, w''⟩ <;> simp only [hr'] at hends' hlater' ⊢
    · exact ⟨ok_ne_outOfFuel _, hlater.trans hlater'⟩
    · exact ⟨raised_ne_outOfFuel _, hlater.trans hlater'⟩
    · exact absurd rfl hends'
  · obtain ⟨hends', hlater'⟩ := hfin w'
    unfold Ends at hends'
    rcases hr' : fin w' with ⟨b | e | _, w''⟩ <;> simp only [hr'] at hends' hlater' ⊢
    · exact ⟨raised_ne_outOfFuel _, hlater.trans hlater'⟩
    · exact ⟨raised_ne_outOfFuel _, hlater.trans hlater'⟩
    · exact absurd rfl hends'
  · exact absurd rfl hends

theorem Settles.logging (entry : Except ε α → κ) (h : Settles clock m) :
    Settles (fun w : List κ × ω => clock w.2) (Prog.logging entry m) := by
  intro w
  obtain ⟨hends, hlater⟩ := h w.2
  unfold Ends at hends ⊢
  unfold Prog.logging
  rcases hr : m w.2 with ⟨a | e | _, w'⟩ <;> rw [hr] at hends hlater
  · exact ⟨ok_ne_outOfFuel _, hlater⟩
  · exact ⟨raised_ne_outOfFuel _, hlater⟩
  · exact absurd rfl hends

theorem Settles.lift (h : Settles clock m) :
    Settles (fun w : ν × ω => clock w.2) (Prog.lift m) := fun w => h w.2

theorem Settles.locals :
    Settles (fun w : ν × ω => clock w.2) (Prog.locals : Prog (ν × ω) ε ν) := fun _ =>
  ⟨ok_ne_outOfFuel _, le_rfl⟩

theorem Settles.setLocals (v : ν) :
    Settles (fun w : ν × ω => clock w.2) (Prog.setLocals v : Prog (ν × ω) ε Unit) := fun _ =>
  ⟨ok_ne_outOfFuel _, le_rfl⟩

theorem Total.lift (h : Total m) : Total (Prog.lift m : Prog (ν × ω) ε α) := Settles.lift h

theorem Total.locals : Total (Prog.locals : Prog (ν × ω) ε ν) := fun _ =>
  ⟨ok_ne_outOfFuel _, le_rfl⟩

theorem Total.setLocals (v : ν) : Total (Prog.setLocals v : Prog (ν × ω) ε Unit) := fun _ =>
  ⟨ok_ne_outOfFuel _, le_rfl⟩

theorem Total.logging (entry : Except ε α → κ) (h : Total m) : Total (Prog.logging entry m) :=
  Settles.logging entry h

end Settles

/-! ### Loops -/

/-- The number of turns that begin where `p` holds. -/
def turns (p : ω → Bool) (turn : Prog ω ε Bool) : ℕ → ω → ℕ
  | 0, _ => 0
  | n + 1, w =>
    (if p w then 1 else 0) +
      match turn w with
      | (.ok true, w') => turns p turn n w'
      | _ => 0

section Loop

variable {clock : ω → ℚ} {turn : Prog ω ε Bool} {p : ω → Bool} {deadline d : ℚ}

/-- A turn ends; it goes round only if it begins before the deadline, and takes `d` then. -/
structure TimedTurn (clock : ω → ℚ) (turn : Prog ω ε Bool) (p : ω → Bool) (deadline d : ℚ) :
    Prop where
  ends : ∀ w, Ends turn w
  reading : ∀ w, p w = true → clock w ≤ deadline
  again : ∀ w w', turn w = (.ok true, w') → p w = true ∧ clock w + d ≤ clock w'

theorem ends_whileFuel_succ {n : ℕ} {w : ω} (hends : Ends turn w)
    (hagain : ∀ w', turn w = (.ok true, w') → Ends (whileFuel turn n) w') :
    Ends (whileFuel turn (n + 1)) w := by
  refine hends.bind fun again w' hr => ?_
  cases again with
  | true => exact hagain w' hr
  | false => exact ok_ne_outOfFuel ()

/-- The loop ends with a turn for each `d` left before the deadline, and one more. -/
theorem TimedTurn.ends_whileFuel (ht : TimedTurn clock turn p deadline d) {n : ℕ} {w : ω}
    (h : deadline < clock w + n * d) : Ends (whileFuel turn (n + 1)) w := by
  induction n generalizing w with
  | zero =>
    refine ends_whileFuel_succ (ht.ends w) fun w' hr => ?_
    have hbegins := ht.reading w (ht.again w w' hr).1
    simp only [Nat.cast_zero, zero_mul, add_zero] at h
    linarith
  | succ n ih =>
    refine ends_whileFuel_succ (ht.ends w) fun w' hr => ih ?_
    have hlater := (ht.again w w' hr).2
    push_cast at h
    linarith

theorem TimedTurn.turns_eq_zero (ht : TimedTurn clock turn p deadline d) (n : ℕ) {w : ω}
    (h : p w = false) : turns p turn n w = 0 := by
  cases n with
  | zero => rfl
  | succ n =>
    simp only [turns, h, Bool.false_eq_true, if_false, zero_add]
    split
    · next w' hr => exact absurd (ht.again w w' hr).1 (by simp [h])
    · rfl

/-- The time left bounds the turns that begin before the deadline. -/
theorem TimedTurn.turns_le (ht : TimedTurn clock turn p deadline d) (n : ℕ) (w : ω)
    (hne : turns p turn n w ≠ 0) : ((turns p turn n w : ℚ) - 1) * d ≤ deadline - clock w := by
  induction n generalizing w with
  | zero => exact absurd rfl hne
  | succ n ih =>
    cases hbegins : p w with
    | false => exact absurd (ht.turns_eq_zero _ hbegins) hne
    | true =>
      have hleft := ht.reading w hbegins
      simp only [turns, hbegins, if_true]
      split
      · next w' hr =>
        -- the turn goes round: the rest is counted from `w'`
        have hlater := (ht.again w w' hr).2
        by_cases hrest : turns p turn n w' = 0
        · rw [hrest]
          norm_num
          linarith
        · have hcount := ih w' hrest
          push_cast
          linarith
      · norm_num
        linarith

/-- A turn that reads the clock, polls in time, and sleeps unless the poll has succeeded;
afterwards it does what `late` says. -/
def sleepingTurn (reading : ω → ℚ × ω) (inTime : ℚ → Bool) (poll : Prog ω ε Bool)
    (sleep : Prog ω ε Unit) (late : Prog ω ε Bool) : Prog ω ε Bool := do
  let t ← Prog.read reading
  if inTime t then
    if ← poll then pure false
    else
      sleep
      pure true
  else late

section SleepingTurn

variable {reading : ω → ℚ × ω} {inTime : ℚ → Bool} {poll : Prog ω ε Bool} {sleep : Prog ω ε Unit}
  {late : Prog ω ε Bool}

theorem sleepingTurn_timed (hreading : ∀ w, clock w ≤ (reading w).1)
    (hlater : ∀ w, clock w ≤ clock (reading w).2) (hin : ∀ t, inTime t = true → t ≤ deadline)
    (hpoll : Settles clock poll) (hlate : Settles clock late) (hd : 0 ≤ d)
    (hleave : ∀ w w', late w ≠ (.ok true, w'))
    (hsleep : ∀ w, Ends sleep w ∧ clock w + d ≤ clock (sleep w).2) :
    TimedTurn clock (sleepingTurn reading inTime poll sleep late) (fun w => inTime (reading w).1)
      deadline d where
  ends := by
    have hsettles : Settles clock sleep := fun w => ⟨(hsleep w).1, by linarith [(hsleep w).2]⟩
    have hturn : Settles clock (sleepingTurn reading inTime poll sleep late) :=
      (Settles.read hlater).bind fun t => .ite
        (hpoll.bind fun b => .ite (.pure false) (hsettles.bind fun _ => .pure true)) hlate
    exact fun w => (hturn w).1
  reading w h := (hreading w).trans (hin _ h)
  again := by
    intro w w' hr
    have hturn : wp (sleepingTurn reading inTime poll sleep late)
        (fun again w' => again = true → inTime (reading w).1 = true ∧ clock w + d ≤ clock w')
        (fun _ _ => True) w := by
      simp only [sleepingTurn, wp_bind, wp_read]
      refine (wp_ite _ _).mpr ⟨fun hin => ?_, fun _ => ?_⟩
      · refine (wp_bind _ _).mpr (hpoll.wp fun b w₁ hw₁ => ?_)
        refine (wp_ite _ _).mpr ⟨fun _ h => absurd h Bool.false_ne_true, fun _ => ?_⟩
        refine (wp_bind _ _).mpr (wp_any (fun _ w₂ hw₂ _ => ⟨hin, ?_⟩) fun _ _ _ => trivial)
        have hslept := (hsleep w₁).2
        rw [hw₂] at hslept
        linarith [hlater w]
      · exact wp_any (fun again w₁ hw₁ h => absurd (h ▸ hw₁) (hleave _ _)) fun _ _ _ => trivial
    exact wp_ok hturn hr rfl

end SleepingTurn

/-- A loop that can always go round once more never ends. -/
theorem whileFuel_outOfFuel {I : ω → Prop}
    (hturn : ∀ w, I w → ∃ w', turn w = (.ok true, w') ∧ I w') (n : ℕ) {w : ω} (hw : I w) :
    (whileFuel turn n w).1 = .outOfFuel := by
  induction n generalizing w with
  | zero => rfl
  | succ n ih =>
    obtain ⟨w', hr, hw'⟩ := hturn w hw
    change (Prog.bind turn _ w).1 = _
    unfold Prog.bind
    rw [hr]
    exact ih hw'

end Loop

end OvnApi.Lib.Prog
