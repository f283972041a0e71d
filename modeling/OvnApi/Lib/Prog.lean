import Mathlib.Tactic.Common

/-! Programs over a world that may raise exceptions and may run out of fuel.
The world reached is kept when an exception leaves a program, so a handler and
a finalizer see the effects made before it. A `while` loop takes its number of
turns as fuel. The rules compute weakest preconditions of the combinators; the
loop rules ask for an invariant. They speak about the runs that end; that a
loop ends is a separate obligation, discharged with a decreasing measure. -/

namespace OvnApi.Lib

/-- How a run ends: with a value, with an exception, or not within its fuel. -/
inductive Outcome (ε α : Type) where
  | ok (value : α)
  | raised (exc : ε)
  | outOfFuel
  deriving DecidableEq, Repr

/-- What is raised, if something is, is in `P`. -/
def Outcome.Within {ε α : Type} (P : ε → Prop) : Outcome ε α → Prop
  | .raised e => P e
  | _ => True

/-- A program maps the world it starts in to its outcome and the world it leaves. -/
def Prog (ω ε α : Type) : Type := ω → Outcome ε α × ω

namespace Prog

variable {ω ε α β η κ ν : Type}

protected def pure (a : α) : Prog ω ε α := fun w => (.ok a, w)

protected def bind (m : Prog ω ε α) (f : α → Prog ω ε β) : Prog ω ε β := fun w =>
  match m w with
  | (.ok a, w') => f a w'
  | (.raised e, w') => (.raised e, w')
  | (.outOfFuel, w') => (.outOfFuel, w')

instance : Monad (Prog ω ε) where
  pure := Prog.pure
  bind := Prog.bind

def raise (e : ε) : Prog ω ε α := fun w => (.raised e, w)

theorem bind_of_ok {m : Prog ω ε α} {f : α → Prog ω ε β} {w w' : ω} {a : α}
    (h : m w = (.ok a, w')) : (m >>= f) w = f a w' := by
  change Prog.bind m f w = _
  simp only [Prog.bind, h]

theorem bind_of_raised {m : Prog ω ε α} {f : α → Prog ω ε β} {w w' : ω} {e : ε}
    (h : m w = (.raised e, w')) : (m >>= f) w = (.raised e, w') := by
  change Prog.bind m f w = _
  simp only [Prog.bind, h]

/-- A computation that only fails or returns, as a program. -/
def ofExcept : Except ε α → Prog ω ε α
  | .ok a => pure a
  | .error e => raise e

/-- A read of the world that cannot raise, such as a clock. -/
def read (f : ω → α × ω) : Prog ω ε α := fun w => (.ok (f w).1, (f w).2)

/-- `try m except`: an exception that `handles` accepts becomes a value, any
other one leaves. -/
def attempt (handles : ε → Option η) (m : Prog ω ε α) : Prog ω ε (Except η α) := fun w =>
  match m w with
  | (.ok a, w') => (.ok (.ok a), w')
  | (.raised e, w') =>
    match handles e with
    | some x => (.ok (.error x), w')
    | none => (.raised e, w')
  | (.outOfFuel, w') => (.outOfFuel, w')

/-- `try m finally fin`: the finalizer runs however `m` ends, and an exception
of its own replaces the one it interrupts. -/
def tryFinally (m : Prog ω ε α) (fin : Prog ω ε β) : Prog ω ε (α × β) := fun w =>
  match m w with
  | (.ok a, w') =>
    match fin w' with
    | (.ok b, w'') => (.ok (a, b), w'')
    | (.raised e, w'') => (.raised e, w'')
    | (.outOfFuel, w'') => (.outOfFuel, w'')
  | (.raised e, w') =>
    match fin w' with
    | (.ok _, w'') => (.raised e, w'')
    | (.raised e', w'') => (.raised e', w'')
    | (.outOfFuel, w'') => (.outOfFuel, w'')
  | (.outOfFuel, w') => (.outOfFuel, w')

def forEach (body : κ → Prog ω ε Unit) : List κ → Prog ω ε Unit
  | [] => pure ()
  | x :: xs => do
    body x
    forEach body xs

/-- `while`: a turn answers whether to go round again. -/
def whileFuel (turn : Prog ω ε Bool) : ℕ → Prog ω ε Unit
  | 0 => fun w => (.outOfFuel, w)
  | n + 1 => do
    if ← turn then whileFuel turn n else pure ()

section Locals

/-! Local variables stand in front of the world, so that a handler reads the
values they had when the exception left the block. -/

def lift (m : Prog ω ε α) : Prog (ν × ω) ε α := fun w =>
  ((m w.2).1, (w.1, (m w.2).2))

def locals : Prog (ν × ω) ε ν := fun w => (.ok w.1, w)

def setLocals (v : ν) : Prog (ν × ω) ε Unit := fun w => (.ok (), (v, w.2))

/-- Run a block with local variables and hand them out together with the
exception that ended it, if `handles` accepts it. -/
def attemptWith (handles : ε → Option η) (v : ν) (m : Prog (ν × ω) ε α) :
    Prog ω ε (ν × Except η α) := fun w =>
  match attempt handles m (v, w) with
  | (.ok r, (v', w')) => (.ok (v', r), w')
  | (.raised e, (_, w')) => (.raised e, w')
  | (.outOfFuel, (_, w')) => (.outOfFuel, w')

end Locals

/-- Record the answer of an operation at the end of a log in front of the world. -/
def logging (entry : Except ε α → κ) (m : Prog ω ε α) : Prog (List κ × ω) ε α := fun w =>
  match m w.2 with
  | (.ok a, w') => (.ok a, (w.1 ++ [entry (.ok a)], w'))
  | (.raised e, w') => (.raised e, (w.1 ++ [entry (.error e)], w'))
  | (.outOfFuel, w') => (.outOfFuel, (w.1, w'))

/-! ### Weakest preconditions -/

/-- `m` started in `w` ends in `Q`, raises into `E`, or does not end. -/
def wp (m : Prog ω ε α) (Q : α → ω → Prop) (E : ε → ω → Prop) (w : ω) : Prop :=
  match m w with
  | (.ok a, w') => Q a w'
  | (.raised e, w') => E e w'
  | (.outOfFuel, _) => True

variable {Q Q' : α → ω → Prop} {E E' : ε → ω → Prop} {w w' : ω}

theorem wp_ok {m : Prog ω ε α} {a : α} (h : wp m Q E w) (hr : m w = (.ok a, w')) : Q a w' := by
  simpa [wp, hr] using h

theorem wp_raised {m : Prog ω ε α} {e : ε} (h : wp m Q E w) (hr : m w = (.raised e, w')) :
    E e w' := by
  simpa [wp, hr] using h

theorem wp_mono {m : Prog ω ε α} (h : wp m Q E w) (hq : ∀ a w', Q a w' → Q' a w')
    (he : ∀ e w', E e w' → E' e w') : wp m Q' E' w := by
  unfold wp at h ⊢
  split at h
  · exact hq _ _ h
  · exact he _ _ h
  · trivial

/-- The outcome that the postcondition speaks about is the one of this run. -/
theorem wp_run {m : Prog ω ε α} (h : wp m Q E w) :
    wp m (fun a w' => Q a w' ∧ m w = (.ok a, w')) (fun e w' => E e w' ∧ m w = (.raised e, w')) w := by
  unfold wp at h ⊢
  rcases hrun : m w with ⟨_ | _ | _, w'⟩ <;> simp_all

/-- A run that returns what it should, as a test. -/
def returns (m : Prog ω ε α) (p : α → ω → Bool) (w : ω) : Bool :=
  match m w with
  | (.ok a, w') => p a w'
  | _ => false

theorem exists_of_returns {m : Prog ω ε α} {p : α → ω → Bool} (h : returns m p w = true) :
    ∃ a w', m w = (.ok a, w') ∧ p a w' = true := by
  unfold returns at h
  rcases hrun : m w with ⟨a | _ | _, w'⟩ <;> rw [hrun] at h
  · exact ⟨a, w', rfl, h⟩
  · cases h
  · cases h

@[simp] theorem wp_pure (a : α) : wp (pure a : Prog ω ε α) Q E w ↔ Q a w := Iff.rfl

@[simp] theorem wp_raise (e : ε) : wp (raise e : Prog ω ε α) Q E w ↔ E e w := Iff.rfl

@[simp] theorem wp_read (f : ω → α × ω) :
    wp (read f : Prog ω ε α) Q E w ↔ Q (f w).1 (f w).2 := Iff.rfl

@[simp] theorem wp_bind (m : Prog ω ε β) (f : β → Prog ω ε α) :
    wp (m >>= f) Q E w ↔ wp m (fun b w' => wp (f b) Q E w') E w := by
  change wp (Prog.bind m f) Q E w ↔ _
  unfold wp Prog.bind
  rcases m w with ⟨_ | _ | _, _⟩ <;> rfl

theorem wp_ite {p : Prop} [Decidable p] (m m' : Prog ω ε α) :
    wp (if p then m else m') Q E w ↔ (p → wp m Q E w) ∧ (¬p → wp m' Q E w) := by
  by_cases hp : p <;> simp [hp]

theorem wp_attempt (handles : ε → Option η) (m : Prog ω ε α) (R : Except η α → ω → Prop) :
    wp (attempt handles m) R E w ↔
      wp m (fun a w' => R (.ok a) w')
        (fun e w' => match handles e with | some x => R (.error x) w' | none => E e w') w := by
  unfold wp attempt
  rcases m w with ⟨a | e | _, w'⟩
  · rfl
  · cases h : handles e <;> simp [h]
  · rfl

theorem wp_tryFinally (m : Prog ω ε α) (fin : Prog ω ε β) (R : α × β → ω → Prop) :
    wp (tryFinally m fin) R E w ↔
      wp m (fun a w' => wp fin (fun b w'' => R (a, b) w'') E w')
        (fun e w' => wp fin (fun _ w'' => E e w'') E w') w := by
  unfold wp tryFinally
  rcases m w with ⟨_ | _ | _, w'⟩
  · rcases h : fin w' with ⟨_ | _ | _, _⟩ <;> simp [h]
  · rcases h : fin w' with ⟨_ | _ | _, _⟩ <;> simp [h]
  · rfl

/-- A `while` loop whose turn keeps `I` until it leaves into the postcondition. -/
theorem wp_whileFuel {I : ω → Prop} {R : Unit → ω → Prop} (turn : Prog ω ε Bool)
    (hturn : ∀ w, I w → wp turn (fun again w' => if again then I w' else R () w') E w)
    (n : ℕ) : ∀ w, I w → wp (whileFuel turn n) R E w := by
  induction n with
  | zero => intro w _; trivial
  | succ n ih =>
    intro w hw
    simp only [whileFuel, wp_bind]
    refine wp_mono (hturn w hw) ?_ (fun _ _ he => he)
    intro again w' hw'
    cases again with
    | true => exact ih w' hw'
    | false => exact hw'

@[simp] theorem wp_lift (m : Prog ω ε α) (R : α → ν × ω → Prop) (F : ε → ν × ω → Prop)
    (w : ν × ω) :
    wp (lift m) R F w ↔ wp m (fun a w' => R a (w.1, w')) (fun e w' => F e (w.1, w')) w.2 := by
  unfold wp lift
  rcases m w.2 with ⟨_ | _ | _, _⟩ <;> rfl

@[simp] theorem wp_locals (R : ν → ν × ω → Prop) (F : ε → ν × ω → Prop) (w : ν × ω) :
    wp locals R F w ↔ R w.1 w := Iff.rfl

@[simp] theorem wp_setLocals (v : ν) (R : Unit → ν × ω → Prop) (F : ε → ν × ω → Prop)
    (w : ν × ω) : wp (setLocals v) R F w ↔ R () (v, w.2) := Iff.rfl

theorem wp_attemptWith (handles : ε → Option η) (v : ν) (m : Prog (ν × ω) ε α)
    (R : ν × Except η α → ω → Prop) :
    wp (attemptWith handles v m) R E w ↔
      wp m (fun a w' => R (w'.1, .ok a) w'.2)
        (fun e w' => match handles e with
          | some x => R (w'.1, .error x) w'.2
          | none => E e w'.2) (v, w) := by
  unfold wp attemptWith attempt
  rcases m (v, w) with ⟨a | e | _, w'⟩
  · rfl
  · cases h : handles e <;> simp [h]
  · rfl

theorem wp_ofExcept (x : Except ε α) :
    wp (ofExcept x : Prog ω ε α) Q E w ↔
      (∀ a, x = .ok a → Q a w) ∧ (∀ e, x = .error e → E e w) := by
  cases x <;> simp [ofExcept]

/-- An operation known only by its type answers anything. -/
theorem wp_any {m : Prog ω ε α} (hok : ∀ a w', m w = (.ok a, w') → Q a w')
    (hraise : ∀ e w', m w = (.raised e, w') → E e w') : wp m Q E w := by
  unfold wp
  rcases h : m w with ⟨a | e | _, w'⟩
  · exact hok a w' h
  · exact hraise e w' h
  · trivial

/-- A logged operation answers anything and appends exactly its own entry. -/
theorem wp_logging {entry : Except ε α → κ} {m : Prog ω ε α} {R : α → List κ × ω → Prop}
    {F : ε → List κ × ω → Prop} {w : List κ × ω}
    (hok : ∀ a w', m w.2 = (.ok a, w') → R a (w.1 ++ [entry (.ok a)], w'))
    (hraise : ∀ e w', m w.2 = (.raised e, w') → F e (w.1 ++ [entry (.error e)], w')) :
    wp (logging entry m) R F w := by
  unfold wp logging
  rcases h : m w.2 with ⟨a | e | _, w'⟩
  · exact hok a w' h
  · exact hraise e w' h
  · trivial

theorem wp_and {m : Prog ω ε α} (h : wp m Q E w) (h' : wp m Q' E' w) :
    wp m (fun a w' => Q a w' ∧ Q' a w') (fun e w' => E e w' ∧ E' e w') w := by
  unfold wp at h h' ⊢
  rcases hrun : m w with ⟨_ | _ | _, w'⟩ <;> rw [hrun] at h h'
  · exact ⟨h, h'⟩
  · exact ⟨h, h'⟩
  · trivial

/-! ### Programs that keep a predicate -/

/-- However `m` ends, the world it leaves is in `I` if the one it starts in is, and what it
raises is in `P`. -/
def Safe (I : ω → Prop) (P : ε → Prop) (m : Prog ω ε α) : Prop :=
  ∀ w, I w → I (m w).2 ∧ (m w).1.Within P

/-- However `m` ends, `I` still holds. -/
abbrev Keeps (I : ω → Prop) (m : Prog ω ε α) : Prop := Safe I (fun _ => True) m

/-- Every exception of `m` is in `P`. -/
abbrev Raises (P : ε → Prop) (m : Prog ω ε α) : Prop := Safe (fun _ => True) P m

section Safe

variable {I : ω → Prop} {P P' : ε → Prop} {m : Prog ω ε α}

theorem Safe.of_world (h : ∀ w, I w → I (m w).2) : Keeps I m := by
  refine fun w hw => ⟨h w hw, ?_⟩
  rcases (m w).1 with _ | _ | _ <;> trivial

theorem Safe.wp (h : Safe I P m) (hw : I w) : wp m (fun _ w' => I w') (fun _ w' => I w') w := by
  have hw' := (h w hw).1
  apply wp_any
  · intro a w' hr
    rwa [hr] at hw'
  · intro e w' hr
    rwa [hr] at hw'

theorem Raises.of_raised {e : ε} (h : Raises P m) (hr : m w = (.raised e, w')) : P e := by
  have hwithin := (h w trivial).2
  rwa [hr] at hwithin

theorem Safe.pure (a : α) : Safe I P (Pure.pure a : Prog ω ε α) := fun _ hw => ⟨hw, trivial⟩

theorem Safe.read {f : ω → α × ω} (h : ∀ w, I w → I (f w).2) :
    Safe I P (Prog.read f : Prog ω ε α) := fun w hw => ⟨h w hw, trivial⟩

theorem Safe.raise {e : ε} (he : P e) : Safe I P (Prog.raise e : Prog ω ε α) := fun _ hw => ⟨hw, he⟩

theorem Safe.ofExcept {x : Except ε α} (h : ∀ e, x = .error e → P e) :
    Safe I P (Prog.ofExcept x) := by
  cases x with
  | ok a => exact .pure a
  | error e => exact .raise (h e rfl)

theorem Safe.bind {f : α → Prog ω ε β} (hm : Safe I P m) (hf : ∀ a, Safe I P (f a)) :
    Safe I P (m >>= f) := by
  intro w hw
  have hw' := hm w hw
  change I (Prog.bind m f w).2 ∧ (Prog.bind m f w).1.Within P
  unfold Prog.bind
  rcases hrun : m w with ⟨a | e | _, w'⟩ <;> rw [hrun] at hw'
  · exact hf a w' hw'.1
  · exact hw'
  · exact hw'

theorem Safe.ite {p : Prop} [Decidable p] {m' : Prog ω ε α} (hm : Safe I P m) (hm' : Safe I P m') :
    Safe I P (if p then m else m') := by
  split_ifs
  · exact hm
  · exact hm'

theorem Safe.attempt {handles : ε → Option η} (hm : Safe I P m)
    (h : ∀ e, P e → handles e = none → P' e) : Safe I P' (Prog.attempt handles m) := by
  intro w hw
  have hw' := hm w hw
  unfold Prog.attempt
  rcases hrun : m w with ⟨a | e | _, w'⟩ <;> rw [hrun] at hw'
  · exact hw'
  · dsimp only
    cases hhandled : handles e with
    | none => exact ⟨hw'.1, h e hw'.2 hhandled⟩
    | some x => exact ⟨hw'.1, trivial⟩
  · exact hw'

theorem Safe.tryFinally {fin : Prog ω ε β} (hm : Safe I P m) (hfin : Safe I P fin) :
    Safe I P (Prog.tryFinally m fin) := by
  intro w hw
  have hw' := hm w hw
  unfold Prog.tryFinally
  rcases hrun : m w with ⟨a | e | _, w'⟩ <;> rw [hrun] at hw'
  · have hw'' := hfin w' hw'.1
    dsimp only
    rcases hrun' : fin w' with ⟨b | e | _, w''⟩ <;> rw [hrun'] at hw'' <;> exact hw''
  · have hw'' := hfin w' hw'.1
    dsimp only
    rcases hrun' : fin w' with ⟨b | e' | _, w''⟩ <;> rw [hrun'] at hw''
    · exact ⟨hw''.1, hw'.2⟩
    · exact hw''
    · exact hw''
  · exact hw'

theorem Safe.forEach {body : κ → Prog ω ε Unit} (h : ∀ x, Safe I P (body x)) (xs : List κ) :
    Safe I P (Prog.forEach body xs) := by
  induction xs with
  | nil => exact .pure ()
  | cons x xs ih => exact (h x).bind fun _ => ih

theorem Safe.whileFuel {turn : Prog ω ε Bool} (h : Safe I P turn) (n : ℕ) :
    Safe I P (Prog.whileFuel turn n) := by
  induction n with
  | zero => exact fun _ hw => ⟨hw, trivial⟩
  | succ n ih => exact h.bind fun again => .ite ih (.pure ())

theorem Safe.lift (h : Safe I P m) : Safe (fun w : ν × ω => I w.2) P (Prog.lift m) :=
  fun w hw => h w.2 hw

theorem Safe.locals : Safe (fun w : ν × ω => I w.2) P (Prog.locals : Prog (ν × ω) ε ν) :=
  fun _ hw => ⟨hw, trivial⟩

theorem Safe.setLocals (v : ν) :
    Safe (fun w : ν × ω => I w.2) P (Prog.setLocals v : Prog (ν × ω) ε Unit) :=
  fun _ hw => ⟨hw, trivial⟩

theorem Safe.attemptWith {handles : ε → Option η} {v : ν} {m : Prog (ν × ω) ε α}
    (hm : Safe (fun w : ν × ω => I w.2) P m) (h : ∀ e, P e → handles e = none → P' e) :
    Safe I P' (Prog.attemptWith handles v m) := by
  intro w hw
  have hw' := hm.attempt h (v, w) hw
  unfold Prog.attemptWith
  rcases hrun : Prog.attempt handles m (v, w) with ⟨a | e | _, w'⟩ <;> rw [hrun] at hw' <;> exact hw'

theorem Safe.logging {entry : Except ε α → κ} (h : Safe I P m) :
    Safe (fun w => I w.2) P (Prog.logging entry m) := by
  intro w hw
  have hsafe := h w.2 hw
  unfold Prog.logging
  rcases hrun : m w.2 with ⟨a | e | _, w'⟩ <;> rw [hrun] at hsafe <;> exact hsafe

/-- A record of the answer does not change what an operation keeps and raises. -/
theorem Safe.logging_bind {entry : Except ε α → κ} {g : α → Except ε β}
    (h : Safe I P (m >>= fun a => Prog.ofExcept (g a))) :
    Safe (fun w => I w.2) P (Prog.logging entry m >>= fun a => Prog.ofExcept (g a)) := by
  intro w hw
  have hsafe : I (Prog.bind m _ w.2).2 ∧ (Prog.bind m _ w.2).1.Within P := h w.2 hw
  change I (Prog.bind (Prog.logging entry m) _ w).2.2 ∧ (Prog.bind (Prog.logging entry m) _ w).1.Within P
  unfold Prog.bind Prog.logging at *
  rcases hrun : m w.2 with ⟨a | e | _, w'⟩ <;> simp only [hrun] at hsafe ⊢
  · cases hg : g a with
    | ok b =>
      rw [hg] at hsafe
      exact hsafe
    | error e =>
      rw [hg] at hsafe
      exact hsafe
  · exact hsafe
  · exact hsafe

end Safe

end Prog

end OvnApi.Lib
