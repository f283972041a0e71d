import Mathlib.Algebra.Order.Field.Rat
import Mathlib.Data.Int.Log
import Mathlib.Data.Rat.Floor
import Mathlib.Tactic.Linarith

/-! Floating-point values as a Python program sees them. A finite value is the rational it
denotes; the two infinities and the value that is not a number follow the IEEE rules. An
operation rounds its exact result to the nearest double, a tie going to the even one. Rounding
to a fixed number of decimals is half to even, as `round` does. -/

namespace OvnApi.Lib

/-! ### Rounding -/

/-- The nearest integer, a tie going to the even one. -/
def roundHalfEven (x : ℚ) : ℤ :=
  let down := ⌊x⌋
  if x - down < 1 / 2 then down
  else if 1 / 2 < x - down then down + 1
  else if down % 2 = 0 then down
  else down + 1

theorem floor_le_roundHalfEven (x : ℚ) : ⌊x⌋ ≤ roundHalfEven x := by
  unfold roundHalfEven
  dsimp only
  split_ifs <;> omega

theorem roundHalfEven_le_floor_add_one (x : ℚ) : roundHalfEven x ≤ ⌊x⌋ + 1 := by
  unfold roundHalfEven
  dsimp only
  split_ifs <;> omega

theorem roundHalfEven_mono {x y : ℚ} (h : x ≤ y) : roundHalfEven x ≤ roundHalfEven y := by
  have hfloor : ⌊x⌋ ≤ ⌊y⌋ := Int.floor_le_floor h
  rcases hfloor.lt_or_eq with hlt | heq
  · have hx := roundHalfEven_le_floor_add_one x
    have hy := floor_le_roundHalfEven y
    omega
  · -- within one unit, the fraction decides
    have hfrac : x - ⌊x⌋ ≤ y - ⌊y⌋ := by
      rw [heq]
      linarith
    unfold roundHalfEven
    dsimp only
    rw [heq] at hfrac ⊢
    split_ifs <;> first | omega | (exfalso; linarith)

@[simp] theorem roundHalfEven_intCast (n : ℤ) : roundHalfEven n = n := by
  simp [roundHalfEven]

theorem abs_roundHalfEven_sub_le (x : ℚ) : |roundHalfEven x - x| ≤ 1 / 2 := by
  have hlow := Int.floor_le x
  have hhigh := Int.lt_floor_add_one x
  unfold roundHalfEven
  dsimp only
  rw [abs_le]
  split_ifs <;> push_cast <;> constructor <;> linarith

/-- `round(x, 3)`. -/
def roundMillis (x : ℚ) : ℚ := roundHalfEven (x * 1000) / 1000

theorem roundMillis_mono {x y : ℚ} (h : x ≤ y) : roundMillis x ≤ roundMillis y := by
  have hint : roundHalfEven (x * 1000) ≤ roundHalfEven (y * 1000) :=
    roundHalfEven_mono (by linarith)
  have hcast : (roundHalfEven (x * 1000) : ℚ) ≤ roundHalfEven (y * 1000) := by exact_mod_cast hint
  unfold roundMillis
  linarith

theorem abs_roundMillis_sub_le (x : ℚ) : |roundMillis x - x| ≤ 1 / 2000 := by
  have herror := abs_le.mp (abs_roundHalfEven_sub_le (x * 1000))
  unfold roundMillis
  rw [abs_le]
  constructor <;> linarith

/-- A difference of rounded values needs no rounding. -/
theorem roundMillis_sub (x y : ℚ) :
    roundMillis (roundMillis x - roundMillis y) = roundMillis x - roundMillis y := by
  have hint : (roundMillis x - roundMillis y) * 1000 =
      ((roundHalfEven (x * 1000) - roundHalfEven (y * 1000) : ℤ) : ℚ) := by
    unfold roundMillis
    push_cast
    ring
  rw [roundMillis, hint, roundHalfEven_intCast, ← hint]
  ring

/-! ### Doubles -/

/-- The distance between the doubles around a number, as a power of two. -/
def ulpExponent (x : ℚ) : ℤ := max (Int.log 2 |x| - 52) (-1074)

/-- The nearest number that has the digits of a double. -/
def nearest (x : ℚ) : ℚ := roundHalfEven (x / 2 ^ ulpExponent x) * 2 ^ ulpExponent x

/-- The nearest double; `none` when it overflows. -/
def nearestDouble (x : ℚ) : Option ℚ := if |nearest x| < 2 ^ 1024 then some (nearest x) else none

/-- The subnormal numbers lie far closer than the second term says. -/
theorem two_zpow_ulpExponent_le {x : ℚ} (hx : x ≠ 0) :
    (2 : ℚ) ^ ulpExponent x ≤ |x| / 2 ^ 52 + 1 / 2 ^ 100 := by
  have hpos : 0 < |x| := abs_pos.mpr hx
  have hplace : 0 ≤ |x| / 2 ^ 52 := by positivity
  unfold ulpExponent
  rcases max_choice (Int.log 2 |x| - 52) (-1074) with h | h
  · have hlog : ((2 : ℕ) : ℚ) ^ Int.log 2 |x| ≤ |x| := Int.zpow_log_le_self one_lt_two hpos
    calc (2 : ℚ) ^ max (Int.log 2 |x| - 52) (-1074) = 2 ^ Int.log 2 |x| / 2 ^ 52 := by
          rw [h, zpow_sub₀ two_ne_zero]
          rfl
      _ ≤ |x| / 2 ^ 52 := by gcongr; exact_mod_cast hlog
      _ ≤ _ := le_add_of_nonneg_right (by positivity)
  · calc (2 : ℚ) ^ max (Int.log 2 |x| - 52) (-1074) ≤ 2 ^ (-100 : ℤ) := by
          rw [h]
          exact zpow_le_zpow_right₀ one_le_two (by decide)
      _ = 1 / 2 ^ 100 := by norm_num
      _ ≤ _ := le_add_of_nonneg_left hplace

/-- Rounding moves a number by half a unit in the last place. -/
theorem abs_nearest_sub_le (x : ℚ) : |nearest x - x| ≤ |x| / 2 ^ 53 + 1 / 2 ^ 101 := by
  rcases eq_or_ne x 0 with rfl | hx
  · simp [nearest, roundHalfEven]
  · have hpos : (0 : ℚ) < 2 ^ ulpExponent x := zpow_pos two_pos _
    have hscaled : nearest x - x =
        (roundHalfEven (x / 2 ^ ulpExponent x) - x / 2 ^ ulpExponent x) * 2 ^ ulpExponent x := by
      rw [sub_mul, div_mul_cancel₀ _ hpos.ne']
      rfl
    have herror := mul_le_mul_of_nonneg_right
      (abs_roundHalfEven_sub_le (x / 2 ^ ulpExponent x)) hpos.le
    rw [hscaled, abs_mul, abs_of_pos hpos]
    linarith [two_zpow_ulpExponent_le hx]

theorem nearestDouble_of_abs_le {x : ℚ} (h : |x| ≤ 2 ^ 200) : nearestDouble x = some (nearest x) := by
  have herror := abs_nearest_sub_le x
  have htriangle : |nearest x| ≤ |nearest x - x| + |x| := by
    simpa using abs_add_le (nearest x - x) x
  have hsmall : |nearest x| < 2 ^ 202 := by linarith
  exact if_pos (hsmall.trans_le (pow_le_pow_right₀ one_le_two (by decide)))

inductive PyFloat where
  | fin (q : ℚ)
  | inf
  | ninf
  | nan
  deriving DecidableEq, Repr

namespace PyFloat

def isFinite : PyFloat → Bool
  | fin _ => true
  | _ => false

/-- `a < b`; a comparison with `nan` is false. -/
def lt : PyFloat → PyFloat → Bool
  | fin a, fin b => decide (a < b)
  | ninf, fin _ => true
  | ninf, inf => true
  | fin _, inf => true
  | _, _ => false

def le : PyFloat → PyFloat → Bool
  | fin a, fin b => decide (a ≤ b)
  | ninf, fin _ => true
  | ninf, inf => true
  | ninf, ninf => true
  | fin _, inf => true
  | inf, inf => true
  | _, _ => false

/-- The exact sum, for times that are taken as real numbers. -/
def addExact : PyFloat → PyFloat → PyFloat
  | fin a, fin b => fin (a + b)
  | nan, _ => nan
  | _, nan => nan
  | inf, ninf => nan
  | ninf, inf => nan
  | inf, _ => inf
  | _, inf => inf
  | ninf, _ => ninf
  | _, ninf => ninf

/-- The nearest double; a number that is too large goes to the infinity on its side. -/
def double (x : ℚ) : PyFloat :=
  match nearestDouble x with
  | some y => fin y
  | none => if 0 < x then inf else ninf

def rounded : PyFloat → PyFloat
  | fin a => double a
  | y => y

def add (a b : PyFloat) : PyFloat := (addExact a b).rounded

def nsmul (n : ℕ) : PyFloat → PyFloat
  | fin a => double (n * a)
  | inf => if n = 0 then nan else inf
  | ninf => if n = 0 then nan else ninf
  | nan => nan

/-- `x / n` for a positive natural number `n`; the quotient of a double does not overflow. -/
def divNat (x : PyFloat) (n : ℕ) : PyFloat :=
  match x with
  | fin a => fin (nearest (a / n))
  | y => y

def round3 : PyFloat → PyFloat
  | fin a => double (roundMillis a)
  | y => y

theorem double_of_nearestDouble {x y : ℚ} (h : nearestDouble x = some y) : double x = fin y := by
  delta double
  rw [h]

/-- `max(a, b)`: the second value is taken only if it is greater than the first. -/
def max (a b : PyFloat) : PyFloat := if lt a b then b else a

@[simp] theorem lt_fin (a b : ℚ) : lt (fin a) (fin b) = decide (a < b) := rfl

@[simp] theorem le_fin (a b : ℚ) : le (fin a) (fin b) = decide (a ≤ b) := rfl

/-! ### The order -/

section Order

variable {x y z : PyFloat}

theorem lt_irrefl (x : PyFloat) : lt x x = false := by
  cases x <;> simp [lt]

theorem lt_trans (hxy : lt x y = true) (hyz : lt y z = true) : lt x z = true := by
  cases x <;> cases y <;> cases z <;> simp_all [lt]
  exact hxy.trans hyz

theorem le_trans (hxy : le x y = true) (hyz : le y z = true) : le x z = true := by
  cases x <;> cases y <;> cases z <;> simp_all [le]
  exact hxy.trans hyz

theorem lt_of_le_of_lt (hxy : le x y = true) (hyz : lt y z = true) : lt x z = true := by
  cases x <;> cases y <;> cases z <;> simp_all [le, lt]
  exact hxy.trans_lt hyz

theorem ne_nan_of_lt (h : lt x y = true) : y ≠ nan := by
  rintro rfl
  cases x <;> cases h

/-- A number that is not before another is at or after it; `nan` is neither. -/
theorem le_of_lt_eq_false {q : ℚ} (h : lt (fin q) x = false) (hx : x ≠ nan) : le x (fin q) = true := by
  cases x <;> simp_all [lt, le]

theorem double_ne_nan (q : ℚ) : double q ≠ nan := by
  unfold double
  split
  · simp
  · split_ifs <;> simp

theorem add_ne_nan (h : x ≠ nan) (q : ℚ) : add (fin q) x ≠ nan := by
  cases x with
  | fin a => exact double_ne_nan _
  | inf | ninf => exact PyFloat.noConfusion
  | nan => exact absurd rfl h

end Order

/-! ### Python's `min` with a key -/

section Min

variable {α : Type} (key : α → PyFloat) (l : List α) (best : α)

/-- A later value is taken only if it is smaller. -/
def leastBy : α := l.foldl (fun b p => if lt (key p) (key b) then p else b) best

theorem leastBy_cons (x : α) :
    leastBy key (x :: l) best = leastBy key l (if lt (key x) (key best) then x else best) :=
  rfl

theorem leastBy_mem : leastBy key l best ∈ best :: l := by
  induction l generalizing best with
  | nil => exact List.mem_singleton_self best
  | cons x l ih =>
    rw [leastBy_cons]
    split_ifs
    · exact List.mem_cons_of_mem _ (ih x)
    · rcases List.mem_cons.mp (ih best) with heq | htail
      · rw [heq]
        exact List.mem_cons_self
      · exact List.mem_cons_of_mem _ (List.mem_cons_of_mem _ htail)

theorem leastBy_best : leastBy key l best = best ∨ lt (key (leastBy key l best)) (key best) = true := by
  induction l generalizing best with
  | nil => exact .inl rfl
  | cons x l ih =>
    rw [leastBy_cons]
    by_cases hx : lt (key x) (key best) = true
    · rw [if_pos hx]
      rcases ih x with heq | hlt
      · rw [heq]
        exact .inr hx
      · exact .inr (lt_trans hlt hx)
    · rw [if_neg hx]
      exact ih best

variable {key l best}

/-- What is below the result is below the value the search began with. -/
theorem lt_of_lt_leastBy {y : PyFloat} (h : lt y (key (leastBy key l best)) = true) :
    lt y (key best) = true := by
  rcases leastBy_best key l best with heq | hlt
  · rwa [heq] at h
  · exact lt_trans h hlt

variable (key l best)

/-- Nothing in the list is smaller than the result. -/
theorem leastBy_least : ∀ x ∈ best :: l, lt (key x) (key (leastBy key l best)) = false := by
  induction l generalizing best with
  | nil =>
    intro x hx
    rw [List.mem_singleton.mp hx]
    exact lt_irrefl _
  | cons y l ih =>
    intro x hx
    by_contra hsmaller
    have hlt := Bool.of_not_eq_false hsmaller
    rcases List.mem_cons.mp hx with rfl | hx
    · have hself := lt_of_lt_leastBy hlt
      rw [lt_irrefl] at hself
      cases hself
    · rw [leastBy_cons] at hlt
      rcases List.mem_cons.mp hx with rfl | hx
      · have hnext := lt_of_lt_leastBy hlt
        split_ifs at hnext with hx
        · rw [lt_irrefl] at hnext
          cases hnext
        · exact hx hnext
      · rw [ih _ x (List.mem_cons_of_mem _ hx)] at hlt
        cases hlt

end Min

end PyFloat

end OvnApi.Lib
