import Mathlib
import Wayfarer.Number.Binary64

/-!
Rounding to numbers of double precision.

* `Binary64.value`: the number that a magnitude stands for; `Binary64.value_of_unit` writes it in
  units and `Binary64.value_strictMono` puts the numbers in order;
* `Binary64.IsNearest`: a magnitude is the one nearest to a number, a tie going to the even one;
* `Binary64.IsNearest.unique`: there is no other one;
* `Binary64.IsNear`: the same of its two neighbours only, which is enough;
* `Binary64.isNearest_nearest`: **fractions are rounded correctly**.
-/

namespace Wayfarer.Binary64

variable {x y : ℚ} {k m n q num den : ℕ}

/-! ### Values -/

/-- The number that a magnitude stands for. The infinite one stands for the number that would come
next. -/
def value (m : ℕ) : ℚ :=
  (fraction m).1 / (fraction m).2

/-- What two magnitudes next to each other differ by: the least unit, doubled some times. -/
def unit (k : ℕ) : ℚ :=
  2 ^ ((k : ℤ) - 1074)

lemma unit_pos (k : ℕ) : 0 < unit k :=
  zpow_pos (by norm_num) _

lemma unit_succ (k : ℕ) : unit (k + 1) = 2 * unit k := by
  have next : ((k + 1 : ℕ) : ℤ) - 1074 = ((k : ℤ) - 1074) + 1 := by push_cast; ring
  rw [unit, unit, next, zpow_add_one₀ (by norm_num)]
  ring

/-- A power with a sign, as a fraction of two powers. -/
lemma pow_toNat_div_pow_toNat (a : ℚ) (z : ℤ) : a ^ z.toNat / a ^ (-z).toNat = a ^ z := by
  rcases le_total 0 z with up | down
  · have none : (-z).toNat = 0 := by omega
    rw [none, pow_zero, div_one, ← zpow_natCast, Int.toNat_of_nonneg up]
  · have none : z.toNat = 0 := by omega
    have whole : ((-z).toNat : ℤ) = -z := Int.toNat_of_nonneg (by omega)
    rw [none, pow_zero, ← zpow_natCast, whole, zpow_neg, one_div, inv_inv]

lemma value_eq (m : ℕ) :
    value m = (if m / exponentWeight = 0 then m % exponentWeight
        else exponentWeight + m % exponentWeight : ℕ) *
      2 ^ ((if m / exponentWeight = 0 then 1 else ((m / exponentWeight : ℕ) : ℤ)) - 1075) := by
  rw [value, fraction]
  simp only [Nat.pow_eq, Nat.cast_mul, Nat.cast_pow, Nat.cast_ofNat]
  rw [mul_div_assoc, pow_toNat_div_pow_toNat]

/-- Below the first weight the units are the least ones. -/
lemma value_of_lt (small : q < exponentWeight) : value q = q * unit 0 := by
  have div : q / exponentWeight = 0 := Nat.div_eq_of_lt small
  have mod : q % exponentWeight = q := Nat.mod_eq_of_lt small
  have exponent : (1 : ℤ) - 1075 = ((0 : ℕ) : ℤ) - 1074 := by norm_num
  rw [value_eq, div, mod, if_pos rfl, if_pos rfl, exponent, unit]

/-- From there on the units double with each weight, and there are as many as a weight more. -/
lemma value_of_weight (k : ℕ) (small : q < exponentWeight) :
    value ((k + 1) * exponentWeight + q) = (exponentWeight + q : ℕ) * unit k := by
  have div : ((k + 1) * exponentWeight + q) / exponentWeight = k + 1 := by
    rw [Nat.add_comm, Nat.add_mul_div_right _ _ (by decide), Nat.div_eq_of_lt small, Nat.zero_add]
  have mod : ((k + 1) * exponentWeight + q) % exponentWeight = q := by
    rw [Nat.add_comm, Nat.add_mul_mod_self_right, Nat.mod_eq_of_lt small]
  have exponent : ((k + 1 : ℕ) : ℤ) - 1075 = (k : ℤ) - 1074 := by push_cast; ring
  rw [value_eq, div, mod, if_neg (Nat.succ_ne_zero k), if_neg (Nat.succ_ne_zero k), exponent, unit]

/-- A number in units, of which there are at most two weights, and at least one unless they are the
least ones. -/
lemma value_of_unit (small : q ≤ 2 * exponentWeight) (normal : k = 0 ∨ exponentWeight ≤ q) :
    value (k * exponentWeight + q) = q * unit k := by
  rcases Nat.lt_or_ge q exponentWeight with low | high
  · obtain rfl : k = 0 := by omega
    rw [Nat.zero_mul, Nat.zero_add, value_of_lt low]
  · obtain ⟨f, rfl⟩ := Nat.exists_eq_add_of_le high
    rcases Nat.lt_or_ge f exponentWeight with inner | outer
    · have place : k * exponentWeight + (exponentWeight + f) = (k + 1) * exponentWeight + f := by
        ring
      rw [place, value_of_weight k inner]
    · -- two weights of units are one weight of units twice as large
      obtain rfl : f = exponentWeight := by omega
      have place : k * exponentWeight + (exponentWeight + exponentWeight) =
          (k + 1 + 1) * exponentWeight + 0 := by ring
      rw [place, value_of_weight (k + 1) (by decide), unit_succ]
      push_cast
      ring

/-- Every magnitude is a number of units. -/
lemma exists_unit (m : ℕ) : ∃ k q, m = k * exponentWeight + q ∧ q < 2 * exponentWeight ∧
    (k = 0 ∨ exponentWeight ≤ q) := by
  have split := Nat.div_add_mod' m exponentWeight
  have small : m % exponentWeight < exponentWeight := Nat.mod_lt _ (by decide)
  cases weight : m / exponentWeight with
  | zero =>
      rw [weight] at split
      exact ⟨0, m % exponentWeight, split.symm, by omega, Or.inl rfl⟩
  | succ k =>
      rw [weight, Nat.succ_mul, Nat.add_assoc] at split
      exact ⟨k, exponentWeight + m % exponentWeight, split.symm, by omega, by omega⟩

/-- The next magnitude stands for one unit more. -/
lemma value_succ (small : q < 2 * exponentWeight) (normal : k = 0 ∨ exponentWeight ≤ q) :
    value (k * exponentWeight + q + 1) = value (k * exponentWeight + q) + unit k := by
  have next : k = 0 ∨ exponentWeight ≤ q + 1 := normal.imp_right (Nat.le_succ_of_le ·)
  rw [Nat.add_assoc, value_of_unit small next, value_of_unit small.le normal]
  push_cast
  ring

/-- **Magnitudes are in the order of their numbers.** -/
theorem value_strictMono : StrictMono value := by
  refine strictMono_nat_of_lt_succ fun m => ?_
  obtain ⟨k, q, rfl, small, normal⟩ := exists_unit m
  rw [value_succ small normal]
  exact lt_add_of_pos_right _ (unit_pos k)

/-! ### The nearest number -/

/-- A magnitude is the one nearest to a number that is not negative, a tie going to the even one. -/
structure IsNearest (x : ℚ) (m : ℕ) : Prop where
  le_infinite : m ≤ infinite
  closest : ∀ k ≤ infinite, |x - value m| ≤ |x - value k|
  even : ∀ k ≤ infinite, k ≠ m → |x - value m| = |x - value k| → Even m

/-- The number halfway between those of a magnitude and the next one. -/
def halfway (m : ℕ) : ℚ :=
  (value m + value (m + 1)) / 2

lemma value_lt_halfway (m : ℕ) : value m < halfway m := by
  have next : value m < value (m + 1) := value_strictMono (Nat.lt_succ_self m)
  rw [halfway]
  linarith

lemma halfway_lt_value (m : ℕ) : halfway m < value (m + 1) := by
  have next : value m < value (m + 1) := value_strictMono (Nat.lt_succ_self m)
  rw [halfway]
  linarith

/-- Of two numbers the lower one is at least as near as long as one is not beyond their middle. -/
lemma abs_sub_le_abs_sub_iff {a b : ℚ} (less : a < b) : |x - a| ≤ |x - b| ↔ x ≤ (a + b) / 2 := by
  rw [← sq_le_sq]
  constructor
  · intro nearer
    nlinarith
  · intro before
    nlinarith

/-- The upper one is at least as near from their middle on. -/
lemma abs_sub_le_abs_sub_iff' {a b : ℚ} (less : a < b) : |x - b| ≤ |x - a| ↔ (a + b) / 2 ≤ x := by
  rw [← sq_le_sq]
  constructor
  · intro nearer
    nlinarith
  · intro behind
    nlinarith

/-- **There is one nearest number.** -/
theorem IsNearest.unique (here : IsNearest x m) (there : IsNearest x n) : m = n := by
  wlog less : m < n generalizing m n
  · rcases Nat.lt_trichotomy m n with before | same | behind
    · exact this here there before
    · exact same
    · exact (this there here behind).symm
  exfalso
  have tie : |x - value m| = |x - value n| :=
    le_antisymm (here.closest n there.le_infinite) (there.closest m here.le_infinite)
  -- both are even, so that another magnitude lies between them, and its number is nearer
  have even : Even m := here.even n there.le_infinite less.ne' tie
  have even' : Even n := there.even m here.le_infinite less.ne tie.symm
  have between : m + 1 < n := by
    obtain ⟨a, rfl⟩ := even
    obtain ⟨b, rfl⟩ := even'
    omega
  have low : value m < value (m + 1) := value_strictMono (Nat.lt_succ_self m)
  have high : value (m + 1) < value n := value_strictMono between
  have last : x ≤ (value m + value (m + 1)) / 2 := by
    have inside : m + 1 ≤ infinite := between.le.trans there.le_infinite
    exact (abs_sub_le_abs_sub_iff low).mp (here.closest (m + 1) inside)
  have middle : (value m + value n) / 2 ≤ x :=
    (abs_sub_le_abs_sub_iff' (low.trans high)).mp tie.ge
  linarith

/-- A number is no nearer to the neighbours of a magnitude, and where it is halfway to one of them
the magnitude is even. -/
structure IsNear (x : ℚ) (m : ℕ) : Prop where
  below : ∀ n, n + 1 = m → halfway n ≤ x ∧ (x = halfway n → Even m)
  above : x ≤ halfway m ∧ (x = halfway m → Even m)

/-- It is then no nearer to any other one. -/
lemma IsNear.closest (near : IsNear x m) (k : ℕ) :
    |x - value m| ≤ |x - value k| ∧ (k ≠ m → |x - value m| = |x - value k| → Even m) := by
  rcases Nat.lt_trichotomy k m with before | rfl | behind
  · obtain ⟨n, rfl⟩ : ∃ n, n + 1 = m := ⟨m - 1, by omega⟩
    obtain ⟨from_middle, even⟩ := near.below n rfl
    have order : value k ≤ value n := value_strictMono.monotone (Nat.lt_succ_iff.mp before)
    have apart : value k < value (n + 1) := value_strictMono before
    have middle : (value k + value (n + 1)) / 2 ≤ halfway n := by
      rw [halfway]
      linarith
    refine ⟨(abs_sub_le_abs_sub_iff' apart).mpr (middle.trans from_middle), fun _ tie => even ?_⟩
    have to_middle : x ≤ (value k + value (n + 1)) / 2 := (abs_sub_le_abs_sub_iff apart).mp tie.ge
    linarith
  · exact ⟨le_rfl, fun other => absurd rfl other⟩
  · obtain ⟨to_middle, even⟩ := near.above
    have order : value (m + 1) ≤ value k := value_strictMono.monotone behind
    have apart : value m < value k := value_strictMono behind
    have middle : halfway m ≤ (value m + value k) / 2 := by
      rw [halfway]
      linarith
    refine ⟨(abs_sub_le_abs_sub_iff apart).mpr (to_middle.trans middle), fun _ tie => even ?_⟩
    have from_middle : (value m + value k) / 2 ≤ x := (abs_sub_le_abs_sub_iff' apart).mp tie.ge
    linarith

/-- From the number of the infinite magnitude on, it is the nearest one. -/
lemma isNearest_infinite (beyond : value infinite ≤ x) : IsNearest x infinite where
  le_infinite := le_rfl
  closest k inside := by
    have order : value k ≤ value infinite := value_strictMono.monotone inside
    rw [abs_of_nonneg (by linarith), abs_of_nonneg (by linarith)]
    linarith
  even _ _ _ _ := by decide

/-- What is less than half the least unit is near to nothing. -/
lemma isNear_zero (small : x < halfway 0) : IsNear x 0 :=
  ⟨nofun, small.le, fun _ => Even.zero⟩

/-- A magnitude that is near, but no more than the infinite one, is the nearest one. -/
lemma IsNear.isNearest (near : IsNear x m) : IsNearest x (min m infinite) := by
  rcases Nat.lt_or_ge infinite m with beyond | inside
  · rw [min_eq_right beyond.le]
    obtain ⟨n, rfl⟩ : ∃ n, n + 1 = m := ⟨m - 1, by omega⟩
    have order : value infinite ≤ value n := value_strictMono.monotone (Nat.lt_succ_iff.mp beyond)
    have reached : halfway n ≤ x := (near.below n rfl).1
    exact isNearest_infinite (by linarith [value_lt_halfway n])
  · rw [min_eq_left inside]
    exact ⟨inside, fun k _ => (near.closest k).1, fun k _ => (near.closest k).2⟩

/-! ### Rounding to whole numbers -/

/-- A whole number is at most a half away, and even where it is just a half. -/
structure IsRounded (y : ℚ) (q : ℕ) : Prop where
  below : (q : ℚ) - 1 / 2 ≤ y ∧ (y = q - 1 / 2 → Even q)
  above : y ≤ q + 1 / 2 ∧ (y = q + 1 / 2 → Even q)

lemma isRounded_roundHalfEven (num : ℕ) (filled : 0 < den) :
    IsRounded (num / den) (roundHalfEven num den) := by
  have positive : (0 : ℚ) < den := Nat.cast_pos.mpr filled
  -- the fraction is a whole number and a part of one
  obtain ⟨part, share⟩ : ∃ part : ℚ, part = ((num % den : ℕ) : ℚ) / den := ⟨_, rfl⟩
  have whole : (num : ℚ) / den = ((num / den : ℕ) : ℚ) + part := by
    have split : ((num / den : ℕ) : ℚ) * den + ((num % den : ℕ) : ℚ) = num := by
      exact_mod_cast Nat.div_add_mod' num den
    rw [share, ← split]
    field_simp
  have low : 0 ≤ part := by rw [share]; positivity
  have high : part < 1 := by
    rw [share, div_lt_one positive]
    exact_mod_cast Nat.mod_lt num filled
  have lower : 2 * (num % den) < den ↔ part < 1 / 2 := by
    rw [share, div_lt_div_iff₀ positive two_pos, ← Nat.cast_lt (α := ℚ)]
    push_cast
    constructor <;> intro less <;> linarith
  have upper : den < 2 * (num % den) ↔ 1 / 2 < part := by
    rw [share, div_lt_div_iff₀ two_pos positive, ← Nat.cast_lt (α := ℚ)]
    push_cast
    constructor <;> intro less <;> linarith
  have next : ((num / den + 1 : ℕ) : ℚ) = ((num / den : ℕ) : ℚ) + 1 := Nat.cast_succ _
  rw [roundHalfEven, whole]
  split_ifs with down up
  · have less := lower.mp down
    exact ⟨⟨by linarith, fun tie => by linarith⟩, ⟨by linarith, fun tie => by linarith⟩⟩
  · have more := upper.mp up
    exact ⟨⟨by linarith, fun tie => by linarith⟩, ⟨by linarith, fun tie => by linarith⟩⟩
  · -- just a half: one of the two numbers around it is even
    have half : part = 1 / 2 :=
      le_antisymm (not_lt.mp (upper.not.mp up)) (not_lt.mp (lower.not.mp down))
    have even : Even (num / den + num / den % 2) := by
      rw [Nat.even_iff]
      omega
    rcases Nat.mod_two_eq_zero_or_one (num / den) with stays | rises
    · rw [stays, Nat.add_zero] at even ⊢
      exact ⟨⟨by linarith, fun _ => even⟩, ⟨by linarith, fun _ => even⟩⟩
    · rw [rises] at even ⊢
      exact ⟨⟨by linarith, fun _ => even⟩, ⟨by linarith, fun _ => even⟩⟩

/-- A whole number that is not above another one is rounded to no more than that. -/
lemma IsRounded.le (rounded : IsRounded y q) (small : y ≤ n) : q ≤ n := by
  have near := rounded.below.1
  have less : (q : ℚ) < (n : ℚ) + 1 := by linarith
  exact Nat.lt_succ_iff.mp (by exact_mod_cast less)

lemma IsRounded.ge (rounded : IsRounded y q) (large : n ≤ y) : n ≤ q := by
  have near := rounded.above.1
  have less : (n : ℚ) < (q : ℚ) + 1 := by linarith
  exact Nat.lt_succ_iff.mp (by exact_mod_cast less)

/-- Between two magnitudes lies half a unit more than the lower one. -/
lemma halfway_of_unit (small : q < 2 * exponentWeight) (normal : k = 0 ∨ exponentWeight ≤ q) :
    halfway (k * exponentWeight + q) = (q + 1 / 2) * unit k := by
  rw [halfway, value_succ small normal, value_of_unit small.le normal]
  ring

/-- A number of units, rounded to a whole one, is near. -/
lemma IsRounded.isNear (rounded : IsRounded y q) (small : y < (2 * exponentWeight : ℕ))
    (normal : k = 0 ∨ (exponentWeight : ℕ) ≤ y) : IsNear (y * unit k) (k * exponentWeight + q) := by
  have positive : 0 < unit k := unit_pos k
  have most : q ≤ 2 * exponentWeight := rounded.le small.le
  have least : k = 0 ∨ exponentWeight ≤ q := normal.imp_right rounded.ge
  have here : value (k * exponentWeight + q) = q * unit k := value_of_unit most least
  have even_of_even (even : Even q) : Even (k * exponentWeight + q) :=
    ((by decide : Even exponentWeight).mul_left k).add even
  constructor
  · intro n next
    by_cases within : ∃ p, q = p + 1 ∧ (k = 0 ∨ exponentWeight ≤ p)
    · obtain ⟨p, rfl, normal'⟩ := within
      obtain rfl : n = k * exponentWeight + p := by omega
      have middle : halfway (k * exponentWeight + p) = ((p + 1 : ℕ) - 1 / 2) * unit k := by
        rw [halfway_of_unit (by omega) normal']
        push_cast
        ring
      rw [middle]
      refine ⟨mul_le_mul_of_nonneg_right rounded.below.1 positive.le, fun tie => ?_⟩
      exact even_of_even (rounded.below.2 (mul_right_cancel₀ positive.ne' tie))
    · -- the least number of units that are twice as large as those before
      have first : q = exponentWeight ∧ (exponentWeight : ℕ) ≤ y := by
        rcases normal with rfl | large
        · exact absurd ⟨q - 1, by omega, Or.inl rfl⟩ within
        · have reached : exponentWeight ≤ q := rounded.ge large
          refine ⟨?_, large⟩
          by_contra other
          exact within ⟨q - 1, by omega, Or.inr (by omega)⟩
      obtain ⟨rfl, large⟩ := first
      have reached : halfway n < y * unit k := by
        calc halfway n < value (n + 1) := halfway_lt_value n
          _ = exponentWeight * unit k := by rw [next, here]
          _ ≤ y * unit k := mul_le_mul_of_nonneg_right large positive.le
      exact ⟨reached.le, fun tie => absurd tie reached.ne'⟩
  · rcases Nat.lt_or_ge q (2 * exponentWeight) with inside | last
    · rw [halfway_of_unit inside least]
      refine ⟨mul_le_mul_of_nonneg_right rounded.above.1 positive.le, fun tie => ?_⟩
      exact even_of_even (rounded.above.2 (mul_right_cancel₀ positive.ne' tie))
    · obtain rfl : q = 2 * exponentWeight := le_antisymm most last
      have before : y * unit k < halfway (k * exponentWeight + 2 * exponentWeight) := by
        calc y * unit k < (2 * exponentWeight : ℕ) * unit k :=
              mul_lt_mul_of_pos_right small positive
          _ = value (k * exponentWeight + 2 * exponentWeight) := here.symm
          _ < halfway (k * exponentWeight + 2 * exponentWeight) := value_lt_halfway _
      exact ⟨before.le, fun tie => absurd tie before.ne⟩

/-! ### Fractions -/

/-- A fraction divided by a power of two, as a fraction. -/
lemma cast_scaled (num den : ℕ) (e : ℤ) :
    ((num * Nat.pow 2 (-e).toNat : ℕ) : ℚ) / (den * Nat.pow 2 e.toNat : ℕ) =
      (num : ℚ) / den / 2 ^ e := by
  have power := pow_toNat_div_pow_toNat 2 e
  rw [← power]
  simp only [Nat.pow_eq, Nat.cast_mul, Nat.cast_pow, Nat.cast_ofNat]
  field_simp

/-- The logarithms of numerator and denominator place a fraction between two powers of two. -/
lemma log2_bounds (some_num : num ≠ 0) (some_den : den ≠ 0) :
    (2 : ℚ) ^ ((num.log2 : ℤ) - den.log2 - 1) ≤ num / den ∧
      (num : ℚ) / den < 2 ^ ((num.log2 : ℤ) - den.log2 + 1) := by
  have two : (2 : ℚ) ≠ 0 := by norm_num
  have positive : (0 : ℚ) < den := Nat.cast_pos.mpr (Nat.pos_of_ne_zero some_den)
  have num_low : (2 : ℚ) ^ (num.log2 : ℤ) ≤ num := by
    rw [zpow_natCast]
    exact_mod_cast Nat.log2_self_le some_num
  have num_high : (num : ℚ) < 2 ^ ((num.log2 : ℤ) + 1) := by
    rw [← Nat.cast_succ, zpow_natCast]
    exact_mod_cast Nat.lt_log2_self
  have den_low : (2 : ℚ) ^ (den.log2 : ℤ) ≤ den := by
    rw [zpow_natCast]
    exact_mod_cast Nat.log2_self_le some_den
  have den_high : (den : ℚ) < 2 ^ ((den.log2 : ℤ) + 1) := by
    rw [← Nat.cast_succ, zpow_natCast]
    exact_mod_cast Nat.lt_log2_self
  constructor
  · rw [le_div_iff₀ positive]
    calc (2 : ℚ) ^ ((num.log2 : ℤ) - den.log2 - 1) * den
        ≤ 2 ^ ((num.log2 : ℤ) - den.log2 - 1) * 2 ^ ((den.log2 : ℤ) + 1) :=
          mul_le_mul_of_nonneg_left den_high.le (by positivity)
      _ = 2 ^ (num.log2 : ℤ) := by rw [← zpow_add₀ two]; congr 1; ring
      _ ≤ num := num_low
  · rw [div_lt_iff₀ positive]
    calc (num : ℚ) < 2 ^ ((num.log2 : ℤ) + 1) := num_high
      _ = 2 ^ ((num.log2 : ℤ) - den.log2 + 1) * 2 ^ (den.log2 : ℤ) := by
          rw [← zpow_add₀ two]; congr 1; ring
      _ ≤ 2 ^ ((num.log2 : ℤ) - den.log2 + 1) * den :=
          mul_le_mul_of_nonneg_left den_low (by positivity)

/-- A fraction has fewer than two weights of the units that its scale names, and at least one unless
they are the least ones. -/
lemma scale_bounds (some_num : num ≠ 0) (some_den : den ≠ 0) :
    -1074 ≤ scale num den ∧ (num : ℚ) / den < 2 ^ (scale num den + 53) ∧
      (scale num den = -1074 ∨ (2 : ℚ) ^ (scale num den + 52) ≤ num / den) := by
  have one_le_two : (1 : ℚ) ≤ 2 := by norm_num
  obtain ⟨low, high⟩ := log2_bounds some_num some_den
  -- the octave of the fraction, of which the logarithms know all but one step
  obtain ⟨octave, named, from_octave, to_octave⟩ : ∃ octave : ℤ,
      scale num den = max (octave - 52) (-1074) ∧ (2 : ℚ) ^ octave ≤ num / den ∧
        (num : ℚ) / den < 2 ^ (octave + 1) := by
    have compared : ∀ e : ℤ, num * Nat.pow 2 (-e).toNat < den * Nat.pow 2 e.toNat ↔
        (num : ℚ) / den < 2 ^ e := by
      intro e
      have scaled : ((den * Nat.pow 2 e.toNat : ℕ) : ℚ) ≠ 0 := by
        simpa using some_den
      rw [← div_lt_one₀ (zpow_pos two_pos e), ← cast_scaled,
        div_lt_one₀ (lt_of_le_of_ne (Nat.cast_nonneg _) scaled.symm), Nat.cast_lt]
    by_cases beneath : (num : ℚ) / den < 2 ^ ((num.log2 : ℤ) - den.log2)
    · refine ⟨(num.log2 : ℤ) - den.log2 - 1, ?_, low, by simpa using beneath⟩
      rw [scale]
      simp only [(compared _).mpr beneath, if_true]
    · refine ⟨(num.log2 : ℤ) - den.log2, ?_, not_lt.mp beneath, high⟩
      rw [scale]
      simp only [(compared _).not.mpr beneath, if_false]
  rw [named]
  refine ⟨le_max_right _ _, to_octave.trans_le ?_, ?_⟩
  · refine zpow_le_zpow_right₀ one_le_two ?_
    have least := le_max_left (octave - 52) (-1074)
    omega
  · rcases le_total (octave - 52) (-1074) with tiny | large
    · exact Or.inl (max_eq_right tiny)
    · rw [max_eq_left large, sub_add_cancel]
      exact Or.inr from_octave

/-- **Fractions are rounded correctly.** -/
theorem isNearest_nearest (num : ℕ) (some_den : den ≠ 0) :
    IsNearest (num / den) (nearest num den) := by
  by_cases some_num : num = 0
  · have small : (0 : ℚ) < halfway 0 := by
      calc (0 : ℚ) = value 0 := by rw [value_of_lt (by decide), Nat.cast_zero, zero_mul]
        _ < halfway 0 := value_lt_halfway 0
    rw [nearest, if_pos some_num, some_num, Nat.cast_zero, zero_div]
    exact (isNear_zero small).isNearest
  · obtain ⟨least, less, normal⟩ := scale_bounds some_num some_den
    rw [nearest, if_neg some_num]
    dsimp only
    generalize scale num den = e at least less normal ⊢
    have positive : (0 : ℚ) < 2 ^ e := zpow_pos two_pos e
    have steps : (((e + 1074).toNat : ℕ) : ℤ) - 1074 = e := by omega
    have whole : (num : ℚ) / den = num / den / 2 ^ e * unit (e + 1074).toNat := by
      rw [unit, steps, div_mul_cancel₀ _ positive.ne']
    have rounded : IsRounded (num / den / 2 ^ e) (roundHalfEven (num * Nat.pow 2 (-e).toNat)
        (den * Nat.pow 2 e.toNat)) := by
      rw [← cast_scaled]
      exact isRounded_roundHalfEven _
        (Nat.mul_pos (Nat.pos_of_ne_zero some_den) (Nat.two_pow_pos _))
    rw [whole]
    refine (rounded.isNear ?_ ?_).isNearest
    · rw [div_lt_iff₀ positive]
      refine less.trans_eq ?_
      rw [zpow_add₀ two_ne_zero, mul_comm]
      norm_num
    · refine normal.imp (fun tiny => by omega) fun large => ?_
      rw [le_div_iff₀ positive]
      refine Eq.trans_le ?_ large
      rw [zpow_add₀ two_ne_zero, mul_comm]
      norm_num

end Wayfarer.Binary64
