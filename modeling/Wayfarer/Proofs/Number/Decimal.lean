import Wayfarer.Number.Decimal
import Wayfarer.Proofs.Number.Rounding
import Wayfarer.Proofs.Text.Ends

/-!
Decimals as numbers.

* `Decimal.size`: the number that a decimal stands for, its sign left out;
* `Decimal.isNearest_toBinary64`: **decimals are rounded correctly**, those that are too large or
  too small for a fraction included;
* `Binary64.Approximates`: a pattern is the one nearest to a number, and there is no other;
* `IsPointed`: digits with at most one point; `pointValue`: the number that they write;
* `Decimal.exists_ofPoint?`, `Decimal.isPointed_of_ofPoint?`: such texts, and no others, are read,
  and as that number.
-/

namespace Wayfarer

namespace Binary64

variable {x : ℚ} {m : ℕ}

/-- Sign and magnitude are what a pattern is made of. -/
lemma negative_and_magnitude (negative : Bool) (small : m ≤ infinite) :
    (ofMagnitude negative m).negative = negative ∧ (ofMagnitude negative m).magnitude = m := by
  have bound : m < signWeight := small.trans_lt (by decide)
  cases negative with
  | false =>
      have bits : (ofMagnitude false m).bits.toNat = m :=
        UInt64.toNat_ofNat_of_lt' (bound.trans (by decide))
      rw [Binary64.negative, magnitude, bits, Nat.mod_eq_of_lt bound]
      exact ⟨decide_eq_false (Nat.not_le.mpr bound), rfl⟩
  | true =>
      have bits : (ofMagnitude true m).bits.toNat = signWeight + m :=
        UInt64.toNat_ofNat_of_lt' (by
          have : signWeight + m < signWeight + signWeight := Nat.add_lt_add_left bound _
          exact this.trans_eq (by decide))
      rw [Binary64.negative, magnitude, bits, Nat.add_mod_left, Nat.mod_eq_of_lt bound]
      exact ⟨decide_eq_true (Nat.le_add_right _ _), rfl⟩

/-- The number that the infinite magnitude stands for. -/
lemma value_infinite : value infinite = 2 ^ 1024 := by
  have place : infinite = (2046 + 1) * exponentWeight + 0 := by decide
  have exponent : ((2046 : ℕ) : ℤ) - 1074 = (972 : ℕ) := by norm_num
  have weight : (exponentWeight : ℚ) = 2 ^ 52 := by norm_num
  rw [place, value_of_weight 2046 (by decide), unit, exponent, zpow_natCast, Nat.add_zero, weight,
    ← pow_add]

end Binary64

namespace Decimal

open Binary64

variable {n k : ℕ}

/-! ### Rounding -/

/-- The number that a decimal stands for, its sign left out. -/
def size (d : Decimal) : ℚ :=
  d.digits * 10 ^ d.exponent

lemma lt_pow_length (n : ℕ) : n < 10 ^ length n :=
  (Nat.length_toDigits_le_iff (by decide) Nat.length_toDigits_pos).mp le_rfl

lemma pow_length_le (filled : n ≠ 0) : 10 ^ (length n - 1) ≤ n := by
  by_contra less
  rcases Nat.eq_zero_or_pos (length n - 1) with single | several
  · rw [single] at less
    omega
  · have shorter : length n ≤ length n - 1 :=
      (Nat.length_toDigits_le_iff (by decide) several).mpr (Nat.not_le.mp less)
    omega

/-- The digits of a decimal and its exponent place it between two powers of ten. -/
lemma size_lt (d : Decimal) : d.size < 10 ^ ((length d.digits : ℤ) + d.exponent) := by
  have digits : (d.digits : ℚ) < 10 ^ (length d.digits : ℤ) := by
    rw [zpow_natCast]
    exact_mod_cast lt_pow_length d.digits
  rw [size, zpow_add₀ (by norm_num)]
  exact mul_lt_mul_of_pos_right digits (zpow_pos (by norm_num) _)

lemma le_size {d : Decimal} (filled : d.digits ≠ 0) :
    10 ^ ((length d.digits : ℤ) + d.exponent - 1) ≤ d.size := by
  have positive : 0 < length d.digits := Nat.length_toDigits_pos
  have digits : (10 : ℚ) ^ ((length d.digits : ℤ) - 1) ≤ d.digits := by
    have exponent : (length d.digits : ℤ) - 1 = ((length d.digits - 1 : ℕ) : ℤ) := by omega
    rw [exponent, zpow_natCast]
    exact_mod_cast pow_length_le filled
  have split : (length d.digits : ℤ) + d.exponent - 1 = (length d.digits : ℤ) - 1 + d.exponent := by
    ring
  rw [size, split, zpow_add₀ (by norm_num)]
  exact mul_le_mul_of_nonneg_right digits (zpow_pos (by norm_num) _).le

/-- What is less than a certain power of ten is less than half the least unit. -/
lemma pow_lt_halfway : (10 : ℚ) ^ (-330 : ℤ) < halfway 0 := by
  have powers : (2 : ℚ) ^ 1075 < 10 ^ 330 := by
    exact_mod_cast (by decide +kernel : 2 ^ 1075 < 10 ^ 330)
  have half : halfway 0 = (2 ^ 1075)⁻¹ := by
    have place : halfway (0 * exponentWeight + 0) = ((0 : ℕ) + 1 / 2) * unit 0 :=
      halfway_of_unit (by decide) (Or.inl rfl)
    have exponent : ((0 : ℕ) : ℤ) - 1074 = -((1074 : ℕ) : ℤ) := by norm_num
    have double : (2 : ℚ) ^ 1075 = 2 * 2 ^ 1074 := pow_succ' 2 1074
    rw [Nat.zero_mul, Nat.zero_add, Nat.cast_zero, zero_add, one_div] at place
    rw [place, unit, exponent, zpow_neg, zpow_natCast, double, mul_inv]
  have exponent : (-330 : ℤ) = -((330 : ℕ) : ℤ) := by norm_num
  rw [half, exponent, zpow_neg, zpow_natCast]
  exact inv_strictAnti₀ (by positivity) powers

/-- **Decimals are rounded correctly**, and keep their sign. -/
theorem isNearest_toBinary64 (d : Decimal) :
    IsNearest d.size d.toBinary64.magnitude ∧ d.toBinary64.negative = d.negative := by
  have one_le_ten : (1 : ℚ) ≤ 10 := by norm_num
  rw [toBinary64]
  split_ifs with tiny huge
  · obtain ⟨sign, none⟩ := negative_and_magnitude d.negative (Nat.zero_le infinite)
    have small : d.size < halfway 0 := by
      refine lt_of_le_of_lt ?_ pow_lt_halfway
      rcases tiny with zero | low
      · rw [size, zero, Nat.cast_zero, zero_mul]
        positivity
      · exact d.size_lt.le.trans (zpow_le_zpow_right₀ one_le_ten low.le)
    rw [none]
    exact ⟨(isNear_zero small).isNearest, sign⟩
  · obtain ⟨sign, most⟩ := negative_and_magnitude d.negative (le_refl infinite)
    have beyond : value infinite ≤ d.size := by
      have powers : (2 : ℚ) ^ 1024 ≤ 10 ^ (310 : ℤ) := by
        have whole : (2 : ℚ) ^ 1024 ≤ 10 ^ 310 := by
          exact_mod_cast (by decide +kernel : 2 ^ 1024 ≤ 10 ^ 310)
        exact whole.trans_eq (zpow_natCast 10 310).symm
      calc value infinite = 2 ^ 1024 := value_infinite
        _ ≤ 10 ^ (310 : ℤ) := powers
        _ ≤ 10 ^ ((length d.digits : ℤ) + d.exponent - 1) :=
          zpow_le_zpow_right₀ one_le_ten (by omega)
        _ ≤ d.size := le_size fun zero => tiny (Or.inl zero)
    rw [most]
    exact ⟨isNearest_infinite beyond, sign⟩
  · have fraction : d.size = ((d.digits * Nat.pow 10 d.exponent.toNat : ℕ) : ℚ) /
        (Nat.pow 10 (-d.exponent).toNat : ℕ) := by
      simp only [Nat.pow_eq, Nat.cast_mul, Nat.cast_pow, Nat.cast_ofNat]
      rw [mul_div_assoc, pow_toNat_div_pow_toNat, size]
    have nearest : IsNearest d.size (nearest (d.digits * Nat.pow 10 d.exponent.toNat)
        (Nat.pow 10 (-d.exponent).toNat)) := by
      rw [fraction]
      exact isNearest_nearest _ (Nat.pow_pos (by decide)).ne'
    obtain ⟨sign, same⟩ := negative_and_magnitude d.negative nearest.le_infinite
    rw [ofFraction, same]
    exact ⟨nearest, sign⟩

end Decimal

/-- A pattern without a sign is the one nearest to a number. -/
structure Binary64.Approximates (b : Binary64) (x : ℚ) : Prop where
  positive : b.negative = false
  nearest : Binary64.IsNearest x b.magnitude

/-- There is one such pattern. -/
lemma Binary64.Approximates.unique {b b' : Binary64} {x : ℚ} (here : b.Approximates x)
    (there : b'.Approximates x) : b = b' := by
  have bits : ∀ {b : Binary64}, b.Approximates x → b.bits.toNat = b.magnitude := fun near =>
    (Nat.mod_eq_of_lt (Nat.not_le.mp (of_decide_eq_false near.positive))).symm
  have same : b.bits.toNat = b'.bits.toNat := by
    rw [bits here, bits there, here.nearest.unique there.nearest]
  cases b
  cases b'
  exact congrArg Binary64.mk (UInt64.toNat_inj.mp same)

lemma Decimal.approximates_toBinary64 {d : Decimal} (positive : d.negative = false) :
    d.toBinary64.Approximates d.size := by
  obtain ⟨nearest, sign⟩ := d.isNearest_toBinary64
  exact ⟨sign.trans positive, nearest⟩

/-! ### Digits with a point -/

/-- The number that digits write, each with the power of ten of its place. -/
def wholeValue : List Char → ℕ
  | [] => 0
  | c :: cs => digitValue c * 10 ^ cs.length + wholeValue cs

/-- The number that digits behind a point write, each with a tenth of the place before. -/
def partValue : List Char → ℚ
  | [] => 0
  | c :: cs => (digitValue c + partValue cs) / 10

/-- The number that digits with a point write. -/
def pointValue (cs : List Char) : ℚ :=
  wholeValue (cs.takeWhile Char.isDigit) + partValue ((cs.dropWhile Char.isDigit).drop 1)

/-- Digits with at most one point among them, and at least one digit. -/
structure IsPointed (cs : List Char) : Prop where
  chars : ∀ c ∈ cs, c.isDigit = true ∨ c = '.'
  digit : ∃ c ∈ cs, c.isDigit = true
  points : cs.count '.' ≤ 1

variable {cs whole part : List Char}

lemma wholeValue_append (whole part : List Char) :
    wholeValue (whole ++ part) = wholeValue whole * 10 ^ part.length + wholeValue part := by
  induction whole with
  | nil => simp [wholeValue]
  | cons c whole ih =>
      rw [List.cons_append, wholeValue, wholeValue, ih, List.length_append, pow_add]
      ring

/-- Behind a point digits write as many tenths of tenths of a number as there are of them. -/
lemma partValue_mul_pow (part : List Char) :
    partValue part * 10 ^ part.length = wholeValue part := by
  induction part with
  | nil => simp [partValue, wholeValue]
  | cons c part ih =>
      rw [partValue, wholeValue, List.length_cons]
      push_cast
      rw [← ih, pow_succ]
      ring

lemma readDigits_eq_wholeValue (cs : List Char) :
    readDigits 10 (cs.map digitValue) = wholeValue cs := by
  have read : ∀ n, (cs.map digitValue).foldl (fun n d => n * 10 + d) n =
      n * 10 ^ cs.length + wholeValue cs := by
    induction cs with
    | nil => simp [wholeValue]
    | cons c cs ih =>
        intro n
        rw [List.map_cons, List.foldl_cons, ih, wholeValue, List.length_cons, pow_succ]
        ring
  rw [readDigits, read, Nat.zero_mul, Nat.zero_add]

lemma not_isDigit_point : ('.' : Char).isDigit = false := by decide

/-- Digits are digits to their end, -/
lemma span_of_digits (digits : ∀ c ∈ cs, c.isDigit = true) :
    cs.takeWhile Char.isDigit = cs ∧ cs.dropWhile Char.isDigit = [] :=
  ⟨List.takeWhile_eq_self_iff.mpr digits, List.dropWhile_eq_nil_iff.mpr digits⟩

/-- or up to a point. -/
lemma span_of_parts (digits : ∀ c ∈ whole, c.isDigit = true) (part : List Char) :
    (whole ++ '.' :: part).takeWhile Char.isDigit = whole ∧
      (whole ++ '.' :: part).dropWhile Char.isDigit = '.' :: part := by
  have point : ∀ c ∈ ('.' :: part).head?, c.isDigit = false := by
    rintro c ⟨⟩
    exact not_isDigit_point
  exact ⟨takeWhile_append_of_head digits point, dropWhile_append_of_head digits point⟩

/-- Such a text is a number of digits, or has a point between two of them. -/
lemma IsPointed.whole_or_parts (pointed : IsPointed cs) :
    (cs ≠ [] ∧ ∀ c ∈ cs, c.isDigit = true) ∨
      ∃ whole part, cs = whole ++ '.' :: part ∧ (∀ c ∈ whole, c.isDigit = true) ∧
        (∀ c ∈ part, c.isDigit = true) ∧ (whole ≠ [] ∨ part ≠ []) := by
  have split : cs.takeWhile Char.isDigit ++ cs.dropWhile Char.isDigit = cs :=
    List.takeWhile_append_dropWhile
  have digits : ∀ c ∈ cs.takeWhile Char.isDigit, c.isDigit = true :=
    fun c => List.mem_takeWhile_imp
  obtain ⟨d, inside, digit⟩ := pointed.digit
  cases rest : cs.dropWhile Char.isDigit with
  | nil =>
      rw [rest, List.append_nil] at split
      rw [split] at digits
      exact Or.inl ⟨List.ne_nil_of_mem inside, digits⟩
  | cons c part =>
      rw [rest] at split
      have first : c = '.' := by
        have outside : c.isDigit = false := by
          refine head_dropWhile Char.isDigit cs c ?_
          rw [rest]
          rfl
        have mem : c ∈ cs := by
          rw [← split]
          simp
        exact (pointed.chars c mem).resolve_left (Bool.eq_false_iff.mp outside)
      subst first
      have single : part.count '.' = 0 := by
        have points := pointed.points
        rw [← split, List.count_append, List.count_cons_self] at points
        omega
      have others : ∀ c ∈ part, c.isDigit = true := by
        intro c mem
        refine (pointed.chars c ?_).resolve_right fun point => ?_
        · rw [← split]
          simp [mem]
        · exact List.count_eq_zero.mp single (point ▸ mem)
      refine Or.inr ⟨_, part, split.symm, digits, others, ?_⟩
      by_contra empty
      obtain ⟨none, none'⟩ := not_or.mp empty
      rw [not_not] at none none'
      rw [← split, none, none'] at inside
      obtain rfl : d = '.' := by simpa using inside
      exact Bool.false_ne_true (not_isDigit_point.symm.trans digit)

lemma count_point_of_digits (digits : ∀ c ∈ cs, c.isDigit = true) : cs.count '.' = 0 := by
  refine List.count_eq_zero.mpr fun mem => ?_
  exact Bool.false_ne_true (not_isDigit_point.symm.trans (digits _ mem))

lemma isPointed_of_digits (filled : cs ≠ []) (digits : ∀ c ∈ cs, c.isDigit = true) :
    IsPointed cs where
  chars c mem := Or.inl (digits c mem)
  digit := by
    obtain ⟨c, mem⟩ := List.exists_mem_of_ne_nil cs filled
    exact ⟨c, mem, digits c mem⟩
  points := (count_point_of_digits digits).trans_le zero_le_one

lemma isPointed_of_parts (digits : ∀ c ∈ whole, c.isDigit = true)
    (digits' : ∀ c ∈ part, c.isDigit = true) (filled : whole ≠ [] ∨ part ≠ []) :
    IsPointed (whole ++ '.' :: part) where
  chars c mem := by
    rcases List.mem_append.mp mem with front | behind
    · exact Or.inl (digits c front)
    · exact (List.mem_cons.mp behind).symm.imp_left (digits' c)
  digit := by
    rcases filled with some_whole | some_part
    · obtain ⟨c, mem⟩ := List.exists_mem_of_ne_nil whole some_whole
      exact ⟨c, by simp [mem], digits c mem⟩
    · obtain ⟨c, mem⟩ := List.exists_mem_of_ne_nil part some_part
      exact ⟨c, by simp [mem], digits' c mem⟩
  points := by
    rw [List.count_append, List.count_cons_self, count_point_of_digits digits,
      count_point_of_digits digits']

lemma pointValue_of_digits (digits : ∀ c ∈ cs, c.isDigit = true) :
    pointValue cs = wholeValue cs := by
  obtain ⟨all, none⟩ := span_of_digits digits
  rw [pointValue, all, none, List.drop_nil, partValue, add_zero]

lemma pointValue_of_parts (digits : ∀ c ∈ whole, c.isDigit = true) (part : List Char) :
    pointValue (whole ++ '.' :: part) = wholeValue whole + partValue part := by
  obtain ⟨front, behind⟩ := span_of_parts digits part
  rw [pointValue, front, behind, List.drop_one, List.tail_cons]

namespace Decimal

/-- Digits are read as a whole number. -/
lemma ofPoint?_of_digits (filled : cs ≠ []) (digits : ∀ c ∈ cs, c.isDigit = true) :
    ofPoint? cs = some ⟨false, wholeValue cs, 0⟩ := by
  obtain ⟨all, none⟩ := span_of_digits digits
  rw [ofPoint?, all, none]
  simp [filled, readDigits_eq_wholeValue]

/-- Digits on the sides of a point are read as a whole number of powers of ten. -/
lemma ofPoint?_of_parts (digits : ∀ c ∈ whole, c.isDigit = true)
    (digits' : ∀ c ∈ part, c.isDigit = true) (filled : whole ≠ [] ∨ part ≠ []) :
    ofPoint? (whole ++ '.' :: part) = some ⟨false, wholeValue (whole ++ part), -part.length⟩ := by
  obtain ⟨front, behind⟩ := span_of_parts digits part
  have some_digit : (whole.isEmpty && part.isEmpty) = false := by
    rw [← Bool.not_eq_true, Bool.and_eq_true, List.isEmpty_iff, List.isEmpty_iff]
    tauto
  rw [ofPoint?, front, behind]
  simp only [List.all_eq_true.mpr digits', some_digit, Bool.not_false, Bool.and_true, if_true,
    readDigits_eq_wholeValue]

/-- **Digits with at most one point are read**, and as the number that they write. -/
lemma exists_ofPoint? (pointed : IsPointed cs) :
    ∃ d, ofPoint? cs = some d ∧ d.negative = false ∧ d.size = pointValue cs := by
  rcases pointed.whole_or_parts with ⟨filled, digits⟩ | ⟨whole, part, rfl, digits, digits', filled⟩
  · refine ⟨_, ofPoint?_of_digits filled digits, rfl, ?_⟩
    rw [pointValue_of_digits digits, size, zpow_zero, mul_one]
  · refine ⟨_, ofPoint?_of_parts digits digits' filled, rfl, ?_⟩
    have power : (10 : ℚ) ^ part.length ≠ 0 := by positivity
    rw [pointValue_of_parts digits, size, wholeValue_append]
    push_cast
    rw [← partValue_mul_pow part, zpow_neg, zpow_natCast]
    field_simp

/-- No other texts are read. -/
lemma isPointed_of_ofPoint? {d : Decimal} (reads : ofPoint? cs = some d) : IsPointed cs := by
  have split : cs.takeWhile Char.isDigit ++ cs.dropWhile Char.isDigit = cs :=
    List.takeWhile_append_dropWhile
  have digits : ∀ c ∈ cs.takeWhile Char.isDigit, c.isDigit = true :=
    fun c => List.mem_takeWhile_imp
  rw [ofPoint?] at reads
  cases rest : cs.dropWhile Char.isDigit with
  | nil =>
      rw [rest] at reads
      rw [rest, List.append_nil] at split
      rw [split] at digits reads
      refine isPointed_of_digits (fun empty => ?_) digits
      rw [empty] at reads
      cases reads
  | cons c part =>
      rw [rest] at reads split
      by_cases point : c = '.'
      · subst point
        rw [← split]
        simp only [Option.ite_none_right_eq_some, Bool.and_eq_true, List.all_eq_true] at reads
        obtain ⟨⟨digits', filled⟩, -⟩ := reads
        refine isPointed_of_parts digits digits' ?_
        simpa [not_and_or] using filled
      · simp [point] at reads

end Decimal

end Wayfarer
