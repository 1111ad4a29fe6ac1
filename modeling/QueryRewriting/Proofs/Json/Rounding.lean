import Mathlib.Order.Monotone.Basic
import Mathlib.Tactic.Ring
import QueryRewriting.Json.Number

/-!
Rounding to binary64 in exact terms. A magnitude is a significand and the place of its last digit,
so larger magnitudes have larger values; rounding is monotone, and the double nearest to an integer
of 64 bits has the value of the nearest integer of 53 binary digits.
-/

namespace QueryRewriting.Json.Binary64

theorem nearest_eq (num den : Nat) : nearest num den =
    if 2 * (num % den) < den then num / den
    else if den < 2 * (num % den) then num / den + 1
    else num / den + num / den % 2 := rfl

theorem div_le_nearest (num den : Nat) : num / den ≤ nearest num den := by
  rw [nearest_eq]
  split
  · exact Nat.le_refl _
  · split <;> omega

theorem nearest_le_div_succ (num den : Nat) : nearest num den ≤ num / den + 1 := by
  rw [nearest_eq]
  split
  · omega
  · split <;> omega

theorem nearest_mono (den : Nat) {a b : Nat} (below : a ≤ b) : nearest a den ≤ nearest b den := by
  have quotients : a / den ≤ b / den := Nat.div_le_div_right below
  rcases Nat.lt_or_eq_of_le quotients with apart | same
  · have upper := nearest_le_div_succ a den
    have lower := div_le_nearest b den
    omega
  · -- within one quotient the remainders decide
    have rests : a % den ≤ b % den := by
      have first := Nat.div_add_mod a den
      have second := Nat.div_add_mod b den
      rw [same] at first
      omega
    rw [nearest_eq, nearest_eq, same]
    split_ifs <;> omega

theorem nearest_mul {scale : Nat} (positive : 0 < scale) (num den : Nat) :
    nearest (num * scale) (den * scale) = nearest num den := by
  have doubled : 2 * (num % den * scale) = 2 * (num % den) * scale := (Nat.mul_assoc _ _ _).symm
  simp only [nearest_eq, Nat.mul_div_mul_right _ _ positive, Nat.mul_mod_mul_right, doubled,
    Nat.mul_lt_mul_right positive]

/-- Rounding moves a quotient by at most one half. -/
theorem nearest_within {den : Nat} (positive : 0 < den) (num : Nat) :
    2 * (nearest num den * den) ≤ 2 * num + den ∧ 2 * num ≤ 2 * (nearest num den * den) + den := by
  have parts : num / den * den + num % den = num := by
    rw [Nat.mul_comm]
    exact Nat.div_add_mod num den
  rw [nearest_eq]
  split_ifs with below above
  · omega
  · have rest := Nat.mod_lt num positive
    rw [Nat.add_mul]
    omega
  · rcases Nat.mod_two_eq_zero_or_one (num / den) with even | odd
    · rw [even, Nat.add_zero]
      omega
    · rw [odd, Nat.add_mul]
      omega

theorem nearest_of_dvd {num den : Nat} (positive : 0 < den) (exact : den ∣ num) :
    nearest num den = num / den := by
  rw [nearest_eq, Nat.mod_eq_zero_of_dvd exact, if_pos (by omega)]

/-- A magnitude is a significand of 53 bits (or fewer, at the smallest unit) and the number of its
unit's doublings. -/
theorem units_of_parts {significand doublings : Nat} (upper : significand ≤ 1 <<< 53)
    (lower : doublings = 0 ∨ 1 <<< 52 ≤ significand) :
    units (doublings <<< 52 + significand) = significand <<< doublings := by
  have place : (doublings <<< 52 + significand) >>> 52 = doublings + significand >>> 52 := by omega
  unfold units Binary64.doublings
  rw [place]
  rcases Nat.lt_or_ge significand (1 <<< 52) with subnormal | normal
  · have none : doublings = 0 := by omega
    subst none
    have small : significand >>> 52 = 0 := by omega
    rw [small]
    simp
  · rcases Nat.lt_or_eq_of_le upper with inside | full
    · have one : significand >>> 52 = 1 := by omega
      rw [one, Nat.add_sub_cancel, Nat.add_sub_cancel_left]
    · -- the significand was rounded up to a power of two, which is written in the next unit
      have two : significand >>> 52 = 2 := by omega
      have rest : doublings <<< 52 + significand - (doublings + 1) <<< 52 = 1 <<< 52 := by omega
      rw [two, show doublings + 2 - 1 = doublings + 1 from rfl, rest, full]
      simp only [Nat.shiftLeft_eq]
      ring

theorem units_lt_succ (magnitude : Nat) : units magnitude < units (magnitude + 1) := by
  obtain ⟨doublings, significand, rfl, upper, lower⟩ :
      ∃ doublings significand, magnitude = doublings <<< 52 + significand ∧
        significand < 1 <<< 53 ∧ (doublings = 0 ∨ 1 <<< 52 ≤ significand) :=
    ⟨magnitude >>> 52 - 1, magnitude - (magnitude >>> 52 - 1) <<< 52, by omega, by omega, by omega⟩
  rw [Nat.add_assoc, units_of_parts (by omega) lower, units_of_parts (by omega) (by omega),
    Nat.shiftLeft_eq, Nat.shiftLeft_eq]
  exact Nat.mul_lt_mul_of_pos_right (Nat.lt_succ_self _) (Nat.two_pow_pos _)

theorem units_strictMono : StrictMono units := strictMono_nat_of_lt_succ units_lt_succ

theorem units_zero : units 0 = 0 := rfl

/-- The significand of a rounded quotient has 53 bits, or rounds up to the next power of two. -/
theorem significand_bounds (num den : Nat) :
    nearest num (den <<< ((num / den).log2 - 52)) ≤ 1 <<< 53 ∧
      ((num / den).log2 - 52 = 0 ∨ 1 <<< 52 ≤ nearest num (den <<< ((num / den).log2 - 52))) := by
  have quotient : num / den <<< ((num / den).log2 - 52) =
      num / den / 2 ^ ((num / den).log2 - 52) := by
    rw [Nat.shiftLeft_eq, Nat.div_div_eq_div_mul]
  have below := div_le_nearest num (den <<< ((num / den).log2 - 52))
  have above := nearest_le_div_succ num (den <<< ((num / den).log2 - 52))
  rw [quotient] at below above
  have size : num / den < 2 ^ ((num / den).log2 + 1) := Nat.lt_log2_self
  have upper : num / den / 2 ^ ((num / den).log2 - 52) < 2 ^ 53 := by
    apply Nat.div_lt_of_lt_mul
    rw [← pow_add]
    exact Nat.lt_of_lt_of_le size (Nat.pow_le_pow_right (by omega) (by omega))
  constructor
  · omega
  · rcases Nat.eq_zero_or_pos ((num / den).log2 - 52) with none | some
    · exact .inl none
    · right
      have nonzero : num / den ≠ 0 := by
        intro zero
        rw [zero] at some
        simp at some
      have lower : 2 ^ 52 ≤ num / den / 2 ^ ((num / den).log2 - 52) := by
        rw [Nat.le_div_iff_mul_le (Nat.two_pow_pos _), ← pow_add]
        have same : 52 + ((num / den).log2 - 52) = (num / den).log2 := by omega
        rw [same]
        exact Nat.log2_self_le nonzero
      omega

theorem units_rounded (num den : Nat) : units (rounded num den) =
    nearest num (den <<< ((num / den).log2 - 52)) <<< ((num / den).log2 - 52) :=
  units_of_parts (significand_bounds num den).1 (significand_bounds num den).2

theorem log2_mono {a b : Nat} (below : a ≤ b) : a.log2 ≤ b.log2 := by
  rcases Nat.eq_zero_or_pos a with rfl | positive
  · simp
  · rw [Nat.le_log2 (by omega)]
    exact (Nat.log2_self_le (by omega)).trans below

theorem rounded_mono (den : Nat) {a b : Nat} (below : a ≤ b) : rounded a den ≤ rounded b den := by
  have quotients : a / den ≤ b / den := Nat.div_le_div_right below
  have places : (a / den).log2 - 52 ≤ (b / den).log2 - 52 :=
    Nat.sub_le_sub_right (log2_mono quotients) 52
  unfold rounded
  dsimp only
  rcases Nat.lt_or_eq_of_le places with apart | same
  · obtain ⟨upper, -⟩ := significand_bounds a den
    obtain ⟨-, lower⟩ := significand_bounds b den
    omega
  · rw [same]
    exact Nat.add_le_add_left (nearest_mono _ below) _

theorem one_shiftLeft_pos (places : Nat) : 0 < 1 <<< places := by
  rw [Nat.one_shiftLeft]
  exact Nat.two_pow_pos places

/-- The whole number of at most 53 significant binary digits nearest to a whole number; a tie goes
to the even one. -/
def nearestWhole (n : Nat) : Nat := nearest n (1 <<< (n.log2 - 52)) <<< (n.log2 - 52)

theorem nearestWhole_of_le {n : Nat} (small : n ≤ 1 <<< 53) : nearestWhole n = n := by
  unfold nearestWhole
  rcases Nat.lt_or_eq_of_le small with below | rfl
  · have short : n.log2 - 52 = 0 := by
      rcases Nat.eq_zero_or_pos n with rfl | positive
      · simp
      · have size : n.log2 < 53 := (Nat.log2_lt (by omega)).mpr (by omega)
        omega
    rw [short, Nat.shiftLeft_zero, Nat.shiftLeft_zero, nearest_of_dvd (by omega) (Nat.one_dvd n),
      Nat.div_one]
  · decide +kernel

theorem unitsInOne_pos : 0 < unitsInOne := by decide +kernel

theorem shiftLeft_add_unit (n places : Nat) :
    n <<< (places + 1074) = n <<< places * unitsInOne := by
  unfold unitsInOne
  rw [Nat.shiftLeft_add, Nat.shiftLeft_eq _ 1074, Nat.one_shiftLeft]

theorem log2_shiftLeft {n : Nat} (positive : 0 < n) (places : Nat) :
    (n <<< places).log2 = n.log2 + places := by
  have lower := Nat.log2_self_le (n := n) (by omega)
  have upper : n < 2 ^ (n.log2 + 1) := Nat.lt_log2_self
  rw [Nat.shiftLeft_eq]
  apply (Nat.log2_eq_iff (Nat.mul_pos positive (Nat.two_pow_pos places)).ne').mpr
  constructor
  · rw [pow_add]
    exact Nat.mul_le_mul_right _ lower
  · rw [Nat.add_right_comm, pow_add]
    exact Nat.mul_lt_mul_of_pos_right upper (Nat.two_pow_pos _)

theorem shiftLeft_dvd_shiftLeft {few many : Nat} (fewer : few ≤ many) (n : Nat) :
    1 <<< few ∣ n <<< many := by
  rw [Nat.one_shiftLeft, Nat.shiftLeft_eq]
  exact Nat.dvd_mul_left_of_dvd (Nat.pow_dvd_pow 2 fewer) n

/-- The double nearest to a whole number has the value of the nearest whole number of 53 digits. -/
theorem units_wholeMagnitude (n : Nat) :
    units (wholeMagnitude n) = nearestWhole n * unitsInOne := by
  rcases Nat.eq_zero_or_pos n with rfl | positive
  · decide +kernel
  have shifted : n * unitsInOne = n <<< 1074 := (shiftLeft_add_unit n 0).symm
  have size : (n * unitsInOne).log2 = n.log2 + 1074 := by rw [shifted, log2_shiftLeft positive]
  unfold wholeMagnitude
  rw [units_rounded, Nat.div_one, size]
  rcases Nat.le_total 52 n.log2 with long | short
  · have places : n.log2 + 1074 - 52 = (n.log2 - 52) + 1074 := by omega
    rw [places, shiftLeft_add_unit 1, nearest_mul unitsInOne_pos, shiftLeft_add_unit]
    rfl
  · have exact : 1 <<< (n.log2 + 1074 - 52) ∣ n * unitsInOne := by
      rw [shifted]
      exact shiftLeft_dvd_shiftLeft (by omega) n
    have unit := one_shiftLeft_pos (n.log2 + 1074 - 52)
    have small : n ≤ 1 <<< 53 := by
      have upper : n < 2 ^ (n.log2 + 1) := Nat.lt_log2_self
      have room : 2 ^ (n.log2 + 1) ≤ 2 ^ 53 := Nat.pow_le_pow_right (by omega) (by omega)
      omega
    rw [nearest_of_dvd unit exact, nearestWhole_of_le small, Nat.shiftLeft_eq,
      ← Nat.one_shiftLeft, Nat.div_mul_cancel exact]

theorem nearestWhole_mono {a b : Nat} (below : a ≤ b) : nearestWhole a ≤ nearestWhole b := by
  have magnitudes : wholeMagnitude a ≤ wholeMagnitude b :=
    rounded_mono 1 (Nat.mul_le_mul_right _ below)
  have values := units_strictMono.monotone magnitudes
  rw [units_wholeMagnitude, units_wholeMagnitude] at values
  exact Nat.le_of_mul_le_mul_right values unitsInOne_pos

/-- Among the whole numbers of 64 bits the nearest one is never farther than 1024. -/
theorem nearestWhole_within {n : Nat} (small : n < 1 <<< 64) :
    nearestWhole n ≤ n + 1024 ∧ n ≤ nearestWhole n + 1024 := by
  have size : n.log2 - 52 ≤ 11 := by
    rcases Nat.eq_zero_or_pos n with rfl | positive
    · simp
    · have length : n.log2 < 64 := (Nat.log2_lt (by omega)).mpr (by omega)
      omega
  have spacing : 1 <<< (n.log2 - 52) ≤ 2048 := by
    rw [Nat.one_shiftLeft]
    exact Nat.pow_le_pow_right (by omega) size
  have near := nearest_within (one_shiftLeft_pos (n.log2 - 52)) n
  unfold nearestWhole
  rw [Nat.shiftLeft_eq _ (n.log2 - 52), ← Nat.one_shiftLeft]
  omega

/-- The whole numbers of 64 bits are far below the largest double. -/
theorem wholeMagnitude_finite {n : Nat} (small : n ≤ 1 <<< 64) :
    wholeMagnitude n ≤ infinity - 1 := by
  have bound : wholeMagnitude (1 <<< 64) ≤ infinity - 1 := by decide +kernel
  exact (rounded_mono 1 (Nat.mul_le_mul_right _ small)).trans bound

/-- The exact value of a double, in units. -/
def value (d : Binary64) : Int :=
  if d.negative then -(units d.magnitude : Int) else units d.magnitude

theorem value_lt_iff (a b : Binary64) : a.value < b.value ↔ a.rank < b.rank := by
  have ascending := units_strictMono.lt_iff_lt (a := a.magnitude) (b := b.magnitude)
  have descending := units_strictMono.lt_iff_lt (a := b.magnitude) (b := a.magnitude)
  have first := units_strictMono.lt_iff_lt (a := 0) (b := a.magnitude)
  have second := units_strictMono.lt_iff_lt (a := 0) (b := b.magnitude)
  rw [units_zero] at first second
  unfold value rank
  cases a.negative <;> cases b.negative <;> simp only [if_true, if_false, Bool.false_eq_true] <;>
    omega

theorem compare_congr {a b c d : Int} (lower : a < b ↔ c < d) (upper : b < a ↔ d < c) :
    compare a b = compare c d := by
  rcases Int.lt_trichotomy a b with below | same | above
  · rw [compare_lt_iff_lt.mpr below, compare_lt_iff_lt.mpr (lower.mp below)]
  · rw [compare_eq_iff_eq.mpr same, compare_eq_iff_eq.mpr (by omega)]
  · rw [compare_gt_iff_gt.mpr above, compare_gt_iff_gt.mpr (upper.mp above)]

/-- Doubles are ordered by their exact values. -/
theorem compareValues_eq (a b : Binary64) : compareValues a b = compare a.value b.value :=
  compare_congr (value_lt_iff a b).symm (value_lt_iff b a).symm

/-- The integer of at most 53 significant binary digits nearest to an integer. -/
def nearestInt (z : Int) : Int := z.sign * nearestWhole z.natAbs

theorem nearestInt_of_natAbs_le {z : Int} (small : z.natAbs ≤ 1 <<< 53) : nearestInt z = z := by
  unfold nearestInt
  rw [nearestWhole_of_le small, Int.sign_mul_natAbs]

theorem nearestInt_within {z : Int} (small : z.natAbs < 1 <<< 64) :
    nearestInt z ≤ z + 1024 ∧ z ≤ nearestInt z + 1024 := by
  have near := nearestWhole_within small
  unfold nearestInt
  rcases Int.lt_trichotomy z 0 with negative | rfl | positive
  · rw [Int.sign_eq_neg_one_of_neg negative]
    omega
  · simp
  · rw [Int.sign_eq_one_of_pos positive]
    omega

theorem magnitude_ofInt {z : Int} (small : z.natAbs ≤ 1 <<< 64) :
    (ofInt z).magnitude = wholeMagnitude z.natAbs := Nat.min_eq_left (wholeMagnitude_finite small)

/-- The double nearest to an integer has the value of the nearest integer of 53 digits. -/
theorem value_ofInt {z : Int} (small : z.natAbs ≤ 1 <<< 64) :
    (ofInt z).value = nearestInt z * unitsInOne := by
  have sign : (ofInt z).negative = decide (z < 0) := rfl
  unfold value nearestInt
  rw [magnitude_ofInt small, units_wholeMagnitude, sign]
  rcases Int.lt_trichotomy z 0 with negative | rfl | positive
  · rw [if_pos (decide_eq_true negative), Int.sign_eq_neg_one_of_neg negative]
    push_cast
    ring
  · simp [nearestWhole_of_le]
  · rw [if_neg (by simp; omega), Int.sign_eq_one_of_pos positive]
    push_cast
    ring

theorem nearestInt_mono {a b : Int} (below : a ≤ b) : nearestInt a ≤ nearestInt b := by
  unfold nearestInt
  rcases Int.lt_trichotomy a 0 with negative | rfl | positive
  · rcases Int.lt_trichotomy b 0 with negative' | rfl | positive'
    · have magnitudes := nearestWhole_mono (a := b.natAbs) (b := a.natAbs) (by omega)
      rw [Int.sign_eq_neg_one_of_neg negative, Int.sign_eq_neg_one_of_neg negative']
      omega
    · rw [Int.sign_eq_neg_one_of_neg negative]
      simp
    · rw [Int.sign_eq_neg_one_of_neg negative, Int.sign_eq_one_of_pos positive']
      omega
  · have nonnegative : 0 ≤ b.sign := Int.sign_nonneg_iff.mpr below
    simpa using Int.mul_nonneg nonnegative (Int.natCast_nonneg _)
  · have magnitudes := nearestWhole_mono (a := a.natAbs) (b := b.natAbs) (by omega)
    rw [Int.sign_eq_one_of_pos positive, Int.sign_eq_one_of_pos (by omega)]
    omega

/-- Integers of 64 bits that are farther than 2048 apart keep their order. -/
theorem nearestInt_lt {a b : Int} (small : a.natAbs < 1 <<< 64) (small' : b.natAbs < 1 <<< 64)
    (distant : a + 2048 < b) : nearestInt a < nearestInt b := by
  have first := nearestInt_within small
  have second := nearestInt_within small'
  omega

/-- Integers of 64 bits are ordered as the nearest integers of 53 digits are. -/
theorem compareValues_ofInt {a b : Int} (small : a.natAbs ≤ 1 <<< 64)
    (small' : b.natAbs ≤ 1 <<< 64) :
    compareValues (ofInt a) (ofInt b) = compare (nearestInt a) (nearestInt b) := by
  have unit : (0 : Int) < unitsInOne := by exact_mod_cast unitsInOne_pos
  rw [compareValues_eq, value_ofInt small, value_ofInt small']
  exact compare_congr (Int.mul_lt_mul_right unit) (Int.mul_lt_mul_right unit)

end QueryRewriting.Json.Binary64
