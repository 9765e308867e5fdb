/-
# Proofs.Number.Rounding -- integers as binary64 numbers

`nearest` rounds an integer to the 53 leading bits of its magnitude, ties to even, and the binary64
number for an integer stands there (`Binary64.places_ofInt`).  Rounding keeps the order
(`nearest_mono`), moves nothing of magnitude up to `2 ^ 53` (`nearest_exact`), and moves nothing of
less than 64 bits further than `2 ^ 10` (`nearest_close`).  So it can do one thing only to two
integers: make one number of them (`Merged`), which takes magnitudes from `2 ^ 53` on
(`Merged.large`) that are at most `2 ^ 11` apart (`Merged.close`).
-/
import Cqrs.Number.Binary64
import Mathlib.Algebra.Order.Ring.Int
import Mathlib.Tactic.Linarith

namespace Cqrs.Number

set_option autoImplicit false

/-! ## Quotients -/

/-- The nearest whole number is the quotient, or from the half on the next one. -/
theorem roundQuotient_cases (num den : Nat) :
    (roundQuotient num den = num / den ∧ 2 * (num % den) ≤ den) ∨
      (roundQuotient num den = num / den + 1 ∧ den ≤ 2 * (num % den)) := by
  unfold roundQuotient
  dsimp only
  split
  · rename_i up
    simp only [Bool.or_eq_true, decide_eq_true_eq, Bool.and_eq_true, beq_iff_eq] at up
    right
    constructor
    · rfl
    · omega
  · rename_i down
    simp only [Bool.or_eq_true, decide_eq_true_eq, Bool.and_eq_true, beq_iff_eq] at down
    left
    constructor
    · rfl
    · omega

theorem roundQuotient_mul_right (num den : Nat) {scale : Nat} (positive : 0 < scale) :
    roundQuotient (num * scale) (den * scale) = roundQuotient num den := by
  unfold roundQuotient
  dsimp only
  rw [Nat.mul_div_mul_right _ _ positive, Nat.mul_mod_mul_right, ← Nat.mul_assoc]
  have less : den * scale < 2 * (num % den) * scale ↔ den < 2 * (num % den) :=
    Nat.mul_lt_mul_right positive
  have same : (2 * (num % den) * scale == den * scale) = (2 * (num % den) == den) := by
    rw [Bool.eq_iff_iff, beq_iff_eq, beq_iff_eq, Nat.mul_left_inj (Nat.ne_of_gt positive)]
  simp only [less, same]

theorem roundQuotient_mul_self (count : Nat) {den : Nat} (positive : 0 < den) :
    roundQuotient (count * den) den = count := by
  unfold roundQuotient
  dsimp only
  rw [Nat.mul_div_cancel _ positive, Nat.mul_mod_left, Nat.mul_zero, if_neg]
  simp [Nat.ne_of_lt positive]

theorem roundQuotient_mono {a b : Nat} (le : a ≤ b) (den : Nat) :
    roundQuotient a den ≤ roundQuotient b den := by
  have quotients : a / den ≤ b / den := Nat.div_le_div_right le
  rcases Nat.lt_or_eq_of_le quotients with less | same
  · have first := roundQuotient_cases a den
    have second := roundQuotient_cases b den
    omega
  · have remainders : a % den ≤ b % den := by
      have splitA := Nat.div_add_mod a den
      have splitB := Nat.div_add_mod b den
      rw [same] at splitA
      omega
    unfold roundQuotient
    dsimp only
    rw [same]
    split
    · rename_i up
      rw [if_pos]
      simp only [Bool.or_eq_true, decide_eq_true_eq, Bool.and_eq_true, beq_iff_eq] at up ⊢
      omega
    · split
      · omega
      · omega

/-! ## Magnitudes -/

/-- The magnitude of 53 leading bits that is nearest to another one. -/
def nearestMagnitude (n : Nat) : Nat :=
  roundQuotient n (spacing n) * spacing n

theorem spacing_eq (n : Nat) : spacing n = 2 ^ (n.log2 - 52) := rfl

theorem spacing_pos (n : Nat) : 0 < spacing n := Nat.two_pow_pos _

/-- Rounding does not pass a multiple of the spacing that is above. -/
theorem nearestMagnitude_le {n bound : Nat} (multiple : spacing n ∣ bound) (le : n ≤ bound) :
    nearestMagnitude n ≤ bound := by
  obtain ⟨count, rfl⟩ := multiple
  rw [Nat.mul_comm] at le ⊢
  apply Nat.mul_le_mul_right
  calc roundQuotient n (spacing n)
      ≤ roundQuotient (count * spacing n) (spacing n) := roundQuotient_mono le _
    _ = count := roundQuotient_mul_self count (spacing_pos n)

/-- Rounding does not pass a multiple of the spacing that is below. -/
theorem le_nearestMagnitude {n bound : Nat} (multiple : spacing n ∣ bound) (le : bound ≤ n) :
    bound ≤ nearestMagnitude n := by
  obtain ⟨count, rfl⟩ := multiple
  rw [Nat.mul_comm] at le ⊢
  apply Nat.mul_le_mul_right
  calc count = roundQuotient (count * spacing n) (spacing n) :=
        (roundQuotient_mul_self count (spacing_pos n)).symm
    _ ≤ roundQuotient n (spacing n) := roundQuotient_mono le _

theorem nearestMagnitude_of_dvd {n : Nat} (multiple : spacing n ∣ n) : nearestMagnitude n = n :=
  Nat.le_antisymm (nearestMagnitude_le multiple (Nat.le_refl n))
    (le_nearestMagnitude multiple (Nat.le_refl n))

theorem spacing_dvd_pow {n k : Nat} (le : n.log2 ≤ k) : spacing n ∣ 2 ^ k :=
  Nat.pow_dvd_pow 2 (by omega)

theorem log2_mono {a b : Nat} (le : a ≤ b) : a.log2 ≤ b.log2 := by
  by_cases zero : a = 0
  · simp [zero]
  · by_contra above
    have lower := Nat.log2_self_le zero
    have upper := Nat.lt_log2_self (n := b)
    have powers : 2 ^ (b.log2 + 1) ≤ 2 ^ a.log2 := Nat.pow_le_pow_right (by decide) (by omega)
    omega

theorem nearestMagnitude_mono {a b : Nat} (le : a ≤ b) :
    nearestMagnitude a ≤ nearestMagnitude b := by
  rcases Nat.lt_or_eq_of_le (log2_mono le) with less | same
  · -- a power of two stands between them, which neither passes
    have above : b ≠ 0 := by
      rintro rfl
      simp at less
    calc nearestMagnitude a
        ≤ 2 ^ (a.log2 + 1) :=
          nearestMagnitude_le (spacing_dvd_pow (Nat.le_succ _)) (Nat.le_of_lt Nat.lt_log2_self)
      _ ≤ 2 ^ b.log2 := Nat.pow_le_pow_right (by decide) less
      _ ≤ nearestMagnitude b :=
          le_nearestMagnitude (spacing_dvd_pow (Nat.le_refl _)) (Nat.log2_self_le above)
  · unfold nearestMagnitude
    rw [spacing_eq a, spacing_eq b, same]
    exact Nat.mul_le_mul_right _ (roundQuotient_mono le _)

theorem nearestMagnitude_exact {n : Nat} (small : n ≤ 2 ^ 53) : nearestMagnitude n = n := by
  apply nearestMagnitude_of_dvd
  rcases Nat.lt_or_eq_of_le small with less | rfl
  · have bits : n.log2 - 52 = 0 := by
      by_cases zero : n = 0
      · simp [zero]
      · have := (Nat.log2_lt zero).mpr less
        omega
    rw [spacing_eq, bits]
    exact Nat.one_dvd n
  · decide

/-- Rounding moves a magnitude by half of the spacing at most. -/
theorem nearestMagnitude_close (n : Nat) :
    2 * nearestMagnitude n ≤ 2 * n + spacing n ∧ 2 * n ≤ 2 * nearestMagnitude n + spacing n := by
  have split := Nat.div_add_mod' n (spacing n)
  have remainder := Nat.mod_lt n (spacing_pos n)
  unfold nearestMagnitude
  rcases roundQuotient_cases n (spacing n) with ⟨down, half⟩ | ⟨up, half⟩
  · rw [down]
    omega
  · rw [up, Nat.add_one_mul (n / spacing n)]
    omega

/-- Doubling a magnitude doubles what is nearest to it. -/
theorem nearestMagnitude_mul_pow (n k : Nat) :
    nearestMagnitude (n * 2 ^ k) = nearestMagnitude n * 2 ^ k := by
  by_cases zero : n = 0
  · subst zero
    simp [nearestMagnitude_exact]
  · have bits : (n * 2 ^ k).log2 = n.log2 + k := by
      have lower := Nat.mul_le_mul_right (2 ^ k) (Nat.log2_self_le zero)
      have upper := Nat.mul_lt_mul_of_pos_right (Nat.lt_log2_self (n := n)) (Nat.two_pow_pos k)
      rw [← Nat.pow_add] at lower upper
      rw [Nat.log2_eq_iff (Nat.mul_ne_zero zero (Nat.ne_of_gt (Nat.two_pow_pos k)))]
      refine ⟨lower, ?_⟩
      rwa [Nat.add_right_comm] at upper
    by_cases long : 52 ≤ n.log2
    · have scaled : spacing (n * 2 ^ k) = spacing n * 2 ^ k := by
        rw [spacing_eq, spacing_eq, bits, ← Nat.pow_add]
        congr 1
        omega
      unfold nearestMagnitude
      rw [scaled, roundQuotient_mul_right _ _ (Nat.two_pow_pos k), Nat.mul_assoc]
    · -- nothing is rounded on either side
      have fits : n ≤ 2 ^ 53 := by
        have upper := Nat.lt_log2_self (n := n)
        have powers : 2 ^ (n.log2 + 1) ≤ 2 ^ 53 := Nat.pow_le_pow_right (by decide) (by omega)
        omega
      rw [nearestMagnitude_exact fits, nearestMagnitude_of_dvd]
      refine Nat.dvd_trans ?_ (Nat.dvd_mul_left (2 ^ k) n)
      rw [spacing_eq, bits]
      exact Nat.pow_dvd_pow 2 (by omega)

/-! ## Integers -/

/-- The integer of 53 leading bits that is nearest to another one. -/
def nearest (n : Int) : Int :=
  if n < 0 then -(nearestMagnitude n.natAbs : Int) else nearestMagnitude n.natAbs

theorem nearest_mono {a b : Int} (le : a ≤ b) : nearest a ≤ nearest b := by
  unfold nearest
  split
  · split
    · have := nearestMagnitude_mono (a := b.natAbs) (b := a.natAbs) (by omega)
      omega
    · omega
  · split
    · omega
    · have := nearestMagnitude_mono (a := a.natAbs) (b := b.natAbs) (by omega)
      omega

theorem nearest_exact {n : Int} (small : n.natAbs ≤ 2 ^ 53) : nearest n = n := by
  unfold nearest
  rw [nearestMagnitude_exact small]
  split
  · omega
  · omega

theorem nearestMagnitude_pow (k : Nat) : nearestMagnitude (2 ^ k) = 2 ^ k := by
  apply nearestMagnitude_of_dvd
  apply spacing_dvd_pow
  rw [Nat.log2_two_pow]

/-- The integer is one that a JSON text spells as such. -/
def SpelledInteger (n : Int) : Prop :=
  -9223372036854775808 ≤ n ∧ n < 18446744073709551616

instance (n : Int) : Decidable (SpelledInteger n) :=
  inferInstanceAs (Decidable (_ ∧ _))

theorem SpelledInteger.natAbs_lt {n : Int} (spelled : SpelledInteger n) : n.natAbs < 2 ^ 64 := by
  obtain ⟨lower, upper⟩ := spelled
  omega

/-- Rounding moves an integer of no more than 64 bits by `2 ^ 10` at most. -/
theorem nearest_close {n : Int} (spelled : SpelledInteger n) :
    nearest n ≤ n + 1024 ∧ n ≤ nearest n + 1024 := by
  have step : spacing n.natAbs ≤ 2 ^ 11 := by
    have bits : n.natAbs.log2 ≤ (2 ^ 64 - 1).log2 :=
      log2_mono (Nat.le_sub_one_of_lt spelled.natAbs_lt)
    rw [spacing_eq]
    apply Nat.pow_le_pow_right (by decide)
    exact Nat.sub_le_sub_right bits 52
  have close := nearestMagnitude_close n.natAbs
  unfold nearest
  split
  · omega
  · omega

-- the exponents are generalized, as nothing here depends on the numbers that the powers are
theorem unitsPerOne_pos : 0 < unitsPerOne := by
  unfold unitsPerOne
  generalize 1074 = k
  exact Nat.two_pow_pos k

theorem roundUnits_one (n : Nat) : roundUnits n 1 = nearestMagnitude n * unitsPerOne := by
  unfold roundUnits unitsPerOne
  generalize 1074 = k
  dsimp only
  rw [Nat.div_one, Nat.one_mul]
  exact nearestMagnitude_mul_pow n k

/-- Integers of no more than 64 bits are far below the limit of the finite numbers. -/
theorem nearestMagnitude_lt_limit {n : Nat} (fits : n ≤ 2 ^ 64) :
    nearestMagnitude n * unitsPerOne < unitsLimit := by
  have bounded : nearestMagnitude n ≤ 2 ^ 64 := by
    rw [← nearestMagnitude_pow 64]
    exact nearestMagnitude_mono fits
  have exponents : 2098 = 1074 + 1024 := rfl
  unfold unitsPerOne unitsLimit
  rw [exponents]
  generalize 1074 = k
  calc nearestMagnitude n * 2 ^ k
      ≤ 2 ^ 64 * 2 ^ k := Nat.mul_le_mul_right _ bounded
    _ = 2 ^ (64 + k) := (Nat.pow_add 2 64 k).symm
    _ < 2 ^ (k + 1024) := Nat.pow_lt_pow_right (by decide) (by omega)

theorem signedUnits_nearest (n : Int) {units : Nat}
    (small : nearestMagnitude n.natAbs * units < unitsLimit) :
    Finite64.signedUnits ⟨n < 0, nearestMagnitude n.natAbs * units, small⟩ =
      nearest n * units := by
  unfold Finite64.signedUnits nearest
  by_cases negative : n < 0
  · rw [if_pos (decide_eq_true negative), if_pos negative, Int.natCast_mul, Int.neg_mul]
  · rw [if_neg (by simpa using negative), if_neg negative, Int.natCast_mul]

/-- The binary64 number for an integer stands at the nearest integer, counted in a unit that is
left open, as the power of two that it is must not be computed. -/
theorem Binary64.places_ofInt : ∃ units : Int, 0 < units ∧
    ∀ n, SpelledInteger n → (ofInt n).place? = some (nearest n * units) := by
  refine ⟨unitsPerOne, Int.natCast_pos.mpr unitsPerOne_pos, fun n spelled => ?_⟩
  unfold ofInt ofRatio ofUnits
  rw [roundUnits_one, dif_pos (nearestMagnitude_lt_limit (Nat.le_of_lt spelled.natAbs_lt))]
  exact congrArg some (signedUnits_nearest n _)

theorem Binary64.compare?_of_place? {x y : Binary64} {p q : Int} (first : x.place? = some p)
    (second : y.place? = some q) : x.compare? y = some (compare p q) := by
  unfold compare?
  rw [first, second]

theorem Binary64.equals_of_place? {x y : Binary64} {p : Int} (first : x.place? = some p)
    (second : y.place? = some p) : x.equals y = true := by
  rw [equals, compare?_of_place? first second, compare_eq_iff_eq.mpr rfl]
  rfl

theorem compare_mul_right (a b : Int) {units : Int} (positive : 0 < units) :
    compare (a * units) (b * units) = compare a b := by
  rcases lt_trichotomy a b with less | rfl | greater
  · rw [compare_lt_iff_lt.mpr less, compare_lt_iff_lt]
    exact Int.mul_lt_mul_of_pos_right less positive
  · rw [compare_eq_iff_eq.mpr rfl, compare_eq_iff_eq.mpr rfl]
  · rw [compare_gt_iff_gt.mpr greater, compare_gt_iff_gt]
    exact Int.mul_lt_mul_of_pos_right greater positive

/-- Integers compare as binary64 numbers as the nearest ones do. -/
theorem Binary64.compare?_ofInt {a b : Int} (first : SpelledInteger a) (second : SpelledInteger b) :
    (ofInt a).compare? (ofInt b) = some (compare (nearest a) (nearest b)) := by
  obtain ⟨units, positive, places⟩ := places_ofInt
  rw [compare?_of_place? (places a first) (places b second), compare_mul_right _ _ positive]

/-! ## Two integers as one number -/

/-- Two integers are different and yet one number. -/
def Merged (a b : Int) : Prop :=
  a ≠ b ∧ nearest a = nearest b

instance (a b : Int) : Decidable (Merged a b) :=
  inferInstanceAs (Decidable (_ ∧ _))

namespace Merged

variable {a b : Int}

theorem symm (merged : Merged a b) : Merged b a :=
  ⟨merged.1.symm, merged.2.symm⟩

theorem large_left (merged : Merged a b) : 2 ^ 53 ≤ a.natAbs := by
  apply Nat.le_of_not_lt
  intro small
  have same := merged.2
  rw [nearest_exact (Nat.le_of_lt small)] at same
  -- the other one is not rounded either, or its number is past `2 ^ 53`
  by_cases fits : b.natAbs ≤ 2 ^ 53
  · rw [nearest_exact fits] at same
    exact merged.1 same
  · have top : nearest (2 ^ 53) = 2 ^ 53 := nearest_exact (by decide)
    have bottom : nearest (-2 ^ 53) = -2 ^ 53 := nearest_exact (by decide)
    rcases Int.lt_or_le b 0 with negative | positive
    · have := nearest_mono (a := b) (b := -2 ^ 53) (by omega)
      omega
    · have := nearest_mono (a := 2 ^ 53) (b := b) (by omega)
      omega

/-- Integers below `2 ^ 53` in magnitude are told apart from all others. -/
theorem large (merged : Merged a b) : 2 ^ 53 ≤ a.natAbs ∧ 2 ^ 53 ≤ b.natAbs :=
  ⟨merged.large_left, merged.symm.large_left⟩

/-- Integers that are one number are near each other. -/
theorem close (merged : Merged a b) (first : SpelledInteger a) (second : SpelledInteger b) :
    (a - b).natAbs ≤ 2048 := by
  have closeA := nearest_close first
  have closeB := nearest_close second
  have same := merged.2
  omega

end Merged

end Cqrs.Number
