import Mathlib
import RecordBuilders.Json.Equality

/-! Which numbers of a document equal zero. Main result: one that is written with a fraction or an
exponent does so if it is at most half the least positive number of double precision. -/
namespace RecordBuilders

theorem Dyadic.same_zero_iff (a : Dyadic) : a.same (.ofInt 0) = true ↔ a.mantissa = 0 := by
  simp [same, mantissaAt, ofInt]

namespace Binary64

section Fractions
variable {num den : Nat}

/-- A quotient is rounded to zero if it is at most one half. -/
theorem roundDiv_eq_zero_iff (hden : 0 < den) : roundDiv num den = 0 ↔ (num / den : ℚ) ≤ 1 / 2 := by
  have hquot : (num / den : ℚ) ≤ 1 / 2 ↔ 2 * num ≤ den := by
    rw [div_le_div_iff₀ (by exact_mod_cast hden) (by norm_num)]
    norm_cast
    omega
  have hdiv : num / den = 0 ↔ num < den := Nat.div_eq_zero_iff_lt hden
  rw [hquot, roundDiv]
  by_cases hlt : num < den
  · rw [hdiv.mpr hlt, Nat.mod_eq_of_lt hlt]
    by_cases hhalf : 2 * num ≤ den
    · rw [if_pos (by omega)]
      exact iff_of_true rfl hhalf
    · rw [if_neg (by omega)]
      exact iff_of_false (by omega) hhalf
  · have hpos : num / den ≠ 0 := fun h => hlt (hdiv.mp h)
    refine iff_of_false ?_ (by omega)
    split
    · exact hpos
    · exact Nat.succ_ne_zero _

theorem scale_div (e : Int) :
    ((scale num den e).1 / (scale num den e).2 : ℚ) = num / den * 2 ^ (-e) := by
  simp only [scale, Nat.shiftLeft_eq, Nat.cast_mul, Nat.cast_pow, Nat.cast_ofNat]
  rcases Int.le_total 0 e with he | he
  · obtain ⟨n, rfl⟩ := Int.eq_ofNat_of_zero_le he
    simp [div_mul_eq_div_div, ← div_eq_mul_inv]
  · obtain ⟨n, hn⟩ := Int.eq_ofNat_of_zero_le (Int.neg_nonneg_of_nonpos he)
    obtain rfl : e = -n := by omega
    simp [mul_div_right_comm]

theorem scale_snd_pos (hden : 0 < den) (e : Int) : 0 < (scale num den e).2 := by
  simp only [scale, Nat.shiftLeft_eq]
  positivity

/-- At an exponent above the least one, the mantissa has all its digits. -/
theorem le_of_leastExponent_lt (hnum : 0 < num) (hden : 0 < den)
    (h : leastExponent < exponentOf num den) : (2 : ℚ) ^ (52 + exponentOf num den) ≤ num / den := by
  have hnum' : (0 : ℚ) < num := by exact_mod_cast hnum
  have hden' : (0 : ℚ) < den := by exact_mod_cast hden
  have hguess (g : Int) (hq : ¬(scale num den g).1 / (scale num den g).2 < 1 <<< 52) :
      (2 : ℚ) ^ (52 + g) ≤ num / den := by
    have hle := (Nat.le_div_iff_mul_le (scale_snd_pos hden g)).mp (Nat.le_of_not_lt hq)
    have hpos : (0 : ℚ) < (scale num den g).2 := by exact_mod_cast scale_snd_pos hden g
    have hle : (2 ^ 52 : ℚ) ≤ (scale num den g).1 / (scale num den g).2 := by
      rw [le_div_iff₀ hpos]
      exact_mod_cast hle
    rw [scale_div, zpow_neg, ← div_eq_mul_inv, le_div_iff₀ (by positivity)] at hle
    rw [zpow_add₀ (by norm_num)]
    exact_mod_cast hle
  -- One less than the guess: here the numbers of binary digits decide.
  have hdigits : (2 : ℚ) ^ (52 + ((num.log2 : Int) - den.log2 - 52 - 1)) ≤ num / den := by
    have hlow : (2 : ℚ) ^ num.log2 ≤ num := by exact_mod_cast Nat.log2_self_le (by omega)
    have hhigh : (den : ℚ) ≤ 2 ^ (den.log2 + 1) := by exact_mod_cast Nat.lt_log2_self.le
    have hexponent : (52 + ((num.log2 : Int) - den.log2 - 52 - 1)) =
        (num.log2 : Int) - ((den.log2 + 1 : Nat) : Int) := by
      push_cast
      ring
    rw [hexponent, zpow_sub₀ (by norm_num), zpow_natCast, zpow_natCast]
    gcongr
  simp only [exponentOf] at h ⊢
  generalize hg : (num.log2 : Int) - den.log2 - 52 = g at *
  generalize he : (if (scale num den g).1 / (scale num den g).2 < 1 <<< 52 then g - 1 else g) = e
    at h ⊢
  have hall : (2 : ℚ) ^ (52 + e) ≤ num / den := by
    rw [← he]
    split
    · exact hdigits
    · next hq => exact hguess g hq
  by_cases hlow : e < leastExponent
  · simp [hlow] at h
  · rwa [if_neg hlow]

theorem leastExponent_le : leastExponent ≤ exponentOf num den := by
  unfold exponentOf
  dsimp only
  split <;> split <;> omega

theorem ofFraction_zero_iff (hnum : 0 < num) (hden : 0 < den) :
    (∃ e, ofFraction num den = some ⟨0, e⟩) ↔ (num / den : ℚ) ≤ 2 ^ (leastExponent - 1) := by
  have hzero (e : Int) : roundDiv (scale num den e).1 (scale num den e).2 = 0 ↔
      (num / den : ℚ) ≤ 2 ^ (e - 1) := by
    rw [roundDiv_eq_zero_iff (scale_snd_pos hden e), scale_div, zpow_neg, ← div_eq_mul_inv,
      div_le_iff₀ (by positivity), zpow_sub_one₀ (by norm_num)]
    ring_nf
  rcases Int.lt_or_eq_of_le (@leastExponent_le num den) with hlt | heq
  · have hall := le_of_leastExponent_lt hnum hden hlt
    have hbig (e : Int) (he : e ≤ exponentOf num den) : ¬(num / den : ℚ) ≤ 2 ^ (e - 1) := by
      refine not_le.mpr (lt_of_lt_of_le ?_ hall)
      exact zpow_lt_zpow_right₀ (by norm_num) (by omega)
    refine iff_of_false ?_ (hbig _ hlt.le)
    rintro ⟨e, he⟩
    simp only [ofFraction] at he
    split at he
    · cases he
    · have hmantissa := (Dyadic.mk.inj (Option.some.inj he)).1
      exact hbig _ le_rfl ((hzero _).mp (by exact_mod_cast hmantissa))
  · simp only [ofFraction]
    rw [← heq, ← hzero, if_neg (by simp [leastExponent, greatestExponent])]
    constructor
    · rintro ⟨e, he⟩
      exact_mod_cast (Dyadic.mk.inj (Option.some.inj he)).1
    · intro h
      exact ⟨leastExponent, by rw [h]; rfl⟩

end Fractions

end Binary64

section Decimals
variable {digits : Nat} {exponent : Int}

theorem length_toString_bounds (h : 0 < digits) : ∃ n, (toString digits).length = n + 1 ∧
    10 ^ n ≤ digits ∧ digits < 10 ^ (n + 1) := by
  have hlength : (toString digits).length = (Nat.toDigits 10 digits).length := by
    change (String.ofList (Nat.toDigits 10 digits)).length = _
    simp
  have hiff {k : Nat} (hk : 0 < k) : (Nat.toDigits 10 digits).length ≤ k ↔ digits < 10 ^ k :=
    Nat.length_toDigits_le_iff (by decide) hk
  obtain ⟨n, hn⟩ := Nat.exists_eq_succ_of_ne_zero (@Nat.length_toDigits_pos 10 digits).ne'
  rw [hlength]
  refine ⟨n, hn, ?_, (hiff n.succ_pos).mp hn.le⟩
  rcases Nat.eq_zero_or_pos n with rfl | hpos
  · exact h
  · exact Nat.le_of_not_lt fun hlt => by
      have := (hiff hpos).mpr hlt
      omega

/-- The number that was written, but for its sign. -/
def Decimal.size (d : Decimal) : ℚ := d.digits * 10 ^ d.exponent

theorem Binary64.ofMagnitude_zero_iff :
    (∃ e, ofMagnitude digits exponent = some ⟨0, e⟩) ↔
      (digits * 10 ^ exponent : ℚ) ≤ 2 ^ (leastExponent - 1) := by
  rcases Nat.eq_zero_or_pos digits with rfl | hdigits
  · simp only [ofMagnitude, true_or, ↓reduceIte, Nat.cast_zero, zero_mul]
    exact iff_of_true ⟨0, rfl⟩ (by positivity)
  obtain ⟨n, hn, hlow, hhigh⟩ := length_toString_bounds hdigits
  have hlow : (10 : ℚ) ^ (n : Int) ≤ digits := by exact_mod_cast hlow
  have hhigh : (digits : ℚ) ≤ 10 ^ ((n : Int) + 1) := by exact_mod_cast hhigh.le
  have hten : (2 : ℚ) ^ 1075 ≤ 10 ^ 330 := by
    exact_mod_cast (by decide +kernel : 2 ^ 1075 ≤ 10 ^ 330)
  simp only [ofMagnitude, Nat.pos_iff_ne_zero.mp hdigits, false_or, hn]
  split
  · refine iff_of_true ⟨0, rfl⟩ ?_
    calc (digits * 10 ^ exponent : ℚ) ≤ 10 ^ ((n : Int) + 1) * 10 ^ exponent := by gcongr
      _ = 10 ^ ((n : Int) + 1 + exponent) := (zpow_add₀ (by norm_num) _ _).symm
      _ ≤ 10 ^ (-330 : Int) := zpow_le_zpow_right₀ (by norm_num) (by omega)
      _ ≤ 2 ^ (-1075 : Int) := by
        rw [zpow_neg, zpow_neg]
        exact inv_anti₀ (by positivity) (by exact_mod_cast hten)
  · split
    · refine iff_of_false (by simp) (not_le.mpr ?_)
      calc (2 : ℚ) ^ (leastExponent - 1) < 2 ^ (0 : Int) :=
            zpow_lt_zpow_right₀ (by norm_num) (by decide)
        _ ≤ 10 ^ ((n : Int) + exponent) := by
          rw [zpow_zero]
          exact one_le_zpow₀ (by norm_num) (by omega)
        _ = 10 ^ (n : Int) * 10 ^ exponent := zpow_add₀ (by norm_num) _ _
        _ ≤ digits * 10 ^ exponent := by gcongr
    · simp only [Nat.pow_eq]
      rw [ofFraction_zero_iff (by positivity) (by positivity)]
      refine iff_of_eq (congrArg (· ≤ _) ?_)
      rcases Int.le_total 0 exponent with he | he
      · obtain ⟨k, rfl⟩ := Int.eq_ofNat_of_zero_le he
        simp
      · obtain ⟨k, hk⟩ := Int.eq_ofNat_of_zero_le (Int.neg_nonneg_of_nonpos he)
        obtain rfl : exponent = -k := by omega
        simp [div_eq_mul_inv]

/-- A decimal equals zero if it is nearer to it than to the least positive number, or as near. -/
theorem Json.same_decimal_zero_iff (d : Decimal) :
    (Json.decimal d).same (.integer 0) = true ↔ d.size ≤ 2 ^ (Binary64.leastExponent - 1) := by
  have hsame : (Json.decimal d).same (.integer 0) = d.magnitude.same (.finite (.ofInt 0)) := by
    simp [same, magnitude?]
  rw [hsame, Decimal.size, ← Binary64.ofMagnitude_zero_iff, Decimal.magnitude]
  cases Binary64.ofMagnitude d.digits d.exponent with
  | none => simp [Magnitude.same]
  | some value =>
    obtain ⟨mantissa, exponent⟩ := value
    cases d.negative with
    | true => simp [Magnitude.same, Dyadic.same_zero_iff]
    | false => simp [Magnitude.same, Dyadic.same_zero_iff]

end Decimals

end RecordBuilders
