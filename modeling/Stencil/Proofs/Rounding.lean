import Mathlib.Tactic.LinearCombination
import Mathlib.Tactic.Linarith
import Mathlib.Tactic.Ring
import Stencil.Number.Binary64

/-! Rounding to a double. A magnitude is held exactly if it has at most 53 significant bits; of
    these the rounded one is as near to the exact quotient as any. What follows for the integer
    part: it is that of the quotient itself where the next whole number is more than 2⁻⁵³ of the
    quotient away, and where the quotient is a double. Beyond a fixed bound, half a step above the
    largest double, a quotient rounds to an infinity. -/

namespace Stencil.Binary64

/-- The units of a double are of 2⁻¹⁰⁷⁴. -/
def fineness : Nat := 1074

theorem one_eq : one = 2 ^ fineness := Nat.one_shiftLeft fineness

theorem bound_eq : bound = 2 ^ (fineness + 1024) := Nat.one_shiftLeft (fineness + 1024)

theorem one_pos : 0 < one := by
  rw [one_eq]
  exact Nat.two_pow_pos fineness

/-- The least number that rounds to an infinity: half a step above the largest double, which is
    (2⁵³ - 1) · 2⁹⁷¹. -/
def ceiling : Nat := (2 ^ 54 - 1) * 2 ^ 970

theorem ceiling_le_one : ceiling ≤ one := by
  have hpow (a j k : Nat) (ha : a ≤ 2 ^ j) (hj : j + k ≤ fineness) : a * 2 ^ k ≤ 2 ^ fineness := by
    calc a * 2 ^ k ≤ 2 ^ j * 2 ^ k := Nat.mul_le_mul_right _ ha
      _ = 2 ^ (j + k) := (Nat.pow_add 2 j k).symm
      _ ≤ 2 ^ fineness := Nat.pow_le_pow_right (by norm_num) hj
  rw [one_eq]
  unfold ceiling
  exact hpow _ 54 970 (by norm_num) (by decide)

theorem two_pow_le_ceiling : 2 ^ 53 ≤ ceiling := by
  have hfactor (k : Nat) : 2 ^ 53 ≤ (2 ^ 54 - 1) * 2 ^ k := by
    have hpos := Nat.two_pow_pos k
    omega
  exact hfactor 970

/-- A number of units with at most 53 significant bits. -/
def Significant (u : Nat) : Prop := ∃ a j, a < 2 ^ 53 ∧ u = a * 2 ^ j

theorem significant_two_pow (j : Nat) : Significant (2 ^ j) := ⟨1, j, by norm_num, by rw [Nat.one_mul]⟩

/-- How far a number is from a quotient, in parts of the denominator. -/
def gap (num den u : Nat) : Nat := ((u * den : Int) - num).natAbs

/-- A double that is as near to a quotient of units as any. -/
def IsNearest (num den u : Nat) : Prop :=
  Significant u ∧ ∀ w, Significant w → gap num den u ≤ gap num den w

variable {num den : Nat}

/-! ### Rounding to an integer -/

/-- The rounded quotient is at most half of one away. -/
theorem roundHalfEven_error (num : Nat) (hden : 0 < den) :
    2 * gap num den (roundHalfEven num den) ≤ den := by
  have hnum : den * (num / den) + num % den = num := Nat.div_add_mod num den
  have hrem : num % den < den := Nat.mod_lt num hden
  have hup : (num / den + 1) * den = den * (num / den) + den := by ring
  have hdown : num / den * den = den * (num / den) := Nat.mul_comm _ _
  unfold gap roundHalfEven
  dsimp only
  zify at hnum hrem hup hdown
  split_ifs <;> push_cast <;> omega

/-- No integer is nearer to a quotient than the rounded one. -/
theorem gap_roundHalfEven_le (num : Nat) (hden : 0 < den) (w : Nat) :
    gap num den (roundHalfEven num den) ≤ gap num den w := by
  have herror := roundHalfEven_error num hden
  set r := roundHalfEven num den
  rcases lt_trichotomy w r with hlt | rfl | hlt
  · have hmul : (w + 1) * den ≤ r * den := Nat.mul_le_mul_right den hlt
    unfold gap at herror ⊢
    zify at hmul
    rw [add_mul] at hmul
    omega
  · exact le_rfl
  · have hmul : (r + 1) * den ≤ w * den := Nat.mul_le_mul_right den hlt
    unfold gap at herror ⊢
    zify at hmul
    rw [add_mul] at hmul
    omega

/-- An even integer is reached from half of one below it on. -/
theorem le_roundHalfEven_iff {k : Nat} (hden : 0 < den) (hk : k % 2 = 0) :
    k ≤ roundHalfEven num den ↔ 2 * (k * den) ≤ 2 * num + den := by
  have hnum : den * (num / den) + num % den = num := Nat.div_add_mod num den
  have hrem : num % den < den := Nat.mod_lt num hden
  rcases lt_trichotomy k (num / den + 1) with hlt | rfl | hgt
  · have hmul : den * k ≤ den * (num / den) := Nat.mul_le_mul_left den (by omega)
    have hleft : k ≤ roundHalfEven num den := by
      unfold roundHalfEven
      dsimp only
      split_ifs <;> omega
    have hcomm : k * den = den * k := Nat.mul_comm _ _
    exact iff_of_true hleft (by omega)
  · have hmul : (num / den + 1) * den = den * (num / den) + den := by ring
    unfold roundHalfEven
    dsimp only
    split_ifs <;> omega
  · have hmul : (num / den + 2) * den ≤ k * den := Nat.mul_le_mul_right den (by omega)
    have hsum : (num / den + 2) * den = den * (num / den) + 2 * den := by ring
    have hleft : ¬k ≤ roundHalfEven num den := by
      unfold roundHalfEven
      dsimp only
      split_ifs <;> omega
    exact iff_of_false hleft (by omega)

/-! ### Rounding to 53 significant bits -/

/-- The power of two whose multiples a quotient is rounded to. -/
def stepExponent (num den : Nat) : Nat := (num / den).log2 - 52

theorem nearest_eq (num den : Nat) :
    nearest num den =
      roundHalfEven num (den * 2 ^ stepExponent num den) * 2 ^ stepExponent num den := by
  unfold nearest stepExponent
  rw [Nat.one_shiftLeft]

theorem gap_mul (num den w step : Nat) : gap num den (w * step) = gap num (den * step) w := by
  unfold gap
  push_cast
  ring_nf

/-- A significant number is a multiple of a power of two or has less than 53 bits above it. -/
theorem Significant.multiple_or_lt {w : Nat} (h : Significant w) (i : Nat) :
    (∃ k, w = k * 2 ^ i) ∨ (0 < i ∧ w < 2 ^ (52 + i)) := by
  obtain ⟨a, j, ha, rfl⟩ := h
  rcases Nat.le_total i j with hij | hji
  · left
    refine ⟨a * 2 ^ (j - i), ?_⟩
    rw [Nat.mul_assoc, ← Nat.pow_add]
    congr 2
    omega
  · rcases Nat.eq_or_lt_of_le hji with rfl | hlt
    · exact .inl ⟨a, rfl⟩
    · right
      refine ⟨by omega, ?_⟩
      calc a * 2 ^ j < 2 ^ 53 * 2 ^ j := Nat.mul_lt_mul_of_pos_right ha (Nat.two_pow_pos j)
        _ = 2 ^ (53 + j) := (Nat.pow_add 2 53 j).symm
        _ ≤ 2 ^ (52 + i) := Nat.pow_le_pow_right (by norm_num) (by omega)

/-- No double is nearer to a quotient than the rounded one. -/
theorem gap_nearest_le (num : Nat) (hden : 0 < den) {w : Nat} (hw : Significant w) :
    gap num den (nearest num den) ≤ gap num den w := by
  set i := stepExponent num den with hi
  have hstep : 0 < den * 2 ^ i := Nat.mul_pos hden (Nat.two_pow_pos i)
  have hmultiple (k : Nat) : gap num den (nearest num den) ≤ gap num den (k * 2 ^ i) := by
    rw [nearest_eq, ← hi, gap_mul, gap_mul]
    exact gap_roundHalfEven_le num hstep k
  rcases hw.multiple_or_lt i with ⟨k, rfl⟩ | ⟨hpos, hlt⟩
  · exact hmultiple k
  · -- a multiple of the step stands between the number and the quotient
    have hlog : 52 + i = (num / den).log2 := by
      unfold stepExponent at hi
      omega
    have hquotient : num / den ≠ 0 := by
      intro h0
      rw [h0] at hlog
      simp at hlog
    have hle : 2 ^ (52 + i) * den ≤ num := by
      rw [hlog]
      calc 2 ^ (num / den).log2 * den ≤ num / den * den :=
            Nat.mul_le_mul_right den (Nat.log2_self_le hquotient)
        _ ≤ num := Nat.div_mul_le_self num den
    have hmul : w * den ≤ 2 ^ (52 + i) * den := Nat.mul_le_mul_right den hlt.le
    refine (hmultiple (2 ^ 52)).trans ?_
    rw [← Nat.pow_add]
    unfold gap
    zify at hle hmul
    push_cast
    omega

theorem significant_nearest (num : Nat) (hden : 0 < den) : Significant (nearest num den) := by
  set i := stepExponent num den with hi
  have hstep : 0 < den * 2 ^ i := Nat.mul_pos hden (Nat.two_pow_pos i)
  have herror := roundHalfEven_error num hstep
  rw [nearest_eq, ← hi]
  set r := roundHalfEven num (den * 2 ^ i)
  have hsmall : num < 2 ^ 53 * (den * 2 ^ i) := by
    have hlt : num / den < 2 ^ ((num / den).log2 + 1) := Nat.lt_log2_self
    have hle : 2 ^ ((num / den).log2 + 1) ≤ 2 ^ (53 + i) :=
      Nat.pow_le_pow_right (by norm_num) (by unfold stepExponent at hi; omega)
    have hnum : num < 2 ^ (53 + i) * den := (Nat.div_lt_iff_lt_mul hden).1 (hlt.trans_le hle)
    rw [Nat.pow_add] at hnum
    linarith [hnum, Nat.mul_assoc (2 ^ 53) (2 ^ i) den, Nat.mul_comm (2 ^ i) den]
  -- rounding up may reach 2⁵³ steps, a power of two, but never more
  have hr : r ≤ 2 ^ 53 := by
    generalize den * 2 ^ i = parts at *
    by_contra hgt
    have hmul : (2 ^ 53 + 1) * parts ≤ r * parts := Nat.mul_le_mul_right parts (by omega)
    unfold gap at herror
    zify at hmul hsmall
    rw [add_mul] at hmul
    omega
  rcases Nat.eq_or_lt_of_le hr with heq | hlt
  · rw [heq, ← Nat.pow_add]
    exact significant_two_pow _
  · exact ⟨r, i, hlt, rfl⟩

/-- The rounded quotient is a nearest double. -/
theorem isNearest_nearest (num : Nat) (hden : 0 < den) : IsNearest num den (nearest num den) :=
  ⟨significant_nearest num hden, fun _ hw => gap_nearest_le num hden hw⟩

/-- A double below a quotient is not above the rounded one. -/
theorem Significant.le_nearest {w : Nat} (hw : Significant w) (hden : 0 < den)
    (h : w * den ≤ num) : w ≤ nearest num den := by
  by_contra hlt
  have hgap := gap_nearest_le num hden hw
  have hmul : (nearest num den + 1) * den ≤ w * den := Nat.mul_le_mul_right den (by omega)
  unfold gap at hgap
  zify at h hmul
  rw [add_mul] at hmul
  omega

/-- A double above a quotient is not below the rounded one. -/
theorem Significant.nearest_le {w : Nat} (hw : Significant w) (hden : 0 < den)
    (h : num ≤ w * den) : nearest num den ≤ w := by
  by_contra hlt
  have hgap := gap_nearest_le num hden hw
  have hmul : (w + 1) * den ≤ nearest num den * den := Nat.mul_le_mul_right den (by omega)
  unfold gap at hgap
  zify at h hmul
  rw [add_mul] at hmul
  omega

/-- A quotient that is a double is rounded to itself. -/
theorem Significant.nearest_eq {u : Nat} (hu : Significant u) (hden : 0 < den)
    (h : u * den = num) : nearest num den = u :=
  Nat.le_antisymm (hu.nearest_le hden h.ge) (hu.le_nearest hden h.le)

/-! ### Zero and the infinities -/

/-- A quotient below one half rounds to zero. -/
theorem nearest_eq_zero (h : 2 * num < den) : nearest num den = 0 := by
  have hquotient : num / den = 0 := Nat.div_eq_of_lt (by omega)
  have hstep : stepExponent num den = 0 := by
    unfold stepExponent
    rw [hquotient]
    rfl
  have hrem : num % den = num := Nat.mod_eq_of_lt (by omega)
  rw [nearest_eq, hstep, Nat.pow_zero, Nat.mul_one, Nat.mul_one]
  unfold roundHalfEven
  dsimp only
  rw [hquotient, hrem, if_pos h]

theorem ofUnits_eq_zero (negative : Bool) (h : 2 * num < den) :
    ofUnits negative num den = .finite negative 0 := by
  have hbound : 0 < bound := by
    rw [bound_eq]
    exact Nat.two_pow_pos _
  unfold ofUnits
  rw [nearest_eq_zero h, if_pos hbound]

/-- A quotient rounds to less than 2⁵³ steps up to half a step below them. -/
theorem nearest_lt_iff (num : Nat) (hden : 0 < den) (i : Nat) :
    nearest num den < 2 ^ (i + 53) ↔ 2 * num < (2 ^ 54 - 1) * (2 ^ i * den) := by
  have hpow (k : Nat) : 2 ^ (i + k) * den = 2 ^ k * (2 ^ i * den) := by
    rw [Nat.pow_add]
    ring
  have hparts : 0 < 2 ^ i * den := Nat.mul_pos (Nat.two_pow_pos i) hden
  rcases Nat.lt_or_ge num (2 ^ (i + 52) * den) with hsmall | hlarge
  · have hle := (significant_two_pow (i + 52)).nearest_le hden hsmall.le
    have hlt : 2 ^ (i + 52) < 2 ^ (i + 53) := Nat.pow_lt_pow_right (by norm_num) (by omega)
    rw [hpow] at hsmall
    exact iff_of_true (hle.trans_lt hlt) (by omega)
  · rcases Nat.lt_or_ge num (2 ^ (i + 53) * den) with hbelow | habove
    · -- the step is the one that the bound is counted in
      have hlog : (num / den).log2 = i + 52 := by
        have hge : 2 ^ (i + 52) ≤ num / den := (Nat.le_div_iff_mul_le hden).2 hlarge
        have hlt : num / den < 2 ^ (i + 53) := (Nat.div_lt_iff_lt_mul hden).2 hbelow
        have hne : num / den ≠ 0 := by
          have := Nat.two_pow_pos (i + 52)
          omega
        exact (Nat.log2_eq_iff hne).2 ⟨hge, hlt⟩
      have hstep : stepExponent num den = i := by
        unfold stepExponent
        omega
      have hreach := @le_roundHalfEven_iff num (2 ^ i * den) (2 ^ 53) hparts (by norm_num)
      rw [nearest_eq, hstep, Nat.mul_comm den, Nat.pow_add, Nat.mul_comm (2 ^ i) (2 ^ 53),
        Nat.mul_lt_mul_right (Nat.two_pow_pos i), ← Nat.not_le, hreach]
      omega
    · have hge := (significant_two_pow (i + 53)).le_nearest hden habove
      rw [hpow] at habove
      exact iff_of_false (by omega) (by omega)

theorem ceiling_lt_iff (num den : Nat) :
    2 * (num * one) < (2 ^ 54 - 1) * (2 ^ (fineness + 971) * den) ↔ num < ceiling * den := by
  have hpow (a b : Nat) : 2 ^ (a + (b + 1)) = 2 * (2 ^ b * 2 ^ a) := by
    rw [Nat.pow_add, Nat.pow_succ]
    ring
  have hunits : 0 < 2 * 2 ^ fineness := Nat.mul_pos (by norm_num) (Nat.two_pow_pos fineness)
  unfold ceiling
  rw [one_eq, hpow fineness 970]
  generalize 2 ^ fineness = unit, 2 ^ 970 = factor at hunits ⊢
  have hleft : 2 * (num * unit) = 2 * unit * num := by ring
  have hright : (2 ^ 54 - 1) * (2 * (factor * unit) * den) =
      2 * unit * ((2 ^ 54 - 1) * factor * den) := by ring
  rw [hleft, hright, Nat.mul_lt_mul_left hunits]

/-- A quotient rounds to an infinity iff it is at least the ceiling. -/
theorem ofUnits_eq (negative : Bool) (num : Nat) (hden : 0 < den) :
    ofUnits negative (num * one) den =
      if num < ceiling * den then .finite negative (nearest (num * one) den)
      else .infinity negative := by
  have hexponent : fineness + 1024 = fineness + 971 + 53 := rfl
  have hiff : nearest (num * one) den < bound ↔ num < ceiling * den := by
    rw [bound_eq, hexponent, nearest_lt_iff (num * one) hden, ceiling_lt_iff]
  unfold ofUnits
  simp only [hiff]

/-! ### Integer parts -/

/-- The power of two that a whole number stays below, and that is at most twice the number. -/
theorem exists_two_pow (w : Nat) (hw : w < 2 ^ 53) :
    ∃ s, w + 1 ≤ 2 ^ s ∧ s ≤ 53 ∧ (w = 0 ∧ s = 0 ∨ 2 ^ s ≤ 2 * w) := by
  rcases Nat.eq_zero_or_pos w with rfl | hpos
  · exact ⟨0, by norm_num, by norm_num, .inl ⟨rfl, rfl⟩⟩
  · refine ⟨w.log2 + 1, Nat.lt_log2_self, (Nat.log2_lt (by omega)).2 hw, .inr ?_⟩
    have hle := Nat.log2_self_le (Nat.pos_iff_ne_zero.1 hpos)
    rw [Nat.pow_succ]
    omega

/-- A double just below the next whole number: it is smaller by that power of two in units of
    2⁻⁵³. -/
theorem significant_below {w s below : Nat} (hs : w + 1 ≤ 2 ^ s) (hle : s ≤ 53)
    (hbelow : below + 2 ^ s = (w + 1) * 2 ^ 53) (k : Nat) : Significant (below * 2 ^ k) := by
  have hsplit : 2 ^ 53 = 2 ^ (53 - s) * 2 ^ s := by
    rw [← Nat.pow_add]
    congr 1
    omega
  have hfactor : below = ((w + 1) * 2 ^ (53 - s) - 1) * 2 ^ s := by
    rw [Nat.sub_mul ((w + 1) * 2 ^ (53 - s)), Nat.one_mul, Nat.mul_assoc (w + 1), ← hsplit]
    omega
  refine ⟨(w + 1) * 2 ^ (53 - s) - 1, s + k, ?_, ?_⟩
  · have hmul : (w + 1) * 2 ^ (53 - s) ≤ 2 ^ s * 2 ^ (53 - s) := Nat.mul_le_mul_right _ hs
    have hpos := Nat.mul_pos (Nat.succ_pos w) (Nat.two_pow_pos (53 - s))
    have hcomm := Nat.mul_comm (2 ^ s) (2 ^ (53 - s))
    omega
  · rw [Nat.pow_add, ← Nat.mul_assoc, ← hfactor]

theorem exists_one_eq : ∃ k, one = 2 ^ 53 * 2 ^ k := by
  refine ⟨fineness - 53, ?_⟩
  rw [one_eq, ← Nat.pow_add]
  congr 1

/-- Only below 2⁵³ can the next whole number be that far from a quotient. -/
theorem lt_of_far {m d w : Nat} (hlow : w * d ≤ m) (hfar : m < 2 ^ 53 * ((w + 1) * d - m)) :
    w < 2 ^ 53 := by
  refine Nat.lt_of_mul_lt_mul_right (a := d) (hlow.trans_lt (hfar.trans_le ?_))
  rw [Nat.succ_mul]
  omega

/-- A quotient below a whole number is rounded to less than this number if it is more than 2⁻⁵³ of
    itself away from it: the double just below the number is nearer. -/
theorem nearest_lt_mul_one {m d w : Nat} (hd : 0 < d) (hlow : w * d ≤ m)
    (hfar : m < 2 ^ 53 * ((w + 1) * d - m)) : nearest (m * one) d < (w + 1) * one := by
  by_contra hover
  obtain ⟨k, hone⟩ := exists_one_eq
  obtain ⟨s, hs, hle, hcase⟩ := exists_two_pow w (lt_of_far hlow hfar)
  obtain ⟨below, hbelow⟩ : ∃ below, below + 2 ^ s = (w + 1) * 2 ^ 53 := by
    have hpow : 2 ^ s ≤ 2 ^ 53 := Nat.pow_le_pow_right (by norm_num) hle
    exact ⟨(w + 1) * 2 ^ 53 - 2 ^ s, by omega⟩
  have hgap := gap_nearest_le (m * one) hd (significant_below hs hle hbelow k)
  obtain ⟨rest, hrest⟩ : ∃ rest, (w + 1) * d = m + (rest + 1) := ⟨(w + 1) * d - m - 1, by omega⟩
  rw [hrest, Nat.add_sub_cancel_left] at hfar
  -- the two doubles are less than twice as far from each other as the quotient from the number
  have hclose : 2 ^ s * d < 2 ^ 54 * (rest + 1) := by
    rcases hcase with ⟨rfl, rfl⟩ | htwice
    · rw [Nat.zero_add, Nat.one_mul] at hrest
      omega
    · have hmul : 2 ^ s * d ≤ 2 * w * d := Nat.mul_le_mul_right d htwice
      rw [Nat.mul_assoc] at hmul
      omega
  have hclose' : 2 ^ s * d * 2 ^ k < 2 * ((rest + 1) * 2 ^ 53 * 2 ^ k) := by
    calc 2 ^ s * d * 2 ^ k < 2 ^ 54 * (rest + 1) * 2 ^ k :=
          Nat.mul_lt_mul_of_pos_right hclose (Nat.two_pow_pos k)
      _ = 2 * ((rest + 1) * 2 ^ 53 * 2 ^ k) := by ring
  have hpos : 0 < 2 ^ s * d * 2 ^ k :=
    Nat.mul_pos (Nat.mul_pos (Nat.two_pow_pos s) hd) (Nat.two_pow_pos k)
  have hmul : (w + 1) * one * d ≤ nearest (m * one) d * d :=
    Nat.mul_le_mul_right d (Nat.not_lt.1 hover)
  generalize nearest (m * one) d = x at hgap hmul
  zify at hone hbelow hrest hclose' hpos hmul
  have hnear : (below * 2 ^ k * d : Int) - m * one =
      (rest + 1) * 2 ^ 53 * 2 ^ k - 2 ^ s * d * 2 ^ k := by
    rw [hone]
    linear_combination 2 ^ 53 * 2 ^ k * hrest + 2 ^ k * d * hbelow
  have hfar : ((rest + 1) * 2 ^ 53 * 2 ^ k : Int) ≤ x * d - m * one := by
    rw [hone] at hmul ⊢
    linear_combination hmul - 2 ^ 53 * 2 ^ k * hrest
  unfold gap at hgap
  push_cast at hgap
  rw [hnear] at hgap
  generalize (x * d - m * one : Int) = above, ((rest + 1) * 2 ^ 53 * 2 ^ k : Int) = far,
    (2 ^ s * d * 2 ^ k : Int) = near at hgap hfar hclose' hpos
  omega

/-- The integer part of a quotient is that of its double, unless the next whole number is within
    2⁻⁵³ of the quotient from it. -/
theorem nearest_div_one {m d : Nat} (hd : 0 < d)
    (hfar : m < 2 ^ 53 * ((m / d + 1) * d - m)) : nearest (m * one) d / one = m / d := by
  have hlow : m / d * d ≤ m := Nat.div_mul_le_self m d
  have hwhole : Significant (m / d * one) :=
    ⟨m / d, fineness, lt_of_far hlow hfar, by rw [one_eq]⟩
  have hge : m / d * one ≤ nearest (m * one) d := by
    refine hwhole.le_nearest hd ?_
    rw [Nat.mul_right_comm]
    exact Nat.mul_le_mul_right one hlow
  exact Nat.div_eq_of_lt_le hge (nearest_lt_mul_one hd hlow hfar)

end Stencil.Binary64
