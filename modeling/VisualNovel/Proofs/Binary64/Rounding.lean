import Mathlib.Data.Int.Log
import Mathlib.Data.Rat.Floor
import Mathlib.Tactic.Linarith
import Mathlib.Tactic.FieldSimp
import Mathlib.Tactic.Ring

namespace VisualNovel.Binary64

/-- The nearest integer; halfway between two, the even one. -/
def roundEven (x : ℚ) : ℤ :=
  if x - ⌊x⌋ < 1 / 2 then ⌊x⌋
  else if 1 / 2 < x - ⌊x⌋ then ⌊x⌋ + 1
  else ⌊x⌋ + ⌊x⌋ % 2

@[simp] theorem roundEven_intCast (n : ℤ) : roundEven n = n := by
  simp [roundEven]

theorem floor_le_roundEven (x : ℚ) : ⌊x⌋ ≤ roundEven x := by
  unfold roundEven
  split_ifs <;> omega

theorem roundEven_le_floor_add_one (x : ℚ) : roundEven x ≤ ⌊x⌋ + 1 := by
  unfold roundEven
  split_ifs <;> omega

theorem roundEven_mono {x y : ℚ} (h : x ≤ y) : roundEven x ≤ roundEven y := by
  rcases (Int.floor_mono h).lt_or_eq with hfloor | hfloor
  · have hx := roundEven_le_floor_add_one x
    have hy := floor_le_roundEven y
    omega
  · -- Above one integer, what is rounded down does not lie above what is rounded up.
    unfold roundEven
    rw [hfloor]
    split_ifs <;> first | omega | linarith

theorem roundEven_le_of_le {x : ℚ} {n : ℤ} (h : x ≤ n) : roundEven x ≤ n := by
  simpa using roundEven_mono h

theorem le_roundEven_of_le {x : ℚ} {n : ℤ} (h : (n : ℚ) ≤ x) : n ≤ roundEven x := by
  simpa using roundEven_mono h

theorem roundEven_le_add_half (x : ℚ) : roundEven x ≤ x + 1 / 2 := by
  have hfloor := Int.floor_le x
  unfold roundEven
  split_ifs with hlow hhigh
  · linarith
  · push_cast
    linarith
  · have hdigit : ((⌊x⌋ % 2 : ℤ) : ℚ) ≤ 1 := by
      exact_mod_cast (by omega : ⌊x⌋ % 2 ≤ 1)
    push_cast at hdigit ⊢
    linarith

/-- The exponent of the last digit that is kept. -/
def ulpExponent (x : ℚ) : ℤ :=
  max (Int.log 2 x - 52) (-1074)

theorem neg_le_ulpExponent (x : ℚ) : -1074 ≤ ulpExponent x :=
  le_max_right _ _

theorem lt_two_zpow_ulpExponent (x : ℚ) : x < 2 ^ (ulpExponent x + 53) := by
  have hlog := Int.lt_zpow_succ_log_self (b := 2) one_lt_two x
  refine hlog.trans_le (zpow_le_zpow_right₀ one_le_two ?_)
  unfold ulpExponent
  omega

theorem two_zpow_ulpExponent_le {x : ℚ} (hx : 0 < x) (h : ulpExponent x ≠ -1074) :
    2 ^ (ulpExponent x + 52) ≤ x := by
  have hexponent : ulpExponent x + 52 = Int.log 2 x := by
    unfold ulpExponent at h ⊢
    omega
  rw [hexponent]
  exact Int.zpow_log_le_self one_lt_two hx

def nearest (x : ℚ) : ℚ :=
  roundEven (x / 2 ^ ulpExponent x) * 2 ^ ulpExponent x

@[simp] theorem nearest_zero : nearest 0 = 0 := by
  have h : roundEven 0 = 0 := by simpa using roundEven_intCast 0
  simp [nearest, h]

section Grid

variable {x y : ℚ}

theorem two_zpow_pos (k : ℤ) : (0 : ℚ) < 2 ^ k :=
  zpow_pos two_pos k

theorem exists_mul_two_zpow (n : ℤ) {j k : ℤ} (h : j ≤ k) :
    ∃ m : ℤ, (n : ℚ) * 2 ^ k = m * 2 ^ j := by
  obtain ⟨d, rfl⟩ : ∃ d : ℕ, k = d + j := ⟨(k - j).toNat, by omega⟩
  refine ⟨n * 2 ^ d, ?_⟩
  rw [zpow_add₀ two_ne_zero, zpow_natCast]
  push_cast
  ring

theorem nearest_le_of_le {n k : ℤ} (hk : ulpExponent x ≤ k) (h : x ≤ n * 2 ^ k) :
    nearest x ≤ n * 2 ^ k := by
  obtain ⟨m, hm⟩ := exists_mul_two_zpow n hk
  rw [hm] at h ⊢
  have hround : roundEven (x / 2 ^ ulpExponent x) ≤ m :=
    roundEven_le_of_le ((div_le_iff₀ (two_zpow_pos _)).mpr h)
  exact mul_le_mul_of_nonneg_right (by exact_mod_cast hround) (two_zpow_pos _).le

theorem le_nearest_of_le {n k : ℤ} (hk : ulpExponent x ≤ k) (h : n * 2 ^ k ≤ x) :
    n * 2 ^ k ≤ nearest x := by
  obtain ⟨m, hm⟩ := exists_mul_two_zpow n hk
  rw [hm] at h ⊢
  have hround : m ≤ roundEven (x / 2 ^ ulpExponent x) :=
    le_roundEven_of_le ((le_div_iff₀ (two_zpow_pos _)).mpr h)
  exact mul_le_mul_of_nonneg_right (by exact_mod_cast hround) (two_zpow_pos _).le

theorem ulpExponent_le {k : ℤ} (hx : 0 < x) (hmin : -1074 ≤ k) (h : x < 2 ^ (k + 53)) :
    ulpExponent x ≤ k := by
  have hlog : Int.log 2 x < k + 53 := (Int.lt_zpow_iff_log_lt one_lt_two hx).mp h
  unfold ulpExponent
  omega

theorem nearest_le_add {k : ℤ} (hx : 0 < x) (hmin : -1074 ≤ k) (h : x < 2 ^ (k + 53)) :
    nearest x ≤ x + 2 ^ k / 2 := by
  have hpos := two_zpow_pos (ulpExponent x)
  have hgrid : (2 : ℚ) ^ ulpExponent x ≤ 2 ^ k :=
    zpow_le_zpow_right₀ one_le_two (ulpExponent_le hx hmin h)
  calc nearest x ≤ (x / 2 ^ ulpExponent x + 1 / 2) * 2 ^ ulpExponent x :=
        mul_le_mul_of_nonneg_right (roundEven_le_add_half _) hpos.le
    _ = x + 2 ^ ulpExponent x / 2 := by
        rw [add_mul, div_mul_cancel₀ _ hpos.ne']
        ring
    _ ≤ x + 2 ^ k / 2 := by linarith

theorem nearest_eq_self {n k : ℤ} (hk : ulpExponent (n * 2 ^ k) ≤ k) :
    nearest (n * 2 ^ k) = n * 2 ^ k :=
  le_antisymm (nearest_le_of_le hk le_rfl) (le_nearest_of_le hk le_rfl)

/-- Integers of up to 53 digits are not rounded. -/
theorem nearest_natCast {n : ℕ} (hn : n ≤ 2 ^ 53) : nearest n = n := by
  rcases Nat.eq_zero_or_pos n with rfl | hpos
  · simp
  have hposq : (0 : ℚ) < n := by exact_mod_cast hpos
  rcases hn.lt_or_eq with hlt | rfl
  · have hexponent : ulpExponent n ≤ 0 :=
      ulpExponent_le hposq (by decide) (by exact_mod_cast hlt)
    simpa using nearest_eq_self (n := n) (k := 0) (by simpa using hexponent)
  · have hexponent : ulpExponent ((2 ^ 53 : ℕ) : ℚ) ≤ 53 :=
      ulpExponent_le hposq (by decide) (by norm_num)
    have hvalue : ((2 ^ 53 : ℕ) : ℚ) = (1 : ℤ) * 2 ^ (53 : ℤ) := by norm_num
    rw [hvalue] at hexponent ⊢
    exact nearest_eq_self hexponent

theorem nearest_nonneg (hx : 0 ≤ x) : 0 ≤ nearest x := by
  have h := le_nearest_of_le (x := x) (n := 0) le_rfl (by simpa using hx)
  simpa using h

theorem ulpExponent_mono (hx : 0 < x) (h : x ≤ y) : ulpExponent x ≤ ulpExponent y := by
  have hlog := Int.log_mono_right (b := 2) hx h
  unfold ulpExponent
  omega

theorem nearest_mono (hx : 0 ≤ x) (h : x ≤ y) : nearest x ≤ nearest y := by
  rcases hx.eq_or_lt with rfl | hx
  · rw [nearest_zero]
    exact nearest_nonneg h
  rcases (ulpExponent_mono hx h).eq_or_lt with hsame | hless
  · rw [nearest, nearest, hsame]
    have hround : roundEven (x / 2 ^ ulpExponent y) ≤ roundEven (y / 2 ^ ulpExponent y) :=
      roundEven_mono (div_le_div_of_nonneg_right h (two_zpow_pos _).le)
    exact mul_le_mul_of_nonneg_right (by exact_mod_cast hround) (two_zpow_pos _).le
  · -- The power of two that `y` begins with separates the two.
    have hexponent : ulpExponent y = Int.log 2 y - 52 := by
      unfold ulpExponent at hless ⊢
      omega
    have hlog : Int.log 2 x < Int.log 2 y := by
      unfold ulpExponent at hless
      omega
    have hlower : (2 : ℚ) ^ Int.log 2 y ≤ y := Int.zpow_log_le_self one_lt_two (hx.trans_le h)
    have hupper : x ≤ (2 : ℚ) ^ Int.log 2 y :=
      ((Int.lt_zpow_iff_log_lt one_lt_two hx).mpr hlog).le
    calc nearest x ≤ (1 : ℤ) * 2 ^ Int.log 2 y :=
          nearest_le_of_le (by omega) (by simpa using hupper)
      _ ≤ nearest y := le_nearest_of_le (by omega) (by simpa using hlower)

theorem nearest_le_two_zpow {k : ℤ} (hx : 0 ≤ x) (hmin : -1074 ≤ k) (h : x ≤ 2 ^ k) :
    nearest x ≤ 2 ^ k := by
  rcases hx.eq_or_lt with rfl | hx
  · rw [nearest_zero]
    exact (two_zpow_pos k).le
  · have hexponent : ulpExponent x ≤ k :=
      ulpExponent_le hx hmin (h.trans_lt (zpow_lt_zpow_right₀ one_lt_two (by omega)))
    have hle := nearest_le_of_le (n := 1) hexponent (by simpa using h)
    simpa using hle

theorem nearest_lt_one (hx : 0 ≤ x) (h : x ≤ 1 - 2 ^ (-53 : ℤ)) : nearest x < 1 := by
  rcases hx.eq_or_lt with rfl | hx
  · simp
  -- The last number below one is on the grid of whatever is smaller, so nothing rounds past it.
  have hbelow : ((2 ^ 53 - 1 : ℤ) : ℚ) * 2 ^ (-53 : ℤ) = 1 - 2 ^ (-53 : ℤ) := by norm_num
  have hless : (1 : ℚ) - 2 ^ (-53 : ℤ) < 1 := sub_lt_self 1 (two_zpow_pos _)
  have hexponent : ulpExponent x ≤ -53 :=
    ulpExponent_le hx (by decide) (by simpa using h.trans_lt hless)
  calc nearest x ≤ (2 ^ 53 - 1 : ℤ) * 2 ^ (-53 : ℤ) :=
        nearest_le_of_le hexponent (hbelow.symm ▸ h)
    _ = 1 - 2 ^ (-53 : ℤ) := hbelow
    _ < 1 := hless

end Grid

end VisualNovel.Binary64
