import Mathlib.Algebra.Order.Field.Power
import Mathlib.Data.Prod.Lex
import Mathlib.Tactic.Linarith
import Mathlib.Tactic.Positivity

/-!
# `Lib.Binary32` — order and sums of single-precision numbers

`Float32` has a logical model: a number unpacks to a sign, a mantissa and an exponent, an infinity, a zero, or not a
number. Its order is total away from not-a-number, and a sum is not a number only when an operand is not, or when the
operands are infinities.

* **`lt_iff_key`**, **`le_iff_key`**, **`le_trans`** — the order of numbers is that of their keys;
* **`value_nonneg`**, **`value_le_one`** — the exact value of a number between zero and one;
* **`not_isNaN_add`** — a finite number plus a number is a number;
* **`clamp_bounds`**, **`clamp_clamp`** — clamping keeps a number in bounds, and does nothing the second time.
-/

namespace Lib.Binary32

open Float.Model Float.Model.UnpackedFloat Option

variable (spec : Format) {x : Float32}

/-! ## Unpacked numbers -/

theorem sign_compare_swap (s t : Sign) : compare t s = (compare s t).swap := by
  cases s <;> cases t <;> rfl

theorem then_compare_swap (m₁ m₂ : Nat) (e₁ e₂ : Int) :
    (compare e₂ e₁).then (compare m₂ m₁) = ((compare e₁ e₂).then (compare m₁ m₂)).swap := by
  rw [Ordering.swap_then, Int.compare_swap, Nat.compare_swap]

theorem compare_swap (a b : UnpackedFloat) : b.compare a = (a.compare b).map Ordering.swap := by
  rcases a with s | _ | s | ⟨s, m, e, hm⟩ <;> rcases b with t | _ | t | ⟨t, n, k, hn⟩ <;>
    first
      | rfl
      | (cases s <;> rfl)
      | (cases t <;> rfl)
      | skip
  · exact congrArg some (sign_compare_swap s t)
  · cases s <;> cases t
    · exact congrArg (fun o => some (Ordering.swap o)) (then_compare_swap m n e k)
    · rfl
    · rfl
    · exact congrArg some (then_compare_swap m n e k)

theorem compare_isSome {a b : UnpackedFloat} (ha : a.isNaN = false) (hb : b.isNaN = false) :
    ∃ o, a.compare b = some o := by
  rcases a with s | _ | s | ⟨s, m, e, hm⟩
  case notANumber => cases ha
  all_goals
    rcases b with t | _ | t | ⟨t, n, k, hn⟩
    case notANumber => cases hb
    all_goals cases s <;> cases t <;> exact ⟨_, rfl⟩

theorem isNaN_of_compare {a b : UnpackedFloat} {o : Ordering} (h : a.compare b = some o) :
    a.isNaN = false ∧ b.isNaN = false := by
  rcases a with s | _ | s | ⟨s, m, e, hm⟩
  case notANumber => cases h
  all_goals
    rcases b with t | _ | t | ⟨t, n, k, hn⟩
    case notANumber => cases s <;> cases h
    all_goals exact ⟨rfl, rfl⟩

/-- The rational a finite number stands for. -/
def unpackedValue : UnpackedFloat → ℚ
  | .finite s m e _ => s.apply m * (2 : ℚ) ^ e
  | .zero _ | .infinity _ | .notANumber => 0

/-- The exact value of a finite `Float32`. -/
def value (x : Float32) : ℚ := unpackedValue x.toModel.unpack

/-! ## The order of numbers -/

/-- The number behind a `Float32`. -/
def unpacked (x : Float32) : UnpackedFloat := x.toModel.unpack

variable {a b : Float32}

theorem lt_iff : a < b ↔ (unpacked a).compare (unpacked b) = some .lt := by
  show decide (a.toModel.lt b.toModel = true) = true ↔ _
  rw [decide_eq_true_eq]
  exact beq_iff_eq

theorem le_iff : a ≤ b ↔ ∃ o, (unpacked a).compare (unpacked b) = some o ∧ o.isLE = true := by
  show decide (((unpacked a).compare (unpacked b)).any (·.isLE) = true) = true ↔ _
  rw [decide_eq_true_eq]
  cases (unpacked a).compare (unpacked b) with
  | none => exact ⟨nofun, fun ⟨_, h, _⟩ => nomatch h⟩
  | some o => exact ⟨fun h => ⟨o, rfl, h⟩, fun ⟨_, h, ho⟩ => some.inj h ▸ ho⟩

/-- Numbers that are not below are at least as great. -/
theorem le_of_not_lt (ha : a.isNaN = false) (hb : b.isNaN = false) (h : ¬ a < b) : b ≤ a := by
  obtain ⟨o, ho⟩ := compare_isSome ha hb
  rw [lt_iff] at h
  have hswap : (unpacked b).compare (unpacked a) = some o.swap := by
    rw [compare_swap]
    exact congrArg (Option.map Ordering.swap) ho
  have hne : o ≠ .lt := fun hlt => h (hlt ▸ ho)
  refine le_iff.mpr ⟨o.swap, hswap, ?_⟩
  cases o with
  | lt => exact absurd rfl hne
  | eq | gt => rfl

/-- What can be compared is a number. -/
theorem not_isNaN_of_le (h : a ≤ b) : a.isNaN = false ∧ b.isNaN = false := by
  obtain ⟨o, ho, _⟩ := le_iff.mp h
  exact isNaN_of_compare ho

/-- Where a number stands in the order: its sign, then exponent and mantissa. -/
def key : UnpackedFloat → ℤ ×ₗ ℤ ×ₗ ℤ
  | .infinity .negative => toLex (-2, toLex (0, 0))
  | .finite .negative m e _ => toLex (-1, toLex (-e, -m))
  | .zero _ => toLex (0, toLex (0, 0))
  | .finite .positive m e _ => toLex (1, toLex (e, m))
  | .infinity .positive => toLex (2, toLex (0, 0))
  | .notANumber => toLex (3, toLex (0, 0))

theorem key_lt_iff {c e m c' e' m' : ℤ} :
    (toLex (c, toLex (e, m)) : ℤ ×ₗ ℤ ×ₗ ℤ) < toLex (c', toLex (e', m')) ↔
      c < c' ∨ (c = c' ∧ (e < e' ∨ (e = e' ∧ m < m'))) := by
  rw [Prod.Lex.toLex_lt_toLex, Prod.Lex.toLex_lt_toLex]

theorem then_compare_eq_lt {e k : ℤ} {m n : Nat} :
    (compare e k).then (compare m n) = .lt ↔ e < k ∨ (e = k ∧ (m : ℤ) < n) := by
  rw [Ordering.then_eq_lt, compare_lt_iff_lt, compare_eq_iff_eq, compare_lt_iff_lt, Int.ofNat_lt]

/-- Numbers are ordered by their keys. -/
theorem compare_eq_lt_iff {a b : UnpackedFloat} (ha : a.isNaN = false) (hb : b.isNaN = false) :
    a.compare b = some .lt ↔ key a < key b := by
  rcases a with s | _ | s | ⟨s, m, e, hm⟩ <;> rcases b with t | _ | t | ⟨t, n, k, hn⟩
  case finite.finite =>
    cases s <;> cases t
    · show some ((compare e k).then (compare m n)).swap = some .lt ↔ _
      rw [some.injEq, ← then_compare_swap, then_compare_eq_lt]
      show _ ↔ toLex (_, toLex (_, _)) < toLex (_, toLex (_, _))
      rw [key_lt_iff]
      omega
    · exact iff_of_true rfl (key_lt_iff.mpr (.inl (by decide)))
    · exact iff_of_false nofun fun h => by have := key_lt_iff.mp h; omega
    · show some ((compare e k).then (compare m n)) = some .lt ↔ _
      rw [some.injEq, then_compare_eq_lt]
      show _ ↔ toLex (_, toLex (_, _)) < toLex (_, toLex (_, _))
      rw [key_lt_iff]
      omega
  all_goals
    first
      | (cases ha; done)
      | (cases hb; done)
      | (cases s <;> cases t <;> first
          | exact iff_of_true rfl (key_lt_iff.mpr (by omega))
          | exact iff_of_false nofun fun h => by have := key_lt_iff.mp h; omega)

theorem lt_iff_key (ha : a.isNaN = false) (hb : b.isNaN = false) : a < b ↔ key (unpacked a) < key (unpacked b) := by
  rw [lt_iff]
  exact compare_eq_lt_iff ha hb

theorem le_iff_key (ha : a.isNaN = false) (hb : b.isNaN = false) : a ≤ b ↔ key (unpacked a) ≤ key (unpacked b) := by
  rw [← not_lt, ← lt_iff_key hb ha]
  constructor
  · intro hle hlt
    obtain ⟨o, ho, hisLE⟩ := le_iff.mp hle
    rw [lt_iff, compare_swap] at hlt
    have heq : (some o).map Ordering.swap = some .lt := by
      rw [← ho]
      exact hlt
    cases o with
    | lt | eq => cases heq
    | gt => cases hisLE
  · exact le_of_not_lt hb ha

theorem le_trans {c : Float32} (h₁ : a ≤ b) (h₂ : b ≤ c) : a ≤ c := by
  obtain ⟨ha, hb⟩ := not_isNaN_of_le h₁
  obtain ⟨_, hc⟩ := not_isNaN_of_le h₂
  rw [le_iff_key ha hb] at h₁
  rw [le_iff_key hb hc] at h₂
  exact (le_iff_key ha hc).mpr (h₁.trans h₂)

/-! ## Values -/

theorem mantissa_lt_of_unpack {spec : Format} {b : BitVec spec.numBits} {s : Sign} {m : Nat} {e : Int} {hm : 0 < m}
    (h : UnpackedFloat.unpack spec b = .finite s m e hm) : m < 2 ^ (1 + spec.mantissaBitsWithoutImplicit) := by
  by_cases hlarge : unpackExponent b = -1#_
  · have hspecial := (if_pos hlarge).symm.trans h
    by_cases hzero : unpackMantissa b = 0#_
    · cases (if_pos hzero).symm.trans hspecial
    · cases (if_neg hzero).symm.trans hspecial
  have hfinite := (if_neg hlarge).symm.trans h
  by_cases hsmall : unpackExponent b = 0#_
  · have hsubnormal := (if_pos hsmall).symm.trans hfinite
    by_cases hzero : unpackMantissa b = 0#_
    · cases (dif_pos hzero).symm.trans hsubnormal
    · injection (dif_neg hzero).symm.trans hsubnormal with _ hmantissa _
      rw [← hmantissa]
      exact (BitVec.isLt _).trans (Nat.pow_lt_pow_right (by decide) (by omega))
  · injection (if_neg hsmall).symm.trans hfinite with _ hmantissa _
    rw [← hmantissa]
    exact BitVec.isLt _

/-- A mantissa has 24 bits. -/
theorem mantissa_lt {s : Sign} {m : Nat} {e : Int} {hm : 0 < m} (h : unpacked x = .finite s m e hm) :
    m < 2 ^ 24 := mantissa_lt_of_unpack h

theorem value_nonneg (h : 0 ≤ x) : 0 ≤ value x := by
  obtain ⟨h₀, hx⟩ := not_isNaN_of_le h
  rw [le_iff_key h₀ hx] at h
  have hzero : key (unpacked 0) = toLex (0, toLex (0, 0)) := by decide +kernel
  rw [← not_lt] at h
  show 0 ≤ unpackedValue (unpacked x)
  generalize unpacked x = u at h
  rcases u with s | _ | s | ⟨s, m, e, hm⟩
  case finite =>
    cases s with
    | negative => exact absurd (key_lt_iff.mpr (.inl (by decide))) h
    | positive =>
      show (0 : ℚ) ≤ ((m : ℤ) : ℚ) * 2 ^ e
      positivity
  all_goals exact le_refl (0 : ℚ)

theorem value_le_one (h : x ≤ 1) : value x ≤ 1 := by
  obtain ⟨hx, h₁⟩ := not_isNaN_of_le h
  rw [le_iff_key hx] at h
  have hone : key (unpacked 1) = toLex (1, toLex (-23, 2 ^ 23)) := by decide +kernel
  rw [hone, ← not_lt] at h
  show unpackedValue (unpacked x) ≤ 1
  have hmantissa := @mantissa_lt x
  generalize unpacked x = u at h hmantissa
  rcases u with s | _ | s | ⟨s, m, e, hm⟩
  case finite =>
    cases s with
    | negative =>
      show ((-(m : ℤ) : ℤ) : ℚ) * 2 ^ e ≤ 1
      have : (0 : ℚ) ≤ (m : ℚ) * 2 ^ e := by positivity
      push_cast
      linarith
    | positive =>
      have hlt := hmantissa rfl
      have hle : e < -23 ∨ (e = -23 ∧ (m : ℤ) ≤ 2 ^ 23) := by
        by_contra hcon
        refine h (key_lt_iff.mpr (.inr ⟨rfl, ?_⟩))
        omega
      show ((m : ℤ) : ℚ) * 2 ^ e ≤ 1
      have hshift : (2 : ℚ) ^ (-23 : ℤ) * 2 ^ 23 = 1 := by norm_num
      have hshift' : (2 : ℚ) ^ (-24 : ℤ) * 2 ^ 24 = 1 := by norm_num
      rw [mul_comm]
      rcases hle with he | ⟨rfl, hm'⟩
      · have hexp : (2 : ℚ) ^ e ≤ 2 ^ (-24 : ℤ) := zpow_le_zpow_right₀ (by norm_num) (by omega)
        have hman : (m : ℚ) ≤ 2 ^ 24 := by exact_mod_cast hlt.le
        calc (2 : ℚ) ^ e * m ≤ 2 ^ (-24 : ℤ) * 2 ^ 24 := by gcongr
          _ = 1 := hshift'
      · have hman : (m : ℚ) ≤ 2 ^ 23 := by exact_mod_cast hm'
        calc (2 : ℚ) ^ (-23 : ℤ) * m ≤ 2 ^ (-23 : ℤ) * 2 ^ 23 := by gcongr
          _ = 1 := hshift
  all_goals exact zero_le_one' ℚ

/-! ## Clamping -/

section Clamp

variable (lo hi : Float32)

/-- `f32::clamp`. -/
def clamp (x : Float32) : Float32 := if x < lo then lo else if hi < x then hi else x

variable {lo hi}

/-- Clamping brings a number into bounds. -/
theorem clamp_bounds (hlohi : lo ≤ hi) (hlo : lo ≤ lo) (hhi : hi ≤ hi) {x : Float32} (hx : x.isNaN = false) :
    lo ≤ clamp lo hi x ∧ clamp lo hi x ≤ hi := by
  obtain ⟨hlo', hhi'⟩ := not_isNaN_of_le hlohi
  unfold clamp
  split
  · exact ⟨hlo, hlohi⟩
  · next h₁ =>
    split
    · exact ⟨hlohi, hhi⟩
    · next h₂ => exact ⟨le_of_not_lt hx hlo' h₁, le_of_not_lt hhi' hx h₂⟩

/-- Clamping does nothing the second time. -/
theorem clamp_clamp (hlo : ¬ lo < lo) (hlohi : ¬ hi < lo) (hhi : ¬ hi < hi) (x : Float32) :
    clamp lo hi (clamp lo hi x) = clamp lo hi x := by
  by_cases h₁ : x < lo
  · have h : clamp lo hi x = lo := if_pos h₁
    rw [h]
    unfold clamp
    rw [if_neg hlo, if_neg hlohi]
  · by_cases h₂ : hi < x
    · have h : clamp lo hi x = hi := by unfold clamp; rw [if_neg h₁, if_pos h₂]
      rw [h]
      unfold clamp
      rw [if_neg hlohi, if_neg hhi]
    · have h : clamp lo hi x = x := by unfold clamp; rw [if_neg h₁, if_neg h₂]
      rw [h, h]

end Clamp

/-! ## Sums -/

theorem isNaN_zeroOrFinite {s : Sign} {m : Nat} {e : Int} (h : ¬m = 0 → 0 < m) :
    (if hm : m = 0 then zero s else finite s m e (h hm)).isNaN = false := by
  by_cases hm : m = 0
  · rw [dif_pos hm]
    rfl
  · rw [dif_neg hm]
    rfl

/-- Rounding makes a number. -/
theorem isNaN_roundWithAccuracy (s : Sign) (m : Nat) (e : Int) (a : Accuracy) :
    (roundWithAccuracy spec s m e a).isNaN = false := isNaN_zeroOrFinite _

theorem isNaN_normalize (m : Int) (e : Int) (s : Sign) : (UnpackedFloat.normalize spec m e s).isNaN = false := by
  unfold UnpackedFloat.normalize
  split
  · exact isNaN_roundWithAccuracy spec _ _ _ _
  · rfl
  · exact isNaN_roundWithAccuracy spec _ _ _ _

/-- All exponent bits are set, and some bit of the mantissa. -/
theorem isNaN_unpack {spec : Format} {b : BitVec spec.numBits} (h : unpackExponent b = -1#_ → unpackMantissa b = 0#_) :
    (UnpackedFloat.unpack spec b).isNaN = false := by
  by_cases hlarge : unpackExponent b = -1#_
  · exact congrArg UnpackedFloat.isNaN ((if_pos hlarge).trans (if_pos (h hlarge)))
  by_cases hsmall : unpackExponent b = 0#_
  · by_cases hzero : unpackMantissa b = 0#_
    · exact congrArg UnpackedFloat.isNaN (((if_neg hlarge).trans (if_pos hsmall)).trans (dif_pos hzero))
    · exact congrArg UnpackedFloat.isNaN (((if_neg hlarge).trans (if_pos hsmall)).trans (dif_neg hzero))
  · exact congrArg UnpackedFloat.isNaN ((if_neg hlarge).trans (if_neg hsmall))

/-- Packing makes no number into something else. -/
theorem isNaN_unpack_pack {f : UnpackedFloat} (h : f.isNaN = false) :
    (UnpackedFloat.unpack spec (UnpackedFloat.pack spec f)).isNaN = false := by
  have hone : (0#(spec.exponentBits)) ≠ -1#_ := by
    intro h
    have hpow : 1 < 2 ^ spec.exponentBits := Nat.one_lt_two_pow (by have := spec.he; omega)
    have := congrArg BitVec.toNat h
    rw [BitVec.toNat_ofNat, Nat.zero_mod, BitVec.neg_one_eq_allOnes, BitVec.toNat_allOnes] at this
    omega
  apply isNaN_unpack
  fun_cases UnpackedFloat.pack with
  | case1 => cases h
  | case2 s => exact fun _ => unpackMantissa_packComponents
  | case3 s => exact fun _ => unpackMantissa_packComponents
  | case4 s m e hm biased hbig => exact fun _ => unpackMantissa_packComponents
  | case5 s m e hm bits biased hfits hnormal =>
    -- the biased exponent is below the one of infinities
    rw [unpackExponent_packComponents]
    intro hexp
    have hmod : biased < 2 ^ spec.exponentBits := by omega
    have := congrArg BitVec.toNat hexp
    rw [BitVec.toNat_ofNat, Nat.mod_eq_of_lt hmod, BitVec.neg_one_eq_allOnes, BitVec.toNat_allOnes] at this
    omega
  | case6 s m e hm bits biased hfits hsub =>
    rw [unpackExponent_packComponents]
    exact fun hexp => absurd hexp hone

theorem isNaN_add_unpacked {a b : UnpackedFloat} (ha : a.isFinite = true) (hb : b.isNaN = false) :
    (add spec a b).isNaN = false := by
  rcases a with s | _ | s | ⟨s, m, e, hm⟩
  case infinity => cases ha
  case notANumber => cases ha
  all_goals
    rcases b with t | _ | t | ⟨t, n, k, hn⟩
    case notANumber => cases hb
  case zero.zero =>
    show (if s == t then zero s else zero .positive).isNaN = false
    split <;> rfl
  case finite.finite => exact isNaN_normalize spec _ _ _
  all_goals rfl

/-- A finite number plus a number is a number. -/
theorem not_isNaN_add (ha : a.isFinite = true) (hb : b.isNaN = false) : (a + b).isNaN = false :=
  isNaN_unpack_pack Format.binary32 (isNaN_add_unpacked Format.binary32 ha hb)

/-- What lies between finite numbers is finite. -/
theorem isFinite_of_between {lo x hi : Float32} (hlo : lo.isFinite = true) (hhi : hi.isFinite = true) (h₁ : lo ≤ x)
    (h₂ : x ≤ hi) : x.isFinite = true := by
  obtain ⟨o₁, ho₁, hle₁⟩ := le_iff.mp h₁
  obtain ⟨o₂, ho₂, hle₂⟩ := le_iff.mp h₂
  change (unpacked lo).isFinite = true at hlo
  change (unpacked hi).isFinite = true at hhi
  show (unpacked x).isFinite = true
  generalize unpacked x = x at ho₁ ho₂ ⊢
  generalize unpacked lo = lo at ho₁ hlo
  generalize unpacked hi = hi at ho₂ hhi
  cases x with
  | zero | finite => rfl
  | notANumber => cases ho₂
  | infinity s =>
    cases s with
    | positive =>
      have hgt : (infinity .positive).compare hi = some .gt := by
        rcases hi with s | _ | s | ⟨s, m, e, hm⟩ <;> first | rfl | cases hhi
      rw [hgt, some.injEq] at ho₂
      subst ho₂
      cases hle₂
    | negative =>
      have hgt : lo.compare (infinity .negative) = some .gt := by
        rcases lo with s | _ | s | ⟨s, m, e, hm⟩ <;> first | rfl | cases hlo
      rw [hgt, some.injEq] at ho₁
      subst ho₁
      cases hle₁

end Lib.Binary32
