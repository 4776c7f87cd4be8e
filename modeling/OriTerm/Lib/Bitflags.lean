import Mathlib.Data.List.Basic

/-!
# `Lib.Bitflags` — sets of flags packed in a machine word

A flag set is a `BitVec w`; the operations are the usual ones (`contains`, `intersects`, `insert`,
`remove`, `set`). The lemmas say how a query sees an update: an update by a **disjoint** set of flags is
invisible to it. Disjointness of two concrete constants is closed by `decide`, so clients rewrite with
`simp (disch := decide)`.
-/

namespace Lib.Bitflags

variable {w : Nat}

/-- Every flag of `f` is in `s`. -/
def contains (s f : BitVec w) : Bool := s &&& f == f

/-- Some flag of `f` is in `s`. -/
def intersects (s f : BitVec w) : Bool := s &&& f != 0#w

/-- `s` with the flags of `f` added. -/
def insert (s f : BitVec w) : BitVec w := s ||| f

/-- `s` with the flags of `f` taken out. -/
def remove (s f : BitVec w) : BitVec w := s &&& ~~~f

/-- `insert` or `remove`, by a boolean. -/
def set (s f : BitVec w) (v : Bool) : BitVec w := if v then insert s f else remove s f

/-- No flag in common. -/
def Disjoint (f g : BitVec w) : Prop := f &&& g = 0#w

instance (f g : BitVec w) : Decidable (Disjoint f g) := inferInstanceAs (Decidable (f &&& g = 0#w))

variable {s f g k : BitVec w}

theorem Disjoint.getElem (h : Disjoint f g) {i : Nat} (hi : i < w) : (f[i] && g[i]) = false := by
  have hb : (f &&& g)[i] = (0#w)[i] := by rw [h]
  simpa only [BitVec.getElem_and, BitVec.getElem_zero] using hb

/-- A part of a disjoint set is disjoint. -/
theorem Disjoint.of_and_eq (h : Disjoint k g) (hf : f &&& k = f) : Disjoint f g := by
  show f &&& g = 0#w
  rw [← hf, BitVec.and_assoc, show k &&& g = 0#w from h, BitVec.and_zero]

/-! ## What a query sees of an update -/

section

variable (h : Disjoint f g)
include h

theorem insert_and_of_disjoint : insert s f &&& g = s &&& g := by
  ext i hi
  have hb := h.getElem hi
  simp only [insert]
  cases hf : f[i] <;> simp_all

theorem remove_and_of_disjoint : remove s f &&& g = s &&& g := by
  ext i hi
  have hb := h.getElem hi
  simp only [remove, BitVec.getElem_and]
  cases hf : f[i] <;> simp_all

theorem contains_insert_of_disjoint : contains (insert s f) g = contains s g := by
  simp [contains, insert_and_of_disjoint h]

theorem contains_remove_of_disjoint : contains (remove s f) g = contains s g := by
  simp [contains, remove_and_of_disjoint h]

theorem intersects_insert_of_disjoint : intersects (insert s f) g = intersects s g := by
  simp [intersects, insert_and_of_disjoint h]

theorem intersects_remove_of_disjoint : intersects (remove s f) g = intersects s g := by
  simp [intersects, remove_and_of_disjoint h]

end

/-- Inserted flags are contained. -/
@[simp] theorem contains_insert_self : contains (insert s f) f = true := by
  simp only [contains, insert, beq_iff_eq]
  ext i hi
  simp only [BitVec.getElem_and, BitVec.getElem_or]
  cases s[i] <;> simp

/-- Removing flags adds no intersection. -/
theorem intersects_remove_of_intersects (h : intersects s f = false) : intersects (remove s g) f = false := by
  simp only [intersects, bne_eq_false_iff_eq] at h ⊢
  ext i hi
  have hb : (s &&& f)[i] = (0#w)[i] := by rw [h]
  simp only [BitVec.getElem_and] at hb
  simp only [remove, BitVec.getElem_and]
  cases g[i] <;> simp_all

/-- Intersecting a union is intersecting a part. -/
theorem intersects_or : intersects s (f ||| g) = (intersects s f || intersects s g) := by
  have hor : s &&& (f ||| g) = (s &&& f) ||| (s &&& g) := by
    ext i hi
    simp only [BitVec.getElem_and, BitVec.getElem_or]
    cases s[i] <;> simp
  rw [Bool.eq_iff_iff]
  simp only [intersects, hor, bne_iff_ne, ne_eq, BitVec.or_eq_zero_iff, Bool.or_eq_true]
  exact not_and_or

/-- Flags of which none is set are not all set. -/
theorem not_contains_of_not_intersects (h : intersects s f = false) (hf : f ≠ 0#w) : contains s f = false := by
  unfold intersects at h
  unfold contains
  rw [bne_eq_false_iff_eq] at h
  rw [h]
  exact beq_eq_false_iff_ne.mpr (Ne.symm hf)

/-- Toggling is invisible to a disjoint query. -/
theorem toggle_and_of_disjoint (h : Disjoint f g) : (s ^^^ f) &&& g = s &&& g := by
  ext i hi
  have hb := h.getElem hi
  cases hf : f[i] <;> simp_all

/-- Toggling a single flag turns it over. -/
theorem contains_toggle_bit {k : Nat} (hk : k < w) : contains (s ^^^ 1#w <<< k) (1#w <<< k) = !contains s (1#w <<< k) := by
  have hbit : ∀ x : BitVec w, contains x (1#w <<< k) = x[k] := by
    intro x
    rw [Bool.eq_iff_iff]
    unfold contains
    rw [beq_iff_eq]
    constructor
    · intro heq
      have hset : (x &&& 1#w <<< k)[k] = (1#w <<< k)[k] := by rw [heq]
      simpa using hset
    · intro hset
      ext j hj
      by_cases hjk : j = k
      · subst hjk
        simp [hset]
      · simp [BitVec.getElem_shiftLeft]
        omega
  rw [hbit, hbit]
  simp

/-- A single flag is contained when it intersects. -/
theorem contains_of_intersects_bit {k : Nat} (h : intersects s (1#w <<< k) = true) : contains s (1#w <<< k) = true := by
  simp only [intersects, bne_iff_ne, contains, beq_iff_eq] at h ⊢
  ext i hi
  by_cases hk : i = k
  · by_contra hne
    apply h
    ext j hj
    by_cases hj' : j = i
    · simp_all
    · simp [BitVec.getElem_shiftLeft]
      omega
  · simp [BitVec.getElem_shiftLeft]
    omega

/-! ## Removing twice -/

theorem remove_comm : remove (remove s f) g = remove (remove s g) f := by
  ext i hi
  simp only [remove, BitVec.getElem_and, BitVec.getElem_not]
  cases s[i] <;> cases f[i] <;> simp

@[simp] theorem remove_remove : remove (remove s f) f = remove s f := by
  ext i hi
  simp only [remove, BitVec.getElem_and]
  cases f[i] <;> simp

@[simp] theorem zero_remove : remove (0#w) f = 0#w := by simp [remove]

/-- Adding flags and then removing a larger set is removing the larger set. -/
theorem remove_insert_of_contains (h : contains g f = true) : remove (insert s f) g = remove s g := by
  simp only [contains, beq_iff_eq] at h
  ext i hi
  have hb : (g &&& f)[i] = f[i] := by rw [h]
  simp only [BitVec.getElem_and] at hb
  simp only [remove, insert, BitVec.getElem_and]
  cases hf : f[i] <;> simp_all

/-- Removing flags and then a larger set is removing the larger set. -/
theorem remove_remove_of_contains (h : contains g f = true) : remove (remove s f) g = remove s g := by
  simp only [contains, beq_iff_eq] at h
  ext i hi
  have hb : (g &&& f)[i] = f[i] := by rw [h]
  simp only [BitVec.getElem_and] at hb
  simp only [remove, BitVec.getElem_and]
  cases hf : f[i] <;> simp_all

/-- A flag of a removed set is gone. -/
theorem contains_remove_of_contains (h : contains g f = true) (hf : f ≠ 0#w) : contains (remove s g) f = false := by
  simp only [contains, beq_iff_eq, beq_eq_false_iff_ne] at h ⊢
  intro heq
  apply hf
  rw [← heq]
  ext i hi
  have hb : (g &&& f)[i] = f[i] := by rw [h]
  simp only [BitVec.getElem_and] at hb
  simp only [remove, BitVec.getElem_and]
  cases hf : f[i] <;> simp_all

/-! ## Lists of edits -/

/-- The flags of `m.2` are taken out, then those of `m.1` added. -/
def edit (s : BitVec w) (m : BitVec w × BitVec w) : BitVec w := insert (remove s m.2) m.1

@[simp] theorem edit_zero (s : BitVec w) : edit s (0#w, 0#w) = s := by simp [edit, insert, remove]

/-- Two edits are one: what the second sets or clears, it decides. -/
theorem edit_edit (s : BitVec w) (m m' : BitVec w × BitVec w) :
    edit (edit s m) m' = edit s (insert (remove m.1 m'.2) m'.1, insert (remove m.2 m'.1) m'.2) := by
  ext i hi
  simp only [edit, insert, remove, BitVec.getElem_or, BitVec.getElem_and, BitVec.getElem_not]
  cases m'.1[i] <;> cases m'.2[i] <;> simp

variable (masks : List (BitVec w))

/-- A flag is in a union as soon as one set has it. -/
theorem getLsbD_foldl_insert (s : BitVec w) (i : Nat) :
    (masks.foldl insert s).getLsbD i = (s.getLsbD i || decide (masks.countP (·.getLsbD i) ≠ 0)) := by
  induction masks generalizing s with
  | nil => simp
  | cons m masks ih =>
    rw [List.foldl_cons, ih, insert, BitVec.getLsbD_or, List.countP_cons]
    cases m.getLsbD i <;> simp

/-- A flag is turned over as often as a set has it. -/
theorem getLsbD_foldl_xor (s : BitVec w) (i : Nat) :
    (masks.foldl (· ^^^ ·) s).getLsbD i = (s.getLsbD i ^^ decide (masks.countP (·.getLsbD i) % 2 = 1)) := by
  induction masks generalizing s with
  | nil => simp
  | cons m masks ih =>
    rw [List.foldl_cons, ih, BitVec.getLsbD_xor, List.countP_cons, Bool.xor_assoc]
    congr 1
    cases m.getLsbD i with
    | false => simp
    | true =>
      rcases Nat.mod_two_eq_zero_or_one (masks.countP (·.getLsbD i)) with h | h <;> simp [Nat.add_mod, h]

/-- **Toggling by a union** is toggling by each set if and only if no flag is in an even number of them, but zero. -/
theorem xor_union_iff : (∀ s, s ^^^ masks.foldl insert 0#w = masks.foldl (· ^^^ ·) s)
    ↔ ∀ i, masks.countP (·.getLsbD i) = 0 ∨ masks.countP (·.getLsbD i) % 2 = 1 := by
  have hbit : ∀ s i, ((s ^^^ masks.foldl insert 0#w).getLsbD i = (masks.foldl (· ^^^ ·) s).getLsbD i)
      ↔ (masks.countP (·.getLsbD i) = 0 ∨ masks.countP (·.getLsbD i) % 2 = 1) := by
    intro s i
    rw [BitVec.getLsbD_xor, getLsbD_foldl_insert, getLsbD_foldl_xor, BitVec.getLsbD_zero, Bool.false_or,
      Bool.xor_right_inj, decide_eq_decide]
    omega
  constructor
  · exact fun h i => (hbit 0#w i).mp (by rw [h])
  · exact fun h s => BitVec.eq_of_getLsbD_eq fun i _ => (hbit s i).mpr (h i)

end Lib.Bitflags
