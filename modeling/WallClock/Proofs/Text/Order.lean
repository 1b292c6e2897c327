import Mathlib.Data.Int.Order.Basic
import Mathlib.Data.String.Basic
import WallClock.Proofs.Text.Bytes
import WallClock.Proofs.Text.Numeral

/-!
The order of texts, character by character or byte by byte. Where the parts of two texts have the same
lengths the first part that differs decides, and among numerals of fixed width the number decides.
-/

namespace WallClock.Text

theorem compare_cons_self (c : Char) (s t : List Char) : compare (c :: s) (c :: t) = compare s t := by
  rw [List.compare_cons_cons, compare_eq_iff_eq.2 (Eq.refl c), Ordering.eq_then]

/-- Parts of one length decide the order one after the other. -/
theorem compare_append {a b : List Char} (h : a.length = b.length) (s t : List Char) :
    compare (a ++ s) (b ++ t) = (compare a b).then (compare s t) := by
  induction a generalizing b with
  | nil =>
    cases b with
    | nil => rfl
    | cons d b => cases h
  | cons c a ih =>
    cases b with
    | nil => cases h
    | cons d b =>
      rw [List.cons_append, List.cons_append, List.compare_cons_cons, List.compare_cons_cons,
        ih (Nat.succ.inj h), Ordering.then_assoc]

/-! ### Numerals -/

theorem compare_congr {α β : Type} [LinearOrder α] [LinearOrder β] {a b : α} {x y : β}
    (hlt : a < b ↔ x < y) (hgt : b < a ↔ y < x) : compare a b = compare x y := by
  rcases lt_trichotomy a b with h | rfl | h
  · rw [compare_lt_iff_lt.2 h, compare_lt_iff_lt.2 (hlt.1 h)]
  · have heq : x = y := by
      rcases lt_trichotomy x y with h | h | h
      · exact absurd (hlt.2 h) (lt_irrefl a)
      · exact h
      · exact absurd (hgt.2 h) (lt_irrefl a)
    rw [compare_eq_iff_eq.2 (Eq.refl a), compare_eq_iff_eq.2 heq]
  · rw [compare_gt_iff_gt.2 h, compare_gt_iff_gt.2 (hgt.1 h)]

theorem compare_natCast (m n : Nat) : compare (m : Int) (n : Int) = compare m n :=
  compare_congr Int.ofNat_lt Int.ofNat_lt

/-- What decides first, and what is left to decide. -/
theorem compare_eq_then {α β : Type} [LinearOrder α] [LinearOrder β] {a b : α} {x y : β}
    {rest : Ordering} (hlt : a < b → x < y) (hgt : b < a → y < x) (heq : a = b → compare x y = rest) :
    compare x y = (compare a b).then rest := by
  rcases lt_trichotomy a b with h | h | h
  · rw [compare_lt_iff_lt.2 h, compare_lt_iff_lt.2 (hlt h), Ordering.lt_then]
  · rw [compare_eq_iff_eq.2 h, heq h, Ordering.eq_then]
  · rw [compare_gt_iff_gt.2 h, compare_gt_iff_gt.2 (hgt h), Ordering.gt_then]

/-- Numbers in two parts: the greater parts decide, and then the lesser ones. -/
theorem compare_mul_add {k a b r s : Int} (hr : 0 ≤ r ∧ r < k) (hs : 0 ≤ s ∧ s < k) :
    compare (k * a + r) (k * b + s) = (compare a b).then (compare r s) := by
  have hstep : ∀ {a b : Int}, a < b → k * a + k ≤ k * b := by
    intro a b hlt
    have hmul : k * (a + 1) ≤ k * b := Int.mul_le_mul_of_nonneg_left hlt (by omega)
    rwa [Int.mul_add, Int.mul_one] at hmul
  apply compare_eq_then
  · intro hlt
    have := hstep hlt
    omega
  · intro hgt
    have := hstep hgt
    omega
  · rintro rfl
    exact compare_congr (by omega) (by omega)

theorem compare_div_mod (m n : Nat) :
    compare m n = (compare (m / 10) (n / 10)).then (compare (m % 10) (n % 10)) := by
  have hparts := @compare_mul_add 10 (m / 10 : Nat) (n / 10 : Nat) (m % 10 : Nat) (n % 10 : Nat)
    (by omega) (by omega)
  rw [compare_natCast, compare_natCast] at hparts
  rw [← hparts, ← compare_natCast]
  congr 1 <;> omega

theorem compare_digitChar {d e : Nat} (hd : d < 10) (he : e < 10) :
    compare [digitChar d] [digitChar e] = compare d e := by
  have all : ∀ d ∈ List.range 10, ∀ e ∈ List.range 10,
    compare [digitChar d] [digitChar e] = compare d e := by decide
  exact all d (List.mem_range.2 hd) e (List.mem_range.2 he)

/-- Numbers of one width are in the order of their digits. -/
theorem compare_padded {width m n : Nat} (hm : m < tenTo width) (hn : n < tenTo width) :
    compare (padded width m) (padded width n) = compare m n := by
  induction width generalizing m n with
  | zero =>
    rw [tenTo] at hm hn
    rw [show m = 0 by omega, show n = 0 by omega]
    rfl
  | succ width ih =>
    rw [tenTo] at hm hn
    rw [padded, padded, compare_append (by simp), ih (by omega) (by omega),
      compare_digitChar (Nat.mod_lt m (by decide)) (Nat.mod_lt n (by decide)), ← compare_div_mod]

/-! ### Bytes and strings -/

theorem bytes_cons_of_ascii {c : Char} (h : c.toNat < 128) (s : List Char) :
    bytes (c :: s) = c.val.toUInt8 :: bytes s := by
  have hsize : c.utf8Size = 1 := by
    rw [Char.utf8Size_eq_one_iff, UInt32.le_iff_toNat_le]
    exact Nat.le_of_lt_succ h
  change String.utf8EncodeChar c ++ bytes s = _
  rw [String.utf8EncodeChar_eq_singleton hsize]
  rfl

theorem compare_byte {c d : Char} (hc : c.toNat < 128) (hd : d.toNat < 128) :
    compare c.val.toUInt8 d.val.toUInt8 = compare c d := by
  have htoNat : ∀ {c : Char}, c.toNat < 128 → c.val.toUInt8.toNat = c.toNat := by
    intro c hc
    rw [UInt32.toNat_toUInt8]
    exact Nat.mod_eq_of_lt (Nat.lt_trans hc (by decide))
  have hlt : c.val.toUInt8 < d.val.toUInt8 ↔ c < d := by
    rw [UInt8.lt_iff_toNat_lt, htoNat hc, htoNat hd]
    rfl
  have heq : c.val.toUInt8 = d.val.toUInt8 ↔ c = d := by
    rw [← UInt8.toNat_inj, htoNat hc, htoNat hd, Char.toNat_inj]
  change compareOfLessAndEq _ _ = compareOfLessAndEq _ _
  simp only [compareOfLessAndEq, hlt, heq]

/-- Texts of ASCII are in the order of their bytes. -/
theorem compare_bytes {s t : List Char} (hs : ∀ c ∈ s, c.toNat < 128)
    (ht : ∀ c ∈ t, c.toNat < 128) : compare (bytes s) (bytes t) = compare s t := by
  induction s generalizing t with
  | nil =>
    cases t with
    | nil => rfl
    | cons d t => rw [bytes_cons_of_ascii (ht d List.mem_cons_self)]; rfl
  | cons c s ih =>
    have hc := hs c List.mem_cons_self
    cases t with
    | nil => rw [bytes_cons_of_ascii hc]; rfl
    | cons d t =>
      have hd := ht d List.mem_cons_self
      rw [bytes_cons_of_ascii hc, bytes_cons_of_ascii hd, List.compare_cons_cons,
        List.compare_cons_cons, compare_byte hc hd,
        ih (fun c' h => hs c' (List.mem_cons_of_mem c h))
          (fun d' h => ht d' (List.mem_cons_of_mem d h))]

theorem lt_iff_compare_eq_lt {s t : List Char} : s < t ↔ compare s t = .lt := by
  induction s generalizing t with
  | nil => cases t <;> simp [List.compare_nil_cons]
  | cons c s ih =>
    cases t with
    | nil => simp
    | cons d t =>
      rw [List.cons_lt_cons_iff, ih, List.compare_cons_cons, Ordering.then_eq_lt, compare_lt_iff_lt,
        compare_eq_iff_eq]

/-- Strings are in the order of their characters. -/
theorem compare_toList (a b : String) : compare a.toList b.toList = compare a b := by
  cases h : compare a.toList b.toList with
  | lt =>
    rw [← lt_iff_compare_eq_lt, ← String.lt_iff_toList_lt] at h
    exact (compare_lt_iff_lt.2 h).symm
  | eq => exact (compare_eq_iff_eq.2 (String.toList_inj.1 (Std.LawfulEqOrd.eq_of_compare h))).symm
  | gt =>
    rw [Std.OrientedCmp.gt_iff_lt, ← lt_iff_compare_eq_lt, ← String.lt_iff_toList_lt] at h
    exact (compare_gt_iff_gt.2 h).symm

end WallClock.Text
