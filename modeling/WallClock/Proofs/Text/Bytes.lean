import WallClock.Text.Bytes

/-!
What the bytes of a text say about its characters. A byte below 128 is a character of its own, so that a
text can be looked through byte by byte for characters of ASCII.
-/

namespace WallClock.Text

theorem bytes_toList (s : String) : bytes s.toList = s.toByteArray.data.toList := by
  rw [← String.utf8Encode_toList, List.utf8Encode, List.data_toByteArray]
  rfl

theorem bytes_append (a b : List Char) : bytes (a ++ b) = bytes a ++ bytes b :=
  List.flatMap_append

theorem bytes_eq_nil_iff {s : List Char} : bytes s = [] ↔ s = [] := by
  cases s with
  | nil => simp [bytes]
  | cons c s => simp [bytes]

theorem head?_bytes_congr {s s' : List Char} (h : s.head? = s'.head?) :
    (bytes s).head? = (bytes s').head? := by
  cases s with
  | nil =>
    rw [List.head?_nil, eq_comm, List.head?_eq_none_iff] at h
    rw [h]
  | cons c t =>
    cases s' with
    | nil => cases h
    | cons c' t' =>
      cases h
      change (String.utf8EncodeChar c ++ bytes t).head? = (String.utf8EncodeChar c ++ bytes t').head?
      cases hbytes : String.utf8EncodeChar c with
      | nil => simp at hbytes
      | cons b bs => rfl

theorem not_ofNat_le {n : Nat} (hlow : 128 ≤ n) (hhigh : n < 256) : ¬ UInt8.ofNat n ≤ 127 := by
  rw [UInt8.le_iff_toNat_le, UInt8.toNat_ofNat_of_lt' hhigh]
  exact Nat.not_le.2 hlow

/-- A byte below 128 stands for a character only by itself. -/
theorem toNat_of_mem_utf8EncodeChar {c : Char} {b : UInt8} (hb : b ≤ 127)
    (h : b ∈ String.utf8EncodeChar c) : c.toNat = b.toNat := by
  unfold String.utf8EncodeChar at h
  dsimp only at h
  by_cases hc : c.val.toNat ≤ 127
  · rw [if_pos hc, List.mem_singleton] at h
    rw [h, UInt8.toNat_ofNat_of_lt' (Nat.lt_of_le_of_lt hc (by decide))]
    rfl
  · -- The bytes of a longer sequence are 128 or more.
    rw [if_neg hc] at h
    split at h
    · simp only [List.mem_cons, List.not_mem_nil, or_false] at h
      rcases h with rfl | rfl <;> exact absurd hb (not_ofNat_le (by omega) (by omega))
    · split at h
      · simp only [List.mem_cons, List.not_mem_nil, or_false] at h
        rcases h with rfl | rfl | rfl <;> exact absurd hb (not_ofNat_le (by omega) (by omega))
      · simp only [List.mem_cons, List.not_mem_nil, or_false] at h
        rcases h with rfl | rfl | rfl | rfl <;> exact absurd hb (not_ofNat_le (by omega) (by omega))

/-- A character of a text of ASCII is a byte of the text. -/
theorem mem_bytes_of_ascii {s : List Char} (h : ∀ b ∈ bytes s, b ≤ 127) {c : Char} (hc : c ∈ s) :
    UInt8.ofNat c.toNat ∈ bytes s ∧ c.toNat ≤ 127 := by
  obtain ⟨b, hb⟩ := List.exists_mem_of_ne_nil (String.utf8EncodeChar c) (by simp)
  have hmem : b ∈ bytes s := List.mem_flatMap.2 ⟨c, hc, hb⟩
  have hle := h b hmem
  rw [toNat_of_mem_utf8EncodeChar hle hb, UInt8.ofNat_toNat]
  exact ⟨hmem, UInt8.le_iff_toNat_le.1 hle⟩

/-- A character of ASCII is in a text if its byte is in the bytes of the text. -/
theorem mem_of_mem_bytes {s : List Char} {c : Char} (hc : c.toNat ≤ 127)
    (h : UInt8.ofNat c.toNat ∈ bytes s) : c ∈ s := by
  obtain ⟨d, hd, hmem⟩ := List.mem_flatMap.1 h
  have hnat : (UInt8.ofNat c.toNat).toNat = c.toNat :=
    UInt8.toNat_ofNat_of_lt' (Nat.lt_of_le_of_lt hc (by decide))
  have hle : UInt8.ofNat c.toNat ≤ 127 := by
    rw [UInt8.le_iff_toNat_le, hnat]
    exact hc
  have heq : d.toNat = c.toNat := (toNat_of_mem_utf8EncodeChar hle hmem).trans hnat
  rwa [← Char.toNat_inj.1 heq]

end WallClock.Text
