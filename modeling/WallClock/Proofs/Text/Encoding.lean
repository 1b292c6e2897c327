import Mathlib.Data.String.Basic
import WallClock.Proofs.Text.Bytes
import WallClock.Text.Case

/-!
Texts and their bytes. The bytes of a text are in the order of its characters, and a text stands within
another exactly if its bytes do: no character begins with a byte that another has further on. So names
may be sorted and looked through byte by byte, and letters folded byte by byte, with the same outcome.
-/

namespace WallClock.Text

/-! ### Single characters -/

/-- The bytes of the character with a number: one alone in ASCII, elsewhere a first one that tells how
many follow, and six bits of the number in each that follows. -/
inductive Encodes (n : Nat) : List UInt8 → Prop
  | one {a : UInt8} : n < 0x80 → a.toNat = n → Encodes n [a]
  | two {a b : UInt8} : 0x80 ≤ n → n < 0x800 → a.toNat = 0xc0 + n / 0x40 →
      b.toNat = 0x80 + n % 0x40 → Encodes n [a, b]
  | three {a b₁ b : UInt8} : 0x800 ≤ n → n < 0x10000 → a.toNat = 0xe0 + n / 0x1000 →
      b₁.toNat = 0x80 + n / 0x40 % 0x40 → b.toNat = 0x80 + n % 0x40 → Encodes n [a, b₁, b]
  | four {a b₂ b₁ b : UInt8} : 0x10000 ≤ n → n < 0x110000 → a.toNat = 0xf0 + n / 0x40000 →
      b₂.toNat = 0x80 + n / 0x1000 % 0x40 → b₁.toNat = 0x80 + n / 0x40 % 0x40 →
      b.toNat = 0x80 + n % 0x40 → Encodes n [a, b₂, b₁, b]

theorem encodes_utf8EncodeChar (c : Char) : Encodes c.toNat (String.utf8EncodeChar c) := by
  have hmax : c.val.toNat < 0x110000 := by
    have hvalid := c.valid
    unfold UInt32.isValidChar Nat.isValidChar at hvalid
    omega
  unfold String.utf8EncodeChar
  change Encodes c.val.toNat _
  dsimp only
  split
  · apply Encodes.one (by omega)
    rw [UInt8.toNat_ofNat']
    omega
  · split
    · apply Encodes.two (by omega) (by omega)
      all_goals rw [UInt8.toNat_ofNat']; omega
    · split
      · apply Encodes.three (by omega) (by omega)
        all_goals rw [UInt8.toNat_ofNat']; omega
      · apply Encodes.four (by omega) (by omega)
        all_goals rw [UInt8.toNat_ofNat']; omega

/-- The order of two characters shows in their first bytes that differ, whatever follows. -/
theorem Encodes.append_lt {m n : Nat} {s t : List UInt8} (hs : Encodes m s) (ht : Encodes n t)
    (h : m < n) (s' t' : List UInt8) : s ++ s' < t ++ t' := by
  -- Whichever lengths the two have, some byte is the first to differ, and it differs as the numbers do.
  cases hs <;> cases ht <;>
  · simp only [List.cons_append, List.nil_append, List.cons_lt_cons_iff, UInt8.lt_iff_toNat_lt,
      ← UInt8.toNat_inj]
    omega

theorem utf8EncodeChar_append_lt {c d : Char} (h : c < d) (s t : List UInt8) :
    String.utf8EncodeChar c ++ s < String.utf8EncodeChar d ++ t :=
  (encodes_utf8EncodeChar c).append_lt (encodes_utf8EncodeChar d) h s t

/-- A byte with which no character begins. -/
def Trails (b : UInt8) : Prop :=
  0x80 ≤ b.toNat ∧ b.toNat < 0xc0

theorem Encodes.exists_cons {n : Nat} {s : List UInt8} (h : Encodes n s) :
    ∃ a t, s = a :: t ∧ ¬ Trails a ∧ ∀ b ∈ t, Trails b := by
  unfold Trails
  cases h with
  | one hn ha => exact ⟨_, _, rfl, by omega, by simp⟩
  | two _ _ ha hb => exact ⟨_, _, rfl, by omega, by simp; omega⟩
  | three _ _ ha hb₁ hb => exact ⟨_, _, rfl, by omega, by simp; omega⟩
  | four _ _ ha hb₂ hb₁ hb => exact ⟨_, _, rfl, by omega, by simp; omega⟩

/-! ### Order -/

/-- Texts are in the same order as their bytes. -/
theorem bytes_lt_bytes {s t : List Char} (h : s < t) : bytes s < bytes t := by
  induction s generalizing t with
  | nil =>
    cases t with
    | nil => exact absurd h (List.not_lt_nil [])
    | cons d t =>
      obtain ⟨a, rest, hbytes, -⟩ := (encodes_utf8EncodeChar d).exists_cons
      change [] < String.utf8EncodeChar d ++ bytes t
      rw [hbytes]
      exact List.nil_lt_cons a _
  | cons c s ih =>
    cases t with
    | nil => exact absurd h (List.not_lt_nil _)
    | cons d t =>
      rcases List.cons_lt_cons_iff.1 h with hlt | ⟨rfl, hlt⟩
      · exact utf8EncodeChar_append_lt hlt (bytes s) (bytes t)
      · exact List.append_left_lt (ih hlt)

/-- Strings are in the order of their bytes. -/
theorem bytes_lt_iff {a b : String} : bytes a.toList < bytes b.toList ↔ a < b := by
  constructor
  · intro h
    rcases lt_trichotomy a b with hlt | rfl | hgt
    · exact hlt
    · exact absurd h (List.lt_irrefl _)
    · exact absurd (bytes_lt_bytes (String.lt_iff_toList_lt.1 hgt)) (List.lt_asymm h)
  · intro h
    exact bytes_lt_bytes (String.lt_iff_toList_lt.1 h)

/-! ### Texts within texts -/

/-- A text that begins with the bytes of another begins with that text. -/
theorem prefix_of_bytes {s t : List Char} (h : bytes s <+: bytes t) : s <+: t := by
  induction s generalizing t with
  | nil => exact List.nil_prefix
  | cons c s ih =>
    obtain ⟨rest, hrest⟩ := h
    cases t with
    | nil =>
      have hnil : bytes (c :: s) = [] := (List.append_eq_nil_iff.1 hrest).1
      exact absurd (bytes_eq_nil_iff.1 hnil) (List.cons_ne_nil c s)
    | cons d t =>
      have hbytes : String.utf8EncodeChar c ++ (bytes s ++ rest) =
          String.utf8EncodeChar d ++ bytes t := by
        rw [← List.append_assoc]
        exact hrest
      rcases lt_trichotomy c d with hlt | rfl | hgt
      · have hbefore := utf8EncodeChar_append_lt hlt (bytes s ++ rest) (bytes t)
        rw [hbytes] at hbefore
        exact absurd hbefore (List.lt_irrefl _)
      · exact List.cons_prefix_cons.2 ⟨rfl, ih ⟨rest, List.append_cancel_left hbytes⟩⟩
      · have hafter := utf8EncodeChar_append_lt hgt (bytes t) (bytes s ++ rest)
        rw [hbytes] at hafter
        exact absurd hafter (List.lt_irrefl _)

/-- The bytes of a text can be parted before a byte that begins a character only where two of its
characters meet. -/
theorem exists_append_of_bytes {s : List Char} {before after : List UInt8} {a : UInt8}
    (ha : ¬ Trails a) (h : bytes s = before ++ a :: after) :
    ∃ s₁ s₂, s = s₁ ++ s₂ ∧ bytes s₂ = a :: after := by
  induction s generalizing before with
  | nil => exact absurd h (by simp [bytes])
  | cons c s ih =>
    obtain ⟨first, rest, hbytes, -, hrest⟩ := (encodes_utf8EncodeChar c).exists_cons
    cases before with
    | nil => exact ⟨[], c :: s, rfl, h⟩
    | cons b before =>
      have htail : rest ++ bytes s = before ++ a :: after := by
        change String.utf8EncodeChar c ++ bytes s = _ at h
        rw [hbytes] at h
        exact (List.cons.inj h).2
      rcases List.append_eq_append_iff.1 htail with ⟨m, -, hm⟩ | ⟨m, hm, hafter⟩
      · obtain ⟨s₁, s₂, rfl, hs₂⟩ := ih hm
        exact ⟨c :: s₁, s₂, rfl, hs₂⟩
      · cases m with
        | nil => exact ⟨[c], s, rfl, hafter.symm⟩
        | cons b' m =>
          cases hafter
          exact absurd (hrest a (by simp [hm])) ha

/-- A text stands within another exactly if its bytes do. -/
theorem bytes_infix_iff {s t : List Char} : bytes s <:+: bytes t ↔ s <:+: t := by
  constructor
  · rintro ⟨before, after, h⟩
    cases s with
    | nil => exact List.nil_infix
    | cons c s =>
      obtain ⟨first, rest, hbytes, hfirst, -⟩ := (encodes_utf8EncodeChar c).exists_cons
      have hcons : bytes (c :: s) = first :: (rest ++ bytes s) := by
        change String.utf8EncodeChar c ++ bytes s = _
        rw [hbytes]
        rfl
      have hparted : bytes t = before ++ first :: (rest ++ bytes s ++ after) := by
        rw [← h, hcons, List.append_assoc]
        rfl
      obtain ⟨t₁, t₂, rfl, ht₂⟩ := exists_append_of_bytes hfirst hparted
      have hprefix : bytes (c :: s) <+: bytes t₂ := ⟨after, by rw [ht₂, hcons]; rfl⟩
      exact (prefix_of_bytes hprefix).isInfix.trans (List.suffix_append t₁ t₂).isInfix
  · rintro ⟨before, after, rfl⟩
    exact ⟨bytes before, bytes after, by rw [bytes_append, bytes_append]⟩

/-! ### Letters -/

/-- The byte with the letters A to Z in lower case. -/
def lowerByte (b : UInt8) : UInt8 :=
  if 0x41 ≤ b ∧ b ≤ 0x5a then b + 0x20 else b

/-- Bytes of A to Z occur in no character but these letters. -/
theorem utf8EncodeChar_toLower (c : Char) :
    String.utf8EncodeChar c.toLower = (String.utf8EncodeChar c).map lowerByte := by
  by_cases hc : c.toNat < 0x80
  · have all : ∀ n < 0x80, String.utf8EncodeChar (Char.ofNat n).toLower =
        (String.utf8EncodeChar (Char.ofNat n)).map lowerByte := by decide +kernel
    rw [← c.ofNat_toNat]
    exact all c.toNat hc
  · have hsame : c.toLower = c := toLower_eq_self (by omega)
    have hbytes : ∀ b ∈ String.utf8EncodeChar c, lowerByte b = b := by
      intro b hb
      refine if_neg fun hletter => hc ?_
      have hle : b ≤ 127 := UInt8.le_trans hletter.2 (by decide)
      rw [toNat_of_mem_utf8EncodeChar hle hb]
      exact Nat.lt_succ_of_le hle
    rw [hsame]
    exact ((List.map_congr_left hbytes).trans (List.map_id _)).symm

theorem bytes_fold (s : List Char) : bytes (fold s) = (bytes s).map lowerByte := by
  rw [bytes, bytes, fold, List.flatMap_map, List.map_flatMap]
  exact List.flatMap_congr fun c _ => utf8EncodeChar_toLower c

theorem folded_eq_iff {a b : String} : folded a = folded b ↔ fold a.toList = fold b.toList :=
  String.ofList_inj

/-! ### Looking for a text -/

/-- The needle stands somewhere in the text, byte for byte but for the case of ASCII letters. -/
def Within (needle text : String) : Prop :=
  ∃ before part after, bytes text.toList = before ++ part ++ after ∧
    part.map lowerByte = (bytes needle.toList).map lowerByte

/-- What the filter looks for, said of characters. -/
theorem containsFolded_iff {text needle : String} :
    containsFolded text needle = true ↔ Within needle text := by
  rw [containsFolded, occursIn_iff, ← bytes_infix_iff, bytes_fold, bytes_fold]
  constructor
  · rintro ⟨before, after, h⟩
    obtain ⟨front, after', htext, hfront, -⟩ := List.map_eq_append_iff.1 h.symm
    obtain ⟨before', part, rfl, -, hpart⟩ := List.map_eq_append_iff.1 hfront
    exact ⟨before', part, after', htext, hpart⟩
  · rintro ⟨before, part, after, htext, hpart⟩
    exact ⟨before.map lowerByte, after.map lowerByte, by rw [htext, ← hpart]; simp⟩

instance (needle text : String) : Decidable (Within needle text) :=
  decidable_of_iff _ containsFolded_iff

theorem within_empty (text : String) : Within "" text :=
  ⟨[], [], bytes text.toList, rfl, rfl⟩

theorem Within.trans {a b c : String} (hab : Within a b) (hbc : Within b c) : Within a c := by
  rw [← containsFolded_iff, containsFolded, occursIn_iff] at *
  exact hab.trans hbc

end WallClock.Text
