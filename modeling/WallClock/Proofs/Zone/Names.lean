import Mathlib.Data.List.Nodup
import WallClock.Proofs.Text.Encoding
import WallClock.Zone

/-!
The names of the directory. None is empty, what stands in them are signs without blanks and asterisks, and
no two of them are equal but for case, the name of the zone of which nothing is known included. All of it
is found out in one pass over their bytes.
-/

namespace WallClock.Zone

open Text

/-! ### Names that are equal but for case -/

theorem sameName_iff {a b : String} : sameName a b = true ↔ folded a = folded b :=
  beq_iff_eq

theorem sameName_congr {a b : String} (h : sameName a b = true) (c : String) :
    sameName a c = sameName b c := by
  rw [sameName, sameName_iff.1 h, sameName]

theorem sameName_symm {a b : String} (h : sameName a b = true) : sameName b a = true :=
  sameName_iff.2 (sameName_iff.1 h).symm

/-! ### The bytes of names -/

/-- Whether a byte stands for a character of ASCII that is neither a blank nor an asterisk. -/
def isNameByte (b : UInt8) : Bool :=
  33 ≤ b && b ≤ 126 && b != 42

def nameBytes (name : String) : List UInt8 :=
  name.toByteArray.data.toList

/-- Whether the bytes of a name are those of signs without blanks and asterisks. -/
def isWritable (name : String) : Bool :=
  nameBytes name != [] && (nameBytes name).all isNameByte

/-- A number for a name, the same for all its spellings. The modulus was chosen so that no two names of the
directory have the same. -/
def mark (name : String) : Nat :=
  (nameBytes name).foldl (fun n b => 256 * n + (lowerByte b).toNat) 0 % 28663

/-- Spellings of one name share their number. -/
theorem mark_congr {a b : String} (h : sameName a b = true) : mark a = mark b := by
  have hlower (name : String) : mark name =
      ((bytes (fold name.toList)).foldl (fun n b => 256 * n + b.toNat) 0) % 28663 := by
    rw [mark, bytes_fold, bytes_toList, List.foldl_map, nameBytes]
  rw [hlower, hlower, folded_eq_iff.1 (sameName_iff.1 h)]

/-- Whether no number is there twice, nor in the row of bits `seen`. -/
def allNew : (seen : Nat) → List Nat → Bool
  | _, [] => true
  | seen, n :: rest => !seen.testBit n && allNew (seen ||| 1 <<< n) rest

/-- One bit for each number that was met shows that none is met twice. -/
theorem nodup_of_allNew {seen : Nat} {numbers : List Nat} (h : allNew seen numbers = true) :
    numbers.Nodup ∧ ∀ n ∈ numbers, seen.testBit n = false := by
  induction numbers generalizing seen with
  | nil => exact ⟨.nil, fun n hn => absurd hn List.not_mem_nil⟩
  | cons n rest ih =>
    rw [allNew, Bool.and_eq_true, Bool.not_eq_true'] at h
    obtain ⟨hnodup, hrest⟩ := ih h.2
    have hnew : ∀ m ∈ rest, seen.testBit m = false ∧ m ≠ n := by
      intro m hm
      have hbit := hrest m hm
      rw [Nat.testBit_or, Bool.or_eq_false_iff, Nat.one_shiftLeft, Nat.testBit_two_pow] at hbit
      exact ⟨hbit.1, fun heq => of_decide_eq_false hbit.2 heq.symm⟩
    refine ⟨List.nodup_cons.2 ⟨fun hmem => (hnew n hmem).2 rfl, hnodup⟩, ?_⟩
    exact List.forall_mem_cons.2 ⟨h.1, fun m hm => (hnew m hm).1⟩

/-! ### All names -/

-- One check for both, as it takes long to have the bytes of all names.
theorem isWritable_and_allNew_names : ((unknownName :: names).all isWritable &&
    allNew 0 ((unknownName :: names).map mark)) = true := by
  decide +kernel

/-- Names that are equal but for case are one name. -/
theorem eq_of_sameName {a b : String} (ha : a ∈ unknownName :: names) (hb : b ∈ unknownName :: names)
    (h : sameName a b = true) : a = b := by
  have hnew := (Bool.and_eq_true_iff.1 isWritable_and_allNew_names).2
  exact List.inj_on_of_nodup_map (nodup_of_allNew hnew).1 ha hb (mark_congr h)

theorem unknownName_not_mem_names : unknownName ∉ names := by
  have hnew := (Bool.and_eq_true_iff.1 isWritable_and_allNew_names).2
  exact fun hmem => (List.nodup_cons.1 (nodup_of_allNew hnew).1.of_map).1 hmem

theorem bytes_of_mem_names {name : String} (h : name ∈ names) :
    nameBytes name ≠ [] ∧ ∀ b ∈ bytes name.toList, isNameByte b = true := by
  have hall := (Bool.and_eq_true_iff.1 isWritable_and_allNew_names).1
  have hname := List.all_eq_true.1 hall name (List.mem_cons_of_mem unknownName h)
  rw [isWritable, Bool.and_eq_true, bne_iff_ne, List.all_eq_true] at hname
  rw [bytes_toList]
  exact hname

/-- What stands in a name of the directory are signs without blanks and asterisks. -/
theorem toNat_of_mem_names {name : String} (h : name ∈ names) {c : Char} (hc : c ∈ name.toList) :
    33 ≤ c.toNat ∧ c.toNat ≤ 126 ∧ c ≠ '*' := by
  have hbytes := (bytes_of_mem_names h).2
  simp only [isNameByte, Bool.and_eq_true, decide_eq_true_eq, bne_iff_ne, UInt8.le_iff_toNat_le] at hbytes
  have hascii : ∀ b ∈ bytes name.toList, b ≤ 127 := by
    intro b hb
    exact UInt8.le_iff_toNat_le.2 (Nat.le_trans (hbytes b hb).1.2 (by decide))
  obtain ⟨hmem, hle⟩ := mem_bytes_of_ascii hascii hc
  obtain ⟨⟨hlow, hhigh⟩, hstar⟩ := hbytes _ hmem
  rw [UInt8.toNat_ofNat_of_lt' (Nat.lt_of_le_of_lt hle (by decide))] at hlow hhigh
  refine ⟨hlow, hhigh, ?_⟩
  rintro rfl
  exact hstar rfl

/-- No name of the directory has a blank or an asterisk in it. -/
theorem char_of_mem_names {name : String} (h : name ∈ names) {c : Char} (hc : c ∈ name.toList) :
    isBlank c = false ∧ c ≠ '*' := by
  obtain ⟨hlow, hhigh, hstar⟩ := toNat_of_mem_names h hc
  refine ⟨?_, hstar⟩
  simp [isBlank]
  omega

theorem ne_empty_of_mem_names {name : String} (h : name ∈ names) : name ≠ "" := by
  rintro rfl
  exact (bytes_of_mem_names h).1 rfl

set_option maxRecDepth 2000 in
theorem utc_mem_names : utc.name ∈ names :=
  List.mem_of_getElem? (i := 593) rfl

end WallClock.Zone
