import WallClock.Files.Path
import WallClock.Proofs.Text.Bytes
import WallClock.Proofs.Text.Lines

/-!
The path in which a path lies. It names what the path names but for the last name, however many slashes
and idle points stand between and behind the names.
-/

namespace WallClock

/-! ### Names -/

namespace Files

open Text

/-- What the path of this text names. -/
def namesOf (s : List Char) : List Name :=
  (Route.ofBytes (bytes s)).names

theorem namesOf_eq (s : List Char) :
    namesOf s = (parts slash (bytes s)).filter fun part => !Name.isIdle part :=
  rfl

/-- A slash divides a path, whatever stands on its two sides. -/
theorem namesOf_slash (a b : List Char) : namesOf (a ++ '/' :: b) = namesOf a ++ namesOf b := by
  have hbytes : bytes (a ++ '/' :: b) = bytes a ++ slash :: bytes b := bytes_append a ('/' :: b)
  rw [namesOf_eq, hbytes, parts_append, List.filter_append]
  rfl

theorem namesOf_nil : namesOf [] = [] :=
  rfl

theorem namesOf_point : namesOf ['.'] = [] := by
  decide

theorem slash_not_mem_bytes {s : List Char} (h : '/' ∉ s) : slash ∉ bytes s :=
  fun hmem => h (mem_of_mem_bytes (by decide) hmem)

theorem isIdle_bytes {s : List Char} (hne : s ≠ []) (hpoint : s ≠ ['.']) :
    Name.isIdle (bytes s) = false := by
  rw [Name.isIdle, Bool.or_eq_false_iff, List.isEmpty_eq_false_iff]
  refine ⟨mt bytes_eq_nil_iff.1 hne, beq_false_of_ne fun heq => ?_⟩
  have heq : bytes s = [UInt8.ofNat '.'.toNat] := heq
  cases s with
  | nil => exact hne rfl
  | cons c rest =>
    obtain ⟨b, hb⟩ := List.exists_mem_of_ne_nil (String.utf8EncodeChar c) (by simp)
    have hpointByte : b = UInt8.ofNat '.'.toNat := by
      have hmem : b ∈ bytes (c :: rest) := List.mem_flatMap.2 ⟨c, List.mem_cons_self, hb⟩
      rw [heq] at hmem
      exact List.mem_singleton.1 hmem
    have hc : c = '.' := by
      rw [hpointByte] at hb
      exact Char.toNat_inj.1 (toNat_of_mem_utf8EncodeChar (by decide) hb)
    subst hc
    have hrest : bytes rest = [] := (List.cons.inj heq).2
    rw [bytes_eq_nil_iff.1 hrest] at hpoint
    exact hpoint rfl

theorem namesOf_part {s : List Char} (h : '/' ∉ s) (hne : s ≠ []) (hpoint : s ≠ ['.']) :
    namesOf s = [bytes s] := by
  rw [namesOf_eq, parts_of_not_mem (slash_not_mem_bytes h)]
  exact List.filter_cons_of_pos (by simp [isIdle_bytes hne hpoint])

/-- Of a text in reverse, the part up to the first slash is the last name. -/
theorem namesOf_behind {part : List Char} (u : List Char) (h : '/' ∉ part) (hne : part ≠ [])
    (hpoint : part ≠ ['.']) :
    namesOf (part ++ '/' :: u).reverse = namesOf u.reverse ++ [bytes part.reverse] := by
  have hpointBack : part.reverse ≠ ['.'] := fun heq => hpoint (List.reverse_eq_iff.1 heq)
  rw [List.reverse_append, List.reverse_cons, List.append_assoc, List.singleton_append, namesOf_slash,
    namesOf_part (mt List.mem_reverse.1 h) (mt List.reverse_eq_nil_iff.1 hne) hpointBack]

theorem length_namesOf_part {s : List Char} (h : '/' ∉ s) : (namesOf s).length ≤ 1 := by
  rw [namesOf_eq, parts_of_not_mem (slash_not_mem_bytes h)]
  exact List.length_filter_le _ _

namespace Path

/-! ### The parent of a path

Texts are in reverse here, as they are taken apart. -/

theorem dropIdle_slash {s : List Char} (h : s ≠ []) : dropIdle ('/' :: s) = dropIdle s := by
  rw [dropIdle]
  exact h

theorem dropIdle_point (s : List Char) : dropIdle ('.' :: '/' :: s) = dropIdle ('/' :: s) :=
  dropIdle.eq_3 s

/-- What is taken off the end named nothing. -/
theorem namesOf_dropIdle (s : List Char) : namesOf (dropIdle s).reverse = namesOf s.reverse := by
  induction s using dropIdle.induct with
  | case1 => rfl
  | case2 s hne ih =>
    rw [dropIdle_slash hne, ih, List.reverse_cons, namesOf_slash, namesOf_nil, List.append_nil]
  | case3 s ih =>
    rw [dropIdle_point, ih, List.reverse_cons, List.reverse_cons, List.reverse_cons, List.append_assoc,
      List.singleton_append, namesOf_slash, namesOf_slash, namesOf_point, namesOf_nil]
  | case4 s hroot hslash hpoint => rw [dropIdle.eq_4 s hroot hslash hpoint]

theorem getLast?_dropIdle (s : List Char) : (dropIdle s).getLast? = s.getLast? := by
  induction s using dropIdle.induct with
  | case1 => rfl
  | case2 s hne ih =>
    rw [dropIdle_slash hne, ih]
    cases s with
    | nil => exact absurd rfl hne
    | cons c s => rfl
  | case3 s ih =>
    rw [dropIdle_point, ih]
    rfl
  | case4 s hroot hslash hpoint => rw [dropIdle.eq_4 s hroot hslash hpoint]

/-- What is left is the root, or its last part is no idle point behind a slash. -/
theorem dropIdle_cases (s : List Char) :
    dropIdle s = [] ∨ dropIdle s = ['/'] ∨
      ∃ c t, dropIdle s = c :: t ∧ c ≠ '/' ∧ ∀ u, c :: t ≠ '.' :: '/' :: u := by
  induction s using dropIdle.induct with
  | case1 => exact Or.inr (Or.inl rfl)
  | case2 s hne ih =>
    rw [dropIdle_slash hne]
    exact ih
  | case3 s ih =>
    rw [dropIdle_point]
    exact ih
  | case4 s hroot hslash hpoint =>
    rw [dropIdle.eq_4 s hroot hslash hpoint]
    cases s with
    | nil => exact Or.inl rfl
    | cons c t =>
      refine Or.inr (Or.inr ⟨c, t, rfl, ?_, hpoint⟩)
      rintro rfl
      exact hslash t rfl

/-- Whether a path starts from the root shows in its first character. -/
theorem fromRoot_congr {p q : Path} (h : p.text.toList.head? = q.text.toList.head?) :
    p.route.fromRoot = q.route.fromRoot :=
  congrArg (· == some slash) (head?_bytes_congr h)

/-- Taking off the last part leaves the slash before it, if there is one. -/
theorem dropPart_cases (s : List Char) :
    '/' ∉ s ∧ dropPart s = [] ∨
      ∃ part u, s = part ++ '/' :: u ∧ '/' ∉ part ∧ dropPart s = '/' :: u := by
  induction s with
  | nil => exact Or.inl ⟨List.not_mem_nil, rfl⟩
  | cons c s ih =>
    by_cases hc : c = '/'
    · subst hc
      exact Or.inr ⟨[], s, rfl, List.not_mem_nil, rfl⟩
    · have hdrop : dropPart (c :: s) = dropPart s := List.dropWhile_cons_of_pos (by simp [hc])
      rw [hdrop]
      rcases ih with ⟨hnone, hnil⟩ | ⟨part, u, hs, hnone, hcons⟩
      · exact Or.inl ⟨List.not_mem_cons_of_ne_of_not_mem (Ne.symm hc) hnone, hnil⟩
      · refine Or.inr ⟨c :: part, u, ?_, List.not_mem_cons_of_ne_of_not_mem (Ne.symm hc) hnone, hcons⟩
        rw [hs, List.cons_append]

theorem parent?_of_cons {p : Path} {c : Char} {t : List Char}
    (hd : dropIdle p.text.toList.reverse = c :: t) (hslash : c ≠ '/') :
    p.parent? = some ⟨String.ofList (dropIdle (dropPart (c :: t))).reverse⟩ := by
  rw [parent?, hd]
  split
  · rename_i hnil
    cases hnil
  · rename_i hroot
    cases hroot
    exact absurd rfl hslash
  · rfl

/-- The parent of a path names all but the last name, from the same start. A path that has no parent, or
an empty one, has one name at most. -/
theorem parent?_cases (p : Path) :
    p.parent?.filter (·.text ≠ "") = none ∧ p.route.names.length ≤ 1 ∨
      ∃ q, p.parent?.filter (·.text ≠ "") = some q ∧ q.route.names = p.route.names.dropLast ∧
        q.route.fromRoot = p.route.fromRoot := by
  have hnames : p.route.names = namesOf (dropIdle p.text.toList.reverse).reverse := by
    rw [namesOf_dropIdle, List.reverse_reverse]
    rfl
  have hlast : p.text.toList.head? = (dropIdle p.text.toList.reverse).getLast? := by
    rw [getLast?_dropIdle, List.getLast?_reverse]
  rcases dropIdle_cases p.text.toList.reverse with hd | hd | ⟨c, t, hd, hslash, hpoint⟩
  · rw [hnames, parent?, hd]
    exact Or.inl ⟨rfl, Nat.zero_le 1⟩
  · rw [hnames, parent?, hd]
    exact Or.inl ⟨rfl, by decide⟩
  · rw [hd] at hlast hnames
    rw [parent?_of_cons hd hslash, hnames]
    rcases dropPart_cases (c :: t) with ⟨hnone, hnil⟩ | ⟨part, u, hs, hnone, hcons⟩
    · refine Or.inl ⟨?_, length_namesOf_part (mt List.mem_reverse.1 hnone)⟩
      rw [hnil]
      decide
    · have hpart : part ≠ [] := by
        rintro rfl
        exact hslash (List.cons.inj hs).1
      have hpartPoint : part ≠ ['.'] := by
        rintro rfl
        exact hpoint u hs
      obtain ⟨first, hfirst⟩ : ∃ first, ('/' :: u).getLast? = some first :=
        ⟨_, List.getLast?_cons⟩
      have hhead : ((dropIdle ('/' :: u)).reverse).head? = some first := by
        rw [List.head?_reverse, getLast?_dropIdle, hfirst]
      have hne : String.ofList (dropIdle ('/' :: u)).reverse ≠ "" := by
        intro hempty
        rw [String.ofList_eq_empty_iff.1 hempty] at hhead
        cases hhead
      rw [hcons, Option.filter_some, if_pos (by simpa using hne)]
      refine Or.inr ⟨_, rfl, ?_, fromRoot_congr ?_⟩
      · change namesOf (String.ofList _).toList = _
        rw [String.toList_ofList, namesOf_dropIdle, List.reverse_cons, namesOf_slash, namesOf_nil,
          List.append_nil, hs, namesOf_behind u hnone hpart hpartPoint, List.dropLast_concat]
      · rw [String.toList_ofList, hhead, hlast, hs, List.getLast?_append, hfirst]
        rfl

end Path

end Files

end WallClock
