import WallClock.Zone.Rules
import WallClock.Proofs.Zone.Recurring
import Mathlib.Data.Int.LeastGreatest

/-!
The turns of a zone: its transitions, and after the last of them the turns of the recurring rule. Main
statement: if rules are coherent, the offset in effect at a second is that of the latest turn, and
before the first turn it is the first offset.
-/

namespace WallClock.Zone

namespace Rules

/-- Whether the offset of the rules turns in this way. -/
inductive Turns (r : Rules) (t : Transition) : Prop
  | listed : t ∈ r.transitions → Turns r t
  | recurring (year : Int) : t ∈ r.after.turns year →
      (∀ u ∈ r.transitions, u.start < t.start) → Turns r t

/-- The recurring rule is regular, and it takes over at the last transition with the offset of that
transition. -/
structure Coherent (r : Rules) : Prop where
  regular : r.after.Regular
  takesOver : ∀ t ∈ r.transitions.getLast?, r.after.offsetAt t.start = t.offset

/-! ### Transitions in order -/

theorem ascending_tail {t : Transition} {ts : List Transition} (h : ascending (t :: ts) = true) :
    ascending ts = true := by
  cases ts with
  | nil => rfl
  | cons u ts =>
    rw [ascending, Bool.and_eq_true] at h
    exact h.2

/-- A transition comes before all that are listed after it. -/
theorem lt_of_ascending {t u : Transition} {ts : List Transition}
    (h : ascending (t :: ts) = true) (hu : u ∈ ts) : t.start < u.start := by
  induction ts generalizing t with
  | nil => exact absurd hu List.not_mem_nil
  | cons v ts ih =>
    rw [ascending, Bool.and_eq_true, decide_eq_true_eq] at h
    rcases List.mem_cons.1 hu with rfl | hu
    · exact h.1
    · exact Int.lt_trans h.1 (ih h.2 hu)

/-- The last transition comes last. -/
theorem start_le_getLast {ts : List Transition} (h : ascending ts = true) {last : Transition}
    (hlast : ts.getLast? = some last) {t : Transition} (ht : t ∈ ts) :
    t = last ∨ t.start < last.start := by
  induction ts with
  | nil => exact absurd ht List.not_mem_nil
  | cons u ts ih =>
    cases ts with
    | nil =>
      rw [List.getLast?_singleton, Option.some.injEq] at hlast
      rw [List.mem_singleton] at ht
      exact Or.inl (ht.trans hlast)
    | cons v ts =>
      rw [List.getLast?_cons_cons] at hlast
      rcases List.mem_cons.1 ht with rfl | ht
      · exact Or.inr (lt_of_ascending h (List.mem_of_getLast? hlast))
      · exact ih (ascending_tail h) hlast ht

/-- After the last transition the recurring rule holds. -/
theorem offsetFrom_of_forall_le {after : Recurring} {second current : Int}
    {ts : List Transition} (h : ∀ t ∈ ts, t.start ≤ second) :
    offsetFrom after second current ts = after.offsetAt second := by
  induction ts generalizing current with
  | nil => rfl
  | cons t ts ih =>
    rw [offsetFrom, if_neg (Int.not_lt.2 (h t List.mem_cons_self))]
    exact ih fun u hu => h u (List.mem_cons_of_mem t hu)

theorem offsetFrom_of_forall_lt {after : Recurring} {second current : Int}
    {ts : List Transition} (hne : ts ≠ []) (h : ∀ t ∈ ts, second < t.start) :
    offsetFrom after second current ts = current := by
  cases ts with
  | nil => exact absurd rfl hne
  | cons t ts => rw [offsetFrom, if_pos (h t List.mem_cons_self)]

/-- Between two transitions the offset is that of the earlier one. -/
theorem offsetFrom_of_latest {after : Recurring} {second current : Int} {ts : List Transition}
    {t : Transition} (horder : ascending ts = true) (ht : t ∈ ts) (hle : t.start ≤ second)
    (hlater : ∃ u ∈ ts, second < u.start)
    (hlatest : ∀ u ∈ ts, u.start ≤ t.start ∨ second < u.start) :
    offsetFrom after second current ts = t.offset := by
  induction ts generalizing current with
  | nil => exact absurd ht List.not_mem_nil
  | cons v ts ih =>
    obtain ⟨w, hw, hsecond⟩ := hlater
    have hv : v.start ≤ second := by
      rcases List.mem_cons.1 ht with rfl | ht
      · exact hle
      · exact Int.le_trans (Int.le_of_lt (lt_of_ascending horder ht)) hle
    have hw_rest : w ∈ ts := by
      rcases List.mem_cons.1 hw with rfl | hw
      · exact absurd hsecond (Int.not_lt.2 hv)
      · exact hw
    rw [offsetFrom, if_neg (Int.not_lt.2 hv)]
    rcases List.mem_cons.1 ht with rfl | ht
    · apply offsetFrom_of_forall_lt (List.ne_nil_of_mem hw_rest)
      intro u hu
      rcases hlatest u (List.mem_cons_of_mem t hu) with hle' | hlt
      · exact absurd (lt_of_ascending horder hu) (Int.not_lt.2 hle')
      · exact hlt
    · exact ih (ascending_tail horder) ht ⟨w, hw_rest, hsecond⟩
        fun u hu => hlatest u (List.mem_cons_of_mem v hu)

/-! ### The offset in effect -/

variable {r : Rules}

/-- The recurring rule has the offset of each turn that is the last listed one or comes after it. -/
theorem offsetAt_after_turn (h : r.Coherent) {t : Transition} (ht : r.Turns t)
    (hpast : ∀ u ∈ r.transitions, u.start ≤ t.start) : r.after.offsetAt t.start = t.offset := by
  cases ht with
  | listed ht =>
    obtain ⟨last, hlast⟩ := Option.ne_none_iff_exists'.1
      (mt List.getLast?_eq_none_iff.1 (List.ne_nil_of_mem ht))
    rcases start_le_getLast r.ascending_transitions hlast ht with rfl | hlt
    · exact h.takesOver t hlast
    · exact absurd hlt (Int.not_lt.2 (hpast last (List.mem_of_getLast? hlast)))
  | recurring year ht _ => exact Recurring.offsetAt_turn h.regular ht

/-- The offset in effect at a second is that of the latest turn. -/
theorem offsetAt_of_latest (h : r.Coherent) {t : Transition} {second : Int} (ht : r.Turns t)
    (hle : t.start ≤ second) (hlatest : ∀ u, r.Turns u → u.start ≤ t.start ∨ second < u.start) :
    r.offsetAt second = t.offset := by
  by_cases hpast : ∀ u ∈ r.transitions, u.start ≤ second
  · have hpast_turn : ∀ u ∈ r.transitions, u.start ≤ t.start := by
      intro u hu
      rcases hlatest u (.listed hu) with hle' | hlt
      · exact hle'
      · exact absurd hlt (Int.not_lt.2 (hpast u hu))
    rw [offsetAt, offsetFrom_of_forall_le hpast, ← offsetAt_after_turn h ht hpast_turn]
    refine (Recurring.offsetAt_eq_of_no_turn h.regular hle fun year u hu => ?_).symm
    rcases Int.lt_or_le t.start u.start with hlt | hle'
    · exact hlatest u (.recurring year hu fun v hv => Int.lt_of_le_of_lt (hpast_turn v hv) hlt)
    · exact Or.inl hle'
  · obtain ⟨u, hu, hlt⟩ : ∃ u ∈ r.transitions, second < u.start := by
      simpa only [not_forall, Int.not_le, exists_prop] using hpast
    cases ht with
    | listed ht =>
      exact offsetFrom_of_latest r.ascending_transitions ht hle ⟨u, hu, hlt⟩
        fun v hv => hlatest v (.listed hv)
    | recurring year _ hafter =>
      have := hafter u hu
      omega

/-- Before the first turn the first offset is in effect. -/
theorem offsetAt_of_before (h : r.Coherent) {second : Int} (hturns : ∃ t, r.Turns t)
    (hbefore : ∀ u, r.Turns u → second < u.start) : r.offsetAt second = r.first := by
  apply offsetFrom_of_forall_lt
  · intro hnil
    obtain ⟨t, ht⟩ := hturns
    cases ht with
    | listed ht =>
      rw [hnil] at ht
      exact absurd ht List.not_mem_nil
    | recurring year ht _ =>
      obtain ⟨year', u, hu, hlt⟩ := Recurring.exists_turn_before h.regular ht second
      have hlater := hbefore u (.recurring year' hu fun v hv => by
        rw [hnil] at hv
        exact absurd hv List.not_mem_nil)
      omega
  · exact fun t ht => hbefore t (.listed ht)

/-- The offset in effect just before a second: that of the latest turn before it, or else the first
offset. -/
def OffsetBefore (r : Rules) (second offset : Int) : Prop :=
  (∃ t, r.Turns t ∧ t.start < second ∧ t.offset = offset ∧
      ∀ u, r.Turns u → u.start < second → u.start ≤ t.start) ∨
    ((∀ u, r.Turns u → second ≤ u.start) ∧ r.first = offset)

/-- Some offset is in effect before any second. -/
theorem exists_offsetBefore (r : Rules) (second : Int) : ∃ offset, r.OffsetBefore second offset := by
  by_cases hturn : ∃ start t, r.Turns t ∧ t.start < second ∧ t.start = start
  · obtain ⟨start, ⟨t, ht, hlt, rfl⟩, hgreatest⟩ :=
      Int.exists_greatest_of_bdd ⟨second, fun start ⟨t, _, hlt, heq⟩ => by omega⟩ hturn
    exact ⟨t.offset, Or.inl ⟨t, ht, hlt, rfl, fun u hu hu_lt => hgreatest u.start ⟨u, hu, hu_lt, rfl⟩⟩⟩
  · refine ⟨r.first, Or.inr ⟨fun u hu => ?_, rfl⟩⟩
    apply Int.not_lt.1
    intro hlt
    exact hturn ⟨u.start, u, hu, hlt, rfl⟩

end Rules

end WallClock.Zone
