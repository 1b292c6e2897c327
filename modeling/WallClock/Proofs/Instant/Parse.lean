import WallClock.Instant.Reader

/-!
What is taken as an instant: a timestamp between blanks whose whole seconds do not lie before the
year 1. The whole seconds are rounded toward 1970, so that the last second before the year 1 is let
through but for its first moment.
-/

namespace WallClock.Instant

theorem parse_eq_ok_iff {input : String} {i : Instant} :
    parse input = .ok i ↔ read? (Text.trim input.toList) = some i ∧ yearOne ≤ i.wholeSeconds := by
  unfold parse
  cases read? (Text.trim input.toList) with
  | none => simp
  | some j =>
    dsimp only
    by_cases h : j.wholeSeconds < yearOne
    · rw [if_pos h]
      constructor
      · intro heq
        cases heq
      · rintro ⟨heq, hle⟩
        cases heq
        exact absurd h (Int.not_lt.2 hle)
    · rw [if_neg h]
      constructor
      · intro heq
        cases heq
        exact ⟨rfl, Int.not_lt.1 h⟩
      · rintro ⟨heq, -⟩
        cases heq
        rfl

/-- What the rounding toward 1970 leaves of the limit: less than one second before the year 1. -/
theorem yearOne_le_wholeSeconds_iff {i : Instant} :
    yearOne ≤ i.wholeSeconds ↔ (yearOne - 1) * nanosPerSecond < i.nanos := by
  unfold wholeSeconds yearOne nanosPerSecond
  by_cases hpos : 0 ≤ i.nanos
  · rw [Int.tdiv_eq_ediv_of_nonneg hpos]
    omega
  · have hneg : i.nanos.tdiv 1000000000 = -(-i.nanos / 1000000000) := by
      rw [← Int.tdiv_eq_ediv_of_nonneg (by omega), Int.neg_tdiv, Int.neg_neg]
    rw [hneg]
    omega

end WallClock.Instant
