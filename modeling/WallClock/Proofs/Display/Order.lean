import WallClock.Proofs.Civil.Order
import WallClock.Proofs.Display.LocalTime

/-!
The order of what is shown. Bytes are compared, but instants that are taken from texts have years of four
digits in every zone, so that the order is that of the local minutes.
-/

namespace WallClock

open Civil Text

/-- While the offset does not change, local time goes on with time. -/
theorem Zone.localMinute_le {z₁ z₂ : Zone} {i₁ i₂ : Instant}
    (hoffset : z₁.offsetAt i₁ = z₂.offsetAt i₂) (h : i₁ ≤ i₂) :
    z₁.localMinute i₁ ≤ z₂.localMinute i₂ := by
  have hnanos : i₁.nanos ≤ i₂.nanos := h
  apply Int.ediv_le_ediv (by decide)
  rw [hoffset]
  exact Int.add_le_add_right hnanos _

namespace Display

theorem isAscii_text {i : Instant} {zone : Zone}
    (h : 0 ≤ (Minute.date (zone.localMinute i)).year) : ∀ c ∈ (text i zone).toList, c.toNat < 128 := by
  rw [toList_text]
  exact isAscii_of_hasShape (by decide) (Minute.hasShape_text h)

/-- In the years of four digits without a sign texts are in the order of local minutes. -/
theorem compare_text {i₁ i₂ : Instant} {z₁ z₂ : Zone}
    (h₁ : 0 ≤ (Minute.date (z₁.localMinute i₁)).year)
    (h₂ : 0 ≤ (Minute.date (z₂.localMinute i₂)).year) :
    compare (text i₁ z₁) (text i₂ z₂) = compare (z₁.localMinute i₁) (z₂.localMinute i₂) := by
  rw [← compare_toList, toList_text, toList_text,
    Minute.compare_text (z₁.fourDigits_localYear i₁) (z₂.fourDigits_localYear i₂) h₁ h₂]

/-- Texts that are shown of instants that are taken are in the order of the local minutes, in whatever
zones: by their bytes, and as strings. So instants with one offset are shown in their own order, and one
text is one local minute. -/
theorem compare_text_of_parse {input₁ input₂ : String} {i₁ i₂ : Instant}
    (h₁ : Instant.parse input₁ = .ok i₁) (h₂ : Instant.parse input₂ = .ok i₂) (z₁ z₂ : Zone) :
    compare (bytes (text i₁ z₁).toList) (bytes (text i₂ z₂).toList) =
        compare (z₁.localMinute i₁) (z₂.localMinute i₂) ∧
      compare (text i₁ z₁) (text i₂ z₂) = compare (z₁.localMinute i₁) (z₂.localMinute i₂) ∧
      (z₁.offsetAt i₁ = z₂.offsetAt i₂ → i₁ ≤ i₂ → text i₁ z₁ ≤ text i₂ z₂) ∧
      (text i₁ z₁ = text i₂ z₂ ↔ z₁.localMinute i₁ = z₂.localMinute i₂) := by
  have hyear₁ := localYear_nonneg_of_parse h₁ z₁
  have hyear₂ := localYear_nonneg_of_parse h₂ z₂
  have hcompare := compare_text hyear₁ hyear₂
  refine ⟨?_, hcompare, fun hoffset hle => ?_, ?_⟩
  · rw [compare_bytes (isAscii_text hyear₁) (isAscii_text hyear₂), compare_toList, hcompare]
  · rw [← compare_le_iff_le, hcompare, compare_le_iff_le]
    exact Zone.localMinute_le hoffset hle
  · rw [← compare_eq_iff_eq, hcompare, compare_eq_iff_eq]

/-- An hour earlier, and shown later: in Kolkata clocks are five hours and a half ahead. -/
theorem compare_text_in_utc_and_kolkata :
    (Instant.parse "2024-01-01T12:00:00Z" = .ok ⟨1704110400000000000, by decide, by decide⟩ ∧
      Instant.parse "2024-01-01T11:00:00.5Z" = .ok ⟨1704106800500000000, by decide, by decide⟩) ∧
    compare (bytes (text ⟨1704110400000000000, by decide, by decide⟩ Zone.utc).toList)
      (bytes (text ⟨1704106800500000000, by decide, by decide⟩
        ⟨"Asia/Kolkata", Zone.Tables.asiaKolkata⟩).toList) = .lt := by
  have hutc : Instant.parse "2024-01-01T12:00:00Z" =
      .ok ⟨1704110400000000000, by decide, by decide⟩ :=
    Instant.parse_eq_ok_iff.2 ⟨by decide +kernel, by decide⟩
  have hkolkata : Instant.parse "2024-01-01T11:00:00.5Z" =
      .ok ⟨1704106800500000000, by decide, by decide⟩ :=
    Instant.parse_eq_ok_iff.2 ⟨by decide +kernel, by decide⟩
  refine ⟨⟨hutc, hkolkata⟩, ?_⟩
  rw [(compare_text_of_parse hutc hkolkata _ _).1]
  decide +kernel

end Display

end WallClock
