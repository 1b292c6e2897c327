import WallClock.Instant.Json
import WallClock.Proofs.Instant.Parse
import WallClock.Proofs.Instant.RoundTrip
import WallClock.Proofs.Json.Value
import WallClock.Proofs.Text.Trim

/-!
Timestamps lose nothing. As text and as JSON an instant is read back to the nanosecond, at either end of
the time line and wherever its fraction ends, and what people may type is read by their reader as well.
-/

namespace WallClock.Instant

open Text Civil

theorem exists_cons_signedYear (year : Int) :
    ∃ c s, signedYear year = c :: s ∧ isBlank c = false := by
  unfold signedYear
  split
  · obtain ⟨c, s, hpadded, hc⟩ := exists_cons_padded 3 year.natAbs
    exact ⟨c, s, hpadded, isBlank_of_isDigit hc⟩
  · exact ⟨'-', _, rfl, rfl⟩

theorem head?_chars (i : Instant) : ∀ c ∈ i.chars.head?, isBlank c = false := by
  obtain ⟨first, s, hyear, hfirst⟩ := exists_cons_signedYear (Date.ofDayNumber (i.second / 86400)).year
  intro c hc
  rw [chars_eq, dateText, hyear] at hc
  simp only [List.cons_append, List.head?_cons, Option.mem_some_iff] at hc
  rwa [← hc]

theorem getLast?_chars (i : Instant) : i.chars.getLast? = some 'Z' := by
  rw [chars, List.getLast?_concat]

/-- A timestamp has no blanks at its ends, so trimming does nothing to it. -/
theorem trim_text (i : Instant) : trim i.text.toList = i.chars := by
  rw [text, String.toList_ofList]
  apply trim_eq_self i.head?_chars
  rw [getLast?_chars]
  rintro c ⟨⟩
  rfl

/-- The timestamp of an instant is taken as that instant, unless this lies too early to be typed. -/
theorem parse_text (i : Instant) :
    parse i.text = if i.wholeSeconds < yearOne then .error .beforeYearOne else .ok i := by
  rw [parse, trim_text, read?_chars]

theorem ofJsonText?_toJson (i : Instant) : ofJsonText? i.toJson.compact = some i := by
  rw [ofJsonText?, toJson, Json.Value.parse?_compact_ofString, Option.bind_some]
  exact i.read?_text

/-- Instants that are written in the same way are the same. -/
theorem text_injective {i j : Instant} (h : i.text = j.text) : i = j := by
  have hread := j.read?_text
  rw [← h, read?_text] at hread
  exact Option.some.inj hread

/-- Every instant of the time line is read back from its JSON, and from its text if it may be typed;
no two share a text, and the text has the form of a timestamp in universal time. -/
theorem timestamp_lossless (i : Instant) :
    ofJsonText? i.toJson.compact = some i ∧
      (∀ input, parse input = .ok i → parse i.text = .ok i) ∧
      (∀ j : Instant, i ≠ j → i.text ≠ j.text ∧ i.toJson.compact ≠ j.toJson.compact) ∧
      Form i i.text.toList := by
  refine ⟨i.ofJsonText?_toJson, fun input hinput => ?_, fun j hne => ⟨?_, ?_⟩, ?_⟩
  · rw [parse_text, if_neg (Int.not_lt.2 (parse_eq_ok_iff.1 hinput).2)]
  · exact fun htext => hne (text_injective htext)
  · intro hjson
    have hread := j.ofJsonText?_toJson
    rw [← hjson, ofJsonText?_toJson] at hread
    exact hne (Option.some.inj hread)
  · rw [text, String.toList_ofList]
    exact i.form_chars

example : (⟨-500000000, by decide, by decide⟩ : Instant).text = "1969-12-31T23:59:59.5Z" := by decide

end WallClock.Instant
