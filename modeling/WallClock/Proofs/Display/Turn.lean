import WallClock.Display
import WallClock.Proofs.Zone.Directory
import WallClock.Proofs.Zone.Lookup

/-!
What is shown of instants around a turn of the clocks, in the zones of a database with coherent rules. The
offset is the one in effect at the instant itself, not at a whole second near it: the last nanosecond before
a turn is shown with the old offset and the moment of the turn with the new one, before 1970 as after it.
-/

namespace WallClock

/-- A whole second has been reached as soon as its first nanosecond has. -/
theorem Instant.le_second_iff {i : Instant} {second : Int} :
    second ≤ i.second ↔ second * nanosPerSecond ≤ i.nanos := by
  unfold Instant.second nanosPerSecond
  omega

/-- The last nanosecond of a second belongs to it, also before 1970. -/
theorem Instant.second_lt_iff {i : Instant} {second : Int} :
    i.second < second ↔ i.nanos < second * nanosPerSecond := by
  unfold Instant.second nanosPerSecond
  omega

namespace Display

/-- The instant as a clock of the given offset shows it. -/
def atOffset (i : Instant) (offset : Int) : String :=
  String.ofList (Civil.Minute.text ((i.nanos + offset * nanosPerSecond) / (60 * nanosPerSecond)))

theorem text_eq_atOffset (i : Instant) (zone : Zone) : text i zone = atOffset i (zone.offsetAt i) :=
  rfl

/-- In every zone that is found in a database of coherent rules, instants from the turn before it up to a
turn of the clocks are shown with the offset before the turn, and from the turn on up to the next one with
the offset that it turns to. -/
theorem text_around_turn [Zone.Database]
    (hrules : ∀ name ∈ Zone.names, (Zone.Database.rulesOf name).Coherent)
    {sought : String} {zone : Zone} (hzone : Zone.find? sought = some zone) {turn : Zone.Transition}
    (hturn : zone.rules.Turns turn) :
    (∃ before, zone.rules.OffsetBefore turn.start before) ∧
      ∀ before, zone.rules.OffsetBefore turn.start before → ∀ i : Instant,
        (i.nanos < turn.start * nanosPerSecond →
          (∀ earlier, zone.rules.Turns earlier → earlier.start < turn.start →
            earlier.start * nanosPerSecond ≤ i.nanos) →
          text i zone = atOffset i before) ∧
        (turn.start * nanosPerSecond ≤ i.nanos →
          (∀ later, zone.rules.Turns later → turn.start < later.start →
            i.nanos < later.start * nanosPerSecond) →
          text i zone = atOffset i turn.offset) := by
  have h : zone.rules.Coherent := Zone.coherent_of_find? hrules hzone
  refine ⟨zone.rules.exists_offsetBefore turn.start, fun before hbefore i => ⟨?_, ?_⟩⟩
  · intro hlt hearlier
    rw [← Instant.second_lt_iff] at hlt
    rw [text_eq_atOffset, Zone.offsetAt]
    rcases hbefore with ⟨t, ht, ht_lt, rfl, hlatest⟩ | ⟨hfirst, rfl⟩
    · rw [Zone.Rules.offsetAt_of_latest h ht (Instant.le_second_iff.2 (hearlier t ht ht_lt))]
      intro u hu
      rcases Int.lt_or_le u.start turn.start with hu_lt | hu_le
      · exact Or.inl (hlatest u hu hu_lt)
      · exact Or.inr (Int.lt_of_lt_of_le hlt hu_le)
    · rw [Zone.Rules.offsetAt_of_before h ⟨turn, hturn⟩]
      exact fun u hu => Int.lt_of_lt_of_le hlt (hfirst u hu)
  · intro hle hlater
    rw [text_eq_atOffset, Zone.offsetAt,
      Zone.Rules.offsetAt_of_latest h hturn (Instant.le_second_iff.2 hle)]
    intro u hu
    rcases Int.lt_or_le turn.start u.start with hu_lt | hu_le
    · exact Or.inr (Instant.second_lt_iff.2 (hlater u hu hu_lt))
    · exact Or.inl hu_le

set_option maxRecDepth 2000 in
theorem find?_kolkata : Zone.find? "Asia/Kolkata" = some ⟨"Asia/Kolkata", Zone.Tables.asiaKolkata⟩ := by
  have hmem : "Asia/Kolkata" ∈ Zone.names :=
    List.mem_of_getElem? (i := 284) rfl
  rw [Zone.find?_of_mem_names hmem (Zone.sameName_iff.2 rfl)]
  rfl

/-- In Kolkata clocks went from 23:59:59 to 01:00:00 as September 1941 ended. A nanosecond before the
turn the whole second nearest to 1970 is that of the turn itself. -/
theorem text_around_turn_in_kolkata :
    let zone : Zone := ⟨"Asia/Kolkata", Zone.Tables.asiaKolkata⟩
    (∀ name ∈ Zone.names, (Zone.Database.rulesOf name).Coherent) ∧
      Zone.find? "Asia/Kolkata" = some zone ∧ zone.rules.Turns ⟨-891581400, 23400⟩ ∧
      text ⟨-891581400000000001, by decide, by decide⟩ zone = "1941-09-30 23:59" ∧
      text ⟨-891581400000000000, by decide, by decide⟩ zone = "1941-10-01 01:00" := by
  intro zone
  have hcoherent : ∀ name ∈ Zone.names, (Zone.Database.rulesOf name).Coherent :=
    fun name _ => Zone.coherent_ofTables name
  have hlisted : ∀ t, zone.rules.Turns t → t ∈ Zone.Tables.asiaKolkata.transitions := by
    rintro t (ht | ⟨year, ht, _⟩)
    · exact ht
    · exact absurd ht List.not_mem_nil
  have hbefore : zone.rules.OffsetBefore (-891581400) 19800 := by
    refine Or.inl ⟨⟨-2019705670, 19800⟩, .listed (by decide), by decide, rfl, fun u hu => ?_⟩
    have all : ∀ u ∈ Zone.Tables.asiaKolkata.transitions,
      u.start < -891581400 → u.start ≤ -2019705670 := by decide
    exact all u (hlisted u hu)
  have hturn : zone.rules.Turns ⟨-891581400, 23400⟩ :=
    .listed (by decide)
  have haround := (text_around_turn hcoherent find?_kolkata hturn).2 19800 hbefore
  refine ⟨hcoherent, find?_kolkata, hturn, ?_, ?_⟩
  · rw [(haround _).1 (by decide) ?_]
    · rfl
    · intro t ht hlt
      have all : ∀ u ∈ Zone.Tables.asiaKolkata.transitions,
        u.start < -891581400 → u.start * nanosPerSecond ≤ -891581400000000001 := by decide
      exact all t (hlisted t ht) hlt
  · rw [(haround _).2 (by decide) ?_]
    · rfl
    · intro t ht hlt
      have all : ∀ u ∈ Zone.Tables.asiaKolkata.transitions,
        -891581400 < u.start → -891581400000000000 < u.start * nanosPerSecond := by decide
      exact all t (hlisted t ht) hlt

end Display

end WallClock
