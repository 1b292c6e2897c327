import WallClock.Proofs.Preference.Steps

/-!
The resolved zone in view of everything that was done. The store holds what the changes of the steps
that succeeded left, and from that follow the zone and its source, the warnings, and what can change
them.
-/

namespace WallClock

namespace Preference

open Store

variable [Zone.Database] {p : Preference} {changes : List Change}

/-! ### The stored zone -/

/-- The zone that was stored last, by whatever step, if the store is online and has kept it. -/
def Chosen (online : Bool) (changes : List Change) (zone : Zone) : Prop :=
  online = true ∧ ∃ value now, LastSet changes displayZoneKey value now ∧
    Text.trimmed value ≠ "" ∧ Zone.parse value = .ok zone

/-- The store is offline or has something that is neither blank nor a zone. -/
def Unusable (online : Bool) (changes : List Change) : Prop :=
  online = false ∨ ∃ value now, LastSet changes displayZoneKey value now ∧
    Text.trimmed value ≠ "" ∧ ∀ zone, Zone.parse value ≠ .ok zone

theorem storedZone_of_offline (h : p.store.online = false) : p.storedZone = .error offline := by
  rw [storedZone, get_of_offline h]

theorem storedZone_of_none (h : p.store.get displayZoneKey = .ok none) : p.storedZone = .ok none := by
  rw [storedZone, h]

theorem storedZone_of_some {value : String} (h : p.store.get displayZoneKey = .ok (some value)) :
    p.storedZone =
      if Text.trimmed value = "" then .ok none else (Zone.parse value).map some := by
  rw [storedZone, h]
  dsimp only
  by_cases hblank : Text.trimmed value = ""
  · rw [if_pos hblank, if_pos hblank]
  · rw [if_neg hblank, if_neg hblank]
    cases Zone.parse value with
    | ok zone => rfl
    | error e => rfl

/-- Online, the stored zone is that of the value that was set last. -/
theorem storedZone_of_online (h : p.store.Holds (.after changes)) (honline : p.store.online = true) :
    ((∀ value now, ¬ LastSet changes displayZoneKey value now) ∧ p.storedZone = .ok none) ∨
      ∃ value now, LastSet changes displayZoneKey value now ∧
        p.storedZone =
          if Text.trimmed value = "" then .ok none else (Zone.parse value).map some := by
  have hget := h.get honline displayZoneKey
  cases hentry : Entries.after changes displayZoneKey with
  | none =>
    rw [hentry] at hget
    refine Or.inl ⟨fun value now hlast => ?_, storedZone_of_none hget⟩
    rw [← Entries.after_eq_some_iff, hentry] at hlast
    cases hlast
  | some entry =>
    obtain ⟨value, now⟩ := entry
    rw [hentry] at hget
    exact Or.inr ⟨value, now, Entries.after_eq_some_iff.1 hentry, storedZone_of_some hget⟩

/-- What the stored zone is, told by the changes made to the store. -/
theorem storedZone_eq_some_iff (h : p.store.Holds (.after changes)) {zone : Zone} :
    p.storedZone = .ok (some zone) ↔ Chosen p.store.online changes zone := by
  cases honline : p.store.online with
  | false =>
    rw [storedZone_of_offline honline]
    constructor
    · intro heq
      cases heq
    · intro hchosen
      cases hchosen.1
  | true =>
    rcases storedZone_of_online h honline with ⟨hnone, hstored⟩ | ⟨value, now, hlast, hstored⟩
    · rw [hstored]
      constructor
      · intro heq
        cases heq
      · rintro ⟨_, value, now, hlast, _⟩
        exact absurd hlast (hnone value now)
    · rw [hstored]
      constructor
      · intro heq
        split at heq
        · cases heq
        · rename_i hblank
          refine ⟨rfl, value, now, hlast, hblank, ?_⟩
          cases hparse : Zone.parse value with
          | ok found =>
            rw [hparse] at heq
            cases heq
            rfl
          | error e =>
            rw [hparse] at heq
            cases heq
      · rintro ⟨_, value', now', hlast', hblank, hparse⟩
        rw [hlast.value_unique hlast', if_neg hblank, hparse]
        rfl

theorem storedZone_eq_error_iff (h : p.store.Holds (.after changes)) :
    (∃ e, p.storedZone = .error e) ↔ Unusable p.store.online changes := by
  cases honline : p.store.online with
  | false =>
    rw [storedZone_of_offline honline]
    exact ⟨fun _ => Or.inl rfl, fun _ => ⟨offline, rfl⟩⟩
  | true =>
    rcases storedZone_of_online h honline with ⟨hnone, hstored⟩ | ⟨value, now, hlast, hstored⟩
    · rw [hstored]
      constructor
      · rintro ⟨e, heq⟩
        cases heq
      · rintro (hoffline | ⟨value, now, hlast, _⟩)
        · cases hoffline
        · exact absurd hlast (hnone value now)
    · rw [hstored]
      constructor
      · rintro ⟨e, heq⟩
        split at heq
        · cases heq
        · rename_i hblank
          refine Or.inr ⟨value, now, hlast, hblank, fun zone hparse => ?_⟩
          rw [hparse] at heq
          cases heq
      · rintro (hoffline | ⟨value', now', hlast', hblank, hparse⟩)
        · cases hoffline
        · rw [hlast.value_unique hlast', if_neg hblank]
          cases hparse' : Zone.parse value' with
          | ok zone => exact absurd hparse' (hparse zone)
          | error e => exact ⟨e, rfl⟩

/-! ### The resolved zone -/

/-- What the detector and the changes made to the store lead to. -/
inductive Expected (detector : Detector) (online : Bool) (changes : List Change) : Resolved → Prop
  | stored {zone : Zone} : Chosen online changes zone →
      Expected detector online changes ⟨zone, .stored⟩
  | detected {zone : Zone} : (∀ z, ¬ Chosen online changes z) → detector.detected = some zone →
      Expected detector online changes ⟨zone, .detected⟩
  | fallback : (∀ z, ¬ Chosen online changes z) → detector.detected = none →
      Expected detector online changes ⟨.utc, .fallback⟩

theorem resolved_of_some {zone : Zone} (h : p.storedZone = .ok (some zone)) :
    p.resolved = ⟨zone, .stored⟩ := by
  rw [resolved, h]

theorem resolved_of_not_some (h : ∀ zone, p.storedZone ≠ .ok (some zone)) :
    p.resolved = p.unstored := by
  rw [resolved]
  split
  · rename_i zone heq
    exact absurd heq (h zone)
  · rfl

/-- The zone is resolved to what the detector and the changes lead to, and to nothing else. -/
theorem resolved_eq_iff (h : p.store.Holds (.after changes)) {r : Resolved} :
    p.resolved = r ↔ Expected p.detector p.store.online changes r := by
  have hstored (zone : Zone) : p.storedZone = .ok (some zone) ↔ Chosen p.store.online changes zone :=
    storedZone_eq_some_iff h
  constructor
  · rintro rfl
    by_cases hsome : ∃ zone, p.storedZone = .ok (some zone)
    · obtain ⟨zone, hzone⟩ := hsome
      rw [resolved_of_some hzone]
      exact .stored ((hstored zone).1 hzone)
    · have hnone : ∀ zone, p.storedZone ≠ .ok (some zone) := fun zone heq => hsome ⟨zone, heq⟩
      have hunchosen : ∀ zone, ¬ Chosen p.store.online changes zone :=
        fun zone hchosen => hnone zone ((hstored zone).2 hchosen)
      rw [resolved_of_not_some hnone, unstored]
      cases hdetected : p.detector.detected with
      | some zone => exact .detected hunchosen hdetected
      | none => exact .fallback hunchosen hdetected
  · intro hexpected
    cases hexpected with
    | stored hchosen => exact resolved_of_some ((hstored _).2 hchosen)
    | detected hunchosen hdetected =>
      rw [resolved_of_not_some fun zone heq => hunchosen zone ((hstored zone).1 heq), unstored, hdetected]
    | fallback hunchosen hdetected =>
      rw [resolved_of_not_some fun zone heq => hunchosen zone ((hstored zone).1 heq), unstored, hdetected]

/-! ### Warnings -/

def warnings (events : List Event) : List Event :=
  events.filter fun event => event.level == .warning

theorem warnings_resolutionEvents_of_error {e : Error} (h : p.storedZone = .error e) :
    warnings p.resolutionEvents = [.ignoringStored e] := by
  rw [resolutionEvents, h]
  cases p.detector.detected with
  | some zone => rfl
  | none => rfl

theorem warnings_resolutionEvents_of_ok {zone : Option Zone} (h : p.storedZone = .ok zone) :
    warnings p.resolutionEvents = [] := by
  rw [resolutionEvents, h]
  cases zone with
  | some zone => rfl
  | none =>
    cases p.detector.detected with
    | some zone => rfl
    | none => rfl

/-- Resolving warns once if the store is offline or has something unusable, and else not at all. -/
theorem length_warnings_resolutionEvents (h : p.store.Holds (.after changes)) :
    (Unusable p.store.online changes → (warnings p.resolutionEvents).length = 1) ∧
      (¬ Unusable p.store.online changes → (warnings p.resolutionEvents).length = 0) := by
  rw [← storedZone_eq_error_iff h]
  constructor
  · rintro ⟨e, he⟩
    rw [warnings_resolutionEvents_of_error he]
    rfl
  · intro hok
    cases hstored : p.storedZone with
    | error e => exact absurd ⟨e, hstored⟩ hok
    | ok zone =>
      rw [warnings_resolutionEvents_of_ok hstored]
      rfl

/-! ### Histories -/

/-- The preferences have come to where the detector, the connection and the changes made lead. -/
structure Reached (p : Preference) (detector : Detector) (online : Bool) (changes : List Change) :
    Prop where
  detector : p.detector = detector
  online : p.store.online = online
  holds : p.store.Holds (.after changes)

variable {detector : Detector} {online : Bool}

/-- A step adds the change it makes to those that led here. -/
theorem Reached.perform (h : p.Reached detector online changes) (step : Step) :
    (perform p step).preference.Reached detector (step.onlineAfter online)
      (changes ++ p.made step) := by
  cases hchange : step.change? with
  | none =>
    rw [made, hchange, Option.filter_none, Option.toList_none, List.append_nil,
      perform_of_no_change hchange, h.online]
    exact ⟨h.detector, rfl, h.holds⟩
  | some change =>
    -- A step that is for a change is no switch.
    have hconnection : step.onlineAfter online = online := by
      cases step with
      | choose | clear | set | remove => rfl
      | switch | resolve | resolveWithSource | choices | storedAt => cases hchange
    rw [hconnection]
    cases honline : online with
    | true =>
      obtain ⟨⟨answer, hanswer⟩, store, hstore, honline', hholds⟩ :=
        perform_change h.holds (h.online.trans honline) hchange
      rw [made, hchange, succeeds, hanswer, hstore]
      refine ⟨h.detector, honline', ?_⟩
      show store.Holds (.after (changes ++ [change]))
      rw [Entries.after_concat]
      exact hholds
    | false =>
      have hne : step.change? ≠ none := by
        rw [hchange]
        exact Option.some_ne_none change
      obtain ⟨hanswer, hsame⟩ := perform_change_of_offline (h.online.trans honline) hne
      rw [made, hchange, succeeds, hanswer, hsame]
      refine ⟨h.detector, h.online.trans honline, ?_⟩
      show p.store.Holds (.after (changes ++ []))
      rw [List.append_nil]
      exact h.holds

/-- Steps add the changes they make to those that led here. -/
theorem Reached.run (h : p.Reached detector online changes) (steps : List Step) :
    (run p steps).Reached detector (steps.foldl (fun online step => step.onlineAfter online) online)
      (changes ++ p.changesMade steps) := by
  induction steps generalizing p online changes with
  | nil =>
    rw [Preference.run, changesMade, List.append_nil]
    exact h
  | cons step steps ih =>
    have hrest := ih (h.perform step)
    rw [List.append_assoc] at hrest
    exact hrest

/-! ### What leaves the resolved zone as it is -/

/-- The resolved zone depends on what the store answers and on the detector. -/
theorem resolved_congr {q : Preference}
    (hstore : p.store.get displayZoneKey = q.store.get displayZoneKey)
    (hdetector : p.detector = q.detector) : p.resolved = q.resolved := by
  have hstored : p.storedZone = q.storedZone := by rw [storedZone, storedZone, hstore]
  rw [resolved, resolved, hstored, unstored, unstored, hdetector]

/-- The key of the value that a step is to change. -/
def Step.key? (step : Step) : Option String :=
  step.change?.map Change.key

/-- What is done under other keys, and what fails, does not touch the resolved zone. -/
theorem resolved_perform (h : p.Reached detector online changes) {step : Step}
    (hswitch : ∀ now, step ≠ .switch now)
    (hother : step.key? ≠ some displayZoneKey ∨ ∃ e, (perform p step).answer = .error e) :
    (perform p step).preference.resolved = p.resolved := by
  cases hchange : step.change? with
  | none =>
    have hsame : step.onlineAfter p.store.online = p.store.online := by
      cases step with
      | switch now => exact absurd rfl (hswitch now)
      | choose | clear | set | remove | resolve | resolveWithSource | choices | storedAt => rfl
    rw [perform_of_no_change hchange, hsame]
    rfl
  | some change =>
    have hneeds : step.change? ≠ none := by
      rw [hchange]
      exact Option.some_ne_none change
    cases honline : p.store.online with
    | false => rw [(perform_change_of_offline honline hneeds).2]
    | true =>
      obtain ⟨⟨answer, hanswer⟩, store, hstore, honline', hholds⟩ :=
        perform_change h.holds honline hchange
      have hkey : change.key ≠ displayZoneKey := by
        rintro hkey
        rcases hother with hother | ⟨e, he⟩
        · rw [Step.key?, hchange, Option.map_some, hkey] at hother
          exact hother rfl
        · rw [hanswer] at he
          cases he
      rw [hstore]
      refine resolved_congr ?_ rfl
      show store.get displayZoneKey = p.store.get displayZoneKey
      rw [hholds.get honline', h.holds.get honline, Entries.apply_of_ne hkey]

/-! ### Runs from new preferences -/

omit [Zone.Database] in
theorem reached_new (kind : Kind) (detector : Detector) :
    Reached ⟨.ofKind kind, detector⟩ detector true [] :=
  ⟨rfl, online_ofKind kind, holds_ofKind kind⟩

theorem reached_run_new (kind : Kind) (detector : Detector) (steps : List Step) :
    (run ⟨.ofKind kind, detector⟩ steps).Reached detector (isOnlineAfter steps)
      (changesMade ⟨.ofKind kind, detector⟩ steps) :=
  (reached_new kind detector).run steps

theorem removed_iff_lastSet (h : p.Reached detector true changes) (key : String) :
    ∃ wasThere, (perform p (.remove key)).answer = .ok (.removed wasThere) ∧
      (wasThere = true ↔ ∃ value now, LastSet changes key value now) := by
  refine ⟨_, (perform_remove h.holds h.online key).1, ?_⟩
  rw [Option.isSome_iff_exists]
  constructor
  · rintro ⟨⟨value, now⟩, hentry⟩
    exact ⟨value, now, Entries.after_eq_some_iff.1 hentry⟩
  · rintro ⟨value, now, hlast⟩
    exact ⟨(value, now), Entries.after_eq_some_iff.2 hlast⟩

/-- After any steps from a new store on, in memory or in a database: the resolved zone is the one that
the changes made so far lead to; what fails, only reads or concerns another key leaves it as it was; the
stored zone is cleared if any value is there; each time the zone is resolved there is one warning if
what is stored cannot be had or used, and else none; and whatever needs the store fails just while it is
offline. -/
theorem resolution_of_history (kind : Kind) (detector : Detector) (steps : List Step) :
    let p := run ⟨.ofKind kind, detector⟩ steps
    let made := changesMade ⟨.ofKind kind, detector⟩ steps
    let online := isOnlineAfter steps
    (∀ r, (perform p .resolveWithSource).answer = .ok (.resolved r) ↔
        Expected detector online made r) ∧
      (∀ step, (∀ now, step ≠ .switch now) →
        step.key? ≠ some displayZoneKey ∨ (∃ e, (perform p step).answer = .error e) →
        (perform (perform p step).preference .resolveWithSource).answer =
          (perform p .resolveWithSource).answer) ∧
      (online = true → ∃ wasThere, (perform p .clear).answer = .ok (.removed wasThere) ∧
        (wasThere = true ↔ ∃ value now, LastSet made displayZoneKey value now)) ∧
      (∀ step, step.resolves = true →
        (Unusable online made → (warnings (perform p step).events).length = 1) ∧
          (¬ Unusable online made → (warnings (perform p step).events).length = 0)) ∧
      ∀ step, step.needsStore →
        ((∃ e, (perform p step).answer = .error e) ↔ online = false) := by
  intro p made online
  have h : p.Reached detector online made := reached_run_new kind detector steps
  refine ⟨fun r => ?_, fun step hswitch hother => ?_, fun honline => ?_, fun step hresolves => ?_,
    fun step hneeds => ?_⟩
  · rw [← h.detector, ← h.online, ← resolved_eq_iff h.holds]
    constructor
    · intro heq
      cases heq
      rfl
    · rintro rfl
      rfl
  · exact congrArg (fun r => Except.ok (Answer.resolved r)) (resolved_perform h hswitch hother)
  · rw [honline] at h
    rw [perform_clear]
    exact removed_iff_lastSet h displayZoneKey
  · rw [perform_of_resolves hresolves, ← h.online]
    exact length_warnings_resolutionEvents h.holds
  · rw [perform_fails_iff h.holds hneeds, h.online]

end Preference

end WallClock
