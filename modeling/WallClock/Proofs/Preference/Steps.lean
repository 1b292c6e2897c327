import WallClock.Preference
import WallClock.Proofs.Store.Contents

/-!
Preferences step by step: what can be done with them, with the store behind them and with its
connection, and what comes of it. While the store is online every step succeeds and makes the change
that it is for; while it is offline whatever needs the store fails and changes nothing.
-/

namespace WallClock

namespace Preference

open Store

inductive Step where
  | choose (now : Instant) (zone : Zone)
  | clear
  | set (now : Instant) (key value : String)
  | remove (key : String)
  | switch (online : Bool)
  | resolve
  | resolveWithSource
  | choices
  | storedAt

inductive Answer where
  | done
  | removed (wasThere : Bool)
  | zone (zone : Zone)
  | resolved (resolved : Resolved)
  | selector (selector : Selector)
  | time (at? : Option Instant)

/-- What comes of a step: its answer, what there is to say, and the preferences afterwards. -/
structure Outcome where
  answer : Except Error Answer
  events : List Event
  preference : Preference

/-- The outcome of a change to the store. A failure leaves it as it was. -/
def Outcome.ofChange (p : Preference) (events : List Event) :
    Except Error (Answer × Preference) → Outcome
  | .ok (answer, changed) => ⟨.ok answer, events, changed⟩
  | .error e => ⟨.error e, events, p⟩

def withStore (p : Preference) (store : Store) : Preference :=
  { p with store := store }

variable [Zone.Database]

def perform (p : Preference) : Step → Outcome
  | .choose now zone =>
      .ofChange p (storingEvents zone) ((p.choose now zone).map fun changed => (.done, changed))
  | .clear =>
      .ofChange p clearingEvents (p.clear.map fun (removed, changed) => (.removed removed, changed))
  | .set now key value =>
      .ofChange p [] ((p.store.set now key value).map fun store => (.done, p.withStore store))
  | .remove key =>
      .ofChange p []
        ((p.store.remove key).map fun (removed, store) => (.removed removed, p.withStore store))
  | .switch online => ⟨.ok .done, [], p.withStore { p.store with online := online }⟩
  | .resolve => ⟨.ok (.zone p.resolved.zone), p.resolutionEvents, p⟩
  | .resolveWithSource => ⟨.ok (.resolved p.resolved), p.resolutionEvents, p⟩
  | .choices => ⟨.ok (.selector p.selector), p.resolutionEvents, p⟩
  | .storedAt => ⟨p.storedAt.map .time, [], p⟩

namespace Step

/-- The change to the store that a step is for. -/
def change? : Step → Option Change
  | choose now zone => some (.set now displayZoneKey zone.name)
  | clear => some (.remove displayZoneKey)
  | set now key value => some (.set now key value)
  | remove key => some (.remove key)
  | _ => none

def resolves : Step → Bool
  | resolve => true
  | resolveWithSource => true
  | choices => true
  | _ => false

/-- Whether the store is online after a step. -/
def onlineAfter (step : Step) (online : Bool) : Bool :=
  match step with
  | switch now => now
  | _ => online

end Step

/-! ### Single steps -/

variable {p : Preference} {e : Entries}

theorem perform_choose (p : Preference) (now : Instant) (zone : Zone) :
    perform p (.choose now zone) =
      { perform p (.set now displayZoneKey zone.name) with events := storingEvents zone } := by
  simp only [perform, choose]
  cases p.store.set now displayZoneKey zone.name with
  | ok store => rfl
  | error e => rfl

theorem perform_clear (p : Preference) :
    perform p .clear = { perform p (.remove displayZoneKey) with events := clearingEvents } := by
  simp only [perform, clear]
  cases p.store.remove displayZoneKey with
  | ok outcome => rfl
  | error e => rfl

/-- A store that is online does not fail to write. -/
theorem perform_set (h : p.store.Holds e) (honline : p.store.online = true) (now : Instant)
    (key value : String) :
    (perform p (.set now key value)).answer = .ok .done ∧
      ∃ store, (perform p (.set now key value)).preference = p.withStore store ∧
        store.online = true ∧ store.Holds (e.apply (.set now key value)) := by
  obtain ⟨store, hset, hstore⟩ := h.set honline now key value
  rw [perform, hset]
  exact ⟨rfl, store, rfl, hstore⟩

theorem perform_remove (h : p.store.Holds e) (honline : p.store.online = true) (key : String) :
    (perform p (.remove key)).answer = .ok (.removed (e key).isSome) ∧
      ∃ store, (perform p (.remove key)).preference = p.withStore store ∧
        store.online = true ∧ store.Holds (e.apply (.remove key)) := by
  obtain ⟨store, hremove, hstore⟩ := h.remove honline key
  rw [perform, hremove]
  exact ⟨rfl, store, rfl, hstore⟩

/-- Online, a step makes the change that it is for. -/
theorem perform_change (h : p.store.Holds e) (honline : p.store.online = true) {step : Step}
    {change : Change} (hchange : step.change? = some change) :
    (∃ answer, (perform p step).answer = .ok answer) ∧
      ∃ store, (perform p step).preference = p.withStore store ∧
        store.online = true ∧ store.Holds (e.apply change) := by
  cases step with
  | choose now zone =>
    cases hchange
    rw [perform_choose]
    obtain ⟨hanswer, hstore⟩ := perform_set h honline now displayZoneKey zone.name
    exact ⟨⟨_, hanswer⟩, hstore⟩
  | clear =>
    cases hchange
    rw [perform_clear]
    obtain ⟨hanswer, hstore⟩ := perform_remove h honline displayZoneKey
    exact ⟨⟨_, hanswer⟩, hstore⟩
  | set now key value =>
    cases hchange
    obtain ⟨hanswer, hstore⟩ := perform_set h honline now key value
    exact ⟨⟨_, hanswer⟩, hstore⟩
  | remove key =>
    cases hchange
    obtain ⟨hanswer, hstore⟩ := perform_remove h honline key
    exact ⟨⟨_, hanswer⟩, hstore⟩
  | switch | resolve | resolveWithSource | choices | storedAt => cases hchange

/-- Offline, a step that is for a change fails and makes none. -/
theorem perform_change_of_offline (hoffline : p.store.online = false) {step : Step}
    (hchange : step.change? ≠ none) :
    (perform p step).answer = .error offline ∧ (perform p step).preference = p := by
  cases step with
  | choose now zone =>
    rw [perform_choose, perform, set_of_offline hoffline]
    exact ⟨rfl, rfl⟩
  | clear =>
    rw [perform_clear, perform, remove_of_offline hoffline]
    exact ⟨rfl, rfl⟩
  | set now key value =>
    rw [perform, set_of_offline hoffline]
    exact ⟨rfl, rfl⟩
  | remove key =>
    rw [perform, remove_of_offline hoffline]
    exact ⟨rfl, rfl⟩
  | switch | resolve | resolveWithSource | choices | storedAt => exact absurd rfl hchange

/-- A step that is for no change does no more than to switch the store on or off. -/
theorem perform_of_no_change {step : Step} (hchange : step.change? = none) :
    (perform p step).preference =
      p.withStore { p.store with online := step.onlineAfter p.store.online } := by
  cases step with
  | choose | clear | set | remove => cases hchange
  | switch | resolve | resolveWithSource | choices | storedAt => rfl

theorem perform_of_resolves {step : Step} (h : step.resolves = true) :
    (perform p step).events = p.resolutionEvents := by
  cases step with
  | resolve | resolveWithSource | choices => rfl
  | choose | clear | set | remove | switch | storedAt => cases h

/-- What needs the store. -/
def Step.needsStore (step : Step) : Prop :=
  step.change? ≠ none ∨ step = .storedAt

/-- Whatever needs the store fails exactly when it is offline. -/
theorem perform_fails_iff (h : p.store.Holds e) {step : Step} (hneeds : step.needsStore) :
    (∃ error, (perform p step).answer = .error error) ↔ p.store.online = false := by
  cases honline : p.store.online with
  | false =>
    refine ⟨fun _ => rfl, fun _ => ⟨offline, ?_⟩⟩
    rcases hneeds with hchange | rfl
    · exact (perform_change_of_offline honline hchange).1
    · rw [perform, storedAt, updatedAt_of_offline honline]
      rfl
  | true =>
    constructor
    · rintro ⟨error, herror⟩
      rcases hneeds with hchange | rfl
      · obtain ⟨change, hchange⟩ := Option.ne_none_iff_exists'.1 hchange
        obtain ⟨⟨answer, hanswer⟩, _⟩ := perform_change h honline hchange
        rw [hanswer] at herror
        cases herror
      · rw [perform, storedAt, h.updatedAt honline] at herror
        cases herror
    · intro hfalse
      cases hfalse

/-! ### Runs -/

def run (p : Preference) : List Step → Preference
  | [] => p
  | step :: rest => run (perform p step).preference rest

def succeeds (p : Preference) (step : Step) : Bool :=
  (perform p step).answer.isOk

/-- The change that a step makes, if it is for one and succeeds. -/
def made (p : Preference) (step : Step) : List Change :=
  (step.change?.filter fun _ => p.succeeds step).toList

def changesMade (p : Preference) : List Step → List Change
  | [] => []
  | step :: rest => p.made step ++ changesMade (perform p step).preference rest

/-- Whether a store that was online at first is online after steps. -/
def isOnlineAfter (steps : List Step) : Bool :=
  steps.foldl (fun online step => step.onlineAfter online) true

end Preference

end WallClock
