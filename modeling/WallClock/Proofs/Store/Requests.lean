import WallClock.Proofs.Store.Contents

/-!
Stores as seen from outside. A new store in memory and a new database are asked the same and answer the
same, for both hold what the changes asked for leave under each key; they differ in the times of writing
only, which the database alone records.
-/

namespace WallClock.Store

inductive Request where
  | get (key : String)
  | set (now : Instant) (key value : String)
  | remove (key : String)

inductive Reply where
  | value (value : Option String)
  | done
  | removed (wasThere : Bool)

def Request.change? : Request → Option Change
  | get _ => none
  | set now key value => some (.set now key value)
  | remove key => some (.remove key)

def changesAsked (requests : List Request) : List Change :=
  requests.flatMap fun request => request.change?.toList

/-- Answers a request. A store that fails to is left as it was. -/
def answer (s : Store) : Request → Except Error Reply × Store
  | .get key => ((s.get key).map .value, s)
  | .set now key value =>
      match s.set now key value with
      | .ok changed => (.ok .done, changed)
      | .error e => (.error e, s)
  | .remove key =>
      match s.remove key with
      | .ok (wasThere, changed) => (.ok (.removed wasThere), changed)
      | .error e => (.error e, s)

def answers (s : Store) : List Request → List (Except Error Reply)
  | [] => []
  | request :: rest => (s.answer request).1 :: answers (s.answer request).2 rest

def asked (s : Store) (requests : List Request) : Store :=
  requests.foldl (fun s request => (s.answer request).2) s

/-- What is due to a request after changes. -/
inductive Due (changes : List Change) : Request → Reply → Prop
  | found {key value : String} {now : Instant} : LastSet changes key value now →
      Due changes (.get key) (.value (some value))
  | notFound {key : String} : (∀ value now, ¬ LastSet changes key value now) →
      Due changes (.get key) (.value none)
  | written (now : Instant) (key value : String) : Due changes (.set now key value) .done
  | removed {key value : String} {now : Instant} : LastSet changes key value now →
      Due changes (.remove key) (.removed true)
  | notThere {key : String} : (∀ value now, ¬ LastSet changes key value now) →
      Due changes (.remove key) (.removed false)

def kind (s : Store) : Kind :=
  match s.backend with
  | .memory _ => .memory
  | .database _ => .database

theorem kind_ofKind (kind : Kind) : (ofKind kind).kind = kind := by
  cases kind with
  | memory => rfl
  | database => rfl

/-- When what is under a key was written, if that is recorded. -/
def Kind.writtenAt (kind : Kind) (e : Entries) (key : String) : Option Instant :=
  match kind with
  | .memory => none
  | .database => (e key).map Prod.snd

theorem recorded_eq (s : Store) (e : Entries) (key : String) :
    s.recorded e key = s.kind.writtenAt e key := by
  rw [recorded, kind]
  cases s.backend with
  | memory m => rfl
  | database d => rfl

theorem kind_of_set {s s' : Store} {now : Instant} {key value : String}
    (h : s.set now key value = .ok s') : s'.kind = s.kind := by
  rw [set] at h
  split at h
  · cases hbackend : s.backend with
    | memory m =>
      rw [hbackend] at h
      cases h
      rw [kind, kind, hbackend]
    | database d =>
      rw [hbackend] at h
      dsimp only at h
      cases hset : d.set now key value with
      | ok d' =>
        rw [hset] at h
        cases h
        rw [kind, kind, hbackend]
      | error e =>
        rw [hset] at h
        cases h
  · cases h

theorem kind_of_remove {s s' : Store} {key : String} {wasThere : Bool}
    (h : s.remove key = .ok (wasThere, s')) : s'.kind = s.kind := by
  rw [remove] at h
  split at h
  · cases hbackend : s.backend with
    | memory m =>
      rw [hbackend] at h
      cases h
      rw [kind, kind, hbackend]
    | database d =>
      rw [hbackend] at h
      dsimp only at h
      cases hremove : d.remove key with
      | ok outcome =>
        rw [hremove] at h
        cases h
        rw [kind, kind, hbackend]
      | error e =>
        rw [hremove] at h
        cases h
  · cases h

/-! ### One request -/

/-- The store is online and holds what the changes left. -/
structure Reflects (s : Store) (kind : Kind) (changes : List Change) : Prop where
  online : s.online = true
  kind : s.kind = kind
  holds : s.Holds (.after changes)

variable {s : Store} {kind : Kind} {changes : List Change}

theorem reflects_ofKind (kind : Kind) : (ofKind kind).Reflects kind [] :=
  ⟨online_ofKind kind, kind_ofKind kind, holds_ofKind kind⟩

/-- Any store answers what is due, and goes on reflecting the changes. -/
theorem Reflects.answer (h : s.Reflects kind changes) (request : Request) :
    (∃ reply, (s.answer request).1 = .ok reply ∧ Due changes request reply) ∧
      (s.answer request).2.Reflects kind (changes ++ request.change?.toList) := by
  cases request with
  | get key =>
    refine ⟨⟨.value ((Entries.after changes key).map Prod.fst), ?_, ?_⟩, ?_⟩
    · rw [Store.answer, h.holds.get h.online]
      rfl
    · rcases Entries.after_cases changes key with ⟨value, now, hlast, hentry⟩ | ⟨hnone, hentry⟩
      · rw [hentry]
        exact .found hlast
      · rw [hentry]
        exact .notFound hnone
    · rw [Request.change?, Option.toList_none, List.append_nil]
      exact h
  | set now key value =>
    obtain ⟨s', hset, honline, hholds⟩ := h.holds.set h.online now key value
    rw [Store.answer, hset]
    refine ⟨⟨.done, rfl, .written now key value⟩, honline, (kind_of_set hset).trans h.kind, ?_⟩
    rw [Request.change?, Option.toList_some, Entries.after_concat]
    exact hholds
  | remove key =>
    obtain ⟨s', hremove, honline, hholds⟩ := h.holds.remove h.online key
    rw [Store.answer, hremove]
    refine ⟨⟨_, rfl, ?_⟩, honline, (kind_of_remove hremove).trans h.kind, ?_⟩
    · rcases Entries.after_cases changes key with ⟨value, now, hlast, hentry⟩ | ⟨hnone, hentry⟩
      · rw [hentry]
        exact .removed hlast
      · rw [hentry]
        exact .notThere hnone
    · rw [Request.change?, Option.toList_some, Entries.after_concat]
      exact hholds

theorem Reflects.updatedAt (h : s.Reflects kind changes) (key : String) :
    s.updatedAt key = .ok (kind.writtenAt (.after changes) key) := by
  rw [h.holds.updatedAt h.online, recorded_eq, h.kind]

/-- What is due is settled by the changes. -/
theorem Due.unique {request : Request} {reply reply' : Reply} (h : Due changes request reply)
    (h' : Due changes request reply') : reply = reply' := by
  cases h with
  | found hlast =>
    cases h' with
    | found hlast' => rw [hlast.value_unique hlast']
    | notFound hnone => exact absurd hlast (hnone _ _)
  | notFound hnone =>
    cases h' with
    | found hlast => exact absurd hlast (hnone _ _)
    | notFound => rfl
  | written =>
    cases h'
    rfl
  | removed hlast =>
    cases h' with
    | removed => rfl
    | notThere hnone => exact absurd hlast (hnone _ _)
  | notThere hnone =>
    cases h' with
    | removed hlast => exact absurd hlast (hnone _ _)
    | notThere => rfl

/-- A request leaves alone what it is not to change. -/
theorem Reflects.answer_of_ne (h : s.Reflects kind changes) {request : Request} {key : String}
    (hkey : ∀ change ∈ request.change?, change.key ≠ key) :
    (s.answer request).2.get key = s.get key ∧
      (s.answer request).2.updatedAt key = s.updatedAt key := by
  have h' := (h.answer request).2
  have hentry : Entries.after (changes ++ request.change?.toList) key = Entries.after changes key := by
    cases hchange : request.change? with
    | none => rw [Option.toList_none, List.append_nil]
    | some change =>
      rw [Option.toList_some, Entries.after_concat, Entries.apply_of_ne (hkey change hchange)]
  constructor
  · rw [h'.holds.get h'.online, h.holds.get h.online, hentry]
  · simp only [h'.updatedAt, h.updatedAt, Kind.writtenAt, hentry]

/-! ### Rows of requests -/

/-- A store reflects the changes after any requests. -/
theorem Reflects.asked (h : s.Reflects kind changes) (requests : List Request) :
    (s.asked requests).Reflects kind (changes ++ changesAsked requests) := by
  induction requests generalizing s changes with
  | nil =>
    rw [Store.asked, List.foldl_nil, changesAsked, List.flatMap_nil, List.append_nil]
    exact h
  | cons request requests ih =>
    have hrest := ih (h.answer request).2
    rw [changesAsked, List.flatMap_cons, ← List.append_assoc]
    exact hrest

/-- Stores that reflect the same changes answer the same. -/
theorem Reflects.answers_eq {s' : Store} {kind' : Kind} (h : s.Reflects kind changes)
    (h' : s'.Reflects kind' changes) (requests : List Request) :
    s.answers requests = s'.answers requests := by
  induction requests generalizing s s' changes with
  | nil => rfl
  | cons request requests ih =>
    obtain ⟨⟨reply, hreply, hdue⟩, hnext⟩ := h.answer request
    obtain ⟨⟨reply', hreply', hdue'⟩, hnext'⟩ := h'.answer request
    rw [answers, answers, hreply, hreply', hdue.unique hdue', ih hnext hnext']

/-- A new store in memory and a new database cannot be told apart by setting, getting and removing.
After any requests each answers what is due, changes nothing under another key, and the database tells
when each of its values was written. -/
theorem memory_and_database_interchangeable (requests : List Request) :
    (ofKind .memory).answers requests = (ofKind .database).answers requests ∧
      (∀ kind request,
        (∃ reply, (((ofKind kind).asked requests).answer request).1 = .ok reply ∧
          Due (changesAsked requests) request reply) ∧
        ∀ key, (∀ change ∈ request.change?, change.key ≠ key) →
          (((ofKind kind).asked requests).answer request).2.get key =
              ((ofKind kind).asked requests).get key ∧
            (((ofKind kind).asked requests).answer request).2.updatedAt key =
              ((ofKind kind).asked requests).updatedAt key) ∧
      ∀ key, ((ofKind .memory).asked requests).updatedAt key = .ok none ∧
        ((∀ value now, LastSet (changesAsked requests) key value now →
            ((ofKind .database).asked requests).updatedAt key = .ok (some now)) ∧
          ((∀ value now, ¬ LastSet (changesAsked requests) key value now) →
            ((ofKind .database).asked requests).updatedAt key = .ok none)) := by
  have h (kind : Kind) : ((ofKind kind).asked requests).Reflects kind (changesAsked requests) :=
    (reflects_ofKind kind).asked requests
  refine ⟨(reflects_ofKind .memory).answers_eq (reflects_ofKind .database) requests,
    fun kind request => ⟨((h kind).answer request).1, fun key => (h kind).answer_of_ne⟩,
    fun key => ⟨(h .memory).updatedAt key, fun value now hlast => ?_, fun hnone => ?_⟩⟩
  · rw [(h .database).updatedAt, Kind.writtenAt, Entries.after_eq_some_iff.2 hlast]
    rfl
  · rw [(h .database).updatedAt, Kind.writtenAt]
    rcases Entries.after_cases (changesAsked requests) key with ⟨value, now, hlast, -⟩ | ⟨-, hentry⟩
    · exact absurd hlast (hnone value now)
    · rw [hentry]
      rfl

end WallClock.Store
