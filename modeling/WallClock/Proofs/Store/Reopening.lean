import WallClock.Proofs.Store.Contents

/-!
Opening a database that this or an earlier version of the program has made. What is in it stays, what
lacks a time of writing reads without one, and from then on a database that is up to date can be closed
and opened anywhere between two requests: nothing that is asked of it shows that.
-/

namespace WallClock.Store

/-! ### Rows after changes -/

/-- The row under a key after a change. -/
def Change.rowAfter (key : String) (row : Option Row) : Change → Option Row
  | .set now k value => if k = key then some ⟨.text key, .text value, .text now.text⟩ else row
  | .remove k => if k = key then none else row

theorem Change.rowAfter_of_ne {change : Change} {key : String} (h : change.key ≠ key)
    (row : Option Row) : change.rowAfter key row = row := by
  cases change with
  | set now k value => exact if_neg h
  | remove k => exact if_neg h

def rowAfter (changes : List Change) (key : String) (row : Option Row) : Option Row :=
  changes.foldl (Change.rowAfter key) row

theorem rowAfter_append (changes changes' : List Change) (key : String) (row : Option Row) :
    rowAfter (changes ++ changes') key row = rowAfter changes' key (rowAfter changes key row) :=
  List.foldl_append

theorem rowAfter_of_untouched {changes : List Change} {key : String} (row : Option Row)
    (h : ∀ c ∈ changes, c.key ≠ key) : rowAfter changes key row = row := by
  induction changes with
  | nil => rfl
  | cons change changes ih =>
    have hrest := ih fun c hc => h c (List.mem_cons_of_mem change hc)
    rw [rowAfter, List.foldl_cons, Change.rowAfter_of_ne (h change List.mem_cons_self)]
    exact hrest

theorem rowAfter_of_lastSet {changes : List Change} {key value : String} {now : Instant}
    (row : Option Row) (h : LastSet changes key value now) :
    rowAfter changes key row = some ⟨.text key, .text value, .text now.text⟩ := by
  obtain ⟨before, after, rfl, hafter⟩ := h
  rw [rowAfter_append, rowAfter, List.foldl_cons, Change.rowAfter, if_pos rfl]
  exact rowAfter_of_untouched _ hafter

theorem rowAfter_of_lastRemoved {changes : List Change} {key : String} (row : Option Row)
    (h : LastRemoved changes key) : rowAfter changes key row = none := by
  obtain ⟨before, after, rfl, hafter⟩ := h
  rw [rowAfter_append, rowAfter, List.foldl_cons, Change.rowAfter, if_pos rfl]
  exact rowAfter_of_untouched _ hafter

/-! ### Layouts -/

/-- What a file has that a version of the program made, or was given to it without any content. -/
inductive Layout where
  | blank
  /-- Keys and values only. -/
  | early (pairs : List (Cell × Cell))
  | current (rows : List Row)

/-- The table of an early version. -/
def Table.early (pairs : List (Cell × Cell)) : Table where
  name := preferences
  columns := [⟨keyColumn, false⟩, ⟨valueColumn, false⟩]
  keyed := true
  rows := pairs.map fun (key, value) => ⟨key, value, .null⟩

namespace Layout

def file : Layout → Storage
  | blank => .empty
  | early pairs => .database (some (.early pairs))
  | current rows => .database (some { Table.empty with rows := rows })

/-- The keys that the file has, with their values. -/
def pairs : Layout → List (Cell × Cell)
  | blank => []
  | early pairs => pairs
  | current rows => rows.map fun row => (row.key, row.value)

end Layout

namespace Database

/-- The database has all columns and can be changed, and opening it has nothing to add. -/
structure UpToDate (d : Database) : Prop where
  complete : d.table.Complete
  access : d.access = .full
  notEarly : isEarly d.table = false

/-- The table that opening makes of an early one. -/
def migrated (pairs : List (Cell × Cell)) : Table :=
  { Table.empty with rows := pairs.map fun (key, value) => ⟨key, value, .text ""⟩ }

/-- An early table is given the column for the time of writing, empty in each row. -/
theorem openOn_early (pairs : List (Cell × Cell)) :
    openOn .full (Layout.early pairs).file = .ok (⟨migrated pairs, .full⟩, [.addingUpdatedAt]) := by
  have hrows : (Table.early pairs).rows.map (fun row => { row with updatedAt := Cell.text "" }) =
      (migrated pairs).rows := by
    simp [Table.early, migrated]
  change Except.ok (Database.mk { Table.empty with rows := List.map _ (Table.early pairs).rows } .full,
    [Event.addingUpdatedAt]) = _
  rw [hrows]
  rfl

theorem upToDate_of_rows (rows : List Row) :
    UpToDate ⟨{ Table.empty with rows := rows }, .full⟩ :=
  ⟨Table.complete_empty.of_rows rows, rfl, rfl⟩

/-- Opening a file that the program made, in whatever version, brings it up to date and keeps its keys
and values. -/
theorem openOn_file (layout : Layout) :
    ∃ d events, openOn .full layout.file = .ok (d, events) ∧ d.UpToDate ∧
      d.table.rows.map (fun row => (row.key, row.value)) = layout.pairs := by
  cases layout with
  | blank => exact ⟨_, _, rfl, upToDate_of_rows [], rfl⟩
  | early pairs =>
    refine ⟨_, _, openOn_early pairs, upToDate_of_rows _, ?_⟩
    simp [migrated, Layout.pairs, Function.comp_def]
  | current rows => exact ⟨_, _, rfl, upToDate_of_rows rows, rfl⟩

variable {d d' : Database}

/-- A database that is up to date is opened as it was closed. -/
theorem UpToDate.openOn_storage (h : d.UpToDate) : openOn .full d.storage = .ok (d, []) := by
  rw [storage, openOn, migrate, h.notEarly]
  cases d with
  | mk table access =>
    cases h.access
    rfl

/-! ### Entries of early files -/

theorem row?_migrated (pairs : List (Cell × Cell)) (key : String) :
    (migrated pairs).row? key =
      (pairs.lookup (.text key)).map fun value => ⟨.text key, value, .text ""⟩ := by
  unfold Table.row? migrated
  induction pairs with
  | nil => rfl
  | cons pair pairs ih =>
    obtain ⟨name, value⟩ := pair
    rw [List.map_cons]
    by_cases hname : name = .text key
    · rw [List.find?_cons_of_pos (by simp [hname]), hname, List.lookup_cons_self]
      rfl
    · have hskip : ¬ (name == Cell.text key) = true := mt beq_iff_eq.1 hname
      rw [List.find?_cons_of_neg (p := fun row : Row => row.key == .text key) hskip, ih,
        List.lookup_cons, beq_false_of_ne (Ne.symm hname)]

theorem entry_of_none (h : d.table.Complete) {key : String} (hrow : d.table.row? key = none) :
    d.entry key = .ok none := by
  rw [entry, h.select_of_none hrow]

theorem entry_of_some (h : d.table.Complete) {key value updatedAt : String} {cell : Cell}
    (hrow : d.table.row? key = some ⟨cell, .text value, .text updatedAt⟩) :
    d.entry key = (readUpdatedAt key updatedAt).map fun updatedAt => some ⟨value, updatedAt⟩ := by
  rw [entry, h.select_of_some hrow]

theorem entry_of_no_text (h : d.table.Complete) {key : String} {row : Row}
    (hrow : d.table.row? key = some row) (hvalue : row.value.text? = none) :
    d.entry key = .error (failed "Failed to read preference" (.noText Table.valueColumn)) := by
  rw [entry, Table.select, h.missing?_select, hrow]
  dsimp only
  rw [hvalue]

/-- What is read from a row of an early file: its value, if that is text, without a time of writing. -/
theorem entry_of_early (h : d.table.Complete) {key : String} {value? : Option Cell}
    (hrow : d.table.row? key = value?.map fun value => ⟨.text key, value, .text ""⟩) :
    (∀ entry, d.entry key = .ok (some entry) ↔
        value? = some (.text entry.value) ∧ entry.updatedAt = none) ∧
      (d.entry key = .ok none ↔ value? = none) := by
  cases value? with
  | none =>
    rw [entry_of_none h hrow]
    simp
  | some value =>
    cases value with
    | text value =>
      have hentry : d.entry key = .ok (some ⟨value, none⟩) := entry_of_some h hrow
      rw [hentry]
      refine ⟨fun entry => ⟨?_, ?_⟩, by simp⟩
      · rintro ⟨⟩
        exact ⟨rfl, rfl⟩
      · rcases entry with ⟨value', updatedAt⟩
        rintro ⟨⟨⟩, hnone⟩
        rw [show updatedAt = none from hnone]
    | null | bytes =>
      rw [entry_of_no_text h hrow rfl]
      simp

/-- What is read under a key depends on its row alone. -/
theorem entry_congr (h : d.table.Complete) (h' : d'.table.Complete) {key : String}
    (hrow : d'.table.row? key = d.table.row? key) : d'.entry key = d.entry key := by
  rw [entry, entry, Table.select, Table.select, h.missing?_select, h'.missing?_select, hrow]

/-! ### Steps -/

inductive Query where
  | get (key : String)
  | entry (key : String)
  | set (now : Instant) (key value : String)
  | delete (key : String)

inductive Answer where
  | value (value : Option String)
  | entry (entry : Option Entry)
  | done
  | removed (wasThere : Bool)

def Query.change? : Query → Option Change
  | set now key value => some (.set now key value)
  | delete key => some (.remove key)
  | _ => none

/-- Answers a query. A failure leaves the database as it was. -/
def ask (d : Database) : Query → Except Error Answer × Database
  | .get key => ((d.get key).map .value, d)
  | .entry key => ((d.entry key).map .entry, d)
  | .set now key value =>
      match d.set now key value with
      | .ok changed => (.ok .done, changed)
      | .error e => (.error e, d)
  | .delete key =>
      match d.remove key with
      | .ok (wasThere, changed) => (.ok (.removed wasThere), changed)
      | .error e => (.error e, d)

inductive Step where
  | ask (query : Query)
  /-- The database is closed, and what it was kept in is opened again. -/
  | reopen

def Step.query? : Step → Option Query
  | ask query => some query
  | reopen => none

/-- The answers to the queries among steps, and the database after them. A database that cannot be
opened again ends them. -/
def session (d : Database) : List Step → List (Except Error Answer) × Except Error Database
  | [] => ([], .ok d)
  | .ask query :: rest =>
      let (answers, last) := session (d.ask query).2 rest
      ((d.ask query).1 :: answers, last)
  | .reopen :: rest =>
      match openOn .full d.storage with
      | .ok (opened, _) => session opened rest
      | .error e => ([], .error e)

/-- The steps without those that open the database again. -/
def withoutReopening (steps : List Step) : List Step :=
  steps.filter fun step => step.query?.isSome

/-- The changes that steps are for. -/
def changesOf (steps : List Step) : List Change :=
  steps.flatMap fun step => (step.query?.bind Query.change?).toList

theorem UpToDate.of_rows (h : d.UpToDate) (rows : List Row) :
    UpToDate { d with table := { d.table with rows := rows } } :=
  ⟨h.complete.of_rows rows, h.access, h.notEarly⟩

/-- A query makes the change that it is for, and the database stays up to date. -/
theorem UpToDate.ask (h : d.UpToDate) (query : Query) :
    (d.ask query).2.UpToDate ∧ ∀ key, (d.ask query).2.table.row? key =
      rowAfter query.change?.toList key (d.table.row? key) := by
  cases query with
  | get | entry => exact ⟨h, fun _ => rfl⟩
  | set now key value =>
    rw [Database.ask, set_eq h.complete h.access]
    refine ⟨h.of_rows _, fun k => ?_⟩
    rw [Table.row?_upserted]
    by_cases hk : k = key
    · subst hk
      simp [Query.change?, rowAfter, Change.rowAfter]
    · simp [Query.change?, rowAfter, Change.rowAfter, hk, Ne.symm hk]
  | delete key =>
    rw [Database.ask, remove_eq h.complete h.access]
    refine ⟨h.of_rows _, fun k => ?_⟩
    rw [Table.row?_filter]
    by_cases hk : k = key
    · subst hk
      simp [Query.change?, rowAfter, Change.rowAfter]
    · simp [Query.change?, rowAfter, Change.rowAfter, hk, Ne.symm hk]

/-- Opening once more in the middle of a session changes none of its answers. -/
theorem UpToDate.session_reopen (h : d.UpToDate) (steps : List Step) :
    d.session (.reopen :: steps) = d.session steps := by
  rw [session, h.openOn_storage]

/-- Wherever the database is opened again, the session goes on as if it had not been. -/
theorem UpToDate.session_withoutReopening (h : d.UpToDate) (steps : List Step) :
    d.session steps = d.session (withoutReopening steps) := by
  induction steps generalizing d with
  | nil => rfl
  | cons step steps ih =>
    cases step with
    | ask query =>
      change _ = d.session (.ask query :: withoutReopening steps)
      rw [session, session, ih (h.ask query).1]
    | reopen =>
      rw [h.session_reopen]
      exact ih h

/-- A session comes to an end, and leaves rows that the changes of its steps account for. -/
theorem UpToDate.session (h : d.UpToDate) (steps : List Step) :
    ∃ d', (d.session steps).2 = .ok d' ∧ d'.UpToDate ∧
      ∀ key, d'.table.row? key = rowAfter (changesOf steps) key (d.table.row? key) := by
  induction steps generalizing d with
  | nil => exact ⟨d, rfl, h, fun _ => rfl⟩
  | cons step steps ih =>
    cases step with
    | ask query =>
      obtain ⟨hnext, hrow⟩ := h.ask query
      obtain ⟨d', hsession, hd', hrows⟩ := ih hnext
      refine ⟨d', hsession, hd', fun key => ?_⟩
      rw [hrows, hrow, ← rowAfter_append]
      rfl
    | reopen =>
      rw [h.session_reopen]
      exact ih h

/-- Whatever version made the file of a database: opening it loses no key and no value, of an early file
every value is read without a time of writing, and opening it again changes nothing. Opening it again
between the steps of a session changes no answer; what a session sets has its time of writing, what it
deletes is gone, and what it leaves alone reads as before. -/
theorem reopening_unseen (layout : Layout) (steps : List Step) :
    ∃ d events, openOn .full layout.file = .ok (d, events) ∧
      d.table.rows.map (fun row => (row.key, row.value)) = layout.pairs ∧
      (∀ pairs, layout = .early pairs → ∀ key,
        (∀ entry, d.entry key = .ok (some entry) ↔
            pairs.lookup (.text key) = some (.text entry.value) ∧ entry.updatedAt = none) ∧
          (d.entry key = .ok none ↔ pairs.lookup (.text key) = none)) ∧
      openOn .full d.storage = .ok (d, []) ∧
      d.session steps = d.session (withoutReopening steps) ∧
      ∃ d', (d.session steps).2 = .ok d' ∧ openOn .full d'.storage = .ok (d', []) ∧
        ∀ key,
          (∀ value now, LastSet (changesOf steps) key value now →
            d'.entry key = .ok (some ⟨value, some now⟩)) ∧
          (LastRemoved (changesOf steps) key → d'.entry key = .ok none) ∧
          ((∀ c ∈ changesOf steps, c.key ≠ key) → d'.entry key = d.entry key) := by
  obtain ⟨d, events, hopen, hd, hpairs⟩ := openOn_file layout
  obtain ⟨d', hsession, hd', hrows⟩ := hd.session steps
  refine ⟨d, events, hopen, hpairs, fun pairs hearly key => ?_, hd.openOn_storage,
    hd.session_withoutReopening steps, d', hsession, hd'.openOn_storage, fun key => ⟨?_, ?_, ?_⟩⟩
  · subst hearly
    rw [openOn_early] at hopen
    cases hopen
    exact entry_of_early hd.complete (row?_migrated pairs key)
  · intro value now hlast
    have hrow := hrows key
    rw [rowAfter_of_lastSet _ hlast] at hrow
    rw [entry_of_some hd'.complete hrow, readUpdatedAt_text]
    rfl
  · intro hlast
    have hrow := hrows key
    rw [rowAfter_of_lastRemoved _ hlast] at hrow
    exact entry_of_none hd'.complete hrow
  · intro huntouched
    have hrow := hrows key
    rw [rowAfter_of_untouched _ huntouched] at hrow
    exact entry_congr hd.complete hd'.complete hrow

end Database

end WallClock.Store
