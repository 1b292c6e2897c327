import WallClock.Store
import WallClock.Proofs.Instant.RoundTrip
import WallClock.Proofs.Store.Changes

/-!
What stores hold. A memory and a database that were new hold the entries that the changes made to them
left; each operation is specified by the entries that it answers from and leaves.
-/

namespace WallClock.Store

/-! ### Memory -/

namespace Memory

theorem lookup_cons_eq (key value k : String) (pairs : List (String × String)) :
    ((key, value) :: pairs).lookup k = if k = key then some value else pairs.lookup k := by
  rw [List.lookup_cons]
  by_cases hk : k = key
  · rw [if_pos hk, hk, beq_self_eq_true]
  · rw [if_neg hk, beq_false_of_ne hk]

theorem get_without (m : Memory) (key k : String) :
    (m.without key).get k = if k = key then none else m.get k := by
  unfold get without
  generalize m.pairs = pairs
  induction pairs with
  | nil => simp
  | cons pair pairs ih =>
    obtain ⟨name, value⟩ := pair
    by_cases hname : name = key
    · rw [List.filter_cons_of_neg (by simp [hname]), ih, lookup_cons_eq, hname]
      by_cases hk : k = key
      · rw [if_pos hk, if_pos hk]
      · rw [if_neg hk, if_neg hk, if_neg hk]
    · rw [List.filter_cons_of_pos (by simp [hname]), lookup_cons_eq, lookup_cons_eq, ih]
      by_cases hk : k = key
      · rw [if_pos hk, if_pos hk, if_neg fun h => hname (h.symm.trans hk)]
      · rw [if_neg hk, if_neg hk]

/-- What is put under a key is found there, and the rest stays. -/
theorem get_set (m : Memory) (key value k : String) :
    (m.set key value).get k = if k = key then some value else m.get k := by
  have h : (m.set key value).get k = if k = key then some value else (m.without key).get k :=
    lookup_cons_eq key value k _
  rw [h, get_without]
  by_cases hk : k = key
  · rw [if_pos hk, if_pos hk]
  · rw [if_neg hk, if_neg hk, if_neg hk]

/-- The memory has the values of the entries. Times of writing are not kept. -/
def Holds (m : Memory) (e : Entries) : Prop :=
  ∀ key, m.get key = (e key).map Prod.fst

/-- Writing keeps the store in step with its entries. -/
theorem Holds.set {m : Memory} {e : Entries} (h : m.Holds e) (now : Instant) (key value : String) :
    (m.set key value).Holds (e.apply (.set now key value)) := by
  intro k
  rw [get_set, h k, Entries.apply_set, apply_ite (Option.map Prod.fst)]
  rfl

theorem Holds.without {m : Memory} {e : Entries} (h : m.Holds e) (key : String) :
    (m.without key).Holds (e.apply (.remove key)) := by
  intro k
  rw [get_without, h k, Entries.apply_remove, apply_ite (Option.map Prod.fst)]
  rfl

end Memory

/-! ### Tables -/

namespace Table

/-- A table with all its columns, in which a row can take the place of another. -/
structure Complete (t : Table) : Prop where
  key : t.finds keyColumn = true
  value : t.finds valueColumn = true
  updatedAt : t.finds updatedAtColumn = true
  keyed : t.keyed = true

theorem complete_empty : Table.empty.Complete := by
  constructor <;> rfl

theorem missing?_eq_none {t : Table} {columns : List String}
    (h : ∀ column ∈ columns, t.finds column = true) : t.missing? columns = none := by
  rw [missing?, List.find?_eq_none]
  intro column hcolumn
  rw [h column hcolumn]
  exact Bool.false_ne_true

variable {t : Table}

/-- A table with all its columns takes any row. -/
theorem Complete.upsert_eq (h : t.Complete) (key value updatedAt : String) :
    t.upsert key value updatedAt = .ok { t with rows := upserted key value updatedAt t.rows } := by
  have hmissing : t.missing? [keyColumn, valueColumn, updatedAtColumn] = none := by
    apply missing?_eq_none
    simp [h.key, h.value, h.updatedAt]
  rw [upsert, hmissing]
  exact if_pos h.keyed

theorem Complete.delete_eq (h : t.Complete) (key : String) :
    t.delete key =
      .ok ((t.row? key).isSome, { t with rows := t.rows.filter fun row => row.key != .text key }) :=
  if_pos h.key

theorem Complete.missing?_select (h : t.Complete) :
    t.missing? [valueColumn, updatedAtColumn, keyColumn] = none := by
  apply missing?_eq_none
  simp [h.key, h.value, h.updatedAt]

theorem Complete.select_of_none (h : t.Complete) {key : String} (hrow : t.row? key = none) :
    t.select key = .ok none := by
  rw [select, h.missing?_select, hrow]

theorem Complete.select_of_some (h : t.Complete) {key value updatedAt : String} {cell : Cell}
    (hrow : t.row? key = some ⟨cell, .text value, .text updatedAt⟩) :
    t.select key = .ok (some (value, updatedAt)) := by
  rw [select, h.missing?_select, hrow]
  rfl

theorem find?_upserted_self (key value updatedAt : String) (rows : List Row) :
    (upserted key value updatedAt rows).find? (fun row => row.key == .text key) =
      some ⟨.text key, .text value, .text updatedAt⟩ := by
  induction rows with
  | nil => exact List.find?_cons_of_pos (beq_self_eq_true (Cell.text key))
  | cons row rows ih =>
    rw [upserted]
    by_cases hrow : row.key = .text key
    · rw [if_pos hrow]
      exact List.find?_cons_of_pos (beq_self_eq_true (Cell.text key))
    · have hskip : ¬ (row.key == Cell.text key) = true := mt beq_iff_eq.1 hrow
      rw [if_neg hrow, List.find?_cons_of_neg (p := fun row : Row => row.key == .text key) hskip, ih]

theorem find?_upserted_of_ne {key k : String} (h : k ≠ key) (value updatedAt : String)
    (rows : List Row) :
    (upserted key value updatedAt rows).find? (fun row => row.key == .text k) =
      rows.find? fun row => row.key == .text k := by
  have hcell : ¬ (Cell.text key == Cell.text k) = true := by
    rw [beq_iff_eq, Cell.text.injEq]
    exact Ne.symm h
  induction rows with
  | nil => exact List.find?_cons_of_neg hcell
  | cons row rows ih =>
    rw [upserted]
    by_cases hrow : row.key = .text key
    · have hskip : ¬ (row.key == Cell.text k) = true := by rwa [hrow]
      rw [if_pos hrow, List.find?_cons_of_neg (p := fun row : Row => row.key == .text k) hcell,
        List.find?_cons_of_neg (p := fun row : Row => row.key == .text k) hskip]
    · rw [if_neg hrow, List.find?_cons, List.find?_cons, ih]

/-- A row that is written is the first one found under its key, and the rest stays. -/
theorem row?_upserted (t : Table) (key value updatedAt k : String) :
    Table.row? { t with rows := upserted key value updatedAt t.rows } k =
      if k = key then some ⟨.text key, .text value, .text updatedAt⟩ else t.row? k := by
  by_cases hk : k = key
  · rw [if_pos hk, hk]
    exact find?_upserted_self key value updatedAt t.rows
  · rw [if_neg hk]
    exact find?_upserted_of_ne hk value updatedAt t.rows

theorem row?_filter (t : Table) (key k : String) :
    Table.row? { t with rows := t.rows.filter fun row => row.key != .text key } k =
      if k = key then none else t.row? k := by
  rw [row?, row?, List.find?_filter]
  by_cases hk : k = key
  · rw [if_pos hk, hk, List.find?_eq_none]
    simp
  · rw [if_neg hk]
    congr 1
    funext row
    by_cases hrow : row.key = .text k
    · simp [hrow, hk]
    · simp [hrow]

theorem Complete.of_rows (h : t.Complete) (rows : List Row) : Complete { t with rows := rows } :=
  ⟨h.key, h.value, h.updatedAt, h.keyed⟩

end Table

/-! ### Databases -/

namespace Database

theorem readUpdatedAt_text (key : String) (i : Instant) : readUpdatedAt key i.text = .ok (some i) := by
  have hread := i.read?_text
  have hne : i.text ≠ "" := by
    intro h
    rw [h] at hread
    cases hread
  rw [readUpdatedAt, if_neg hne, hread]

/-- The rows of the database are the entries, with their times of writing as timestamps, and it can
be changed. -/
structure Holds (d : Database) (e : Entries) : Prop where
  complete : d.table.Complete
  access : d.access = .full
  row : ∀ key, d.table.row? key =
    (e key).map fun entry => ⟨.text key, .text entry.1, .text entry.2.text⟩

variable {d : Database} {e : Entries}

theorem set_eq (h : d.table.Complete) (haccess : d.access = .full) (now : Instant)
    (key value : String) :
    d.set now key value =
      .ok { d with table := { d.table with
        rows := Table.upserted key value now.text d.table.rows } } := by
  rw [Database.set, h.upsert_eq, haccess]
  rfl

theorem remove_eq (h : d.table.Complete) (haccess : d.access = .full) (key : String) :
    d.remove key =
      .ok ((d.table.row? key).isSome, { d with table := { d.table with
        rows := d.table.rows.filter fun row => row.key != .text key } }) := by
  rw [Database.remove, h.delete_eq, haccess]
  rfl

theorem holds_inMemory : inMemory.Holds .empty :=
  ⟨Table.complete_empty, rfl, fun _ => rfl⟩

theorem Holds.entry (h : d.Holds e) (key : String) :
    d.entry key = .ok ((e key).map fun entry => ⟨entry.1, some entry.2⟩) := by
  have hrow := h.row key
  rw [Database.entry]
  cases hentry : e key with
  | none =>
    rw [hentry] at hrow
    rw [h.complete.select_of_none hrow]
    rfl
  | some entry =>
    rw [hentry] at hrow
    rw [h.complete.select_of_some hrow]
    dsimp only
    rw [readUpdatedAt_text]
    rfl

theorem Holds.get (h : d.Holds e) (key : String) : d.get key = .ok ((e key).map Prod.fst) := by
  rw [Database.get, h.entry]
  cases e key with
  | none => rfl
  | some entry => rfl

theorem Holds.set (h : d.Holds e) (now : Instant) (key value : String) :
    ∃ d', d.set now key value = .ok d' ∧ d'.Holds (e.apply (.set now key value)) := by
  refine ⟨_, set_eq h.complete h.access now key value, h.complete.of_rows _, h.access, fun k => ?_⟩
  rw [Table.row?_upserted, h.row, Entries.apply_set]
  by_cases hk : k = key
  · rw [if_pos hk, if_pos hk, hk]
    rfl
  · rw [if_neg hk, if_neg hk]

/-- Removing keeps the store in step with its entries and answers whether there was one. -/
theorem Holds.remove (h : d.Holds e) (key : String) :
    ∃ d', d.remove key = .ok ((e key).isSome, d') ∧ d'.Holds (e.apply (.remove key)) := by
  have hremove := remove_eq h.complete h.access key
  rw [h.row, Option.isSome_map] at hremove
  refine ⟨_, hremove, h.complete.of_rows _, h.access, fun k => ?_⟩
  rw [Table.row?_filter, h.row, Entries.apply_remove]
  by_cases hk : k = key
  · rw [if_pos hk, if_pos hk]
    rfl
  · rw [if_neg hk, if_neg hk]

end Database

/-! ### Stores -/

/-- The store has the entries, wherever it keeps them. -/
def Holds (s : Store) (e : Entries) : Prop :=
  match s.backend with
  | .memory m => m.Holds e
  | .database d => d.Holds e

variable {s : Store} {e : Entries}

inductive Kind where
  | memory
  | database

/-- A new store, which is online. -/
def ofKind : Kind → Store
  | .memory => .inMemory
  | .database => .ofDatabase .inMemory

theorem holds_ofKind (kind : Kind) : (ofKind kind).Holds .empty := by
  cases kind with
  | memory => exact fun _ => rfl
  | database => exact Database.holds_inMemory

theorem online_ofKind (kind : Kind) : (ofKind kind).online = true := by
  cases kind with
  | memory => rfl
  | database => rfl

theorem get_of_offline (h : s.online = false) (key : String) : s.get key = .error offline := by
  rw [get, h]
  rfl

theorem set_of_offline (h : s.online = false) (now : Instant) (key value : String) :
    s.set now key value = .error offline := by
  rw [set, h]
  rfl

theorem remove_of_offline (h : s.online = false) (key : String) : s.remove key = .error offline := by
  rw [remove, h]
  rfl

theorem updatedAt_of_offline (h : s.online = false) (key : String) :
    s.updatedAt key = .error offline := by
  rw [updatedAt, h]
  rfl

theorem Holds.get (h : s.Holds e) (honline : s.online = true) (key : String) :
    s.get key = .ok ((e key).map Prod.fst) := by
  rw [Store.get, if_pos honline]
  unfold Holds at h
  cases hbackend : s.backend with
  | memory m =>
    rw [hbackend] at h
    exact congrArg Except.ok (h key)
  | database d =>
    rw [hbackend] at h
    exact Database.Holds.get h key

/-- Only a database records when a value was written. -/
def recorded (s : Store) (e : Entries) (key : String) : Option Instant :=
  match s.backend with
  | .memory _ => none
  | .database _ => (e key).map Prod.snd

theorem Holds.updatedAt (h : s.Holds e) (honline : s.online = true) (key : String) :
    s.updatedAt key = .ok (s.recorded e key) := by
  rw [Store.updatedAt, if_pos honline, recorded]
  unfold Holds at h
  cases hbackend : s.backend with
  | memory m => rfl
  | database d =>
    rw [hbackend] at h
    dsimp only
    rw [Database.Holds.entry h]
    cases e key with
    | none => rfl
    | some entry => rfl

theorem Holds.set (h : s.Holds e) (honline : s.online = true) (now : Instant) (key value : String) :
    ∃ s', s.set now key value = .ok s' ∧ s'.online = true ∧
      s'.Holds (e.apply (.set now key value)) := by
  rw [Store.set, if_pos honline]
  unfold Holds at h
  cases hbackend : s.backend with
  | memory m =>
    rw [hbackend] at h
    exact ⟨_, rfl, honline, Memory.Holds.set h now key value⟩
  | database d =>
    rw [hbackend] at h
    obtain ⟨d', hset, hholds⟩ := Database.Holds.set h now key value
    refine ⟨{ s with backend := .database d' }, ?_, honline, hholds⟩
    simp only [hset]
    rfl

theorem Holds.remove (h : s.Holds e) (honline : s.online = true) (key : String) :
    ∃ s', s.remove key = .ok ((e key).isSome, s') ∧ s'.online = true ∧
      s'.Holds (e.apply (.remove key)) := by
  rw [Store.remove, if_pos honline]
  unfold Holds at h
  cases hbackend : s.backend with
  | memory m =>
    rw [hbackend] at h
    refine ⟨{ s with backend := .memory (m.without key) }, ?_, honline, Memory.Holds.without h key⟩
    simp only [Memory.remove, h key, Option.isSome_map]
  | database d =>
    rw [hbackend] at h
    obtain ⟨d', hremove, hholds⟩ := Database.Holds.remove h key
    refine ⟨{ s with backend := .database d' }, ?_, honline, hholds⟩
    simp only [hremove]
    rfl

end WallClock.Store
