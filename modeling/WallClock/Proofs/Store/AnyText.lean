import Mathlib.Data.List.Nodup
import WallClock.Proofs.Store.Reopening

/-!
Tables of the current layout with any texts in them. A value can be read unless the time of its writing is
neither empty nor a timestamp, and whoever asks for the value, for the entry or for the time fails on the
same keys. Writing under a key makes it readable, whatever was there, and touches no other row.
-/

namespace WallClock.Store

/-- A row of a table of the current layout. -/
structure TextRow where
  key : String
  value : String
  updatedAt : String
deriving DecidableEq

namespace TextRow

def row (r : TextRow) : Row :=
  ⟨.text r.key, .text r.value, .text r.updatedAt⟩

/-- The time of writing is neither empty nor a timestamp. -/
def Illegible (r : TextRow) : Prop :=
  r.updatedAt ≠ "" ∧ Instant.read? r.updatedAt.toList = none

/-- The time of writing, if there is one. -/
def time? (r : TextRow) : Option Instant :=
  if r.updatedAt = "" then none else Instant.read? r.updatedAt.toList

theorem readUpdatedAt_of_illegible {r : TextRow} (h : r.Illegible) :
    ∃ e, Database.readUpdatedAt r.key r.updatedAt = .error e := by
  rw [Database.readUpdatedAt, if_neg h.1, h.2]
  exact ⟨_, rfl⟩

theorem readUpdatedAt_of_legible {r : TextRow} (h : ¬ r.Illegible) :
    Database.readUpdatedAt r.key r.updatedAt = .ok r.time? := by
  rw [Database.readUpdatedAt, time?]
  split
  · rfl
  · rename_i hne
    cases hread : Instant.read? r.updatedAt.toList with
    | some i => rfl
    | none => exact absurd ⟨hne, hread⟩ h

theorem time?_isSome_iff {r : TextRow} (h : ¬ r.Illegible) : r.time?.isSome = true ↔ r.updatedAt ≠ "" := by
  rw [time?]
  split
  · rename_i hempty
    exact iff_of_false Bool.false_ne_true fun hne => hne hempty
  · rename_i hne
    refine iff_of_true ?_ hne
    rw [Option.isSome_iff_ne_none]
    exact fun hread => h ⟨hne, hread⟩

/-- The rows with this one in the place of the row that had its key, or else at the end. -/
def put (r : TextRow) : List TextRow → List TextRow
  | [] => [r]
  | first :: rest => if first.key = r.key then r :: rest else first :: put r rest

theorem upserted_map_row (r : TextRow) (rows : List TextRow) :
    Table.upserted r.key r.value r.updatedAt (rows.map row) = (r.put rows).map row := by
  induction rows with
  | nil => rfl
  | cons first rest ih =>
    rw [List.map_cons, Table.upserted, put]
    by_cases hkey : first.key = r.key
    · have hcell : first.row.key = .text r.key := congrArg Cell.text hkey
      rw [if_pos hkey, if_pos hcell]
      rfl
    · have hcell : first.row.key ≠ .text r.key := fun h => hkey (Cell.text.inj h)
      rw [if_neg hkey, if_neg hcell, ih]
      rfl

theorem mem_put_self (r : TextRow) (rows : List TextRow) : r ∈ r.put rows := by
  induction rows with
  | nil => exact List.mem_singleton_self r
  | cons first rest ih =>
    rw [put]
    split
    · exact List.mem_cons_self
    · exact List.mem_cons_of_mem first ih

theorem filter_put (r : TextRow) (rows : List TextRow) :
    (r.put rows).filter (fun other => other.key ≠ r.key) =
      rows.filter fun other => other.key ≠ r.key := by
  induction rows with
  | nil => simp [put]
  | cons first rest ih =>
    rw [put]
    by_cases hkey : first.key = r.key
    · simp [hkey]
    · simp only [if_neg hkey, List.filter_cons, ih]

/-- A row takes the place of the one with its key, or comes last. -/
theorem keys_put (r : TextRow) (rows : List TextRow) :
    (r.put rows).map key =
      if r.key ∈ rows.map key then rows.map key else rows.map key ++ [r.key] := by
  induction rows with
  | nil => rfl
  | cons first rest ih =>
    rw [put]
    by_cases hkey : first.key = r.key
    · simp [hkey]
    · rw [if_neg hkey, List.map_cons, List.map_cons, ih]
      by_cases hmem : r.key ∈ rest.map key
      · rw [if_pos hmem, if_pos (List.mem_cons_of_mem first.key hmem)]
      · have hout : r.key ∉ first.key :: rest.map key := List.not_mem_cons_of_ne_of_not_mem (Ne.symm hkey) hmem
        rw [if_neg hmem, if_neg hout, List.cons_append]

end TextRow

/-- What a table of the current layout has when all its cells are texts. -/
structure TextTable where
  rows : List TextRow
  distinct : (rows.map TextRow.key).Nodup

namespace TextTable

def table (t : TextTable) : Table :=
  { Table.empty with rows := t.rows.map TextRow.row }

/-- The database whose table this is. -/
def database (t : TextTable) (a : Access) : Database :=
  ⟨t.table, a⟩

/-- The row under the key has a time of writing that cannot be read. -/
def Unreadable (t : TextTable) (key : String) : Prop :=
  ∃ r ∈ t.rows, r.key = key ∧ r.Illegible

/-- The table with a row written into it. -/
def write (t : TextTable) (r : TextRow) : TextTable where
  rows := r.put t.rows
  distinct := by
    rw [TextRow.keys_put]
    split
    · exact t.distinct
    · rename_i hout
      rw [← List.concat_eq_append]
      exact t.distinct.concat hout

variable {t : TextTable} {a : Access}

/-- A database of this layout opens as it is. -/
theorem openOn_table (t : TextTable) (a : Access) :
    Database.openOn a (.database (some t.table)) = .ok (t.database a, []) := rfl

theorem complete_table (t : TextTable) : t.table.Complete :=
  Table.complete_empty.of_rows _

/-- No two rows have the same key. -/
theorem eq_of_key_eq {r r' : TextRow} (h : r ∈ t.rows) (h' : r' ∈ t.rows) (hkey : r.key = r'.key) :
    r = r' :=
  List.inj_on_of_nodup_map t.distinct h h' hkey

theorem row?_table (t : TextTable) (key : String) :
    t.table.row? key = (t.rows.find? fun r => r.key == key).map TextRow.row := by
  have hkey : (fun row => row.key == Cell.text key) ∘ TextRow.row = fun r => r.key == key := by
    funext r
    rw [Bool.eq_iff_iff, beq_iff_eq, Function.comp_apply, beq_iff_eq]
    exact ⟨Cell.text.inj, congrArg Cell.text⟩
  rw [Table.row?, table, List.find?_map, hkey]

theorem find?_eq_some_iff {key : String} {r : TextRow} :
    (t.rows.find? fun r => r.key == key) = some r ↔ r ∈ t.rows ∧ r.key = key := by
  have hfound : ∀ {other}, (t.rows.find? fun r => r.key == key) = some other →
      other ∈ t.rows ∧ other.key = key := fun h =>
    ⟨List.mem_of_find?_eq_some h, by simpa using List.find?_some h⟩
  refine ⟨hfound, ?_⟩
  rintro ⟨hr, rfl⟩
  cases hfind : t.rows.find? fun other => other.key == r.key with
  | none => exact absurd (beq_self_eq_true r.key) (List.find?_eq_none.1 hfind r hr)
  | some other =>
    obtain ⟨hother, hkey⟩ := hfound hfind
    rw [eq_of_key_eq hother hr hkey]

theorem row?_of_mem {r : TextRow} (h : r ∈ t.rows) : t.table.row? r.key = some r.row := by
  rw [row?_table, find?_eq_some_iff.2 ⟨h, rfl⟩]
  rfl

/-! ### Reading -/

theorem entry_of_mem {r : TextRow} (h : r ∈ t.rows) :
    (t.database a).entry r.key =
      (Database.readUpdatedAt r.key r.updatedAt).map fun time => some ⟨r.value, time⟩ :=
  Database.entry_of_some t.complete_table (row?_of_mem h)

/-- There is nothing under a key without a row. -/
theorem entry_of_absent {key : String} (h : ∀ r ∈ t.rows, r.key ≠ key) :
    (t.database a).entry key = .ok none := by
  apply Database.entry_of_none t.complete_table
  change t.table.row? key = none
  rw [row?_table, Option.map_eq_none_iff, List.find?_eq_none]
  exact fun r hr => by simp [h r hr]

theorem entry_of_legible {r : TextRow} (h : r ∈ t.rows) (hlegible : ¬ r.Illegible) :
    (t.database a).entry r.key = .ok (some ⟨r.value, r.time?⟩) := by
  rw [entry_of_mem h, TextRow.readUpdatedAt_of_legible hlegible]
  rfl

/-- What reading the entry under a key comes to. -/
theorem entry_cases (t : TextTable) (a : Access) (key : String) :
    (∃ r ∈ t.rows, r.key = key ∧ r.Illegible ∧ ∃ e, (t.database a).entry key = .error e) ∨
    (∃ r ∈ t.rows, r.key = key ∧ ¬ r.Illegible ∧
      (t.database a).entry key = .ok (some ⟨r.value, r.time?⟩)) ∨
    ((∀ r ∈ t.rows, r.key ≠ key) ∧ (t.database a).entry key = .ok none) := by
  by_cases hmem : ∃ r ∈ t.rows, r.key = key
  · obtain ⟨r, hr, rfl⟩ := hmem
    by_cases hillegible : r.Illegible
    · obtain ⟨e, he⟩ := TextRow.readUpdatedAt_of_illegible hillegible
      refine Or.inl ⟨r, hr, rfl, hillegible, e, ?_⟩
      rw [entry_of_mem hr, he]
      rfl
    · exact Or.inr (Or.inl ⟨r, hr, rfl, hillegible, entry_of_legible hr hillegible⟩)
  · have habsent : ∀ r ∈ t.rows, r.key ≠ key := fun r hr heq => hmem ⟨r, hr, heq⟩
    exact Or.inr (Or.inr ⟨habsent, entry_of_absent habsent⟩)

/-- Reading fails by the time of writing alone. -/
theorem entry_fails_iff {key : String} :
    (∃ e, (t.database a).entry key = .error e) ↔ t.Unreadable key := by
  rcases t.entry_cases a key with ⟨r, hr, hkey, hillegible, hentry⟩ |
    ⟨r, hr, hkey, hlegible, hentry⟩ | ⟨habsent, hentry⟩
  · exact iff_of_true hentry ⟨r, hr, hkey, hillegible⟩
  · refine iff_of_false (fun ⟨e, he⟩ => nomatch hentry.symm.trans he) ?_
    rintro ⟨r', hr', hkey', hillegible⟩
    rw [eq_of_key_eq hr hr' (hkey.trans hkey'.symm)] at hlegible
    exact hlegible hillegible
  · refine iff_of_false (fun ⟨e, he⟩ => nomatch hentry.symm.trans he) ?_
    rintro ⟨r, hr, hkey, -⟩
    exact habsent r hr hkey

/-- What is made of an entry fails when the entry cannot be read, and never otherwise. -/
theorem map_entry_fails_iff {α : Type} (f : Option Entry → α) {key : String} :
    (∃ e, ((t.database a).entry key).map f = .error e) ↔ t.Unreadable key := by
  rw [← entry_fails_iff (a := a)]
  cases (t.database a).entry key with
  | ok entry => exact iff_of_false (fun ⟨e, he⟩ => nomatch he) fun ⟨e, he⟩ => nomatch he
  | error e => exact iff_of_true ⟨e, rfl⟩ ⟨e, rfl⟩

/-! ### Writing -/

/-- Writing needs to read nothing, so no row makes it fail. -/
theorem set_table (t : TextTable) (a : Access) (now : Instant) (key value : String) :
    (t.database a).set now key value =
      match a.refusal? true with
      | none => .ok ((t.write ⟨key, value, now.text⟩).database a)
      | some refusal => .error (Database.failed "Failed to store preference" refusal) := by
  have hrows : Table.upserted key value now.text t.table.rows =
      (TextRow.put ⟨key, value, now.text⟩ t.rows).map TextRow.row :=
    TextRow.upserted_map_row ⟨key, value, now.text⟩ t.rows
  have hupsert : t.table.upsert key value now.text = .ok (t.write ⟨key, value, now.text⟩).table := by
    rw [t.complete_table.upsert_eq, hrows]
    rfl
  rw [Database.set, database, hupsert]
  dsimp only
  cases a.refusal? true with
  | none => rfl
  | some refusal => rfl

/-- What was written is read, whatever was there before. -/
theorem entry_write (t : TextTable) (a : Access) (now : Instant) (key value : String) :
    ((t.write ⟨key, value, now.text⟩).database a).entry key = .ok (some ⟨value, some now⟩) := by
  have hmem : ⟨key, value, now.text⟩ ∈ (t.write ⟨key, value, now.text⟩).rows :=
    TextRow.mem_put_self ⟨key, value, now.text⟩ t.rows
  rw [entry_of_mem hmem, Database.readUpdatedAt_text]
  rfl

end TextTable

end WallClock.Store
