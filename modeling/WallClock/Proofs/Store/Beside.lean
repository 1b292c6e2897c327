import WallClock.Proofs.Files.Tree
import WallClock.Store.Beside

/-!
What stands beside the file of a database. When a database is new, whatever an earlier one has left beside
it either keeps the new one from being changed or is cleared away, and nothing else is.
-/

namespace WallClock.Store

variable {l : Location} {files files' : Files} {place : Files.Place}

/-! ### Places beside a database -/

/-- Files beside a database are told apart by their endings. -/
theorem beside_ne {ending ending' : String} (hplace : place ≠ [])
    (h : Text.bytes ending.toList ≠ Text.bytes ending'.toList) :
    beside ending place ≠ beside ending' place := by
  cases place with
  | nil => exact absurd rfl hplace
  | cons name outer =>
    intro heq
    exact h (List.append_cancel_left (List.cons.inj heq).1)

theorem beside_ne_self {ending : String} (hplace : place ≠ [])
    (h : Text.bytes ending.toList ≠ []) : beside ending place ≠ place := by
  cases place with
  | nil => exact absurd rfl hplace
  | cons name outer =>
    intro heq
    exact h (List.append_right_eq_self.1 (List.cons.inj heq).1)

theorem beside_ne_root {ending : String} (hplace : place ≠ []) : beside ending place ≠ [] := by
  cases place with
  | nil => exact absurd rfl hplace
  | cons name outer => exact List.cons_ne_nil _ _

theorem journalPlace_ne_root (h : place ≠ []) : journalPlace place ≠ [] :=
  beside_ne_root h

theorem logPlace_ne_root (h : place ≠ []) : logPlace place ≠ [] :=
  beside_ne_root h

theorem journalPlace_ne (h : place ≠ []) : journalPlace place ≠ place :=
  beside_ne_self h (by decide)

theorem logPlace_ne (h : place ≠ []) : logPlace place ≠ place :=
  beside_ne_self h (by decide)

theorem lockPlace_ne (h : place ≠ []) : lockPlace place ≠ place :=
  beside_ne_self h (by decide)

theorem logPlace_ne_journalPlace (h : place ≠ []) : logPlace place ≠ journalPlace place :=
  beside_ne h (by decide)

theorem lockPlace_ne_journalPlace (h : place ≠ []) : lockPlace place ≠ journalPlace place :=
  beside_ne h (by decide)

theorem lockPlace_ne_logPlace (h : place ≠ []) : lockPlace place ≠ logPlace place :=
  beside_ne h (by decide)

/-! ### What was left beside a new database -/

/-- The database can be changed, and changes are kept in a journal. -/
def Settled.atJournal (place : Files.Place) : Settled where
  access := .full
  journal := some (journalPlace place)

theorem Settled.journaled_full (h : (Settled.journaled l files place).access = .full) :
    Settled.journaled l files place = .atJournal place := by
  have haccess := h
  rw [journaled] at h ⊢
  dsimp only at h
  rw [h]
  rfl

theorem Settled.journaled_eq_iff : Settled.journaled l files place = .atJournal place ↔
    l.isReadOnly = false ∧ mayMake files (journalPlace place) = true := by
  rw [journaled, atJournal, Settled.mk.injEq]
  cases l.isReadOnly with
  | true => simp
  | false =>
    cases mayMake files (journalPlace place) with
    | true => simp
    | false => simp

/-- Nothing but a journal or a log of the database is gone from the tree. -/
structure Cleared (files files' : Files) (place : Files.Place) : Prop where
  working : files'.working = files.working
  item : ∀ q, files'.item? q = files.item? q ∨
    files'.item? q = none ∧ (q = journalPlace place ∨ q = logPlace place) ∧
      files.item? q ≠ some .directory

theorem Cleared.refl (files : Files) (place : Files.Place) : Cleared files files place :=
  ⟨rfl, fun _ => Or.inl rfl⟩

theorem Cleared.remove (h : Cleared files files' place) {q : Files.Place} (hroot : q ≠ [])
    (hq : q = journalPlace place ∨ q = logPlace place) (hfile : neighbour files' q = .file) :
    Cleared files (files'.remove q) place := by
  refine ⟨h.working, fun p => ?_⟩
  rw [Files.item?_remove hroot]
  by_cases hp : p = q
  · subst hp
    rw [if_pos rfl]
    refine Or.inr ⟨rfl, hq, fun hdirectory => ?_⟩
    rcases h.item p with heq | ⟨_, _, hne⟩
    · rw [neighbour, heq, hdirectory] at hfile
      cases hfile
    · exact hne hdirectory
  · rw [if_neg hp]
    exact h.item p

/-- A journal left behind beside a blank file is removed. -/
theorem settleJournal_blank (hplace : place ≠ [])
    (h : settleJournal l files place true = .ok files') : Cleared files files' place := by
  rw [settleJournal] at h
  split at h
  · cases h
    exact .refl files place
  · cases hneighbour : neighbour files (journalPlace place) with
    | absent | directory =>
      rw [hneighbour] at h
      cases h
      exact .refl files place
    | file =>
      rw [hneighbour] at h
      dsimp only at h
      split at h
      · cases h
        exact (Cleared.refl files place).remove (journalPlace_ne_root hplace) (Or.inl rfl) hneighbour
      · cases h
        exact .refl files place

theorem Cleared.directory (h : Cleared files files' place) {q : Files.Place}
    (hq : files.item? q = some .directory) : files'.item? q = some .directory := by
  rcases h.item q with heq | ⟨_, _, hne⟩
  · rw [heq, hq]
  · exact absurd hq hne

theorem Cleared.item_of_ne (h : Cleared files files' place) {q : Files.Place}
    (hjournal : q ≠ journalPlace place) (hlog : q ≠ logPlace place) :
    files'.item? q = files.item? q := by
  rcases h.item q with heq | ⟨_, rfl | rfl, _⟩
  · exact heq
  · exact absurd rfl hjournal
  · exact absurd rfl hlog

theorem neighbour_remove (h : place ≠ []) : neighbour (files.remove place) place = .absent := by
  rw [neighbour, Files.item?_remove h, if_pos rfl]

/-- A log left behind beside a blank file is removed. -/
theorem settleLog_blank {files₁ : Files} {settled : Settled} (hplace : place ≠ [])
    (hcleared : Cleared files files₁ place)
    (h : settleLog l files₁ place true = (.ok settled, files')) :
    Cleared files files' place ∧ neighbour files' (logPlace place) = .absent ∧
      settled = .journaled l files' place := by
  rw [settleLog] at h
  cases hneighbour : neighbour files₁ (logPlace place) with
  | absent =>
    rw [hneighbour] at h
    cases h
    exact ⟨hcleared, hneighbour, rfl⟩
  | directory =>
    rw [hneighbour] at h
    cases h
  | file =>
    rw [hneighbour] at h
    cases h
    exact ⟨hcleared.remove (logPlace_ne_root hplace) (Or.inr rfl) hneighbour,
      neighbour_remove (logPlace_ne_root hplace), rfl⟩

/-- If a new database can be changed, its journal is all that is to be dealt with. -/
theorem settle_blank {settled : Settled} (hplace : place ≠ [])
    (h : settle l files place true = (.ok settled, files')) (hfull : settled.access = .full) :
    l.isFixed = false ∧ isLocked l files place = false ∧ Cleared files files' place ∧
      neighbour files' (logPlace place) = .absent ∧
      Settled.journaled l files' place = .atJournal place ∧ settled = .atJournal place := by
  rw [settle] at h
  split at h
  · cases h
    cases hfull
  · rename_i hfixed
    split at h
    · cases h
    · rename_i hlocked
      cases hjournal : settleJournal l files place true with
      | error refusal =>
        rw [hjournal] at h
        cases h
      | ok files₁ =>
        rw [hjournal] at h
        obtain ⟨hcleared, hlog, rfl⟩ :=
          settleLog_blank hplace (settleJournal_blank hplace hjournal) h
        have hsettled := Settled.journaled_full hfull
        exact ⟨eq_false_of_ne_true hfixed, eq_false_of_ne_true hlocked, hcleared, hlog,
          hsettled, hsettled⟩

end WallClock.Store
