import WallClock.Proofs.Store.Beside
import WallClock.Proofs.Store.Location
import WallClock.Proofs.Store.Reopening

/-!
A database that a file keeps, from one opening to the next. The first opening makes the file; from then on
whatever is in the database when it is closed is what is in it when it is opened again, and opening and
closing leave the rest of the tree alone.
-/

namespace WallClock.Store

variable {l : Location} {files files' : Files} {place : Files.Place} {t : Table}

/-- The file at the place has a database with this table, and nothing beside it keeps the database from
being changed. -/
structure Held (l : Location) (files : Files) (place : Files.Place) (t : Table) : Prop where
  item : files.item? place = some (.file (.database (some t)))
  notFixed : l.isFixed = false
  free : isLocked l files place = false
  journal : files.item? (journalPlace place) = none
  log : neighbour files (logPlace place) = .absent
  settled : Settled.journaled l files place = .atJournal place

/-- The location leads to such a file. -/
structure Kept (l : Location) (files : Files) (place : Files.Place) (t : Table) : Prop
    extends Held l files place t where
  leads : Connection.LeadsTo l files place

theorem working_save (d : Database) (files : Files) (place : Files.Place) :
    (Keeping.save d files (.file place (.atJournal place))).working = files.working := by
  rw [Keeping.save]
  split
  · rfl
  · rfl

/-- Saving something new writes it to its place and takes away the journal. -/
theorem item?_save {d : Database} (hroot : place ≠ [])
    (hnew : files.item? place ≠ some (.file d.storage)) (q : Files.Place) :
    (Keeping.save d files (.file place (.atJournal place))).item? q =
      if q = place then some (.file d.storage)
      else if q = journalPlace place then none else files.item? q := by
  rw [Keeping.save, if_neg hnew]
  change ((files.remove (journalPlace place)).put place (.file d.storage)).item? q = _
  rw [Files.item?_put hroot, Files.item?_remove (journalPlace_ne_root hroot)]

/-- What comes of a new file at the place: a database in it, no directory less and no file more. -/
theorem held_new (hroot : place ≠ []) (hnone : files.item? place = none)
    (hfixed : l.isFixed = false) (hfree : isLocked l (files.put place (.file .empty)) place = false)
    (hcleared : Cleared (files.put place (.file .empty)) files' place)
    (hlog : neighbour files' (logPlace place) = .absent)
    (hsettled : Settled.journaled l files' place = .atJournal place) :
    let saved := Keeping.save ⟨.empty, .full⟩ files' (.file place (.atJournal place))
    Held l saved place .empty ∧ files.Extends saved ∧ OnlyNew files saved place := by
  intro saved
  have hput (q : Files.Place) : (files.put place (.file .empty)).item? q =
      if q = place then some (.file .empty) else files.item? q := Files.item?_put hroot _ q
  have hblank : files'.item? place = some (.file .empty) := by
    rw [hcleared.item_of_ne (journalPlace_ne hroot).symm (logPlace_ne hroot).symm, hput, if_pos rfl]
  have hitem (q : Files.Place) : saved.item? q =
      if q = place then some (.file (.database (some .empty)))
      else if q = journalPlace place then none else files'.item? q :=
    item?_save hroot (by simp [hblank, Database.storage]) q
  have hjournal : saved.item? (journalPlace place) = none := by
    rw [hitem, if_neg (journalPlace_ne hroot), if_pos rfl]
  have hlogPlace : saved.item? (logPlace place) = files'.item? (logPlace place) := by
    rw [hitem, if_neg (logPlace_ne hroot), if_neg (logPlace_ne_journalPlace hroot)]
  have hlockPlace :
      saved.item? (lockPlace place) = (files.put place (.file .empty)).item? (lockPlace place) := by
    rw [hitem, if_neg (lockPlace_ne hroot), if_neg (lockPlace_ne_journalPlace hroot),
      hcleared.item_of_ne (lockPlace_ne_journalPlace hroot) (lockPlace_ne_logPlace hroot)]
  obtain ⟨hwritable, hmay⟩ := Settled.journaled_eq_iff.1 hsettled
  rw [mayMake, Bool.and_eq_true, bne_iff_ne] at hmay
  refine ⟨⟨(hitem place).trans (if_pos rfl), hfixed, ?_, hjournal, ?_, ?_⟩, ⟨?_, fun q hq => ?_⟩,
    fun q hne => ?_⟩
  · rw [isLocked, mayMake, hlockPlace]
    exact hfree
  · rw [neighbour, hlogPlace]
    exact hlog
  · rw [Settled.journaled_eq_iff, mayMake, hjournal, hmay.1]
    exact ⟨hwritable, rfl⟩
  · exact (working_save _ files' place).trans hcleared.working
  · have hne : q ≠ place := by
      rintro rfl
      rw [hnone] at hq
      cases hq
    have hkept : files'.item? q = some .directory :=
      hcleared.directory ((hput q).trans ((if_neg hne).trans hq))
    have hneJournal : q ≠ journalPlace place := by
      rintro rfl
      exact hmay.2 hkept
    rw [hitem, if_neg hne, if_neg hneJournal, hkept]
  · rw [hitem, if_neg hne]
    split
    · exact Or.inr rfl
    · rcases hcleared.item q with heq | ⟨hgone, _⟩
      · rw [heq, hput, if_neg hne]
        exact Or.inl rfl
      · exact Or.inr hgone

namespace Kept

theorem ne_root (h : Kept l files place t) : place ≠ [] :=
  Connection.ne_root_of_placeOf h.leads.place

/-- A file that is kept can be changed and has nothing left behind beside it. -/
theorem settle (h : Kept l files place t) (isBlank : Bool) :
    settle l files place isBlank = (.ok (.atJournal place), files) := by
  have hjournal : settleJournal l files place isBlank = .ok files := by
    rw [settleJournal, neighbour, h.journal]
    split
    · rfl
    · rfl
  rw [Store.settle, h.notFixed, h.free, hjournal]
  dsimp only
  rw [settleLog, h.log, h.settled]
  rfl

/-- A database that is up to date is found as it was kept, and opening it changes nothing. -/
theorem ofLocation (h : Kept l files place t) (ht : Database.UpToDate ⟨t, .full⟩) :
    Connection.ofLocation l files =
      (.ok ⟨⟨t, .full⟩, .file place (.atJournal place), []⟩, files) := by
  have hopen : Database.openOn (Settled.atJournal place).access (.database (some t)) =
      .ok (⟨t, .full⟩, []) :=
    ht.openOn_storage
  rw [h.leads.ofLocation, Connection.ofPlace, h.item]
  dsimp only
  rw [Connection.ofContent, h.settle]
  dsimp only
  rw [hopen]
  dsimp only
  rw [Keeping.save, Database.storage, h.item]
  exact congrArg _ (if_pos rfl)

/-- Closing writes the database to its place and nothing anywhere else. -/
theorem item?_close (h : Kept l files place t) (d : Database) (q : Files.Place) :
    ((Keeping.file place (.atJournal place)).close d files).item? q =
      if q = place then some (.file d.storage) else files.item? q := by
  change (Keeping.save d files (.file place (.atJournal place))).item? q = _
  by_cases hsame : files.item? place = some (.file d.storage)
  · rw [Keeping.save, if_pos hsame]
    by_cases hq : q = place
    · rw [if_pos hq, hq, hsame]
    · rw [if_neg hq]
  · rw [item?_save h.ne_root hsame]
    by_cases hq : q = journalPlace place
    · rw [if_pos hq, hq, h.journal]
    · rw [if_neg hq]

/-- Closing changes what the file holds and nothing else in the tree. -/
theorem alike_close (h : Kept l files place t) (d : Database) :
    files.Alike ((Keeping.file place (.atJournal place)).close d files) := by
  refine ⟨working_save d files place, fun q => ?_⟩
  rw [h.item?_close]
  by_cases hq : q = place
  · rw [if_pos hq, hq, h.item]
    rfl
  · rw [if_neg hq]

/-- What is written back is found again. -/
theorem close (h : Kept l files place t) (d : Database) :
    Kept l ((Keeping.file place (.atJournal place)).close d files) place d.table := by
  have hroot := h.ne_root
  have halike := h.alike_close d
  have hitem := h.item?_close d
  have hjournal := (hitem _).trans (if_neg (journalPlace_ne hroot))
  have hlog := (hitem _).trans (if_neg (logPlace_ne hroot))
  have hlock := (hitem _).trans (if_neg (lockPlace_ne hroot))
  refine ⟨?_, h.leads.inFile, (Connection.placeOf_eq halike l.path).trans h.leads.place,
    (Connection.hasLikeFile_eq halike l).trans h.leads.like⟩
  constructor
  · exact (hitem place).trans (if_pos rfl)
  · exact h.notFixed
  · rw [isLocked, mayMake, hlock]
    exact h.free
  · exact hjournal.trans h.journal
  · rw [neighbour, hlog]
    exact h.log
  · rw [Settled.journaled, mayMake, hjournal]
    exact h.settled

end Kept

/-! ### A new file -/

namespace Connection

theorem openOn_empty {a : Access} {d : Database} {events : List Event}
    (h : Database.openOn a .empty = .ok (d, events)) : a = .full ∧ d = ⟨.empty, .full⟩ ∧ events = [] := by
  cases a with
  | full =>
    cases h
    exact ⟨rfl, rfl, rfl⟩
  | readOnly | unjournaled => cases h

theorem ofPlace_new {c : Connection} (hroot : place ≠ []) (hnone : files.item? place = none)
    (h : ofPlace l files place = (.ok c, files')) :
    c = ⟨⟨.empty, .full⟩, .file place (.atJournal place), []⟩ ∧
      Held l files' place .empty ∧ files.Extends files' ∧ OnlyNew files files' place := by
  rw [ofPlace, hnone] at h
  dsimp only at h
  split at h
  · rw [ofContent] at h
    split at h
    · cases h
    · rename_i settled cleared hsettle
      dsimp only at h
      split at h
      · cases h
      · rename_i d events hopen
        obtain ⟨hfull, rfl, rfl⟩ := openOn_empty hopen
        obtain ⟨hfixed, hfree, hcleared, hlog, hjournaled, rfl⟩ := settle_blank hroot hsettle hfull
        cases h
        exact ⟨rfl, held_new hroot hnone hfixed hfree hcleared hlog hjournaled⟩
  · cases h

theorem keeping_of_ofPlace {c : Connection} (h : ofPlace l files place = (.ok c, files')) :
    ∃ settled, c.keeping = .file place settled := by
  have hcontent {fs : Files} {content : Storage}
      (h : ofContent l fs place content = (.ok c, files')) :
      ∃ settled, c.keeping = .file place settled := by
    rw [ofContent] at h
    split at h
    · cases h
    · dsimp only at h
      split at h
      · cases h
      · cases h
        exact ⟨_, rfl⟩
  rw [ofPlace] at h
  split at h
  · cases h
  · exact hcontent h
  · split at h
    · exact hcontent h
    · cases h

theorem keeping_of_ofMemory {c : Connection} {isReadOnly : Bool} (h : ofMemory isReadOnly = .ok c) :
    c.keeping = .memory := by
  cases isReadOnly with
  | true => cases h
  | false =>
    cases h
    rfl

/-- A location whose database is kept in a file has led to the place of that file. -/
theorem leadsTo_of_ofLocation {c : Connection} {settled : Settled}
    (h : ofLocation l files = (.ok c, files')) (hkeeping : c.keeping = .file place settled) :
    LeadsTo l files place := by
  have hmemory {isReadOnly : Bool} (h : ofMemory isReadOnly = .ok c) : LeadsTo l files place := by
    rw [keeping_of_ofMemory h] at hkeeping
    cases hkeeping
  rw [ofLocation] at h
  split at h
  · exact hmemory (Prod.mk.inj h).1
  · rename_i hprivate
    split at h
    · exact hmemory (Prod.mk.inj h).1
    · rename_i hlocking
      split at h
      · cases h
      · rename_i found hplace
        split at h
        · rename_i hlike
          obtain ⟨_, hfound⟩ := keeping_of_ofPlace h
          rw [hkeeping] at hfound
          cases hfound
          exact ⟨⟨eq_false_of_ne_true hprivate, hlocking⟩, hplace, hlike⟩
        · cases h

end Connection

end WallClock.Store
