import WallClock.Preference.Setup
import WallClock.Proofs.Store.Keeping

/-!
Opening preferences time after time. The directories on the way are made by the first opening and the
file of the database with them; whatever the preferences are when they are closed is what the next
opening answers.
-/

namespace WallClock.Setup

open Store

variable {s : Setup} {host : Host} {files files' files'' : Files} {p : Files.Path} {place : Files.Place}
  {t : Table}

/-! ### Directories on the way -/

theorem grows_of_ensureParent {e : Option Error} (h : ensureParent files p = (e, files')) :
    files.Grows files' := by
  rw [ensureParent] at h
  split at h
  · cases h
    exact .refl files
  · obtain ⟨_, rfl⟩ := Prod.mk.inj h
    exact Files.grows_of_ensureDirectory rfl

/-- Directories that have been made are there the next time, whatever was made since. -/
theorem ensureParent_again (h : ensureParent files p = (none, files'))
    (hextends : files'.Extends files'') : ensureParent files'' p = (none, files'') := by
  rw [ensureParent] at h ⊢
  split at h
  · rfl
  · rename_i parent hparent
    obtain ⟨hfault, hfiles⟩ := Prod.mk.inj h
    have hmade : files.ensureDirectory parent = (none, files') :=
      Prod.ext (Option.map_eq_none_iff.1 hfault) hfiles
    dsimp only
    rw [Files.ensureDirectory_again hmade hextends]
    rfl

/-- Once the parent of a path is there, all names of the path but the last lead through directories. -/
theorem leadToDirectory_of_ensureParent (h : ensureParent files p = (none, files')) :
    p.route.names.length ≤ 1 ∨
      files'.leadToDirectory (files'.start p.route) p.route.names.dropLast = true := by
  rcases p.parent?_cases with ⟨_, hnames⟩ | ⟨parent, hparent, hnames, hroot⟩
  · exact Or.inl hnames
  · rw [ensureParent, hparent] at h
    obtain ⟨hfault, hfiles⟩ := Prod.mk.inj h
    have hmade : files.ensureDirectory parent = (none, files') :=
      Prod.ext (Option.map_eq_none_iff.1 hfault) hfiles
    have hstart : files'.start p.route = files'.start parent.route := by
      rw [Files.start, Files.start, hroot]
    rw [hstart, ← hnames]
    rcases Files.leadToDirectory_of_ensureDirectory hmade with hnone | hlead
    · rw [hnone, eq_comm, ← List.length_eq_zero_iff, List.length_dropLast] at hnames
      exact Or.inl (by omega)
    · exact Or.inr hlead

theorem grows_of_path {answer : Except Error Files.Path}
    (h : s.path host files = (answer, files')) : files.Grows files' := by
  rw [path] at h
  split at h
  · cases h
    exact .refl files
  · rw [ensureDefault] at h
    split at h
    · cases h
      exact .refl files
    · dsimp only at h
      split at h
      · rename_i hmade
        cases h
        exact Files.grows_of_ensureDirectory hmade
      · rename_i hmade
        cases h
        exact Files.grows_of_ensureDirectory hmade

/-- The database is looked for where it was put. -/
theorem path_again (h : s.path host files = (.ok p, files')) (hextends : files'.Extends files'') :
    s.path host files'' = (.ok p, files'') := by
  rw [path] at h ⊢
  split at h
  · cases h
    rfl
  · rw [ensureDefault] at h ⊢
    split at h
    · cases h
    · dsimp only at h ⊢
      split at h
      · rename_i hmade
        cases h
        rw [Files.ensureDirectory_again hmade hextends]
      · cases h

/-! ### Openings -/

/-- The way of an opening that succeeds. -/
theorem openOn_ok [Zone.Database] {o : Opened} (h : (s.openOn host files).result = .ok o) :
    ∃ p l files₁ files₂ c files', s.path host files = (.ok p, files₁) ∧
      ensureParent files₁ p = (none, files₂) ∧ Location.read? p.text = .ok l ∧
      Connection.ofLocation l files₂ = (.ok c, files') ∧
      o = ⟨⟨.ofDatabase c.database, host.detector⟩, c.keeping⟩ ∧
      s.openOn host files = ⟨files', .opening p.text :: c.events, .ok o⟩ := by
  rw [openOn] at h ⊢
  split at h
  · cases h
  · rename_i p files₁ hpath
    split at h
    · cases h
    · rename_i files₂ hparent
      rw [openAt] at h
      split at h
      · cases h
      · rename_i c files' hopen
        cases h
        rw [Connection.ofPath] at hopen
        split at hopen
        · cases hopen
        · rename_i l hread
          refine ⟨p, l, files₁, files₂, c, files', hpath, hparent, hread, hopen, rfl, ?_⟩
          rw [openAt, Connection.ofPath, hread]
          dsimp only
          rw [hopen]

/-- Opening finds the directories there, and the database in its file. -/
structure Ready (s : Setup) (host : Host) (files : Files) (place : Files.Place) (t : Table) : Prop where
  database : ∃ p l, s.path host files = (.ok p, files) ∧ ensureParent files p = (none, files) ∧
    Location.read? p.text = .ok l ∧ Kept l files place t

/-- Opening answers preferences in a database with this table, and finds them there from then on. -/
def Serves [Zone.Database] (s : Setup) (host : Host) (files : Files) (place : Files.Place) (t : Table) :
    Prop :=
  ∃ files' events, s.openOn host files =
      ⟨files', events, .ok ⟨⟨.ofDatabase ⟨t, .full⟩, host.detector⟩, .file place (.atJournal place)⟩⟩ ∧
    s.Ready host files' place t

theorem Ready.serves [Zone.Database] (h : s.Ready host files place t) (ht : Database.UpToDate ⟨t, .full⟩) :
    s.Serves host files place t := by
  obtain ⟨p, l, hpath, hparent, hread, hkept⟩ := h.database
  refine ⟨files, [.opening p.text], ?_, h⟩
  rw [Setup.openOn, hpath]
  dsimp only
  rw [hparent]
  dsimp only
  rw [openAt, Connection.ofPath, hread]
  dsimp only
  rw [hkept.ofLocation ht]

theorem Ready.item (h : s.Ready host files place t) :
    files.item? place = some (.file (.database (some t))) := by
  obtain ⟨_, _, _, _, _, hkept⟩ := h.database
  exact hkept.item

/-- A file that has been written is opened in the same way again. -/
theorem Ready.close (h : s.Ready host files place t) (d : Database) :
    s.Ready host ((Keeping.file place (.atJournal place)).close d files) place d.table := by
  obtain ⟨p, l, hpath, hparent, hread, hkept⟩ := h.database
  have hextends := (hkept.alike_close d).toExtends
  exact ⟨p, l, path_again hpath hextends, ensureParent_again hparent hextends, hread, hkept.close d⟩

/-- The place of the file in which the database that was opened is kept. -/
def Outcome.place? (o : Outcome) : Option Files.Place :=
  match o.result with
  | .ok ⟨_, .file place _⟩ => some place
  | _ => none

theorem Outcome.place?_eq_some_iff {o : Outcome} : o.place? = some place ↔
    ∃ preference settled, o.result = .ok ⟨preference, .file place settled⟩ := by
  rw [place?]
  split
  · rename_i preference found settled hresult
    rw [hresult]
    simp
  · rename_i hother
    simp only [reduceCtorEq, false_iff]
    rintro ⟨preference, settled, hresult⟩
    exact hother _ _ _ hresult

/-- What the setup opens is a file that is not there yet. A location with `file:` in front may lead through
the very place at which the file is made, and then not lead there a second time; a path cannot. -/
structure Shared [Zone.Database] (s : Setup) (host : Host) (files : Files) (place : Files.Place) : Prop where
  absent : files.item? place = none
  made : (s.openOn host files).place? = some place
  found : ∀ p l, (s.path host files).1 = .ok p → isReference p.text = true →
    Location.read? p.text = .ok l → Connection.LeadsTo l (s.openOn host files).files place

/-- The first run makes the database, so the second one finds it. -/
theorem Shared.serves [Zone.Database] (h : s.Shared host files place) : s.Serves host files place .empty := by
  obtain ⟨preference, settled, hmade⟩ := Outcome.place?_eq_some_iff.1 h.made
  obtain ⟨p, l, files₁, files₂, c, files', hpath, hparent, hread, hlocation, hopened, hopen⟩ :=
    openOn_ok hmade
  have hkeeping : c.keeping = .file place settled := (congrArg Opened.keeping hopened).symm
  have hleads := Connection.leadsTo_of_ofLocation hlocation hkeeping
  have hroot := Files.ne_root_of_item?_eq_none h.absent
  rw [hleads.ofLocation] at hlocation
  -- The directories that were made do not lie where the file is to be.
  have hnone : files₂.item? place = none := by
    have hgrows := (grows_of_path hpath).trans (grows_of_ensureParent hparent)
    rcases hgrows.item place with heq | ⟨_, hdirectory⟩
    · rw [heq, h.absent]
    · rw [Connection.ofPlace, hdirectory] at hlocation
      cases hlocation
  obtain ⟨rfl, hheld, hextends, hnew⟩ := Connection.ofPlace_new hroot hnone hlocation
  have hfound : Connection.LeadsTo l files' place := by
    cases hreference : isReference p.text with
    | true =>
      have hfound := h.found p l
      rw [hpath, hopen] at hfound
      exact hfound rfl hreference hread
    | false =>
      obtain rfl := read?_of_plain hreference hread
      exact .of_plain hleads hextends hnew (leadToDirectory_of_ensureParent hparent)
  refine ⟨files', [.opening p.text], ?_, p, l, ?_, ?_, hread, hheld, hfound⟩
  · rw [hopen, hopened]
  · exact path_again hpath ((grows_of_ensureParent hparent).toExtends.trans hextends)
  · exact ensureParent_again hparent hextends

end WallClock.Setup
