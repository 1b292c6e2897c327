import WallClock.Files

/-!
What stands where in a tree after a change to it. Directories that a path needs are made once: where
they can all be made, they are found from then on in every tree that has no directory less.
-/

namespace WallClock.Files

variable {fs fs' fs'' : Files} {place start : Place} {names : List Name}

/-! ### Single places -/

theorem lookup_filter_ne {β : Type} (entries : List (Place × β)) (place q : Place) :
    (entries.filter fun entry => entry.1 != place).lookup q =
      if q = place then none else entries.lookup q := by
  induction entries with
  | nil => simp
  | cons entry entries ih =>
    obtain ⟨p, b⟩ := entry
    by_cases hp : p = place
    · subst hp
      rw [List.filter_cons_of_neg (by simp), ih]
      by_cases hq : q = p
      · rw [if_pos hq, if_pos hq]
      · rw [if_neg hq, if_neg hq, List.lookup_cons, beq_false_of_ne hq]
    · rw [List.filter_cons_of_pos (by simp [hp]), List.lookup_cons, List.lookup_cons, ih]
      by_cases hq : q = p
      · subst hq
        simp [hp]
      · rw [beq_false_of_ne hq]

theorem item?_remove (h : place ≠ []) (q : Place) :
    (fs.remove place).item? q = if q = place then none else fs.item? q := by
  cases q with
  | nil => exact (if_neg (Ne.symm h)).symm
  | cons name outer => exact lookup_filter_ne fs.items place (name :: outer)

theorem item?_put (h : place ≠ []) (item : Item) (q : Place) :
    (fs.put place item).item? q = if q = place then some item else fs.item? q := by
  cases q with
  | nil => exact (if_neg (Ne.symm h)).symm
  | cons name outer =>
    have hrest : (fs.remove place).item? (name :: outer) = _ := item?_remove h (name :: outer)
    change List.lookup _ ((place, item) :: (fs.remove place).items) = _
    by_cases hq : name :: outer = place
    · rw [if_pos hq, List.lookup_cons, beq_iff_eq.2 hq]
    · rw [if_neg hq] at hrest ⊢
      rw [List.lookup_cons, beq_false_of_ne hq]
      exact hrest

theorem ne_root_of_item?_eq_none (h : fs.item? place = none) : place ≠ [] := by
  rintro rfl
  cases h

/-! ### Trees with no directory less -/

/-- The directories of the first tree are directories in the second one. -/
structure Extends (fs fs' : Files) : Prop where
  working : fs'.working = fs.working
  directory : ∀ q, fs.item? q = some .directory → fs'.item? q = some .directory

/-- The second tree is the first one with directories where nothing was. -/
structure Grows (fs fs' : Files) : Prop where
  working : fs'.working = fs.working
  item : ∀ q, fs'.item? q = fs.item? q ∨ fs.item? q = none ∧ fs'.item? q = some .directory

theorem Extends.trans (h : fs.Extends fs') (h' : fs'.Extends fs'') : fs.Extends fs'' :=
  ⟨h'.working.trans h.working, fun q hq => h'.directory q (h.directory q hq)⟩

theorem Grows.refl (fs : Files) : fs.Grows fs :=
  ⟨rfl, fun _ => Or.inl rfl⟩

theorem Grows.trans (h : fs.Grows fs') (h' : fs'.Grows fs'') : fs.Grows fs'' := by
  refine ⟨h'.working.trans h.working, fun q => ?_⟩
  rcases h.item q with heq | ⟨hnone, hmade⟩
  · rw [← heq]
    exact h'.item q
  · rcases h'.item q with heq' | ⟨hnone', _⟩
    · exact Or.inr ⟨hnone, heq'.trans hmade⟩
    · rw [hmade] at hnone'
      cases hnone'

theorem Grows.toExtends (h : fs.Grows fs') : fs.Extends fs' := by
  refine ⟨h.working, fun q hq => ?_⟩
  rcases h.item q with heq | ⟨hnone, _⟩
  · rw [heq, hq]
  · rw [hnone] at hq
    cases hq

theorem grows_put (h : fs.item? place = none) : fs.Grows (fs.put place .directory) := by
  refine ⟨rfl, fun q => ?_⟩
  rw [item?_put (ne_root_of_item?_eq_none h)]
  by_cases hq : q = place
  · rw [if_pos hq, hq]
    exact Or.inr ⟨h, rfl⟩
  · rw [if_neg hq]
    exact Or.inl rfl

/-- Whatever could be walked can be walked when more directories are there. -/
theorem Extends.walk (h : fs.Extends fs') (hwalk : fs.walk start names = .ok place) :
    fs'.walk start names = .ok place := by
  induction names generalizing start with
  | nil => exact hwalk
  | cons name rest ih =>
    rw [Files.walk] at hwalk ⊢
    cases hitem : fs.item? start with
    | none =>
      rw [hitem] at hwalk
      cases hwalk
    | some item =>
      cases item with
      | file content =>
        rw [hitem] at hwalk
        cases hwalk
      | directory =>
        rw [hitem] at hwalk
        rw [h.directory start hitem]
        dsimp only at hwalk ⊢
        split
        · rename_i houter
          rw [if_pos houter] at hwalk
          exact ih hwalk
        · rename_i houter
          rw [if_neg houter] at hwalk
          split
          · rename_i hlong
            rw [if_pos hlong] at hwalk
            cases hwalk
          · rename_i hlong
            rw [if_neg hlong] at hwalk
            exact ih hwalk

theorem leadToDirectory_iff : fs.leadToDirectory start names = true ↔
    ∃ place, fs.walk start names = .ok place ∧ fs.item? place = some .directory := by
  rw [leadToDirectory]
  cases fs.walk start names with
  | error fault => simp
  | ok place => simp

/-- Directories do not go away while others are made. -/
theorem Extends.leadToDirectory (h : fs.Extends fs') (hlead : fs.leadToDirectory start names = true) :
    fs'.leadToDirectory start names = true := by
  obtain ⟨place, hwalk, hitem⟩ := leadToDirectory_iff.1 hlead
  exact leadToDirectory_iff.2 ⟨place, h.walk hwalk, h.directory place hitem⟩

theorem leadToDirectory_cons {name : Name} (h : fs.leadToDirectory start (name :: names) = true) :
    fs.item? start = some .directory ∧
      fs.leadToDirectory (if name = Name.outer then start.tail else name :: start) names = true := by
  obtain ⟨place, hwalk, hitem⟩ := leadToDirectory_iff.1 h
  rw [Files.walk] at hwalk
  split at hwalk
  · cases hwalk
  · cases hwalk
  · rename_i hstart
    refine ⟨hstart, leadToDirectory_iff.2 ⟨place, ?_, hitem⟩⟩
    split at hwalk
    · rename_i houter
      rwa [if_pos houter]
    · rename_i houter
      rw [if_neg houter]
      split at hwalk
      · cases hwalk
      · exact hwalk

/-! ### Making directories -/

/-- A directory is not made where there is one. -/
theorem makeOne_of_leadToDirectory (h : fs.leadToDirectory start names = true) :
    fs.makeOne start names = .error .occupied := by
  obtain ⟨place, hwalk, hitem⟩ := leadToDirectory_iff.1 h
  rw [makeOne, hwalk]
  dsimp only
  rw [hitem]
  rfl

theorem ensureOne_of_leadToDirectory (h : fs.leadToDirectory start names = true) :
    fs.ensureOne start names = (none, fs) := by
  rw [ensureOne, makeOne_of_leadToDirectory h, h]
  rfl

/-- What is made is the directory that was asked for. -/
theorem makeOne_ok (h : fs.makeOne start names = .ok fs') :
    fs.Grows fs' ∧ fs'.leadToDirectory start names = true := by
  rw [makeOne] at h
  split at h
  · cases h
  · rename_i place hwalk
    split at h
    · cases h
    · rename_i hnone
      have hnone : fs.item? place = none := by simpa using hnone
      cases h
      have hgrows := grows_put hnone
      refine ⟨hgrows, leadToDirectory_iff.2 ⟨place, hgrows.toExtends.walk hwalk, ?_⟩⟩
      rw [item?_put (ne_root_of_item?_eq_none hnone), if_pos rfl]

theorem grows_ensureOne (fs : Files) (start : Place) (names : List Name) :
    fs.Grows (fs.ensureOne start names).2 := by
  rw [ensureOne]
  cases hmake : fs.makeOne start names with
  | ok fs' => exact (makeOne_ok hmake).1
  | error fault => exact .refl fs

theorem leadToDirectory_of_ensureOne (h : fs.ensureOne start names = (none, fs')) :
    fs'.leadToDirectory start names = true := by
  rw [ensureOne] at h
  cases hmake : fs.makeOne start names with
  | ok made =>
    rw [hmake] at h
    cases h
    exact (makeOne_ok hmake).2
  | error fault =>
    rw [hmake] at h
    dsimp only at h
    split at h
    · rename_i hlead
      cases h
      exact hlead
    · cases h

theorem grows_ensureFrom (fs : Files) (start : Place) (names : List Name) :
    fs.Grows (fs.ensureFrom start names).2 := by
  induction names generalizing fs with
  | nil => exact .refl fs
  | cons name outer ih =>
    rw [ensureFrom]
    split
    · split
      · rename_i fs' hensure
        have houter := ih fs
        rw [hensure] at houter
        exact houter.trans (grows_ensureOne fs' start _)
      · rename_i fault fs' hensure
        have houter := ih fs
        rw [hensure] at houter
        exact houter
    · exact grows_ensureOne fs start _

theorem leadToDirectory_of_ensureFrom (hnames : names ≠ [])
    (h : fs.ensureFrom start names = (none, fs')) :
    fs'.leadToDirectory start names.reverse = true := by
  cases names with
  | nil => exact absurd rfl hnames
  | cons name outer =>
    rw [ensureFrom] at h
    split at h
    · split at h
      · exact leadToDirectory_of_ensureOne h
      · cases h
    · exact leadToDirectory_of_ensureOne h

/-- Making sure of directories that are there changes nothing. -/
theorem ensureFrom_of_leadToDirectory (h : fs.leadToDirectory start names.reverse = true) :
    fs.ensureFrom start names = (none, fs) := by
  cases names with
  | nil => rfl
  | cons name outer =>
    rw [ensureFrom, makeOne_of_leadToDirectory h]
    exact ensureOne_of_leadToDirectory h

theorem grows_of_ensureDirectory {p : Path} {fault : Option Fault}
    (h : fs.ensureDirectory p = (fault, fs')) : fs.Grows fs' := by
  rw [ensureDirectory] at h
  split at h
  · cases h
    exact .refl fs
  · have hgrows := grows_ensureFrom fs (fs.start p.route) p.route.names.reverse
    rw [h] at hgrows
    exact hgrows

theorem start_eq (h : fs'.working = fs.working) (r : Route) : fs'.start r = fs.start r := by
  rw [Files.start, Files.start, h]

/-- If it succeeds, the directory of the path is there afterwards. -/
theorem leadToDirectory_of_ensureDirectory {p : Path} (h : fs.ensureDirectory p = (none, fs')) :
    p.route.names = [] ∨ fs'.leadToDirectory (fs'.start p.route) p.route.names = true := by
  have hstart := start_eq (grows_of_ensureDirectory h).working p.route
  rw [ensureDirectory] at h
  split at h
  · cases h
  · by_cases hnames : p.route.names = []
    · exact Or.inl hnames
    · have hlead := leadToDirectory_of_ensureFrom (mt List.reverse_eq_nil_iff.1 hnames) h
      rw [List.reverse_reverse] at hlead
      rw [hstart]
      exact Or.inr hlead

/-- Once a directory has been made with those it lies in, making it changes nothing. -/
theorem ensureDirectory_again {p : Path} (h : fs.ensureDirectory p = (none, fs'))
    (hextends : fs'.Extends fs'') : fs''.ensureDirectory p = (none, fs'') := by
  have hlead := leadToDirectory_of_ensureDirectory h
  have hstart := start_eq hextends.working p.route
  rw [ensureDirectory] at h ⊢
  split at h
  · cases h
  · rcases hlead with hnames | hlead
    · rw [hnames]
      rfl
    · apply ensureFrom_of_leadToDirectory
      rw [List.reverse_reverse, hstart]
      exact hextends.leadToDirectory hlead

/-! ### Trees of the same shape -/

def Item.isDirectory : Item → Bool
  | directory => true
  | file _ => false

/-- Something stands at the same places in both trees, and is a directory in one if it is in the
other. -/
structure Alike (fs fs' : Files) : Prop where
  working : fs'.working = fs.working
  kind : ∀ q, (fs'.item? q).map Item.isDirectory = (fs.item? q).map Item.isDirectory

theorem Alike.cases (h : fs.Alike fs') (q : Place) :
    fs'.item? q = none ∧ fs.item? q = none ∨
      fs'.item? q = some .directory ∧ fs.item? q = some .directory ∨
        ∃ content' content, fs'.item? q = some (.file content') ∧ fs.item? q = some (.file content) := by
  have hkind := h.kind q
  cases hitem' : fs'.item? q with
  | none =>
    rw [hitem', Option.map_none, eq_comm, Option.map_eq_none_iff] at hkind
    exact Or.inl ⟨rfl, hkind⟩
  | some item' =>
    cases hitem : fs.item? q with
    | none =>
      rw [hitem', hitem] at hkind
      cases hkind
    | some item =>
      rw [hitem', hitem] at hkind
      cases item' with
      | directory =>
        cases item with
        | directory => exact Or.inr (Or.inl ⟨rfl, rfl⟩)
        | file content => cases hkind
      | file content' =>
        cases item with
        | directory => cases hkind
        | file content => exact Or.inr (Or.inr ⟨content', content, rfl, rfl⟩)

theorem Alike.toExtends (h : fs.Alike fs') : fs.Extends fs' := by
  refine ⟨h.working, fun q hq => ?_⟩
  rcases h.cases q with ⟨_, hnone⟩ | ⟨hdirectory, _⟩ | ⟨_, _, _, hfile⟩
  · rw [hnone] at hq
    cases hq
  · exact hdirectory
  · rw [hfile] at hq
    cases hq

/-- Ways do not depend on what files hold. -/
theorem Alike.walk_eq (h : fs.Alike fs') (start : Place) (names : List Name) :
    fs'.walk start names = fs.walk start names := by
  induction names generalizing start with
  | nil => rfl
  | cons name rest ih =>
    rw [Files.walk, Files.walk]
    rcases h.cases start with ⟨h', h⟩ | ⟨h', h⟩ | ⟨_, _, h', h⟩
    · rw [h', h]
    · rw [h', h]
      dsimp only
      rw [ih, ih]
    · rw [h', h]

theorem Alike.isSome_itemOn? (h : fs.Alike fs') (r : Route) :
    (fs'.itemOn? r).isSome = (fs.itemOn? r).isSome := by
  rw [itemOn?, itemOn?, Files.place, Files.place, Files.start, Files.start, h.working, h.walk_eq]
  cases fs.walk (if r.fromRoot then [] else fs.working) r.names with
  | error fault => rfl
  | ok place =>
    dsimp only
    rcases h.cases place with ⟨h', h⟩ | ⟨h', h⟩ | ⟨_, _, h', h⟩
    · rw [h', h]
    · rw [h', h]
    · rw [h', h]
      cases r.toDirectory with
      | false => rfl
      | true => rfl

end WallClock.Files
