import WallClock.Proofs.Files.Path
import WallClock.Proofs.Files.Tree
import WallClock.Store.Connection

/-!
Where a location leads. It leads to the same place in every tree of the same shape. When the file at the
place is new, it leads there again if all names but the last lead through directories, as those of a path
do whose parent has been made.
-/

namespace WallClock.Store

variable {l : Location} {files files' : Files} {place : Files.Place}

/-- Nothing is in the second tree that is not in the first one, but for the place. -/
def OnlyNew (files files' : Files) (place : Files.Place) : Prop :=
  ∀ q, q ≠ place → files'.item? q = files.item? q ∨ files'.item? q = none

namespace Connection

/-! ### In trees of the same shape -/

theorem locate_eq (h : files.Alike files') (start : Files.Place) (names : List Files.Name) :
    locate files' start names = locate files start names := by
  induction names generalizing start with
  | nil => rfl
  | cons name rest ih =>
    rw [locate, locate, ih, ih]
    rcases h.cases start with ⟨h', h⟩ | ⟨h', h⟩ | ⟨_, _, h', h⟩
    · rw [h', h]
    · rw [h', h]
    · rw [h', h]

/-- Where a path leads does not depend on what files hold. -/
theorem placeOf_eq (h : files.Alike files') (path : List UInt8) :
    placeOf files' path = placeOf files path := by
  rw [placeOf, placeOf, Files.start, Files.start, h.working, locate_eq h]

theorem hasLikeFile_eq (h : files.Alike files') (l : Location) :
    hasLikeFile l files' = hasLikeFile l files := by
  rw [hasLikeFile, hasLikeFile]
  cases l.likeFile with
  | none => rfl
  | some path =>
    rw [Option.all_some, Option.all_some, h.isSome_itemOn?]

/-! ### In trees with a new file -/

/-- Names that lead to a place through directories lead to it in every tree that has them. -/
theorem locate_of_leadToDirectory {start : Files.Place} {names : List Files.Name}
    (hextends : files.Extends files') (hnames : names ≠ [])
    (hlead : files.leadToDirectory start names.dropLast = true)
    (h : locate files start names = .ok place) : locate files' start names = .ok place := by
  induction names generalizing start with
  | nil => exact absurd rfl hnames
  | cons name rest ih =>
    have hstart : files.item? start = some .directory := by
      cases rest with
      | nil =>
        obtain ⟨found, hwalk, hitem⟩ := Files.leadToDirectory_iff.1 hlead
        cases hwalk
        exact hitem
      | cons next rest => exact (Files.leadToDirectory_cons hlead).1
    have hrest (next : Files.Place) (hnext : next = if name = Files.Name.outer then start.tail
        else name :: start) (h : locate files next rest = .ok place) :
        locate files' next rest = .ok place := by
      cases rest with
      | nil => exact h
      | cons second rest =>
        refine ih (List.cons_ne_nil second rest) ?_ h
        rw [hnext]
        exact (Files.leadToDirectory_cons hlead).2
    rw [locate, hstart] at h
    rw [locate, hextends.directory start hstart]
    split
    · rename_i houter
      rw [if_pos houter] at h
      exact hrest _ (if_pos houter).symm h
    · rename_i houter
      rw [if_neg houter] at h
      split
      · rename_i hlong
        rw [if_pos hlong] at h
        cases h
      · rename_i hlong
        rw [if_neg hlong] at h
        exact hrest _ (if_neg houter).symm h

/-- A way of one name is not led elsewhere by what is new in the tree. -/
theorem locate_of_length_le_one {start : Files.Place} {names : List Files.Name}
    (hnew : OnlyNew files files' place) (hnames : names.length ≤ 1)
    (h : locate files start names = .ok place) : locate files' start names = .ok place := by
  cases names with
  | nil => exact h
  | cons name rest =>
    obtain rfl : rest = [] := List.eq_nil_of_length_eq_zero (Nat.le_zero.1 (Nat.le_of_succ_le_succ hnames))
    rw [locate] at h ⊢
    split
    · rename_i houter
      rwa [if_pos houter] at h
    · rename_i houter
      rw [if_neg houter] at h
      split
      · rename_i hlong
        rw [if_pos hlong] at h
        cases h
      · rename_i hlong
        rw [if_neg hlong] at h
        split at h
        · cases h
        · rename_i hitem
          have hplace : name :: start = place := Except.ok.inj h
          have hne : start ≠ place := fun heq => List.cons_ne_self name start (hplace.trans heq.symm)
          split
          · rename_i content hfile
            rcases hnew start hne with heq | hnone
            · exact absurd (heq.symm.trans hfile) (hitem content)
            · rw [hnone] at hfile
              cases hfile
          · exact h

theorem placeOf_eq_ok_iff {path : List UInt8} : placeOf files path = .ok place ↔
    locate files (files.start (.ofBytes path)) (Files.Route.ofBytes path).names = .ok place ∧
      (Files.pathTo place).length ≤ longestPath ∧ place ≠ [] := by
  rw [placeOf]
  cases locate files (files.start (.ofBytes path)) (Files.Route.ofBytes path).names with
  | error fault => simp
  | ok found =>
    dsimp only
    split
    · rename_i hlong
      simp only [reduceCtorEq, Except.ok.injEq, false_iff]
      rintro ⟨rfl, hle, _⟩
      exact Nat.not_lt.2 hle hlong
    · rename_i hshort
      split
      · rename_i hroot
        simp only [reduceCtorEq, Except.ok.injEq, false_iff]
        rintro ⟨rfl, _, hne⟩
        exact hne hroot
      · rename_i hroot
        simp only [Except.ok.injEq]
        constructor
        · rintro rfl
          exact ⟨rfl, Nat.not_lt.1 hshort, hroot⟩
        · exact fun h => h.1

theorem ne_root_of_placeOf {path : List UInt8} (h : placeOf files path = .ok place) : place ≠ [] :=
  (placeOf_eq_ok_iff.1 h).2.2

/-! ### Locations -/

/-- The place to which a location leads. -/
structure LeadsTo (l : Location) (files : Files) (place : Files.Place) : Prop where
  inFile : l.isPrivate = false ∧ l.locking ≠ .memory
  place : placeOf files l.path = .ok place
  like : hasLikeFile l files = true

theorem LeadsTo.ofLocation (h : LeadsTo l files place) :
    ofLocation l files = ofPlace l files place := by
  rw [Connection.ofLocation, h.inFile.1, if_neg h.inFile.2, h.place]
  dsimp only
  rw [h.like]
  rfl

/-- A location that is a path leads to the same place once the file is there. -/
theorem LeadsTo.of_plain {p : Files.Path} (h : LeadsTo { path := p.bytes } files place)
    (hextends : files.Extends files') (hnew : OnlyNew files files' place)
    (hlead : p.route.names.length ≤ 1 ∨
      files.leadToDirectory (files.start p.route) p.route.names.dropLast = true) :
    LeadsTo { path := p.bytes } files' place := by
  obtain ⟨hlocate, hshort, hroot⟩ := placeOf_eq_ok_iff.1 h.place
  refine ⟨h.inFile, placeOf_eq_ok_iff.2 ⟨?_, hshort, hroot⟩, rfl⟩
  rw [Files.start_eq hextends.working]
  rcases hlead with hnames | hlead
  · exact locate_of_length_le_one hnew hnames hlocate
  · by_cases hnames : p.route.names = []
    · exact locate_of_length_le_one hnew (hnames ▸ Nat.zero_le 1) hlocate
    · exact locate_of_leadToDirectory hextends hnames hlead hlocate

end Connection

/-- Whether a text gives a location with `file:` in front, and not merely a path. -/
def isReference (text : String) : Bool :=
  "file:".toList.isPrefixOf text.toList

theorem read?_of_plain {text : String} (h : isReference text = false)
    (hread : Location.read? text = .ok l) : l = { path := Text.bytes text.toList } := by
  rw [Location.read?] at hread
  split at hread
  · cases hread
  · split at hread
    · rename_i s hreference
      rw [isReference, hreference] at h
      cases h
    · cases hread
      rfl

end WallClock.Store
