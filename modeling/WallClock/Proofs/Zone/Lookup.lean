import WallClock.Detector
import WallClock.Proofs.Text.Lines
import WallClock.Proofs.Text.Trim
import WallClock.Proofs.Zone.Names

/-!
Zones by their names. The name of a zone leads back to that zone, whether the zone was looked up or is
the one the host is in, so that a zone may be kept as its name alone.
-/

namespace WallClock

/-! ### Letters -/

namespace Text

theorem toLower_of_isBlank {c : Char} (h : isBlank c = true) : c.toLower = c := by
  apply toLower_eq_self
  simp [isBlank] at h
  omega

/-- A text without blanks once its letters are lower case is without blanks as it stands. -/
theorem isBlank_of_fold {s : List Char} (h : ∀ c ∈ fold s, isBlank c = false) :
    ∀ c ∈ s, isBlank c = false := by
  intro c hc
  cases hblank : isBlank c with
  | false => rfl
  | true =>
    have hlower := h c.toLower (List.mem_map_of_mem hc)
    rw [toLower_of_isBlank hblank, hblank] at hlower
    cases hlower

theorem trimmed_eq_self {s : String} (h : ∀ c ∈ s.toList, isBlank c = false) : trimmed s = s := by
  rw [trimmed, trim_eq_self (fun c hc => h c (List.mem_of_mem_head? hc))
    (fun c hc => h c (List.mem_of_getLast? hc)), String.ofList_toList]

end Text

namespace Zone

/-! ### Looking up the name of a zone -/

variable [Database]

/-- The directory has the zone under its name. -/
def Listed (zone : Zone) : Prop :=
  find? zone.name = some zone

theorem find?_unknown {name : String} (h : sameName name unknownName = true) :
    find? name = some ⟨name, .universal⟩ :=
  if_pos h

theorem find?_known {name : String} (h : sameName name unknownName = false) :
    find? name = (names.find? fun listed => Text.folded listed == Text.folded name).map fun listed =>
      ⟨listed, Database.rulesOf listed⟩ := by
  rw [find?, h]
  rfl

/-- A zone that was found has either the name of the zone of which nothing is known, in whatever case,
or a name of the list. -/
theorem name_of_find? {name : String} {zone : Zone} (h : find? name = some zone) :
    zone = ⟨name, .universal⟩ ∧ sameName name unknownName = true ∨
      zone.name ∈ names ∧ Text.folded zone.name = Text.folded name ∧ sameName name unknownName = false := by
  cases hname : sameName name unknownName with
  | true =>
    rw [find?_unknown hname] at h
    exact Or.inl ⟨(Option.some.inj h).symm, rfl⟩
  | false =>
    rw [find?_known hname] at h
    obtain ⟨listed, hlisted, rfl⟩ := Option.map_eq_some_iff.1 h
    have hfold := List.find?_some (p := fun listed => Text.folded listed == Text.folded name) hlisted
    exact Or.inr ⟨List.mem_of_find?_eq_some hlisted, beq_iff_eq.1 hfold, rfl⟩

/-- A zone is found again under the name that it was found with. -/
theorem listed_of_find? {name : String} {zone : Zone} (h : find? name = some zone) : zone.Listed := by
  rcases name_of_find? h with ⟨rfl, hunknown⟩ | ⟨_, hfold, hknown⟩
  · exact find?_unknown hunknown
  · have hknown' : sameName zone.name unknownName = false := by
      rw [sameName, hfold]
      exact hknown
    rw [Listed, find?_known hknown', hfold, ← find?_known hknown, h]

/-- Every spelling of a name of the directory leads to the zone of this name. -/
theorem find?_of_mem_names {name sought : String} (hname : name ∈ names)
    (h : sameName sought name = true) : find? sought = some ⟨name, Database.rulesOf name⟩ := by
  have hmem : name ∈ unknownName :: names := List.mem_cons_of_mem _ hname
  have hknown : sameName sought unknownName = false := by
    rw [sameName_congr h, Bool.eq_false_iff]
    intro hunknown
    have heq : name = unknownName := eq_of_sameName hmem List.mem_cons_self hunknown
    exact unknownName_not_mem_names (heq ▸ hname)
  have hfound : (names.find? fun listed => sameName listed sought) = some name := by
    cases hfind : names.find? fun listed => sameName listed sought with
    | none => exact absurd (sameName_symm h) (List.find?_eq_none.1 hfind name hname)
    | some listed =>
      have hlisted : sameName listed sought = true :=
        List.find?_some (p := fun listed => sameName listed sought) hfind
      have hlisted_mem := List.mem_cons_of_mem unknownName (List.mem_of_find?_eq_some hfind)
      exact congrArg some (eq_of_sameName hlisted_mem hmem ((sameName_congr hlisted name).trans h))
  rw [find?_known hknown]
  exact congrArg (Option.map fun listed => Zone.mk listed (Database.rulesOf listed)) hfound

theorem listed_utc : utc.Listed := by
  rw [Listed, find?_of_mem_names utc_mem_names (sameName_iff.2 rfl)]
  exact congrArg (fun rules => some (Zone.mk utc.name rules)) Database.rulesOf_utc

/-! ### Reading the name of a zone -/

variable {zone : Zone}

theorem isBlank_name (h : zone.Listed) : ∀ c ∈ zone.name.toList, Text.isBlank c = false := by
  rcases name_of_find? h with ⟨_, hunknown⟩ | ⟨hmem, _⟩
  · have hall : ((Text.fold unknownName.toList).all fun c => !Text.isBlank c) = true := by
      decide
    apply Text.isBlank_of_fold
    rw [Text.folded_eq_iff.1 (beq_iff_eq.1 hunknown)]
    intro c hc
    simpa using List.all_eq_true.1 hall c hc
  · exact fun c hc => (char_of_mem_names hmem hc).1

/-- The name of a zone can be written in a line without being taken for anything else. -/
theorem isSign_name (h : zone.Listed) : ∀ c ∈ zone.name.toList, Text.IsSign c ∧ c ≠ '*' := by
  intro c hc
  rcases name_of_find? h with ⟨_, hunknown⟩ | ⟨hmem, _⟩
  · have hall : ∀ c ∈ Text.fold unknownName.toList, Text.IsSign c ∧ c ≠ '*' :=
      Text.forall_of_all rfl
    have hlower : c.toLower ∈ Text.fold unknownName.toList := by
      rw [← Text.folded_eq_iff.1 (beq_iff_eq.1 hunknown)]
      exact List.mem_map_of_mem hc
    refine ⟨Text.isSign_of_toLower (hall _ hlower).1, ?_⟩
    rintro rfl
    exact (hall _ hlower).2 rfl
  · obtain ⟨hlow, hhigh, hstar⟩ := toNat_of_mem_names hmem hc
    exact ⟨⟨by omega, hhigh⟩, hstar⟩

theorem name_ne_empty (h : zone.Listed) : zone.name ≠ "" := by
  rcases name_of_find? h with ⟨_, hunknown⟩ | ⟨hmem, _⟩
  · intro hempty
    rw [hempty] at hunknown
    exact absurd hunknown (by decide)
  · exact ne_empty_of_mem_names hmem

theorem trimmed_name (h : zone.Listed) : Text.trimmed zone.name = zone.name :=
  Text.trimmed_eq_self (isBlank_name h)

/-- The name of a zone leads back to it. -/
theorem parse_name (h : zone.Listed) : parse zone.name = .ok zone := by
  rw [parse, trimmed_name h, h]

theorem listed_of_parse {input : String} (h : parse input = .ok zone) : zone.Listed := by
  rw [parse] at h
  split at h
  · rename_i found hfound
    cases h
    exact listed_of_find? hfound
  · cases h

end Zone

/-- The zone that a host is in is in the directory. -/
theorem Detector.listed_of_setting [Zone.Database] {setting : String} {zone : Zone}
    (h : zoneOfSetting setting = some zone) : zone.Listed := by
  rw [zoneOfSetting] at h
  split at h
  · rw [← Option.some.inj h]
    exact Zone.listed_utc
  · split at h
    · cases h
    · extract_lets name at h
      split at h
      · cases h
      · exact Zone.listed_of_find? h

end WallClock
