import WallClock.Proofs.Command.Perform
import WallClock.Proofs.Report.Terminal
import WallClock.Proofs.Selector.Reading

/-!
What commands write: values, or reports whose lines a terminal can be sent in colour. In no state of the
preferences is there anything else in a report than signs.
-/

namespace WallClock

open Text

/-! ### Times and names -/

theorem Text.isSign_of_mem_padded {width n : Nat} : ∀ c ∈ padded width n, IsSign c ∧ c ≠ '*' := by
  intro c hc
  have hdigit := isDigit_of_mem_padded hc
  refine ⟨isSign_of_isDigit hdigit, ?_⟩
  rintro rfl
  cases hdigit

theorem Civil.isSign_yearText (year : Int) : ∀ c ∈ yearText year, IsSign c ∧ c ≠ '*' := by
  have hminus : IsSign '-' ∧ '-' ≠ '*' := by decide
  rw [yearText]
  split
  · exact isSign_of_mem_padded
  · split
    · exact List.forall_mem_cons.2 ⟨hminus, isSign_of_mem_padded⟩
    · exact List.forall_mem_cons.2 ⟨hminus, isSign_of_mem_padded⟩

/-- What is shown of an instant has nothing in it that a report could take for a mark. -/
theorem Display.isSign_text (i : Instant) (zone : Zone) :
    ∀ c ∈ (text i zone).toList, IsSign c ∧ c ≠ '*' := by
  have hminus : IsSign '-' ∧ '-' ≠ '*' := by decide
  have hspace : IsSign ' ' ∧ ' ' ≠ '*' := by decide
  have hcolon : IsSign ':' ∧ ':' ≠ '*' := by decide
  rw [text, String.toList_ofList, Civil.Minute.text]
  simp only [List.forall_mem_append, List.forall_mem_cons]
  exact ⟨⟨⟨⟨Civil.isSign_yearText _, hminus, isSign_of_mem_padded⟩, hminus, isSign_of_mem_padded⟩, hspace,
    isSign_of_mem_padded⟩, hcolon, isSign_of_mem_padded⟩

theorem Preference.listed_resolved [Zone.Database] {p : Preference}
    (h : ∀ zone ∈ p.detector.detected, zone.Listed) : p.resolved.zone.Listed := by
  rw [resolved]
  split
  · rename_i zone hstored
    rw [storedZone] at hstored
    split at hstored
    · cases hstored
    · cases hstored
    · rename_i value hvalue
      split at hstored
      · cases hstored
      · split at hstored
        · rename_i found hparse
          cases hstored
          exact Zone.listed_of_parse hparse
        · cases hstored
  · have hunstored : p.unstored = afterChoice p.detector none := rfl
    rw [hunstored]
    exact listed_afterChoice h fun c hc => absurd hc (Option.not_mem_none c)

/-! ### Lines -/

namespace Report

theorem paintable_field {name value : String} (hname : ∀ c ∈ name.toList, IsSign c)
    (hvalue : ∀ c ∈ value.toList, IsSign c) : Paintable (field name value) := by
  have hbefore : ∀ c ∈ "**".toList, IsSign c := forall_of_all rfl
  have hbetween : ∀ c ∈ "**: ".toList, IsSign c := forall_of_all rfl
  constructor
  · simp only [field, String.toList_append, List.forall_mem_append]
    exact ⟨⟨⟨hbefore, hname⟩, hbetween⟩, hvalue⟩
  · intro hhead
    simp [field, String.toList_append] at hhead

theorem paintable_status {success : Bool} {message : String} (h : ∀ c ∈ message.toList, IsSign c) :
    ∀ line ∈ (status success message).lines, Paintable line := by
  intro line hline
  have hspace : ∀ c ∈ " ".toList, IsSign c := forall_of_all rfl
  rw [status, List.mem_singleton] at hline
  rw [hline]
  cases success with
  | true =>
    have hstart : ∀ c ∈ "Success:".toList, IsSign c := forall_of_all rfl
    constructor
    · simp only [if_true, String.toList_append, List.forall_mem_append]
      exact ⟨⟨hstart, hspace⟩, h⟩
    · intro hhead
      simp [String.toList_append] at hhead
  | false =>
    have hstart : ∀ c ∈ "Error:".toList, IsSign c := forall_of_all rfl
    constructor
    · simp only [Bool.false_eq_true, if_false, String.toList_append, List.forall_mem_append]
      exact ⟨⟨hstart, hspace⟩, h⟩
    · intro hhead
      simp [String.toList_append] at hhead

end Report

namespace Selector

open Report

/-- What is shown of the line of the selected name. -/
def shownSelected (name : String) : String :=
  " " ++ name ++ " (selected)"

theorem toList_shownSelected (name : String) :
    (shownSelected name).toList = ' ' :: (name.toList ++ " (selected)".toList) := by
  simp [shownSelected, String.toList_append]

variable {s : Selector}

theorem Clear.paintable (h : s.Clear) : ∀ line ∈ s.listing.lines, Paintable line := by
  intro line hline
  refine ⟨fun c hc => ?_, fun hhead => ?_⟩
  · rcases isSign_or_mem_of_mem_listing hline hc with hsign | ⟨name, hname, hmem⟩
    · exact hsign
    · exact (h.names name hname c hmem).1
  · rcases line_cases hline with rfl | rfl | rfl | rfl | ⟨name, -, rfl⟩
    · decide
    · exact fun hmem => (isSign_heading s.size _ hmem).2 rfl
    · exact absurd hhead (by decide)
    · exact absurd hhead (by decide)
    · -- The line of a name begins with an asterisk.
      rw [entry] at hhead
      split at hhead
      · simp [String.toList_append] at hhead
      · simp [String.toList_append] at hhead

theorem Clear.legible (h : s.Clear) : ∀ name ∈ s.zones, Legible name :=
  fun name hname => ⟨fun hc => (h.names name hname '*' hc).2.2 rfl,
    fun hc => (h.names name hname '\n' hc).1.ne_newline rfl⟩

theorem Clear.unmarked_entry (h : s.Clear) {name : String} (hname : name ∈ s.zones) :
    unmarked (s.entry name) = if name = s.selected then shownSelected name else " " ++ name := by
  have hstar : unmarked name = name :=
    unmarked_eq_self fun hc => (h.names name hname '*' hc).2.2 rfl
  by_cases hselected : name = s.selected
  · rw [if_pos hselected, hselected, entry_selected, ← hselected, marked, shownSelected]
    simp only [unmarked_append, hstar]
    rfl
  · rw [if_neg hselected, entry_of_ne hselected, unmarked_append, hstar]
    rfl

/-- Of the lines that are shown of a listing, exactly that of the selected name says that it is. -/
theorem Clear.shownSelected_mem_iff (h : s.Clear) {name : String} :
    shownSelected name ∈ s.listing.lines.map unmarked ↔ name = s.selected := by
  constructor
  · intro hmem
    obtain ⟨line, hline, hshown⟩ := List.mem_map.1 hmem
    have hhead : (unmarked line).toList.head? = some ' ' := by
      rw [hshown, toList_shownSelected]
      rfl
    rcases line_cases hline with rfl | rfl | rfl | rfl | ⟨listed, hlisted, rfl⟩
    · exact absurd hhead (by decide)
    · simp [heading, unmarked, String.toList_append] at hhead
    · exact absurd hhead (by decide)
    · exact absurd hhead (by decide)
    · rw [h.unmarked_entry hlisted] at hshown
      have hlist := congrArg String.toList hshown
      split at hlist
      · rename_i hselected
        rw [toList_shownSelected, toList_shownSelected, List.cons.injEq, List.append_cancel_right_eq,
          String.toList_inj] at hlist
        rw [← hlist.2, hselected]
      · -- The name would have a space in it.
        rw [toList_shownSelected, String.toList_append] at hlist
        have hname : listed.toList = name.toList ++ " (selected)".toList := (List.cons.inj hlist).2
        have hspace : ' ' ∈ listed.toList := by
          rw [hname]
          exact List.mem_append_right _ List.mem_cons_self
        exact absurd rfl (h.names listed hlisted ' ' hspace).2.1
  · rintro rfl
    refine List.mem_map.2 ⟨s.entry s.selected, ?_, ?_⟩
    · rw [listing_lines h.selected]
      simp [List.mem_map_of_mem h.selected]
    · rw [h.unmarked_entry h.selected, if_pos rfl]

end Selector

namespace Command

/-! ### The zone that is told -/

open Report

/-- Names of zones and times bring no marks of their own into the lines. -/
theorem paintable_toldLines [Zone.Database] {r : Resolved} (h : r.zone.Listed) (time : Option Instant) :
    ∀ line ∈ toldLines r time, Paintable line := by
  have hheading : Paintable "# Display zone" := ⟨forall_of_all rfl, by decide⟩
  have hempty : Paintable "" := ⟨forall_of_all rfl, by decide⟩
  have hzone : Paintable (field "Zone" r.zone.name) :=
    paintable_field (forall_of_all rfl) fun c hc => (Zone.isSign_name h c hc).1
  have hsource : Paintable (field "Source" r.source.name) :=
    paintable_field (forall_of_all rfl) (by cases r.source <;> exact forall_of_all rfl)
  have hsaved : ∀ line ∈ savedLine r.zone time, Paintable line := by
    intro line hline
    obtain ⟨i, hi⟩ := Option.map_eq_some_iff.1 (Option.mem_toList.1 hline)
    rw [← hi.2]
    exact paintable_field (forall_of_all rfl) fun c hc => (Display.isSign_text i r.zone c hc).1
  exact List.forall_mem_cons.2 ⟨hheading, List.forall_mem_cons.2 ⟨hempty, List.forall_mem_append.2
    ⟨List.forall_mem_cons.2 ⟨hzone, List.forall_mem_singleton.2 hsource⟩, hsaved⟩⟩⟩

/-- In colour or not, the same lines are shown. -/
theorem shownLines?_text {r : Report} (h : ∀ line ∈ r.lines, Paintable line) (isPlain : Bool) :
    shownLines? ((Output.report r).text isPlain) = some (r.lines.map unmarked) := by
  cases isPlain with
  | true => exact shownLines?_plain h
  | false => exact shownLines?_styled h

/-- What a text tells of the zone in use: its name, where it comes from, and when it was stored if that is
known. -/
structure Tells (r : Resolved) (time : Option Instant) (output : String) : Prop where
  zone : told? "Zone" output = some r.zone.name
  source : told? "Source" output = some r.source.name
  saved : told? "Saved" output = time.map fun i => Display.text i r.zone

theorem map_unmarked_toldLines [Zone.Database] {r : Resolved} (h : r.zone.Listed) (time : Option Instant) :
    (toldLines r time).map unmarked =
      "# Display zone" :: "" :: ("Zone: " ++ r.zone.name) :: ("Source: " ++ r.source.name) ::
        (time.map fun i => "Saved: " ++ Display.text i r.zone).toList := by
  have hzone : unmarked (field "Zone" r.zone.name) = "Zone: " ++ r.zone.name :=
    unmarked_field (by decide) fun hc => (Zone.isSign_name h '*' hc).2 rfl
  have hsource : unmarked (field "Source" r.source.name) = "Source: " ++ r.source.name := by
    cases r.source <;> rfl
  have hsaved : ∀ i, unmarked (field "Saved" (Display.text i r.zone)) = "Saved: " ++ Display.text i r.zone :=
    fun i => unmarked_field (by decide) fun hc => (Display.isSign_text i r.zone '*' hc).2 rfl
  rw [toldLines, Resolved.report, savedLine]
  simp only [List.map_cons, List.cons_append, List.nil_append, hzone, hsource]
  cases time with
  | none => rfl
  | some i => simp only [Option.map_some, Option.toList_some, List.map_cons, hsaved]; rfl

/-- Heading and empty line give no value under a name that does not begin like a heading. -/
theorem told?_toldLines [Zone.Database] {r : Resolved} (h : r.zone.Listed) (time : Option Instant)
    (isPlain : Bool) {name : String} (hname : name ≠ "") (hhead : name.toList.head? ≠ some '#') :
    told? name ((Output.report ⟨toldLines r time⟩).text isPlain) =
      (("Zone: " ++ r.zone.name) :: ("Source: " ++ r.source.name) ::
        (time.map fun i => "Saved: " ++ Display.text i r.zone).toList).findSome? (valueIn? name) := by
  have hshown := shownLines?_text (r := ⟨toldLines r time⟩) (paintable_toldLines h time) isPlain
  dsimp only at hshown
  rw [map_unmarked_toldLines h] at hshown
  have hheading : valueIn? name "# Display zone" = none := valueIn?_eq_none hname (Ne.symm hhead)
  have hempty : valueIn? name "" = none :=
    valueIn?_eq_none hname fun hnil =>
      hname (String.toList_eq_nil_iff.1 (List.head?_eq_none_iff.1 hnil.symm))
  rw [told?, hshown, Option.bind_some, List.findSome?_cons, hheading, List.findSome?_cons, hempty]

/-- Each value is found under its name, as no line before its own begins in the same way. -/
theorem tells_toldLines [Zone.Database] {r : Resolved} (h : r.zone.Listed) (time : Option Instant)
    (isPlain : Bool) : Tells r time ((Output.report ⟨toldLines r time⟩).text isPlain) := by
  have hzone : valueIn? "Zone" ("Zone: " ++ r.zone.name) = some r.zone.name := valueIn?_eq_some_iff.2 rfl
  have hsource : valueIn? "Source" ("Source: " ++ r.source.name) = some r.source.name :=
    valueIn?_eq_some_iff.2 rfl
  have hzone_other : ∀ name, name ≠ "" → name.toList.head? ≠ some 'Z' →
      valueIn? name ("Zone: " ++ r.zone.name) = none :=
    fun name hname hhead => valueIn?_eq_none hname (by simpa [String.toList_append] using Ne.symm hhead)
  have hsource_other : valueIn? "Saved" ("Source: " ++ r.source.name) = none := by
    cases r.source <;> rfl
  constructor
  · rw [told?_toldLines h time isPlain (by decide) (by decide), List.findSome?_cons, hzone]
  · rw [told?_toldLines h time isPlain (by decide) (by decide), List.findSome?_cons,
      hzone_other "Source" (by decide) (by decide), List.findSome?_cons, hsource]
  · rw [told?_toldLines h time isPlain (by decide) (by decide), List.findSome?_cons,
      hzone_other "Saved" (by decide) (by decide), List.findSome?_cons, hsource_other]
    cases time with
    | none => rfl
    | some i =>
      have hsaved : valueIn? "Saved" ("Saved: " ++ Display.text i r.zone) = some (Display.text i r.zone) :=
        valueIn?_eq_some_iff.2 rfl
      simp [hsaved]

/-! ### The selector that is listed -/

/-- What a text shows of a selector. JSON is read back as the selector, and so is a listing without colour. In
colour or not, the line of the selected name alone says that it is. -/
structure ShowsSelector (s : Selector) (isJson isPlain : Bool) (output : String) : Prop where
  json : isJson = true → Selector.parse? output = some s
  listing : isJson = false → isPlain = true → Selector.ofListing? output = some s
  marked : isJson = false → ∃ lines, shownLines? output = some lines ∧
    ∀ name, Selector.shownSelected name ∈ lines ↔ name = s.selected

/-- All that a selector has can be read off its JSON and off its plain listing, and its selected name off
either listing. -/
theorem showsSelector_of_clear {s : Selector} (hcanonical : s.Canonical) (hclear : s.Clear)
    (isJson isPlain : Bool) :
    ShowsSelector s isJson isPlain
      ((if isJson then Output.values s.toJson.pretty else .report s.listing).text isPlain) where
  json := by
    rintro rfl
    exact s.parse?_jsonLines isPlain
  listing := by
    rintro rfl rfl
    exact Selector.ofListing?_plain hcanonical hclear.legible
  marked := by
    rintro rfl
    exact ⟨_, shownLines?_text hclear.paintable isPlain, fun _ => hclear.shownSelected_mem_iff⟩

/-! ### Commands -/

/-- Whether a command writes values and no report. -/
def writesValues : Command → Bool
  | .format .. => true
  | .zone (.list _ json) => json
  | _ => false

/-- What a command may write, given whether it writes values: nothing when it fails. -/
inductive Writes : Bool → Output → Prop
  | values (lines : String) : Writes true (.values lines)
  | nothing (isValues : Bool) : Writes isValues (.values "")
  | report {r : Report} : (∀ line ∈ r.lines, Report.Paintable line) → Writes false (.report r)

variable [Zone.Database] {p : Preference}

theorem writes_format (p : Preference) (instants : List String) (zone : Option String) (isStrict : Bool) :
    Writes true (Result.ofExcept (showInstants p instants zone isStrict)).output := by
  rw [showInstants]
  cases zoneFor p zone with
  | error failure => exact .nothing true
  | ok zone =>
    change Writes true (Result.ofExcept (shownLines zone isStrict instants >>= fun lines =>
      .ok (.values lines))).output
    cases shownLines zone isStrict instants with
    | error failure => exact .nothing true
    | ok lines => exact .values lines

theorem writes_tellZone (h : ∀ zone ∈ p.detector.detected, zone.Listed) :
    Writes false (Result.ofExcept (tellZone p)).output := by
  rcases savedLines_cases p p.resolved with ⟨time, hsaved⟩ | ⟨failure, hfailure⟩
  · rw [tellZone_of_saved hsaved]
    exact .report (paintable_toldLines (Preference.listed_resolved h) time)
  · rw [tellZone, hfailure]
    exact .nothing false

theorem writes_setZone (p : Preference) (now : Instant) (name : String) :
    Writes false (changing p (setZone p now name)).1.output := by
  rw [setZone]
  cases hparse : Zone.parse name with
  | error e => exact .nothing false
  | ok zone =>
    change Writes false (changing p (inContext "Failed to save display zone" (p.choose now zone) >>= fun p =>
      .ok (.report (.status true ("Display zone set to " ++ zone.name)), p))).1.output
    cases p.choose now zone with
    | error e => exact .nothing false
    | ok p' =>
      refine .report (Report.paintable_status ?_)
      have hbefore : ∀ c ∈ "Display zone set to ".toList, IsSign c := forall_of_all rfl
      rw [String.toList_append, List.forall_mem_append]
      exact ⟨hbefore, fun c hc => (Zone.isSign_name (Zone.listed_of_parse hparse) c hc).1⟩

omit [Zone.Database] in
theorem writes_clearZone (p : Preference) : Writes false (changing p (clearZone p)).1.output := by
  rw [clearZone]
  cases p.clear with
  | error e => exact .nothing false
  | ok outcome =>
    obtain ⟨removed, p'⟩ := outcome
    refine .report (Report.paintable_status ?_)
    cases removed <;> exact forall_of_all rfl

omit [Zone.Database] in
theorem writes_checkAccess (required : Role) (role : Option Role) :
    Writes false (checkAccess required role).output := by
  have hrole : ∀ r : Role, ∀ c ∈ r.name.toList, IsSign c := by
    intro r
    cases r <;> exact forall_of_all rfl
  have hwho : ∀ c ∈ ((role.map (·.name)).getD "anonymous").toList, IsSign c := by
    cases role with
    | none => exact forall_of_all rfl
    | some r => exact hrole r
  have hviews : ∀ c ∈ " views".toList, IsSign c := forall_of_all rfl
  rw [checkAccess]
  split
  · have hmay : ∀ c ∈ " may access ".toList, IsSign c := forall_of_all rfl
    refine .report (Report.paintable_status ?_)
    simp only [String.toList_append, List.forall_mem_append]
    exact ⟨⟨⟨hwho, hmay⟩, hrole required⟩, hviews⟩
  · have hmayNot : ∀ c ∈ " may not access ".toList, IsSign c := forall_of_all rfl
    refine .report (Report.paintable_status ?_)
    simp only [String.toList_append, List.forall_mem_append]
    exact ⟨⟨⟨hwho, hmayNot⟩, hrole required⟩, hviews⟩

/-- The names that are offered are those of the directory, so no filter brings in others. -/
theorem writes_listZones (hzones : p.detector.zones = some Zone.names)
    (hdetected : ∀ zone ∈ p.detector.detected, zone.Listed) (filter : Option String) (json : Bool) :
    Writes json (listZones p filter json) := by
  have hclear : p.selector.Clear := Selector.clear_ofDetector hzones (Preference.listed_resolved hdetected)
  have heq : listZones p filter json =
      if json then .values (p.selector.restricted filter).toJson.pretty
      else .report (p.selector.restricted filter).listing := by
    cases filter <;> rfl
  rw [heq]
  cases json with
  | true => exact .values _
  | false => exact .report (hclear.restricted filter).paintable

/-- What a command writes on a host that lists all zones. -/
theorem writes_perform (hzones : p.detector.zones = some Zone.names)
    (hdetected : ∀ zone ∈ p.detector.detected, zone.Listed) (now : Instant) (command : Command) :
    Writes command.writesValues (perform now p command).1.output := by
  cases command with
  | format instants zone isStrict =>
    rw [perform]
    exact writes_format p instants zone isStrict
  | access required role =>
    rw [perform]
    exact writes_checkAccess required role
  | zone command =>
    cases command with
    | current =>
      rw [perform]
      exact writes_tellZone hdetected
    | set name =>
      rw [perform]
      exact writes_setZone p now name
    | clear =>
      rw [perform]
      exact writes_clearZone p
    | list filter json =>
      rw [perform]
      exact writes_listZones hzones hdetected filter json

end Command

end WallClock
