import Mathlib.Data.List.Count
import WallClock.Proofs.Selector.Filter
import WallClock.Proofs.Selector.Json
import WallClock.Proofs.Text.Lines
import WallClock.Report.Style

/-!
The listing of a selector read back. As long as no name has an asterisk or the end of a line in it, the
lines of a listing say what the selector is: how many names there are, in which order, which one is selected
and whether some may be missing. The JSON of the selector says the same.
-/

namespace WallClock.Selector

open Text

/-! ### Reading a listing -/

/-- What stands behind the name that is selected. -/
def markEnd : List Char :=
  "** (selected)".toList

/-- The name in the line of an entry, and whether the line is marked. -/
def readLine? (line : String) : Option (String × Bool) :=
  match Report.after? "* " line.toList with
  | none => none
  | some rest =>
      match Report.after? "**" rest with
      | none => some (String.ofList rest, false)
      | some name =>
          if name = name.takeWhile (· ≠ '*') ++ markEnd then
            some (String.ofList (name.takeWhile (· ≠ '*')), true)
          else none

/-- The selector of a heading and the lines of the entries, one of which is marked. -/
def ofEntries? (complete : Bool) (title : String) (lines : List String) : Option Selector :=
  match lines.mapM readLine? with
  | none => none
  | some entries =>
      match entries.filter (·.2) with
      | [(selected, _)] =>
          if title = heading entries.length then some ⟨entries.map (·.1), selected, complete⟩ else none
      | _ => none

/-- The selector of a listing. -/
def ofListing? (s : String) : Option Selector :=
  match lines? s with
  | some (title :: first :: rest) =>
      if first = "" then ofEntries? true title rest
      else if first = incompleteNotice ∧ rest.head? = some "" then ofEntries? false title rest.tail
      else none
  | _ => none

/-! ### Entries -/

/-- The name has no asterisk in it and no end of a line. -/
def Legible (name : String) : Prop :=
  '*' ∉ name.toList ∧ '\n' ∉ name.toList

instance : DecidablePred Legible := fun name =>
  inferInstanceAs (Decidable ('*' ∉ name.toList ∧ '\n' ∉ name.toList))

variable {s : Selector} {name : String}

theorem readLine?_marked (h : Legible name) : readLine? (marked name) = some (name, true) := by
  have hrest : Report.after? "* " (marked name).toList =
      some ('*' :: '*' :: (name.toList ++ markEnd)) := by
    rw [toList_marked]
    rfl
  have hname : (name.toList ++ markEnd).takeWhile (· ≠ '*') = name.toList := by
    rw [List.takeWhile_append_of_pos fun c hc => ?_]
    · exact List.append_nil _
    · exact decide_eq_true fun heq => h.1 (heq ▸ hc)
  have hmark : Report.after? "**" ('*' :: '*' :: (name.toList ++ markEnd)) = some (name.toList ++ markEnd) :=
    rfl
  rw [readLine?, hrest]
  dsimp only
  rw [hmark]
  dsimp only
  rw [hname, if_pos rfl, String.ofList_toList]

theorem readLine?_unmarked (h : Legible name) : readLine? ("* " ++ name) = some (name, false) := by
  have hrest : Report.after? "* " ("* " ++ name).toList = some name.toList := by
    rw [String.toList_append]
    rfl
  have hmark : Report.after? "**" name.toList = none := by
    refine if_neg fun hbegins => h.1 ?_
    exact (List.isPrefixOf_iff_prefix.1 hbegins).subset List.mem_cons_self
  rw [readLine?, hrest]
  dsimp only
  rw [hmark, String.ofList_toList]

/-- The name is read off its line, and whether it is the selected one. -/
theorem readLine?_entry (s : Selector) (h : Legible name) :
    readLine? (s.entry name) = some (name, s.isSelected name) := by
  by_cases hselected : name = s.selected
  · rw [hselected, entry_selected, readLine?_marked (hselected ▸ h), isSelected, beq_self_eq_true]
  · rw [entry_of_ne hselected, readLine?_unmarked h, isSelected, beq_false_of_ne (Ne.symm hselected)]

theorem mapM_readLine? {names : List String} (h : ∀ name ∈ names, Legible name) :
    (names.map s.entry).mapM readLine? = some (names.map fun name => (name, s.isSelected name)) := by
  induction names with
  | nil => rfl
  | cons name names ih =>
    obtain ⟨hname, hnames⟩ := List.forall_mem_cons.1 h
    rw [List.map_cons, List.mapM_cons, readLine?_entry s hname, ih hnames]
    rfl

/-! ### The selected name -/

theorem Canonical.nodup (h : s.Canonical) : s.zones.Nodup :=
  h.increasing.imp fun hlt => ne_of_lt (bytes_lt_iff.1 hlt)

/-- The selected name is on offer exactly once. -/
theorem Canonical.filter_isSelected (h : s.Canonical) : s.zones.filter s.isSelected = [s.selected] := by
  have hcount : s.zones.count s.selected = 1 := List.count_eq_one_of_mem h.nodup h.selected
  have hreplicate := List.filter_beq (l := s.zones) s.selected
  rw [hcount] at hreplicate
  refine Eq.trans (congrArg (s.zones.filter ·) (funext fun name => ?_)) hreplicate
  rw [isSelected, Bool.beq_comm]

/-! ### Listings -/

/-- Heading and entries say all that the selector has. -/
theorem ofEntries?_zones (h : s.Canonical) (hlegible : ∀ name ∈ s.zones, Legible name) :
    ofEntries? s.complete (heading s.size) (s.zones.map s.entry) = some s := by
  have hmarked : ((s.zones.map fun name => (name, s.isSelected name)).filter (·.2)) =
      [(s.selected, s.isSelected s.selected)] := by
    rw [List.filter_map]
    exact congrArg (List.map _) h.filter_isSelected
  rw [ofEntries?, mapM_readLine? hlegible]
  dsimp only
  rw [hmarked]
  dsimp only
  rw [if_pos (by rw [List.length_map]; rfl), List.map_map]
  simp [Function.comp_def]

theorem newline_not_mem_listing (hlegible : ∀ name ∈ s.zones, Legible name) :
    ∀ line ∈ s.listing.lines, '\n' ∉ line.toList := by
  intro line hline hc
  rcases isSign_or_mem_of_mem_listing hline hc with hsign | ⟨name, hname, hmem⟩
  · exact hsign.ne_newline rfl
  · exact (hlegible name hname).2 hmem

theorem lines?_listing (hlegible : ∀ name ∈ s.zones, Legible name) :
    lines? s.listing.plain = some s.listing.lines :=
  lines?_ended (newline_not_mem_listing hlegible)

/-- A listing is read back as the selector that it lists. -/
theorem ofListing?_plain (h : s.Canonical) (hlegible : ∀ name ∈ s.zones, Legible name) :
    ofListing? s.listing.plain = some s := by
  rw [ofListing?, lines?_listing hlegible, listing_lines h.selected]
  have hentries := ofEntries?_zones h hlegible
  cases hcomplete : s.complete with
  | true =>
    rw [hcomplete] at hentries
    exact hentries
  | false =>
    rw [hcomplete] at hentries
    exact hentries

/-! ### Lines and names -/

/-- The name in the line with this number, and whether the line is marked. -/
def readAt? (entries : List String) (k : Nat) : Option (String × Bool) :=
  entries[k]?.bind readLine?

/-- Each name has its line, in the order of the names, and exactly one line is marked. -/
structure Lists (s : Selector) (entries : List String) : Prop where
  length : entries.length = s.size
  line : ∀ k name, s.zones[k]? = some name → readAt? entries k = some (name, decide (name = s.selected))
  marked : ∃! k, ∃ name, readAt? entries k = some (name, true)

theorem readAt?_map_entry (hlegible : ∀ name ∈ s.zones, Legible name) (k : Nat) :
    readAt? (s.zones.map s.entry) k = s.zones[k]?.map fun name => (name, decide (name = s.selected)) := by
  rw [readAt?, List.getElem?_map]
  cases hname : s.zones[k]? with
  | none => rfl
  | some name =>
    change readLine? (s.entry name) = some (name, decide (name = s.selected))
    rw [readLine?_entry s (hlegible name (List.mem_of_getElem? hname)), isSelected]
    congr 2
    rw [Bool.eq_iff_iff, beq_iff_eq, decide_eq_true_eq, eq_comm]

theorem Canonical.lists (h : s.Canonical) (hlegible : ∀ name ∈ s.zones, Legible name) :
    s.Lists (s.zones.map s.entry) := by
  have hmarked : ∀ k, (∃ name, readAt? (s.zones.map s.entry) k = some (name, true)) ↔
      s.zones[k]? = some s.selected := by
    intro k
    rw [readAt?_map_entry hlegible]
    cases s.zones[k]? with
    | none => simp
    | some name => simp
  constructor
  · exact List.length_map ..
  · intro k name hname
    rw [readAt?_map_entry hlegible, hname]
    rfl
  · obtain ⟨k, hk⟩ := List.mem_iff_getElem?.1 h.selected
    refine ⟨k, (hmarked k).2 hk, fun j hj => ?_⟩
    have hj := (hmarked j).1 hj
    obtain ⟨hlt, -⟩ := List.getElem?_eq_some_iff.1 hj
    exact (List.getElem?_inj hlt h.nodup).1 (hj.trans hk.symm)

/-- The notice stands in the listing of a selector that does not offer all zones, and in no other. -/
theorem incompleteNotice_mem_listing_iff (h : s.Canonical) :
    incompleteNotice ∈ s.listing.lines ↔ s.complete = false := by
  have hentries : incompleteNotice ∉ s.zones.map s.entry := by
    intro hmem
    obtain ⟨name, -, hname⟩ := List.mem_map.1 hmem
    have hlist := congrArg String.toList hname
    -- The line of a name has a space behind its first asterisk.
    rw [entry] at hlist
    split at hlist
    · simp [incompleteNotice, String.toList_append] at hlist
    · simp [incompleteNotice, String.toList_append] at hlist
  have hheading : incompleteNotice ≠ heading s.size := by
    intro heq
    have hlist := congrArg String.toList heq
    simp [heading, incompleteNotice, String.toList_append] at hlist
  rw [listing_lines h.selected]
  cases s.complete with
  | true => simp [hheading, hentries, show incompleteNotice ≠ "" by decide]
  | false => simp

/-- The listing of a selector that was made for a host and filtered has a line for each name, of which one
is marked, below a heading, and a notice if names may be missing. It is read back as the selector, and so is
the JSON of the same state. -/
theorem listing_read_back [Zone.Database] (d : Detector) (selected : Zone) (needles : List String)
    (hlegible : ∀ name ∈ ((ofDetector d selected).filteredBy needles).zones, Legible name) :
    let s := (ofDetector d selected).filteredBy needles
    (∃ entries, lines? s.listing.plain = some (heading s.size ::
        ((if s.complete then [] else [incompleteNotice]) ++ "" :: entries)) ∧ s.Lists entries) ∧
      (incompleteNotice ∈ s.listing.lines ↔ s.complete = false) ∧
      ofListing? s.listing.plain = some s ∧ parse? s.toJson.compact = ofListing? s.listing.plain ∧
      ∀ (p : Preference) (filter : Option String), p.selector.restricted filter = s → ∀ isPlain,
        ofListing? ((Command.listZones p filter false).text true) = some s ∧
          parse? ((Command.listZones p filter true).text isPlain) = some s := by
  intro s
  have hcanonical : s.Canonical := (canonical_ofDetector d selected).filteredBy needles
  have hlisting := ofListing?_plain hcanonical hlegible
  refine ⟨⟨s.zones.map s.entry, ?_, hcanonical.lists hlegible⟩,
    incompleteNotice_mem_listing_iff hcanonical, hlisting, ?_, ?_⟩
  · rw [lines?_listing hlegible, listing_lines hcanonical.selected]
  · rw [hlisting, parse?_compact]
  · intro p filter hp isPlain
    refine ⟨?_, by rw [text_listZones, hp, parse?_jsonLines]⟩
    have htext : (Command.listZones p filter false).text true =
        (p.selector.restricted filter).listing.plain := by
      cases filter <;> rfl
    rw [htext, hp, hlisting]

/-- A host that lists no zones, but is in one, while another zone is selected. -/
theorem listing_read_back_of_stand_in :
    let d : Detector := { detected := some ⟨"Asia/Tokyo", .universal⟩ }
    let s := (ofDetector d .utc).filteredBy ["tokyo", "ASIA"]
    s.listing.plain = "# Time zones (2)\n*Zone list unavailable, showing detected zone only*\n\n" ++
        "* Asia/Tokyo\n* **UTC** (selected)\n" ∧
      ofListing? s.listing.plain = some s := by
  have hlegible : ∀ name ∈ ((ofDetector { detected := some ⟨"Asia/Tokyo", .universal⟩ } .utc).filteredBy
      ["tokyo", "ASIA"]).zones, Legible name := by
    decide
  exact ⟨by decide, (listing_read_back _ .utc ["tokyo", "ASIA"] hlegible).2.2.1⟩

end WallClock.Selector
