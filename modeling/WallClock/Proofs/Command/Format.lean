import WallClock.Proofs.Command.Perform

/-!
Instants shown one to a line. Each line depends on its instant and the zone alone. Texts that are no
instants are shown as they are, unless the command is strict: then the first of them is what it fails by,
and nothing is written of the lines before it. A run shows them only if it can open its preferences.
-/

namespace WallClock.Command

/-- An instant as a clock of the zone shows it, and a text that is none as it is. -/
def piece (zone : Zone) (raw : String) : String :=
  match Display.ofInstantText raw zone with
  | .ok shown => shown
  | .error _ => raw

def pieces (zone : Zone) (instants : List String) : String :=
  String.join (instants.map fun raw => piece zone raw ++ "\n")

def Denotes (raw : String) : Prop :=
  ∃ i, Instant.parse raw = .ok i

/-- A strict command fails by this text. -/
def unshown (raw : String) (refusal : Instant.Refusal) : Failure :=
  .ofError ("Failed to format '" ++ raw ++ "'") (.invalidInstant raw refusal.reason)

variable {zone : Zone} {isStrict : Bool}

/-! ### Single lines -/

theorem shownLine_of_denotes {raw : String} (h : Denotes raw) :
    shownLine zone isStrict raw = .ok (piece zone raw) := by
  obtain ⟨i, hi⟩ := h
  have hshown : Display.ofInstantText raw zone = .ok (Display.text i zone) := by
    rw [Display.ofInstantText, Instant.ofText, hi]
    rfl
  rw [shownLine, piece, hshown]

theorem ofInstantText_of_refused {raw : String} {refusal : Instant.Refusal}
    (h : Instant.parse raw = .error refusal) (zone : Zone) :
    Display.ofInstantText raw zone = .error (.invalidInstant raw refusal.reason) := by
  rw [Display.ofInstantText, Instant.ofText, h]
  rfl

theorem shownLine_of_refused {raw : String} {refusal : Instant.Refusal}
    (h : Instant.parse raw = .error refusal) :
    shownLine zone isStrict raw = if isStrict then .error (unshown raw refusal) else .ok (piece zone raw) := by
  rw [shownLine, piece, ofInstantText_of_refused h]
  cases isStrict with
  | true => rfl
  | false => rfl

/-- Where not strict, a text that is no instant is repeated as it is. -/
theorem shownLine_lenient (zone : Zone) (raw : String) :
    shownLine zone false raw = .ok (piece zone raw) := by
  cases h : Instant.parse raw with
  | ok i => exact shownLine_of_denotes ⟨i, h⟩
  | error refusal => exact shownLine_of_refused h

/-! ### All lines -/

/-- Pieces depend on their own text alone. -/
theorem pieces_append (zone : Zone) (xs ys : List String) :
    pieces zone (xs ++ ys) = pieces zone xs ++ pieces zone ys := by
  rw [pieces, List.map_append, String.join_append]
  rfl

theorem pieces_cons (zone : Zone) (raw : String) (rest : List String) :
    pieces zone (raw :: rest) = piece zone raw ++ "\n" ++ pieces zone rest :=
  String.join_cons

theorem shownLines_of_all {instants : List String}
    (h : ∀ raw ∈ instants, shownLine zone isStrict raw = .ok (piece zone raw)) :
    shownLines zone isStrict instants = .ok (pieces zone instants) := by
  induction instants with
  | nil => rfl
  | cons raw rest ih =>
    rw [shownLines, h raw List.mem_cons_self, ih fun r hr => h r (List.mem_cons_of_mem raw hr),
      pieces_cons]
    rfl

/-- The first line that fails is what all lines fail by. -/
theorem shownLines_of_first {before after : List String} {raw : String} {failure : Failure}
    (hbefore : ∀ r ∈ before, shownLine zone isStrict r = .ok (piece zone r))
    (hraw : shownLine zone isStrict raw = .error failure) :
    shownLines zone isStrict (before ++ raw :: after) = .error failure := by
  induction before with
  | nil =>
    rw [List.nil_append, shownLines, hraw]
    rfl
  | cons r before ih =>
    rw [List.cons_append, shownLines, hbefore r List.mem_cons_self,
      ih fun r' hr' => hbefore r' (List.mem_cons_of_mem r hr')]
    rfl

/-- Either all texts are instants, or there is a first one that is not. -/
theorem denote_or_first (instants : List String) :
    (∀ raw ∈ instants, Denotes raw) ∨ ∃ before raw after refusal, instants = before ++ raw :: after ∧
      (∀ r ∈ before, Denotes r) ∧ Instant.parse raw = .error refusal := by
  induction instants with
  | nil => exact Or.inl fun raw hraw => absurd hraw List.not_mem_nil
  | cons first rest ih =>
    cases hfirst : Instant.parse first with
    | error refusal =>
      exact Or.inr ⟨[], first, rest, refusal, rfl, fun r hr => absurd hr List.not_mem_nil, hfirst⟩
    | ok i =>
      rcases ih with hall | ⟨before, raw, after, refusal, rfl, hbefore, hraw⟩
      · exact Or.inl (List.forall_mem_cons.2 ⟨⟨i, hfirst⟩, hall⟩)
      · exact Or.inr ⟨first :: before, raw, after, refusal, rfl,
          List.forall_mem_cons.2 ⟨⟨i, hfirst⟩, hbefore⟩, hraw⟩

/-- Lines are written as they are: the last one has its end already. -/
theorem ended_pieces (zone : Zone) (instants : List String) :
    Output.ended (pieces zone instants) = pieces zone instants := by
  rw [Output.ended]
  refine if_pos ?_
  rcases List.eq_nil_or_concat instants with rfl | ⟨before, raw, rfl⟩
  · exact Or.inl rfl
  · refine Or.inr ?_
    have hlast : pieces zone [raw] = piece zone raw ++ "\n" := by
      rw [pieces_cons]
      exact String.append_empty
    rw [List.concat_eq_append, pieces_append, hlast]
    simp [String.toList_append]

/-! ### The command -/

/-- How `format` ends for any instants, strict or not, that it shows in this zone. -/
structure ShowsIn (zone : Zone) (ends : List String → Bool → Finished) : Prop where
  lenient : ∀ instants, ends instants false = ⟨pieces zone instants, .success⟩
  append : ∀ xs ys, (ends (xs ++ ys) false).output = (ends xs false).output ++ (ends ys false).output
  strict_fails_iff : ∀ instants, (ends instants true).exit ≠ .success ↔ ∃ raw ∈ instants, ¬ Denotes raw
  strict_first : ∀ before raw after refusal, (∀ r ∈ before, Denotes r) →
    Instant.parse raw = .error refusal →
      ends (before ++ raw :: after) true = ⟨"", .failure (unshown raw refusal)⟩
  strict_success : ∀ instants, (ends instants true).exit = .success →
    ends instants true = ends instants false

/-- What a run ends with that shows instants, given what came of the lines. -/
def linesShown (isPlain : Bool) (lines : Except Failure String) : Finished :=
  finishedWith isPlain (.ofExcept (lines.map .values))

theorem linesShown_ok (isPlain : Bool) (zone : Zone) (instants : List String) :
    linesShown isPlain (.ok (pieces zone instants)) = ⟨pieces zone instants, .success⟩ := by
  change Finished.mk (Output.ended (pieces zone instants)) .success = _
  rw [ended_pieces]

theorem linesShown_error (isPlain : Bool) (failure : Failure) :
    linesShown isPlain (.error failure) = ⟨"", .failure failure⟩ := by
  cases isPlain with
  | true => rfl
  | false => rfl

theorem linesShown_lenient (isPlain : Bool) (zone : Zone) (instants : List String) :
    linesShown isPlain (shownLines zone false instants) = ⟨pieces zone instants, .success⟩ := by
  rw [shownLines_of_all fun raw _ => shownLine_lenient zone raw, linesShown_ok]

theorem linesShown_of_all (isPlain : Bool) {instants : List String}
    (h : ∀ raw ∈ instants, Denotes raw) :
    linesShown isPlain (shownLines zone isStrict instants) = ⟨pieces zone instants, .success⟩ := by
  rw [shownLines_of_all fun raw hraw => shownLine_of_denotes (h raw hraw), linesShown_ok]

/-- What was shown before the text that is no instant is not written. -/
theorem linesShown_of_first (isPlain : Bool) {before after : List String} {raw : String}
    {refusal : Instant.Refusal} (hbefore : ∀ r ∈ before, Denotes r)
    (hraw : Instant.parse raw = .error refusal) :
    linesShown isPlain (shownLines zone true (before ++ raw :: after)) =
      ⟨"", .failure (unshown raw refusal)⟩ := by
  rw [shownLines_of_first (fun r hr => shownLine_of_denotes (hbefore r hr))
    (shownLine_of_refused hraw), linesShown_error]

/-- A strict run fails by a text that is no instant, and by nothing else. -/
theorem linesShown_fails_iff (isPlain : Bool) (zone : Zone) (instants : List String) :
    (linesShown isPlain (shownLines zone true instants)).exit ≠ .success ↔
      ∃ raw ∈ instants, ¬ Denotes raw := by
  rcases denote_or_first instants with h | ⟨before, raw, after, refusal, rfl, hbefore, hraw⟩
  · rw [linesShown_of_all isPlain h]
    exact iff_of_false (fun hne => hne rfl) fun ⟨raw, hmem, hnot⟩ => hnot (h raw hmem)
  · rw [linesShown_of_first isPlain hbefore hraw]
    refine iff_of_true (fun heq => nomatch heq) ⟨raw, by simp, ?_⟩
    rintro ⟨i, hi⟩
    cases hraw.symm.trans hi

theorem showsIn_linesShown (isPlain : Bool) (zone : Zone) :
    ShowsIn zone fun instants isStrict => linesShown isPlain (shownLines zone isStrict instants) := by
  have hlenient := linesShown_lenient isPlain zone
  have hfails := linesShown_fails_iff isPlain zone
  constructor
  · exact hlenient
  · intro xs ys
    rw [hlenient, hlenient, hlenient, pieces_append]
  · exact hfails
  · intro before raw after refusal hbefore hraw
    exact linesShown_of_first isPlain hbefore hraw
  · intro instants hsuccess
    have hdenote : ∀ raw ∈ instants, Denotes raw := by
      intro raw hraw
      by_contra hnot
      exact (hfails instants).2 ⟨raw, hraw, hnot⟩ hsuccess
    rw [linesShown_of_all isPlain hdenote, hlenient]

section

variable [Zone.Database]

theorem showInstants_eq {p : Preference} {name : Option String} {zone : Zone}
    (h : zoneFor p name = .ok zone) (instants : List String) (isStrict : Bool) :
    showInstants p instants name isStrict = (shownLines zone isStrict instants).map .values := by
  rw [showInstants, h]
  change (shownLines zone isStrict instants >>= fun lines => .ok (Output.values lines)) = _
  cases shownLines zone isStrict instants with
  | ok lines => rfl
  | error failure => rfl

/-- Whatever the preferences are, `format` shows each instant by itself in the zone that it goes by. -/
theorem showsIn_of_zoneFor (now : Instant) (p : Preference) (isPlain : Bool) {name : Option String}
    {zone : Zone} (h : zoneFor p name = .ok zone) :
    ShowsIn zone fun instants isStrict =>
      finishedWith isPlain (perform now p (.format instants name isStrict)).1 := by
  have hperform : ∀ instants isStrict,
      finishedWith isPlain (perform now p (.format instants name isStrict)).1 =
        linesShown isPlain (shownLines zone isStrict instants) := by
    intro instants isStrict
    rw [perform, showInstants_eq h, linesShown]
  simp only [hperform]
  exact showsIn_linesShown isPlain zone

/-- The zone is looked up before the first instant. -/
theorem finishedWith_unknown_zone (now : Instant) (p : Preference) (isPlain : Bool) {name : String} {e : Error}
    (h : Zone.parse name = .error e) (instants : List String) (isStrict : Bool) :
    finishedWith isPlain (perform now p (.format instants (some name) isStrict)).1 =
      ⟨"", .failure (.ofError "Invalid --zone" e)⟩ := by
  rw [perform, showInstants, zoneFor, h]
  cases isPlain with
  | true => rfl
  | false => rfl

/-- `format` shows each instant by itself, in the zone that is named or else in the preferred one. A name that
is no zone's is refused whatever the instants are. All this is so once the preferences have been opened: a run
that cannot open them fails before it comes to its command, even if it is to show instants in a zone that is
named. -/
theorem format_ends [Wording] (host : Host) (now : Instant) (files : Files) (path : Option String)
    (isPlain : Bool) (name : Option String) :
    let ends := fun instants isStrict =>
      (runInvocation host now files ⟨.format instants name isStrict, path, isPlain⟩).1
    (match ((setupAt path).openOn host files).result, name.map Zone.parse with
      | .error e, _ => ∀ instants isStrict, ends instants isStrict = unopened e
      | .ok _, some (.error e) => ∀ instants isStrict,
          ends instants isStrict = ⟨"", .failure (.ofError "Invalid --zone" e)⟩
      | .ok _, some (.ok zone) => ShowsIn zone ends
      | .ok opened, none => ShowsIn opened.preference.resolved.zone ends) ∧
    ∀ args instants isStrict, read args = .ok ⟨.format instants name isStrict, path, isPlain⟩ →
      (run host now files args).1 = ends instants isStrict := by
  intro ends
  refine ⟨?_, fun args instants isStrict hread => by rw [run_of_read now hread]⟩
  cases hopening : ((setupAt path).openOn host files).result with
  | error e => exact fun instants isStrict => runInvocation_of_error now hopening
  | ok opened =>
    have hends : ends = fun instants isStrict =>
        finishedWith isPlain (perform now opened.preference (.format instants name isStrict)).1 := by
      funext instants isStrict
      exact runInvocation_of_opened now hopening
    rw [hends]
    cases name with
    | none => exact showsIn_of_zoneFor now opened.preference isPlain rfl
    | some name =>
      rw [Option.map_some]
      cases hparse : Zone.parse name with
      | ok zone =>
        refine showsIn_of_zoneFor now opened.preference isPlain ?_
        rw [zoneFor, hparse]
        rfl
      | error e => exact finishedWith_unknown_zone now opened.preference isPlain hparse

end

theorem exists_of_isOk {ε α : Type} {x : Except ε α} (h : x.isOk = true) : ∃ a, x = .ok a := by
  cases x with
  | ok a => exact ⟨a, rfl⟩
  | error e => cases h

/-- An instant and a text that is none, shown with a new database, and strictly. -/
theorem format_ends_with_new_database :
    let lenient := ["--database-file", "tzs.db", "format", "-zafrica/abidjan", "2024-01-01T12:00:00Z", "noon"]
    let ends := fun args => (run {} ⟨0, by decide, by decide⟩ { items := [] } args).1
    read lenient =
        .ok ⟨.format ["2024-01-01T12:00:00Z", "noon"] (some "africa/abidjan") false, some "tzs.db", false⟩ ∧
      ends lenient = ⟨"2024-01-01 12:00\nnoon\n", .success⟩ ∧
      read (lenient ++ ["--strict"]) =
        .ok ⟨.format ["2024-01-01T12:00:00Z", "noon"] (some "africa/abidjan") true, some "tzs.db", false⟩ ∧
      ends (lenient ++ ["--strict"]) = ⟨"", .failure (unshown "noon" .unreadable)⟩ := by
  intro lenient ends
  have hlenient : read lenient =
      .ok ⟨.format ["2024-01-01T12:00:00Z", "noon"] (some "africa/abidjan") false, some "tzs.db", false⟩ := by
    decide +kernel
  have hstrict : read (lenient ++ ["--strict"]) =
      .ok ⟨.format ["2024-01-01T12:00:00Z", "noon"] (some "africa/abidjan") true, some "tzs.db", false⟩ := by
    decide +kernel
  have hopened : ((setupAt (some "tzs.db")).openOn {} { items := [] }).result.isOk = true := by
    decide +kernel
  have hzone : Zone.parse "africa/abidjan" = .ok ⟨"Africa/Abidjan", .universal⟩ := rfl
  have hnoon : Instant.parse "2024-01-01T12:00:00Z" = .ok ⟨1704110400000000000, by decide, by decide⟩ := by
    decide +kernel
  obtain ⟨opened, hopened⟩ := exists_of_isOk hopened
  obtain ⟨hends, hruns⟩ :=
    format_ends {} ⟨0, by decide, by decide⟩ { items := [] } (some "tzs.db") false (some "africa/abidjan")
  rw [hopened, Option.map_some, hzone] at hends
  refine ⟨hlenient, ?_, hstrict, ?_⟩
  · refine ((hruns _ _ _ hlenient).trans (hends.lenient _)).trans ?_
    decide +kernel
  · refine (hruns _ _ _ hstrict).trans (hends.strict_first ["2024-01-01T12:00:00Z"] "noon" [] _ ?_ ?_)
    · exact List.forall_mem_singleton.2 ⟨_, hnoon⟩
    · decide +kernel

/-- Without a database no instant is shown. The root, being a directory, cannot be opened as one. -/
theorem no_format_without_database :
    let args := ["--database-file", "/", "format", "2024-01-01T12:00:00Z"]
    let ended := (run {} ⟨0, by decide, by decide⟩ { items := [] } args).1
    read args = .ok ⟨.format ["2024-01-01T12:00:00Z"] none false, some "/", false⟩ ∧
      Denotes "2024-01-01T12:00:00Z" ∧ ended.output = "" ∧
      ∃ f, ended.exit = .failure f ∧ f.context = "Failed to open preference database" := by
  have hnoon : Instant.parse "2024-01-01T12:00:00Z" = .ok ⟨1704110400000000000, by decide, by decide⟩ := by
    decide +kernel
  have hrefused : (run {} ⟨0, by decide, by decide⟩ { items := [] }
      ["--database-file", "/", "format", "2024-01-01T12:00:00Z"]).1 =
        unopened (Store.Connection.refused Files.Fault.occupied.message) := by
    decide +kernel
  intro args ended
  refine ⟨by decide +kernel, ⟨_, hnoon⟩, ?_, ?_⟩
  · exact congrArg Finished.output hrefused
  · exact ⟨_, congrArg Finished.exit hrefused, rfl⟩

end WallClock.Command
