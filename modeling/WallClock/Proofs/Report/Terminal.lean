import WallClock.Proofs.Text.Lines
import WallClock.Report.Style

/-!
What a terminal shows of a report in colour. It does not show the sequences that it is controlled by; what
is left is the plain report without its asterisks, line by line.
-/

namespace WallClock.Report

open Text

/-! ### Terminals -/

/-- What a terminal takes the next character for. -/
inductive Phase where
  | text
  /-- The character that says what kind of sequence begins. -/
  | escape
  /-- A part of a sequence, or its end. -/
  | sequence

/-- Whether a character ends a sequence. -/
def isFinal (c : Char) : Bool :=
  '@' ≤ c && c ≤ '~'

/-- The text without the sequences in it. -/
def withoutSequences : Phase → List Char → List Char
  | _, [] => []
  | .text, c :: s => if c = '\x1b' then withoutSequences .escape s else c :: withoutSequences .text s
  | .escape, c :: s => withoutSequences (if c = '[' then .sequence else .text) s
  | .sequence, c :: s => withoutSequences (if isFinal c then .text else .sequence) s

/-- What a terminal shows of a text. -/
def shown (s : String) : String :=
  String.ofList (withoutSequences .text s.toList)

def unmarked (s : String) : String :=
  String.ofList (s.toList.filter (· ≠ '*'))

/-! ### Sequences -/

variable {s : List Char}

theorem withoutSequences_text (h : '\x1b' ∉ s) (rest : List Char) :
    withoutSequences .text (s ++ rest) = s ++ withoutSequences .text rest := by
  induction s with
  | nil => rfl
  | cons c s ih =>
    rw [List.mem_cons, not_or] at h
    rw [List.cons_append, withoutSequences, if_neg (Ne.symm h.1), ih h.2, List.cons_append]

theorem withoutSequences_final {code : List Char} (h : ∀ c ∈ code, isFinal c = false) (rest : List Char) :
    withoutSequences .sequence (code ++ 'm' :: rest) = withoutSequences .text rest := by
  induction code with
  | nil => rfl
  | cons c code ih =>
    obtain ⟨hc, hcode⟩ := List.forall_mem_cons.1 h
    rw [List.cons_append, withoutSequences, hc]
    exact ih hcode

/-- A sequence leaves no trace in what is shown. -/
theorem withoutSequences_sequence {code : String} (h : ∀ c ∈ code.toList, isFinal c = false)
    (rest : List Char) :
    withoutSequences .text (sequence code ++ rest) = withoutSequences .text rest := by
  have hsequence : sequence code ++ rest = '\x1b' :: '[' :: (code.toList ++ 'm' :: rest) := by
    simp [sequence]
  rw [hsequence]
  exact withoutSequences_final h rest

theorem withoutSequences_reset (rest : List Char) :
    withoutSequences .text (reset ++ rest) = withoutSequences .text rest :=
  withoutSequences_sequence (forall_of_all rfl) rest

theorem withoutSequences_start (e : Emphasis) (rest : List Char) :
    withoutSequences .text (e.start ++ rest) = withoutSequences .text rest := by
  have hbold : ∀ rest, withoutSequences .text (sequence "38;5;11" ++ (sequence "1" ++ rest)) =
      withoutSequences .text rest := by
    intro rest
    rw [withoutSequences_sequence (forall_of_all rfl), withoutSequences_sequence (forall_of_all rfl)]
  have hcolour : ∀ rest, withoutSequences .text (sequence "38;5;13" ++ rest) = withoutSequences .text rest :=
    withoutSequences_sequence (forall_of_all rfl)
  have hitalic : ∀ rest, withoutSequences .text (sequence "3" ++ rest) = withoutSequences .text rest :=
    withoutSequences_sequence (forall_of_all rfl)
  obtain ⟨bold, italic⟩ := e
  cases bold with
  | true =>
    cases italic with
    | true => simp [Emphasis.start, hbold, hitalic]
    | false => simp [Emphasis.start, hbold]
  | false =>
    cases italic with
    | true => simp [Emphasis.start, hcolour, hitalic]
    | false => simp [Emphasis.start]

/-! ### Runs -/

theorem withoutSequences_run {r : Run} (h : '\x1b' ∉ r.text) (rest : List Char) :
    withoutSequences .text (r.painted ++ rest) = r.text ++ withoutSequences .text rest := by
  rw [Run.painted]
  split
  · exact withoutSequences_text h rest
  · rw [List.append_assoc, List.append_assoc, withoutSequences_start, withoutSequences_text h,
      withoutSequences_reset]

theorem withoutSequences_runs {runs : List Run} (h : ∀ r ∈ runs, '\x1b' ∉ r.text) (rest : List Char) :
    withoutSequences .text (runs.flatMap Run.painted ++ rest) =
      runs.flatMap Run.text ++ withoutSequences .text rest := by
  induction runs with
  | nil => rfl
  | cons r runs ih =>
    obtain ⟨hr, hruns⟩ := List.forall_mem_cons.1 h
    rw [List.flatMap_cons, List.flatMap_cons, List.append_assoc, withoutSequences_run hr, ih hruns,
      List.append_assoc]

/-- All of a line stands in its runs, but for the asterisks. -/
theorem flatMap_runsFrom (e : Emphasis) (text s : List Char) :
    (runsFrom e text s).flatMap Run.text = text.reverse ++ s.filter (· ≠ '*') := by
  fun_induction runsFrom e text s with
  | case1 => simp
  | case2 e text s ih => simp [ih]
  | case3 e text s _ ih => simp [ih]
  | case4 e text c s _ hc ih =>
    have hstar : c ≠ '*' := hc
    simp [ih, hstar]

/-- Marks become emphasis, and the rest of the text is kept. -/
theorem flatMap_runs (s : List Char) : (runs s).flatMap Run.text = s.filter (· ≠ '*') :=
  flatMap_runsFrom {} [] s

theorem mem_of_mem_runs {r : Run} (h : r ∈ runs s) {c : Char} (hc : c ∈ r.text) : c ∈ s := by
  have hflat := List.mem_flatMap.2 ⟨r, h, hc⟩
  rw [flatMap_runs] at hflat
  exact (List.mem_filter.1 hflat).1

theorem withoutSequences_paintedRuns (h : '\x1b' ∉ s) (rest : List Char) :
    withoutSequences .text (paintedRuns s ++ rest) =
      s.filter (· ≠ '*') ++ withoutSequences .text rest := by
  rw [paintedRuns, withoutSequences_runs fun r hr hmem => h (mem_of_mem_runs hr hmem), flatMap_runs]

theorem filter_of_not_mem (h : '*' ∉ s) : s.filter (· ≠ '*') = s :=
  List.filter_eq_self.2 fun _ hc => decide_eq_true fun heq => h (heq ▸ hc)

theorem withoutSequences_coloured {code : String} (hcode : ∀ c ∈ code.toList, isFinal c = false)
    (h : '\x1b' ∉ s) (rest : List Char) :
    withoutSequences .text (coloured code s ++ rest) = s ++ withoutSequences .text rest := by
  rw [coloured, List.append_assoc, List.append_assoc, withoutSequences_sequence hcode,
    withoutSequences_text h, withoutSequences_reset]

/-! ### Lines -/

theorem after?_eq_some_iff {start : String} {line rest : List Char} :
    after? start line = some rest ↔ line = start.toList ++ rest := by
  rw [after?]
  constructor
  · intro h
    split at h
    · rename_i hbegins
      obtain ⟨rest', rfl⟩ := List.isPrefixOf_iff_prefix.1 hbegins
      rw [List.drop_left] at h
      rw [Option.some.inj h]
    · cases h
  · rintro rfl
    rw [if_pos (List.isPrefixOf_iff_prefix.2 (List.prefix_append start.toList rest)), List.drop_left]

/-- A line that begins with a word in a colour of its own. -/
theorem withoutSequences_status {code start : String} (hcode : ∀ c ∈ code.toList, isFinal c = false)
    (hstart : '*' ∉ start.toList) {line behind : List Char} (hline : after? start line = some behind)
    (h : '\x1b' ∉ line) (rest : List Char) :
    withoutSequences .text (coloured code start.toList ++ paintedRuns behind ++ rest) =
      line.filter (· ≠ '*') ++ withoutSequences .text rest := by
  obtain rfl := after?_eq_some_iff.1 hline
  rw [List.mem_append, not_or] at h
  rw [List.append_assoc, withoutSequences_coloured hcode h.1, withoutSequences_paintedRuns h.2,
    List.filter_append, filter_of_not_mem hstart, List.append_assoc]

/-- Headings have their asterisks shown, so there must be none in them. -/
theorem withoutSequences_painted {line : List Char} (h : '\x1b' ∉ line)
    (hheading : line.head? = some '#' → '*' ∉ line) (rest : List Char) :
    withoutSequences .text (painted line ++ rest) =
      line.filter (· ≠ '*') ++ withoutSequences .text rest := by
  rw [painted]
  split
  · rename_i hhead
    rw [withoutSequences_coloured (forall_of_all rfl) h, filter_of_not_mem (hheading hhead)]
  · split
    · rename_i behind hsuccess
      exact withoutSequences_status (forall_of_all rfl) (by decide) hsuccess h rest
    · split
      · rename_i behind herror
        exact withoutSequences_status (forall_of_all rfl) (by decide) herror h rest
      · exact withoutSequences_paintedRuns h rest

/-! ### Ends of lines -/

theorem newline_not_mem_coloured {code : String} (hcode : '\n' ∉ code.toList) (h : '\n' ∉ s) :
    '\n' ∉ coloured code s := by
  simp [coloured, sequence, reset, hcode, h]

theorem newline_not_mem_start (e : Emphasis) : '\n' ∉ e.start := by
  obtain ⟨bold, italic⟩ := e
  revert bold italic
  decide

theorem newline_not_mem_paintedRuns (h : '\n' ∉ s) : '\n' ∉ paintedRuns s := by
  intro hmem
  obtain ⟨r, hr, hc⟩ := List.mem_flatMap.1 hmem
  have htext : '\n' ∉ r.text := fun hc => h (mem_of_mem_runs hr hc)
  have hreset : '\n' ∉ reset := by decide
  rw [Run.painted] at hc
  split at hc
  · exact htext hc
  · simp only [List.mem_append] at hc
    rcases hc with (hc | hc) | hc
    · exact newline_not_mem_start r.emphasis hc
    · exact htext hc
    · exact hreset hc

theorem newline_not_mem_status {code start : String} (hcode : '\n' ∉ code.toList) {line behind : List Char}
    (hline : after? start line = some behind) (h : '\n' ∉ line) :
    '\n' ∉ coloured code start.toList ++ paintedRuns behind := by
  obtain rfl := after?_eq_some_iff.1 hline
  rw [List.mem_append, not_or] at h ⊢
  exact ⟨newline_not_mem_coloured hcode h.1, newline_not_mem_paintedRuns h.2⟩

theorem newline_not_mem_painted {line : List Char} (h : '\n' ∉ line) : '\n' ∉ painted line := by
  rw [painted]
  split
  · exact newline_not_mem_coloured (by decide) h
  · split
    · rename_i behind hsuccess
      exact newline_not_mem_status (by decide) hsuccess h
    · split
      · rename_i behind herror
        exact newline_not_mem_status (by decide) herror h
      · exact newline_not_mem_paintedRuns h

/-! ### Reports -/

/-- A line of signs, without asterisks if it is a heading. -/
def Paintable (line : String) : Prop :=
  (∀ c ∈ line.toList, IsSign c) ∧ (line.toList.head? = some '#' → '*' ∉ line.toList)

/-- A line as it is in a report in colour. -/
def paintedLine (line : String) : String :=
  String.ofList (painted line.toList)

theorem toList_paintedLine (line : String) : (paintedLine line).toList = painted line.toList :=
  String.toList_ofList

theorem escape_not_mem {line : String} (h : Paintable line) : '\x1b' ∉ line.toList :=
  fun hmem => absurd (h.1 _ hmem) (by decide)

/-- A line in colour is shown as the plain line without its asterisks. -/
theorem shown_paintedLine {line : String} (h : Paintable line) :
    shown (paintedLine line) = unmarked line := by
  have hpainted := withoutSequences_painted (escape_not_mem h) h.2 []
  rw [List.append_nil] at hpainted
  rw [shown, toList_paintedLine, hpainted]
  exact congrArg String.ofList (List.append_nil _)

theorem styled_eq (r : Report) : r.styled = String.join ((r.lines.map paintedLine).map (· ++ "\n")) := by
  rw [styled, List.map_map]
  congr 2
  funext line
  exact String.ofList_append

/-- What is shown of a report in colour is the plain report without its asterisks. -/
theorem shown_styled {r : Report} (h : ∀ line ∈ r.lines, Paintable line) :
    shown r.styled = unmarked r.plain := by
  obtain ⟨lines⟩ := r
  rw [shown, unmarked, plain, styled_eq]
  congr 1
  dsimp only at h ⊢
  induction lines with
  | nil => rfl
  | cons line lines ih =>
    obtain ⟨hline, hlines⟩ := List.forall_mem_cons.1 h
    rw [List.map_cons, toList_join_ended, toList_join_ended, toList_paintedLine,
      withoutSequences_painted (escape_not_mem hline) hline.2, List.filter_append,
      List.filter_cons_of_pos (by decide), withoutSequences, if_neg (by decide), ih hlines]

theorem newline_not_mem {line : String} (h : Paintable line) : '\n' ∉ line.toList :=
  fun hmem => (h.1 _ hmem).ne_newline rfl

theorem lines?_plain {r : Report} (h : ∀ line ∈ r.lines, Paintable line) :
    lines? r.plain = some r.lines :=
  lines?_ended fun line hline => newline_not_mem (h line hline)

theorem lines?_styled {r : Report} (h : ∀ line ∈ r.lines, Paintable line) :
    lines? r.styled = some (r.lines.map paintedLine) := by
  rw [styled_eq]
  apply lines?_ended
  intro line hline
  obtain ⟨plainLine, hmem, rfl⟩ := List.mem_map.1 hline
  rw [toList_paintedLine]
  exact newline_not_mem_painted (newline_not_mem (h plainLine hmem))

/-- Line for line, too, what is shown is the plain report without its asterisks. -/
theorem shown_lines {r : Report} (h : ∀ line ∈ r.lines, Paintable line) :
    (r.lines.map paintedLine).map shown = r.lines.map unmarked := by
  rw [List.map_map]
  exact List.map_congr_left fun line hline => shown_paintedLine (h line hline)

/-! ### Reading what is shown -/

/-- The lines that are shown of a text, without their asterisks. -/
def shownLines? (s : String) : Option (List String) :=
  (lines? s).map fun lines => lines.map fun line => unmarked (shown line)

/-- The value that a line gives under a name. -/
def valueIn? (name line : String) : Option String :=
  (after? (name ++ ": ") line.toList).map String.ofList

/-- The value that a text tells under a name, in colour or not. -/
def told? (name s : String) : Option String :=
  (shownLines? s).bind fun lines => lines.findSome? (valueIn? name)

theorem unmarked_append (a b : String) : unmarked (a ++ b) = unmarked a ++ unmarked b := by
  simp [unmarked, String.toList_append]

theorem unmarked_eq_self {line : String} (h : '*' ∉ line.toList) : unmarked line = line := by
  rw [unmarked, filter_of_not_mem h, String.ofList_toList]

theorem unmarked_unmarked (line : String) : unmarked (unmarked line) = unmarked line := by
  apply unmarked_eq_self
  simp [unmarked]

/-- What is shown of a text without sequences is all of it. -/
theorem shown_eq_self {line : String} (h : '\x1b' ∉ line.toList) : shown line = line := by
  have htext := withoutSequences_text h []
  rw [List.append_nil] at htext
  rw [shown, htext, withoutSequences, List.append_nil, String.ofList_toList]

theorem shownLines?_plain {r : Report} (h : ∀ line ∈ r.lines, Paintable line) :
    shownLines? r.plain = some (r.lines.map unmarked) := by
  rw [shownLines?, lines?_plain h]
  exact congrArg some (List.map_congr_left fun line hline => by
    rw [shown_eq_self (escape_not_mem (h line hline))])

/-- A report in colour has as many lines as the plain one, in the same order. -/
theorem shownLines?_styled {r : Report} (h : ∀ line ∈ r.lines, Paintable line) :
    shownLines? r.styled = some (r.lines.map unmarked) := by
  rw [shownLines?, lines?_styled h, Option.map_some, List.map_map]
  exact congrArg some (List.map_congr_left fun line hline => by
    rw [Function.comp_apply, shown_paintedLine (h line hline), unmarked_unmarked])

/-- A line that gives a value under a name has nothing else in it. -/
theorem valueIn?_eq_some_iff {name line value : String} :
    valueIn? name line = some value ↔ line = name ++ ": " ++ value := by
  rw [valueIn?, Option.map_eq_some_iff]
  constructor
  · rintro ⟨rest, hrest, rfl⟩
    rw [← String.toList_inj, String.toList_append, String.toList_ofList]
    exact after?_eq_some_iff.1 hrest
  · rintro rfl
    exact ⟨value.toList, after?_eq_some_iff.2 String.toList_append, String.ofList_toList⟩

theorem valueIn?_eq_none {name line : String} (hname : name ≠ "")
    (h : line.toList.head? ≠ name.toList.head?) : valueIn? name line = none := by
  rw [Option.eq_none_iff_forall_ne_some]
  intro value hvalue
  obtain ⟨c, s, hname⟩ := List.exists_cons_of_ne_nil (mt String.toList_eq_nil_iff.1 hname)
  apply h
  rw [valueIn?_eq_some_iff.1 hvalue, String.toList_append, String.toList_append, hname]
  rfl

theorem unmarked_field {name value : String} (hname : '*' ∉ name.toList) (hvalue : '*' ∉ value.toList) :
    unmarked (field name value) = name ++ ": " ++ value := by
  rw [field]
  simp only [unmarked_append, unmarked_eq_self hname, unmarked_eq_self hvalue]
  rw [show unmarked "**" = "" from rfl, show unmarked "**: " = ": " from rfl, String.empty_append]

end WallClock.Report
