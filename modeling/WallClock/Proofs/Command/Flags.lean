import WallClock.Command.Reader

/-!
A flag given in front of all other arguments. Unless it is given once more at the same level, what else is
given is read as without it.
-/

namespace WallClock.Command

namespace Given

/-- With a flag that was given before anything else. -/
def withFlag (g : Given) (flag : String) : Given :=
  { g with flags := g.flags ++ [flag] }

variable {g g' : Given} {flag : String}

theorem has_withFlag (g : Given) (flag name : String) :
    (g.withFlag flag).has name = (g.has name || name == flag) := by
  rw [Bool.eq_iff_iff]
  simp [has, withFlag]

/-! ### What is given alongside -/

theorem addFlag_withFlag {name : String} (h : name ≠ flag) :
    (g.withFlag flag).addFlag name = (g.addFlag name).map (·.withFlag flag) := by
  rw [addFlag, addFlag, has_withFlag, beq_false_of_ne h, Bool.or_false]
  cases g.has name with
  | true => rfl
  | false => rfl

theorem addValue_withFlag (name : String) (isUsable : String → Bool) (value : String) :
    (g.withFlag flag).addValue name isUsable value =
      (g.addValue name isUsable value).map (·.withFlag flag) := by
  rw [addValue, addValue, show (g.withFlag flag).value? name = g.value? name from rfl]
  cases isUsable value with
  | false => rfl
  | true =>
    cases (g.value? name).isSome with
    | true => rfl
    | false => rfl

theorem addWord_withFlag (level : Level) (word : String) :
    (g.withFlag flag).addWord level word = (g.addWord level word).map (·.withFlag flag) := by
  rw [addWord, addWord, show (g.withFlag flag).words = g.words from rfl]
  cases level.mostWords.any (· ≤ g.words.length) with
  | true => rfl
  | false =>
    cases level.isUsableWord word with
    | true => rfl
    | false => rfl

theorem addWords_withFlag (level : Level) (words : List String) :
    (g.withFlag flag).addWords level words = (g.addWords level words).map (·.withFlag flag) := by
  induction words generalizing g with
  | nil => rfl
  | cons word rest ih =>
    rw [addWords, addWords, addWord_withFlag]
    cases g.addWord level word with
    | error stop => rfl
    | ok g₁ => exact ih

/-! ### What stays given -/

/-- Whatever flags are given are given afterwards as well. -/
def Keeps (g g' : Given) : Prop :=
  ∀ name, g.has name = true → g'.has name = true

theorem Keeps.trans {g'' : Given} (h : g.Keeps g') (h' : g'.Keeps g'') : g.Keeps g'' :=
  fun name hname => h' name (h name hname)

theorem keeps_of_addFlag {name : String} (h : g.addFlag name = .ok g') :
    g.Keeps g' ∧ g'.has name = true := by
  rw [addFlag] at h
  split at h
  · cases h
  · cases h
    constructor
    · intro other hother
      rw [has] at hother ⊢
      simp_all
    · simp [has]

theorem keeps_of_addValue {name value : String} {isUsable : String → Bool}
    (h : g.addValue name isUsable value = .ok g') : g.Keeps g' := by
  rw [addValue] at h
  split at h
  · cases h
  · split at h
    · cases h
    · cases h
      exact fun name hname => hname

theorem keeps_of_addWord {level : Level} {word : String} (h : g.addWord level word = .ok g') :
    g.Keeps g' := by
  rw [addWord] at h
  split at h
  · cases h
  · split at h
    · cases h
    · cases h
      exact fun name hname => hname

theorem keeps_of_addWords {level : Level} {words : List String} (h : g.addWords level words = .ok g') :
    g.Keeps g' := by
  induction words generalizing g with
  | nil =>
    cases h
    exact fun name hname => hname
  | cons word rest ih =>
    rw [addWords] at h
    cases hword : g.addWord level word with
    | error stop =>
      rw [hword] at h
      cases h
    | ok g₁ =>
      rw [hword] at h
      exact (keeps_of_addWord hword).trans (ih h)

end Given

/-! ### Switches -/

/-- What came of a switch, with a flag given before. -/
def Taken.withFlag (flag : String) : Taken → Taken
  | .done g => .done (g.withFlag flag)
  | .awaits name isUsable => .awaits name isUsable

variable {g g' : Given} {flag : String}

theorem takeSwitch_withFlag {s : Switch} {value : Option String} (h : value = none → s.long ≠ flag) :
    takeSwitch (g.withFlag flag) s value = (takeSwitch g s value).map (Taken.withFlag flag) := by
  obtain ⟨long, short, use⟩ := s
  cases value with
  | some value =>
    cases use with
    | value isUsable =>
      simp only [takeSwitch, Given.addValue_withFlag]
      cases g.addValue long isUsable value with
      | ok g₁ => rfl
      | error stop => rfl
    | flag | help | version => rfl
  | none =>
    cases use with
    | flag =>
      simp only [takeSwitch, Given.addFlag_withFlag (h rfl)]
      cases g.addFlag long with
      | ok g₁ => rfl
      | error stop => rfl
    | value | help | version => rfl

theorem keeps_of_takeSwitch {s : Switch} {value : Option String} (h : takeSwitch g s value = .ok (.done g')) :
    g.Keeps g' := by
  obtain ⟨long, short, use⟩ := s
  cases value with
  | some value =>
    cases use with
    | value isUsable =>
      simp only [takeSwitch] at h
      cases hvalue : g.addValue long isUsable value with
      | error stop =>
        rw [hvalue] at h
        cases h
      | ok g₁ =>
        rw [hvalue] at h
        cases h
        exact Given.keeps_of_addValue hvalue
    | flag | help | version => cases h
  | none =>
    cases use with
    | flag =>
      simp only [takeSwitch] at h
      cases hflag : g.addFlag long with
      | error stop =>
        rw [hflag] at h
        cases h
      | ok g₁ =>
        rw [hflag] at h
        cases h
        exact (Given.keeps_of_addFlag hflag).1
    | value | help | version => cases h

namespace Level

variable {level : Level}

/-- A switch of this name is a flag and is spelt out. -/
def SpellsOut (level : Level) (flag : String) : Prop :=
  ∀ s ∈ level.switches, s.long = flag → s.short = none ∧ s.use = .flag

theorem takeLong_withFlag {name : String} {value : Option String} (h : value = none → name ≠ flag) :
    level.takeLong (g.withFlag flag) name value =
      (level.takeLong g name value).map (Taken.withFlag flag) := by
  rw [takeLong, takeLong]
  cases hfind : level.switches.find? (·.long == name) with
  | none => rfl
  | some s =>
    have hname : s.long = name := by simpa using List.find?_some hfind
    exact takeSwitch_withFlag fun hvalue => hname ▸ h hvalue

theorem takeShort_withFlag (hlevel : level.SpellsOut flag) (letters : List Char) :
    level.takeShort (g.withFlag flag) letters =
      (level.takeShort g letters).map (Taken.withFlag flag) := by
  induction letters generalizing g with
  | nil => rfl
  | cons c letters ih =>
    rw [takeShort, takeShort]
    cases hfind : level.switches.find? (·.short == some c) with
    | none => rfl
    | some s =>
      have hshort : s.short = some c := by simpa using List.find?_some hfind
      have hne : s.long ≠ flag := by
        intro hflag
        rw [(hlevel s (List.mem_of_find?_eq_some hfind) hflag).1] at hshort
        cases hshort
      have hswitch : ∀ value, takeSwitch (g.withFlag flag) s value =
          (takeSwitch g s value).map (Taken.withFlag flag) := fun value => takeSwitch_withFlag fun _ => hne
      dsimp only
      split
      · exact hswitch _
      · rw [hswitch none]
        cases takeSwitch g s none with
        | error stop => rfl
        | ok taken =>
          cases taken with
          | done g₁ => exact ih
          | awaits name isUsable => rfl

theorem keeps_of_takeShort {letters : List Char} (h : level.takeShort g letters = .ok (.done g')) :
    g.Keeps g' := by
  induction letters generalizing g with
  | nil =>
    cases h
    exact fun name hname => hname
  | cons c letters ih =>
    rw [takeShort] at h
    cases hfind : level.switches.find? (·.short == some c) with
    | none =>
      rw [hfind] at h
      cases h
    | some s =>
      rw [hfind] at h
      dsimp only at h
      split at h
      · exact keeps_of_takeSwitch h
      · cases hswitch : takeSwitch g s none with
        | error stop =>
          rw [hswitch] at h
          cases h
        | ok taken =>
          rw [hswitch] at h
          cases taken with
          | done g₁ => exact (keeps_of_takeSwitch hswitch).trans (ih h)
          | awaits name isUsable => cases h

/-- Nothing that an argument spells takes a flag back. -/
theorem keeps_of_take {spelling : Spelling} (h : level.take g spelling = .ok (.done g')) : g.Keeps g' := by
  cases spelling with
  | long name value =>
    rw [take, takeLong] at h
    split at h
    · exact keeps_of_takeSwitch h
    · cases h
  | short letters => exact keeps_of_takeShort h

/-- Each argument is taken in the same way whether the flag was given before or not, but for the flag
itself. -/
theorem take_withFlag (hlevel : level.SpellsOut flag) {spelling : Spelling}
    (h : spelling ≠ .long flag none) :
    level.take (g.withFlag flag) spelling = (level.take g spelling).map (Taken.withFlag flag) := by
  cases spelling with
  | long name value =>
    apply takeLong_withFlag
    rintro rfl rfl
    exact h rfl
  | short letters => exact takeShort_withFlag hlevel letters

theorem take_awaits_withFlag (hlevel : level.SpellsOut flag) {spelling : Spelling}
    (h : spelling ≠ .long flag none) {name : String} {isUsable : String → Bool}
    (htake : level.take g spelling = .ok (.awaits name isUsable)) :
    level.take (g.withFlag flag) spelling = .ok (.awaits name isUsable) := by
  rw [take_withFlag hlevel h, htake]
  rfl

/-! ### Levels -/

theorem readFrom_of_word {g₁ : Given} {arg : String} {rest : List String} (hlook : look arg = .word)
    (hcommand : level.commands.lookup arg = none) (hword : g.addWord level arg = .ok g₁) :
    level.readFrom g (arg :: rest) = level.readFrom g₁ rest := by
  rw [readFrom, hlook]
  dsimp only
  rw [hcommand, hword]

/-- Where the argument is complete in itself, reading goes on behind it. -/
theorem readFrom_of_done {g₁ : Given} {arg : String} {s : Spelling} {rest : List String}
    (hlook : look arg = .switches s) (htake : level.take g s = .ok (.done g₁)) :
    level.readFrom g (arg :: rest) = level.readFrom g₁ rest := by
  rw [readFrom, hlook]
  dsimp only
  rw [htake]

/-- A switch that awaits its value takes it from the argument behind it. -/
theorem readFrom_of_awaits {arg name : String} {s : Spelling} {isUsable : String → Bool} {rest : List String}
    (hlook : look arg = .switches s) (htake : level.take g s = .ok (.awaits name isUsable)) :
    level.readFrom g (arg :: rest) = match rest with
      | [] => .error (.misuse (.missingValue name))
      | value :: rest =>
          if isValue value then
            match g.addValue name isUsable value with
            | .ok g₁ => level.readFrom g₁ rest
            | .error stop => .error stop
          else .error (.misuse (.missingValue name)) := by
  rw [readFrom.eq_def]
  dsimp only
  rw [hlook]
  dsimp only
  rw [htake]
  cases rest with
  | nil => rfl
  | cons value rest => rfl

theorem keeps_of_readFrom {args : List String} {next : Option (String × List String)}
    (h : level.readFrom g args = .ok (g', next)) : g.Keeps g' := by
  fun_induction level.readFrom g args with
  | case1 g =>
    cases h
    exact fun name hname => hname
  | case2 g arg rest hlook =>
    cases hwords : g.addWords level rest with
    | error stop =>
      rw [hwords] at h
      cases h
    | ok g₁ =>
      rw [hwords] at h
      cases h
      exact Given.keeps_of_addWords hwords
  | case3 g arg rest hlook command hcommand =>
    cases h
    exact fun name hname => hname
  | case4 g arg rest hlook hcommand g₁ hword ih => exact (Given.keeps_of_addWord hword).trans (ih h)
  | case7 g arg s hlook g₁ rest htake ih => exact (keeps_of_take htake).trans (ih h)
  | case9 g arg s hlook name isUsable value rest htake hvalue g₁ hadd ih =>
    exact (Given.keeps_of_addValue hadd).trans (ih h)
  | case5 | case6 | case8 | case10 | case11 => cases h

theorem eq_of_look {arg name : String} (h : look arg = .switches (.long name none)) : arg = "--" ++ name := by
  rw [look] at h
  split at h
  · cases h
  · rename_i s hne harg
    dsimp only at h
    split at h
    · rename_i hvalue
      cases h
      have hname := List.takeWhile_append_dropWhile (p := (· != '=')) (l := s)
      rw [hvalue, List.append_nil] at hname
      rw [← String.toList_inj, harg, hname]
      simp
    · cases h
  · cases h
  · cases h

/-- Who is given a flag has it to the end. -/
theorem has_of_readFrom (hlevel : level.SpellsOut flag) {arg : String} {rest : List String}
    (hlook : look arg = .switches (.long flag none)) {next : Option (String × List String)}
    (h : level.readFrom g (arg :: rest) = .ok (g', next)) : g'.has flag = true := by
  rw [readFrom, hlook] at h
  dsimp only [take, takeLong] at h
  cases hfind : level.switches.find? (·.long == flag) with
  | none =>
    rw [hfind] at h
    cases h
  | some s =>
    have hlong : s.long = flag := by simpa using List.find?_some hfind
    have huse := (hlevel s (List.mem_of_find?_eq_some hfind) hlong).2
    rw [hfind] at h
    dsimp only [takeSwitch] at h
    rw [huse, hlong] at h
    cases hflag : g.addFlag flag with
    | error stop =>
      rw [hflag] at h
      cases h
    | ok g₁ =>
      rw [hflag] at h
      obtain ⟨-, hhas⟩ := Given.keeps_of_addFlag hflag
      exact keeps_of_readFrom h flag hhas

/-- What is read of a level, with a flag given before. -/
def withFlag (flag : String) (read : Given × Option (String × List String)) :
    Given × Option (String × List String) :=
  (read.1.withFlag flag, read.2)

/-- A flag that was given before is read along, unless it is given again. -/
theorem readFrom_withFlag (hlevel : level.SpellsOut flag) (g : Given) (args : List String) :
    level.readFrom (g.withFlag flag) args = (level.readFrom g args).map (withFlag flag) ∨
      "--" ++ flag ∈ args ∧
        ∀ g' next, level.readFrom g args = .ok (g', next) → g'.has flag = true := by
  have hagain : ∀ {g arg rest}, look arg = .switches (.long flag none) →
      "--" ++ flag ∈ arg :: rest ∧
        ∀ g' next, level.readFrom g (arg :: rest) = .ok (g', next) → g'.has flag = true := by
    intro g arg rest hlook
    exact ⟨eq_of_look hlook ▸ List.mem_cons_self, fun g' next h => has_of_readFrom hlevel hlook h⟩
  induction g, args using Level.readFrom.induct level with
  | case1 g => exact Or.inl rfl
  | case2 g arg rest hlook =>
    refine Or.inl ?_
    rw [readFrom, readFrom, hlook]
    dsimp only
    rw [Given.addWords_withFlag]
    cases g.addWords level rest with
    | ok g₁ => rfl
    | error stop => rfl
  | case3 g arg rest hlook command hcommand =>
    refine Or.inl ?_
    rw [readFrom, readFrom, hlook]
    dsimp only
    rw [hcommand]
    rfl
  | case4 g arg rest hlook hcommand g₁ hword ih =>
    have hflagged : (g.withFlag flag).addWord level arg = .ok (g₁.withFlag flag) := by
      rw [Given.addWord_withFlag, hword]
      rfl
    rw [readFrom_of_word hlook hcommand hword, readFrom_of_word hlook hcommand hflagged]
    exact ih.imp_right fun ⟨hmem, hhas⟩ => ⟨List.mem_cons_of_mem arg hmem, hhas⟩
  | case5 g arg rest hlook hcommand stop hword =>
    refine Or.inl ?_
    rw [readFrom, readFrom, hlook]
    dsimp only
    rw [hcommand, Given.addWord_withFlag, hword]
    rfl
  | case6 g arg rest s hlook stop htake =>
    by_cases hs : s = .long flag none
    · exact Or.inr (hagain (hs ▸ hlook))
    · refine Or.inl ?_
      rw [readFrom, readFrom, hlook]
      dsimp only
      rw [take_withFlag hlevel hs, htake]
      rfl
  | case7 g arg s hlook g₁ rest htake ih =>
    by_cases hs : s = .long flag none
    · exact Or.inr (hagain (hs ▸ hlook))
    · have hflagged : level.take (g.withFlag flag) s = .ok (.done (g₁.withFlag flag)) := by
        rw [take_withFlag hlevel hs, htake]
        rfl
      rw [readFrom_of_done hlook htake, readFrom_of_done hlook hflagged]
      exact ih.imp_right fun ⟨hmem, hhas⟩ => ⟨List.mem_cons_of_mem arg hmem, hhas⟩
  | case8 g arg s hlook name isUsable htake =>
    by_cases hs : s = .long flag none
    · exact Or.inr (hagain (hs ▸ hlook))
    · refine Or.inl ?_
      rw [readFrom_of_awaits hlook htake, readFrom_of_awaits hlook (take_awaits_withFlag hlevel hs htake)]
      rfl
  | case9 g arg s hlook name isUsable value rest htake hvalue g₁ hadd ih =>
    by_cases hs : s = .long flag none
    · exact Or.inr (hagain (hs ▸ hlook))
    · rw [readFrom_of_awaits hlook htake, readFrom_of_awaits hlook (take_awaits_withFlag hlevel hs htake)]
      dsimp only
      rw [if_pos hvalue, if_pos hvalue, Given.addValue_withFlag, hadd]
      refine ih.imp_right fun ⟨hmem, hhas⟩ => ⟨?_, hhas⟩
      exact List.mem_cons_of_mem arg (List.mem_cons_of_mem value hmem)
  | case10 g arg s hlook name isUsable value rest htake hvalue stop hadd =>
    by_cases hs : s = .long flag none
    · exact Or.inr (hagain (hs ▸ hlook))
    · refine Or.inl ?_
      rw [readFrom_of_awaits hlook htake, readFrom_of_awaits hlook (take_awaits_withFlag hlevel hs htake)]
      dsimp only
      rw [if_pos hvalue, if_pos hvalue, Given.addValue_withFlag, hadd]
      rfl
  | case11 g arg s hlook name isUsable value rest htake hvalue =>
    by_cases hs : s = .long flag none
    · exact Or.inr (hagain (hs ▸ hlook))
    · refine Or.inl ?_
      rw [readFrom_of_awaits hlook htake, readFrom_of_awaits hlook (take_awaits_withFlag hlevel hs htake)]
      dsimp only
      rw [if_neg hvalue, if_neg hvalue]
      rfl

end Level

end WallClock.Command
