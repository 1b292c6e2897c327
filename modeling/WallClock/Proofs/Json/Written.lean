import WallClock.Proofs.Json.Value

/-!
The texts of a value of JSON. The reader keeps what it has read in its frames, so that the tokens it has
spent can be told from what is open and what is due; each step adds its token to them. Hence a value is
read only from its own tokens, and a text has the value just if it is a layout of these.
-/

namespace WallClock.Json.Value

/-! ### Tokens that have been spent -/

/-- Elements that are done, each with the comma after it. -/
def doneElements (done : List Value) : List Token :=
  done.reverse.flatMap fun v => v.tokens ++ [.comma]

/-- Members that are done, each with the comma after it. -/
def doneMembers (done : List (Content × Value)) : List Token :=
  done.reverse.flatMap fun member => memberTokens member ++ [.comma]

/-- The tokens of what an open array or object holds so far. -/
def Frame.spent : Frame → List Token
  | array done => .openArray :: doneElements done
  | object done name => .openObject :: (doneMembers done ++ [.string name, .colon])

/-- The tokens since the innermost array or object that is open, or of a value that is complete. -/
def Due.spent : Due → List Token
  | value => []
  | firstElement => [.openArray]
  | firstName => [.openObject]
  | name done => .openObject :: doneMembers done
  | colon done key => .openObject :: (doneMembers done ++ [.string key])
  | afterValue v => v.tokens

/-- All the tokens that have been read. -/
def spent (due : Due) (stack : List Frame) : List Token :=
  stack.reverse.flatMap Frame.spent ++ due.spent

theorem doneElements_cons (v : Value) (done : List Value) :
    doneElements (v :: done) = doneElements done ++ (v.tokens ++ [.comma]) := by
  simp [doneElements]

theorem doneMembers_nil : doneMembers [] = [] :=
  rfl

theorem doneMembers_cons (member : Content × Value) (done : List (Content × Value)) :
    doneMembers (member :: done) = doneMembers done ++ (memberTokens member ++ [.comma]) := by
  simp [doneMembers]

theorem spent_push (frame : Frame) (stack : List Frame) (due : Due) :
    spent due (frame :: stack) = stack.reverse.flatMap Frame.spent ++ (frame.spent ++ due.spent) := by
  simp [spent]

/-- A token that begins something is all that has been read of it. -/
theorem spent_of_begin? {t : Token} {due : Due} (h : begin? t = some due) : due.spent = [t] := by
  cases t <;> cases h <;> rfl

/-- A step spends its token. -/
theorem spent_of_step? {due due' : Due} {stack stack' : List Frame} {t : Token}
    (h : step? due stack t = some (due', stack')) : spent due' stack' = spent due stack ++ [t] := by
  unfold step? at h
  split at h
  -- A value begins (1), or the first element does (3); an array (9) or an object (11) ends; no step (12).
  -- Every other step puts its token behind what one frame, or what is due, has spent.
  case h_1 =>
    obtain ⟨_, hbegin, heq⟩ := Option.map_eq_some_iff.1 h
    cases heq
    rw [spent, spent, spent_of_begin? hbegin, Due.spent, List.append_nil]
  case h_3 =>
    obtain ⟨_, hbegin, heq⟩ := Option.map_eq_some_iff.1 h
    cases heq
    rw [spent_push, spent_of_begin? hbegin, spent, List.append_assoc]
    rfl
  case h_9 =>
    cases h
    rw [spent_push, spent, Due.spent, List.reverse_cons, tokens_array_concat]
    simp [Frame.spent, Due.spent, doneElements]
  case h_11 =>
    cases h
    rw [spent_push, spent, Due.spent, List.reverse_cons, tokens_object_concat]
    simp [Frame.spent, Due.spent, doneMembers, memberTokens]
  case h_12 => cases h
  all_goals
    cases h
    simp [spent, Due.spent, Frame.spent, doneElements_cons, doneMembers_nil, doneMembers_cons,
      memberTokens, tokens]

/-- A run that gives a value has spent the tokens of the value. -/
theorem spent_of_readFrom {due : Due} {stack : List Frame} {ts : List Token} {v : Value}
    (h : readFrom due stack ts = some v) : spent due stack ++ ts = v.tokens := by
  induction ts generalizing due stack with
  | nil =>
    cases due with
    | afterValue w =>
      cases stack with
      | nil =>
        cases h
        exact List.append_nil _
      | cons => cases h
    | _ => cases h
  | cons t ts ih =>
    rw [readFrom] at h
    split at h
    · rename_i hstep
      rw [← ih h, spent_of_step? hstep, List.append_assoc, List.singleton_append]
    · cases h

/-- A value is read from its own tokens and from no others. -/
theorem ofTokens?_eq_some_iff {ts : List Token} {v : Value} : ofTokens? ts = some v ↔ ts = v.tokens := by
  constructor
  · exact fun h => spent_of_readFrom h
  · rintro rfl
    exact v.ofTokens?_tokens

/-! ### Texts -/

/-- A text is read as a value just if it is the value in some layout. -/
theorem parse?_eq_some_iff {text : String} {v : Value} : parse? text = some v ↔ v.Written text := by
  constructor
  · intro h
    obtain ⟨ts, hts, hv⟩ := Option.bind_eq_some_iff.1 h
    rw [ofTokens?_eq_some_iff] at hv
    subst hv
    exact Token.laid_of_ofText? hts
  · exact Written.parse?

/-- Only a number needs something behind it to be seen to end. -/
theorem endsAt_tokens {v : Value} (h : ∀ spelling, v ≠ number spelling) (s : List Char) :
    Token.EndsAt v.tokens s := by
  intro spelling hlast
  cases v with
  | number spelling => exact absurd rfl (h spelling)
  | array elements =>
    rw [getLast?_tokens_array] at hlast
    cases hlast
  | object members =>
    rw [getLast?_tokens_object] at hlast
    cases hlast
  | _ => cases hlast

/-- A value is over with its last token. -/
theorem readFrom_afterValue_cons (v : Value) (t : Token) (ts : List Token) :
    readFrom (.afterValue v) [] (t :: ts) = none := by
  rw [readFrom]
  rfl

/-- Nothing but blanks may follow a value. -/
theorem parse?_append_eq_none {v : Value} {text tail : String} (h : v.Written text)
    (hv : ∀ spelling, v ≠ number spelling) (htail : ¬ Token.IsGap tail.toList) :
    parse? (text ++ tail) = none := by
  rw [parse?, ofText?, String.toList_append, h.ofText?_append v.isChain_parted (endsAt_tokens hv _)]
  cases hts : Token.ofText? tail.toList with
  | none => rfl
  | some ts =>
    cases ts with
    | nil =>
      cases Token.laid_of_ofText? hts with
      | nil hgap => exact absurd hgap htail
    | cons t ts =>
      change ofTokens? (v.tokens ++ t :: ts) = none
      rw [ofTokens?, readFrom_tokens, readFrom_afterValue_cons]

end WallClock.Json.Value
