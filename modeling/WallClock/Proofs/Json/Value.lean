import WallClock.Proofs.Json.Layout

/-!
Values of JSON are read back from their tokens: what has been read stands at the front of the tokens
that are left, whatever is still open around it. Together with the layouts this gives that a value is
read back from its text, in one line as in many.
-/

namespace WallClock.Json.Value

open Token (IsEnd Parted)

/-! ### Reading -/

theorem exists_cons_tokens (v : Value) :
    ∃ t ts, v.tokens = t :: ts ∧ t ≠ .closeArray := by
  cases v with
  | array elements => cases elements <;> exact ⟨.openArray, _, rfl, nofun⟩
  | object members => cases members <;> exact ⟨.openObject, _, rfl, nofun⟩
  | _ => exact ⟨_, _, rfl, nofun⟩

theorem readFrom_firstElement (v : Value) (stack : List Frame) (ts : List Token) :
    readFrom .firstElement stack (v.tokens ++ ts) =
      readFrom .value (.array [] :: stack) (v.tokens ++ ts) := by
  obtain ⟨t, rest, htokens, hne⟩ := v.exists_cons_tokens
  rw [htokens, List.cons_append, readFrom, readFrom]
  cases t with
  | closeArray => exact absurd rfl hne
  | _ => rfl

mutual

/-- The tokens of a value are read as that value, inside whatever is open. -/
theorem readFrom_tokens : ∀ (v : Value) (stack : List Frame) (ts : List Token),
    readFrom .value stack (v.tokens ++ ts) = readFrom (.afterValue v) stack ts
  | .null, _, _ => rfl
  | .bool _, _, _ => rfl
  | .number _, _, _ => rfl
  | .string _, _, _ => rfl
  | .array [], _, _ => rfl
  | .array (first :: rest), stack, ts => by
    rw [tokens, List.cons_append, List.append_assoc]
    change readFrom .firstElement stack _ = _
    rw [readFrom_firstElement, readFrom_tokens first, readFrom_elementTokens rest]
    rfl
  | .object [], _, _ => rfl
  | .object ((name, first) :: rest), stack, ts => by
    rw [tokens, memberTokens, List.cons_append, List.append_assoc, List.cons_append, List.cons_append]
    change readFrom .value (.object [] name :: stack) _ = _
    rw [readFrom_tokens first, readFrom_memberListTokens rest]
    rfl

theorem readFrom_elementTokens : ∀ (rest : List Value) (v : Value) (done : List Value)
    (stack : List Frame) (ts : List Token),
    readFrom (.afterValue v) (.array done :: stack) (elementTokens rest ++ ts) =
      readFrom (.afterValue (.array (done.reverse ++ v :: rest))) stack ts
  | [], v, done, stack, ts => by
    change readFrom (.afterValue (.array (v :: done).reverse)) stack ts = _
    rw [List.reverse_cons]
  | first :: rest, v, done, stack, ts => by
    rw [elementTokens, List.cons_append, List.append_assoc]
    change readFrom .value (.array (v :: done) :: stack) _ = _
    rw [readFrom_tokens first, readFrom_elementTokens rest, List.reverse_cons, List.append_assoc]
    rfl

theorem readFrom_memberListTokens : ∀ (rest : List (Content × Value)) (name : Content) (v : Value)
    (done : List (Content × Value)) (stack : List Frame) (ts : List Token),
    readFrom (.afterValue v) (.object done name :: stack) (memberListTokens rest ++ ts) =
      readFrom (.afterValue (.object (done.reverse ++ (name, v) :: rest))) stack ts
  | [], name, v, done, stack, ts => by
    change readFrom (.afterValue (.object ((name, v) :: done).reverse)) stack ts = _
    rw [List.reverse_cons]
  | (name', first) :: rest, name, v, done, stack, ts => by
    rw [memberListTokens, memberTokens, List.cons_append, List.append_assoc, List.cons_append,
      List.cons_append]
    change readFrom .value (.object ((name, v) :: done) name' :: stack) _ = _
    rw [readFrom_tokens first, readFrom_memberListTokens rest, List.reverse_cons, List.append_assoc]
    rfl

end

theorem ofTokens?_tokens (v : Value) : ofTokens? v.tokens = some v := by
  have h := v.readFrom_tokens [] []
  rwa [List.append_nil] at h

/-! ### Arrays and objects from their last tokens -/

/-- Elements between a comma and a last one. -/
theorem elementTokens_concat (vs : List Value) (v : Value) :
    elementTokens (vs ++ [v]) =
      .comma :: (vs.flatMap (fun v => v.tokens ++ [.comma]) ++ (v.tokens ++ [.closeArray])) := by
  induction vs with
  | nil => rfl
  | cons first vs ih => simp [elementTokens, ih]

theorem memberListTokens_concat (members : List (Content × Value)) (member : Content × Value) :
    memberListTokens (members ++ [member]) =
      .comma :: (members.flatMap (fun member => memberTokens member ++ [.comma]) ++
        (memberTokens member ++ [.closeObject])) := by
  induction members with
  | nil => rfl
  | cons first members ih => simp [memberListTokens, ih]

theorem tokens_array_concat (vs : List Value) (v : Value) :
    (array (vs ++ [v])).tokens =
      .openArray :: (vs.flatMap (fun v => v.tokens ++ [.comma]) ++ (v.tokens ++ [.closeArray])) := by
  cases vs with
  | nil => rfl
  | cons first rest => simp [tokens, elementTokens_concat]

theorem tokens_object_concat (members : List (Content × Value)) (member : Content × Value) :
    (object (members ++ [member])).tokens =
      .openObject :: (members.flatMap (fun member => memberTokens member ++ [.comma]) ++
        (memberTokens member ++ [.closeObject])) := by
  cases members with
  | nil => rfl
  | cons first rest => simp [tokens, memberListTokens_concat]

/-- The last token of an array or object is its closing bracket. -/
theorem getLast?_tokens_array (elements : List Value) :
    (array elements).tokens.getLast? = some .closeArray := by
  rcases List.eq_nil_or_concat' elements with rfl | ⟨vs, v, rfl⟩
  · rfl
  · simp [tokens_array_concat, List.getLast?_cons]

theorem getLast?_tokens_object (members : List (Content × Value)) :
    (object members).tokens.getLast? = some .closeObject := by
  rcases List.eq_nil_or_concat' members with rfl | ⟨ms, member, rfl⟩
  · rfl
  · simp [tokens_object_concat, List.getLast?_cons]

/-! ### Tokens that are spelt and told apart -/

/-- Whether the numbers in the value are spelt as numbers. -/
def WellSpelt (v : Value) : Prop :=
  ∀ t ∈ v.tokens, t.WellSpelt

theorem wellSpelt_bool (value : Bool) : (bool value).WellSpelt := by
  intro t ht
  rw [List.mem_singleton.1 ht]
  trivial

theorem wellSpelt_string (content : Content) : (string content).WellSpelt := by
  intro t ht
  rw [List.mem_singleton.1 ht]
  trivial

theorem wellSpelt_array {elements : List Value} (h : ∀ v ∈ elements, v.WellSpelt) :
    (array elements).WellSpelt := by
  rcases List.eq_nil_or_concat' elements with rfl | ⟨vs, v, rfl⟩
  · simp [Value.WellSpelt, tokens, Token.WellSpelt]
  · rw [Value.WellSpelt, tokens_array_concat]
    simp only [List.mem_cons, List.mem_append, List.mem_flatMap, List.not_mem_nil, or_false]
    rintro t (rfl | ⟨u, hu, ht | rfl⟩ | ht | rfl)
    · trivial
    · exact h u (List.mem_append_left _ hu) t ht
    · trivial
    · exact h v (List.mem_append_right _ (List.mem_singleton_self v)) t ht
    · trivial

theorem wellSpelt_object {members : List (Content × Value)}
    (h : ∀ member ∈ members, member.2.WellSpelt) : (object members).WellSpelt := by
  have hmember : ∀ member ∈ members, ∀ t ∈ memberTokens member, t.WellSpelt := by
    intro member hmember t ht
    rw [memberTokens, List.mem_cons, List.mem_cons] at ht
    rcases ht with rfl | rfl | ht
    · trivial
    · trivial
    · exact h member hmember t ht
  rcases List.eq_nil_or_concat' members with rfl | ⟨ms, member, rfl⟩
  · simp [Value.WellSpelt, tokens, Token.WellSpelt]
  · rw [Value.WellSpelt, tokens_object_concat]
    simp only [List.mem_cons, List.mem_append, List.mem_flatMap, List.not_mem_nil, or_false]
    rintro t (rfl | ⟨other, hother, ht | rfl⟩ | ht | rfl)
    · trivial
    · exact hmember other (List.mem_append_left _ hother) t ht
    · trivial
    · exact hmember member (List.mem_append_right _ (List.mem_singleton_self member)) t ht
    · trivial

/-- Only numbers must be kept apart from what follows them. -/
theorem isChain_cons {t : Token} {ts : List Token} (ht : ∀ spelling, t ≠ .number spelling)
    (h : ts.IsChain Parted) : (t :: ts).IsChain Parted := by
  refine List.isChain_cons.2 ⟨fun u _ => ?_, h⟩
  rintro ⟨spelling, heq⟩
  exact absurd heq (ht spelling)

theorem isEnd_elementTokens (rest : List Value) (ts : List Token) :
    ∀ u ∈ (elementTokens rest ++ ts).head?, IsEnd u := by
  cases rest with
  | nil => rintro u ⟨⟩; exact Or.inr (Or.inl rfl)
  | cons first rest => rintro u ⟨⟩; exact Or.inl rfl

theorem isEnd_memberListTokens (rest : List (Content × Value)) (ts : List Token) :
    ∀ u ∈ (memberListTokens rest ++ ts).head?, IsEnd u := by
  cases rest with
  | nil => rintro u ⟨⟩; exact Or.inr (Or.inr rfl)
  | cons first rest => rintro u ⟨⟩; exact Or.inl rfl

mutual

theorem isChain_tokens : ∀ (v : Value) {ts : List Token}, (∀ u ∈ ts.head?, IsEnd u) →
    ts.IsChain Parted → (v.tokens ++ ts).IsChain Parted
  | .null, _, _, h => isChain_cons nofun h
  | .bool _, _, _, h => isChain_cons nofun h
  | .number _, _, hend, h => List.isChain_cons.2 ⟨fun u hu _ => hend u hu, h⟩
  | .string _, _, _, h => isChain_cons nofun h
  | .array [], _, _, h => isChain_cons nofun (isChain_cons nofun h)
  | .array (first :: rest), _, _, h => by
    rw [tokens, List.cons_append, List.append_assoc]
    exact isChain_cons nofun
      (isChain_tokens first (isEnd_elementTokens rest _) (isChain_elementTokens rest h))
  | .object [], _, _, h => isChain_cons nofun (isChain_cons nofun h)
  | .object ((name, first) :: rest), _, _, h => by
    rw [tokens, memberTokens, List.cons_append, List.append_assoc]
    exact isChain_cons nofun (isChain_cons nofun (isChain_cons nofun
      (isChain_tokens first (isEnd_memberListTokens rest _) (isChain_memberListTokens rest h))))

theorem isChain_elementTokens : ∀ (rest : List Value) {ts : List Token}, ts.IsChain Parted →
    (elementTokens rest ++ ts).IsChain Parted
  | [], _, h => isChain_cons nofun h
  | first :: rest, _, h => by
    rw [elementTokens, List.cons_append, List.append_assoc]
    exact isChain_cons nofun
      (isChain_tokens first (isEnd_elementTokens rest _) (isChain_elementTokens rest h))

theorem isChain_memberListTokens : ∀ (rest : List (Content × Value)) {ts : List Token},
    ts.IsChain Parted → (memberListTokens rest ++ ts).IsChain Parted
  | [], _, h => isChain_cons nofun h
  | (name, first) :: rest, _, h => by
    rw [memberListTokens, memberTokens, List.cons_append, List.append_assoc]
    exact isChain_cons nofun (isChain_cons nofun (isChain_cons nofun
      (isChain_tokens first (isEnd_memberListTokens rest _) (isChain_memberListTokens rest h))))

end

/-! ### Texts -/

/-- Two tokens that could run together do not stand next to each other in a value. -/
theorem isChain_parted (v : Value) : v.tokens.IsChain Parted := by
  have hchain : (v.tokens ++ []).IsChain Parted := v.isChain_tokens (fun u hu => by cases hu) .nil
  rwa [List.append_nil] at hchain

/-- The text is the value, laid out and spelt in some way. -/
def Written (v : Value) (text : String) : Prop :=
  Token.Laid v.tokens text.toList

/-- However a value is laid out and spelt, it is read back. -/
theorem Written.parse? {v : Value} {text : String} (h : v.Written text) : parse? text = some v := by
  rw [Value.parse?, ofText?, h.ofText? v.isChain_parted, Option.bind_some, ofTokens?_tokens]

/-- The text on one line is a way to write the value. -/
theorem written_compact {v : Value} (h : v.WellSpelt) : v.Written v.compact := by
  rw [Written, compact, String.toList_ofList]
  exact Token.laid_compact h

/-- The indented lines are the value, and blanks after them, such as the end of the last line, do no
harm. -/
theorem written_pretty_append {v : Value} (h : v.WellSpelt) {gap : String}
    (hgap : Token.IsGap gap.toList) : v.Written (v.pretty ++ gap) := by
  rw [Written, pretty, String.toList_append, String.toList_ofList]
  exact (Token.laid_pretty h 0).append_gap hgap

theorem parse?_compact_ofString (s : String) : parse? (ofString s).compact = some (ofString s) :=
  (written_compact (wellSpelt_string _)).parse?

end WallClock.Json.Value
