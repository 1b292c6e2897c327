import Mathlib.Data.List.Nodup
import WallClock.Proofs.Json.Written
import WallClock.Selector.Json

/-!
Selectors in any layout of their JSON. An object is read as a selector just if those of its members that
have one of the three names are the members of the selector, in some order; what else it holds, and where,
does not matter. An array is read as one just if it holds the three values and nothing else.
-/

namespace WallClock.Selector

open Json

/-! ### Members -/

/-- The members of the JSON of the selector. -/
def members (s : Selector) : List (String × Value) :=
  [("zones", .array (s.zones.map .ofString)), ("selected", .ofString s.selected),
    ("complete", .bool s.complete)]

/-- The names of the members, which are the same for every selector. -/
def memberNames : List String :=
  ["zones", "selected", "complete"]

/-- Whether members give the selector: each of its own is there once, in any order, between any
members of other names. -/
def GivenBy (s : Selector) (members : List (String × Value)) : Prop :=
  (members.filter fun member => member.1 ∈ memberNames).Perm s.members

def named (name : String) (members : List (String × Value)) : List (String × Value) :=
  members.filter fun member => member.1 == name

section
variable {name : String} {names : List String} {members : List (String × Value)} {s : Selector}

theorem named_filter_mem (h : name ∈ names) :
    named name (members.filter fun member => member.1 ∈ names) = named name members := by
  rw [named, List.filter_filter]
  refine List.filter_congr fun member _ => ?_
  by_cases heq : member.1 = name <;> simp [heq, h]

/-- Members can be sorted by their names. -/
theorem perm_flatMap_named (h : names.Nodup) :
    (members.filter fun member => member.1 ∈ names).Perm (names.flatMap (named · members)) := by
  induction names with
  | nil => simp
  | cons name names ih =>
    obtain ⟨hname, hnames⟩ := List.nodup_cons.1 h
    have hsplit := List.filter_append_perm (fun member : String × Value => member.1 == name)
      (members.filter fun member => member.1 ∈ name :: names)
    have hrest : ((members.filter fun member => member.1 ∈ name :: names).filter
        fun member => !(member.1 == name)) = members.filter fun member => member.1 ∈ names := by
      rw [List.filter_filter]
      refine List.filter_congr fun member _ => ?_
      by_cases heq : member.1 = name <;> simp [heq, hname]
    have hmem : name ∈ name :: names := List.mem_cons_self
    rw [hrest] at hsplit
    rw [List.flatMap_cons, ← named_filter_mem hmem]
    exact hsplit.symm.trans ((ih hnames).append_left _)

theorem named_members {member : String × Value} (h : member ∈ s.members) :
    named member.1 s.members = [member] := by
  simp only [Selector.members, List.mem_cons, List.not_mem_nil, or_false] at h
  rcases h with rfl | rfl | rfl <;> rfl

/-- The members of a selector give it. -/
theorem givenBy_members (s : Selector) : s.GivenBy s.members := by
  rw [GivenBy, List.filter_eq_self.2]
  intro member hmember
  exact decide_eq_true (List.mem_map_of_mem (f := Prod.fst) hmember)

/-- Members give the selector just if each of its own is the only one of its name. -/
theorem givenBy_iff :
    s.GivenBy members ↔ ∀ member ∈ s.members, named member.1 members = [member] := by
  constructor
  · intro h member hmember
    have hname : member.1 ∈ memberNames := List.mem_map_of_mem (f := Prod.fst) hmember
    rw [← named_filter_mem hname, ← List.perm_singleton, ← named_members hmember]
    exact h.filter _
  · intro h
    have hnodup : memberNames.Nodup := by decide
    have hown : memberNames.flatMap (named · members) = s.members := by
      change (s.members.map Prod.fst).flatMap (named · members) = s.members
      rw [List.flatMap_map, List.flatMap_congr h, List.flatMap_singleton']
    rw [GivenBy, ← hown]
    exact perm_flatMap_named hnodup

end

/-! ### Values -/

theorem string?_eq_some_iff {v : Value} {s : String} : v.string? = some s ↔ v = .ofString s := by
  constructor
  · intro h
    unfold Value.string? at h
    split at h
    · cases h
      simp [Value.ofString]
    · cases h
  · rintro rfl
    simp [Value.ofString, Value.string?]

theorem mapM_string?_eq_some_iff {elements : List Value} {names : List String} :
    elements.mapM Value.string? = some names ↔ elements = names.map .ofString := by
  induction elements generalizing names with
  | nil => cases names <;> simp
  | cons v elements ih =>
    cases names with
    | nil => simp [List.mapM_cons, Option.bind_eq_some_iff]
    | cons name names => simp [List.mapM_cons, Option.bind_eq_some_iff, string?_eq_some_iff, ih]

theorem strings?_eq_some_iff {v : Value} {names : List String} :
    strings? v = some names ↔ v = .array (names.map .ofString) := by
  cases v with
  | array elements =>
    rw [Value.array.injEq]
    exact mapM_string?_eq_some_iff
  | _ => simp [strings?, Value.array?]

theorem bool?_eq_some_iff {v : Value} {b : Bool} : v.bool? = some b ↔ v = .bool b := by
  cases v <;> simp [Value.bool?]

theorem ofValues?_eq_some_iff {zones selected complete : Value} {s : Selector} :
    ofValues? zones selected complete = some s ↔
      [zones, selected, complete] = s.members.map Prod.snd := by
  constructor
  · intro h
    obtain ⟨names, hnames, h⟩ := Option.bind_eq_some_iff.1 h
    obtain ⟨name, hname, h⟩ := Option.bind_eq_some_iff.1 h
    obtain ⟨flag, hflag, h⟩ := Option.bind_eq_some_iff.1 h
    rw [strings?_eq_some_iff] at hnames
    rw [string?_eq_some_iff] at hname
    rw [bool?_eq_some_iff] at hflag
    cases h
    rw [hnames, hname, hflag]
    rfl
  · intro h
    simp only [members, List.map_cons, List.map_nil, List.cons.injEq, and_true] at h
    have hnames := strings?_eq_some_iff.2 h.1
    have hname := string?_eq_some_iff.2 h.2.1
    have hflag := bool?_eq_some_iff.2 h.2.2
    simp [ofValues?, hnames, hname, hflag]

/-! ### Objects -/

theorem filter_ofMembers (name : String) (members : List (String × Value)) :
    (members.map fun (name, value) => ((some name.toList : Content), value)).filter
        (fun member => member.1 == some name.toList) =
      (named name members).map fun (name, value) => (some name.toList, value) := by
  rw [List.filter_map, named]
  congr 1
  refine List.filter_congr fun member _ => ?_
  simp [String.toList_inj]

theorem onlyMember?_eq_some_iff {name : String} {members : List (String × Value)} {v : Value} :
    onlyMember? name (members.map fun (name, value) => (some name.toList, value)) = some v ↔
      named name members = [(name, v)] := by
  have hname : ∀ member ∈ named name members, member.1 = name :=
    fun member hmember => by simpa using (List.mem_filter.1 hmember).2
  rw [onlyMember?, filter_ofMembers]
  rcases hnamed : named name members with _ | ⟨member, _ | ⟨other, rest⟩⟩
  · simp
  · have := hname member (by simp [hnamed])
    simp [Prod.ext_iff, this]
  · simp

/-- The object has to have each of the three members once, whatever else it has. -/
theorem ofJson?_ofMembers_eq_some_iff {members : List (String × Value)} {s : Selector} :
    ofJson? (.ofMembers members) = some s ↔ s.GivenBy members := by
  have hcontent : (members.map fun (name, value) => ((some name.toList : Content), value)).any
      (·.1.isNone) = false := by simp
  rw [givenBy_iff, Value.ofMembers, ofJson?, if_neg (by rw [hcontent]; exact Bool.false_ne_true)]
  simp only [Option.bind_eq_bind, Option.bind_eq_some_iff, onlyMember?_eq_some_iff,
    ofValues?_eq_some_iff]
  constructor
  · rintro ⟨zones, hzones, selected, hselected, complete, hcomplete, heq⟩
    simp only [Selector.members, List.map_cons, List.map_nil, List.cons.injEq, and_true] at heq
    obtain ⟨rfl, rfl, rfl⟩ := heq
    simp [Selector.members, hzones, hselected, hcomplete]
  · intro h
    simp only [Selector.members, List.forall_mem_cons] at h
    exact ⟨_, h.1, _, h.2.1, _, h.2.2.1, rfl⟩

theorem exists_ofMembers {members : List (Content × Value)} (h : ∀ member ∈ members, member.1 ≠ none) :
    ∃ ms, Value.object members = .ofMembers ms := by
  induction members with
  | nil => exact ⟨[], rfl⟩
  | cons member members ih =>
    rw [List.forall_mem_cons] at h
    obtain ⟨ms, hms⟩ := ih h.2
    obtain ⟨_ | name, value⟩ := member
    · exact absurd rfl h.1
    · refine ⟨(String.ofList name, value) :: ms, ?_⟩
      rw [Value.ofMembers, Value.object.injEq] at hms ⊢
      rw [List.map_cons, ← hms]
      simp only [String.toList_ofList]

/-- The values that are read as the selector. -/
theorem ofJson?_eq_some_iff {v : Value} {s : Selector} :
    ofJson? v = some s ↔
      (∃ members, s.GivenBy members ∧ v = .ofMembers members) ∨ v = .array (s.members.map Prod.snd) := by
  constructor
  · intro h
    match v, h with
    | .object members, h =>
      have hcontent : ∀ member ∈ members, member.1 ≠ none := by
        intro member hmember hnone
        have hany : members.any (·.1.isNone) = true := List.any_eq_true.2 ⟨member, hmember, by simp [hnone]⟩
        rw [ofJson?, if_pos hany] at h
        cases h
      obtain ⟨ms, hms⟩ := exists_ofMembers hcontent
      rw [hms, ofJson?_ofMembers_eq_some_iff] at h
      exact .inl ⟨ms, h, hms⟩
    | .array [zones, selected, complete], h =>
      exact .inr (congrArg Value.array (ofValues?_eq_some_iff.1 h))
  · rintro (⟨members, hgiven, rfl⟩ | rfl)
    · exact ofJson?_ofMembers_eq_some_iff.2 hgiven
    · exact ofValues?_eq_some_iff.2 rfl

/-! ### Texts -/

theorem parse?_of_written {v : Value} {text : String} (h : v.Written text) :
    parse? text = ofJson? v := by
  rw [parse?, h.parse?, Option.bind_some]

/-- The texts that are read as the selector, all of them. -/
theorem parse?_eq_some_iff {text : String} {s : Selector} :
    parse? text = some s ↔
      (∃ members, s.GivenBy members ∧ (Value.ofMembers members).Written text) ∨
        (Value.array (s.members.map Prod.snd)).Written text := by
  constructor
  · intro h
    obtain ⟨v, hv, hs⟩ := Option.bind_eq_some_iff.1 h
    rw [Value.parse?_eq_some_iff] at hv
    rcases ofJson?_eq_some_iff.1 hs with ⟨members, hgiven, rfl⟩ | rfl
    · exact .inl ⟨members, hgiven, hv⟩
    · exact .inr hv
  · rintro (⟨members, hgiven, hwritten⟩ | hwritten)
    · rw [parse?_of_written hwritten, ofJson?_ofMembers_eq_some_iff]
      exact hgiven
    · rw [parse?_of_written hwritten]
      exact ofJson?_eq_some_iff.2 (.inr rfl)

inductive Kind where
  | null
  | bool
  | number
  | string
  | array
  | object
deriving DecidableEq

def kind : Value → Kind
  | .null => .null
  | .bool _ => .bool
  | .number _ => .number
  | .string _ => .string
  | .array _ => .array
  | .object _ => .object

/-- The names of the members and the types of their values. -/
def memberKinds : List (String × Kind) :=
  [("zones", .array), ("selected", .string), ("complete", .bool)]

theorem kinds_members (s : Selector) :
    (s.members.map fun member => (member.1, kind member.2)) = memberKinds :=
  rfl

/-- A member that is not there just once, or that has a value of another type, gives no selector. -/
theorem GivenBy.only {s : Selector} {members : List (String × Value)} (h : s.GivenBy members)
    {name : String} {expected : Kind} (hname : (name, expected) ∈ memberKinds) :
    (named name members).length = 1 ∧ ∀ value, (name, value) ∈ members → kind value = expected := by
  rw [← s.kinds_members, List.mem_map] at hname
  obtain ⟨member, hmember, heq⟩ := hname
  cases heq
  have honly := givenBy_iff.1 h member hmember
  refine ⟨by rw [honly]; rfl, fun value hvalue => ?_⟩
  have hnamed : (member.1, value) ∈ named member.1 members := by simp [named, hvalue]
  rw [honly, List.mem_singleton] at hnamed
  rw [← hnamed]

/-- A selector is read from its three members in any order and layout, between any others, and from the
array of its three values. If a member is missing, is there twice or has a value of another type, or if
anything but blanks follows, nothing is read. -/
theorem read_in_any_layout :
    (∀ (s : Selector) (text : String), parse? text = some s ↔
        (∃ members, s.GivenBy members ∧ (Value.ofMembers members).Written text) ∨
          (Value.array (s.members.map Prod.snd)).Written text) ∧
      (∀ (members : List (String × Value)) (text : String), (Value.ofMembers members).Written text →
        ∀ name expected, (name, expected) ∈ memberKinds →
          ((named name members).length ≠ 1 ∨ ∃ value, (name, value) ∈ members ∧ kind value ≠ expected) →
            parse? text = none) ∧
      (∀ (elements : List Value) (text : String), (Value.array elements).Written text →
        elements.map kind ≠ memberKinds.map Prod.snd → parse? text = none) ∧
      ∀ (s : Selector) (text tail : String), parse? text = some s →
        (∃ c ∈ tail.toList, Token.isSpace c = false) → parse? (text ++ tail) = none := by
  refine ⟨fun s text => parse?_eq_some_iff, fun members text hwritten name expected hname hwrong => ?_,
    fun elements text hwritten hkinds => ?_, fun s text tail h htail => ?_⟩
  · rw [parse?_of_written hwritten, Option.eq_none_iff_forall_ne_some]
    intro s hs
    have honly := (ofJson?_ofMembers_eq_some_iff.1 hs).only hname
    rcases hwrong with hlength | ⟨value, hvalue, hkind⟩
    · exact hlength honly.1
    · exact hkind (honly.2 value hvalue)
  · rw [parse?_of_written hwritten, Option.eq_none_iff_forall_ne_some]
    intro s hs
    rcases ofJson?_eq_some_iff.1 hs with ⟨members, -, heq⟩ | heq
    · cases heq
    · cases heq
      exact hkinds rfl
  · have hgap : ¬ Token.IsGap tail.toList := by
      obtain ⟨c, hc, hspace⟩ := htail
      exact fun hgap => by simp [hgap c hc] at hspace
    rcases parse?_eq_some_iff.1 h with ⟨members, -, hwritten⟩ | hwritten
    · rw [parse?, Value.parse?_append_eq_none hwritten nofun hgap, Option.bind_none]
    · rw [parse?, Value.parse?_append_eq_none hwritten nofun hgap, Option.bind_none]

-- The members the other way round, with one more between them that holds what `zones` would.
example :
    parse? " \x7b\"complete\":true ,\"other\":[\x7b\"zones\":[]\x7d],\n\"selected\":\"UTC\",\"zones\":[\"UTC\"] \x7d\r\n" =
      some ⟨["UTC"], "UTC", true⟩ := by
  decide +kernel

end WallClock.Selector
