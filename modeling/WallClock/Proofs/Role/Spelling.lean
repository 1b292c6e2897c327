import WallClock.Proofs.Text.Lines
import WallClock.Proofs.Text.Lowercase
import WallClock.Role

/-!
How a role may be spelt. The whole text is brought to lower case, which takes letters of any script, but
what comes out as the name of a role was that name in letters of ASCII: there is no other spelling under
which a view for administrators would open.
-/

namespace WallClock.Role

open Text

theorem ofName?_eq_some_iff {name : String} {r : Role} : ofName? name = some r ↔ name = r.name := by
  unfold ofName?
  split
  · rename_i hadmin
    rw [hadmin]
    cases r <;> decide
  · rename_i hadmin
    split
    · rename_i huser
      rw [huser]
      cases r <;> decide
    · rename_i huser
      refine iff_of_false nofun ?_
      cases r
      · exact hadmin
      · exact huser

/-- No character beyond ASCII has one of these letters in its lower case. -/
theorem isPlain_name (r : Role) : ∀ c ∈ r.name.toList, IsPlain c := by
  apply forall_of_all
  cases r <;> decide

theorem isAlpha_name (r : Role) : ∀ c ∈ r.name.toList, c.isAlpha = true := by
  apply forall_of_all
  cases r <;> decide

/-- A text names a role if it differs from its name in the case of letters of ASCII alone. -/
theorem parse?_eq_some_iff {input : String} {r : Role} : parse? input = some r ↔ folded input = r.name := by
  rw [parse?, ofName?_eq_some_iff, folded, ← String.toList_inj, ← String.toList_inj, String.toList_ofList,
    String.toList_ofList, lowercase_eq_iff r.isPlain_name]

/-- Every character of a spelling is a letter of ASCII, so that it has no blanks either. -/
theorem isAlpha_of_parse? {input : String} {r : Role} (h : parse? input = some r) :
    ∀ c ∈ input.toList, c.isAlpha = true := by
  intro c hc
  have hname : fold input.toList = r.name.toList := by
    rw [← parse?_eq_some_iff.1 h, folded, String.toList_ofList]
  rw [← Char.isAlpha_toLower_eq_isAlpha]
  apply r.isAlpha_name
  rw [← hname]
  exact List.mem_map_of_mem hc

theorem parse?_eq_none_of_not_isAlpha {input : String} (h : ∃ c ∈ input.toList, c.isAlpha = false) :
    parse? input = none := by
  obtain ⟨c, hc, hletter⟩ := h
  rw [Option.eq_none_iff_forall_ne_some]
  intro r hr
  rw [isAlpha_of_parse? hr c hc] at hletter
  cases hletter

/-! ### Views -/

/-- An administrator may open any view, and whoever has a role the views of users. -/
theorem mayOpen_iff {role : Option Role} {required : Role} :
    mayOpen role required = true ↔ ∃ r, role = some r ∧ (r = admin ∨ required = user) := by
  cases role with
  | none => simp [mayOpen]
  | some r => cases r <;> cases required <;> simp [mayOpen]

/-- Whether a view is open, where the role, if there is one, and the role that the view requires are
given as texts. There is no answer if either is not spelt as a role. -/
def opens? (role : Option String) (required : String) : Option Bool := do
  let given ← role.mapM parse?
  let view ← parse? required
  some (mayOpen given view)

theorem opens?_none (required : String) : opens? none required = (parse? required).map fun _ => false := by
  cases h : parse? required with
  | none => simp [opens?, h]
  | some view => simp [opens?, h, mayOpen]

theorem opens?_some_eq_some_true_iff {text required : String} :
    opens? (some text) required = some true ↔
      ∃ r view, parse? text = some r ∧ parse? required = some view ∧ (r = admin ∨ view = user) := by
  cases htext : parse? text with
  | none => simp [opens?, htext]
  | some r =>
    cases hrequired : parse? required with
    | none => simp [opens?, htext, hrequired]
    | some view => simp [opens?, htext, hrequired, mayOpen_iff]

/-- Only letters of ASCII spell a role, and only the name itself, whatever the case of each letter. So a
view for administrators opens for a spelling of `admin` alone, one for users for either role, and none
without a role. -/
theorem spelt_in_ascii (input : String) :
    (∀ r, parse? input = some r ↔ folded input = r.name) ∧
      ((∃ c ∈ input.toList, c.isAlpha = false) → parse? input = none) ∧
      ∀ (role : Option String) (required : String),
        (opens? role required = some true ↔ ∃ text, role = some text ∧
          (folded required = "admin" ∧ folded text = "admin" ∨
            folded required = "user" ∧ (folded text = "admin" ∨ folded text = "user"))) ∧
        opens? none required = (parse? required).map fun _ => false := by
  refine ⟨fun r => parse?_eq_some_iff, parse?_eq_none_of_not_isAlpha, fun role required =>
    ⟨?_, opens?_none required⟩⟩
  cases role with
  | none => simp [opens?_none]
  | some text =>
    simp only [opens?_some_eq_some_true_iff, parse?_eq_some_iff]
    constructor
    · rintro ⟨r, view, htext, hrequired, hopen⟩
      refine ⟨text, rfl, ?_⟩
      cases view with
      | admin =>
        obtain rfl : r = admin := hopen.resolve_right nofun
        exact Or.inl ⟨hrequired, htext⟩
      | user =>
        refine Or.inr ⟨hrequired, ?_⟩
        cases r with
        | admin => exact Or.inl htext
        | user => exact Or.inr htext
    · rintro ⟨_, ⟨⟩, ⟨hrequired, htext⟩ | ⟨hrequired, htext | htext⟩⟩
      · exact ⟨admin, admin, htext, hrequired, Or.inl rfl⟩
      · exact ⟨admin, user, htext, hrequired, Or.inr rfl⟩
      · exact ⟨user, user, htext, hrequired, Or.inr rfl⟩

example : parse? "ADMİN" = none := by decide +kernel

end WallClock.Role
