import WallClock.Command.Run
import WallClock.Proofs.Json.Value
import WallClock.Proofs.Selector.Listing
import WallClock.Proofs.Selector.Members

/-!
Selectors as JSON lose nothing. Whatever characters their names hold, the text on one line and the
lines that `zone list` writes are read back as the same selector, so that no two selectors share a text.
-/

namespace WallClock.Selector

open Json

theorem ofJson?_toJson (s : Selector) : ofJson? s.toJson = some s :=
  ofJson?_ofMembers_eq_some_iff.2 s.givenBy_members

theorem wellSpelt_toJson (s : Selector) : s.toJson.WellSpelt := by
  apply Value.wellSpelt_object
  intro member hmember
  simp only [List.map_cons, List.map_nil, List.mem_cons, List.not_mem_nil, or_false] at hmember
  rcases hmember with rfl | rfl | rfl
  · apply Value.wellSpelt_array
    intro v hv
    obtain ⟨name, -, rfl⟩ := List.mem_map.1 hv
    exact Value.wellSpelt_string _
  · exact Value.wellSpelt_string _
  · exact Value.wellSpelt_bool _

theorem parse?_compact (s : Selector) : parse? s.toJson.compact = some s := by
  rw [parse?_of_written (Value.written_compact s.wellSpelt_toJson), ofJson?_toJson]

/-- The lines that `zone list` writes of the selector when it is asked for JSON. -/
def jsonLines (s : Selector) (isPlain : Bool) : String :=
  (Command.Output.values s.toJson.pretty).text isPlain

theorem text_listZones [Zone.Database] (p : Preference) (filter : Option String) (isPlain : Bool) :
    (Command.listZones p filter true).text isPlain =
      (p.selector.restricted filter).jsonLines isPlain := by
  cases filter <;> rfl

/-- The last line is ended, in colour or not. -/
theorem jsonLines_eq (s : Selector) (isPlain : Bool) :
    s.jsonLines isPlain = s.toJson.pretty ++ "\n" := by
  obtain ⟨lines, hlines⟩ : ['\x7d'] <:+ Token.pretty 0 s.toJson.tokens :=
    Token.bracket_suffix_pretty (Value.getLast?_tokens_object _)
  change Command.Output.ended _ = _
  have hpretty : s.toJson.pretty.toList.getLast? = some '\x7d' := by
    rw [Value.pretty, String.toList_ofList, ← hlines, List.getLast?_concat]
  rw [Command.Output.ended, if_neg]
  rintro (hempty | hended)
  · rw [hempty] at hpretty
    cases hpretty
  · rw [hpretty] at hended
    cases hended

/-- What `zone list --json` writes gives the selector back. -/
theorem parse?_jsonLines (s : Selector) (isPlain : Bool) : parse? (s.jsonLines isPlain) = some s := by
  have hgap : Token.IsGap "\n".toList := by simp [Token.IsGap, Token.isSpace]
  rw [jsonLines_eq, parse?_of_written (Value.written_pretty_append s.wellSpelt_toJson hgap),
    ofJson?_toJson]

/-- The text of a selector on one line and its text in lines are read back as the selector, so that no
other selector has either; and what `zone list` writes is read back as what it lists. -/
theorem json_lossless [Zone.Database] (s : Selector) :
    parse? s.toJson.compact = some s ∧
      (∀ isPlain, s.jsonLines isPlain = s.toJson.pretty ++ "\n" ∧
        parse? (s.jsonLines isPlain) = some s) ∧
      (∀ t : Selector, (s.toJson.compact = t.toJson.compact ↔ s = t) ∧
        ∀ isPlain, s.jsonLines isPlain = t.jsonLines isPlain ↔ s = t) ∧
      ∀ (p : Preference) (filter : Option String) (isPlain : Bool),
        parse? ((Command.listZones p filter true).text isPlain) =
          some (p.selector.restricted filter) := by
  refine ⟨s.parse?_compact, fun isPlain => ⟨s.jsonLines_eq isPlain, s.parse?_jsonLines isPlain⟩,
    fun t => ⟨⟨fun heq => ?_, ?_⟩, fun isPlain => ⟨fun heq => ?_, ?_⟩⟩, ?_⟩
  · apply Option.some.inj
    rw [← s.parse?_compact, heq, parse?_compact]
  · rintro rfl
    rfl
  · apply Option.some.inj
    rw [← s.parse?_jsonLines isPlain, heq, parse?_jsonLines]
  · rintro rfl
    rfl
  · intro p filter isPlain
    rw [text_listZones, parse?_jsonLines]

end WallClock.Selector
