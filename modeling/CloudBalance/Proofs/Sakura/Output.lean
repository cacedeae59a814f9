import CloudBalance.Proofs.Json.Compact
import CloudBalance.Proofs.Sakura.Record
import CloudBalance.Proofs.Text.Output
import CloudBalance.Sakura.Tool

/-!
# Records in the output of the tool

Main statement: a balancer, or a list of balancers, that the tool prints on one line is read.
-/

namespace CloudBalance.Sakura

theorem trim_compact_object (members : List (String × Json)) :
    Text.trim (Json.object members).compact = (Json.object members).compact :=
  Text.trim_of_solid (Json.compact_object members) (by decide) (by decide)

theorem trim_compact_array (items : List Json) :
    Text.trim (Json.array items).compact = (Json.array items).compact :=
  Text.trim_of_solid (Json.compact_array items) (by decide) (by decide)

theorem readList_compact (balancers : List Balancer) :
    readList Balancer.ofJson? (Json.ofList Balancer.toJson balancers).compact = .ok balancers := by
  have empty : (Json.array []).compact = "[]" := by
    rw [Json.compact]
    rfl
  cases balancers with
  | nil =>
    rw [Json.ofList, List.map_nil, empty]
    rfl
  | cons first rest =>
    have plain : (Json.ofList Balancer.toJson (first :: rest)).IsPlain :=
      Json.isPlain_ofList fun balancer _ => balancer.isPlain_toJson
    have decodes : (Json.ofList Balancer.toJson (first :: rest)).toList? Balancer.ofJson? = some (first :: rest) :=
      Json.toList?_ofList fun balancer _ => balancer.ofJson?_toJson
    have written : (Json.ofList Balancer.toJson (first :: rest)).compact.isEmpty = false := by
      rw [← Bool.not_eq_true, String.isEmpty_iff, Json.ofList]
      intro none
      have letters := Json.compact_array ((first :: rest).map Balancer.toJson)
      rw [none] at letters
      cases letters
    -- the text of a list that is not empty is another one, because it is read as another list
    have other : (Json.ofList Balancer.toJson (first :: rest)).compact ≠ "[]" := by
      intro same
      have read := Json.parse?_compact plain
      rw [same, ← empty, Json.parse?_compact (by simp [Json.IsPlain, Json.AllPlain])] at read
      cases read
    rw [readList, Json.ofList, trim_compact_array, ← Json.ofList]
    simp [written, other, Json.decode?, Json.parse?_compact plain, decodes]

theorem collapseAll_strings (items : List String) : Json.collapseAll (items.map .string) = items.map .string := by
  induction items with
  | nil => rfl
  | cons item items ih => simp [Json.collapseAll, Json.collapse, ih]

theorem isReadable_toJson (balancer : Balancer) : balancer.toJson.isReadable Json.maxDepth = true := by
  have text : ∀ (room : Nat) (text : Option String), (Json.ofOption .string text).isReadable room = true := by
    rintro room (_ | text) <;> simp [Json.ofOption, Json.isReadable]
  simp [Balancer.toJson, Json.isReadable, Json.membersReadable, Json.maxDepth, text, Json.isReadable_strings]

theorem collapse_toJson (balancer : Balancer) : balancer.toJson.collapse = balancer.toJson := by
  have text : ∀ text : Option String, (Json.ofOption .string text).collapse = .ofOption .string text := by
    rintro (_ | text) <;> simp [Json.ofOption, Json.collapse]
  have tags : (Json.strings balancer.tags).collapse = .strings balancer.tags := by
    simp [Json.strings, Json.ofList, Json.collapse, collapseAll_strings]
  simp [Balancer.toJson, Json.collapse, Json.collapseMembers, Json.lastMembers, text, tags]

theorem readOne_compact (balancer : Balancer) :
    readOne Balancer.ofJson? balancer.toJson.compact = .ok balancer := by
  have whole : Json.parseWhole? balancer.toJson.compact = some balancer.toJson := by
    rw [Json.parseWhole?, Json.parse?_compact balancer.isPlain_toJson]
    simp [isReadable_toJson, collapse_toJson]
  have read : (Balancer.ofJson? balancer.toJson).elim (.error .malformed) Except.ok =
      (.ok balancer : Except SakuraError Balancer) := by
    rw [balancer.ofJson?_toJson, Option.elim_some]
  rw [readOne, Balancer.toJson, trim_compact_object, ← Balancer.toJson, whole]
  exact read

end CloudBalance.Sakura
