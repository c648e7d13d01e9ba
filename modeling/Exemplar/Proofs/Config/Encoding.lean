import Exemplar.Callsite.Json
import Exemplar.Config.Json
import Exemplar.Proofs.Text.Json

namespace Exemplar

open Text (Json)

namespace Callsite

theorem plain_toJson (c : Callsite) : c.toJson.Plain := by
  refine .ofMembers ?_
  intro m hm
  simp only [List.mem_cons, List.not_mem_nil, or_false] at hm
  rcases hm with rfl | rfl
  · exact .ofString c.file
  · exact .ofNat c.line.toNat

theorem ofJson?_toJson (c : Callsite) : ofJson? c.toJson = some c := by
  have hrecord : c.toJson.record? ["file", "line"] = some [.ofString c.file, .ofNat c.line.toNat] :=
    Json.record?_ofMembers (by simp)
  rw [ofJson?, hrecord]
  simp [Json.string?_ofString, Json.uint32?_ofNat]

theorem decode?_encode (c : Callsite) : decode? c.encode = some c := by
  rw [decode?, encode, (plain_toJson c).parse_render]
  exact ofJson?_toJson c

end Callsite

theorem LogFormat.ofJson?_name (f : LogFormat) : ofJson? (.ofString f.name) = some f := by
  cases f <;> rfl

namespace Config

theorem plain_toJson (c : Config) : c.toJson.Plain := by
  refine .ofMembers ?_
  intro m hm
  simp only [List.mem_cons, List.not_mem_nil, or_false] at hm
  rcases hm with rfl | rfl | rfl
  · exact .ofString c.logFilter
  · exact .ofString c.logFormat.name
  · exact .ofString c.nameSeparator

theorem ofJson?_toJson (c : Config) : ofJson? c.toJson = some c := by
  have hrecord : c.toJson.record? ["log_filter", "log_format", "name_separator"] =
      some [.ofString c.logFilter, .ofString c.logFormat.name, .ofString c.nameSeparator] :=
    Json.record?_ofMembers (by simp)
  rw [ofJson?, hrecord]
  simp [Json.string?_ofString, LogFormat.ofJson?_name]

theorem decode?_encode (c : Config) : decode? c.encode = some c := by
  rw [decode?, encode, (plain_toJson c).parse_render]
  exact ofJson?_toJson c

end Config

/-- What can be decoded was encoded in a text of its own. -/
theorem injective_of_decode {α : Type} {encode : α → String} {decode? : String → Option α}
    (h : ∀ a, decode? (encode a) = some a) : Function.Injective encode := by
  intro a a' heq
  have hdecode := h a'
  rw [← heq, h a] at hdecode
  exact Option.some.inj hdecode

/-- Callsites and settings come back from their texts, and different ones have different texts. -/
theorem decode_encode_injective :
    (∀ c : Callsite, Callsite.decode? c.encode = some c) ∧
      (∀ c : Config, Config.decode? c.encode = some c) ∧
      Function.Injective Callsite.encode ∧ Function.Injective Config.encode :=
  ⟨Callsite.decode?_encode, Config.decode?_encode, injective_of_decode Callsite.decode?_encode,
    injective_of_decode Config.decode?_encode⟩

/-- A quote, a backslash, a control character and one beyond the basic plane, on the last line. -/
example : Callsite.decode? (Callsite.encode ⟨"\"\\\x01😀", 4294967295⟩) =
    some ⟨"\"\\\x01😀", 4294967295⟩ := by
  decide +kernel

end Exemplar
