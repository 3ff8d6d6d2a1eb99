import Moderation.Proofs.Json.Written
import Moderation.Wire.Policy
/-!
# Contents read back

What a content leaves out when it is written is what it is read as when it is missing
(`Fields.Reads.defaulted_textMember`, `Fields.Reads.defaulted_optionalMember`), so the text of a
content reads back as that content (`PolicyContent.ofText_render`).
-/

namespace Moderation
open Json Json.Decoder

/-! ## Members that may be left out -/

namespace Json.Fields.Reads

/-- A text that is left out when it is empty. -/
theorem defaulted_textMember (name text : String) :
    (Fields.defaulted name Decoder.string "").Reads (textMember name text) text := by
  by_cases h : text = ""
  · subst h
    exact .defaulted_missing name Decoder.string ""
  · have hmember : textMember name text = [(name, .string text)] := by simp [textMember, h]
    rw [hmember]
    exact .defaulted name "" (reads_string text)

variable {α : Type} {d : Decoder α} {enc : α → Json}

/-- A value that is left out when it is absent, where null is a value too. -/
theorem defaulted_optionalMember (name : String) (h : ∀ a, d.Reads (enc a) a)
    (hnull : ∀ a, enc a ≠ .null) (value : Option α) :
    (Fields.defaulted name d.option none).Reads (optionalMember name (value.map enc)) value := by
  cases value with
  | none => exact .defaulted_missing name d.option none
  | some a => exact .defaulted name none ((h a).some (hnull a))

/-- A value that is left out when it is absent. -/
theorem optional_optionalMember (name : String) (h : ∀ a, d.Reads (enc a) a)
    (hnull : ∀ a, enc a ≠ .null) (value : Option α) :
    (Fields.optional name d).Reads (optionalMember name (value.map enc)) value := by
  cases value with
  | none => exact .optional_missing name d
  | some a => exact .optional name ((h a).some (hnull a))

/-- A text that is left out when it is absent. -/
theorem optional_text (name : String) (text : Option String) :
    (Fields.optional name Decoder.string).Reads (optionalMember name (text.map .string)) text :=
  optional_optionalMember name reads_string (fun _ => Json.noConfusion) text

end Json.Fields.Reads

/-! ## Contents -/

theorem Recommendation.reads (isNothing : Draft → Bool) (r : Recommendation) :
    (Recommendation.decoder isNothing).Reads r.toJson r :=
  reads_name (Recommendation.ofTag?_tag r)

theorem PolicyHashes.reads (h : PolicyHashes) : PolicyHashes.decoder.Reads h.toJson h := by
  have hfields := Fields.Reads.map PolicyHashes.mk
    (.defaulted_optionalMember "sha256" reads_string (fun _ => Json.noConfusion) h.sha256)
  exact hfields.record false (by decide)

namespace PolicyContent

theorem reads (c : PolicyContent) : decoder.Reads c.toJson c := by
  have hfields := Fields.Reads.map PolicyContent.mk (.defaulted_textMember "entity" c.entity)
    |>.seq (.defaulted_textMember "reason" c.reason)
    |>.seq (.defaulted_optionalMember "recommendation" (Recommendation.reads Draft.isNull)
      (fun _ => Json.noConfusion) c.recommendation)
    |>.seq (.defaulted_optionalMember "org.matrix.msc4205.hashes" PolicyHashes.reads
      (fun _ => Json.noConfusion) c.hashes)
  exact hfields.record false (by decide)

/-- The text of a content reads back as the content. -/
theorem ofText_render (c : PolicyContent) : decoder.ofText c.toJson.render = .ok c :=
  c.reads.ofText_render

end PolicyContent
end Moderation
