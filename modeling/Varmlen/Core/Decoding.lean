import Varmlen.Foundation.Base64
import Varmlen.Foundation.JsonReading
import Varmlen.Core.ShareLink

/-!
# Base64 in subscriptions

Links and bodies are decoded with four engines, one after the other.  What was encoded
with the variant of any of them is found again, since an engine before it that accepts
the text reads the same out of it.
-/

namespace Varmlen.Core

open Foundation Foundation.Json Foundation.Text

/-- The variant of base64 that an engine reads. -/
def Base64Engine.variant : Base64Engine → Base64.Variant
  | .standard => ⟨false, true⟩
  | .urlSafe => ⟨true, true⟩
  | .standardNoPad => ⟨false, false⟩
  | .urlSafeNoPad => ⟨true, false⟩

theorem Base64Engine.exists_variant (variant : Base64.Variant) :
    ∃ engine ∈ base64Engines, engine.variant = variant := by
  rcases variant with ⟨urlSafe, padded⟩
  cases urlSafe <;> cases padded <;> decide

/-- The engines accept the encodings of their variant, and nothing else. -/
def Libraries.DecodesBase64 (lib : Libraries) : Prop :=
  ∀ engine text decoded, lib.decodeBase64 engine text = some decoded ↔
    Base64.encode engine.variant decoded = text

/-- Packages that know some URLs and some JSON texts, and base64. -/
def Libraries.ofTables (urls : UrlParser) (documents : List (String × Value)) :
    Libraries where
  urls
  urlError _ := "relative URL without a base"
  readJson := .ofTexts documents
  decodeBase64 engine := Base64.decode engine.variant
  percentDecode text := text

theorem decodesBase64_ofTables (urls : UrlParser) (documents : List (String × Value)) :
    (Libraries.ofTables urls documents).DecodesBase64 :=
  fun _ _ _ => Base64.decode_eq_some_iff

theorem readJson_ofTables {urls : UrlParser} {text : String} {document : Value}
    {rest : List (String × Value)} :
    (Libraries.ofTables urls ((text, document) :: rest)).readJson text = .ok document :=
  ofTexts_head

section Engines

variable {lib : Libraries}

/-- An earlier engine that accepts the text reads the same out of it. -/
theorem decodeAny_encode (decodes : lib.DecodesBase64) (variant : Base64.Variant)
    (text : String) : decodeAny lib (Base64.encode variant text) = some text := by
  rcases Base64Engine.exists_variant variant with ⟨engine, member, reads⟩
  have accepted : lib.decodeBase64 engine (Base64.encode variant text) = some text := by
    rw [decodes, reads]
  have found : (decodeAny lib (Base64.encode variant text)).isSome = true := by
    rw [decodeAny, List.findSome?_isSome_iff]
    exact ⟨engine, member, by rw [accepted, Option.isSome_some]⟩
  rcases Option.isSome_iff_exists.1 found with ⟨decoded, first⟩
  rcases List.exists_of_findSome?_eq_some first with ⟨other, _, given⟩
  rw [first, Base64.encode_injective ((decodes _ _ _).1 given)]

theorem decodeAny_eq_none (decodes : lib.DecodesBase64) {text : String} {char : Char}
    (member : char ∈ text.toList) (outside : Base64.digitOf char = none)
    (noPadding : char ≠ '=') : decodeAny lib text = none := by
  rw [decodeAny, List.findSome?_eq_none_iff]
  intro engine _
  cases decoded : lib.decodeBase64 engine text with
  | none => rfl
  | some result =>
      rw [decodes] at decoded
      rw [← decoded] at member
      exact absurd member (Base64.not_mem_encode outside noPadding)

end Engines

/-- The symbols of base64 are no white space. -/
theorem isWhitespace_eq_false {char : Char}
    (symbol : (Base64.digitOf char).isSome ∨ char = '=') : isWhitespace char = false := by
  rcases symbol with digit | rfl
  · rw [Bool.eq_false_iff]
    intro white
    have codes : char.toNat ≤ 0x20 ∨ 0x85 ≤ char.toNat := by
      simp [isWhitespace] at white
      omega
    have none : Base64.digitOf char = none := by
      have plus : char ≠ '+' ∧ char ≠ '-' ∧ char ≠ '/' ∧ char ≠ '_' := by
        refine ⟨?_, ?_, ?_, ?_⟩ <;>
        · rintro rfl
          revert codes
          decide
      rw [Base64.digitOf, if_neg (by omega), if_neg (by omega), if_neg (by omega),
        if_neg (by simp [plus]), if_neg (by simp [plus])]
    rw [none] at digit
    cases digit
  · decide

theorem withoutWhitespace_encode (variant : Base64.Variant) (text : String) :
    withoutWhitespace (Base64.encode variant text) = Base64.encode variant text := by
  rw [withoutWhitespace, List.filter_eq_self.2, String.ofList_toList]
  intro char member
  rw [isWhitespace_eq_false (Base64.mem_encode member), Bool.not_false]

theorem b64DecodeStr_encode {lib : Libraries} (decodes : lib.DecodesBase64)
    (variant : Base64.Variant) (text : String) :
    b64DecodeStr lib (Base64.encode variant text) = some text := by
  rw [b64DecodeStr, withoutWhitespace_encode, decodeAny_encode decodes]

end Varmlen.Core
