import SizeRequest.Proofs.Json.SpecReading
import SizeRequest.Proofs.Outcome
import SizeRequest.Proofs.SpecText

namespace SizeRequest.Json

open SpecText

theorem isNumeral_decimal (n : Int) : IsNumeral (decimal n) := by
  refine ⟨if n < 0 then ['-'] else [], Nat.toDigits 10 n.natAbs, [], [], ?_,
    isWhole_toDigits n.natAbs, .inl rfl, .inl rfl, by simp [decimal]⟩
  split
  · exact .inr rfl
  · exact .inl rfl

def Value.ofContent : Content → Value
  | .texts texts => .ofTexts texts
  | .integer n => .number ⟨decimal n, isNumeral_decimal n⟩

theorem spells_body {cs : List Char} (hcs : ∀ c ∈ cs, 0x20 ≤ c.toNat ∧ c.toNat ≤ 0x7e) :
    Spells cs (body cs) := by
  induction cs with
  | nil => exact .nil
  | cons c cs ih =>
    refine .cons ?_ (ih fun d hd => hcs d (.tail _ hd))
    by_cases hc : c = '"' ∨ c = '\\'
    · rcases hc with rfl | rfl <;> exact .short (by decide)
    · rw [not_or] at hc
      have hescaped : escaped c = [c] := by simp [escaped, hc.1, hc.2]
      rw [hescaped]
      exact .plain (hcs c (.head _)).1 hc.1 hc.2

theorem following_map {α β : Type} {item : β → List Char → Prop} {value : α → β}
    {write : α → List Char} {as : List α} (h : ∀ a ∈ as, item (value a) (write a)) :
    Following item (as.map value) (following (as.map write)) := by
  induction as with
  | nil => exact .none isBlanks_nil
  | cons a as ih =>
    have hrest := ih fun b hb => h b (.tail _ hb)
    simpa [following] using Following.more isBlanks_nil isBlanks_space (h a (.head _)) hrest

theorem listing_map {α β : Type} {item : β → List Char → Prop} {value : α → β}
    {write : α → List Char} {as : List α} (h : ∀ a ∈ as, item (value a) (write a)) :
    Listing item (as.map value) (listed (as.map write)) := by
  cases as with
  | nil => exact .none isBlanks_nil
  | cons a as =>
    have hrest := following_map fun b hb => h b (.tail _ hb)
    simpa [listed] using Listing.some isBlanks_nil (h a (.head _)) hrest

theorem writes_quoted {text : String} (h : IsPrintable text) :
    Writes (.text text) (quoted text) :=
  .text (spells_body h)

theorem writes_content (m : Member) : Writes (.ofContent m.content) (content m.content) := by
  cases hcontent : m.content with
  | integer n => exact .number
  | texts texts =>
    exact .list (listing_map fun text ht => writes_quoted (m.isPrintable texts hcontent text ht))

theorem writesMember_jsonMember (m : Member) :
    WritesMember Writes (m.key, .ofContent m.content) (jsonMember m) := by
  have hmember := WritesMember.mk (spells_body m.isIdentifier.isPrintable) isBlanks_nil
    isBlanks_space (writes_content m)
  simpa [jsonMember, quoted] using hmember

theorem toWord?_decimal (n : Int) :
    (Value.number ⟨decimal n, isNumeral_decimal n⟩).toWord?
      = if 0 ≤ n ∧ n < UInt32.size then some (.ofNat n.toNat) else none := by
  by_cases hn : n < 0
  · have hrange : ¬ (0 ≤ n ∧ n < UInt32.size) := by omega
    have hnone : (⟨decimal n, isNumeral_decimal n⟩ : Numeral).toNat? = none := by
      rw [Option.eq_none_iff_forall_ne_some]
      intro m hm
      have hdigit := (toNat?_eq_some_iff.1 hm).1.2 '-' (by simp [decimal, hn])
      cases hdigit
    rw [if_neg hrange, Value.toWord?, hnone]
    rfl
  · have hdecimal : decimal n = Nat.toDigits 10 n.toNat := by
      have habs : n.natAbs = n.toNat := by omega
      simp [decimal, hn, habs]
    have hsome : (⟨decimal n, isNumeral_decimal n⟩ : Numeral).toNat? = some n.toNat := by
      have hdigits : Text.ofDigits? 10 (decimal n) = some n.toNat := by
        rw [hdecimal, Text.ofDigits?_toDigits]
      exact hdigits
    have hrange : (0 ≤ n ∧ n < UInt32.size) ↔ n.toNat < UInt32.size := by omega
    rw [Value.toWord?, hsome]
    simp only [hrange, Option.bind_some]

theorem setField?_ofContent (spec : DeviceSpec) (field : Field) (held : Content) :
    Value.setField? spec field (.ofContent held) = spec.put? field held := by
  cases field with
  | list field =>
    cases held with
    | texts texts => exact setField?_ofTexts spec field texts
    | integer n => rfl
  | number field =>
    cases held with
    | texts texts => rfl
    | integer n =>
      rw [Value.setField?, Value.ofContent, toWord?_decimal, DeviceSpec.put?]
      split <;> rfl

theorem setMembers?_ofContent (seen : List Field) (spec : DeviceSpec) (ms : List Member) :
    Value.setMembers? seen spec (ms.map fun m => (m.key, .ofContent m.content))
      = spec.putNew? seen ms := by
  induction ms generalizing seen spec with
  | nil => rfl
  | cons m ms ih =>
    simp only [List.map_cons, Value.setMembers?, DeviceSpec.putNew?]
    cases Field.ofKey? m.key with
    | none => rfl
    | some field =>
      simp only [setField?_ofContent, ih]

/-- A JSON object of members is read as the spec that they describe. -/
theorem readSpec_json (ms : List Member) :
    (readSpec (String.ofList (json ms))).toOption = DeviceSpec.ofMembers? ms := by
  have hwrites : Writes (.object (ms.map fun m => (m.key, .ofContent m.content))) (json ms) :=
    .object (listing_map fun m _ => writesMember_jsonMember m)
  rw [readSpec, String.toList_ofList, ← DeviceSpec.putNew?_nil, ← setMembers?_ofContent]
  rcases document_eq reads_spec hwrites.isDocument with ⟨spec, hspec, hread⟩ | ⟨hnone, fault, hread⟩
  · rw [hread]
    exact hspec.symm
  · rw [hread]
    exact hnone.symm

end SizeRequest.Json
