import Mathlib.Data.List.Forall2
import SizeRequest.Proofs.Json.Unambiguity

namespace SizeRequest.Json

inductive WritesMemberText : String × List Char → List Char → Prop
  | mk {k : String} {v : Value} {key b c text : List Char} : Spells k.toList key → IsBlanks b →
      IsBlanks c → Writes v text →
      WritesMemberText (k, text) ('"' :: key ++ '"' :: b ++ ':' :: c ++ text)

/-- A document is an object that has a member whose value is written by a text. -/
def HasMember (document : List Char) (key : String) (text : List Char) : Prop :=
  ∃ ms b body c, IsBlanks b ∧ IsBlanks c ∧ Listing WritesMemberText ms body ∧ (key, text) ∈ ms ∧
    document = b ++ ('\x7b' :: body ++ ['\x7d']) ++ c

section Related

variable {α β : Type} {item : α → List Char → Prop} {item' : β → List Char → Prop}
  {R : α → β → Prop} (hitem : ∀ a s, item a s → ∃ b, item' b s ∧ R a b)

include hitem

theorem Following.related {as : List α} {s : List Char} (h : Following item as s) :
    ∃ bs, Following item' bs s ∧ List.Forall₂ R as bs := by
  induction h with
  | none hb => exact ⟨[], .none hb, .nil⟩
  | more hb hc ha _ ih =>
    obtain ⟨b, hb', hr⟩ := hitem _ _ ha
    obtain ⟨bs, hbs, hrs⟩ := ih
    exact ⟨b :: bs, .more hb hc hb' hbs, .cons hr hrs⟩

theorem Listing.related {as : List α} {s : List Char} (h : Listing item as s) :
    ∃ bs, Listing item' bs s ∧ List.Forall₂ R as bs := by
  cases h with
  | none hb => exact ⟨[], .none hb, .nil⟩
  | some hb ha hrest =>
    obtain ⟨b, hb', hr⟩ := hitem _ _ ha
    obtain ⟨bs, hbs, hrs⟩ := hrest.related hitem
    exact ⟨b :: bs, .some hb hb' hbs, .cons hr hrs⟩

end Related

def MemberTextOf (m : String × List Char) (n : String × Value) : Prop :=
  m.1 = n.1 ∧ Writes n.2 m.2

theorem exists_writesMember (m : String × List Char) (s : List Char)
    (h : WritesMemberText m s) : ∃ n, WritesMember Writes n s ∧ MemberTextOf m n := by
  cases h with
  | mk hk hb hc hv => exact ⟨_, .mk hk hb hc hv, rfl, hv⟩

theorem exists_writesMemberText (n : String × Value) (s : List Char)
    (h : WritesMember Writes n s) : ∃ m, WritesMemberText m s ∧ MemberTextOf m n := by
  cases h with
  | mk hk hb hc hv => exact ⟨_, .mk hk hb hc hv, rfl, hv⟩

theorem exists_mem_of_forall₂ {α β : Type} {R : α → β → Prop} {as : List α} {bs : List β}
    (h : List.Forall₂ R as bs) {a : α} (ha : a ∈ as) : ∃ b ∈ bs, R a b := by
  induction h with
  | nil => cases ha
  | cons hr _ ih =>
    rcases List.mem_cons.1 ha with rfl | ha
    · exact ⟨_, List.mem_cons_self, hr⟩
    · obtain ⟨b, hb, hr'⟩ := ih ha
      exact ⟨b, List.mem_cons_of_mem _ hb, hr'⟩

theorem HasMember.mem {document text : List Char} {key : String} {ms : List (String × Value)}
    (h : HasMember document key text) (hd : IsDocument (.object ms) document) :
    ∃ v, (key, v) ∈ ms ∧ Writes v text := by
  obtain ⟨texts, b, body, c, hb, hc, hlist, hmem, rfl⟩ := h
  obtain ⟨ns, hns, hrelated⟩ := hlist.related exists_writesMember
  cases hd.unique ⟨b, _, c, hb, .object hns, hc, rfl⟩
  obtain ⟨⟨k, v⟩, hv, hk, hw⟩ := exists_mem_of_forall₂ hrelated hmem
  obtain rfl : key = k := hk
  exact ⟨v, hv, hw⟩

theorem exists_hasMember {document : List Char} {key : String} {v : Value}
    {ms : List (String × Value)} (hd : IsDocument (.object ms) document) (hmem : (key, v) ∈ ms) :
    ∃ text, HasMember document key text := by
  obtain ⟨b, s, c, hb, hs, hc, rfl⟩ := hd
  cases hs with
  | object hlist =>
    obtain ⟨texts, htexts, hrelated⟩ := hlist.related exists_writesMemberText
    obtain ⟨⟨k, text⟩, hm, hk, -⟩ := exists_mem_of_forall₂ hrelated hmem
    obtain rfl : k = key := hk
    exact ⟨text, texts, b, _, c, hb, hc, htexts, hm, rfl⟩

end SizeRequest.Json
