import Mathlib.Data.List.Forall2
import Mathlib.Data.List.Nodup
import SizeRequest.Proofs.Outcome
import SizeRequest.Proofs.Toml.Number
import SizeRequest.Toml.Spec

namespace SizeRequest.Toml

open SpecText

inductive Node.Holds : Node → Content → Prop
  | texts {items : List (Span × Node)} {ofTables : Bool} {texts : List String} :
      items.map Prod.snd = texts.map (fun text => .scalar (.text text)) →
      Node.Holds (.array items ofTables) (.texts texts)
  | integer {n : Int} : Node.Holds (.scalar (.integer n)) (.integer n)

structure Stands (m : Member) (entry : Key × Span × Node) : Prop where
  name : entry.1.name = m.key
  holds : entry.2.2.Holds m.content

theorem value_content (m : Member) (r : List Char) :
    ∃ v, value deepest (content m.content ++ '\n' :: r) = .ok (v, '\n' :: r) ∧
      v.2.Holds m.content := by
  cases hcontent : m.content with
  | integer n =>
    obtain ⟨span, hvalue⟩ := value_decimal n deepest r
    exact ⟨_, hvalue, .integer⟩
  | texts texts =>
    have hskip := skipLines_listed texts ('\n' :: r)
    have hlength : texts.length < (listed (texts.map quoted) ++ ']' :: '\n' :: r).length + 1 := by
      have := length_le_length_listed texts
      rw [List.length_append]
      omega
    obtain ⟨items, hitems, hnodes⟩ :=
      itemsWithin_quoted (m.isPrintable texts hcontent) 79 hlength ('\n' :: r)
    have htext : content (.texts texts) ++ '\n' :: r
        = '[' :: (listed (texts.map quoted) ++ ']' :: '\n' :: r) := by simp [content]
    rw [htext, deepest, value, hskip, hitems]
    exact ⟨_, rfl, .texts hnodes⟩

theorem isBareKey_of_mem_key {m : Member} : ∀ c ∈ m.key.toList, isBareKey c = true := by
  intro c hc
  simp [isBareKey, m.isIdentifier.isAlphanum c hc]

theorem head_key_ne (m : Member) {d : Char} (hd : d.isAlphanum = false) {r rest : List Char} :
    m.key.toList ++ r ≠ d :: rest := by
  have halnum := m.isIdentifier.isAlphanum
  obtain ⟨c, cs, hkey, -⟩ := m.isIdentifier
  rw [hkey] at halnum ⊢
  intro heq
  exact ne_of_isAlphanum (halnum c (.head _)) hd (List.cons.inj heq).1

theorem simpleKey_key (m : Member) (r : List Char) :
    ∃ span, simpleKey (m.key.toList ++ ' ' :: r) = .ok (⟨m.key, span⟩, ' ' :: r) := by
  have htake : (m.key.toList ++ ' ' :: r).takeWhile isBareKey = m.key.toList := by
    rw [List.takeWhile_append_of_pos isBareKey_of_mem_key]
    simp [isBareKey]
  have hdrop : (m.key.toList ++ ' ' :: r).dropWhile isBareKey = ' ' :: r := by
    rw [List.dropWhile_append_of_pos isBareKey_of_mem_key]
    rfl
  rw [simpleKey]
  · rw [htake, hdrop]
    split
    next hnil =>
      obtain ⟨c, cs, hkey, -⟩ := m.isIdentifier
      rw [hkey] at hnil
      cases hnil
    next =>
      rw [String.ofList_toList]
      exact ⟨_, rfl⟩
  · exact fun _ heq => head_key_ne m rfl heq
  · exact fun _ heq => head_key_ne m rfl heq

theorem dropWhile_isBlank_key (m : Member) (r : List Char) :
    (m.key.toList ++ r).dropWhile isBlank = m.key.toList ++ r := by
  have hblank : ∀ c, c.isAlphanum = true → isBlank c = false := by
    intro c hc
    rw [isBlank, Bool.or_eq_false_iff, beq_eq_false_iff_ne, beq_eq_false_iff_ne]
    constructor <;> (rintro rfl; cases hc)
  have halnum := m.isIdentifier.isAlphanum
  obtain ⟨c, cs, hkey, -⟩ := m.isIdentifier
  rw [hkey] at halnum ⊢
  exact List.dropWhile_cons_of_neg (by rw [hblank c (halnum c (.head _))]; decide)

theorem dropWhile_isBlank_content (held : Content) (r : List Char) :
    (content held ++ r).dropWhile isBlank = content held ++ r := by
  obtain ⟨c, rest, hcontent, hc⟩ := content_eq_cons held
  have hblank : isBlank c = false := by
    rw [isBlank, Bool.or_eq_false_iff, beq_eq_false_iff_ne, beq_eq_false_iff_ne]
    constructor <;> (rintro rfl; revert hc; decide)
  rw [hcontent]
  exact List.dropWhile_cons_of_neg (by rw [hblank]; decide)

theorem dottedKey_key (m : Member) (r : List Char) :
    ∃ span, dottedKey (m.key.toList ++ ' ' :: '=' :: r) = .ok (([], ⟨m.key, span⟩), '=' :: r) := by
  have hmore (budget : Nat) : moreKeysWithin (budget + 1) (' ' :: '=' :: r) = .ok ([], '=' :: r) :=
    rfl
  obtain ⟨span, hkey⟩ := simpleKey_key m ('=' :: r)
  refine ⟨span, ?_⟩
  rw [dottedKey, dropWhile_isBlank_key, hkey]
  simp only [hmore]
  rfl

theorem member_tomlLine (m : Member) (r : List Char) :
    ∃ entry, member (value deepest) (tomlLine m ++ r) = .ok (([], entry), '\n' :: r) ∧
      Stands m entry := by
  obtain ⟨span, hkey⟩ := dottedKey_key m (' ' :: (content m.content ++ '\n' :: r))
  obtain ⟨v, hvalue, hholds⟩ := value_content m r
  have hline : tomlLine m ++ r
      = m.key.toList ++ ' ' :: '=' :: ' ' :: (content m.content ++ '\n' :: r) := by
    simp [tomlLine]
  have hblank : (' ' :: (content m.content ++ '\n' :: r)).dropWhile isBlank
      = content m.content ++ '\n' :: r := by
    rw [List.dropWhile_cons_of_pos rfl, dropWhile_isBlank_content]
  refine ⟨(⟨m.key, span⟩, v), ?_, rfl, hholds⟩
  rw [hline, member, hkey]
  simp only [hblank, hvalue]

theorem map_name_eq {done : List Member} {root : Members}
    (h : List.Forall₂ Stands done root) : root.map (·.1.name) = done.map Member.key := by
  induction h with
  | nil => rfl
  | cons hm _ ih => rw [List.map_cons, List.map_cons, ih, hm.name]

theorem isSome_valueOf?_iff {done : List Member} {root : Members}
    (h : List.Forall₂ Stands done root) (name : String) :
    (Members.valueOf? root name).isSome = true ↔ name ∈ done.map Member.key := by
  rw [← map_name_eq h, Members.valueOf?, Option.isSome_map, List.find?_isSome]
  simp

/-- A line adds a member, unless there is one with its key. -/
theorem line_tomlLine {done : List Member} {root : Members}
    (hroot : List.Forall₂ Stands done root) (m : Member) (r : List Char) :
    (m.key ∉ done.map Member.key ∧ ∃ entry, Stands m entry ∧
      line ⟨root, []⟩ (tomlLine m ++ r) = .ok (⟨root ++ [entry], []⟩, '\n' :: r)) ∨
    (m.key ∈ done.map Member.key ∧ ∃ fault, line ⟨root, []⟩ (tomlLine m ++ r) = .error fault) := by
  obtain ⟨entry, hmember, hstands⟩ := member_tomlLine m r
  have hinsert : line ⟨root, []⟩ (tomlLine m ++ r) =
      if (Members.valueOf? root m.key).isSome then .error (.malformed .duplicateKey entry.1.span)
      else .ok (⟨root ++ [entry], []⟩, '\n' :: r) := by
    rw [line]
    · rw [hmember]
      simp only [Document.addMember, Document.change, Members.changeAt, Members.insert,
        hstands.name]
      cases (Members.valueOf? root m.key).isSome <;> rfl
    · rw [tomlLine, List.append_assoc, List.append_assoc, List.append_assoc]
      exact fun _ => head_key_ne m rfl
  by_cases hkey : m.key ∈ done.map Member.key
  · rw [hinsert, if_pos ((isSome_valueOf?_iff hroot _).2 hkey)]
    exact .inr ⟨hkey, _, rfl⟩
  · rw [hinsert, if_neg (mt (isSome_valueOf?_iff hroot _).1 hkey)]
    exact .inl ⟨hkey, entry, hstands, rfl⟩

theorem tomlLine_eq_cons (m : Member) (r : List Char) :
    ∃ c rest, tomlLine m ++ r = c :: rest ∧ c.isAlphanum = true := by
  have halnum := m.isIdentifier.isAlphanum
  obtain ⟨c, cs, hkey, -⟩ := m.isIdentifier
  rw [hkey] at halnum
  rw [tomlLine, hkey]
  exact ⟨c, _, rfl, halnum c (.head _)⟩

theorem skipLines_alphanum {c : Char} (hc : c.isAlphanum = true) (s : List Char) :
    skipLines (c :: s) = c :: s := by
  have hne (d : Char) (hd : d.isAlphanum = false) : c ≠ d := ne_of_isAlphanum hc hd
  refine skipLines_append (b := []) (List.forall_mem_nil _) ?_ (hne '#' rfl) (hne '\n' rfl)
    (hne '\r' rfl) s
  simp [isBlank, hne ' ' rfl, hne '\t' rfl]

theorem endOfLine_newline (r : List Char) : endOfLine ('\n' :: r) = .ok ((), r) := rfl

theorem linesOfDocumentWithin_toml {done ms : List Member} {root : Members}
    (hroot : List.Forall₂ Stands done root) (hdone : (done.map Member.key).Nodup)
    {budget : Nat} (hbudget : ms.length < budget) :
    (((done ++ ms).map Member.key).Nodup ∧ ∃ root',
      linesOfDocumentWithin budget ⟨root, []⟩ (toml ms) = .ok ⟨root', []⟩ ∧
      List.Forall₂ Stands (done ++ ms) root') ∨
    (¬ ((done ++ ms).map Member.key).Nodup ∧ ∃ fault,
      linesOfDocumentWithin budget ⟨root, []⟩ (toml ms) = .error fault) := by
  induction ms generalizing done root budget with
  | nil =>
    obtain ⟨budget, rfl⟩ := Nat.exists_eq_add_one_of_ne_zero (Nat.ne_zero_of_lt hbudget)
    rw [List.append_nil]
    exact .inl ⟨hdone, root, rfl, hroot⟩
  | cons m ms ih =>
    rw [List.length_cons] at hbudget
    obtain ⟨budget, rfl⟩ := Nat.exists_eq_add_one_of_ne_zero (Nat.ne_zero_of_lt hbudget)
    have htext : toml (m :: ms) = tomlLine m ++ toml ms := rfl
    obtain ⟨c, rest, hcons, hc⟩ := tomlLine_eq_cons m (toml ms)
    rcases line_tomlLine hroot m (toml ms) with
      ⟨hnew, entry, hstands, hline⟩ | ⟨hold, fault, hline⟩
    · rw [hcons] at hline
      simp only [htext, hcons, linesOfDocumentWithin, skipLines_alphanum hc, hline,
        endOfLine_newline]
      have hsplit : done ++ m :: ms = (done ++ [m]) ++ ms := by simp
      rw [hsplit]
      have hnodup : ((done ++ [m]).map Member.key).Nodup := by
        rw [List.map_append, List.map_singleton, ← List.concat_eq_append, List.nodup_concat]
        exact ⟨hnew, hdone⟩
      exact ih (List.rel_append hroot (.cons hstands .nil)) hnodup (by omega)
    -- The key stands in the table already, so the members cannot be told apart by their keys.
    · rw [hcons] at hline
      refine .inr ⟨fun hnodup => ?_, fault, ?_⟩
      · rw [List.map_append, List.map_cons, List.nodup_append] at hnodup
        exact hnodup.2.2 m.key hold m.key (.head _) rfl
      · simp only [htext, hcons, linesOfDocumentWithin, skipLines_alphanum hc, hline]

theorem toOption_refuse {α : Type} (expected : Expected) (v : Span × Node) :
    (refuse expected v : Except Fault α).toOption = none := by
  rw [refuse]
  cases v.2.found <;> rfl

theorem mapM_textOf {items : List (Span × Node)} {texts : List String}
    (h : items.map Prod.snd = texts.map fun text => .scalar (.text text)) :
    items.mapM textOf = .ok texts := by
  induction items generalizing texts with
  | nil =>
    cases texts with
    | nil => rfl
    | cons text texts => cases h
  | cons item items ih =>
    cases texts with
    | nil => cases h
    | cons text texts =>
      rw [List.map_cons, List.map_cons, List.cons.injEq] at h
      have hitem : textOf item = .ok text := by rw [textOf, h.1]
      rw [List.mapM_cons, hitem, ih h.2]
      rfl

theorem toOption_numberOf_integer (span : Span) (n : Int) :
    (numberOf (span, .scalar (.integer n))).toOption
      = if 0 ≤ n ∧ n < UInt32.size then some (.ofNat n.toNat) else none := by
  have hsize : UInt32.size ≤ wordCount 64 := by decide
  rw [numberOf, Node.found, Scalar.found]
  by_cases hword : -(wordCount 63 : Int) ≤ n ∧ n < wordCount 64
  · have hdecide : (decide (-(wordCount 63 : Int) ≤ n) && decide (n < wordCount 64)) = true := by
      simpa using hword
    rw [if_pos hdecide]
    simp only [toOption_mapError, Found.toOption_toNumber]
  · have hdecide : ¬ (decide (-(wordCount 63 : Int) ≤ n) && decide (n < wordCount 64)) = true := by
      simpa using hword
    have hrange : ¬ (0 ≤ n ∧ n < UInt32.size) := by omega
    rw [if_neg hdecide, if_neg hrange]
    split
    next heq =>
      exfalso
      split at heq
      next => cases heq
      next => split at heq <;> cases heq
    next => exact toOption_refuse _ _

theorem toOption_setField {m : Member} {entry : Key × Span × Node} (h : Stands m entry)
    (spec : DeviceSpec) : (setField spec entry).toOption = spec.putMember? m := by
  obtain ⟨key, span, node⟩ := entry
  obtain ⟨hname, hholds⟩ := h
  rw [setField, DeviceSpec.putMember?]
  simp only at hname hholds ⊢
  rw [hname]
  cases Field.ofKey? m.key with
  | none => rfl
  | some field =>
    generalize m.content = held at hholds
    simp only [Option.bind_some]
    cases field with
    | list field =>
      rw [toOption_map]
      cases hholds with
      | texts hitems => simp only [textsOf, mapM_textOf hitems, DeviceSpec.put?]; rfl
      | integer => simp only [textsOf, toOption_refuse, DeviceSpec.put?]; rfl
    | number field =>
      rw [toOption_map]
      cases hholds with
      | texts hitems => simp only [numberOf, Node.found, toOption_refuse, DeviceSpec.put?]; rfl
      | integer =>
        rw [toOption_numberOf_integer, DeviceSpec.put?]
        split <;> rfl

theorem toOption_foldlM_setField {ms : List Member} {root : Members}
    (h : List.Forall₂ Stands ms root) (spec : DeviceSpec) :
    (root.foldlM setField spec).toOption = ms.foldlM DeviceSpec.putMember? spec := by
  induction h generalizing spec with
  | nil => rfl
  | @cons m entry ms root hm _ ih =>
    rw [List.foldlM_cons, List.foldlM_cons, ← toOption_setField hm]
    cases setField spec entry with
    | error fault => rfl
    | ok next => exact ih next

/-- A TOML table of members is read as the spec that they describe. -/
theorem readSpec_toml (ms : List Member) :
    (readSpec (String.ofList (toml ms))).toOption = DeviceSpec.ofMembers? ms := by
  have hdocument : document (toml ms)
      = (linesOfDocumentWithin ((toml ms).length + 1) ⟨[], []⟩ (toml ms)).map Document.root := by
    unfold document
    split
    next rest hmark =>
      cases ms with
      | nil => cases hmark
      | cons m ms =>
        obtain ⟨c, rest', htext, hc⟩ := tomlLine_eq_cons m (toml ms)
        have hcons : c :: rest' = '\ufeff' :: rest := htext.symm.trans hmark
        rw [(List.cons.inj hcons).1] at hc
        cases hc
    next => rfl
  have hlength : ms.length < (toml ms).length + 1 := by
    have hline (m : Member) : tomlLine m ≠ [] := by simp [tomlLine]
    have := length_le_length_flatMap hline ms
    rw [toml]
    omega
  rw [readSpec, String.toList_ofList, hdocument, DeviceSpec.ofMembers?]
  have hempty : List.Forall₂ Stands [] [] := .nil
  rcases linesOfDocumentWithin_toml hempty .nil hlength with
    ⟨hnodup, root, hread, hroot⟩ | ⟨hnodup, fault, hread⟩
  · rw [List.nil_append] at hnodup hroot
    rw [hread, if_pos hnodup]
    exact toOption_foldlM_setField hroot {}
  · rw [List.nil_append] at hnodup
    rw [hread, if_neg hnodup]
    rfl

end SizeRequest.Toml
