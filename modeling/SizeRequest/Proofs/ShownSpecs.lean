import Mathlib.Data.List.Nodup
import SizeRequest.Proofs.Digits
import SizeRequest.Report.Show

namespace SizeRequest

namespace Text

theorem separator_append_join (separator : String) {texts : List String} (h : texts ≠ []) :
    separator.toList ++ (join separator texts).toList =
      texts.flatMap fun text => separator.toList ++ text.toList := by
  induction texts with
  | nil => exact absurd rfl h
  | cons text rest ih =>
    cases rest with
    | nil => simp [join]
    | cons next more =>
      rw [List.flatMap_cons, ← ih (List.cons_ne_nil next more)]
      simp [join]

end Text

namespace Field

def shown : List Field :=
  [number .sdkVersion, number .screenDensity, list .supportedAbis, list .supportedLocales,
    list .deviceFeatures, list .glExtensions]

def words : Field → String × String
  | number .sdkVersion => ("sdk ", "")
  | number .screenDensity => ("", " dpi")
  | list .supportedAbis => ("abis ", "")
  | list .supportedLocales => ("locales ", "")
  | list .deviceFeatures => ("", " features")
  | list .glExtensions => ("", " GL extensions")

def isSpelled : Field → Bool
  | list .supportedAbis => true
  | list .supportedLocales => true
  | _ => false

def mark (f : Field) : List Char := (f.words.1.toList ++ f.words.2.toList).take 2

theorem mem_shown (f : Field) : f ∈ shown := by
  rcases f with f | f <;> cases f <;> decide

theorem mark_ne_nil (f : Field) : f.mark ≠ [] := by
  have hall : ∀ f ∈ shown, f.mark ≠ [] := by decide
  exact hall f f.mem_shown

theorem mark_injective : Function.Injective mark := by
  have hmarks : (shown.map mark).Nodup := by decide
  intro f g h
  exact List.inj_on_of_nodup_map hmarks f.mem_shown g.mem_shown h

end Field

namespace DeviceSpec

def amount (s : DeviceSpec) : Field → Nat
  | .number .sdkVersion => s.sdkVersion.toNat
  | .number .screenDensity => s.screenDensity.toNat
  | .list .supportedAbis => s.supportedAbis.length
  | .list .supportedLocales => s.supportedLocales.length
  | .list .deviceFeatures => s.deviceFeatures.length
  | .list .glExtensions => s.glExtensions.length

def shownValue (s : DeviceSpec) : Field → List Char
  | .list .supportedAbis => (Text.join "/" s.supportedAbis).toList
  | .list .supportedLocales => (Text.join "/" s.supportedLocales).toList
  | f => Nat.toDigits 10 (s.amount f)

/-- What a cell has of a field, behind a comma: nothing if nothing is known of it. -/
def entry (s : DeviceSpec) (f : Field) : List Char :=
  if s.amount f = 0 then []
  else ", ".toList ++ (f.words.1.toList ++ (s.shownValue f ++ f.words.2.toList))

theorem eq_default_iff {s : DeviceSpec} : s = {} ↔ ∀ f ∈ Field.shown, s.amount f = 0 := by
  rcases s with ⟨abis, locales, features, extensions, density, sdk⟩
  simp [Field.shown, amount, ← UInt32.toNat_inj, and_assoc, and_comm]

theorem flatMap_parts (s : DeviceSpec) :
    s.parts.flatMap (fun part => ", ".toList ++ part.toList) = Field.shown.flatMap s.entry := by
  have hoptional (z : Prop) [Decidable z] (part : String) :
      (if z then [] else [part]).flatMap (fun part => ", ".toList ++ part.toList) =
        if z then [] else ", ".toList ++ part.toList := by
    split <;> simp
  simp only [parts, List.flatMap_append, hoptional]
  simp [Field.shown, entry, amount, shownValue, Field.words, ← UInt32.toNat_inj]

theorem entry_eq_nil_iff {s : DeviceSpec} {f : Field} : s.entry f = [] ↔ s.amount f = 0 := by
  simp [entry]

theorem toList_cell {s : DeviceSpec} (h : s ≠ {}) :
    ", ".toList ++ s.cell.toList = Field.shown.flatMap s.entry := by
  have hparts : s.parts ≠ [] := by
    intro hnil
    apply h
    have hentries := flatMap_parts s
    rw [hnil, List.flatMap_nil, eq_comm, List.flatMap_eq_nil_iff] at hentries
    exact eq_default_iff.2 fun f hf => entry_eq_nil_iff.1 (hentries f hf)
  have hcell : s.cell = Text.join ", " s.parts := by simp [cell, isDefault, h]
  rw [hcell, Text.separator_append_join ", " hparts, flatMap_parts]

/-- The first two signs of a text besides digits, once it is past a comma and a blank. -/
def markOf (text : List Char) : List Char := ((text.drop 2).dropWhile Char.isDigit).take 2

section Entries

variable {s t : DeviceSpec} {f : Field} {fields : List Field}

theorem markOf_entry (h : s.amount f ≠ 0) (rest : List Char) :
    markOf (s.entry f ++ rest) = f.mark := by
  have hdigits (r : List Char) : (Nat.toDigits 10 (s.amount f) ++ ' ' :: r).dropWhile Char.isDigit
      = ' ' :: r := Text.dropWhile_isDigit_append Text.isDigit_toDigits (by simp)
  rcases f with f | f <;> cases f <;>
    simp [markOf, entry, h, shownValue, Field.words, Field.mark, hdigits]

theorem markOf_entries (s : DeviceSpec) (fields : List Field) :
    (fields.flatMap s.entry = [] ∧ ∀ f ∈ fields, s.amount f = 0) ∨
      ∃ f ∈ fields, s.amount f ≠ 0 ∧ markOf (fields.flatMap s.entry) = f.mark := by
  induction fields with
  | nil => exact .inl ⟨rfl, by simp⟩
  | cons f rest ih =>
    rw [List.flatMap_cons]
    by_cases h : s.amount f = 0
    · rw [entry_eq_nil_iff.2 h, List.nil_append]
      simpa [h] using ih
    · exact .inr ⟨f, List.mem_cons_self, h, markOf_entry h _⟩

theorem head?_entries (s : DeviceSpec) (fields : List Field) :
    ∀ c ∈ (fields.flatMap s.entry).head?, c.isDigit = false := by
  induction fields with
  | nil => simp
  | cons f rest ih =>
    rw [List.flatMap_cons]
    by_cases h : s.amount f = 0
    · rwa [entry_eq_nil_iff.2 h]
    · simp [entry, h]

/-- A text that starts with an entry of a field cannot be made of entries of other fields. -/
theorem entry_append_ne (h : s.amount f ≠ 0) (hf : f ∉ fields) (rest : List Char) :
    s.entry f ++ rest ≠ fields.flatMap t.entry := by
  intro heq
  have hmark := markOf_entry h rest
  rw [heq] at hmark
  rcases markOf_entries t fields with ⟨hnil, -⟩ | ⟨g, hg, -, hother⟩
  · rw [hnil] at hmark
    exact f.mark_ne_nil hmark.symm
  · rw [hother] at hmark
    exact hf (Field.mark_injective hmark ▸ hg)

theorem amount_eq_zero_of_entries (hf : f ∉ fields) (hs : s.amount f = 0) {rest : List Char}
    (h : s.entry f ++ fields.flatMap s.entry = t.entry f ++ rest) : t.amount f = 0 := by
  rw [entry_eq_nil_iff.2 hs, List.nil_append] at h
  by_contra ht
  exact entry_append_ne ht hf rest h.symm

theorem entry_append_inj (hf : f.isSpelled = false) (hs : s.amount f ≠ 0) (ht : t.amount f ≠ 0)
    {r r' : List Char} (hr : ∀ c ∈ r.head?, c.isDigit = false)
    (hr' : ∀ c ∈ r'.head?, c.isDigit = false) (h : s.entry f ++ r = t.entry f ++ r') :
    s.amount f = t.amount f ∧ r = r' := by
  have hvalue (u : DeviceSpec) : u.shownValue f = Nat.toDigits 10 (u.amount f) := by
    rcases f with f | f <;> cases f <;> first | rfl | cases hf
  have hend {r : List Char} (hr : ∀ c ∈ r.head?, c.isDigit = false) :
      ∀ c ∈ (f.words.2.toList ++ r).head?, c.isDigit = false := by
    rcases f with f | f <;> cases f <;> simp +contextual [Field.words, hr]
  simp only [entry, hs, ht, ↓reduceIte, hvalue, List.append_assoc, List.append_cancel_left_eq] at h
  obtain ⟨hamount, hrest⟩ := Text.toDigits_append_inj (hend hr) (hend hr') h
  exact ⟨hamount, List.append_cancel_left hrest⟩

end Entries

/-- Specs that agree on fields in turn: on the number that is shown, or on whether there are texts
to write out. Behind the first field with such texts they may differ. -/
def Agree (s t : DeviceSpec) : List Field → Prop
  | [] => True
  | f :: rest =>
    if f.isSpelled then (s.amount f = 0 ↔ t.amount f = 0) ∧ (s.amount f = 0 → Agree s t rest)
    else s.amount f = t.amount f ∧ Agree s t rest

theorem agree_of_entries_eq {s t : DeviceSpec} {fields : List Field} (hd : fields.Nodup)
    (h : fields.flatMap s.entry = fields.flatMap t.entry) : Agree s t fields := by
  induction fields with
  | nil => trivial
  | cons f rest ih =>
    rw [List.nodup_cons] at hd
    rw [List.flatMap_cons, List.flatMap_cons] at h
    -- If only one spec had an entry of this field, the text of the other would start with the mark
    -- of a later field.
    have hzero : s.amount f = 0 ↔ t.amount f = 0 :=
      ⟨fun hs => amount_eq_zero_of_entries hd.1 hs h,
        fun ht => amount_eq_zero_of_entries hd.1 ht h.symm⟩
    unfold Agree
    by_cases hs : s.amount f = 0
    · rw [entry_eq_nil_iff.2 hs, entry_eq_nil_iff.2 (hzero.1 hs), List.nil_append,
        List.nil_append] at h
      simp [hs, hzero.1 hs, ih hd.2 h]
    · cases hspelled : f.isSpelled with
      | true => simp [hs, ← hzero]
      | false =>
        obtain ⟨hamount, hrest⟩ := entry_append_inj hspelled hs (mt hzero.2 hs)
          (head?_entries s rest) (head?_entries t rest) h
        simp [hamount, ih hd.2 hrest]

theorem exists_markOf_cell {s : DeviceSpec} (h : s ≠ {}) :
    ∃ f : Field, markOf (", ".toList ++ s.cell.toList) = f.mark := by
  rw [toList_cell h]
  rcases markOf_entries s Field.shown with ⟨-, hzero⟩ | ⟨f, -, -, hmark⟩
  · exact absurd (eq_default_iff.2 hzero) h
  · exact ⟨f, hmark⟩

theorem cell_eq_default_iff {s : DeviceSpec} : s.cell = "default (empty)" ↔ s = {} := by
  constructor
  · intro hcell
    by_contra hs
    obtain ⟨f, hmark⟩ := exists_markOf_cell hs
    have hother : ∀ g ∈ Field.shown, markOf (", ".toList ++ "default (empty)".toList) ≠ g.mark := by
      decide
    rw [hcell] at hmark
    exact hother f f.mem_shown hmark
  · rintro rfl
    rfl

theorem cell_ne_empty (s : DeviceSpec) : s.cell ≠ "" := by
  intro hcell
  by_cases hs : s = {}
  · rw [cell_eq_default_iff.2 hs] at hcell
    exact absurd hcell (by decide)
  · obtain ⟨f, hmark⟩ := exists_markOf_cell hs
    rw [hcell] at hmark
    exact f.mark_ne_nil hmark.symm

/-- The cell of a spec tells its two numbers, whether there are ABIs and whether it is the default
spec, of which the words are never those of another one. No text that a spec holds hides this, even
an empty one or one that reads like a part of the cell. No cell is empty. -/
theorem told_by_cell (s : DeviceSpec) :
    s.cell ≠ "" ∧ (s.cell = "default (empty)" ↔ s = {}) ∧
      ∀ t : DeviceSpec, s.cell = t.cell →
        s.sdkVersion = t.sdkVersion ∧ s.screenDensity = t.screenDensity ∧
          (s.supportedAbis = [] ↔ t.supportedAbis = []) ∧ (s = {} ↔ t = {}) := by
  refine ⟨s.cell_ne_empty, cell_eq_default_iff, ?_⟩
  intro t hcell
  have hdefault : s = {} ↔ t = {} := by
    rw [← cell_eq_default_iff, hcell, cell_eq_default_iff]
  by_cases hs : s = {}
  · rw [hs, hdefault.1 hs]
    simp
  · have hentries : Field.shown.flatMap s.entry = Field.shown.flatMap t.entry := by
      rw [← toList_cell hs, hcell, toList_cell (mt hdefault.2 hs)]
    obtain ⟨hsdk, hdensity, habis, -⟩ := agree_of_entries_eq (by decide) hentries
    refine ⟨UInt32.toNat_inj.1 hsdk, UInt32.toNat_inj.1 hdensity, ?_, hdefault⟩
    rwa [← List.length_eq_zero_iff, ← List.length_eq_zero_iff]

theorem imitated_parts_told :
    ∃ s t : DeviceSpec, s ≠ t ∧ s.cell = "sdk 30, abis a, locales b, 480 dpi" ∧ s.cell = t.cell ∧
      s.sdkVersion = t.sdkVersion ∧ s.screenDensity = t.screenDensity ∧
        (s.supportedAbis = [] ↔ t.supportedAbis = []) ∧ (s = {} ↔ t = {}) :=
  ⟨{ sdkVersion := 30, supportedAbis := ["a, locales b, 480 dpi"] },
    { sdkVersion := 30, supportedAbis := ["a"], supportedLocales := ["b, 480 dpi"] },
    by decide, rfl, rfl, (told_by_cell _).2.2 _ rfl⟩

end DeviceSpec

end SizeRequest
