import Mathlib.Data.List.TakeWhile
import SizeRequest.Proofs.FlagValue
import SizeRequest.Proofs.SpecLoading

namespace SizeRequest

namespace Path

theorem parts_append_slash (before behind : List Char) :
    parts (before ++ '/' :: behind) = parts before ++ parts behind := by
  rw [parts, List.splitOn, List.splitOnP_append_cons _ _ (by simp), List.filter_append]
  rfl

theorem parts_of_noSlash {name : List Char} (hne : name ≠ []) (h : '/' ∉ name) :
    parts name = [name] := by
  have hsplit : name.splitOn '/' = [name] := by
    apply List.splitOnP_eq_singleton
    intro c hc
    simpa using ne_of_mem_of_not_mem hc h
  simp [parts, hsplit, hne]

inductive Trailing : List Char → Prop
  | nil : Trailing []
  | slash {rest : List Char} : Trailing rest → Trailing ('/' :: rest)
  | dot {rest : List Char} : Trailing rest → Trailing ('/' :: '.' :: rest)

/-- A text ends in a name when only slashes and lone dots follow the name, and when the name starts
the text or follows a slash. A lone dot is no name. -/
def EndsIn (text name : List Char) : Prop :=
  ∃ before behind, text = before ++ name ++ behind ∧
    (before = [] ∨ ∃ directory, before = directory ++ ['/']) ∧
    name ≠ [] ∧ name ≠ ['.'] ∧ '/' ∉ name ∧ Trailing behind

theorem Trailing.append {s s' : List Char} (h : Trailing s) (h' : Trailing s') :
    Trailing (s ++ s') := by
  induction h with
  | nil => exact h'
  | slash _ ih => exact .slash ih
  | dot _ ih => exact .dot ih

theorem Trailing.exists_dots {s : List Char} (h : Trailing s) :
    ∃ n, ∀ text, parts (text ++ s) = parts text ++ List.replicate n ['.'] := by
  induction h with
  | nil => exact ⟨0, by simp⟩
  | @slash rest _ ih =>
    obtain ⟨n, hn⟩ := ih
    refine ⟨n, ?_⟩
    intro text
    have hrest : parts rest = List.replicate n ['.'] := hn []
    rw [parts_append_slash, hrest]
  | @dot rest _ ih =>
    obtain ⟨n, hn⟩ := ih
    refine ⟨n + 1, ?_⟩
    intro text
    have hrest : parts ('.' :: rest) = ['.'] :: List.replicate n ['.'] := hn ['.']
    rw [parts_append_slash, hrest, List.replicate_succ]

theorem EndsIn.exists_parts {text name : List Char} (h : EndsIn text name) :
    ∃ above n, parts text = above ++ name :: List.replicate n ['.'] := by
  obtain ⟨before, behind, rfl, hbefore, hne, -, hslash, htrailing⟩ := h
  obtain ⟨n, hn⟩ := htrailing.exists_dots
  rw [hn]
  rcases hbefore with rfl | ⟨directory, rfl⟩
  · refine ⟨[], n, ?_⟩
    rw [List.nil_append, parts_of_noSlash hne hslash]
    rfl
  · refine ⟨parts directory, n, ?_⟩
    rw [List.append_assoc directory, List.singleton_append, parts_append_slash,
      parts_of_noSlash hne hslash, List.append_assoc, List.singleton_append]

theorem EndsIn.ne_dot {text name : List Char} (h : EndsIn text name) : name ≠ ['.'] := by
  obtain ⟨before, behind, -, -, -, hdot, -⟩ := h
  exact hdot

theorem EndsIn.getLast?_components {p : Path} {name : List Char} (h : EndsIn p.text.toList name) :
    p.components.getLast? = some name := by
  obtain ⟨above, n, hparts⟩ := h.exists_parts
  have hdot := h.ne_dot
  rw [components, hparts]
  cases above with
  | nil => simp [hdot]
  | cons first more => simp [hdot, List.filter_append]

theorem EndsIn.unique {text name name' : List Char} (h : EndsIn text name)
    (h' : EndsIn text name') : name = name' := by
  have hpath : (Path.mk (String.ofList text)).text.toList = text := String.toList_ofList
  rw [← hpath] at h h'
  exact Option.some.inj (h.getLast?_components.symm.trans h'.getLast?_components)

theorem EndsIn.append_trailing {text name s : List Char} (h : EndsIn text name)
    (hs : Trailing s) : EndsIn (text ++ s) name := by
  obtain ⟨before, behind, rfl, hbefore, hne, hdot, hslash, htrailing⟩ := h
  exact ⟨before, behind ++ s, by simp, hbefore, hne, hdot, hslash, htrailing.append hs⟩

theorem EndsIn.below {text name : List Char} (h : EndsIn text name) (directory : List Char) :
    EndsIn (directory ++ '/' :: text) name := by
  obtain ⟨before, behind, rfl, hbefore, hne, hdot, hslash, htrailing⟩ := h
  refine ⟨directory ++ '/' :: before, behind, by simp, .inr ?_, hne, hdot, hslash, htrailing⟩
  obtain rfl | ⟨up, rfl⟩ := hbefore
  · exact ⟨directory, rfl⟩
  · exact ⟨directory ++ '/' :: up, by simp⟩

theorem exists_last_slash {text : List Char} (h : '/' ∈ text) :
    ∃ before behind, text = before ++ '/' :: behind ∧ '/' ∉ behind := by
  obtain ⟨back, front, hreverse, hback⟩ := List.eq_append_cons_of_mem (List.mem_reverse.2 h)
  refine ⟨front.reverse, back.reverse, ?_, by simpa using hback⟩
  rw [← List.reverse_reverse text, hreverse]
  simp

theorem trailing_of_noName {last : List Char} (h : ¬(last ≠ [] ∧ last ≠ ['.'])) :
    Trailing ('/' :: last) := by
  by_cases hempty : last = []
  · rw [hempty]
    exact .slash .nil
  · have hdot : last = ['.'] := by
      by_contra hdot
      exact h ⟨hempty, hdot⟩
    rw [hdot]
    exact .dot .nil

theorem endsIn_or_dots (text : List Char) :
    (∃ name, EndsIn text name) ∨ ∃ n, parts text = List.replicate n ['.'] := by
  by_cases hslash : '/' ∈ text
  · obtain ⟨before, last, htext, hlast⟩ := exists_last_slash hslash
    have hshorter : before.length < text.length := by
      rw [htext, List.length_append, List.length_cons]
      omega
    by_cases hname : last ≠ [] ∧ last ≠ ['.']
    · refine .inl ⟨last, before ++ ['/'], [], by simp [htext], .inr ⟨before, rfl⟩, ?_⟩
      exact ⟨hname.1, hname.2, hlast, .nil⟩
    · -- Nothing or a lone dot stands behind the last slash, so what is in front of it decides.
      have htrailing := trailing_of_noName hname
      rw [htext]
      rcases endsIn_or_dots before with ⟨name, hends⟩ | ⟨m, hm⟩
      · exact .inl ⟨name, hends.append_trailing htrailing⟩
      · obtain ⟨n, hn⟩ := htrailing.exists_dots
        exact .inr ⟨m + n, by rw [hn, hm, List.replicate_append_replicate]⟩
  · by_cases hname : text ≠ [] ∧ text ≠ ['.']
    · exact .inl ⟨text, [], [], by simp, .inl rfl, hname.1, hname.2, hslash, .nil⟩
    · obtain ⟨n, hn⟩ := (trailing_of_noName hname).exists_dots
      have hparts : parts text = List.replicate n ['.'] := hn []
      exact .inr ⟨n, hparts⟩
termination_by text.length

theorem mem_parts_of_mem_components {p : Path} {part : List Char} (h : part ∈ p.components) :
    part ∈ parts p.text.toList := by
  unfold components at h
  split at h
  next => cases h
  next first rest hparts =>
    rw [hparts]
    rcases List.mem_append.1 h with h | h
    · split at h
      · exact List.mem_singleton.1 h ▸ List.mem_cons_self
      · cases h
    · exact List.mem_cons_of_mem _ (List.mem_of_mem_filter h)

theorem name?_eq_some_iff_last {p : Path} {name : List Char} :
    p.name? = some name ↔
      p.components.getLast? = some name ∧ name ≠ ['.'] ∧ name ≠ ['.', '.'] := by
  unfold name?
  cases p.components.getLast? with
  | none => simp
  | some last =>
    simp only [Bool.or_eq_true, beq_iff_eq, Option.ite_none_left_eq_some, not_or,
      Option.some.injEq]
    constructor
    · intro h
      obtain ⟨hnamed, rfl⟩ := h
      exact ⟨rfl, hnamed⟩
    · intro h
      obtain ⟨rfl, hnamed⟩ := h
      exact ⟨hnamed, rfl⟩

/-- A path has a name just if its text ends in one, which must not lead up. -/
theorem name?_eq_some_iff {p : Path} {name : List Char} :
    p.name? = some name ↔ EndsIn p.text.toList name ∧ name ≠ ['.', '.'] := by
  rw [name?_eq_some_iff_last]
  constructor
  · intro h
    obtain ⟨hlast, hdot, hup⟩ := h
    rcases endsIn_or_dots p.text.toList with ⟨name', hends⟩ | ⟨n, hn⟩
    · obtain rfl := Option.some.inj (hlast.symm.trans hends.getLast?_components)
      exact ⟨hends, hup⟩
    · have hmem := mem_parts_of_mem_components (List.mem_of_getLast? hlast)
      rw [hn] at hmem
      exact absurd (List.eq_of_mem_replicate hmem) hdot
  · intro h
    exact ⟨h.1.getLast?_components, h.1.ne_dot, h.2⟩

/-- The extension of a name stands behind its last dot, if something stands before that dot. -/
theorem extensionOf_eq_some_iff {name extension : List Char} :
    extensionOf name = some extension ↔
      ∃ stem, name = stem ++ '.' :: extension ∧ stem ≠ [] ∧ '.' ∉ extension := by
  constructor
  · intro h
    simp only [extensionOf, Option.ite_none_left_eq_some, Option.some.injEq] at h
    obtain ⟨hstem, rfl⟩ := h
    -- Read backwards, the extension is the run of characters in front of the first dot.
    have hrun : '.' ∉ name.reverse.takeWhile (· != '.') := by
      intro hmem
      simpa using List.mem_takeWhile_imp hmem
    have hback := List.takeWhile_append_dropWhile (p := (· != '.')) (l := name.reverse)
    generalize name.reverse.takeWhile (· != '.') = run at hrun hback ⊢
    cases hdrop : name.reverse.dropWhile (· != '.') with
    | nil => simp [hdrop] at hstem
    | cons c stem =>
      have hc : c = '.' := by
        have hhead := List.head?_dropWhile_not (· != '.') name.reverse
        simpa [hdrop] using hhead
      rw [hdrop, hc] at hback
      refine ⟨stem.reverse, ?_, ?_, by simpa using hrun⟩
      · have hname := congrArg List.reverse hback
        simpa [eq_comm] using hname
      · simpa [hdrop] using hstem
  · intro h
    obtain ⟨stem, rfl, hstem, hdot⟩ := h
    have hreverse : (stem ++ '.' :: extension).reverse =
        extension.reverse ++ '.' :: stem.reverse := by
      simp
    have hrun : ∀ c ∈ extension.reverse, (c != '.') = true := by
      intro c hc
      simpa using ne_of_mem_of_not_mem (List.mem_reverse.1 hc) hdot
    have hdrop : (extension.reverse ++ '.' :: stem.reverse).dropWhile (· != '.') =
        '.' :: stem.reverse := by
      rw [List.dropWhile_append_of_pos hrun]
      rfl
    have htake : (extension.reverse ++ '.' :: stem.reverse).takeWhile (· != '.') =
        extension.reverse := by
      rw [List.takeWhile_append_of_pos hrun]
      simp
    simp [extensionOf, hreverse, hdrop, htake, hstem]

theorem toLower_eq_iff {c sign : Char} (hsign : sign = '/' ∨ sign = '.') :
    c.toLower = sign ↔ c = sign := by
  unfold Char.toLower
  split
  next hupper =>
    have hsmall : sign.val.toNat < 65 := by
      rcases hsign with rfl | rfl <;> decide
    have hlow : 65 ≤ c.val.toNat := UInt32.le_iff_toNat_le.1 hupper.1
    have hhigh : c.val.toNat ≤ 90 := UInt32.le_iff_toNat_le.1 hupper.2
    have hne : c ≠ sign := by
      intro h
      rw [h] at hlow
      omega
    have hlower : c.val + ('a'.val - 'A'.val) ≠ sign.val := by
      intro h
      have hsum := congrArg UInt32.toNat h
      have hstep : ('a'.val - 'A'.val).toNat = 32 := rfl
      rw [UInt32.toNat_add, hstep] at hsum
      omega
    exact iff_of_false (fun h => hlower (congrArg Char.val h)) hne
  next => rfl

/-- Slashes and dots have no case, so they are the same wherever texts differ in case alone. -/
theorem eq_of_map_toLower {s s' : List Char} (hs : ∀ c ∈ s, c = '/' ∨ c = '.')
    (h : s'.map Char.toLower = s.map Char.toLower) : s' = s := by
  induction s generalizing s' with
  | nil => simpa using h
  | cons c rest ih =>
    obtain ⟨c', rest', rfl, hc, hrest⟩ := List.map_eq_cons_iff.1 h
    have hsign := hs c List.mem_cons_self
    rw [(toLower_eq_iff hsign).2 rfl] at hc
    rw [(toLower_eq_iff hsign).1 hc, ih (fun d hd => hs d (List.mem_cons_of_mem _ hd)) hrest]

theorem notMem_of_map_toLower {s s' : List Char} {sign : Char} (hsign : sign = '/' ∨ sign = '.')
    (h : s'.map Char.toLower = s.map Char.toLower) (hs : sign ∉ s) : sign ∉ s' := by
  intro hmem
  have hlower := List.mem_map_of_mem (f := Char.toLower) hmem
  rw [h, (toLower_eq_iff hsign).2 rfl] at hlower
  obtain ⟨c, hc, heq⟩ := List.mem_map.1 hlower
  exact hs ((toLower_eq_iff hsign).1 heq ▸ hc)

theorem Trailing.slash_or_dot {s : List Char} (h : Trailing s) : ∀ c ∈ s, c = '/' ∨ c = '.' := by
  induction h with
  | nil => simp
  | slash _ ih => simpa using ih
  | dot _ ih => simpa using ih

theorem EndsIn.exists_of_map_toLower {text text' name : List Char} (h : EndsIn text name)
    (hcase : text'.map Char.toLower = text.map Char.toLower) :
    ∃ name', EndsIn text' name' ∧ name'.map Char.toLower = name.map Char.toLower := by
  obtain ⟨before, behind, rfl, hbefore, hne, hdot, hslash, htrailing⟩ := h
  rw [List.map_append, List.map_append] at hcase
  obtain ⟨start, behind', rfl, hstart, hbehind⟩ := List.map_eq_append_iff.1 hcase
  obtain ⟨before', name', rfl, hbefore', hname⟩ := List.map_eq_append_iff.1 hstart
  have hsame := eq_of_map_toLower htrailing.slash_or_dot hbehind
  refine ⟨name', ⟨before', behind', rfl, ?_, ?_, ?_, ?_, hsame ▸ htrailing⟩, hname⟩
  · rcases hbefore with rfl | ⟨directory, rfl⟩
    · exact .inl (by simpa using hbefore')
    · rw [List.map_append] at hbefore'
      obtain ⟨directory', last, rfl, -, hlast⟩ := List.map_eq_append_iff.1 hbefore'
      exact .inr ⟨directory', by rw [eq_of_map_toLower (by simp) hlast]⟩
  · intro hnil
    exact hne (eq_of_map_toLower (by simp [hnil]) hname.symm ▸ hnil)
  · intro heq
    exact hdot (eq_of_map_toLower (by simp [heq]) hname.symm ▸ heq)
  · exact notMem_of_map_toLower (.inl rfl) hname hslash

end Path

namespace SpecFormat

def Takes : SpecFormat → String → Prop
  | json, extension => extension = "json"
  | yaml, extension => extension = "yaml" ∨ extension = "yml"
  | toml, extension => extension = "toml"

/-- A name of a file of some format: something, a dot, and an extension of that format in whatever
case. -/
def IsNameOf (format : SpecFormat) (name : List Char) : Prop :=
  ∃ stem extension, name = stem ++ '.' :: extension ∧ stem ≠ [] ∧ '.' ∉ extension ∧
    format.Takes (String.ofList extension).toLower

theorem ofExtension?_eq_some_iff {extension : List Char} {format : SpecFormat} :
    ofExtension? extension = some format ↔ format.Takes (String.ofList extension).toLower := by
  have hlower : String.ofList (extension.map Char.toLower) = (String.ofList extension).toLower := by
    rw [← String.toList_inj, Text.toList_toLower]
    simp
  rw [ofExtension?, hlower]
  generalize (String.ofList extension).toLower = word
  constructor
  · intro h
    obtain ⟨before, behind, hextensions, -⟩ := List.lookup_eq_some_iff.1 h
    have hmem : (word, format) ∈ extensions := hextensions ▸ by simp
    simp only [extensions, List.mem_cons, Prod.mk.injEq, List.not_mem_nil, or_false] at hmem
    obtain ⟨rfl, rfl⟩ | ⟨rfl, rfl⟩ | ⟨rfl, rfl⟩ | ⟨rfl, rfl⟩ := hmem
    · rfl
    · exact .inl rfl
    · exact .inr rfl
    · rfl
  · intro h
    cases format with
    | json =>
      obtain rfl : word = "json" := h
      rfl
    | yaml =>
      obtain rfl | rfl : word = "yaml" ∨ word = "yml" := h <;> rfl
    | toml =>
      obtain rfl : word = "toml" := h
      rfl

theorem ofPath?_eq_some_iff {p : Path} {format : SpecFormat} :
    ofPath? p = some format ↔
      ∃ name, Path.EndsIn p.text.toList name ∧ name ≠ ['.', '.'] ∧ format.IsNameOf name := by
  simp only [ofPath?, Path.extension?, Option.bind_eq_some_iff, Path.name?_eq_some_iff,
    Path.extensionOf_eq_some_iff, ofExtension?_eq_some_iff]
  constructor
  · intro h
    obtain ⟨extension, ⟨name, ⟨hends, hup⟩, stem, hname, hstem, hdot⟩, htakes⟩ := h
    exact ⟨name, hends, hup, stem, extension, hname, hstem, hdot, htakes⟩
  · intro h
    obtain ⟨name, hends, hup, stem, extension, hname, hstem, hdot, htakes⟩ := h
    exact ⟨extension, ⟨name, ⟨hends, hup⟩, stem, hname, hstem, hdot⟩, htakes⟩

theorem IsNameOf.of_map_toLower {format : SpecFormat} {name name' : List Char}
    (h : format.IsNameOf name) (hcase : name'.map Char.toLower = name.map Char.toLower) :
    format.IsNameOf name' := by
  obtain ⟨stem, extension, rfl, hstem, hdot, htakes⟩ := h
  rw [List.map_append, List.map_cons] at hcase
  obtain ⟨stem', rest, rfl, hstem', hrest⟩ := List.map_eq_append_iff.1 hcase
  obtain ⟨c, extension', rfl, hc, hextension⟩ := List.map_eq_cons_iff.1 hrest
  obtain rfl : c = '.' := (Path.toLower_eq_iff (.inr rfl)).1 hc
  refine ⟨stem', extension', rfl, ?_, Path.notMem_of_map_toLower (.inr rfl) hextension hdot, ?_⟩
  · intro hnil
    exact hstem (by simpa [hnil] using hstem'.symm)
  · have hlower : (String.ofList extension').toLower = (String.ofList extension).toLower := by
      rw [← String.toList_inj, Text.toList_toLower, Text.toList_toLower]
      simpa using hextension
    rw [hlower]
    exact htakes

theorem ofPath?_eq_of_endsIn {p q : Path} {name : List Char} (hp : Path.EndsIn p.text.toList name)
    (hq : Path.EndsIn q.text.toList name) : ofPath? q = ofPath? p := by
  apply Option.ext
  intro format
  rw [ofPath?_eq_some_iff, ofPath?_eq_some_iff]
  constructor
  · intro h
    obtain ⟨name', hends, hnamed⟩ := h
    exact ⟨name, hp, hends.unique hq ▸ hnamed⟩
  · intro h
    obtain ⟨name', hends, hnamed⟩ := h
    exact ⟨name, hq, hends.unique hp ▸ hnamed⟩

theorem ofPath?_of_toLower {p q : Path} {format : SpecFormat}
    (hcase : q.text.toLower = p.text.toLower) (h : ofPath? p = some format) :
    ofPath? q = some format := by
  obtain ⟨name, hends, hup, hnamed⟩ := ofPath?_eq_some_iff.1 h
  have hmap := congrArg String.toList hcase
  rw [Text.toList_toLower, Text.toList_toLower] at hmap
  obtain ⟨name', hends', hname⟩ := hends.exists_of_map_toLower hmap
  refine ofPath?_eq_some_iff.2 ⟨name', hends', ?_, hnamed.of_map_toLower hname⟩
  intro heq
  exact hup (Path.eq_of_map_toLower (by simp [heq]) hname.symm ▸ heq)

theorem load_eq_unsupported_iff {t : FileTree} {p q : Path} :
    DeviceSpec.load t p = .error (.unsupported q) ↔ ofPath? p = none ∧ q = p := by
  rw [DeviceSpec.load_eq_error_iff]
  constructor
  · intro h
    cases h with
    | unsupported hformat => exact ⟨hformat, rfl⟩
  · intro h
    obtain ⟨hformat, rfl⟩ := h
    exact .unsupported hformat

/-- The format of a spec file is that of the name in which its path ends, whatever stands before it
and whatever slashes and lone dots stand behind it: there has to be such a name, it must not lead
up, and it has to be something, a dot and an extension of the format. A path that has no format is
what is told of as unsupported, and nothing else is. So neither a directory in front of a path that
ends in a name, nor a slash behind it, nor the case of letters makes a difference. -/
theorem format_told_by_last_name (p : Path) :
    (∀ format, ofPath? p = some format ↔
      ∃ name, Path.EndsIn p.text.toList name ∧ name ≠ ['.', '.'] ∧ format.IsNameOf name) ∧
    (∀ t q, DeviceSpec.load t p = .error (.unsupported q) ↔ ofPath? p = none ∧ q = p) ∧
    (SpecFault.unsupported p).message = "Unsupported device spec file '" ++ p.text ++
      "', expected a .json, .yaml or .toml file." ∧
    (∀ name, Path.EndsIn p.text.toList name →
      (∀ q : Path, Path.EndsIn q.text.toList name → ofPath? q = ofPath? p) ∧
      (∀ directory, ofPath? ⟨directory ++ "/" ++ p.text⟩ = ofPath? p) ∧
      ofPath? ⟨p.text ++ "/"⟩ = ofPath? p) ∧
    ∀ q : Path, q.text.toLower = p.text.toLower → ofPath? q = ofPath? p := by
  refine ⟨?_, ?_, ?_, ?_, ?_⟩
  · intro format
    exact ofPath?_eq_some_iff
  · intro t q
    exact load_eq_unsupported_iff
  · rfl
  · intro name hends
    refine ⟨?_, ?_, ?_⟩
    · intro q hq
      exact ofPath?_eq_of_endsIn hends hq
    · intro directory
      apply ofPath?_eq_of_endsIn hends
      simpa using hends.below directory.toList
    · apply ofPath?_eq_of_endsIn hends
      simpa using hends.append_trailing (.slash .nil)
  · intro q hcase
    apply Option.ext
    intro format
    exact ⟨ofPath?_of_toLower hcase.symm, ofPath?_of_toLower hcase⟩

theorem dots_have_format :
    ofPath? ⟨"...YmL/./"⟩ = some .yaml ∧ ofPath? ⟨"a.json/" ++ "...YmL/./"⟩ = some .yaml ∧
      ofPath? ⟨"...yMl/./"⟩ = some .yaml ∧
      DeviceSpec.load FileTree.scratch ⟨"a.json/.."⟩ = .error (.unsupported ⟨"a.json/.."⟩) := by
  have hends : Path.EndsIn "...YmL/./".toList "...YmL".toList :=
    ⟨[], "/./".toList, rfl, .inl rfl, by decide, by decide, by decide, .dot (.slash .nil)⟩
  obtain ⟨hformat, -, -, hsame, hcase⟩ := format_told_by_last_name ⟨"...YmL/./"⟩
  have hyaml : ofPath? ⟨"...YmL/./"⟩ = some .yaml := by
    refine (hformat .yaml).2 ⟨_, hends, by decide, "..".toList, "YmL".toList, rfl, by decide,
      by decide, .inr ?_⟩
    rw [← String.toList_inj, Text.toList_toLower]
    decide
  obtain ⟨-, hbelow, -⟩ := hsame _ hends
  refine ⟨hyaml, ?_, ?_, ?_⟩
  · rw [← hyaml]
    exact hbelow "a.json"
  · rw [← hyaml]
    apply hcase
    rw [← String.toList_inj, Text.toList_toLower, Text.toList_toLower]
    decide
  · exact ((format_told_by_last_name ⟨"a.json/.."⟩).2.1 _ _).2 ⟨by decide, rfl⟩

example :
    [".json", "a.", "a", "", "/", ".", "..", "a.json/..", "a.json.txt", "a.jſon"].map
      (fun text => ofPath? ⟨text⟩) = List.replicate 10 none := by
  decide

end SpecFormat

end SizeRequest
