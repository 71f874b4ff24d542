import SizeRequest.Proofs.FlagRendering
import SizeRequest.Proofs.JsonSpecs
import SizeRequest.Proofs.RequestDocument

namespace SizeRequest

namespace Json

theorem takes_dimension : Takes dimension Value.toDimension? := by
  intro u d rest h
  unfold dimension at h
  split at h
  next => cases h
  next name left hname =>
    obtain ⟨b, v, s, hb, hv, hu, hmeaning⟩ := takes_string _ _ _ hname
    split at h
    next => cases h
    next found hfound =>
      cases h
      refine ⟨b, v, s, hb, hv, hu, ?_⟩
      rw [Value.toDimension?, hmeaning, Option.bind_some, hfound]

/-- A value means dimensions if it lists texts, and these are names of them one by one. -/
theorem toDimensions?_eq_some_iff {v : Value} {ds : List Dimension} :
    v.toList? Value.toDimension? = some ds ↔
      ∃ names, v = .ofTexts names ∧ names.map Dimension.ofName? = ds.map some := by
  have hnames (names : List String) : (names.map Value.text).map Value.toDimension? =
      names.map Dimension.ofName? := List.map_map
  constructor
  · intro h
    cases v with
    | list vs =>
      have hmeaning : vs.map Value.toDimension? = ds.map some := mapM_eq_some_iff.1 h
      have htexts : ∀ v ∈ vs, ∃ name, v.toText? = some name := by
        intro v hv
        obtain ⟨d, hd⟩ := exists_map_eq_map_some_iff.1 ⟨ds, hmeaning⟩ v hv
        obtain ⟨name, hname, -⟩ := Option.bind_eq_some_iff.1 hd
        exact ⟨name, hname⟩
      obtain ⟨names, hfound⟩ := exists_map_eq_map_some_iff.2 htexts
      obtain rfl := Value.mapM_toText?_eq_some_iff.1 (mapM_eq_some_iff.2 hfound)
      exact ⟨names, rfl, (hnames names).symm.trans hmeaning⟩
    | _ => cases h
  · intro h
    obtain ⟨names, rfl, hds⟩ := h
    exact mapM_eq_some_iff.2 ((hnames names).trans hds)

theorem isDocument_ofTexts_iff {names : List String} {text : List Char} :
    IsDocument (.ofTexts names) text ↔ document (list string) text = .ok names := by
  rw [document_eq_ok_iff (reads_list reads_string) (takes_list takes_string)]
  constructor
  · intro h
    exact ⟨_, h, toTexts?_ofTexts names⟩
  · intro h
    obtain ⟨v, hv, htexts⟩ := h
    cases Value.toTexts?_eq_some_iff.1 htexts
    exact hv

theorem readDimensions_eq_ok_iff {text : String} {ds : List Dimension} :
    readDimensions text = .ok ds ↔
      ∃ names, IsDocument (.ofTexts names) text.toList ∧
        names.map Dimension.ofName? = ds.map some := by
  rw [readDimensions,
    document_eq_ok_iff (reads_list reads_dimension) (takes_list takes_dimension)]
  simp only [toDimensions?_eq_some_iff]
  constructor
  · intro h
    obtain ⟨v, hv, names, rfl, hds⟩ := h
    exact ⟨names, hv, hds⟩
  · intro h
    obtain ⟨names, hv, hds⟩ := h
    exact ⟨_, hv, names, rfl, hds⟩

end Json

namespace Dimension

open Json (IsDocument Value readDimensions)

variable {names : List String} {text : String}

theorem readDimensions_eq_ok_iff_of_isDocument (h : IsDocument (.ofTexts names) text.toList)
    {ds : List Dimension} : readDimensions text = .ok ds ↔ names.map ofName? = ds.map some := by
  rw [Json.readDimensions_eq_ok_iff]
  constructor
  · intro hread
    obtain ⟨names', h', hds⟩ := hread
    rwa [Request.ofTexts_injective (h.unique h')]
  · intro hds
    exact ⟨names, h, hds⟩

theorem convert_join_eq_ok_iff (h : ∀ name ∈ names, Text.IsEntry name)
    {found : OrderedSet Dimension} :
    Request.dimensionsFlag.convert (some (Text.join "," names)) = .ok found ↔
      ∃ ds, names.map ofName? = ds.map some ∧ found = .ofList ds := by
  rw [Request.dimensionsFlag, KnownFlag.convert_memberSet_eq_ok_iff]
  constructor
  · intro hconvert
    obtain ⟨joined, ds, hjoined, hds, rfl⟩ := hconvert
    cases hjoined
    rw [Text.items_join h] at hds
    exact ⟨ds, hds, rfl⟩
  · intro hds
    obtain ⟨ds, hds, rfl⟩ := hds
    rw [← Text.items_join h] at hds
    exact ⟨_, ds, rfl, hds, rfl⟩

theorem convert_join_iff_mem {ds : List Dimension} (h : ∀ name ∈ names, Text.IsEntry name)
    (hds : names.map ofName? = ds.map some) {found : OrderedSet Dimension} :
    Request.dimensionsFlag.convert (some (Text.join "," names)) = .ok found ↔
      ∀ d, d ∈ found.toList ↔ d ∈ ds := by
  rw [convert_join_eq_ok_iff h]
  constructor
  · intro hfound
    obtain ⟨ds', hds', rfl⟩ := hfound
    obtain rfl : ds = ds' :=
      List.map_injective_iff.2 (Option.some_injective Dimension) (hds.symm.trans hds')
    exact fun d => OrderedSet.mem_ofList_iff
  · intro hmem
    refine ⟨ds, hds, OrderedSet.eq_of_mem_iff ?_⟩
    intro d
    rw [hmem, OrderedSet.mem_ofList_iff]

theorem map_ofName?_map_name (ds : List Dimension) :
    (ds.map name).map ofName? = ds.map some := by
  rw [List.map_map]
  exact List.map_congr_left fun d _ => ofName?_name d

/-- However a list of names is written as JSON, it is read exactly if every name is one of a
dimension, and so is the flag that has the names between commas: the document as the list of these
dimensions, the flag as the set of them. A document that does not list texts is not read. What is
written for dimensions is read as these dimensions, and so is the name of each. -/
theorem names_read_alike :
    (∀ names text, (∀ name ∈ names, Text.IsEntry name) →
      IsDocument (.ofTexts names) text.toList →
      ((∃ ds, readDimensions text = .ok ds) ↔ ∀ name ∈ names, ∃ d, ofName? name = some d) ∧
      ((∃ found, Request.dimensionsFlag.convert (some (Text.join "," names)) = .ok found) ↔
        ∀ name ∈ names, ∃ d, ofName? name = some d) ∧
      (∀ ds, readDimensions text = .ok ds ↔ names.map ofName? = ds.map some) ∧
      ∀ ds found, readDimensions text = .ok ds →
        (Request.dimensionsFlag.convert (some (Text.join "," names)) = .ok found ↔
          ∀ d, d ∈ found.toList ↔ d ∈ ds)) ∧
    (∀ text : String, (∀ names, ¬ IsDocument (.ofTexts names) text.toList) →
      ∃ fault, readDimensions text = .error fault) ∧
    (∀ ds text, IsDocument (.ofTexts (ds.map name)) text.toList → readDimensions text = .ok ds) ∧
    (∀ ds, readDimensions (Value.ofTexts (ds.map name)).render = .ok ds) ∧
    ∀ d, ofName? (name d) = some d := by
  have hwritten (ds : List Dimension) (text : String)
      (h : IsDocument (.ofTexts (ds.map name)) text.toList) : readDimensions text = .ok ds :=
    (readDimensions_eq_ok_iff_of_isDocument h).2 (map_ofName?_map_name ds)
  refine ⟨?_, ?_, hwritten, ?_, ofName?_name⟩
  · intro names text hnames hdocument
    refine ⟨?_, ?_, fun ds => readDimensions_eq_ok_iff_of_isDocument hdocument, ?_⟩
    · simp only [readDimensions_eq_ok_iff_of_isDocument hdocument, exists_map_eq_map_some_iff]
    · rw [← exists_map_eq_map_some_iff]
      simp only [convert_join_eq_ok_iff hnames]
      constructor
      · intro h
        obtain ⟨_, ds, hds, -⟩ := h
        exact ⟨ds, hds⟩
      · intro h
        obtain ⟨ds, hds⟩ := h
        exact ⟨_, ds, hds, rfl⟩
    · intro ds found hread
      exact convert_join_iff_mem hnames
        ((readDimensions_eq_ok_iff_of_isDocument hdocument).1 hread)
  · intro text h
    cases hread : readDimensions text with
    | error fault => exact ⟨fault, rfl⟩
    | ok ds =>
      obtain ⟨names, hdocument, -⟩ := Json.readDimensions_eq_ok_iff.1 hread
      exact absurd hdocument (h names)
  · intro ds
    exact hwritten ds _ (Value.isDocument_render _)

theorem escaped_names_read_alike :
    readDimensions "[\"\\u0053DK\", \"ABI\",\n\"SDK\" ]" = .ok [sdk, abi, sdk] ∧
      Request.dimensionsFlag.convert (some "SDK,ABI,SDK") = .ok (.ofList [abi, sdk]) ∧
      (¬ ∃ ds, readDimensions "[\"SDK\", \"abi\"]" = .ok ds) ∧
      (¬ ∃ found, Request.dimensionsFlag.convert (some "SDK,abi") = .ok found) ∧
      ∃ fault, readDimensions "[\"SDK\", [\"ABI\"]]" = .error fault := by
  have hentry : ∀ name ∈ ["SDK", "ABI", "abi"], Text.IsEntry name := by
    intro name hname
    simp only [List.mem_cons, List.not_mem_nil, or_false] at hname
    obtain rfl | rfl | rfl := hname <;> exact ⟨by decide, by decide, by decide⟩
  have hescaped : IsDocument (.ofTexts ["SDK", "ABI", "SDK"])
      "[\"\\u0053DK\", \"ABI\",\n\"SDK\" ]".toList :=
    Json.isDocument_ofTexts_iff.2 rfl
  have hlower : IsDocument (.ofTexts ["SDK", "abi"]) "[\"SDK\", \"abi\"]".toList :=
    Json.isDocument_ofTexts_iff.2 rfl
  obtain ⟨halike, hrejected, -⟩ := names_read_alike
  obtain ⟨-, -, hread, hset⟩ := halike _ _ (fun name h => hentry name (by grind)) hescaped
  obtain ⟨hlist, hflag, -⟩ := halike _ _ (fun name h => hentry name (by grind)) hlower
  have hunknown : ¬ ∀ name ∈ ["SDK", "abi"], ∃ d, ofName? name = some d := by
    intro h
    obtain ⟨d, hd⟩ := h "abi" (by simp)
    cases hd
  have hsame : readDimensions "[\"\\u0053DK\", \"ABI\",\n\"SDK\" ]" = .ok [sdk, abi, sdk] :=
    (hread _).2 rfl
  have hmembers : ∀ d, d ∈ (OrderedSet.ofList [abi, sdk]).toList ↔ d ∈ [sdk, abi, sdk] := by
    intro d
    cases d <;> decide
  refine ⟨hsame, (hset _ _ hsame).2 hmembers, fun h => hunknown (hlist.1 h),
    fun h => hunknown (hflag.1 h), hrejected _ ?_⟩
  intro names h
  cases Json.isDocument_ofTexts_iff.1 h

end Dimension

end SizeRequest
