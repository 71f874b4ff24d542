import SizeRequest.Proofs.ShownRequests
import SizeRequest.Proofs.SpecMembers
import SizeRequest.Report.Help
import SizeRequest.Report.Show

namespace SizeRequest

theorem IsPrintable.newline_notMem {text : String} (h : IsPrintable text) :
    '\n' ∉ text.toList := by
  intro hmem
  exact absurd (h _ hmem).1 (by decide)

theorem isPrintable_of_labels {labels : List String}
    (h : labels.all fun label => label.toList.all fun c => 0x20 ≤ c.toNat && c.toNat ≤ 0x7e) :
    ∀ label ∈ labels, IsPrintable label := by
  intro label hlabel
  apply isPrintable_of_all
  exact List.all_eq_true.1 h label hlabel

namespace Text

theorem widthAfter_of_printable (last : Option Char) (s : List Char)
    (h : ∀ c ∈ s, 0x20 ≤ c.toNat ∧ c.toNat ≤ 0x7e) : widthAfter last s = s.length := by
  fun_induction widthAfter last s with
  | case1 => rfl
  | case2 last c rest ih => exact absurd (h '\uFE0F' (by simp)) (by decide)
  | case3 last c rest ih => exact absurd (h '\uFE0E' (by simp)) (by decide)
  | case4 last c rest joined ih => exact absurd (h '\u200D' (by simp)) (by decide)
  | case5 last c rest _ _ _ tone ih =>
    have hc := h c (by simp)
    have htone : tone = false := by
      simp only [tone, Bool.and_eq_false_iff, decide_eq_false_iff_not]
      omega
    have hwidth : charWidth c = 1 := if_pos (by omega)
    rw [ih fun d hd => h d (List.mem_cons_of_mem c hd), htone, hwidth, List.length_cons]
    exact Nat.add_comm 1 _

theorem width_of_printable {text : String} (h : IsPrintable text) : width text = text.length := by
  rw [width, widthAfter_of_printable none text.toList h, String.length_toList]

end Text

namespace Table

/-- A cell that is drawn on one line: printable, and short enough for its column, whose width is
counted in 16 bits. -/
structure IsPlain (cell : String) : Prop where
  printable : IsPrintable cell
  short : cell.length ≤ 60000

/-- Where a border stands, the one on the left being the first: before it are the columns on its
left, each with a border, a blank on either side of its text, and the text. -/
def border : List Nat → Nat → Nat
  | w :: widths, k + 1 => w + 3 + border widths k
  | _, _ => 0

/-- A line on which cells stand between the borders of columns, one in every column: a blank, the
text of the cell, and blanks up to the next border. The line ends with the last border. -/
structure Holds (row : List Char) (widths : List Nat) (cells : List String) : Prop where
  columns : cells.length = widths.length
  length : row.length = border widths widths.length + 1
  borders : ∀ k ≤ widths.length, row[border widths k]? = some '|'
  between : ∀ (k : Nat) (cell : String) (w : Nat), cells[k]? = some cell → widths[k]? = some w →
    cell.length ≤ w ∧ (row.drop (border widths k + 1)).take (w + 2)
      = ' ' :: cell.toList ++ List.replicate (w - cell.length + 1) ' '

structure IsRule (line : List Char) (widths : List Nat) : Prop where
  length : line.length = border widths widths.length + 1
  signs : ∀ c ∈ line, c ∈ ['+', '-', '=', '|']

/-- The lines of a table: the header and the rows stand on every other line, in columns as wide as
their longest cells, and the lines around them part them. -/
structure Drawn (header : List String) (rows : List (List String)) (widths : List Nat)
    (lines : List (List Char)) : Prop where
  height : lines.length = 2 * rows.length + 3
  width : ∀ line ∈ lines, line.length = border widths widths.length + 1
  longest : ∀ (k w : Nat), widths[k]? = some w →
    ∃ cells ∈ header :: rows, ∃ cell, cells[k]? = some cell ∧ cell.length = w
  header : ∃ line, lines[1]? = some line ∧ Holds line widths header
  rows : ∀ (i : Nat) (cells : List String), rows[i]? = some cells →
    ∃ line, lines[2 * i + 3]? = some line ∧ Holds line widths cells
  rules : ∀ (k : Nat) (line : List Char), lines[2 * k]? = some line → IsRule line widths

theorem lines_of_printable {cell : String} (h : IsPrintable cell) : lines cell = [cell] := by
  have hsplit : cell.toList.splitOn '\n' = [cell.toList] := by
    apply List.splitOnP_eq_singleton
    intro c hc
    simpa using ne_of_mem_of_not_mem hc h.newline_notMem
  simp [lines, hsplit]

theorem cellWidth_of_printable {cell : String} (h : IsPrintable cell) :
    cellWidth cell = cell.length := by
  simp [cellWidth, lines_of_printable h, Text.width_of_printable h]

structure Widest (widths : List Nat) (rows : List (List Nat)) : Prop where
  columns : ∀ row ∈ rows, row.length = widths.length
  upper : ∀ row ∈ rows, ∀ (k v w : Nat), row[k]? = some v → widths[k]? = some w → v ≤ w
  attained : ∀ (k w : Nat), widths[k]? = some w → ∃ row ∈ rows, row[k]? = some w

theorem maxWidths_eq_zipWith {vs ws : List Nat} (h : vs.length = ws.length) :
    maxWidths vs ws = List.zipWith max vs ws := by
  fun_induction maxWidths vs ws with
  | case1 ws => simp [List.length_eq_zero_iff.1 h.symm]
  | case2 vs => simp [List.length_eq_zero_iff.1 h]
  | case3 v vs w ws ih => rw [List.zipWith_cons_cons, ih (by simpa using h)]

theorem Widest.singleton (row : List Nat) : Widest row [row] where
  columns := by simp
  upper := by
    intro other hother k v w hv hw
    rw [List.mem_singleton.1 hother, hw] at hv
    exact Nat.le_of_eq (Option.some.inj hv).symm
  attained k w hw := ⟨row, by simp, hw⟩

theorem Widest.maxWidths {widths row : List Nat} {rows : List (List Nat)} (h : Widest widths rows)
    (hrow : row.length = widths.length) : Widest (maxWidths widths row) (rows ++ [row]) := by
  rw [maxWidths_eq_zipWith hrow.symm]
  have hlength : (List.zipWith max widths row).length = widths.length := by simp [hrow]
  constructor
  · intro other hother
    rw [hlength]
    rcases List.mem_append.1 hother with hmem | hmem
    · exact h.columns other hmem
    · rw [List.mem_singleton.1 hmem, hrow]
  · intro other hother k u m hu hm
    obtain ⟨w, v, hw, hv, rfl⟩ := List.getElem?_zipWith_eq_some.1 hm
    rcases List.mem_append.1 hother with hmem | hmem
    · exact Nat.le_trans (h.upper other hmem k u w hu hw) (Nat.le_max_left w v)
    · rw [List.mem_singleton.1 hmem, hv] at hu
      exact Option.some.inj hu ▸ Nat.le_max_right w v
  · intro k m hm
    obtain ⟨w, v, hw, hv, rfl⟩ := List.getElem?_zipWith_eq_some.1 hm
    rcases Nat.le_total v w with hle | hle
    · obtain ⟨other, hmem, hother⟩ := h.attained k w hw
      rw [Nat.max_eq_left hle]
      exact ⟨other, List.mem_append_left [row] hmem, hother⟩
    · rw [Nat.max_eq_right hle]
      exact ⟨row, by simp, hv⟩

/-- The columns are widened row by row, and stay the widest of the rows seen so far. -/
theorem Widest.foldl {widths : List Nat} {seen : List (List Nat)} (h : Widest widths seen)
    (rows : List (List Nat)) (hrows : ∀ row ∈ rows, row.length = widths.length) :
    Widest (rows.foldl Table.maxWidths widths) (seen ++ rows) := by
  induction rows generalizing widths seen with
  | nil => simpa using h
  | cons row rows ih =>
    have hrow := hrows row (by simp)
    have hnext := h.maxWidths hrow
    have hlength := hnext.columns row (by simp)
    rw [List.foldl_cons, List.append_cons]
    apply ih hnext
    intro other hother
    rw [hrows other (List.mem_cons_of_mem row hother), ← hrow, hlength]

theorem pad_of_printable {w : Nat} {cell : String} (h : IsPrintable cell) :
    pad w cell = cell.toList ++ List.replicate (w - cell.length) ' ' := by
  rw [pad, Text.width_of_printable h]

theorem textLine_cons (w : Nat) (widths : List Nat) (cell : String) (cells : List String) :
    textLine (w :: widths) (cell :: cells)
      = '|' :: (' ' :: pad w cell ++ [' ']) ++ textLine widths cells := by
  simp [textLine]

theorem mem_textLine {widths : List Nat} {cells : List String} {c : Char}
    (h : c ∈ textLine widths cells) :
    c = '|' ∨ c = ' ' ∨ ∃ cell ∈ cells, c ∈ cell.toList := by
  rw [textLine, List.mem_cons, List.mem_flatMap] at h
  rcases h with rfl | ⟨⟨w, cell⟩, hzip, hc⟩
  · exact .inl rfl
  · simp only [pad, List.cons_append, List.mem_cons, List.mem_append, List.mem_replicate,
      List.not_mem_nil, or_false] at hc
    rcases hc with rfl | (hcell | ⟨-, rfl⟩) | rfl | rfl
    · simp
    · exact .inr (.inr ⟨cell, (List.of_mem_zip hzip).2, hcell⟩)
    · simp
    · simp
    · simp

theorem length_column {w : Nat} {cell : String} (h : IsPrintable cell) (hw : cell.length ≤ w) :
    (' ' :: pad w cell ++ [' ']).length = w + 2 := by
  simp only [pad_of_printable h, List.length_append, List.length_cons, List.length_nil,
    String.length_toList, List.length_replicate]
  omega

theorem Holds.nil : Holds ['|'] [] [] where
  columns := rfl
  length := rfl
  borders := by simp [border]
  between := by simp

theorem Holds.cons {line : List Char} {widths : List Nat} {cells : List String}
    (h : Holds line widths cells) {w : Nat} {cell : String} (hcell : IsPrintable cell)
    (hw : cell.length ≤ w) :
    Holds ('|' :: (' ' :: pad w cell ++ [' ']) ++ line) (w :: widths) (cell :: cells) := by
  have hlength := length_column hcell hw
  generalize hcolumn : ' ' :: pad w cell ++ [' '] = column at hlength ⊢
  have hbehind (i : Nat) : ('|' :: column ++ line).drop (w + 3 + i) = line.drop i := by
    rw [List.drop_append, List.drop_of_length_le (by simp [hlength]), List.nil_append]
    simp [hlength]
  constructor
  · simp [h.columns]
  · simp only [List.cons_append, List.length_cons, List.length_append, hlength, h.length, border]
    omega
  · intro k hk
    cases k with
    | zero => rfl
    | succ k =>
      have hborder := h.borders k (by simpa using hk)
      rwa [border, ← Nat.add_zero (_ + _), ← List.getElem?_drop, hbehind, List.getElem?_drop]
  · intro k text v htext hv
    cases k with
    | zero =>
      obtain rfl : cell = text := by simpa using htext
      obtain rfl : w = v := by simpa using hv
      refine ⟨hw, ?_⟩
      have htake : (column ++ line).take (w + 2) = column := by rw [← hlength, List.take_left]
      rw [pad_of_printable hcell, List.cons_append, List.append_assoc, ← List.replicate_succ']
        at hcolumn
      exact htake.trans hcolumn.symm
    | succ k =>
      rw [border, Nat.add_assoc (w + 3), hbehind]
      exact h.between k text v (by simpa using htext) (by simpa using hv)

theorem holds_textLine {widths : List Nat} {cells : List String}
    (hcolumns : cells.length = widths.length) (hprintable : ∀ cell ∈ cells, IsPrintable cell)
    (hfits : ∀ (k : Nat) (cell : String) (w : Nat), cells[k]? = some cell →
      widths[k]? = some w → cell.length ≤ w) :
    Holds (textLine widths cells) widths cells := by
  induction widths generalizing cells with
  | nil =>
    obtain rfl := List.length_eq_zero_iff.1 hcolumns
    exact .nil
  | cons w widths ih =>
    obtain ⟨cell, cells, rfl⟩ := List.exists_cons_of_length_eq_add_one hcolumns
    have hrest : Holds (textLine widths cells) widths cells := by
      apply ih (by simpa using hcolumns)
      · intro text htext
        exact hprintable text (List.mem_cons_of_mem cell htext)
      · intro k text v htext hv
        exact hfits (k + 1) text v htext hv
    rw [textLine_cons]
    exact hrest.cons (hprintable cell (by simp)) (hfits 0 cell w rfl rfl)

theorem rule_cons (left fill cross right : Char) (w v : Nat) (widths : List Nat) :
    rule left fill cross right (w :: v :: widths)
      = left :: List.replicate (w + 2) fill ++ rule cross fill cross right (v :: widths) := by
  simp [rule, List.intercalate_cons_cons]

theorem length_rule (left fill cross right : Char) {widths : List Nat} (h : widths ≠ []) :
    (rule left fill cross right widths).length = border widths widths.length + 1 := by
  induction widths generalizing left with
  | nil => contradiction
  | cons w widths ih =>
    cases widths with
    | nil => simp [rule, border]
    | cons v widths =>
      have hrest := ih cross (by simp)
      rw [rule_cons, List.length_append, hrest, List.length_cons, List.length_replicate]
      simp only [List.length_cons, border]
      omega

theorem mem_rule {signs : List Char} {left fill cross right : Char} (hleft : left ∈ signs)
    (hfill : fill ∈ signs) (hcross : cross ∈ signs) (hright : right ∈ signs) (widths : List Nat) :
    ∀ c ∈ rule left fill cross right widths, c ∈ signs := by
  induction widths generalizing left with
  | nil => simp [rule, hleft, hright]
  | cons w widths ih =>
    cases widths with
    | nil => simp [rule, hleft, hfill, hright, or_imp, forall_and]
    | cons v widths =>
      intro c hc
      rw [rule_cons, List.mem_append, List.mem_cons, List.mem_replicate] at hc
      rcases hc with (rfl | ⟨-, rfl⟩) | hc
      · exact hleft
      · exact hfill
      · exact ih hcross c hc

theorem isRule_rule {left fill cross right : Char} {widths : List Nat} (h : widths ≠ [])
    (hsigns : ∀ c ∈ [left, fill, cross, right], c ∈ ['+', '-', '=', '|']) :
    IsRule (rule left fill cross right widths) widths where
  length := length_rule left fill cross right h
  signs := mem_rule (hsigns left (by simp)) (hsigns fill (by simp)) (hsigns cross (by simp))
    (hsigns right (by simp)) widths

theorem foldl_max_of_ones {heights : List Nat} (hne : heights ≠ []) (h : ∀ n ∈ heights, n = 1) :
    heights.foldl max 0 = 1 := by
  obtain ⟨n, heights, rfl⟩ := List.exists_cons_of_ne_nil hne
  rw [List.foldl_cons, h n (by simp)]
  induction heights with
  | nil => rfl
  | cons m heights ih =>
    rw [List.foldl_cons, h m (by simp)]
    apply ih (by simp)
    intro k hk
    rcases List.mem_cons.1 hk with rfl | hmem
    · exact h k (by simp)
    · exact h k (by simp [hmem])

theorem rowLines_of_printable (widths : List Nat) {cells : List String} (hne : cells ≠ [])
    (h : ∀ cell ∈ cells, IsPrintable cell) : rowLines widths cells = [textLine widths cells] := by
  have hlines : cells.map lines = cells.map fun cell => [cell] :=
    List.map_congr_left fun cell hcell => lines_of_printable (h cell hcell)
  have hheight : ((cells.map lines).map List.length).foldl max 0 = 1 :=
    foldl_max_of_ones (by simpa using hne) (by simp [hlines])
  have htexts : (cells.map lines).map (fun column => column.getD 0 "") = cells := by
    simp [hlines, Function.comp_def]
  rw [rowLines, hheight]
  exact congrArg (fun texts => [textLine widths texts]) htexts

theorem bodyLines_of_printable (widths : List Nat) {rows : List (List String)}
    (hne : ∀ cells ∈ rows, cells ≠ []) (h : ∀ cells ∈ rows, ∀ cell ∈ cells, IsPrintable cell) :
    bodyLines widths rows
      = (rows.map (textLine widths)).intersperse (rule '|' '-' '+' '|' widths) := by
  induction rows with
  | nil => rfl
  | cons cells rows ih =>
    have hcells := rowLines_of_printable widths (hne cells (by simp)) (h cells (by simp))
    have hrest := ih (fun other hother => hne other (List.mem_cons_of_mem cells hother))
      (fun other hother => h other (List.mem_cons_of_mem cells hother))
    cases rows with
    | nil => simp [bodyLines, hcells]
    | cons other rows =>
      rw [bodyLines, List.map_cons, List.map_cons] at hrest ⊢
      rw [List.intercalate_cons_cons, hrest, hcells]
      rfl

theorem eq_or_mem_of_mem_intersperse {α : Type} {separator x : α} {xs : List α}
    (h : x ∈ xs.intersperse separator) : x = separator ∨ x ∈ xs := by
  induction xs with
  | nil => contradiction
  | cons y xs ih =>
    cases xs with
    | nil => exact .inr h
    | cons z xs =>
      rw [List.intersperse_cons_cons, List.mem_cons, List.mem_cons] at h
      rcases h with rfl | rfl | h
      · simp
      · simp
      · exact (ih h).imp_right (List.mem_cons_of_mem y)

theorem eq_of_getElem?_intersperse {α : Type} {separator last x : α} {xs : List α} {k : Nat}
    (h : (xs.intersperse separator ++ [last])[2 * k + 1]? = some x) : x = separator ∨ x = last := by
  by_cases hk : k + 1 < xs.length
  · have hlt : 2 * k + 1 < (xs.intersperse separator).length := by
      rw [List.length_intersperse]
      omega
    rw [List.getElem?_append_left hlt, List.getElem?_intersperse_two_mul_add_one hk] at h
    exact .inl (Option.some.inj h).symm
  · have hle : (xs.intersperse separator).length ≤ 2 * k + 1 := by
      rw [List.length_intersperse]
      omega
    rw [List.getElem?_append_right hle] at h
    exact .inr (List.mem_singleton.1 (List.mem_of_getElem? h))

/-- A table with a line for every row: rows of printable cells, one for every text of the
header. -/
structure Flat (t : Table) : Prop where
  header : t.header ≠ []
  rows : t.rows ≠ []
  columns : ∀ cells ∈ t.rows, cells.length = t.header.length
  printable : ∀ cells ∈ t.header :: t.rows, ∀ cell ∈ cells, IsPrintable cell

namespace Flat

variable {t : Table} (h : t.Flat)
include h

theorem widest : Widest t.widths ((t.header :: t.rows).map (·.map String.length)) := by
  have hwidths : (t.header :: t.rows).map (·.map cellWidth)
      = (t.header :: t.rows).map (·.map String.length) := by
    apply List.map_congr_left
    intro cells hcells
    apply List.map_congr_left
    intro cell hcell
    exact cellWidth_of_printable (h.printable cells hcells cell hcell)
  rw [← hwidths]
  apply (Widest.singleton (t.header.map cellWidth)).foldl
  intro row hrow
  obtain ⟨cells, hcells, rfl⟩ := List.mem_map.1 hrow
  rw [List.length_map, List.length_map, h.columns cells hcells]

theorem holds {cells : List String} (hcells : cells ∈ t.header :: t.rows) :
    Holds (textLine t.widths cells) t.widths cells := by
  have hrow : cells.map String.length ∈ (t.header :: t.rows).map (·.map String.length) :=
    List.mem_map_of_mem hcells
  apply holds_textLine (by simpa using h.widest.columns _ hrow) (h.printable cells hcells)
  intro k cell w hcell hw
  exact h.widest.upper _ hrow k cell.length w (by rw [List.getElem?_map, hcell]; rfl) hw

theorem isRule {left fill cross right : Char}
    (hsigns : ∀ c ∈ [left, fill, cross, right], c ∈ ['+', '-', '=', '|']) :
    IsRule (rule left fill cross right t.widths) t.widths := by
  apply isRule_rule _ hsigns
  intro hnil
  have hcolumns := (h.holds List.mem_cons_self).columns
  rw [hnil, List.length_nil, List.length_eq_zero_iff] at hcolumns
  exact h.header hcolumns

theorem allLines_eq :
    t.allLines = rule '+' '-' '+' '+' t.widths :: textLine t.widths t.header
      :: rule '+' '=' '=' '+' t.widths
      :: ((t.rows.map (textLine t.widths)).intersperse (rule '|' '-' '+' '|' t.widths)
        ++ [rule '+' '-' '+' '+' t.widths]) := by
  have hfilled (cells : List String) (hcells : cells ∈ t.rows) : cells ≠ [] := by
    intro hnil
    have hcolumns := h.columns cells hcells
    rw [hnil, List.length_nil, eq_comm, List.length_eq_zero_iff] at hcolumns
    exact h.header hcolumns
  have hbody := bodyLines_of_printable t.widths hfilled
    fun cells hcells => h.printable cells (List.mem_cons_of_mem t.header hcells)
  rw [allLines, rowLines_of_printable t.widths h.header (h.printable _ List.mem_cons_self), hbody]
  rfl

theorem line_cases {line : List Char} (hline : line ∈ t.allLines) :
    IsRule line t.widths ∨ ∃ cells ∈ t.header :: t.rows, line = textLine t.widths cells := by
  simp only [h.allLines_eq, List.mem_cons, List.mem_append, List.not_mem_nil, or_false] at hline
  rcases hline with rfl | rfl | rfl | hline | rfl
  · exact .inl (h.isRule (by simp))
  · exact .inr ⟨t.header, List.mem_cons_self, rfl⟩
  · exact .inl (h.isRule (by simp))
  · rcases eq_or_mem_of_mem_intersperse hline with rfl | hmem
    · exact .inl (h.isRule (by simp))
    · obtain ⟨cells, hcells, rfl⟩ := List.mem_map.1 hmem
      exact .inr ⟨cells, List.mem_cons_of_mem _ hcells, rfl⟩
  · exact .inl (h.isRule (by simp))

theorem newline_notMem {line : List Char} (hline : line ∈ t.allLines) : '\n' ∉ line := by
  intro hmem
  rcases h.line_cases hline with hrule | ⟨cells, hcells, rfl⟩
  · exact absurd (hrule.signs _ hmem) (by decide)
  · rcases mem_textLine hmem with hborder | hblank | ⟨cell, hcell, hmem⟩
    · exact absurd hborder (by decide)
    · exact absurd hblank (by decide)
    · exact (h.printable cells hcells cell hcell).newline_notMem hmem

theorem drawn : Drawn t.header t.rows t.widths t.allLines where
  height := by
    have hpos := List.length_pos_iff.2 h.rows
    simp only [h.allLines_eq, List.length_cons, List.length_append, List.length_intersperse,
      List.length_map, List.length_nil]
    omega
  width line hline := by
    rcases h.line_cases hline with hrule | ⟨cells, hcells, rfl⟩
    · exact hrule.length
    · exact (h.holds hcells).length
  longest k w hw := by
    obtain ⟨row, hrow, hk⟩ := h.widest.attained k w hw
    obtain ⟨cells, hcells, rfl⟩ := List.mem_map.1 hrow
    rw [List.getElem?_map, Option.map_eq_some_iff] at hk
    exact ⟨cells, hcells, hk⟩
  header := by
    rw [h.allLines_eq]
    exact ⟨textLine t.widths t.header, rfl, h.holds List.mem_cons_self⟩
  rows i cells hcells := by
    have hbody : ((t.rows.map (textLine t.widths)).intersperse
        (rule '|' '-' '+' '|' t.widths))[2 * i]? = some (textLine t.widths cells) := by
      rw [List.getElem?_intersperse_two_mul, List.getElem?_map, hcells, Option.map_some]
    have hlt := (List.getElem?_eq_some_iff.1 hbody).1
    have hmem := List.mem_cons_of_mem t.header (List.mem_of_getElem? hcells)
    refine ⟨textLine t.widths cells, ?_, h.holds hmem⟩
    simp only [h.allLines_eq, List.getElem?_cons_succ, List.getElem?_append_left hlt, hbody]
  rules k line hline := by
    rw [h.allLines_eq] at hline
    -- The first two rules are those around the header, the others part and end the rows.
    match k with
    | 0 =>
      obtain rfl := Option.some.inj hline
      exact h.isRule (by simp)
    | 1 =>
      obtain rfl := Option.some.inj hline
      exact h.isRule (by simp)
    | k + 2 =>
      rcases eq_of_getElem?_intersperse hline with rfl | rfl
      · exact h.isRule (by simp)
      · exact h.isRule (by simp)

theorem splitOn_render : t.render.toList.splitOn '\n' = t.allLines := by
  rw [render, String.toList_ofList]
  apply List.splitOn_intercalate '\n'
  · intro line hline
    exact h.newline_notMem hline
  · rw [h.allLines_eq]
    exact List.cons_ne_nil _ _

theorem drawn_render : Drawn t.header t.rows t.widths (t.render.toList.splitOn '\n') := by
  rw [h.splitOn_render]
  exact h.drawn

end Flat

example :
    render ⟨["Flag", ""], [["--a|b", "-"], ["", "x+y"]]⟩
      = "+-------+-----+\n| Flag  |     |\n+=============+\n| --a|b | -   |\n|-------+-----|\n" ++
        "|       | x+y |\n+-------+-----+" := by decide

end Table

theorem isPrintable_dimensionsCell (dimensions : OrderedSet Dimension) :
    IsPrintable (Request.dimensionsCell dimensions) := by
  rw [Request.dimensionsCell]
  split
  · exact isPrintable_of_all (by decide)
  · have hcomma : IsPrintable ", " := isPrintable_of_all (by decide)
    intro c hc
    rcases Text.mem_join hc with hc | ⟨name, hname, hc⟩
    · exact hcomma c hc
    · obtain ⟨d, -, rfl⟩ := List.mem_map.1 hname
      cases d <;> exact isPrintable_of_all (by decide) c hc

theorem Request.flat_table {r : Request} (harchive : IsPrintable r.archive.text)
    (hspec : IsPrintable r.spec.cell) (hmodules : IsPrintable (modulesCell r.modules)) :
    r.table.Flat where
  header := List.cons_ne_nil _ _
  rows := List.cons_ne_nil _ _
  columns := by simp [table]
  printable := by
    have hinstant : IsPrintable (toString r.instant) := by
      cases r.instant <;> exact isPrintable_of_all (by decide)
    have hlabels : ∀ label ∈ ["APK Set", "Device spec", "Modules", "Dimensions", "Instant"],
        IsPrintable label := isPrintable_of_labels (by decide)
    have hheader : ∀ cell ∈ ["get-size request", ""], IsPrintable cell :=
      isPrintable_of_labels (by decide)
    simp only [List.forall_mem_cons, List.not_mem_nil, false_implies, implies_true, and_true, table]
      at hlabels hheader ⊢
    obtain ⟨hset, hdevice, hnames, hkinds, hword⟩ := hlabels
    exact ⟨hheader, ⟨hset, harchive⟩, ⟨hdevice, hspec⟩, ⟨hnames, hmodules⟩,
      ⟨hkinds, isPrintable_dimensionsCell r.dimensions⟩, hword, hinstant⟩

theorem CommandHelp.flat_table {help : CommandHelp} (hflags : help.flags ≠ [])
    (h : ∀ flag ∈ help.flags, IsPrintable ("--" ++ flag.name) ∧ IsPrintable (flag.sample.getD "")
      ∧ IsPrintable flag.description) :
    help.table.Flat where
  header := List.cons_ne_nil _ _
  rows := by simpa [table] using hflags
  columns := by simp [table, FlagHelp.row]
  printable := by
    have hheader : ∀ cell ∈ ["Flag", "Example", "Required", "Description"], IsPrintable cell :=
      isPrintable_of_labels (by decide)
    intro cells hcells
    rcases List.mem_cons.1 hcells with rfl | hmem
    · exact hheader
    · obtain ⟨flag, hflag, rfl⟩ := List.mem_map.1 hmem
      obtain ⟨hname, hsample, hdescription⟩ := h flag hflag
      have hoptional : IsPrintable (if flag.optional then "no" else "yes") := by
        cases flag.optional <;> exact isPrintable_of_all (by decide)
      simp only [FlagHelp.row, List.forall_mem_cons, List.not_mem_nil, false_implies, implies_true,
        and_true]
      exact ⟨hname, hsample, hoptional, hdescription⟩

namespace Table

/-- A request is drawn as a table of its five fields, and a description of a command as one of its
flags, whatever signs stand in the cells. -/
theorem drawn_of_plain_cells :
    (∀ r : Request, IsPlain r.archive.text → IsPlain r.spec.cell →
      IsPlain (Request.modulesCell r.modules) →
      ∃ drawn widths, r.written .text = drawn ++ "\n" ∧
        Drawn ["get-size request", ""]
          [["APK Set", r.archive.text],
           ["Device spec", r.spec.cell],
           ["Modules", Request.modulesCell r.modules],
           ["Dimensions", Request.dimensionsCell r.dimensions],
           ["Instant", toString r.instant]]
          widths (drawn.toList.splitOn '\n')) ∧
    (∀ help : CommandHelp, help.flags ≠ [] →
      (∀ flag ∈ help.flags, IsPlain ("--" ++ flag.name) ∧ IsPlain (flag.sample.getD "")
        ∧ IsPlain flag.description) →
      ∃ drawn widths,
        help.render = help.name ++ "\n\n" ++ help.description ++ "\n\nSynopsis:\n    "
          ++ help.synopsis ++ "\n\n" ++ drawn ∧
        Drawn ["Flag", "Example", "Required", "Description"]
          (help.flags.map fun flag =>
            ["--" ++ flag.name, flag.sample.getD "", if flag.optional then "no" else "yes",
              flag.description])
          widths (drawn.toList.splitOn '\n')) := by
  constructor
  · intro r harchive hspec hmodules
    have hflat := Request.flat_table harchive.printable hspec.printable hmodules.printable
    have hwritten : r.written .text = r.table.render ++ "\n" := by
      simp [Request.written, Request.pieces, String.join]
    exact ⟨r.table.render, r.table.widths, hwritten, hflat.drawn_render⟩
  · intro help hflags hplain
    have hflat : help.table.Flat := by
      apply CommandHelp.flat_table hflags
      intro flag hflag
      obtain ⟨hname, hsample, hdescription⟩ := hplain flag hflag
      exact ⟨hname.printable, hsample.printable, hdescription.printable⟩
    exact ⟨help.table.render, help.table.widths, rfl, hflat.drawn_render⟩

theorem signs_in_cells_drawn :
    (∃ drawn widths,
      Request.written
          ⟨⟨"a|b.apks"⟩, {}, some (.ofList ["+--+", "base"]), .ofList [.sdk], true⟩ .text
        = drawn ++ "\n" ∧
      Drawn ["get-size request", ""]
        [["APK Set", "a|b.apks"], ["Device spec", "default (empty)"], ["Modules", "+--+, base"],
         ["Dimensions", "SDK"], ["Instant", "true"]]
        widths (drawn.toList.splitOn '\n')) ∧
    (∃ drawn widths,
      CommandHelp.render ⟨"demo", "Does a demo.", [⟨"a|b", some "", true, "|"⟩]⟩
        = "demo\n\nDoes a demo.\n\nSynopsis:\n    demo [--a|b=<>]\n\n" ++ drawn ∧
      Drawn ["Flag", "Example", "Required", "Description"] [["--a|b", "", "no", "|"]]
        widths (drawn.toList.splitOn '\n')) := by
  have hplain (cell : String) (h : cell.toList.all fun c => 0x20 ≤ c.toNat && c.toNat ≤ 0x7e)
      (hshort : cell.length ≤ 60000) : IsPlain cell := ⟨isPrintable_of_all h, hshort⟩
  constructor
  · exact drawn_of_plain_cells.1 _ (hplain _ (by decide) (by decide))
      (hplain _ (by decide) (by decide)) (hplain _ (by decide) (by decide))
  · apply drawn_of_plain_cells.2 ⟨"demo", "Does a demo.", [⟨"a|b", some "", true, "|"⟩]⟩ (by decide)
    intro flag hflag
    obtain rfl := List.mem_singleton.1 hflag
    exact ⟨hplain _ (by decide) (by decide), hplain _ (by decide) (by decide),
      hplain _ (by decide) (by decide)⟩

end Table

end SizeRequest
