import Bindery.Display.Table
import Bindery.Proofs.Layouts
import Mathlib.Algebra.Order.BigOperators.Group.List
import Mathlib.Algebra.Order.Group.Nat

/-!
# Tables of plain texts

A table can be drawn exactly if its title and all its cells can, and what is drawn is the table of
their texts.  In a column that is aligned to the left every line of a cell stands in a line of the
table.
-/

namespace Bindery.Display

open Bindery.Steps Bindery.Text

/-! ## Rows and columns -/

section

variable {α β : Type}

theorem transpose_cons_cons (row next : List α) (more : List (List α)) :
    transpose (row :: next :: more) = List.zipWith (· :: ·) row (transpose (next :: more)) :=
  rfl

/-- Rows have the length of the columns of a table that has some. -/
structure Rectangular (width : Nat) (rows : List (List α)) : Prop where
  width_pos : 0 < width
  length_eq : ∀ row ∈ rows, row.length = width

theorem Rectangular.tail {width : Nat} {row : List α} {more : List (List α)}
    (rectangular : Rectangular width (row :: more)) : Rectangular width more where
  width_pos := rectangular.width_pos
  length_eq other member := rectangular.length_eq other (List.mem_cons_of_mem _ member)

theorem length_transpose {width : Nat} {row : List α} {more : List (List α)}
    (rectangular : Rectangular width (row :: more)) :
    (transpose (row :: more)).length = width := by
  induction more generalizing row with
  | nil => simpa [transpose] using rectangular.length_eq row
  | cons next more ih =>
      have here := rectangular.length_eq row List.mem_cons_self
      rw [transpose_cons_cons, List.length_zipWith, ih rectangular.tail, here, Nat.min_self]

theorem transpose_map_singleton {row : List α} (nonempty : row ≠ []) :
    transpose (row.map ([·])) = [row] := by
  induction row with
  | nil => exact absurd rfl nonempty
  | cons item rest ih =>
      cases rest with
      | nil => rfl
      | cons next rest =>
          have later : transpose ([next] :: rest.map ([·])) = [next :: rest] := ih (by simp)
          rw [List.map_cons, List.map_cons, transpose_cons_cons, later]
          rfl

/-- The columns that start with the items of a row are the row and the rows below it. -/
theorem transpose_zipWith_cons {row : List α} {columns : List (List α)} (nonempty : row ≠ [])
    (lengths : columns.length = row.length) :
    transpose (List.zipWith (· :: ·) row columns) = row :: transpose columns := by
  induction row generalizing columns with
  | nil => exact absurd rfl nonempty
  | cons item rest ih =>
      obtain ⟨column, columns, rfl⟩ := List.exists_cons_of_length_eq_add_one lengths
      cases rest with
      | nil =>
          obtain rfl : columns = [] := by simpa using lengths
          rfl
      | cons next rest =>
          have lengths : columns.length = (next :: rest).length := by simpa using lengths
          have later := ih (by simp) lengths
          obtain ⟨other, columns, rfl⟩ := List.exists_cons_of_length_eq_add_one lengths
          rw [List.zipWith_cons_cons, List.zipWith_cons_cons, transpose_cons_cons,
            ← List.zipWith_cons_cons, later]
          rfl

/-- The rows of the columns of rows are the rows. -/
theorem transpose_transpose {width : Nat} {rows : List (List α)}
    (rectangular : Rectangular width rows) : transpose (transpose rows) = rows := by
  induction rows with
  | nil => rfl
  | cons row more ih =>
      have length := rectangular.length_eq row List.mem_cons_self
      have nonempty : row ≠ [] := by
        rintro rfl
        exact absurd length (Nat.ne_of_lt rectangular.width_pos)
      cases more with
      | nil => exact transpose_map_singleton nonempty
      | cons next more =>
          rw [transpose_cons_cons, transpose_zipWith_cons nonempty, ih rectangular.tail]
          rw [length_transpose rectangular.tail, length]

/-- Rows that are related item by item have columns that are. -/
theorem forall₂_transpose {relation : α → β → Prop} {rows : List (List α)}
    {results : List (List β)} (related : List.Forall₂ (List.Forall₂ relation) rows results) :
    List.Forall₂ (List.Forall₂ relation) (transpose rows) (transpose results) := by
  have zipped {row : List α} {result : List β} {columns : List (List α)}
      {others : List (List β)} (here : List.Forall₂ relation row result)
      (later : List.Forall₂ (List.Forall₂ relation) columns others) :
      List.Forall₂ (List.Forall₂ relation) (List.zipWith (· :: ·) row columns)
        (List.zipWith (· :: ·) result others) := by
    induction here generalizing columns others with
    | nil => exact .nil
    | cons first _ ih =>
        cases later with
        | nil => exact .nil
        | cons column rest => exact .cons (.cons first column) (ih rest)
  induction related with
  | nil => exact .nil
  | @cons row result more others here later ih =>
      cases later with
      | nil =>
          change List.Forall₂ _ (row.map ([·])) (result.map ([·]))
          rw [List.forall₂_map_left_iff, List.forall₂_map_right_iff]
          exact here.imp fun _ _ same => .cons same .nil
      | cons next rest => exact zipped here ih

theorem Rectangular.of_forall₂ {relation : α → β → Prop} {width : Nat} {rows : List (List α)}
    {results : List (List β)} (rectangular : Rectangular width rows)
    (related : List.Forall₂ (List.Forall₂ relation) rows results) : Rectangular width results where
  width_pos := rectangular.width_pos
  length_eq result member := by
    obtain ⟨row, inRows, same⟩ := exists_mem_of_forall₂ related member
    rw [← same.length_eq, rectangular.length_eq row inRows]

end

/-! ## Widths of columns -/

theorem nearest_one (number : Nat) : nearest number 1 = number := by
  simp [nearest, Nat.mod_one]

theorem total_cons (width : Nat) (more : List Nat) : total (width :: more) = width + total more :=
  rfl

theorem le_total_of_mem {width : Nat} {widths : List Nat} (member : width ∈ widths) :
    width ≤ total widths :=
  List.le_sum_of_mem member

theorem length_mul_le_total {least : Nat} {widths : List Nat}
    (all : ∀ width ∈ widths, least ≤ width) : widths.length * least ≤ total widths :=
  List.card_nsmul_le_sum widths least all

/-- Shares are only taken off. -/
theorem total_takeShares_le (amount shares : Nat) (limited : List (Nat × Nat)) :
    total (takeShares amount shares limited) ≤ total (limited.map (·.1)) := by
  induction limited generalizing amount shares with
  | nil => exact Nat.le_refl _
  | cons first more ih =>
      obtain ⟨number, limit⟩ := first
      rw [takeShares]
      split
      · simpa [total_cons] using ih amount shares
      · have later := ih (amount - min limit (nearest amount shares)) (shares - 1)
        simp only [total_cons, List.map_cons]
        omega

/-- As long as there is something to take and a number to take it off, something is taken. -/
theorem total_takeShares_lt {amount shares : Nat} {limited : List (Nat × Nat)} (some : 0 < amount)
    (counted : limited.countP (·.2 ≠ 0) = shares) (shared : 0 < shares)
    (small : ∀ item ∈ limited, item.2 ≤ item.1) :
    total (takeShares amount shares limited) < total (limited.map (·.1)) := by
  induction limited generalizing shares with
  | nil =>
      subst counted
      cases shared
  | cons first more ih =>
      obtain ⟨number, limit⟩ := first
      obtain ⟨here, later⟩ := List.forall_mem_cons.1 small
      rw [takeShares]
      by_cases free : limit = 0
      · rw [if_pos free]
        rw [List.countP_cons_of_neg (by simpa using free)] at counted
        simpa [total_cons] using ih counted shared later
      rw [if_neg free]
      rw [List.countP_cons_of_pos (by simpa using free)] at counted
      simp only [total_cons, List.map_cons]
      by_cases none : nearest amount shares = 0
      · have others : 0 < shares - 1 := by
          by_contra last
          obtain rfl : shares = 1 := by omega
          rw [nearest_one] at none
          omega
        have less := @ih (shares - 1) (by omega) others later
        rw [none, Nat.min_zero, Nat.sub_zero, Nat.sub_zero]
        omega
      · have rest :=
          total_takeShares_le (amount - min limit (nearest amount shares)) (shares - 1) more
        have taken : 0 < min limit (nearest amount shares) := by omega
        have here : limit ≤ number := here
        omega

theorem foldl_max_mem (list : List Nat) (start : Nat) :
    list.foldl max start = start ∨ list.foldl max start ∈ list := by
  induction list generalizing start with
  | nil => exact .inl rfl
  | cons first rest ih =>
      rw [List.foldl_cons, List.mem_cons]
      obtain same | later := ih (max start first)
      · rw [same]
        omega
      · exact .inr (.inr later)

/-- Widths that do not fit become smaller. -/
theorem total_narrow_lt {room : Nat} {widths : List Nat} (wide : room < total widths) :
    total (narrow room widths) < total widths := by
  rw [narrow]
  generalize greatestEq : widths.foldl max 0 = greatest
  generalize nextEq : (widths.filter (· ≠ greatest)).foldl max 0 = next
  have bounded : ∀ width ∈ widths, width ≤ greatest :=
    fun width member => greatestEq ▸ le_foldl_max (.inr member)
  have positive : 0 < greatest := by
    by_contra none
    have nothing : total widths = 0 := List.sum_eq_zero fun width member => Nat.le_zero.1 <|
      (bounded width member).trans (Nat.le_of_not_lt none)
    omega
  have member : greatest ∈ widths := by
    obtain none | member := foldl_max_mem widths 0
    · omega
    · exact greatestEq ▸ member
  have below : next < greatest := by
    obtain none | among := foldl_max_mem (widths.filter (· ≠ greatest)) 0
    · omega
    · rw [nextEq, List.mem_filter] at among
      have other : next ≠ greatest := by simpa using among.2
      have le := bounded next among.1
      omega
  have limited : 0 < min (total widths - room) (greatest - next) := by omega
  have less := @total_takeShares_lt (total widths - room) (widths.count greatest)
    (widths.map fun width =>
      (width, if width = greatest then min (total widths - room) (greatest - next) else 0))
    (by omega) ?_ (List.count_pos_iff.2 member) ?_
  · simpa [List.map_map, Function.comp_def] using less
  · rw [List.countP_map, List.count]
    refine List.countP_congr fun width _ => ?_
    have limit := Nat.ne_of_gt limited
    by_cases same : width = greatest
    · simpa [same] using limit
    · simp [same]
  · intro item inside
    obtain ⟨width, -, rfl⟩ := List.mem_map.1 inside
    dsimp only
    split
    · omega
    · exact Nat.zero_le _

/-- Widths that are made to fit do fit. -/
theorem total_fit_le (room : Nat) (widths : List Nat) : total (fit room widths) ≤ room := by
  induction widths using fit.induct room with
  | case1 widths smaller shrinks ih =>
      rw [fit, dif_pos shrinks]
      exact ih
  | case2 widths smaller fits =>
      rw [fit, dif_neg fits]
      by_contra wide
      exact fits ⟨by omega, total_narrow_lt (by omega)⟩

theorem fit_of_fits {room : Nat} {widths : List Nat} (fits : total widths ≤ room) :
    fit room widths = widths := by
  rw [fit, dif_neg fun shrinks => by omega]

theorem length_takeShares (amount shares : Nat) (limited : List (Nat × Nat)) :
    (takeShares amount shares limited).length = limited.length := by
  induction limited generalizing amount shares with
  | nil => rfl
  | cons first more ih =>
      rw [takeShares]
      split
      · exact congrArg (· + 1) (ih amount shares)
      · exact congrArg (· + 1) (ih _ _)

theorem length_fit (room : Nat) (widths : List Nat) : (fit room widths).length = widths.length := by
  induction widths using fit.induct room with
  | case1 widths smaller shrinks ih =>
      rw [fit, dif_pos shrinks]
      refine ih.trans ?_
      change (takeShares _ _ _).length = _
      rw [length_takeShares, List.length_map]
  | case2 widths smaller fits => rw [fit, dif_neg fits]

/-! ## Cells -/

namespace Table

open Markup

variable {table : Table} {screen width : Nat} {rows : List (List Shown)}

/-- What is shown in a cell of a table: nothing on a screen where no cell is read. -/
def CellShown (table : Table) (screen : Nat) (cell : String) (shown : Shown) : Prop :=
  if table.room screen < 3 then shown = {} else Markup.shown cell = .ok shown

/-- Cells can be read as shown texts exactly if each of them can. -/
theorem shownCells_eq_ok_iff {cells : List (List String)}
    (rectangular : Rectangular width cells) :
    shownCells cells = .ok rows ↔
      List.Forall₂ (List.Forall₂ fun cell result => Markup.shown cell = .ok result) cells rows := by
  rw [shownCells, bind_eq_ok_iff]
  simp only [mapM_eq_ok_iff]
  constructor
  · rintro ⟨columns, read, done⟩
    cases done
    have back := forall₂_transpose read
    rwa [transpose_transpose rectangular] at back
  · intro read
    refine ⟨transpose rows, forall₂_transpose read, ?_⟩
    exact congrArg Except.ok (transpose_transpose (rectangular.of_forall₂ read))

theorem read_eq_ok_iff (rectangular : Rectangular width table.cells) :
    table.read screen = .ok rows ↔
      List.Forall₂ (List.Forall₂ (table.CellShown screen)) table.cells rows := by
  by_cases narrow : table.room screen < 3
  · have blank : table.CellShown screen = fun _ shown => True ∧ shown = {} := by
      funext cell shown
      rw [CellShown, if_pos narrow, true_and]
    have cells : List.Forall₂ (fun _ (shown : Shown) => True ∧ shown = {}) =
        fun (cells : List String) shown => True ∧ shown = cells.map fun _ => {} := by
      funext cells shown
      exact propext (forall₂_image_iff.trans (and_congr_left fun _ => by simp))
    rw [read, if_pos narrow, blank, cells, forall₂_image_iff]
    constructor
    · intro done
      cases done
      simp
    · rintro ⟨-, rfl⟩
      rfl
  · have shows : table.CellShown screen = fun cell shown => Markup.shown cell = .ok shown := by
      funext cell shown
      rw [CellShown, if_neg narrow]
    rw [read, if_neg narrow, shows, shownCells_eq_ok_iff rectangular]

/-- Cells can be drawn exactly if each of them can in its column. -/
theorem exists_drawCells_iff {widths : List Nat} :
    (∃ drawn, table.drawCells widths rows = .ok drawn) ↔
      ∀ row ∈ rows, ∀ cell ∈ (table.columns.zip widths).zip row,
        ∃ drawn, (cell.1.1.layout cell.1.2).draw cell.2 = .ok drawn := by
  simp only [drawCells, exists_mapM_eq_ok_iff, Column.draw, map_eq_ok_iff]
  refine forall₂_congr fun row _ => forall₂_congr fun cell _ => ?_
  exact ⟨fun ⟨_, drawn, done, _⟩ => ⟨drawn, done⟩, fun ⟨drawn, done⟩ => ⟨_, drawn, done, rfl⟩⟩

theorem drawTitle_eq (titled : table.title ≠ "") (width : Nat) :
    table.drawTitle width = (titleLayout width).drawMarkup table.title :=
  if_neg (mt String.isEmpty_iff.1 titled)

theorem exists_drawTitle_iff :
    (∃ drawn, table.drawTitle width = .ok drawn) ↔
      ∃ drawn, (titleLayout width).drawMarkup table.title = .ok drawn := by
  by_cases titled : table.title = ""
  · have nothing : Legible "" := legible_of_plain (plain_of_not_mem (by decide))
    rw [titled]
    refine iff_of_true ⟨[], ?_⟩ (Layout.exists_drawMarkup nothing _)
    exact if_pos (String.isEmpty_iff.2 titled)
  · rw [drawTitle_eq titled]

/-- A table is drawn from the lines of its title and of its cells. -/
theorem draw_eq_ok_iff {lines : List (List Char)} (visible : 0 < screen) :
    table.draw screen = .ok lines ↔
      ∃ rows title cells, table.read screen = .ok rows ∧
        table.drawTitle (fullWidth (table.widths screen rows)) = .ok title ∧
        table.drawCells (table.widths screen rows) rows = .ok cells ∧
        lines = assemble screen (table.widths screen rows) title cells := by
  rw [draw, if_neg (Nat.ne_of_gt visible)]
  change (table.read screen >>= fun rows => _) = _ ↔ _
  simp only [bind_eq_ok_iff]
  constructor
  · rintro ⟨rows, read, title, titled, cells, drawn, done⟩
    cases done
    exact ⟨rows, title, cells, read, titled, drawn, rfl⟩
  · rintro ⟨rows, title, cells, read, titled, drawn, rfl⟩
    exact ⟨rows, read, title, titled, cells, drawn, rfl⟩

theorem exists_parts_of_draw {lines : List (List Char)} (visible : 0 < screen)
    (read : table.read screen = .ok rows) (drawn : table.draw screen = .ok lines) :
    ∃ title cells, table.drawTitle (fullWidth (table.widths screen rows)) = .ok title ∧
      table.drawCells (table.widths screen rows) rows = .ok cells ∧
      lines = assemble screen (table.widths screen rows) title cells := by
  obtain ⟨_, title, cells, other, parts⟩ := (draw_eq_ok_iff visible).1 drawn
  cases read.symm.trans other
  exact ⟨title, cells, parts⟩

/-! ## Widths of a table -/

/-- In lists that are put together by the greater numbers every number is bounded by what is at its
place. -/
theorem le_foldl_zipWith {lists : List (List Nat)} {start : List Nat} {index last : Nat}
    (given : (lists.foldl (List.zipWith max) start)[index]? = some last) :
    (∃ number, start[index]? = some number ∧ number ≤ last) ∧
      ∀ list ∈ lists, ∃ number, list[index]? = some number ∧ number ≤ last := by
  induction lists generalizing start with
  | nil => exact ⟨⟨last, given, Nat.le_refl _⟩, by simp⟩
  | cons list rest ih =>
      obtain ⟨⟨number, found, le⟩, later⟩ := ih given
      obtain ⟨first, second, here, there, rfl⟩ := List.getElem?_zipWith_eq_some.1 found
      refine ⟨⟨first, here, ?_⟩, List.forall_mem_cons.2 ⟨⟨second, there, ?_⟩, later⟩⟩
      · omega
      · omega

theorem length_widest (rectangular : Rectangular table.columns.length rows) :
    (table.widest rows).length = table.columns.length := by
  have start : (table.columns.map fun _ => 0).length = table.columns.length := List.length_map _
  have lengths := rectangular.length_eq
  rw [widest]
  generalize (table.columns.map fun _ => 0) = found at start
  clear rectangular
  induction rows generalizing found with
  | nil => exact start
  | cons row rest ih =>
      obtain ⟨first, more⟩ := List.forall_mem_cons.1 lengths
      refine ih more _ ?_
      rw [List.length_zipWith, start, List.length_map, first, Nat.min_self]

theorem length_widths (rectangular : Rectangular table.columns.length rows) :
    (table.widths screen rows).length = table.columns.length := by
  rw [widths, length_fit, List.length_map, length_widest rectangular]

/-- A table is not wider than its screen, unless the screen has no room for its edges. -/
theorem fullWidth_widths_le (rectangular : Rectangular table.columns.length rows)
    (edges : table.columns.length < screen) :
    fullWidth (table.widths screen rows) ≤ screen := by
  have fits : total (table.widths screen rows) ≤ table.room screen := total_fit_le _ _
  rw [room] at fits
  rw [fullWidth, length_widths rectangular]
  omega

/-- Columns are as wide as their widest cells on a screen that has room for that. -/
theorem widths_of_room
    (roomy : fullWidth ((table.widest rows).map (· + 2)) ≤ screen)
    (rectangular : Rectangular table.columns.length rows) :
    table.widths screen rows = (table.widest rows).map (· + 2) := by
  have fits : total ((table.widest rows).map (· + 2)) ≤ table.room screen := by
    rw [fullWidth, List.length_map, length_widest rectangular] at roomy
    rw [room]
    omega
  have wanted : (table.widest rows).map (fun cells => max 1 (min (cells + 2) (table.room screen))) =
      (table.widest rows).map (· + 2) := by
    refine List.map_congr_left fun cells member => ?_
    have inside : cells + 2 ∈ (table.widest rows).map (· + 2) := List.mem_map_of_mem member
    have below := (le_total_of_mem inside).trans fits
    omega
  rw [widths, wanted, fit_of_fits fits]

/-- No cell is wider than the widest one of its column. -/
theorem widest_le_of_mem {row : List Shown} (member : row ∈ rows) {index cells : Nat}
    {cell : Shown} (inRow : row[index]? = some cell)
    (inWidest : (table.widest rows)[index]? = some cells) : Text.widest cell.text ≤ cells := by
  obtain ⟨number, found, le⟩ :=
    (le_foldl_zipWith inWidest).2 _ (List.mem_map_of_mem member)
  rw [List.getElem?_map, inRow] at found
  cases found
  exact le

/-! ## What is displayed -/

/-- A text is displayed by lines: each of its own lines stands in one of them, but for blanks at its
end. -/
def Displays (lines : List (List Char)) (text : List Char) : Prop :=
  ∀ line ∈ Text.lines text, ∃ drawn ∈ lines, trimRight line <:+: drawn

theorem Displays.mono {lines others : List (List Char)} {text : List Char}
    (displays : Displays lines text)
    (within : ∀ line ∈ lines, ∃ drawn ∈ others, line <:+: drawn) : Displays others text := by
  intro line member
  obtain ⟨inner, inLines, inside⟩ := displays line member
  obtain ⟨drawn, inOthers, around⟩ := within inner inLines
  exact ⟨drawn, inOthers, inside.trans around⟩

/-- A text that fits is displayed by its lines. -/
theorem displays_draw {layout : Layout} {shown : Shown} {drawn : List (List Char)}
    (room : 0 < layout.width) (fits : Layout.Fits layout.width shown.text)
    (done : layout.draw shown = .ok drawn) : Displays drawn shown.text := by
  rw [Layout.draw_of_fits room fits done]
  intro line member
  exact ⟨_, List.mem_map_of_mem member, layout.trimRight_isInfix_fill line⟩

theorem displays_columnDraw {column : Column} {cell : Shown} {drawn : List (List Char)}
    (room : 2 < width) (fits : Layout.Fits (width - 2) cell.text)
    (done : column.draw width cell = .ok drawn) : Displays drawn cell.text := by
  obtain ⟨lines, inside, rfl⟩ := map_eq_ok_iff.1 done
  refine (displays_draw (Nat.sub_pos_of_lt room) fits inside).mono fun line member => ?_
  exact ⟨_, List.mem_map_of_mem member, [' '], gap (width - 2 - Text.cells line) ++ [' '],
    by simp [padRight]⟩

/-- Every line of a cell stands in a line of the row. -/
theorem exists_infix_drawRow (edge : Char) (side : Side) {widths : List Nat}
    {cells : List (List (List Char))} {lines : List (List Char)}
    (member : (width, lines) ∈ widths.zip cells) {line : List Char} (inCell : line ∈ lines) :
    ∃ drawn ∈ drawRow edge side widths cells, line <:+: drawn := by
  obtain ⟨index, found⟩ := List.mem_iff_getElem?.1 inCell
  obtain ⟨bound, -⟩ := List.getElem?_eq_some_iff.1 found
  generalize heightEq : (cells.map (·.length)).foldl max 1 = height
  have fits : lines.length ≤ height :=
    heightEq ▸ le_foldl_max (.inr (List.mem_map_of_mem (List.of_mem_zip member).2))
  obtain ⟨place, below, same⟩ : ∃ place < height, side.line height width place lines = line := by
    cases side with
    | top => exact ⟨index, by omega, by simp [Side.line, found]⟩
    | bottom => exact ⟨height - lines.length + index, by omega, by simp [Side.line, found]⟩
  refine ⟨_, List.mem_map.2 ⟨place, List.mem_range.2 (heightEq ▸ below), rfl⟩, ?_⟩
  obtain ⟨before, after, split⟩ := List.append_of_mem member
  rw [split, List.flatMap_append, List.flatMap_cons, heightEq]
  simp only [same]
  generalize before.flatMap _ = first
  generalize after.flatMap _ = last
  exact ⟨edge :: first, [edge] ++ last, by simp⟩

section

variable {widths : List Nat} {title : List (List Char)} {cells : List (List (List (List Char)))}
  (fits : fullWidth widths ≤ screen)
include fits

theorem map_crop (lines : List (List Char)) :
    lines.map (crop screen (fullWidth widths)) = lines := by
  refine (List.map_congr_left fun line _ => ?_).trans (List.map_id lines)
  exact if_pos fits

/-- The lines of a title stand above a table that fits. -/
theorem mem_assemble_of_title {line : List Char} (member : line ∈ title) :
    line ∈ assemble screen widths title cells := by
  rw [assemble, map_crop fits]
  simp only [List.mem_append]
  exact .inl (.inl (.inl (.inl (.inl member))))

/-- Every line of a cell stands in a line of a table that fits. -/
theorem exists_infix_assemble {row : List (List (List Char))} (member : row ∈ cells)
    {lines : List (List Char)} (inRow : (width, lines) ∈ widths.zip row) {line : List Char}
    (inCell : line ∈ lines) : ∃ drawn ∈ assemble screen widths title cells, line <:+: drawn := by
  rw [assemble, map_crop fits]
  rw [← List.take_append_drop 1 cells, List.mem_append] at member
  obtain first | later := member
  · obtain ⟨drawn, inDrawn, within⟩ := exists_infix_drawRow '┃' .bottom inRow inCell
    refine ⟨drawn, ?_, within⟩
    simp only [List.mem_append]
    exact .inl (.inl (.inl (.inr (List.mem_flatMap.2 ⟨_, first, inDrawn⟩))))
  · obtain ⟨drawn, inDrawn, within⟩ := exists_infix_drawRow '│' .top inRow inCell
    refine ⟨drawn, ?_, within⟩
    simp only [List.mem_append]
    exact .inl (.inr (List.mem_flatMap.2 ⟨_, later, inDrawn⟩))

/-- A text that fits its column is displayed by its table. -/
theorem displays_assemble (drawn : table.drawCells widths rows = .ok cells) {row : List Shown}
    (member : row ∈ rows) {index : Nat} {cell : Shown} {column : Column}
    (inRow : row[index]? = some cell) (inColumns : table.columns[index]? = some column)
    (inWidths : widths[index]? = some width) (room : 2 < width)
    (fitsColumn : Layout.Fits (width - 2) cell.text) :
    Displays (assemble screen widths title cells) cell.text := by
  have related := mapM_eq_ok_iff.1 drawn
  simp only [mapM_eq_ok_iff] at related
  obtain ⟨lines, inCells, each⟩ := exists_mem_of_forall₂ related.flip member
  have together : ((table.columns.zip widths).zip row)[index]? = some ((column, width), cell) :=
    List.getElem?_zip_eq_some.2 ⟨List.getElem?_zip_eq_some.2 ⟨inColumns, inWidths⟩, inRow⟩
  obtain ⟨texts, inLines, done⟩ := getElem?_of_forall₂ each together
  have inZip : (width, texts) ∈ widths.zip lines :=
    List.mem_of_getElem? (i := index) (List.getElem?_zip_eq_some.2 ⟨inWidths, inLines⟩)
  exact (displays_columnDraw room fitsColumn done).mono fun line inTexts =>
    exists_infix_assemble fits inCells inZip inTexts

end

end Table

end Bindery.Display
