import Bindery.Proofs.Locals
import Bindery.Proofs.Paths
import Bindery.Proofs.Spelling
import Bindery.Proofs.Tables
import Bindery.Proofs.Verdicts
import Bindery.Run.Inspection

/-!
# Tables of plans

The names that are derived for a plan have no brackets, so only the title of a description and the
names of its operations can keep its table from being drawn.  The table has a row for each
operation, with the name in the first column, where it is displayed if it fits.
-/

namespace Bindery.Naming

theorem Spelled.not_mem_bracket {text : String} (spelled : Spelled text) : '[' ∉ text.toList :=
  fun member => absurd (spelled.chars _ member) (by decide)

end Bindery.Naming

namespace Bindery.Plan

open Bindery.Api Bindery.Client Bindery.Naming Bindery.Steps

variable {setting : Setting}

/-! ## Names of a report -/

/-- The names of the operations of a report: of those that were planned, and of those that
failed. -/
def Report.names (report : Report) : List String :=
  report.plans.map (·.operation.name) ++ report.failures.map (·.operation)

/-- Every operation is reported once and by its name. -/
theorem Chosen.names_perm {plans : List OperationPlan} {operations : List Operation}
    {verdicts : List Verdict} (chosen : Chosen setting plans operations verdicts) :
    (Report.ofVerdicts verdicts).names.Perm (operations.map (·.name)) := by
  induction chosen with
  | nil => exact .refl _
  | @cons _ operation rest verdict more judged _ ih =>
      have failed {fault : Fault} : (Report.ofVerdicts
          (.rejected ⟨operation.name, fault⟩ :: more)).names.Perm
            (operation.name :: rest.map (·.name)) := by
        simp only [Report.names, Report.ofVerdicts, List.filterMap_cons, Verdict.plan?,
          Verdict.failure?, List.map_cons]
        exact List.perm_middle.trans (ih.cons _)
      cases judged with
      | @accepted plan planned _ =>
          rw [List.map_cons, ← operation_of_plan planned]
          exact ih.cons _
      | failed => exact failed
      | taken => exact failed

theorem names_perm_of_planAll {operations : List Operation} {report : Report}
    (planned : planAll setting operations = .ok report) :
    report.names.Perm (operations.map (·.name)) := by
  obtain ⟨verdicts, chosen, rfl⟩ := exists_chosen_of_planAll planned
  exact chosen.names_perm

theorem not_mem_bracket_signature {operation : Operation} {names : Names} {types : OperationTypes}
    {usesOptions : Bool} (resolved : names.Resolved setting.reserved operation usesOptions)
    (mapped : mapTypes setting.models operation = .ok types) :
    ∀ name ∈ (OperationPlan.assemble operation names types).signature.names,
      '[' ∉ name.toList := by
  have members : ∀ name ∈ names.members, '[' ∉ name.toList := by
    intro name member
    obtain ⟨_, -, derived⟩ := exists_mem_of_forall₂ (forall₂_memberName resolved.members) member
    exact (spelled_member derived).not_mem_bracket
  cases uses : (OperationPlan.assemble operation names types).usesOptions with
  | false =>
      rw [signature_assemble_of_flat uses]
      intro name member
      have listed := (names_flat_perm _).mem_iff.1 member
      rw [(fields_of_resolved resolved mapped).2] at listed
      cases listed with
      | head => decide
      | tail _ member => exact members name member
  | true =>
      obtain ⟨options, found⟩ := Option.isSome_iff_exists.1 uses
      rw [signature_assemble_of_options found]
      have both : (Signature.ofOptions options).names = ["configuration", "params"] := rfl
      rw [both]
      decide

/-- The names that are derived for a plan have no brackets. -/
theorem not_mem_bracket_of_plan {operation : Operation} {plan : OperationPlan}
    (planned : Plan.plan setting operation = .ok plan) :
    '[' ∉ plan.names.function.toList ∧
      (∀ name ∈ plan.signature.names, '[' ∉ name.toList) ∧
      (∀ name ∈ plan.names.optionsClass, '[' ∉ name.toList) ∧
      ∀ name ∈ plan.names.builderClass, '[' ∉ name.toList := by
  obtain ⟨names, types, resolved, mapped, rfl⟩ := plan_eq_ok_iff.1 planned
  have optionsClass : '[' ∉ (Naming.optionsClass operation.name).toList := by
    simpa [Naming.optionsClass] using (spelled_className operation.name).not_mem_bracket
  have classes : ∀ name ∈ names.optionsClass, '[' ∉ name.toList := by
    rw [resolved.optionsClass]
    intro name member
    split at member
    · cases member
      exact optionsClass
    · cases member
  refine ⟨(spelled_functionName resolved.function).not_mem_bracket,
    not_mem_bracket_signature resolved mapped, classes, fun name member => ?_⟩
  have built : names.builderClass = names.optionsClass.map Naming.builderClass := by
    rw [resolved.heading]
    rfl
  change name ∈ names.builderClass at member
  rw [built] at member
  obtain ⟨target, found, rfl⟩ := Option.mem_map.1 member
  simpa [Naming.builderClass] using classes target found

end Bindery.Plan

namespace Bindery.Run

open Bindery.Api Bindery.Client Bindery.Display Bindery.Files Bindery.Plan Bindery.Steps Markup

/-! ## The table of a plan -/

section

variable {setting : Setting} {operations : List Operation} {report : Report} (title : String)

theorem rectangular_planTable (report : Report) :
    Rectangular (planTable title report).columns.length (planTable title report).cells where
  width_pos := by
    change 0 < planColumns.length
    decide
  length_eq row member := by
    simp only [Table.cells, planTable, List.mem_cons, List.mem_append, List.mem_map] at member
    obtain rfl | ⟨plan, -, rfl⟩ | ⟨failure, -, rfl⟩ := member
    · rfl
    · rfl
    · rfl

theorem not_mem_toString (number : Nat) : '[' ∉ (toString number).toList := by
  intro member
  change '[' ∈ (Nat.repr number).toList at member
  rw [Nat.toList_repr] at member
  exact absurd (Nat.isDigit_of_mem_toDigits (by decide) (by decide) member) (by decide)

/-- The cells beside the name of an operation that was planned have no brackets. -/
theorem not_mem_bracket_planRow {plan : OperationPlan}
    (planned : Plan.plan setting plan.operation = .ok plan) :
    ∀ cell ∈ (planRow plan).tail, '[' ∉ cell.toList := by
  obtain ⟨function, inputs, optionsClass, builderClass⟩ := not_mem_bracket_of_plan planned
  have dashed {name? : Option String} (free : ∀ name ∈ name?, '[' ∉ name.toList) :
      '[' ∉ ((Text.filled name?).getD "-").toList := by
    cases found : Text.filled name? with
    | none => decide
    | some name => exact free name (Option.mem_filter_iff.1 found).1
  have signature : '[' ∉ (plan.names.function ++ "(" ++ ", ".intercalate plan.signature.names ++
      ")").toList := by
    simp only [String.toList_append, List.mem_append, not_or]
    refine ⟨⟨⟨function, by decide⟩, fun member => ?_⟩, by decide⟩
    obtain separator | ⟨name, named, inName⟩ := mem_of_mem_intercalate member
    · exact absurd separator (by decide)
    · exact inputs name named inName
  simp only [planRow, List.tail_cons, List.forall_mem_cons]
  exact ⟨not_mem_toString _, signature, dashed optionsClass, dashed builderClass, by simp⟩

/-- All cells of a plan but those of the first column can be drawn, whatever the description
says. -/
theorem legible_of_mem_tail (planned : planAll setting operations = .ok report) :
    ∀ row ∈ (planTable title report).cells, ∀ cell ∈ row.tail, Legible cell := by
  have plain {cell : String} (free : '[' ∉ cell.toList) : Legible cell :=
    legible_of_plain (plain_of_not_mem free)
  have headings : ∀ heading ∈ (planColumns.map (·.heading)).tail, '[' ∉ heading.toList := by
    decide
  intro row member cell inTail
  simp only [Table.cells, planTable, List.mem_cons, List.mem_append, List.mem_map] at member
  obtain rfl | ⟨plan, inPlans, rfl⟩ | ⟨failure, -, rfl⟩ := member
  · exact plain (headings cell inTail)
  · have planned := ((planned_of_planAll planned).1 plan inPlans).2
    exact plain (not_mem_bracket_planRow planned cell inTail)
  · simp only [failureRow, List.tail_cons, List.mem_cons, List.not_mem_nil, or_false] at inTail
    obtain rfl | rfl | rfl | rfl := inTail
    · exact plain (by decide)
    · exact legible_red failure.fault.message
    · exact plain (by decide)
    · exact plain (by decide)

/-- A property of the first cells of a plan is one of the names, if the heading has it. -/
theorem forall_head_iff {property : String → Prop} (heading : property "Operation")
    (report : Report) :
    (∀ row ∈ (planTable title report).cells, ∀ cell ∈ row.head?, property cell) ↔
      ∀ name ∈ report.names, property name := by
  simp only [Table.cells, planTable, Report.names, List.forall_mem_cons, List.forall_mem_append,
    List.forall_mem_map, planRow, failureRow, List.head?_cons, Option.mem_def, Option.some.injEq,
    forall_eq']
  exact and_iff_right (by simpa [planColumns] using heading)

theorem legible_operation : Legible "Operation" :=
  legible_of_plain (plain_of_not_mem (by decide))

theorem room_planTable (title : String) (report : Report) (screen : Nat) :
    (planTable title report).room screen = screen - 6 :=
  rfl

/-- The cells of a plan can be read exactly if the names can. -/
theorem exists_read_planTable_iff (screen : Nat)
    (planned : planAll setting operations = .ok report) :
    (∃ rows, (planTable title report).read screen = .ok rows) ↔
      (9 ≤ screen → ∀ name ∈ report.names, ∃ shown, Markup.shown name = .ok shown) := by
  have rectangular := rectangular_planTable title report
  simp only [Table.read_eq_ok_iff rectangular]
  by_cases narrow : screen < 9
  · refine iff_of_true ?_ fun wide => by omega
    have blank : (planTable title report).read screen =
        .ok ((planTable title report).cells.map (·.map fun _ => {})) := by
      rw [Table.read, if_pos (by rw [room_planTable]; omega)]
      rfl
    exact ⟨_, (Table.read_eq_ok_iff rectangular).1 blank⟩
  · have shows : (planTable title report).CellShown screen =
        fun cell shown => Markup.shown cell = .ok shown := by
      funext cell shown
      rw [Table.CellShown, if_neg (by rw [room_planTable]; omega)]
    have wide : 9 ≤ screen := by omega
    have all : (∃ rows, (planTable title report).cells.mapM (·.mapM Markup.shown) = .ok rows) ↔
        ∀ row ∈ (planTable title report).cells, ∀ cell ∈ row,
          ∃ shown, Markup.shown cell = .ok shown := by
      simp only [exists_mapM_eq_ok_iff]
    simp only [mapM_eq_ok_iff] at all
    obtain ⟨shown, read, -⟩ := legible_operation
    rw [shows, all, imp_iff_right wide, ← forall_head_iff title ⟨shown, read⟩ report]
    refine forall₂_congr fun row member => ?_
    have tail := legible_of_mem_tail title planned row member
    constructor
    · intro all cell first
      exact all cell (List.mem_of_mem_head? first)
    · intro first cell inRow
      cases row with
      | nil => cases inRow
      | cons head rest =>
          cases inRow with
          | head => exact first _ rfl
          | tail _ later =>
              obtain ⟨shown, read, -⟩ := tail cell later
              exact ⟨shown, read⟩

variable {title} {screen : Nat} {rows : List (List Shown)}

/-- How names are put on lines, in the first column of a plan. -/
def nameLayout (width : Nat) : Layout := Column.layout ⟨"Operation", .left⟩ width

/-- What is shown of markup that can be drawn has no other styles. -/
theorem styled_of_cellShown {table : Table} {cell : String} {shown : Shown}
    (legible : Legible cell) (inCell : table.CellShown screen cell shown) :
    shown.Styled Drawable := by
  rw [Table.CellShown] at inCell
  split at inCell
  · subst inCell
    simp [Shown.Styled]
  · obtain ⟨result, read, styled⟩ := legible
    cases inCell.symm.trans read
    exact styled

/-- What is shown of a name can be drawn exactly if the name can where it is read. -/
theorem exists_draw_of_cellShown_iff {cell : String} {shown : Shown}
    (inCell : (planTable title report).CellShown screen cell shown) (width : Nat) :
    (∃ lines, (nameLayout width).draw shown = .ok lines) ↔
      (9 ≤ screen → ∃ lines, (nameLayout width).drawMarkup cell = .ok lines) := by
  rw [Table.CellShown, room_planTable] at inCell
  split at inCell
  · subst inCell
    refine iff_of_true (Layout.exists_draw (by simp [Shown.Styled])) fun wide => by omega
  · rw [imp_iff_right (by omega), Layout.drawMarkup, inCell]
    exact Iff.rfl

/-- A row whose cells but the first can be drawn is drawn exactly if the first one is. -/
theorem forall_draw_row_iff {row : List String} {shown : List Shown}
    (legible : ∀ cell ∈ row.tail, Legible cell)
    (related : List.Forall₂ ((planTable title report).CellShown screen) row shown) (width : Nat)
    (more : List (Column × Nat)) :
    (∀ cell ∈ ((⟨"Operation", .left⟩, width) :: more).zip shown,
        ∃ lines, (cell.1.1.layout cell.1.2).draw cell.2 = .ok lines) ↔
      ∀ cell ∈ row.head?, 9 ≤ screen →
        ∃ lines, (nameLayout width).drawMarkup cell = .ok lines := by
  cases related with
  | nil => simp
  | @cons name _ rest results here later =>
      have others : ∀ cell ∈ more.zip results,
          ∃ lines, (cell.1.1.layout cell.1.2).draw cell.2 = .ok lines := by
        intro cell member
        obtain ⟨name, inRow, inCell⟩ := exists_mem_of_forall₂ later (List.of_mem_zip member).2
        exact Layout.exists_draw (styled_of_cellShown (legible name inRow) inCell)
      rw [List.zip_cons_cons, List.forall_mem_cons, and_iff_left others]
      refine (exists_draw_of_cellShown_iff here width).trans ?_
      simp

/-- The cells of a plan can be drawn exactly if the names can in the first column. -/
theorem exists_drawCells_planTable_iff (planned : planAll setting operations = .ok report)
    (read : (planTable title report).read screen = .ok rows) (width : Nat) (more : List Nat) :
    (∃ cells, (planTable title report).drawCells (width :: more) rows = .ok cells) ↔
      (9 ≤ screen → ∀ name ∈ report.names,
        ∃ lines, (nameLayout width).drawMarkup name = .ok lines) := by
  have related := (Table.read_eq_ok_iff (rectangular_planTable title report)).1 read
  have columns : (planTable title report).columns.zip (width :: more) =
      (⟨"Operation", .left⟩, width) :: planColumns.tail.zip more := rfl
  have heading := Layout.exists_drawMarkup legible_operation (nameLayout width)
  have rowwise (row : List String) (shown : List Shown)
      (both : (∀ cell ∈ row.tail, Legible cell) ∧
        List.Forall₂ ((planTable title report).CellShown screen) row shown) :=
    (forall_draw_row_iff both.1 both.2 width (planColumns.tail.zip more)).symm
  rw [Table.exists_drawCells_iff, columns]
  rw [← forall_mem_iff_of_forall₂
    ((List.forall₂_and_left _ _).2 ⟨legible_of_mem_tail title planned, related⟩) rowwise]
  rw [forall_head_iff title (fun _ => heading) report]
  exact ⟨fun all wide name member => all name member wide,
    fun all name member wide => all wide name member⟩

end

/-! ## Plans that can be shown -/

/-- The columns that the plan of a description is shown in have these widths. -/
def PlanWidths (screen : Nat) (variant : Variant) (document : Document) (widths : List Nat) :
    Prop :=
  ∃ report rows, planAll (.ofDocument variant document) document.operations = .ok report ∧
    (planTable document.title report).read screen = .ok rows ∧
    (planTable document.title report).widths screen rows = widths

/-- A description can be shown on a screen: its operations have the names that code needs, and its
title and the names of its operations are markup that can be read and drawn where they stand.
Nothing is drawn on a screen without cells, and no names on one of less than nine. -/
structure Showable (screen : Nat) (variant : Variant) (document : Document) : Prop where
  named : ∀ operation ∈ document.operations,
    ¬ Nameless (.ofDocument variant document) operation
  read : 9 ≤ screen → ∀ operation ∈ document.operations,
    ∃ shown, Markup.shown operation.name = .ok shown
  title : 0 < screen → ∀ widths, PlanWidths screen variant document widths →
    ∃ lines, (Table.titleLayout (Table.fullWidth widths)).drawMarkup document.title = .ok lines
  names : 9 ≤ screen → ∀ widths, PlanWidths screen variant document widths →
    ∀ width ∈ widths.head?, ∀ operation ∈ document.operations,
      ∃ lines, (nameLayout width).drawMarkup operation.name = .ok lines

/-- A table of a plan on a screen, as lines.  A title or a name that fits the place it stands in is
displayed, and all names are where the table fits the screen. -/
structure Tabulates (screen : Nat) (variant : Variant) (document : Document) (report : Report)
    (rows : List (List Shown)) (lines : List (List Char)) : Prop where
  planned : planAll (.ofDocument variant document) document.operations = .ok report
  names : report.names.Perm (document.operations.map (·.name))
  read : (planTable document.title report).read screen = .ok rows
  drawn : (planTable document.title report).draw screen = .ok lines
  heading : 5 < screen → document.title ≠ "" →
    ∀ text, Markup.text document.title = .ok text →
      Layout.Fits (Table.fullWidth ((planTable document.title report).widths screen rows)) text →
      Table.Displays lines text
  displayed : ∀ operation ∈ document.operations, ∀ text, Markup.text operation.name = .ok text →
    ∀ width ∈ ((planTable document.title report).widths screen rows).head?, 2 < width →
      Layout.Fits (width - 2) text → Table.Displays lines text
  whole : Table.fullWidth (((planTable document.title report).widest rows).map (· + 2)) ≤ screen →
    ∀ operation ∈ document.operations, ∀ text, Markup.text operation.name = .ok text →
      '\t' ∉ text → (∀ c ∈ text, Text.isLineBreak c = true → c = '\n') →
      Table.Displays lines text

variable {variant : Variant} {document : Document}

/-- A screen where the first column has cells for a name has nine at least. -/
theorem lt_of_mem_head_widths {report : Report} {screen width : Nat} {rows : List (List Shown)}
    (first : width ∈ ((planTable document.title report).widths screen rows).head?)
    (wide : 2 < width) : 8 < screen := by
  have inside := le_total_of_mem (List.mem_of_mem_head? first)
  have fits : total ((planTable document.title report).widths screen rows) ≤ screen - 6 :=
    total_fit_le _ _
  omega

section

variable {report : Report} {screen : Nat} {rows : List (List Shown)} {lines : List (List Char)}

section

variable (read : (planTable document.title report).read screen = .ok rows)
include read

theorem rectangular_of_read :
    Rectangular (planTable document.title report).columns.length rows :=
  (rectangular_planTable document.title report).of_forall₂
    ((Table.read_eq_ok_iff (rectangular_planTable document.title report)).1 read)

/-- A title that fits the width of the table is displayed. -/
theorem displays_title (drawn : (planTable document.title report).draw screen = .ok lines)
    (edges : 5 < screen) (titled : document.title ≠ "") {text : List Char}
    (shown : Markup.text document.title = .ok text)
    (fits : Layout.Fits
      (Table.fullWidth ((planTable document.title report).widths screen rows)) text) :
    Table.Displays lines text := by
  have rectangular := rectangular_of_read read
  obtain ⟨title, cells, drawnTitle, -, rfl⟩ :=
    Table.exists_parts_of_draw (by omega) read drawn
  rw [Table.drawTitle_eq titled] at drawnTitle
  obtain ⟨result, inTitle, done⟩ := bind_eq_ok_iff.1 drawnTitle
  obtain ⟨other, same, rfl⟩ := text_eq_ok_iff.1 shown
  cases inTitle.symm.trans same
  refine (Table.displays_draw ?_ fits done).mono fun line member => ⟨line, ?_, List.infix_rfl⟩
  · exact Nat.succ_pos _
  · exact Table.mem_assemble_of_title (Table.fullWidth_widths_le rectangular edges) member

/-- The first column is wide enough for its heading where the table fits the screen. -/
theorem heading_le_widest (wide : 8 < screen) {width : Nat}
    (first : ((planTable document.title report).widest rows)[0]? = some width) : 9 ≤ width := by
  have related := (Table.read_eq_ok_iff (rectangular_planTable document.title report)).1 read
  obtain ⟨row, inRows, each⟩ := exists_mem_of_forall₂ related.flip List.mem_cons_self
  have heading : (planColumns.map (·.heading))[0]? = some "Operation" := rfl
  obtain ⟨cell, inRow, inCell⟩ := getElem?_of_forall₂ each heading
  rw [Table.CellShown, if_neg (by rw [room_planTable]; omega)] at inCell
  have nine : (Markup.shown "Operation").toOption.map (fun shown => Text.widest shown.text) =
      some 9 := by
    decide +kernel
  rw [inCell] at nine
  exact (Option.some.inj nine).ge.trans (Table.widest_le_of_mem inRows inRow first)

end

section

variable (planned : planAll (.ofDocument variant document) document.operations = .ok report)
include planned

theorem forall_names_iff {property : String → Prop} :
    (∀ name ∈ report.names, property name) ↔
      ∀ operation ∈ document.operations, property operation.name := by
  simp only [(names_perm_of_planAll planned).mem_iff, List.forall_mem_map]

/-- Every operation has a row, and its name is shown in the first cell. -/
theorem exists_row_of_operation
    (read : (planTable document.title report).read screen = .ok rows)
    {operation : Operation} (member : operation ∈ document.operations) :
    ∃ row ∈ rows, ∃ cell, row[0]? = some cell ∧
      (planTable document.title report).CellShown screen operation.name cell := by
  have related := (Table.read_eq_ok_iff (rectangular_planTable document.title report)).1 read
  have named : operation.name ∈ report.names :=
    (names_perm_of_planAll planned).mem_iff.2 (List.mem_map_of_mem member)
  obtain ⟨row, inCells, first⟩ : ∃ row ∈ (planTable document.title report).cells,
      row[0]? = some operation.name := by
    rw [Report.names, List.mem_append, List.mem_map, List.mem_map] at named
    obtain ⟨plan, inPlans, same⟩ | ⟨failure, inFailures, same⟩ := named
    · refine ⟨planRow plan, ?_, congrArg some same⟩
      exact List.mem_cons_of_mem _ (List.mem_append_left _ (List.mem_map_of_mem inPlans))
    · refine ⟨failureRow failure, ?_, congrArg some same⟩
      exact List.mem_cons_of_mem _ (List.mem_append_right _ (List.mem_map_of_mem inFailures))
  obtain ⟨shown, inRows, each⟩ := exists_mem_of_forall₂ related.flip inCells
  obtain ⟨cell, inRow, inCell⟩ := getElem?_of_forall₂ each first
  exact ⟨shown, inRows, cell, inRow, inCell⟩

variable (read : (planTable document.title report).read screen = .ok rows)
  (drawn : (planTable document.title report).draw screen = .ok lines)
include read drawn

/-- A name that fits the first column is displayed. -/
theorem displays_name {operation : Operation} (member : operation ∈ document.operations)
    {text : List Char} (shown : Markup.text operation.name = .ok text) {width : Nat}
    (first : width ∈ ((planTable document.title report).widths screen rows).head?)
    (wide : 2 < width) (fits : Layout.Fits (width - 2) text) : Table.Displays lines text := by
  have visible := lt_of_mem_head_widths first wide
  have rectangular := rectangular_of_read read
  obtain ⟨title, cells, -, drawnCells, rfl⟩ :=
    Table.exists_parts_of_draw (by omega) read drawn
  obtain ⟨row, inRows, cell, inRow, inCell⟩ := exists_row_of_operation planned read member
  rw [Table.CellShown, if_neg (by rw [room_planTable]; omega)] at inCell
  obtain ⟨other, same, rfl⟩ := text_eq_ok_iff.1 shown
  cases inCell.symm.trans same
  have edges : (planTable document.title report).columns.length < screen :=
    show 5 < screen by omega
  refine Table.displays_assemble (Table.fullWidth_widths_le rectangular edges) drawnCells inRows
    inRow rfl ?_ wide fits
  rwa [List.head?_eq_getElem?] at first

/-- On a screen that the table fits, names without tabs are displayed. -/
theorem displays_name_of_room
    (roomy : Table.fullWidth (((planTable document.title report).widest rows).map (· + 2)) ≤ screen)
    {operation : Operation} (member : operation ∈ document.operations) {text : List Char}
    (shown : Markup.text operation.name = .ok text) (noTab : '\t' ∉ text)
    (plain : ∀ c ∈ text, Text.isLineBreak c = true → c = '\n') : Table.Displays lines text := by
  have rectangular := rectangular_of_read read
  have widths := Table.widths_of_room roomy rectangular
  have count : ((planTable document.title report).widest rows).length = 4 + 1 :=
    Table.length_widest rectangular
  obtain ⟨first, more, found⟩ := List.exists_cons_of_length_eq_add_one count
  have here : ((planTable document.title report).widest rows)[0]? = some first := by
    rw [found]
    rfl
  have visible : 8 < screen := by
    have blanks := @length_mul_le_total 2
      (((planTable document.title report).widest rows).map (· + 2)) (by simp)
    rw [List.length_map, count] at blanks
    rw [Table.fullWidth, List.length_map, count] at roomy
    omega
  have heading := heading_le_widest read visible here
  have head : first + 2 ∈ ((planTable document.title report).widths screen rows).head? := by
    rw [widths, found]
    rfl
  refine displays_name planned read drawn member shown head (by omega) ?_
  obtain ⟨row, inRows, cell, inRow, inCell⟩ := exists_row_of_operation planned read member
  rw [Table.CellShown, if_neg (by rw [room_planTable]; omega)] at inCell
  obtain ⟨other, same, rfl⟩ := text_eq_ok_iff.1 shown
  cases inCell.symm.trans same
  exact Layout.fits_of_widest noTab plain (Table.widest_le_of_mem inRows inRow here)

end

end

/-! ## Drawing a plan -/

section

variable {report : Report} {screen : Nat} {lines : List (List Char)}
  (planned : planAll (.ofDocument variant document) document.operations = .ok report)
include planned

/-- A table that is drawn displays what fits it. -/
theorem exists_tabulates (drawn : (planTable document.title report).draw screen = .ok lines) :
    ∃ rows, Tabulates screen variant document report rows lines := by
  obtain ⟨rows, read⟩ : ∃ rows, (planTable document.title report).read screen = .ok rows := by
    obtain none | visible := Nat.eq_zero_or_pos screen
    · subst none
      exact (exists_read_planTable_iff _ _ planned).2 fun wide => absurd wide (by decide)
    · obtain ⟨rows, _, _, read, -⟩ := (Table.draw_eq_ok_iff visible).1 drawn
      exact ⟨rows, read⟩
  refine ⟨rows, planned, names_perm_of_planAll planned, read, drawn, ?_, ?_, ?_⟩
  · exact fun edges titled text shown fits => displays_title read drawn edges titled shown fits
  · exact fun operation member text shown width first wide fits =>
      displays_name planned read drawn member shown first wide fits
  · exact fun roomy operation member text shown noTab plain =>
      displays_name_of_room planned read drawn roomy member shown noTab plain

/-- The widths of the columns are found by reading the cells. -/
theorem planWidths_iff {rows : List (List Shown)} {widths : List Nat}
    (read : (planTable document.title report).read screen = .ok rows) :
    PlanWidths screen variant document widths ↔
      (planTable document.title report).widths screen rows = widths := by
  constructor
  · rintro ⟨_, _, again, readAgain, same⟩
    cases planned.symm.trans again
    cases read.symm.trans readAgain
    exact same
  · intro same
    exact ⟨report, rows, planned, read, same⟩

/-- On a screen with cells, a plan is drawn exactly if its title is and the names are in the first
column. -/
theorem exists_draw_of_read_iff {rows : List (List Shown)} (visible : 0 < screen)
    (read : (planTable document.title report).read screen = .ok rows) :
    (∃ lines, (planTable document.title report).draw screen = .ok lines) ↔
      ∃ width more, (planTable document.title report).widths screen rows = width :: more ∧
        (∃ lines, (Table.titleLayout (Table.fullWidth (width :: more))).drawMarkup document.title =
          .ok lines) ∧
        (9 ≤ screen → ∀ operation ∈ document.operations,
          ∃ lines, (nameLayout width).drawMarkup operation.name = .ok lines) := by
  have count : ((planTable document.title report).widths screen rows).length = 4 + 1 :=
    Table.length_widths (rectangular_of_read read)
  obtain ⟨width, more, found⟩ := List.exists_cons_of_length_eq_add_one count
  have names := exists_drawCells_planTable_iff planned read width more
  simp only [forall_names_iff planned] at names
  have title : (∃ drawn, (planTable document.title report).drawTitle
      (Table.fullWidth (width :: more)) = .ok drawn) ↔ _ := Table.exists_drawTitle_iff
  constructor
  · rintro ⟨lines, drawn⟩
    obtain ⟨_, _, _, again, titled, cells, -⟩ := (Table.draw_eq_ok_iff visible).1 drawn
    cases read.symm.trans again
    rw [found] at titled cells
    exact ⟨width, more, found, title.1 ⟨_, titled⟩, names.1 ⟨_, cells⟩⟩
  · rintro ⟨_, _, same, titled, named⟩
    cases found.symm.trans same
    obtain ⟨_, titled⟩ := title.2 titled
    obtain ⟨_, cells⟩ := names.2 named
    rw [← found] at titled cells
    exact ⟨_, (Table.draw_eq_ok_iff visible).2 ⟨_, _, _, read, titled, cells, rfl⟩⟩

/-- Once the operations are reported on, their table can be drawn exactly if the description can be
shown. -/
theorem exists_draw_planTable_iff :
    (∃ lines, (planTable document.title report).draw screen = .ok lines) ↔
      Showable screen variant document := by
  have named : ∀ operation ∈ document.operations,
      ¬ Nameless (.ofDocument variant document) operation := by
    intro operation member nameless
    rw [planAll_of_nameless ⟨operation, member, nameless⟩] at planned
    cases planned
  have readable := exists_read_planTable_iff document.title screen planned
  simp only [forall_names_iff planned] at readable
  obtain none | visible := Nat.eq_zero_or_pos screen
  · subst none
    exact iff_of_true ⟨[], rfl⟩ ⟨named, fun wide => absurd wide (by decide),
      fun wide => absurd wide (by decide), fun wide => absurd wide (by decide)⟩
  constructor
  · rintro ⟨lines, drawn⟩
    obtain ⟨rows, _, _, read, -⟩ := (Table.draw_eq_ok_iff visible).1 drawn
    obtain ⟨width, more, found, titled, names⟩ :=
      (exists_draw_of_read_iff planned visible read).1 ⟨lines, drawn⟩
    refine ⟨named, readable.1 ⟨rows, read⟩, fun _ widths given => ?_,
      fun wide widths given first inWidths => ?_⟩
    all_goals cases found.symm.trans ((planWidths_iff planned read).1 given)
    · exact titled
    · cases inWidths
      exact names wide
  · intro shows
    obtain ⟨rows, read⟩ := readable.2 shows.read
    have count : ((planTable document.title report).widths screen rows).length = 4 + 1 :=
      Table.length_widths (rectangular_of_read read)
    obtain ⟨width, more, found⟩ := List.exists_cons_of_length_eq_add_one count
    have given := (planWidths_iff planned read).2 found
    exact (exists_draw_of_read_iff planned visible read).2 ⟨width, more, found,
      shows.title visible _ given, fun wide => shows.names wide _ given width rfl⟩

end

end Bindery.Run
