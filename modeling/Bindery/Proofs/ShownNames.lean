import Bindery.Proofs.PlanTables
import Bindery.Proofs.Sessions
import Bindery.Proofs.Verbatim

/-!
# Names on the screen

The names of operations, the title of a description and the paths of files are printed as markup
and not escaped.  A plan can be shown exactly if the title and all the names are markup that can be
drawn where it stands, and a name is shown as it stands only if markup shows it so; the same is true
of what is told about a client that was generated.
-/

namespace Bindery.Run

open Bindery.Api Bindery.Client Bindery.Display Bindery.Files Bindery.Loading Bindery.Plan
  Bindery.Steps Dialogue Markup

variable {around : Surroundings} {line : List String} {tree : Tree} {source : String}
  {variant : Variant} {document : Document}

/-! ## Showing a plan -/

/-- What the command to show a plan does with a description that loads.  Whether it ends well is
decided by the title and the names, and nothing is printed if it does not. -/
structure ShowsPlan (around : Surroundings) (line : List String) (tree : Tree) (variant : Variant)
    (document : Document) : Prop where
  status : (perform around line tree).1.status = 0 ↔ Showable around.columns variant document
  table : (perform around line tree).1.status = 0 → ∃ report rows lines,
    Tabulates around.columns variant document report rows lines ∧
      (perform around line tree).2.printed = lines.map String.ofList
  nothing : (perform around line tree).1.status ≠ 0 → (perform around line tree).2.printed = []
  names : ∀ operation ∈ document.operations, NoEmoji operation.name →
    (Markup.text operation.name = .ok operation.name.toList ↔
      ShownExactly operation.name.toList [])
  title : NoEmoji document.title →
    (Markup.text document.title = .ok document.title.toList ↔
      ShownExactly document.title.toList [])

/-- A description is shown on every screen if its title and all names can be drawn wherever they
stand. -/
theorem showable_of_legible
    (named : ∀ operation ∈ document.operations,
      ¬ Nameless (.ofDocument variant document) operation)
    (title : Legible document.title)
    (names : ∀ operation ∈ document.operations, Legible operation.name) (screen : Nat) :
    Showable screen variant document where
  named := named
  read _ operation member := by
    obtain ⟨shown, read, -⟩ := names operation member
    exact ⟨shown, read⟩
  title _ _ _ := Layout.exists_drawMarkup title _
  names _ _ _ _ _ operation member := Layout.exists_drawMarkup (names operation member) _

section

variable (command : Command.read line = some (.inspect source variant))
  (loaded : load around.web tree ⟨around.workingDirectory, none⟩ source = .ok document)
include command loaded

theorem perform_inspect_of_planned {report : Report}
    (planned : planAll (.ofDocument variant document) document.operations = .ok report) :
    perform around line tree =
      match (planTable document.title report).draw around.columns with
      | .ok lines => (.done, { tree := tree, printed := lines.map String.ofList })
      | .error flaw => (.crashed (.markup flaw), { tree := tree }) := by
  have shows : Shows around source variant { tree := tree } (planTable document.title report) :=
    shows_planTable loaded planned
  rw [perform, command]
  dsimp only [Command.perform]
  rw [shows]
  cases (planTable document.title report).draw around.columns with
  | ok lines => rfl
  | error flaw => rfl

theorem perform_inspect_of_failed {error : PlanError}
    (failed : planAll (.ofDocument variant document) document.operations = .error error) :
    perform around line tree = (.crashed (.run (.ofPlan error)), { tree := tree }) := by
  have ran : (Run.inspect around source variant).run.run { tree := tree } =
      (.error (.crashed (.run (.ofPlan error))), { tree := tree }) := by
    have described : (inspected around source).run.run { tree := tree } =
        (.ok document, { tree := tree }) := run_inspected loaded
    simp only [Run.inspect]
    rw [Dialogue.run_bind, described]
    dsimp only
    rw [failed]
    rfl
  rw [perform, command]
  dsimp only [Command.perform]
  rw [ran]

/-- A description that can be shown is shown by its table, and any other one is not shown. -/
theorem perform_inspect_cases :
    (Showable around.columns variant document ∧ ∃ report rows lines,
      Tabulates around.columns variant document report rows lines ∧
      perform around line tree = (.done, { tree := tree, printed := lines.map String.ofList })) ∨
    (¬ Showable around.columns variant document ∧
      ∃ crash, perform around line tree = (.crashed crash, { tree := tree })) := by
  cases planned : planAll (.ofDocument variant document) document.operations with
  | error error =>
      refine .inr ⟨fun showable => ?_, _, perform_inspect_of_failed command loaded planned⟩
      obtain ⟨verdicts, done, -⟩ := exists_planAll_eq_ok showable.named
      cases done.symm.trans planned
  | ok report =>
      have ran := perform_inspect_of_planned command loaded planned
      have showable : (∃ lines, (planTable document.title report).draw around.columns =
          .ok lines) ↔ Showable around.columns variant document :=
        exists_draw_planTable_iff planned
      cases drawn : (planTable document.title report).draw around.columns with
      | error flaw =>
          rw [drawn] at ran showable
          refine .inr ⟨fun shows => ?_, _, ran⟩
          obtain ⟨lines, done⟩ := showable.2 shows
          cases done
      | ok lines =>
          obtain ⟨rows, tabulates⟩ := exists_tabulates planned drawn
          rw [drawn] at ran
          exact .inl ⟨showable.1 ⟨_, drawn⟩, report, rows, lines, tabulates, ran⟩

/-- What the command to show a plan does with a description that loads. -/
theorem showsPlan : ShowsPlan around line tree variant document where
  status := by
    obtain ⟨shows, _, _, _, _, ran⟩ | ⟨shows, _, ran⟩ := perform_inspect_cases command loaded
    · rw [ran]
      exact iff_of_true rfl shows
    · rw [ran]
      exact iff_of_false Nat.one_ne_zero shows
  table done := by
    obtain ⟨-, report, rows, lines, table, ran⟩ | ⟨-, _, ran⟩ :=
      perform_inspect_cases command loaded
    · rw [ran]
      exact ⟨report, rows, lines, table, rfl⟩
    · rw [ran] at done
      cases done
  nothing failed := by
    obtain ⟨-, _, _, _, _, ran⟩ | ⟨-, _, ran⟩ := perform_inspect_cases command loaded
    · rw [ran] at failed
      exact absurd rfl failed
    · rw [ran]
  names operation _ noEmoji := text_eq_self_iff noEmoji
  title := text_eq_self_iff

end

/-! ## What is told about a client -/

/-- The line on an operation that is left out, as markup. -/
def skipped (failure : Failure) : String :=
  "[yellow]Skipped[/yellow] " ++ failure.operation ++ ": " ++ escape failure.fault.message

/-- The lines that are told about a client that was generated, as markup. -/
def Result.told (result : Result) : List String :=
  "[dim]Generated files:[/dim]" :: result.files.map (fun path => "  - " ++ path.text) ++
    result.failures.map skipped

/-- Two parts of a command come to their end exactly if the first does and the second does after
it. -/
theorem run_bind_eq_ok_iff {α β : Type} {part : Dialogue α} {next : α → Dialogue β}
    {session after : Session} {result : β} :
    (part >>= next).run.run session = (.ok result, after) ↔
      ∃ value between, part.run.run session = (.ok value, between) ∧
        (next value).run.run between = (.ok result, after) := by
  rw [run_bind]
  rcases part.run.run session with ⟨ending | value, between⟩
  · constructor
    · rintro ⟨⟩
    · rintro ⟨_, _, ⟨⟩, _⟩
  · constructor
    · intro later
      exact ⟨value, between, rfl, later⟩
    · rintro ⟨_, _, ⟨⟩, later⟩
      exact later

theorem run_say_iff {lines : List (List Char)} {session after : Session} {done : Unit} :
    (say lines).run.run session = (.ok done, after) ↔
      after = { session with printed := session.printed ++ lines.map String.ofList } :=
  ⟨fun said => (Prod.mk.inj said).2.symm, fun same => same ▸ rfl⟩

theorem run_orCrash_iff {ε α : Type} {crash : ε → Crash} {step : Except ε α}
    {session after : Session} {value : α} :
    (orCrash crash step).run.run session = (.ok value, after) ↔
      step = .ok value ∧ after = session := by
  cases step with
  | error cause =>
      constructor
      · rintro ⟨⟩
      · rintro ⟨⟨⟩, -⟩
  | ok given =>
      constructor
      · rintro ⟨⟩
        exact ⟨rfl, rfl⟩
      · rintro ⟨⟨⟩, rfl⟩
        rfl

/-- A line of markup is printed exactly if it can be drawn on the screen. -/
theorem run_print_iff {markup : String} {session after : Session} {done : Unit} :
    (print around markup).run.run session = (.ok done, after) ↔
      ∃ lines, printed around.columns markup = .ok lines ∧
        after = { session with printed := session.printed ++ lines.map String.ofList } := by
  rw [print, run_bind_eq_ok_iff]
  simp only [run_orCrash_iff, run_say_iff]
  constructor
  · rintro ⟨lines, _, ⟨drawn, rfl⟩, said⟩
    exact ⟨lines, drawn, said⟩
  · rintro ⟨lines, drawn, said⟩
    exact ⟨lines, session, ⟨drawn, rfl⟩, said⟩

/-- Lines of markup are printed to the end exactly if all of them can be drawn. -/
theorem run_forM_print_iff {markups : List String} {session after : Session} {done : Unit} :
    (markups.forM (print around)).run.run session = (.ok done, after) ↔
      ∃ texts, markups.mapM (printed around.columns) = .ok texts ∧
        after = { session with
          printed := session.printed ++ texts.flatten.map String.ofList } := by
  induction markups generalizing session with
  | nil =>
      constructor
      · rintro ⟨⟩
        exact ⟨[], rfl, by simp⟩
      · rintro ⟨_, ⟨⟩, rfl⟩
        simp [List.forM]
        rfl
  | cons markup rest ih =>
      rw [List.forM, run_bind_eq_ok_iff]
      simp only [run_print_iff, ih, mapM_eq_ok_iff, List.forall₂_cons_left_iff]
      constructor
      · rintro ⟨_, _, ⟨lines, here, rfl⟩, texts, later, rfl⟩
        exact ⟨_, ⟨lines, texts, here, later, rfl⟩, by simp⟩
      · rintro ⟨_, ⟨lines, texts, here, later, rfl⟩, rfl⟩
        exact ⟨(), _, ⟨lines, here, rfl⟩, texts, later, by simp⟩

theorem printResult_eq (around : Surroundings) (result : Result) :
    printResult around result = result.told.forM (print around) := by
  have images {α : Type} (items : List α) (image : α → String) :
      (items.map image).forM (print around) =
        items.forM fun item => print around (image item) := by
    induction items with
    | nil => rfl
    | cons item rest ih => exact congrArg (print around (image item) >>= fun _ => ·) ih
  have both (first later : List String) : (first ++ later).forM (print around) =
      first.forM (print around) >>= fun _ => later.forM (print around) := by
    exact List.forM_append
  simp only [printResult, Result.told]
  rw [List.cons_append, List.forM, both, images, images]
  rfl

/-- What is told while a client is generated, as markup. -/
def Settings.started (settings : Settings) : String :=
  "Generating code for " ++ settings.source ++ " in " ++ settings.output ++ "..."

/-- What is told once a client is generated, as markup. -/
def Settings.completed (settings : Settings) : String :=
  "Code generation completed for " ++ settings.source ++ "!"

/-- What a command tells about a client that was generated. -/
structure Telling (around : Surroundings) (settings : Settings) (result : Result)
    (lines : List (List Char)) : Prop where
  started : ∃ started, progressLines around.columns settings.started = .ok started
  told : ∃ completed texts, progressLines around.columns settings.completed = .ok completed ∧
    result.told.mapM (printed around.columns) = .ok texts ∧ lines = completed ++ texts.flatten

/-- A client that is generated is told about to the end exactly if all that is told can be drawn on
the screen. -/
theorem run_generateClient_iff {settings : Settings} {before after : Tree} {result : Result}
    {said : List String} {session : Session}
    (done : (generate around settings).Gives before result after) :
    (generateClient around settings).run.run ⟨before, said⟩ = (.ok result.ok, session) ↔
      ∃ lines, Telling around settings result lines ∧
        session = ⟨after, said ++ lines.map String.ofList⟩ := by
  rw [generateClient, run_bind_eq_ok_iff]
  constructor
  · rintro ⟨started, _, first, rest⟩
    obtain ⟨opened, rfl⟩ := run_orCrash_iff.1 first
    obtain ⟨_, _, ran, rest⟩ := run_bind_eq_ok_iff.1 rest
    cases ran.symm.trans (run_runGeneration done)
    obtain ⟨completed, _, progressed, rest⟩ := run_bind_eq_ok_iff.1 rest
    obtain ⟨second, rfl⟩ := run_orCrash_iff.1 progressed
    obtain ⟨_, _, told, rest⟩ := run_bind_eq_ok_iff.1 rest
    cases run_say_iff.1 told
    obtain ⟨_, _, printed, rest⟩ := run_bind_eq_ok_iff.1 rest
    rw [printResult_eq] at printed
    obtain ⟨texts, drawn, rfl⟩ := run_forM_print_iff.1 printed
    cases rest
    exact ⟨_, ⟨⟨started, opened⟩, completed, texts, second, drawn, rfl⟩, by simp⟩
  · rintro ⟨_, ⟨⟨started, first⟩, completed, texts, second, drawn, rfl⟩, rfl⟩
    refine ⟨started, _, run_orCrash_iff.2 ⟨first, rfl⟩, ?_⟩
    refine run_bind_eq_ok_iff.2 ⟨_, _, run_runGeneration done, ?_⟩
    refine run_bind_eq_ok_iff.2 ⟨_, _, run_orCrash_iff.2 ⟨second, rfl⟩, ?_⟩
    refine run_bind_eq_ok_iff.2 ⟨(), _, run_say_iff.2 rfl, ?_⟩
    rw [printResult_eq]
    refine run_bind_eq_ok_iff.2 ⟨(), _, run_forM_print_iff.2 ⟨texts, drawn, rfl⟩, ?_⟩
    simp
    rfl

/-- What a command does to tell about a client that was generated.  All of it is told if all of it
can be drawn, and a line that fits the screen stands there but for blanks at its end. -/
structure TellsClient (around : Surroundings) (settings : Settings) (before after : Tree)
    (result : Result) : Prop where
  told : ∀ said session,
    (generateClient around settings).run.run ⟨before, said⟩ = (.ok result.ok, session) ↔
      ∃ lines, Telling around settings result lines ∧
        session = ⟨after, said ++ lines.map String.ofList⟩
  fits : ∀ markup ∈ result.told, ∀ text, Markup.text markup = .ok text →
    0 < around.columns → Layout.Fits around.columns text → ∀ lines,
      printed around.columns markup = .ok lines →
        lines = (Text.lines text).map (Text.trimEnd around.columns)
  files : ∀ path ∈ result.files, NoEmoji ("  - " ++ path.text) →
    (Markup.text ("  - " ++ path.text) = .ok ("  - ".toList ++ path.text.toList) ↔
      ShownExactly path.text.toList [])
  skipped : ∀ failure ∈ result.failures, NoEmoji (skipped failure) →
    NoEmoji (escape failure.fault.message) →
    ∀ told, Markup.text (escape failure.fault.message) = .ok told →
      (Markup.text (skipped failure) =
          .ok ("Skipped ".toList ++ (failure.operation.toList ++ (": ".toList ++ told))) ↔
        ShownExactly failure.operation.toList
          (": ".toList ++ (escape failure.fault.message).toList))

/-- What a command does to tell about a client that was generated. -/
theorem tellsClient {settings : Settings} {before after : Tree} {result : Result}
    (done : (generate around settings).Gives before result after) :
    TellsClient around settings before after result where
  told _ _ := run_generateClient_iff done
  fits markup _ text shown visible fits lines drawn := by
    obtain ⟨result, read, rfl⟩ := text_eq_ok_iff.1 shown
    obtain ⟨_, again, drawn⟩ := bind_eq_ok_iff.1 drawn
    cases read.symm.trans again
    exact Layout.draw_of_fits visible fits drawn
  files _ _ noEmoji := text_append_eq_iff noEmoji (by simp [isControl])
  skipped _ _ noEmoji plainMessage _ read := text_skipped_eq_iff noEmoji plainMessage read

/-! ## Names as they stand -/

/-- The command to show a plan ends well exactly if the description can be shown, and prints its
table then and nothing otherwise; what is told about a client is printed to its end exactly if all
of it can be drawn.  What fits its place is displayed there, and without emoji a name, the title and
the path of a file are shown as they stand only where markup shows them so. -/
theorem names_shown_as_markup
    (command : Command.read line = some (.inspect source variant))
    (loaded : load around.web tree ⟨around.workingDirectory, none⟩ source = .ok document) :
    ShowsPlan around line tree variant document ∧
      ∀ (settings : Settings) (before after : Tree) (result : Result),
        (generate around settings).Gives before result after →
          TellsClient around settings before after result :=
  ⟨showsPlan command loaded, fun _ _ _ _ done => tellsClient done⟩

/-! ## Names with brackets -/

/-- A file that describes operations without anything but names. -/
def namesText (names : List String) : String :=
  "operations:\n" ++ String.join (names.map fun name => "- name: " ++ name ++ "\n")

/-- A working directory with that file. -/
def namesTree (names : List String) : Tree where
  nodes := [(["s.yml"], .file (.text (namesText names)))]

/-- What the file describes. -/
def namesDocument (names : List String) : Except LoadError Document :=
  parse "s.yml" .yaml (String.ofList (plainLineEnds (namesText names).toList)) >>= accept "s.yml"

/-- The surroundings of a command in that directory. -/
def namesSurroundings : Surroundings where
  workingDirectory := ⟨"/", ["names"]⟩

theorem load_names (names : List String) :
    load namesSurroundings.web (namesTree names) ⟨namesSurroundings.workingDirectory, none⟩
      "s.yml" = namesDocument names := by
  have fileName : Tree.IsFileName "s.yml" := ⟨by decide, by simp, by simp, by decide, by decide⟩
  exact load_of_yaml fileName (by decide +kernel) (by decide +kernel) List.lookup_cons_self

theorem read_inspect :
    Command.read ["inspect", "s.yml"] = some (.inspect "s.yml" .options) := by
  decide +kernel

/-- What the file describes has the operations of those names, none of them without a name. -/
theorem exists_document_of_names (names : List String)
    (read : (namesDocument names).toOption.map (fun document =>
      (document.title, document.operations.map fun operation =>
        (operation.name, operation.parameters.isEmpty))) =
          some ("API", names.map fun name => (name, true)))
    (named : "" ∉ names) :
    ∃ document, load namesSurroundings.web (namesTree names)
        ⟨namesSurroundings.workingDirectory, none⟩ "s.yml" = .ok document ∧
      document.title = "API" ∧ document.operations.map (·.name) = names ∧
      ∀ operation ∈ document.operations, ¬ Nameless (.ofDocument .options document) operation := by
  obtain ⟨document, parsed, same⟩ := toOption_map_eq_some_iff.1 read
  obtain ⟨title, operations⟩ := Prod.mk.inj same
  have loaded := (load_names names).trans parsed
  have called : document.operations.map (·.name) = names := by
    have first := congrArg (List.map Prod.fst) operations
    simpa [Function.comp_def] using first
  refine ⟨document, loaded, title, called, fun operation member => Named.not_nameless ⟨?_, ?_⟩⟩
  · rintro unnamed
    exact named (called ▸ unnamed ▸ List.mem_map_of_mem member)
  · have listed : (operation.name, operation.parameters.isEmpty) ∈
        names.map fun name => (name, true) := operations ▸ List.mem_map_of_mem member
    obtain ⟨_, -, same⟩ := List.mem_map.1 listed
    rw [List.isEmpty_iff.1 (Prod.mk.inj same).2.symm]
    simp

theorem legible_bracketed : ∀ name ∈ ["get[0]", "a[bold]"], Legible name := by
  have drawable : Drawable "bold" :=
    ⟨some { attributes := [("bold", true)] }, toOption_eq_some_iff.1 rfl⟩
  simp only [List.forall_mem_cons]
  refine ⟨⟨⟨"get[0]".toList, []⟩, toOption_eq_some_iff.1 (by decide +kernel), by simp⟩,
    ⟨⟨['a'], [⟨1, 1, "bold"⟩]⟩, toOption_eq_some_iff.1 (by decide +kernel), ?_⟩, by simp⟩
  exact List.forall_mem_singleton.2 drawable

/-- The table of two operations with brackets in their names fits a screen of eighty cells. -/
theorem fits_bracketed :
    (namesDocument ["get[0]", "a[bold]"]).toOption.bind (fun document =>
      (planAll (.ofDocument .options document) document.operations).toOption.bind fun report =>
        ((planTable document.title report).read 80).toOption.map fun rows =>
          decide (Table.fullWidth (((planTable document.title report).widest rows).map (· + 2)) ≤
            80)) = some true := by
  decide +kernel

/-- A name with a tag is shown without it, and one with a bracket that starts no tag as it stands,
in a line of the table that is printed. -/
theorem bracketed_names_shown :
    ∃ document, load namesSurroundings.web (namesTree ["get[0]", "a[bold]"])
        ⟨namesSurroundings.workingDirectory, none⟩ "s.yml" = .ok document ∧
      document.operations.map (·.name) = ["get[0]", "a[bold]"] ∧
      (perform namesSurroundings ["inspect", "s.yml"] (namesTree ["get[0]", "a[bold]"])).1.status =
        0 ∧
      (∃ line ∈ (perform namesSurroundings ["inspect", "s.yml"]
          (namesTree ["get[0]", "a[bold]"])).2.printed, "get[0]".toList <:+: line.toList) ∧
      ShownExactly "get[0]".toList [] ∧ ¬ ShownExactly "a[bold]".toList [] ∧
      Markup.text "a[bold]" = .ok ['a'] := by
  obtain ⟨document, loaded, title, names, named⟩ :=
    exists_document_of_names ["get[0]", "a[bold]"] (by decide +kernel) (by decide)
  obtain ⟨shows, -⟩ := names_shown_as_markup read_inspect loaded
  have whole : Markup.text "get[0]" = .ok "get[0]".toList :=
    toOption_eq_some_iff.1 (by decide +kernel)
  have part : Markup.text "a[bold]" = .ok ['a'] := toOption_eq_some_iff.1 (by decide +kernel)
  have legible : ∀ operation ∈ document.operations, Legible operation.name := fun _ member =>
    legible_bracketed _ (names ▸ List.mem_map_of_mem member)
  have heading : Legible document.title := title ▸ legible_of_plain (plain_of_not_mem (by decide))
  have showable := showable_of_legible named heading legible namesSurroundings.columns
  have asWritten {name : String} (member : name ∈ ["get[0]", "a[bold]"])
      (none : ':' ∉ name.toList) :
      Markup.text name = .ok name.toList ↔ ShownExactly name.toList [] := by
    rw [← names] at member
    obtain ⟨operation, inDocument, rfl⟩ := List.mem_map.1 member
    exact shows.names operation inDocument (noEmoji_of_not_mem none)
  have status := shows.status.2 showable
  refine ⟨document, loaded, names, status, ?_, ?_, ?_, part⟩
  · obtain ⟨report, rows, lines, tabulates, printed⟩ := shows.table status
    obtain ⟨_, described, roomy⟩ := toOption_bind_eq_some_iff.1 fits_bracketed
    cases described.symm.trans ((load_names _).symm.trans loaded)
    obtain ⟨_, planned, roomy⟩ := toOption_bind_eq_some_iff.1 roomy
    cases planned.symm.trans tabulates.planned
    obtain ⟨_, read, roomy⟩ := toOption_map_eq_some_iff.1 roomy
    cases read.symm.trans tabulates.read
    obtain ⟨operation, member, same⟩ : ∃ operation ∈ document.operations,
        operation.name = "get[0]" := by
      rw [← List.mem_map, names]
      exact List.mem_cons_self
    have oneLine : ∀ c ∈ "get[0]".toList, Text.isLineBreak c = false := by
      simp [Text.isLineBreak, Text.Ranges.contains]
    have displays := tabulates.whole (of_decide_eq_true roomy) operation member "get[0]".toList
      (same ▸ whole) (by decide) fun c inName breaks => by simp [oneLine c inName] at breaks
    have alone : Text.lines "get[0]".toList = ["get[0]".toList] := by decide
    have bare : Text.trimRight "get[0]".toList = "get[0]".toList := by decide +kernel
    obtain ⟨line, inLines, within⟩ := displays _ (alone ▸ List.mem_singleton.2 rfl)
    rw [bare] at within
    refine ⟨String.ofList line, printed ▸ List.mem_map_of_mem inLines, ?_⟩
    have chars : (String.ofList line).toList = line := String.toList_ofList
    rwa [chars]
  · exact (asWritten (by simp) (by decide)).1 whole
  · rw [← asWritten (by simp) (by decide), part]
    decide

/-- A description that loads and whose operation has a name, but one with a closing bracket: the
command to show its plan breaks off. -/
theorem closing_name_breaks_off :
    ∃ document, load namesSurroundings.web (namesTree ["a[/b]"])
        ⟨namesSurroundings.workingDirectory, none⟩ "s.yml" = .ok document ∧
      document.operations.map (·.name) = ["a[/b]"] ∧
      (∀ operation ∈ document.operations, ¬ Nameless (.ofDocument .options document) operation) ∧
      (perform namesSurroundings ["inspect", "s.yml"] (namesTree ["a[/b]"])).1.status = 1 := by
  obtain ⟨document, loaded, -, names, named⟩ :=
    exists_document_of_names ["a[/b]"] (by decide +kernel) (by decide)
  refine ⟨document, loaded, names, named, ?_⟩
  obtain ⟨shows, -⟩ | ⟨-, crash, ran⟩ := perform_inspect_cases read_inspect loaded
  · have listed : "a[/b]" ∈ document.operations.map (·.name) := by simp [names]
    obtain ⟨operation, member, same⟩ := List.mem_map.1 listed
    obtain ⟨shown, read⟩ := shows.read (by decide) operation member
    have spelled : "a[/b]".toList = ['a'] ++ ('[' :: '/' :: ['b'] ++ ']' :: []) := by decide
    have found : tag? ('[' :: '/' :: ['b'] ++ ']' :: []) = some ('/' :: ['b'], []) := by decide
    obtain ⟨flaw, failed⟩ := exists_text_eq_error (by simp) spelled found
    rw [same] at read
    rw [Markup.text, read] at failed
    cases failed
  · rw [ran]
    rfl

end Bindery.Run
