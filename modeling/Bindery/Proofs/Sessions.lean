import Bindery.Proofs.Endings
import Bindery.Proofs.Inspections
import Bindery.Proofs.Layouts
import Bindery.Proofs.Paths

/-!
# Generating several clients

The clients of a configuration are generated in turn, each on the tree that the one before it
leaves.  A client with operations that are left out does not keep the others from being generated; a
run that ends early does.
-/

namespace Bindery.Run

open Bindery.Api Bindery.Client Bindery.Display Bindery.Files Bindery.Loading Bindery.Plan
  Bindery.Steps

/-! ## Clients one after the other -/

/-- Clients are generated in turn, each on the tree that the one before it leaves. -/
inductive Generates (around : Surroundings) : List Settings → Tree → List Result → Tree → Prop where
  | nil (tree : Tree) : Generates around [] tree [] tree
  | cons {settings : Settings} {rest : List Settings} {tree between after : Tree}
      {result : Result} {results : List Result} :
      (generate around settings).Gives tree result between →
      Generates around rest between results after →
      Generates around (settings :: rest) tree (result :: results) after

/-- The generation of clients in turn ends early with the first one that ends with an error. -/
inductive EndsEarly (around : Surroundings) (documents : List Settings) (tree : Tree) :
    Error → Tree → Prop where
  | intro {before rest : List Settings} {settings : Settings} {results : List Result}
      {between after : Tree} {error : Error} :
      documents = before ++ settings :: rest → Generates around before tree results between →
      (generate around settings).Ends between error after →
      EndsEarly around documents tree error after

variable {around : Surroundings} {documents : List Settings} {tree after : Tree}

/-- Either all clients are generated or one of them ends early. -/
theorem generates_or_endsEarly (around : Surroundings) (documents : List Settings) (tree : Tree) :
    (∃ results after, Generates around documents tree results after) ∨
      ∃ error after, EndsEarly around documents tree error after := by
  induction documents generalizing tree with
  | nil => exact .inl ⟨[], tree, .nil tree⟩
  | cons settings rest ih =>
      cases outcome : (generate around settings).run.run tree with
      | mk answer between =>
          cases answer with
          | error error => exact .inr ⟨error, between, .intro rfl (.nil tree) outcome⟩
          | ok result =>
              cases ih between with
              | inl all =>
                  obtain ⟨results, after, generates⟩ := all
                  exact .inl ⟨_, after, .cons outcome generates⟩
              | inr early =>
                  obtain ⟨error, after, ⟨same, generates, ended⟩⟩ := early
                  exact .inr ⟨error, after,
                    .intro (congrArg (settings :: ·) same) (.cons outcome generates) ended⟩

/-! ## Parts of a command that print -/

/-- What tells how far a command is can be shown on any screen if it can be read and drawn. -/
theorem exists_progressLines {markup : String}
    (legible : Markup.Legible ("[progress.description]" ++ markup)) (columns : Nat) :
    ∃ lines, progressLines columns markup = .ok lines := by
  obtain ⟨shown, read, styled⟩ := legible
  obtain ⟨lines, drawn⟩ := Layout.exists_draw styled
  exact ⟨_, bind_eq_ok_iff.2 ⟨shown, read, bind_eq_ok_iff.2 ⟨lines, drawn, rfl⟩⟩⟩

namespace Dialogue

variable {α β : Type} {part : Dialogue α} {next : α → Dialogue β} {value : α} {result : β}

/-- A part of a command gives a value and leaves the files alone. -/
def Tells (part : Dialogue α) (value : α) : Prop :=
  ∀ session, ∃ printed, part.run.run session = (.ok value, { session with printed := printed })

/-- A part of a command ends the command with the status of a failure and leaves the files alone. -/
def Fails (part : Dialogue α) : Prop :=
  ∀ session, ∃ ending printed, ending.status = 1 ∧
    part.run.run session = (.error ending, { session with printed := printed })

theorem Tells.bind (first : Tells part value) (later : Tells (next value) result) :
    Tells (part >>= next) result := by
  intro session
  obtain ⟨printed, here⟩ := first session
  obtain ⟨last, there⟩ := later { session with printed := printed }
  exact ⟨last, by rw [run_bind, here]; exact there⟩

theorem Tells.fails (first : Tells part value) (later : Fails (next value)) :
    Fails (part >>= next) := by
  intro session
  obtain ⟨printed, here⟩ := first session
  obtain ⟨ending, last, status, there⟩ := later { session with printed := printed }
  exact ⟨ending, last, status, by rw [run_bind, here]; exact there⟩

theorem tells_pure (value : α) : Tells (pure value) value :=
  fun session => ⟨session.printed, rfl⟩

theorem tells_say (lines : List (List Char)) : Tells (say lines) () :=
  fun _ => ⟨_, rfl⟩

theorem fails_throw {ending : Ending} (status : ending.status = 1) :
    Fails (throw ending : Dialogue α) :=
  fun session => ⟨ending, session.printed, status, rfl⟩

theorem tells_print {markup : String} (legible : Markup.Legible markup) :
    Tells (print around markup) () := by
  obtain ⟨lines, drawn⟩ := Layout.exists_drawMarkup legible { width := around.columns }
  rw [print, printed, drawn]
  exact .bind (tells_pure lines) (tells_say lines)

theorem exists_tells_progress {markup : String}
    (legible : Markup.Legible ("[progress.description]" ++ markup)) :
    ∃ lines, Tells (progress around markup) lines := by
  obtain ⟨lines, drawn⟩ := exists_progressLines legible around.columns
  rw [progress, drawn]
  exact ⟨lines, tells_pure lines⟩

theorem tells_forM {items : List α} {step : α → Dialogue Unit}
    (each : ∀ item ∈ items, Tells (step item) ()) : Tells (items.forM step) () := by
  induction items with
  | nil => exact tells_pure ()
  | cons item rest ih =>
      obtain ⟨first, more⟩ := List.forall_mem_cons.1 each
      exact .bind first (ih more)

/-- A command that reports what went wrong fails, also where the report cannot be shown. -/
theorem fails_fail (message : String) : Fails (fail around message : Dialogue α) := by
  intro session
  rw [fail, run_bind, print]
  cases printed around.columns ("[red]Error:[/red] " ++ Markup.escape message) with
  | ok lines => exact ⟨.failed, _, rfl, rfl⟩
  | error flaw => exact ⟨.crashed (.markup flaw), session.printed, rfl, rfl⟩

end Dialogue

/-! ## One client -/

/-- The texts of settings. -/
def Settings.texts (settings : Settings) : List String :=
  [settings.source, settings.output, settings.modelsFile, settings.endpointsFile] ++
    settings.baseUrl.toList

/-- No text of settings holds an opening bracket. -/
def Settings.Unbracketed (settings : Settings) : Prop :=
  ∀ text ∈ settings.texts, '[' ∉ text.toList

open Dialogue Markup

variable {settings : Settings} {result : Result}

/-- The files of a run have no brackets if the settings have none. -/
theorem not_mem_text_of_gives (unbracketed : settings.Unbracketed)
    (done : (generate around settings).Gives tree result after) {path : Destination}
    (member : path ∈ result.files) : '[' ∉ path.text.toList := by
  obtain ⟨document, -, generated⟩ := gives_generate_iff.1 done
  obtain ⟨_, _, _, directory, _, -, -, -, parsed, -, -, files⟩ := exists_writesAll generated
  rw [files] at member
  simp only [Settings.Unbracketed, Settings.texts, List.forall_mem_append,
    List.forall_mem_cons] at unbracketed
  obtain ⟨⟨-, output, models, endpoints, -⟩, -⟩ := unbracketed
  have other {file : String} (free : '[' ∉ file.toList) :
      '[' ∉ (directory.join (.parse file)).text.toList := by
    intro bracket
    cases Destination.mem_text_join parsed bracket with
    | inl inOutput => exact output inOutput
    | inr inFile => exact free inFile
  simp only [ClientFiles.inOrder, clientFiles, List.map_cons, List.map_nil, List.mem_cons,
    List.not_mem_nil, or_false] at member
  obtain rfl | rfl | rfl | rfl := member
  · exact other models
  · exact other endpoints
  · exact other (by decide)
  · exact other (by decide)

/-- An operation that a run leaves out is one of the description. -/
theorem exists_operation_of_failure {document : Document}
    (done : (generateFrom compiler settings document).Gives tree result after) {failure : Failure}
    (member : failure ∈ result.failures) :
    ∃ operation ∈ document.operations, operation.name = failure.operation := by
  obtain ⟨results, _, _, settled, _, _, _, _, _, reported, _⟩ := operations_accounted_for done
  obtain ⟨outcome, inResults, found⟩ := List.mem_filterMap.1 (reported.mem_iff.1 member)
  obtain ⟨operation, inDocument, settles⟩ := exists_mem_of_forall₂ settled inResults
  refine ⟨operation, inDocument, ?_⟩
  cases settles with
  | written => cases found
  | unplanned =>
      cases found
      rfl
  | unwritten =>
      cases found
      rfl

/-- The clients of a configuration are told about in texts that have no brackets: those of the
settings, and the names of the operations in the descriptions that are loaded. -/
structure Unbracketed (around : Surroundings) (documents : List Settings) (tree : Tree) : Prop where
  settings : ∀ settings ∈ documents, settings.Unbracketed
  operations : ∀ before settings rest results between document,
    documents = before ++ settings :: rest → Generates around before tree results between →
    load around.web between ⟨around.workingDirectory, none⟩ settings.source = .ok document →
    ∀ operation ∈ document.operations, '[' ∉ operation.name.toList

theorem tells_printResult (files : ∀ path ∈ result.files, '[' ∉ path.text.toList)
    (failures : ∀ failure ∈ result.failures, '[' ∉ failure.operation.toList) :
    Tells (printResult around result) () := by
  refine .bind (tells_print legible_files) (.bind (tells_forM fun path member => tells_print ?_)
    (tells_forM fun failure member => tells_print ?_))
  · refine legible_of_plain (plain_of_not_mem ?_)
    rw [String.toList_append, List.mem_append, not_or]
    exact ⟨by decide, files path member⟩
  · exact legible_skipped (failures failure member) failure.fault.message

theorem exists_tells_started (around : Surroundings) (unbracketed : settings.Unbracketed) :
    ∃ lines, Tells (progress around
      ("Generating code for " ++ settings.source ++ " in " ++ settings.output ++ "...")) lines := by
  refine exists_tells_progress (legible_progress (plain_of_not_mem ?_))
  have source : '[' ∉ settings.source.toList := unbracketed _ (by simp [Settings.texts])
  have output : '[' ∉ settings.output.toList := unbracketed _ (by simp [Settings.texts])
  simp [source, output]

theorem exists_tells_completed (around : Surroundings) (unbracketed : settings.Unbracketed) :
    ∃ lines, Tells (progress around
      ("Code generation completed for " ++ settings.source ++ "!")) lines := by
  refine exists_tells_progress (legible_progress (plain_of_not_mem ?_))
  have source : '[' ∉ settings.source.toList := unbracketed _ (by simp [Settings.texts])
  simp [source]

theorem run_runGeneration {answer : Except Error Result} {said : List String}
    (outcome : (generate around settings).run.run tree = (answer, after)) :
    (runGeneration around settings).run.run ⟨tree, said⟩ = (.ok answer, ⟨after, said⟩) := by
  have ran : (runGeneration around settings).run.run ⟨tree, said⟩ =
      (.ok ((generate around settings).run.run tree).1,
        ⟨((generate around settings).run.run tree).2, said⟩) := rfl
  rw [ran, outcome]

/-- A client that is generated is told about, and the command goes on with whether nothing was left
out. -/
theorem run_generateClient_of_gives (unbracketed : settings.Unbracketed)
    (done : (generate around settings).Gives tree result after)
    (failures : ∀ failure ∈ result.failures, '[' ∉ failure.operation.toList)
    (said : List String) :
    ∃ printed, (generateClient around settings).run.run ⟨tree, said⟩ =
      (.ok result.ok, ⟨after, printed⟩) := by
  obtain ⟨lines, started⟩ := exists_tells_started around unbracketed
  obtain ⟨others, completed⟩ := exists_tells_completed around unbracketed
  have told : Tells (do
      say (← progress around ("Code generation completed for " ++ settings.source ++ "!"))
      printResult around result
      return result.ok : Dialogue Bool) result.ok :=
    completed.bind (Tells.bind (tells_say others) (.bind (tells_printResult
      (fun _ member => not_mem_text_of_gives unbracketed done member) failures) (tells_pure _)))
  obtain ⟨printed, first⟩ := started ⟨tree, said⟩
  obtain ⟨last, rest⟩ := told { tree := after, printed := printed }
  refine ⟨last, ?_⟩
  rw [generateClient, run_bind, first]
  dsimp only
  rw [run_bind, run_runGeneration done]
  exact rest

/-- What the command says, and how it ends, when a client ends early. -/
def afterError (around : Surroundings) (lines : List (List Char)) (error : Error) :
    Dialogue Bool := do
  say lines
  match error.fault? with
  | some fault => fail around fault.message
  | none => throw (.crashed (.run error))

theorem fails_afterError (around : Surroundings) (lines : List (List Char)) (error : Error) :
    Fails (afterError around lines error) := by
  refine (tells_say lines).fails ?_
  cases error.fault? with
  | some fault => exact fails_fail fault.message
  | none => exact fails_throw rfl

/-- A client whose generation ends early ends the command. -/
theorem run_generateClient_of_ends {error : Error} (unbracketed : settings.Unbracketed)
    (ended : (generate around settings).Ends tree error after) (said : List String) :
    ∃ ending printed, ending.status = 1 ∧
      (generateClient around settings).run.run ⟨tree, said⟩ =
        (.error ending, ⟨after, printed⟩) := by
  obtain ⟨lines, started⟩ := exists_tells_started around unbracketed
  obtain ⟨printed, first⟩ := started ⟨tree, said⟩
  obtain ⟨ending, last, status, rest⟩ :=
    fails_afterError around lines error { tree := after, printed := printed }
  refine ⟨ending, last, status, ?_⟩
  rw [generateClient, run_bind, first]
  dsimp only
  rw [run_bind, run_runGeneration ended]
  exact rest

/-! ## All clients -/

namespace Unbracketed

variable {rest : List Settings} {between : Tree}

/-- The operations that a client leaves out have names without brackets. -/
theorem failures (unbracketed : Unbracketed around (settings :: rest) tree)
    (done : (generate around settings).Gives tree result between) {failure : Failure}
    (member : failure ∈ result.failures) : '[' ∉ failure.operation.toList := by
  obtain ⟨document, loaded, generated⟩ := gives_generate_iff.1 done
  obtain ⟨operation, inDocument, same⟩ := exists_operation_of_failure generated member
  rw [← same]
  exact unbracketed.operations [] settings rest [] tree document rfl (.nil tree) loaded operation
    inDocument

theorem tail (unbracketed : Unbracketed around (settings :: rest) tree)
    (done : (generate around settings).Gives tree result between) :
    Unbracketed around rest between where
  settings other member := unbracketed.settings other (List.mem_cons_of_mem _ member)
  operations before other more results last document same generates := by
    subst same
    exact unbracketed.operations (settings :: before) other more (result :: results) last document
      rfl (.cons done generates)

end Unbracketed

/-- Clients that are all generated are all told about. -/
theorem run_mapM_of_generates {results : List Result}
    (generates : Generates around documents tree results after)
    (unbracketed : Unbracketed around documents tree) (said : List String) :
    ∃ printed, (documents.mapM (generateClient around)).run.run ⟨tree, said⟩ =
      (.ok (results.map Result.ok), ⟨after, printed⟩) := by
  induction generates generalizing said with
  | nil tree => exact ⟨said, rfl⟩
  | @cons settings rest tree between after result results done later ih =>
      obtain ⟨printed, first⟩ := run_generateClient_of_gives
        (unbracketed.settings settings List.mem_cons_self) done
        (fun _ member => unbracketed.failures done member) said
      obtain ⟨last, others⟩ := ih (unbracketed.tail done) printed
      refine ⟨last, ?_⟩
      rw [List.mapM_cons, run_bind, first]
      dsimp only
      rw [run_bind, others]
      rfl

/-- After a client that ends early no other one is generated. -/
theorem run_mapM_of_endsEarly {error : Error}
    (early : EndsEarly around documents tree error after)
    (unbracketed : Unbracketed around documents tree) (said : List String) :
    ∃ ending printed, ending.status = 1 ∧
      (documents.mapM (generateClient around)).run.run ⟨tree, said⟩ =
        (.error ending, ⟨after, printed⟩) := by
  obtain ⟨same, generates, ended⟩ := early
  subst same
  induction generates generalizing said with
  | nil tree =>
      obtain ⟨ending, printed, status, first⟩ := run_generateClient_of_ends
        (unbracketed.settings _ List.mem_cons_self) ended said
      refine ⟨ending, printed, status, ?_⟩
      rw [List.nil_append, List.mapM_cons, run_bind, first]
  | @cons settings before tree between last result results done later ih =>
      obtain ⟨printed, first⟩ := run_generateClient_of_gives
        (unbracketed.settings settings List.mem_cons_self) done
        (fun _ member => unbracketed.failures done member) said
      obtain ⟨ending, lastly, status, others⟩ := ih printed ended (unbracketed.tail done)
      refine ⟨ending, lastly, status, ?_⟩
      rw [List.cons_append, List.mapM_cons, run_bind, first]
      dsimp only
      rw [run_bind, others]

section

variable {line : List String} {named : Option String}
  (command : Command.read line = some (.generate named))
  (found : Configuration.find around tree named = .ok documents)
include command found

/-- The command to generate the clients of a configuration generates them in turn. -/
theorem perform_generate :
    perform around line tree =
      match (documents.mapM (generateClient around)).run.run { tree := tree } with
      | (.ok complete, session) => (if complete.all id then .done else .failed, session)
      | (.error ending, session) => (ending, session) := by
  rw [perform, command]
  dsimp only [Command.perform]
  rw [generateAll, run_bind]
  have read : (configured around named).run.run { tree := tree } =
      (.ok documents, { tree := tree }) := by
    have got : (get : Dialogue Session).run.run { tree := tree } =
        (.ok { tree := tree }, { tree := tree }) := rfl
    rw [configured, run_bind, got]
    dsimp only
    rw [found]
    rfl
  rw [read]
  dsimp only
  rw [run_bind]
  rcases (documents.mapM (generateClient around)).run.run { tree := tree } with ⟨answer, session⟩
  cases answer with
  | error ending => rfl
  | ok complete =>
      dsimp only
      cases complete.all id with
      | true => rfl
      | false => rfl

variable (unbracketed : Unbracketed around documents tree)
include unbracketed

theorem perform_of_generates {results : List Result}
    (generates : Generates around documents tree results after) :
    (perform around line tree).2.tree = after ∧
      (perform around line tree).1.status =
        if ∀ result ∈ results, result.failures = [] then 0 else 1 := by
  obtain ⟨printed, ran⟩ := run_mapM_of_generates generates unbracketed []
  rw [perform_generate command found, ran]
  refine ⟨rfl, ?_⟩
  have complete : (results.map Result.ok).all id = true ↔
      ∀ result ∈ results, result.failures = [] := by
    simp [Result.ok]
  by_cases nothingLeft : ∀ result ∈ results, result.failures = []
  · rw [if_pos nothingLeft]
    dsimp only
    rw [if_pos (complete.2 nothingLeft)]
    rfl
  · rw [if_neg nothingLeft]
    dsimp only
    rw [if_neg (mt complete.1 nothingLeft)]
    rfl

theorem perform_of_endsEarly {error : Error}
    (early : EndsEarly around documents tree error after) :
    (perform around line tree).2.tree = after ∧ (perform around line tree).1.status = 1 := by
  obtain ⟨ending, printed, status, ran⟩ := run_mapM_of_endsEarly early unbracketed []
  rw [perform_generate command found, ran]
  exact ⟨rfl, status⟩

/-- The command to generate the clients of a configuration ends with 0 exactly if all of them are
generated and none has left an operation out, and with 1 otherwise.  The tree that it leaves is the
one that the clients leave in turn, all of them or those up to the first one that ends early. -/
theorem status_generate_eq_zero_iff :
    ((perform around line tree).1.status = 0 ↔
      ∃ results after, Generates around documents tree results after ∧
        ∀ result ∈ results, result.failures = []) ∧
    ((perform around line tree).1.status ≠ 0 → (perform around line tree).1.status = 1) ∧
    ((∃ results, Generates around documents tree results (perform around line tree).2.tree) ∨
      ∃ error, EndsEarly around documents tree error (perform around line tree).2.tree ∧
        (perform around line tree).1.status = 1) := by
  have zero_of {results : List Result} {after : Tree}
      (generates : Generates around documents tree results after)
      (complete : ∀ result ∈ results, result.failures = []) :
      (perform around line tree).1.status = 0 := by
    rw [(perform_of_generates command found unbracketed generates).2, if_pos complete]
  cases generates_or_endsEarly around documents tree with
  | inl all =>
      obtain ⟨results, after, generates⟩ := all
      obtain ⟨left, status⟩ := perform_of_generates command found unbracketed generates
      refine ⟨⟨?_, ?_⟩, ?_, .inl ⟨results, left ▸ generates⟩⟩
      · intro zero
        refine ⟨results, after, generates, ?_⟩
        by_contra leftOut
        rw [status, if_neg leftOut] at zero
        cases zero
      · intro complete
        obtain ⟨others, _, generated, complete⟩ := complete
        exact zero_of generated complete
      · intro other
        rw [status] at other ⊢
        split at other
        · exact absurd rfl other
        · rename_i leftOut
          exact if_neg leftOut
  | inr early =>
      obtain ⟨error, after, early⟩ := early
      obtain ⟨left, status⟩ := perform_of_endsEarly command found unbracketed early
      refine ⟨⟨?_, ?_⟩, fun _ => status, .inr ⟨error, left ▸ early, status⟩⟩
      · intro zero
        rw [status] at zero
        cases zero
      · intro complete
        obtain ⟨others, _, generated, complete⟩ := complete
        exact zero_of generated complete

end

/-! ## Two clients -/

/-- A text that describes an operation which refers to a schema that is not there. -/
def strayText : String := "baseUrl: u\noperations:\n- name: a\n  returnType:\n    $ref: X\n"

/-- A text that describes an operation and leaves nothing open. -/
def wholeText : String := "baseUrl: u\noperations:\n- name: b\n"

/-- The names and the texts of two files. -/
def pairTexts : List (String × String) := [("s.yml", strayText), ("t.yml", wholeText)]

/-- A configuration for two clients, and the files that describe them. -/
def pairTree : Tree where
  nodes :=
    (["c.yml"], .file (.text ("documents:\n- source: s.yml\n  output: memory:/s\n" ++
      "- source: t.yml\n  output: memory:/t\n"))) ::
    pairTexts.map fun (name, text) => ([name], .file (.text text))

/-- The settings of the first client. -/
def strayClient : Settings where
  source := "s.yml"
  output := "memory:/s"

/-- The settings of the second client. -/
def wholeClient : Settings where
  source := "t.yml"
  output := "memory:/t"

/-- The surroundings of their run. -/
def pairSurroundings : Surroundings where
  workingDirectory := ⟨"/", ["pairs"]⟩

/-- What one of the files describes. -/
def pairDocument (source text : String) : Except LoadError Document :=
  parse source .yaml (String.ofList (plainLineEnds text.toList)) >>= accept source

theorem find_pair :
    Configuration.find pairSurroundings pairTree (some "c.yml") =
      .ok [strayClient, wholeClient] := by
  have named : Text.filled (some "c.yml") = some "c.yml" := by decide +kernel
  have fileName : Tree.IsFileName "c.yml" := ⟨by decide, by simp, by simp, by decide, by decide⟩
  have held : pairTree.content (.parse "c.yml") =
      .ok (.text ("documents:\n- source: s.yml\n  output: memory:/s\n" ++
        "- source: t.yml\n  output: memory:/t\n")) := by
    rw [fileName.parse_eq]
    exact Tree.content_of_held fileName List.lookup_cons_self
  have given : Configuration.find pairSurroundings pairTree (some "c.yml") =
      Configuration.ofYaml pairSurroundings pairTree (.parse "c.yml") (.parse "c.yml") := by
    rw [Configuration.find, named]
  rw [given, Configuration.ofYaml, Configuration.textOf, held, ← toOption_eq_some_iff]
  decide +kernel

/-- The files describe the same whatever is kept in memory. -/
theorem load_pair (same : tree.nodes = pairTree.nodes) {source text : String}
    (listed : (source, text) ∈ pairTexts) :
    load pairSurroundings.web tree ⟨pairSurroundings.workingDirectory, none⟩ source =
      pairDocument source text := by
  obtain ⟨nodes, memory⟩ := tree
  obtain rfl : nodes = pairTree.nodes := same
  simp only [pairTexts, List.mem_cons, List.not_mem_nil, or_false] at listed
  obtain ⟨rfl, rfl⟩ | ⟨rfl, rfl⟩ := listed
  · have fileName : Tree.IsFileName "s.yml" := ⟨by decide, by simp, by simp, by decide, by decide⟩
    exact load_of_yaml fileName (by decide +kernel) (by decide +kernel) rfl
  · have fileName : Tree.IsFileName "t.yml" := ⟨by decide, by simp, by simp, by decide, by decide⟩
    exact load_of_yaml fileName (by decide +kernel) (by decide +kernel) rfl

/-- The run for the first client leaves its operation out, and the one for the second client leaves
nothing out.  Neither changes a file. -/
theorem exists_gives_pair :
    ∃ first between second after,
      (generate pairSurroundings strayClient).Gives pairTree first between ∧
      between.nodes = pairTree.nodes ∧
      (generate pairSurroundings wholeClient).Gives between second after ∧
      first.failures.length = 1 ∧ second.failures = [] := by
  have read : (pairDocument "s.yml" strayText).toOption.bind (fun stray =>
      (pairDocument "t.yml" wholeText).toOption.bind fun whole =>
        let first := (generateFrom .strict strayClient stray).run.run pairTree
        let second := (generateFrom .strict wholeClient whole).run.run first.2
        first.1.toOption.bind fun left => second.1.toOption.map fun complete =>
          (left.failures.length, first.2.nodes, complete.failures)) =
        some (1, pairTree.nodes, []) := by
    decide +kernel
  obtain ⟨stray, described, read⟩ := toOption_bind_eq_some_iff.1 read
  obtain ⟨whole, alsoDescribed, read⟩ := toOption_bind_eq_some_iff.1 read
  obtain ⟨first, gave, read⟩ := toOption_bind_eq_some_iff.1 read
  obtain ⟨second, alsoGave, same⟩ := toOption_map_eq_some_iff.1 read
  obtain ⟨length, nodes, nothing⟩ : first.failures.length = 1 ∧
      ((generateFrom .strict strayClient stray).run.run pairTree).2.nodes = pairTree.nodes ∧
        second.failures = [] := by
    simpa only [Prod.mk.injEq] using same
  have here := (load_pair rfl (by simp [pairTexts])).trans described
  have there := (load_pair nodes (by simp [pairTexts])).trans alsoDescribed
  exact ⟨first, _, second, _, gives_generate_iff.2 ⟨stray, here, Prod.ext gave rfl⟩, nodes,
    gives_generate_iff.2 ⟨whole, there, Prod.ext alsoGave rfl⟩, length, nothing⟩

theorem unbracketed_pair :
    Unbracketed pairSurroundings [strayClient, wholeClient] pairTree := by
  have names : (pairDocument "s.yml" strayText).toOption.map (·.operations.map (·.name)) =
      some ["a"] ∧ (pairDocument "t.yml" wholeText).toOption.map (·.operations.map (·.name)) =
        some ["b"] := by
    decide +kernel
  have free {source text name : String} {document : Document}
      (parsed : pairDocument source text = .ok document) (plain : '[' ∉ name.toList)
      (named : (pairDocument source text).toOption.map (·.operations.map (·.name)) = some [name]) :
      ∀ operation ∈ document.operations, '[' ∉ operation.name.toList := by
    intro operation member
    rw [parsed] at named
    have only : document.operations.map (·.name) = [name] := Option.some.inj named
    have listed : operation.name ∈ document.operations.map (·.name) := List.mem_map_of_mem member
    rw [only, List.mem_singleton] at listed
    rwa [listed]
  constructor
  · have each : ∀ settings ∈ [strayClient, wholeClient], ∀ text ∈ settings.texts,
        '[' ∉ text.toList := by
      decide
    exact each
  · intro before settings rest results between document same generates loaded
    cases generates with
    | nil =>
        cases same
        have read : pairDocument "s.yml" strayText = .ok document :=
          (load_pair rfl List.mem_cons_self).symm.trans loaded
        exact free read (by decide) names.1
    | cons done later =>
        cases later with
        | nil =>
            cases same
            obtain ⟨first, middle, -, -, gave, nodes, -⟩ := exists_gives_pair
            cases gave.symm.trans done
            have read : pairDocument "t.yml" wholeText = .ok document :=
              (load_pair nodes (List.mem_cons_of_mem _ List.mem_cons_self)).symm.trans loaded
            exact free read (by decide) names.2
        | cons =>
            have lengths := congrArg List.length same
            simp at lengths

/-- The command generates both clients, and ends with 1 since an operation of the first one is left
out. -/
theorem stray_status :
    Configuration.find pairSurroundings pairTree (some "c.yml") =
        .ok [strayClient, wholeClient] ∧
      Unbracketed pairSurroundings [strayClient, wholeClient] pairTree ∧
      (perform pairSurroundings ["generate", "--config", "c.yml"] pairTree).1.status = 1 ∧
      ∃ first second, first.failures.length = 1 ∧ second.failures = [] ∧
        Generates pairSurroundings [strayClient, wholeClient] pairTree [first, second]
          (perform pairSurroundings ["generate", "--config", "c.yml"] pairTree).2.tree := by
  have command : Command.read ["generate", "--config", "c.yml"] =
      some (.generate (some "c.yml")) := by
    decide +kernel
  obtain ⟨first, between, second, after, gave, -, alsoGave, length, nothing⟩ := exists_gives_pair
  have both :
      Generates pairSurroundings [strayClient, wholeClient] pairTree [first, second] after :=
    .cons gave (.cons alsoGave (.nil after))
  have left :
      (perform pairSurroundings ["generate", "--config", "c.yml"] pairTree).2.tree = after :=
    (perform_of_generates command find_pair unbracketed_pair both).1
  rw [left]
  refine ⟨find_pair, unbracketed_pair, ?_, first, second, length, nothing, both⟩
  obtain ⟨zero, other, -⟩ := status_generate_eq_zero_iff command find_pair unbracketed_pair
  apply other
  intro complete
  obtain ⟨results, last, generates, all⟩ := zero.1 complete
  cases generates with
  | cons done later =>
      cases gave.symm.trans done
      rw [all first List.mem_cons_self] at length
      cases length

end Bindery.Run
