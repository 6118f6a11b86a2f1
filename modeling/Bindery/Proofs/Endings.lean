import Bindery.Proofs.Ledger
import Bindery.Proofs.Paths
import Bindery.Proofs.Verdicts

/-!
# How runs end early

A run that ends early ends in one of its steps, and what it leaves behind is what the steps before
that one have done.  Loading a description and looking for a base URL change nothing, the directory
is made before the models, and a file is written only after its code has been checked.  So the error
that a run ends with tells what has been written.
-/

namespace Bindery.Steps

variable {ε ε' α β : Type}

/-- All errors of a step have a property. -/
def FailsWith (property : ε → Prop) (step : Except ε α) : Prop :=
  ∀ cause, step = .error cause → property cause

namespace FailsWith

variable {property : ε → Prop}

theorem ok (value : α) : FailsWith property (.ok value) :=
  fun _ failed => nomatch failed

theorem error {cause : ε} (holds : property cause) :
    FailsWith property (.error cause : Except ε α) := by
  rintro _ ⟨⟩
  exact holds

theorem bind {step : Except ε α} {next : α → Except ε β} (first : FailsWith property step)
    (later : ∀ value, FailsWith property (next value)) : FailsWith property (step >>= next) := by
  intro cause failed
  rcases bind_eq_error_iff.1 failed with here | ⟨value, -, there⟩
  · exact first cause here
  · exact later value cause there

theorem mapError {step : Except ε' α} {image : ε' → ε} (holds : ∀ cause, property (image cause)) :
    FailsWith property (step.mapError image) := by
  intro cause failed
  obtain ⟨inner, -, rfl⟩ := mapError_eq_error_iff.1 failed
  exact holds inner

end FailsWith

end Bindery.Steps

namespace Bindery

/-- A fault of what a run reads: a source that cannot be loaded or holds no description, or a
configuration that lacks something. -/
inductive Fault.OfInput : Fault → Prop where
  | load (source : String) (cause : Option Cause) : OfInput (.load source cause)
  | invalidDocument (source : String) (issues : List String) :
      OfInput (.invalidDocument source issues)
  | configuration (message : String) (file field : Option String) :
      OfInput (.configuration message file field)

end Bindery

namespace Bindery.Loading

open Bindery.Api Bindery.Data Bindery.Files Bindery.Steps

/-! ## Errors of loading -/

/-- An error of loading is reported as a fault of the input, or not as a fault. -/
def LoadError.OfInput : LoadError → Prop
  | .fault reported => reported.OfInput
  | _ => True

theorem failsWith_parse (source : String) (format : DataFormat) (text : String) :
    FailsWith LoadError.OfInput (parse source format text) := by
  cases format with
  | json =>
      refine .mapError fun cause => ?_
      cases cause with
      | flaw kind position => exact .load _ _
      | unrepresentable flaw => trivial
      | halfPair => exact .invalidDocument _ _
  | yaml =>
      refine .mapError fun cause => ?_
      cases cause with
      | malformed => exact .load _ _
      | unrepresentable flaw => trivial
      | halfPair => exact .invalidDocument _ _

theorem failsWith_accept (source : String) (content : Value) :
    FailsWith LoadError.OfInput (accept source content) := by
  rw [accept]
  split
  · exact .ok _
  · exact .error (.invalidDocument _ _)

theorem failsWith_readSource (tree : Tree) (base : Base) (source : String) :
    FailsWith LoadError.OfInput (readSource tree base source) := by
  refine .bind (.mapError fun _ => trivial) fun found => ?_
  split
  · split
    · exact .mapError fun _ => trivial
    · exact .error (.load _ _)
  · exact .error (.load _ _)

theorem LoadError.ofInput_ofDeadEnd (source : String) (cause : Address.DeadEnd) :
    (LoadError.ofDeadEnd source cause).OfInput := by
  cases cause with
  | location => exact .load _ _
  | target => trivial
  | host => trivial

theorem failsWith_checkStatus (source : String) (address : Address) (response : Response) :
    FailsWith LoadError.OfInput (checkStatus source address response) := by
  have refused : FailsWith LoadError.OfInput
      (throw (faultOf source "HTTPStatusError" (response.report address.text)) :
        Except LoadError Unit) :=
    .error (.load _ _)
  rw [checkStatus]
  split
  · exact .ok _
  · cases response.redirection? with
    | none => exact refused
    | some location =>
        exact .bind (.mapError (LoadError.ofInput_ofDeadEnd source)) fun _ => refused

theorem failsWith_textOf (source : String) (address : Address) (response : Response) :
    FailsWith LoadError.OfInput (textOf source address response) := by
  rw [textOf]
  cases response.notAscii? with
  | some flaw => exact .error trivial
  | none =>
      exact .bind (.mapError fun _ => .load _ _) fun content =>
        .bind (failsWith_checkStatus source address response) fun _ => .mapError fun _ => trivial

/-- Whatever goes wrong while a description is loaded is reported as a fault of the input, if it is
reported as a fault. -/
theorem failsWith_load (web : Web) (tree : Tree) (base : Base) (source : String) :
    FailsWith LoadError.OfInput (load web tree base source) := by
  have readable (format : DataFormat) (text : String) : FailsWith LoadError.OfInput
      (parse source format text >>= accept source) :=
    .bind (failsWith_parse source format text) fun content => failsWith_accept source content
  rw [load]
  split
  · refine .bind (.mapError fun _ => trivial) fun address => .bind (.mapError fun _ => trivial)
      fun _ => ?_
    split
    · exact .error (.load _ _)
    · exact .bind (failsWith_textOf source _ _) fun text => readable _ text
  · exact .bind (failsWith_readSource tree base source) fun text => readable _ text

/-- A file in YAML in the working directory describes what its text does. -/
theorem load_of_yaml {web : Web} {tree : Tree} {directory : Path} {source text : String}
    (fileName : Tree.IsFileName source) (noUrl : isUrl source = false)
    (isYaml : DataFormat.ofSuffix (Path.parse source).suffix = .yaml)
    (held : tree.nodes.lookup [source] = some (.file (.text text))) :
    load web tree ⟨directory, none⟩ source =
      parse source .yaml (String.ofList (plainLineEnds text.toList)) >>= accept source := by
  have path : Base.inTree ⟨directory, none⟩ (Path.parse source) = ⟨"", [source]⟩ := by
    rw [fileName.parse_eq]
    rfl
  have read : readSource tree ⟨directory, none⟩ source =
      .ok (String.ofList (plainLineEnds text.toList)) := by
    simp only [readSource, path, Tree.exists?_of_held fileName held,
      Tree.content_of_held fileName held]
    rfl
  simp only [load, noUrl, loadFile, read, isYaml, Bool.false_eq_true, if_false, bind, Except.bind]

end Bindery.Loading

namespace Bindery.Run

open Bindery.Api Bindery.Client Bindery.Code Bindery.Files Bindery.Loading Bindery.Plan
  Bindery.Steps

/-! ## Actions that end a run -/

namespace Action

variable {α β : Type} {tree after : Tree} {error : Error}

/-- An action on a tree ends the run with an error and leaves another tree. -/
def Ends (action : Action α) (tree : Tree) (error : Error) (after : Tree) : Prop :=
  action.run.run tree = (.error error, after)

/-- Two actions in turn end with the first, or with the second on the tree that the first leaves. -/
theorem ends_bind_iff {action : Action α} {next : α → Action β} :
    Ends (action >>= next) tree error after ↔
      action.Ends tree error after ∨
        ∃ value between, action.Gives tree value between ∧
          (next value).Ends between error after := by
  simp only [Ends, Gives]
  rw [ExceptT.run_bind, StateT.run_bind]
  rcases action.run.run tree with ⟨cause | value, between⟩
  · constructor
    · intro ended
      cases ended
      exact .inl rfl
    · rintro (ended | ⟨_, _, done, -⟩)
      · cases ended
        rfl
      · cases done
  · constructor
    · exact fun ended => .inr ⟨value, between, rfl, ended⟩
    · rintro (ended | ⟨_, _, done, ended⟩)
      · cases ended
      · cases done
        exact ended

/-- A computation without a tree ends a run without changing the tree. -/
theorem ends_liftM_iff {step : Except Error α} :
    Ends (liftM step) tree error after ↔ step = .error error ∧ tree = after := by
  cases step with
  | error cause =>
      constructor
      · intro ended
        cases ended
        exact ⟨rfl, rfl⟩
      · rintro ⟨same, rfl⟩
        cases same
        rfl
  | ok value =>
      constructor
      · intro ended
        cases ended
      · rintro ⟨failed, -⟩
        cases failed

theorem ends_liftM_bind_iff {step : Except Error α} {next : α → Action β} :
    Ends (liftM step >>= next) tree error after ↔
      (step = .error error ∧ tree = after) ∨
        ∃ value, step = .ok value ∧ (next value).Ends tree error after := by
  rw [ends_bind_iff, ends_liftM_iff]
  refine or_congr_right ⟨?_, ?_⟩
  · rintro ⟨value, between, lifted, ended⟩
    obtain ⟨found, rfl⟩ := gives_liftM_iff.1 lifted
    exact ⟨value, found, ended⟩
  · rintro ⟨value, found, ended⟩
    exact ⟨value, tree, gives_liftM_iff.2 ⟨found, rfl⟩, ended⟩

/-- The fault that an action ends a run for, if it does. -/
def fault? (action : Action α) (tree : Tree) : Option Fault :=
  match (action.run.run tree).1 with
  | .ok _ => none
  | .error error => error.fault?

theorem exists_ends {action : Action α} {fault : Fault} (found : action.fault? tree = some fault) :
    ∃ error after, action.Ends tree error after ∧ error.fault? = some fault := by
  simp only [fault?] at found
  split at found
  · cases found
  · next error ended => exact ⟨error, _, Prod.ext ended rfl, found⟩

end Action

variable {compiler : Compiler} {tree after : Tree} {error : Error} {destination : Destination}

theorem ends_change_iff {update : Tree → Except Files.Error Tree} :
    (change destination update).Ends tree error after ↔
      ∃ cause, update tree = .error cause ∧ error = outputError destination cause ∧
        tree = after := by
  simp only [change]
  constructor
  · intro ended
    rcases Action.ends_bind_iff.1 ended with ended | ⟨_, _, here, ended⟩
    · cases ended
    · cases here
      split at ended
      · cases ended
      · next cause failed =>
          cases ended
          exact ⟨cause, failed, rfl, rfl⟩
  · rintro ⟨cause, failed, rfl, rfl⟩
    refine Action.ends_bind_iff.2 (.inr ⟨tree, tree, rfl, ?_⟩)
    rw [failed]
    rfl

theorem exists_outputError_of_ends_writeText {text : String}
    (ended : (writeText destination text).Ends tree error after) :
    ∃ cause, error = outputError destination cause := by
  simp only [writeText] at ended
  rcases Action.ends_bind_iff.1 ended with prepare | ⟨_, _, -, ended⟩
  · obtain ⟨cause, -, same, -⟩ := ends_change_iff.1 prepare
    exact ⟨cause, same⟩
  · rcases Action.ends_bind_iff.1 ended with store | ⟨_, _, -, ended⟩
    · obtain ⟨cause, -, same, -⟩ := ends_change_iff.1 store
      exact ⟨cause, same⟩
    · cases ended

/-- What is reported about a module that is not valid. -/
def invalidModule (destination : Destination) : Fault :=
  .generation "Generated module is not valid Python" (some destination.text) none

/-- How the write of a file ends early.  Its code is checked before anything is written. -/
inductive ClientFile.Fails (compiler : Compiler) (file : ClientFile) (tree : Tree) :
    Error → Tree → Prop where
  | unwritable {module : Module} {cause : Unwritable} :
      file.code = .module module → module.flaw? = some cause →
      Fails compiler file tree (.unwritable cause) tree
  | invalid {module : Module} :
      file.code = .module module → module.flaw? = none → module.compiles compiler = false →
      Fails compiler file tree (.fault (invalidModule file.destination)) tree
  | output {cause : Files.Error} {after : Tree} :
      (writeText file.destination file.text).Ends tree (outputError file.destination cause) after →
      Fails compiler file tree (outputError file.destination cause) after

theorem ClientFile.fails_of_ends_write {file : ClientFile}
    (ended : (file.write compiler).Ends tree error after) :
    ClientFile.Fails compiler file tree error after := by
  obtain ⟨destination, code⟩ := file
  cases code with
  | runtime url =>
      obtain ⟨cause, rfl⟩ := exists_outputError_of_ends_writeText ended
      exact .output ended
  | module module =>
      simp only [ClientFile.write, writeModule] at ended
      cases flaw : module.flaw? with
      | some cause =>
          rw [flaw] at ended
          cases ended
          exact .unwritable rfl flaw
      | none =>
          rw [flaw] at ended
          cases compiled : module.compiles compiler with
          | false =>
              rw [compiled] at ended
              cases ended
              exact .invalid rfl flaw compiled
          | true =>
              rw [compiled] at ended
              obtain ⟨cause, rfl⟩ := exists_outputError_of_ends_writeText ended
              exact .output ended

/-! ## Runs that end -/

variable {settings : Settings} {document : Document}

/-- How generating from a description ends early: before the directory is made, for the models,
for the operations, or in the write of a file after those before it have been written.  The
operations have been looked at by the time a second file is written. -/
inductive Stops (compiler : Compiler) (settings : Settings) (document : Document) (tree : Tree) :
    Error → Tree → Prop where
  | url {error : Error} : baseUrl settings document = .error error →
      Stops compiler settings document tree error tree
  | store {cause : StoreError} : Destination.parse settings.output = .error cause →
      Stops compiler settings document tree (.store cause) tree
  | directory {directory : Destination} {cause : Files.Error} :
      Destination.parse settings.output = .ok directory → tree.prepare directory = .error cause →
      Stops compiler settings document tree (outputError directory cause) tree
  | models {directory : Destination} {prepared : Tree} {cause : ModelError} :
      Destination.parse settings.output = .ok directory →
      tree.prepare directory = .ok prepared → modelsOf document = .error cause →
      Stops compiler settings document tree (.ofModels cause) prepared
  | coverage {directory : Destination} {models : List Model} {prepared after : Tree}
      {cause : PlanError} :
      Destination.parse settings.output = .ok directory → modelsOf document = .ok models →
      tree.prepare directory = .ok prepared →
      WritesAll compiler
        [⟨directory.join (.parse settings.modelsFile), .module (modelsModule models)⟩]
        prepared after →
      coverageOf settings document = .error cause →
      Stops compiler settings document tree (.ofPlan cause) after
  | file {url : String} {directory : Destination} {models : List Model}
      {codes : List OperationCode} {prepared between after : Tree} {before later : List ClientFile}
      {file : ClientFile} {error : Error} :
      baseUrl settings document = .ok url → Destination.parse settings.output = .ok directory →
      modelsOf document = .ok models → tree.prepare directory = .ok prepared →
      (before ≠ [] → ∃ failures, coverageOf settings document = .ok ⟨codes, failures⟩) →
      (clientFiles settings document directory models codes url).inOrder =
        before ++ file :: later →
      WritesAll compiler before prepared between →
      ClientFile.Fails compiler file between error after →
      Stops compiler settings document tree error after

theorem stops_of_ends_generateFrom
    (ended : (generateFrom compiler settings document).Ends tree error after) :
    Stops compiler settings document tree error after := by
  simp only [generateFrom, produce] at ended
  rcases Action.ends_liftM_bind_iff.1 ended with ⟨missing, rfl⟩ | ⟨url, found, ended⟩
  · exact .url missing
  rcases Action.ends_liftM_bind_iff.1 ended with ⟨failed, rfl⟩ | ⟨directory, parsed, ended⟩
  · obtain ⟨cause, unknown, rfl⟩ := mapError_eq_error_iff.1 failed
    exact .store unknown
  have parsed := mapError_eq_ok_iff.1 parsed
  rcases Action.ends_bind_iff.1 ended with ended | ⟨_, prepared, changed, ended⟩
  · obtain ⟨cause, failed, rfl, rfl⟩ := ends_change_iff.1 ended
    exact .directory parsed failed
  have ready := gives_change_iff.1 changed
  rcases Action.ends_liftM_bind_iff.1 ended with ⟨failed, rfl⟩ | ⟨models, made, ended⟩
  · obtain ⟨cause, unmapped, rfl⟩ := mapError_eq_error_iff.1 failed
    exact .models parsed ready unmapped
  have made := mapError_eq_ok_iff.1 made
  rcases Action.ends_bind_iff.1 ended with ended | ⟨_, first, modelsWritten, ended⟩
  · -- The operations are not known yet, and what there will be for them does not matter.
    let files := clientFiles settings document directory models [] url
    have order : files.inOrder =
        [] ++ files.models :: [files.endpoints, files.runtime, files.package] := rfl
    exact .file found parsed made ready (fun some_file => absurd rfl some_file) order .nil
      (ClientFile.fails_of_ends_write ended)
  cases (gives_writeText_iff.1 (gives_writeModule_iff.1 modelsWritten).2).1
  rcases Action.ends_liftM_bind_iff.1 ended with ⟨failed, rfl⟩ | ⟨coverage, covered, ended⟩
  · obtain ⟨cause, uncovered, rfl⟩ := mapError_eq_error_iff.1 failed
    exact .coverage parsed made ready (.consModule modelsWritten .nil) uncovered
  have known : ∃ failures, coverageOf settings document = .ok ⟨coverage.codes, failures⟩ :=
    ⟨coverage.failures, mapError_eq_ok_iff.1 covered⟩
  let files := clientFiles settings document directory models coverage.codes url
  have stops {before later : List ClientFile} {file : ClientFile} {between : Tree}
      (order : files.inOrder = before ++ file :: later)
      (written : WritesAll compiler before prepared between)
      (ended : (file.write compiler).Ends between error after) :
      Stops compiler settings document tree error after :=
    .file found parsed made ready (fun _ => known) order written
      (ClientFile.fails_of_ends_write ended)
  rcases Action.ends_bind_iff.1 ended with ended | ⟨_, second, endpointsWritten, ended⟩
  · have order : files.inOrder =
        [files.models] ++ files.endpoints :: [files.runtime, files.package] := rfl
    exact stops order (.consModule modelsWritten .nil) ended
  cases (gives_writeText_iff.1 (gives_writeModule_iff.1 endpointsWritten).2).1
  rcases Action.ends_bind_iff.1 ended with ended | ⟨_, third, runtimeWritten, ended⟩
  · have order : files.inOrder =
        [files.models, files.endpoints] ++ files.runtime :: [files.package] := rfl
    exact stops order (.consModule modelsWritten (.consModule endpointsWritten .nil)) ended
  cases (gives_writeText_iff.1 runtimeWritten).1
  rcases Action.ends_bind_iff.1 ended with ended | ⟨_, fourth, packageWritten, ended⟩
  · have order : files.inOrder =
        [files.models, files.endpoints, files.runtime] ++ files.package :: [] := rfl
    exact stops order
      (.consModule modelsWritten (.consModule endpointsWritten (.consRuntime runtimeWritten .nil)))
      ended
  · cases ended

/-! ## What a failed run leaves -/

/-- What is wrong with a destination is reported as a fault of the output, if it is one. -/
theorem fault?_outputError {cause : Files.Error} {fault : Fault}
    (reported : (outputError destination cause).fault? = some fault) :
    ∃ path cause, fault = .output path cause := by
  simp only [outputError] at reported
  split at reported
  · cases reported
    exact ⟨_, _, rfl⟩
  · cases reported

/-- Only an operation without a name keeps a run from looking at all of them. -/
theorem fault?_of_coverageOf {cause : PlanError}
    (failed : coverageOf settings document = .error cause) :
    (Error.ofPlan cause).fault? = none := by
  have planned := map_eq_error_iff.1 failed
  by_cases wanting : ∃ operation ∈ document.operations,
      Nameless (.ofDocument settings.variant document) operation
  · cases (planAll_of_nameless wanting).symm.trans planned
    rfl
  · obtain ⟨verdicts, done, -⟩ := exists_planAll_eq_ok fun operation member nameless =>
      wanting ⟨operation, member, nameless⟩
    cases done.symm.trans planned

theorem baseUrl_eq_error (failed : baseUrl settings document = .error error) :
    ∃ message file field, error = .fault (.configuration message file field) := by
  simp only [baseUrl] at failed
  split at failed
  · cases failed
  · cases failed
  · cases failed
    exact ⟨_, _, _, rfl⟩

/-- Generating ends early with the load of the description, which changes nothing, or with what is
generated from it. -/
theorem ends_generate_iff {around : Surroundings} :
    (generate around settings).Ends tree error after ↔
      (∃ cause, load around.web tree ⟨around.workingDirectory, none⟩ settings.source =
        .error cause ∧ error = .load cause ∧ after = tree) ∨
      ∃ document, load around.web tree ⟨around.workingDirectory, none⟩ settings.source =
        .ok document ∧ (generateFrom around.compiler settings document).Ends tree error after := by
  simp only [generate]
  constructor
  · intro ended
    rcases Action.ends_bind_iff.1 ended with ended | ⟨_, _, here, ended⟩
    · cases ended
    cases here
    rcases Action.ends_liftM_bind_iff.1 ended with ⟨failed, rfl⟩ | ⟨document, loaded, ended⟩
    · obtain ⟨cause, unloaded, rfl⟩ := mapError_eq_error_iff.1 failed
      exact .inl ⟨cause, unloaded, rfl, rfl⟩
    · exact .inr ⟨document, mapError_eq_ok_iff.1 loaded, ended⟩
  · rintro (⟨cause, unloaded, rfl, rfl⟩ | ⟨document, loaded, ended⟩)
    · refine Action.ends_bind_iff.2 (.inr ⟨after, after, rfl, ?_⟩)
      exact Action.ends_liftM_bind_iff.2 (.inl ⟨mapError_eq_error_iff.2 ⟨_, unloaded, rfl⟩, rfl⟩)
    · refine Action.ends_bind_iff.2 (.inr ⟨tree, tree, rfl, ?_⟩)
      exact Action.ends_liftM_bind_iff.2 (.inr ⟨document, mapError_eq_ok_iff.2 loaded, ended⟩)

/-- A run has written the files of a client that come before one, the module of which is not
valid. -/
inductive WroteBefore (compiler : Compiler) (settings : Settings) (document : Document)
    (tree : Tree) : List ClientFile → ClientFile → Tree → Prop where
  | intro {url : String} {directory : Destination} {models : List Model}
      {codes : List OperationCode} {prepared after : Tree} {before later : List ClientFile}
      {file : ClientFile} {module : Module} :
      baseUrl settings document = .ok url → Destination.parse settings.output = .ok directory →
      modelsOf document = .ok models → tree.prepare directory = .ok prepared →
      (before ≠ [] → ∃ failures, coverageOf settings document = .ok ⟨codes, failures⟩) →
      (clientFiles settings document directory models codes url).inOrder =
        before ++ file :: later →
      file.code = .module module → module.flaw? = none → module.compiles compiler = false →
      WritesAll compiler before prepared after →
      WroteBefore compiler settings document tree before file after

/-- What a run leaves that ends for a fault of something other than its input. -/
inductive Leaves (compiler : Compiler) (settings : Settings) (document : Document) (tree : Tree) :
    Error → Fault → Tree → Prop where
  | output {error : Error} {path : String} {cause : Option Cause} {after : Tree} :
      Leaves compiler settings document tree error (.output path cause) after
  | directory {type reason : String} {schema property : Option String} {cause : ModelError}
      {directory : Destination} {after : Tree} :
      modelsOf document = .error cause → Destination.parse settings.output = .ok directory →
      tree.prepare directory = .ok after →
      Leaves compiler settings document tree (.ofModels cause)
        (.unmappableType type reason schema property) after
  | before {error : Error} {before : List ClientFile} {file : ClientFile} {after : Tree} :
      WroteBefore compiler settings document tree before file after →
      Leaves compiler settings document tree error (invalidModule file.destination) after

theorem Stops.leaves (stops : Stops compiler settings document tree error after) {fault : Fault}
    (reported : error.fault? = some fault) :
    (fault.OfInput ∧ after = tree) ∨ Leaves compiler settings document tree error fault after := by
  cases stops with
  | url missing =>
      obtain ⟨message, file, field, rfl⟩ := baseUrl_eq_error missing
      cases reported
      exact .inl ⟨.configuration message file field, rfl⟩
  | store => cases reported
  | directory =>
      obtain ⟨path, cause, rfl⟩ := fault?_outputError reported
      exact .inr .output
  | @models _ _ cause parsed ready unmapped =>
      cases cause with
      | emptyName => cases reported
      | unmappable =>
          cases reported
          exact .inr (.directory unmapped parsed ready)
  | coverage _ _ _ _ uncovered =>
      rw [fault?_of_coverageOf uncovered] at reported
      cases reported
  | file found parsed made ready known order written fails =>
      cases fails with
      | unwritable => cases reported
      | invalid isModule flawless invalid =>
          cases reported
          exact .inr (.before (.intro found parsed made ready known order isModule flawless invalid
            written))
      | output =>
          obtain ⟨path, cause, rfl⟩ := fault?_outputError reported
          exact .inr .output

/-- A run that ends for a fault of its input changes nothing; otherwise a description has been
loaded. -/
theorem leaves_of_ends_generate {around : Surroundings} {fault : Fault}
    (ended : (generate around settings).Ends tree error after)
    (reported : error.fault? = some fault) :
    (fault.OfInput ∧ after = tree) ∨
      ∃ document,
        load around.web tree ⟨around.workingDirectory, none⟩ settings.source = .ok document ∧
        Leaves around.compiler settings document tree error fault after := by
  rcases ends_generate_iff.1 ended with ⟨cause, unloaded, rfl, same⟩ | ⟨document, loaded, ended⟩
  · have ofInput := failsWith_load _ _ _ _ cause unloaded
    cases cause with
    | fault inner =>
        cases reported
        exact .inl ⟨ofInput, same⟩
    | _ => cases reported
  · have leaves := (stops_of_ends_generateFrom ended).leaves reported
    exact leaves.imp_right fun leaves => ⟨document, loaded, leaves⟩

/-- What a run that fails leaves behind.  After a fault of the input nothing has changed.  After a
property of a schema that has no annotation no file has, and the directory is there.  After a module
that is not valid the files before it have been written, and no other file has changed. -/
theorem failed_run_leaves {around : Surroundings} {fault : Fault}
    (ended : (generate around settings).Ends tree error after)
    (reported : error.fault? = some fault) :
    (fault.OfInput → after = tree) ∧
    (∀ type reason schema property, fault = .unmappableType type reason schema property →
      ∃ document directory cause,
        load around.web tree ⟨around.workingDirectory, none⟩ settings.source = .ok document ∧
        modelsOf document = .error cause ∧ error = .ofModels cause ∧
        Destination.parse settings.output = .ok directory ∧ tree.prepare directory = .ok after ∧
        ∀ spot, after.held? spot = tree.held? spot) ∧
    (∀ message during cause, fault = .generation message during cause →
      ∃ document before file,
        load around.web tree ⟨around.workingDirectory, none⟩ settings.source = .ok document ∧
        fault = invalidModule file.destination ∧
        WroteBefore around.compiler settings document tree before file after ∧
        ∀ spot, after.held? spot =
          ((last? before spot).map fun file => .text file.text).or (tree.held? spot)) := by
  rcases leaves_of_ends_generate ended reported with ⟨ofInput, rfl⟩ | ⟨document, loaded, leaves⟩
  · refine ⟨fun _ => rfl, ?_, ?_⟩
    · rintro _ _ _ _ rfl
      cases ofInput
    · rintro _ _ _ rfl
      cases ofInput
  · cases leaves with
    | output => exact ⟨nofun, nofun, nofun⟩
    | @directory _ _ _ _ cause directory _ unmapped parsed ready =>
        refine ⟨nofun, fun _ _ _ _ _ => ?_, nofun⟩
        exact ⟨document, directory, cause, loaded, unmapped, rfl, parsed, ready,
          Tree.held?_of_prepare ready⟩
    | @before _ before file _ wrote =>
        refine ⟨nofun, nofun, fun _ _ _ _ => ⟨document, before, file, loaded, rfl, wrote, ?_⟩⟩
        intro spot
        cases wrote with
        | intro _ _ _ ready _ _ _ _ _ written =>
            rw [written.held?_eq, Tree.held?_of_prepare ready]

/-- A file that describes one operation, the second function of which would have a word of the
language for its name. -/
def songTree : Tree where
  nodes := [(["song.yml"], .file (.text "baseUrl: https://a.test\noperations:\n- name: s\n"))]

/-- Settings for the client of that description. -/
def songSettings : Settings where
  source := "song.yml"
  output := "memory:/song"

/-- The surroundings of its run. -/
def songSurroundings : Surroundings where
  workingDirectory := ⟨"/", ["songs"]⟩

theorem exists_ends_song :
    ∃ error after, (generate songSurroundings songSettings).Ends songTree error after ∧
      error.fault? = some (invalidModule ⟨.memory, ⟨"/", ["song", "endpoints.py"]⟩⟩) := by
  have read : ((parse "song.yml" .yaml
      (String.ofList (plainLineEnds "baseUrl: https://a.test\noperations:\n- name: s\n".toList)) >>=
        accept "song.yml").toOption.map fun document =>
          (generateFrom .strict songSettings document).fault? songTree) =
      some (some (invalidModule ⟨.memory, ⟨"/", ["song", "endpoints.py"]⟩⟩)) := by
    decide +kernel
  obtain ⟨document, loaded, found⟩ := toOption_map_eq_some_iff.1 read
  obtain ⟨error, after, ended, reported⟩ := Action.exists_ends found
  refine ⟨error, after, ends_generate_iff.2 (.inr ⟨document, ?_, ended⟩), reported⟩
  rw [← loaded]
  have fileName : Tree.IsFileName "song.yml" :=
    ⟨by decide, by simp, by simp, by decide, by decide⟩
  exact load_of_yaml fileName (by decide +kernel) (by decide +kernel) List.lookup_cons_self

/-- The run for the song ends in the write of its endpoints module. -/
theorem song_run_leaves :
    ∃ error after document before file,
      (generate songSurroundings songSettings).Ends songTree error after ∧
      error.fault? = some (invalidModule ⟨.memory, ⟨"/", ["song", "endpoints.py"]⟩⟩) ∧
      file.destination.text = "memory://song/endpoints.py" ∧
      WroteBefore .strict songSettings document songTree before file after ∧
      ∀ spot, after.held? spot =
        ((last? before spot).map fun file => .text file.text).or (songTree.held? spot) := by
  obtain ⟨error, after, ended, reported⟩ := exists_ends_song
  obtain ⟨-, -, invalid⟩ := failed_run_leaves ended reported
  obtain ⟨document, before, file, -, same, wrote, held⟩ := invalid _ _ _ rfl
  simp only [invalidModule, Fault.generation.injEq, Option.some.injEq] at same
  have text : file.destination.text = "memory://song/endpoints.py" := by
    rw [← same.2.1]
    decide +kernel
  exact ⟨error, after, document, before, file, ended, reported, text, wrote, held⟩

end Bindery.Run
