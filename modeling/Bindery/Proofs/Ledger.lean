import Bindery.Proofs.Writes

/-!
# What writes leave behind

A run is a list of files that are written one after the other.  Where the file of a path is does not
depend on what is there, so a write changes what one file holds and nothing else, and making
directories changes the content of none.  By induction over the list, what a file holds in the end
is what was written to it last, or what it held before.
-/

namespace Bindery.Files

/-! ## Where the file of a path is -/

/-- The place that names lead to from a place, whatever is there. -/
def follow (place : List String) : List String → List String
  | [] => place
  | name :: rest =>
    if name = ".." then follow (Tree.above place) rest else follow (place ++ [name]) rest

/-- The spot of a destination, whatever is there. -/
def Destination.spot : Destination → Spot
  | ⟨.disk, path⟩ => (.disk, follow (if path.isAbsolute then ["/"] else []) path.parts)
  | ⟨.memory, path⟩ => (.memory, path.parts)

/-- What a file holds. A directory holds nothing. -/
def Node.content? : Node → Option Content
  | file content => some content
  | directory => none

namespace Tree

variable {tree after : Tree} {destination : Destination} {spot : Spot} {text : String}

theorem walk_eq_follow {place names found : List String}
    (leads : tree.walk place names = .ok found) : found = follow place names := by
  induction names generalizing place with
  | nil =>
      cases leads
      rfl
  | cons name rest ih =>
      rw [walk] at leads
      rw [follow]
      split at leads
      · next up =>
          rw [if_pos up]
          exact ih leads
      · next down =>
          rw [if_neg down]
          split at leads
          · cases leads
          · dsimp only at leads
            split at leads
            · exact ih leads
            · split at leads
              · next last =>
                  cases leads
                  rw [last]
                  rfl
              · cases leads
            · split at leads
              · next last =>
                  cases leads
                  rw [last]
                  rfl
              · cases leads

theorem place_eq_follow {path : Path} {found : List String} (leads : tree.place path = .ok found) :
    found = follow (if path.isAbsolute then ["/"] else []) path.parts := by
  simp only [place] at leads
  split at leads
  · cases leads
  · split at leads
    · cases leads
    · split at leads
      · next absolute =>
          rw [if_pos absolute]
          exact walk_eq_follow leads
      · next relative =>
          rw [if_neg relative]
          exact walk_eq_follow leads

/-! ## What files hold -/

/-- What the file at a spot holds. -/
def held? (tree : Tree) : Spot → Option Content
  | (.disk, place) => (tree.node? place).bind Node.content?
  | (.memory, names) => (tree.memory.lookup names).map .text

theorem held?_put_directory {place : List String} (free : tree.node? place = none) (spot : Spot) :
    (tree.put place .directory).held? spot = tree.held? spot := by
  obtain ⟨store, names⟩ := spot
  cases store with
  | disk =>
      simp only [held?]
      rw [node?_put]
      split
      · next same =>
          rw [same.1, free]
          rfl
      · rfl
  | memory => simp only [held?, memory_put]

theorem held?_of_makeDirectory {path : Path} (made : tree.makeDirectory path = .ok after)
    (spot : Spot) : after.held? spot = tree.held? spot := by
  simp only [makeDirectory] at made
  split at made
  · cases made
  · split at made
    · cases made
    · next free =>
        cases made
        exact held?_put_directory free spot

theorem held?_of_ensureDirectory {path : Path} (done : tree.ensureDirectory path = .ok after)
    (spot : Spot) : after.held? spot = tree.held? spot := by
  simp only [ensureDirectory] at done
  split at done
  · next made =>
      cases done
      exact held?_of_makeDirectory made spot
  · split at done
    · cases done
      rfl
    · cases done

theorem held?_of_ensureAll {root : String} {names : List String}
    (done : tree.ensureAll root names = .ok after) (spot : Spot) :
    after.held? spot = tree.held? spot := by
  induction names generalizing after with
  | nil => exact held?_of_ensureDirectory done spot
  | cons name before ih =>
      simp only [ensureAll] at done
      split at done
      · split at done
        · next made above => exact (held?_of_ensureDirectory done spot).trans (ih above)
        · cases done
      · exact held?_of_ensureDirectory done spot

/-- Making directories changes the content of no file. -/
theorem held?_of_prepare (done : tree.prepare destination = .ok after) (spot : Spot) :
    after.held? spot = tree.held? spot := by
  simp only [prepare] at done
  split at done
  · exact held?_of_ensureAll done spot
  · cases done
    rfl

/-- A text that is stored is held at the spot of its destination, and every other file holds what it
held before. -/
theorem held?_of_store (done : tree.store destination text = .ok after) (spot : Spot) :
    after.held? spot = if spot = destination.spot then some (.text text) else tree.held? spot := by
  obtain ⟨store, names⟩ := spot
  obtain ⟨kind, path⟩ := destination
  cases kind with
  | disk =>
      simp only [Tree.store, write] at done
      split at done
      · cases done
      · next place leads =>
          have here := place_eq_follow leads
          split at done
          · cases done
          · next noDirectory =>
              cases done
              have free : isGiven place = false := by
                by_contra given
                exact noDirectory (if_pos (Bool.not_eq_false _ ▸ given))
              cases store with
              | disk =>
                  simp only [held?, Destination.spot, Prod.mk.injEq, true_and, ← here]
                  rw [node?_put]
                  simp only [free, and_true]
                  split <;> rfl
              | memory => simp [held?, Destination.spot]
  | memory =>
      cases done
      cases store with
      | disk => simp [held?, node?, Destination.spot]
      | memory =>
          simp only [held?, Destination.spot, Prod.mk.injEq, true_and]
          rw [lookup_kept]
          split <;> rfl

end Tree

end Bindery.Files

namespace Bindery.Run

open Bindery.Api Bindery.Client Bindery.Code Bindery.Files Bindery.Plan Bindery.Steps

/-! ## Files that are written in turn -/

/-- The code of a file: a module, or the runtime module of a client with a base URL. -/
inductive FileCode where
  | module (module : Module)
  | runtime (url : String)

/-- A file that a run writes. -/
structure ClientFile where
  destination : Destination
  code : FileCode

namespace ClientFile

/-- The text of a file. -/
def text (file : ClientFile) : String :=
  match file.code with
  | .module module => module.render ++ "\n"
  | .runtime url => runtimeText url

/-- The spot of a file. -/
def spot (file : ClientFile) : Spot := file.destination.spot

/-- Writes a file. -/
def write (compiler : Compiler) (file : ClientFile) : Action Destination :=
  match file.code with
  | .module module => writeModule compiler file.destination module
  | .runtime url => writeText file.destination (runtimeText url)

end ClientFile

/-- The file that is the last one to be written to a spot. -/
def last? : List ClientFile → Spot → Option ClientFile
  | [], _ => none
  | file :: later, spot => (last? later spot).or (if file.spot = spot then some file else none)

/-- Files are written one after the other, each to the tree that the one before it leaves. -/
inductive WritesAll (compiler : Compiler) : List ClientFile → Tree → Tree → Prop where
  | nil {tree : Tree} : WritesAll compiler [] tree tree
  | cons {file : ClientFile} {rest : List ClientFile} {tree between after : Tree} :
      (file.write compiler).Gives tree file.destination between →
      WritesAll compiler rest between after →
      WritesAll compiler (file :: rest) tree after

section

variable {compiler : Compiler} {tree after : Tree} {path : Destination} {file : ClientFile}
  {files before later : List ClientFile} {spot : Spot}

theorem writeText_of_gives_write (done : (file.write compiler).Gives tree path after) :
    (writeText file.destination file.text).Gives tree path after := by
  obtain ⟨destination, code⟩ := file
  cases code with
  | module module => exact (gives_writeModule_iff.1 done).2
  | runtime url => exact done

/-- A file that is written holds its text, and all others hold what they held before. -/
theorem held?_of_gives_write (done : (file.write compiler).Gives tree path after) (spot : Spot) :
    after.held? spot = if spot = file.spot then some (.text file.text) else tree.held? spot := by
  obtain ⟨-, prepared, ready, stored⟩ := gives_writeText_iff.1 (writeText_of_gives_write done)
  rw [Tree.held?_of_store stored, Tree.held?_of_prepare ready]
  rfl

namespace WritesAll

theorem consModule {destination : Destination} {module : Module} {between : Tree}
    (first : (writeModule compiler destination module).Gives tree destination between)
    (rest : WritesAll compiler files between after) :
    WritesAll compiler (⟨destination, .module module⟩ :: files) tree after :=
  .cons first rest

theorem consRuntime {destination : Destination} {url : String} {between : Tree}
    (first : (writeText destination (runtimeText url)).Gives tree destination between)
    (rest : WritesAll compiler files between after) :
    WritesAll compiler (⟨destination, .runtime url⟩ :: files) tree after :=
  .cons first rest

/-- What a file holds in the end is what was written to it last, or what it held before. -/
theorem held?_eq (written : WritesAll compiler files tree after) (spot : Spot) :
    after.held? spot =
      ((last? files spot).map fun file => .text file.text).or (tree.held? spot) := by
  induction written with
  | nil => rfl
  | cons first _ ih =>
      rw [ih, held?_of_gives_write first, last?]
      cases last? _ spot with
      | some later => rfl
      | none =>
          simp only [Option.map_none, Option.none_or, eq_comm]
          split <;> rfl

end WritesAll

end

/-! ## The files of a client -/

/-- The files of a client. -/
structure ClientFiles where
  models : ClientFile
  endpoints : ClientFile
  runtime : ClientFile
  package : ClientFile

/-- The files of a client in the order in which they are written. -/
def ClientFiles.inOrder (files : ClientFiles) : List ClientFile :=
  [files.models, files.endpoints, files.runtime, files.package]

/-- The files of a client, given what it has for the schemas and operations of a description. -/
def clientFiles (settings : Settings) (document : Document) (directory : Destination)
    (models : List Model) (codes : List OperationCode) (url : String) : ClientFiles where
  models := ⟨directory.join (.parse settings.modelsFile), .module (modelsModule models)⟩
  endpoints := ⟨directory.join (.parse settings.endpointsFile), .module (endpointsModule codes)⟩
  runtime := ⟨directory.join (.parse "_runtime.py"), .runtime url⟩
  package := ⟨directory.join (.parse "__init__.py"), .module
    (packageModule document.title (moduleName settings.modelsFile)
      (moduleName settings.endpointsFile) (models.map (·.name)) (endpointNames codes))⟩

variable {compiler : Compiler} {settings : Settings} {document : Document} {tree after : Tree}
  {result : Result}

/-- A run that gives a result makes its directory and writes its files in turn. -/
theorem exists_writesAll
    (done : (generateFrom compiler settings document).Gives tree result after) :
    ∃ coverage models url directory prepared,
      coverageOf settings document = .ok coverage ∧ modelsOf document = .ok models ∧
      baseUrl settings document = .ok url ∧ Destination.parse settings.output = .ok directory ∧
      tree.prepare directory = .ok prepared ∧
      WritesAll compiler (clientFiles settings document directory models coverage.codes url).inOrder
        prepared after ∧
      result.files =
        (clientFiles settings document directory models coverage.codes url).inOrder.map
          (·.destination) := by
  obtain ⟨coverage, covered, -, written⟩ := gives_generateFrom done
  generalize result.files = files at written
  obtain ⟨found, parsed, made, changed, models, endpoints, runtime, package⟩ := written
  -- Every write answers with the destination that it was given.
  cases (gives_writeText_iff.1 (gives_writeModule_iff.1 models).2).1
  cases (gives_writeText_iff.1 (gives_writeModule_iff.1 endpoints).2).1
  cases (gives_writeText_iff.1 runtime).1
  cases (gives_writeText_iff.1 (gives_writeModule_iff.1 package).2).1
  refine ⟨coverage, _, _, _, _, covered, made, found, parsed, gives_change_iff.1 changed, ?_, rfl⟩
  exact .consModule models (.consModule endpoints (.consRuntime runtime (.consModule package .nil)))

end Bindery.Run
