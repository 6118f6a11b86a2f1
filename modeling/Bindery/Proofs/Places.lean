import Bindery.Proofs.Exports
import Bindery.Proofs.Ledger
import Bindery.Proofs.Paths

/-!
# Where the modules of a client are

A relative import names a module by the last name of its file without the suffix, and the file is
written wherever the settings say.  The two come together if the settings give a plain file name
that ends in the suffix of modules, is not that of a file written later, and has no rival beside it
that goes before it.  In other cases what is imported may not be there: no file is where its module
should be, or a file that was written over that module.
-/

namespace Bindery.Code

/-- The ends of files that hold compiled modules. -/
def compiledSuffixes : List String := [".cpython-311-x86_64-linux-gnu.so", ".abi3.so", ".so"]

/-- The ends of files that hold modules, in the order in which they are tried. -/
def moduleSuffixes : List String := compiledSuffixes ++ [".py", ".pyc"]

/-- The files that can hold the module to which names lead from a directory, in the order in which
they are tried.  A package goes before a module of its name. -/
def moduleFiles (names : List String) : List Files.Path :=
  moduleSuffixes.map (fun suffix => ⟨"", names ++ ["__init__" ++ suffix]⟩) ++
    match names.getLast? with
    | none => []
    | some name => moduleSuffixes.map fun suffix => ⟨"", names.dropLast ++ [name ++ suffix]⟩

/-- A file that is called after its module: what stands before the suffix is an identifier, in the
form in which identifiers are compared. -/
structure IsFileOf (file name : String) : Prop where
  spelled : file = name ++ ".py"
  identifier : Text.isIdentifier name = true
  canonical : Text.canonicalName name = name

namespace IsFileOf

variable {file name : String}

/-- An identifier has no character that means something in a path or in a module name. -/
theorem undivided (called : IsFileOf file name) :
    ∀ c ∈ name.toList, c ≠ '/' ∧ c ≠ '.' ∧ isSpace c = false := by
  have outside :
      (['/', '.', ' ', '\t', '\x0c'].all fun c => ! Text.continuesIdentifier c) = true := by
    decide +kernel
  intro c member
  have inside : Text.continuesIdentifier c = true := by
    have identifier := called.identifier
    simp only [Text.isIdentifier] at identifier
    split at identifier
    · cases identifier
    · next first rest spelled =>
        simp only [Bool.and_eq_true, List.all_eq_true] at identifier
        rw [spelled, List.mem_cons] at member
        rcases member with rfl | inRest
        · simp [Text.continuesIdentifier, identifier.1]
        · exact identifier.2 c inRest
  have apart (other : Char) (known : other ∈ ['/', '.', ' ', '\t', '\x0c']) : c ≠ other := by
    rintro rfl
    have excluded := List.all_eq_true.1 outside c known
    rw [inside] at excluded
    cases excluded
  refine ⟨apart '/' (by simp), apart '.' (by simp), ?_⟩
  simp [isSpace, apart ' ' (by simp), apart '\t' (by simp), apart '\x0c' (by simp)]

theorem some_character (called : IsFileOf file name) : name ≠ "" := by
  rintro rfl
  exact absurd called.identifier (by decide)

theorem parse_eq (called : IsFileOf file name) :
    Files.Path.parse file = ⟨"", [name ++ ".py"]⟩ := by
  have undivided := called.undivided
  obtain ⟨rfl, -, -⟩ := called
  have long : (name ++ ".py").toList.length = name.toList.length + 3 := by
    rw [String.toList_append, List.length_append]
    rfl
  refine Files.Path.parse_of_undivided ?_ ?_ ?_
  · intro member
    rw [String.toList_append, List.mem_append] at member
    cases member with
    | inl inName => exact (undivided _ inName).1 rfl
    | inr inSuffix => exact absurd inSuffix (by decide)
  all_goals
    intro same
    rw [same] at long
    simp at long

end IsFileOf

end Bindery.Code

namespace Bindery.Files

end Bindery.Files

namespace Bindery.Run

open Bindery.Api Bindery.Client Bindery.Code Bindery.Files Bindery.Naming Bindery.Plan
  Bindery.Steps Bindery.Typing

/-! ## Imports that find their module -/

/-- A file defines a name as that of a class or function, or of a value in the case of the runtime
module. -/
def ClientFile.Defines (file : ClientFile) (name : String) : Prop :=
  match file.code with
  | .module module => name ∈ module.definedNames
  | .runtime url => ∃ line ∈ runtimeLines url, DefinesAt line name

/-- The spot of the module to which a path leads in a directory: that of the first file which can
hold the module and is there.  Further dots lead out of the directory. -/
def moduleSpot? (tree : Tree) (directory : Destination) (path : ModulePath) : Option Spot :=
  if path.dots = 1 then
    ((moduleFiles path.names).map fun file => (directory.join file).spot).find? fun spot =>
      (tree.held? spot).isSome
  else none

/-- A name is found at a spot: the last file to be written there defines it. -/
def FoundAt (files : List ClientFile) (spot : Option Spot) (name : String) : Prop :=
  ∃ place file, spot = some place ∧ last? files place = some file ∧ file.Defines name

/-- An import finds its module: it says what it seems to say, and where its path leads a file has
been written and not replaced that defines all the names. -/
def Finds (tree : Tree) (directory : Destination) (files : List ClientFile) (statement : Import) :
    Prop :=
  ∃ path spot file, ModulePath.ofName? statement.module = some path ∧
    moduleSpot? tree directory path = some spot ∧ last? files spot = some file ∧
    ∀ name ∈ statement.names, file.Defines name

/-- The relative imports of a module find the modules that they name. -/
def FindsAll (tree : Tree) (directory : Destination) (files : List ClientFile) (module : Module) :
    Prop :=
  ∀ statement ∈ module.imports, Imports.origin statement.module = .relative →
    Finds tree directory files statement

variable {compiler : Compiler} {settings : Settings} {document : Document} {coverage : Coverage}
  {models : List Model}

section

variable {module : Module} {tree : Tree} {directory : Destination} {files : List ClientFile}

theorem FindsAll.foundAt (finds : FindsAll tree directory files module) {source name : String}
    (relative : Imports.origin source = .relative) (imported : module.ImportsFrom source name) :
    ∃ path, ModulePath.ofName? source = some path ∧
      FoundAt files (moduleSpot? tree directory path) name := by
  obtain ⟨statement, member, rfl, inside⟩ := imported
  obtain ⟨path, spot, file, leads, here, last, defines⟩ := finds statement member relative
  exact ⟨path, leads, spot, file, here, last, defines name inside⟩

end

/-! ## The files of a client -/

variable {tree after : Tree} {directory : Destination} {url : String} {spot : Spot}

section

variable {files : ClientFiles}
  (same : files = clientFiles settings document directory models coverage.codes url)
  (covered : coverageOf settings document = .ok coverage)
  (made : modelsOf document = .ok models)
include same

include covered

include made

end

variable {tree after : Tree} {result : Result}

end Bindery.Run
