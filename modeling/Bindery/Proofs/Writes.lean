import Bindery.Proofs.Runs
import Bindery.Proofs.Trees

/-!
# The files of a run

A run writes its files one after the other, and each of them to the tree that the one before leaves.
Whether a file can be written depends on its module and on the directories and files that are there,
not on what these files hold.  So a run that writes another module in the place of one writes all
the other files as before.
-/

namespace Bindery.Code

/-- A module that can be written. -/
structure Module.Sound (compiler : Compiler) (module : Module) : Prop where
  flawless : module.flaw? = none
  compiles : module.compiles compiler = true

namespace Module

variable {compiler : Compiler} {first second : Module}

/-- Whether the imports of a module are what they seem to be does not depend on their order. -/
theorem isPlain_eq_of_perm (same : first.body.Perm second.body) :
    first.isPlain = second.isPlain :=
  same.all_eq

/-- A compiler is not asked about a module whose imports are what they seem to be. -/
theorem compiles_of_isPlain {module : Module} (plain : module.isPlain = true) :
    module.compiles compiler = module.isValid := by
  rw [compiles, if_pos plain]

/-- Items of a module that can be written can be written in another order if the imports are what
they seem to be, or else if a compiler takes them. -/
theorem Sound.of_perm (sound : first.Sound compiler) (same : first.body.Perm second.body)
    (taken : second.isPlain = false → second.compiles compiler = true) : second.Sound compiler := by
  have expressions : first.expressions.Perm second.expressions := same.flatMap_right _
  constructor
  · refine List.findSome?_eq_none_iff.2 fun value member => ?_
    exact List.findSome?_eq_none_iff.1 sound.flawless value (expressions.mem_iff.2 member)
  · cases plain : second.isPlain with
    | false => exact taken plain
    | true =>
        have compiled := sound.compiles
        rw [compiles_of_isPlain ((isPlain_eq_of_perm same).trans plain)] at compiled
        rw [compiles_of_isPlain plain]
        simp only [isValid] at compiled ⊢
        rw [same.all_eq, expressions.all_eq] at compiled
        exact compiled

end Module

end Bindery.Code

namespace Bindery.Run

open Bindery.Api Bindery.Client Bindery.Code Bindery.Files Bindery.Loading Bindery.Plan
  Bindery.Steps

variable {compiler : Compiler} {tree after : Tree} {destination path : Destination}
  {module : Module} {text : String}

/-! ## One file -/

theorem gives_change_iff {update : Tree → Except Files.Error Tree} :
    (change destination update).Gives tree () after ↔ update tree = .ok after := by
  simp only [change]
  constructor
  · intro done
    obtain ⟨_, _, here, done⟩ := Action.gives_bind_iff.1 done
    cases here
    split at done
    · next updated =>
        cases done
        exact updated
    · cases done
  · intro updated
    refine Action.gives_bind_iff.2 ⟨tree, tree, rfl, ?_⟩
    rw [updated]
    rfl

/-- A text is written to a file by preparing the directories that the file lies in. -/
theorem gives_writeText_iff :
    (writeText destination text).Gives tree path after ↔
      path = destination ∧ ∃ prepared, tree.prepare destination.parent = .ok prepared ∧
        prepared.store destination text = .ok after := by
  simp only [writeText]
  constructor
  · intro done
    obtain ⟨_, prepared, first, done⟩ := Action.gives_bind_iff.1 done
    obtain ⟨_, stored, second, done⟩ := Action.gives_bind_iff.1 done
    cases done
    exact ⟨rfl, prepared, gives_change_iff.1 first, gives_change_iff.1 second⟩
  · rintro ⟨rfl, prepared, first, second⟩
    refine Action.gives_bind_iff.2 ⟨(), prepared, gives_change_iff.2 first, ?_⟩
    exact Action.gives_bind_iff.2 ⟨(), after, gives_change_iff.2 second, rfl⟩

theorem gives_writeModule_iff :
    (writeModule compiler destination module).Gives tree path after ↔
      module.Sound compiler ∧
        (writeText destination (module.render ++ "\n")).Gives tree path after := by
  simp only [writeModule]
  cases flaw : module.flaw? with
  | some cause =>
      constructor
      · intro done
        cases done
      · rintro ⟨⟨flawless, -⟩, -⟩
        rw [flaw] at flawless
        cases flawless
  | none =>
      cases compiled : module.compiles compiler with
      | false =>
          constructor
          · intro done
            cases done
          · rintro ⟨⟨-, compiles⟩, -⟩
            rw [compiled] at compiles
            cases compiles
      | true => exact ⟨fun done => ⟨⟨flaw, compiled⟩, done⟩, And.right⟩

/-- A file that is written stays, and so does everything that was there before. -/
theorem grows_of_gives_writeText (done : (writeText destination text).Gives tree path after) :
    tree.Grows after := by
  obtain ⟨-, prepared, first, second⟩ := gives_writeText_iff.1 done
  exact (Tree.grows_of_prepare first).trans (Tree.grows_of_store second)

/-! ## Trees that are alike -/

variable {spot : Spot} {first second : Tree}

/-- A text is written to both of two trees that are alike. -/
theorem exists_gives_writeText_of_alikeBut (alike : Tree.AlikeBut spot first second)
    (done : (writeText destination text).Gives first path after) :
    ∃ afterwards, (writeText destination text).Gives second path afterwards ∧
      Tree.AlikeBut spot after afterwards := by
  obtain ⟨rfl, prepared, ready, stored⟩ := gives_writeText_iff.1 done
  have readied := alike.prepare path.parent
  rw [ready] at readied
  generalize other : second.prepare path.parent = step at readied
  cases readied with
  | @done _ again prepared =>
      have written := prepared.store path text
      rw [stored] at written
      generalize kept : again.store path text = step at written
      cases written with
      | @done _ afterwards alike =>
          exact ⟨afterwards, gives_writeText_iff.2 ⟨rfl, again, other, kept⟩, alike⟩

theorem exists_gives_writeModule_of_alikeBut (alike : Tree.AlikeBut spot first second)
    (done : (writeModule compiler destination module).Gives first path after) :
    ∃ afterwards, (writeModule compiler destination module).Gives second path afterwards ∧
      Tree.AlikeBut spot after afterwards := by
  obtain ⟨sound, done⟩ := gives_writeModule_iff.1 done
  obtain ⟨afterwards, again, alike⟩ := exists_gives_writeText_of_alikeBut alike done
  exact ⟨afterwards, gives_writeModule_iff.2 ⟨sound, again⟩, alike⟩

/-- A module is written where another one is. -/
theorem exists_gives_writeModule_other
    (done : (writeModule compiler destination module).Gives tree path after) {other : Module}
    (sound : other.Sound compiler) :
    ∃ spot afterwards, after.spot? destination = .ok spot ∧
      (writeModule compiler destination other).Gives tree path afterwards ∧
      Tree.AlikeBut spot after afterwards := by
  obtain ⟨-, done⟩ := gives_writeModule_iff.1 done
  obtain ⟨rfl, prepared, ready, stored⟩ := gives_writeText_iff.1 done
  obtain ⟨spot, afterwards, here, kept, alike⟩ := Tree.exists_store stored (other.render ++ "\n")
  refine ⟨spot, afterwards, here, gives_writeModule_iff.2 ⟨sound, ?_⟩, alike⟩
  exact gives_writeText_iff.2 ⟨rfl, prepared, ready, kept⟩

/-! ## All files -/

variable {settings : Settings} {document : Document} {exported : List String}
  {files : List Destination}

/-- A run that covers the operations and writes its files gives a result. -/
theorem gives_generateFrom_of_writesFiles {coverage : Coverage}
    (covered : coverageOf settings document = .ok coverage)
    (written : WritesFiles compiler settings document (endpointsModule coverage.codes)
      (endpointNames coverage.codes) tree files after) :
    (generateFrom compiler settings document).Gives tree ⟨files, coverage.failures⟩ after := by
  obtain ⟨url, parsed, modelled, changed, models, endpoints, runtime, package⟩ := written
  simp only [generateFrom, produce]
  refine Action.gives_liftM_bind_iff.2 ⟨_, url, ?_⟩
  refine Action.gives_liftM_bind_iff.2 ⟨_, mapError_eq_ok_iff.2 parsed, ?_⟩
  refine Action.gives_bind_iff.2 ⟨_, _, changed, ?_⟩
  refine Action.gives_liftM_bind_iff.2 ⟨_, mapError_eq_ok_iff.2 modelled, ?_⟩
  refine Action.gives_bind_iff.2 ⟨_, _, models, ?_⟩
  refine Action.gives_liftM_bind_iff.2 ⟨_, mapError_eq_ok_iff.2 covered, ?_⟩
  refine Action.gives_bind_iff.2 ⟨_, _, endpoints, ?_⟩
  refine Action.gives_bind_iff.2 ⟨_, _, runtime, ?_⟩
  exact Action.gives_bind_iff.2 ⟨_, _, package, rfl⟩

theorem WritesFiles.sound
    (written : WritesFiles compiler settings document module exported tree files after) :
    module.Sound compiler := by
  obtain ⟨-, -, -, -, -, endpoints, -, -⟩ := written
  exact (gives_writeModule_iff.1 endpoints).1

/-- In a run another endpoints module can be written instead, and the tree that is left differs in
the file of that module at most. -/
theorem WritesFiles.exists_other
    (written : WritesFiles compiler settings document module exported tree files after)
    {other : Module} (sound : other.Sound compiler) :
    ∃ afterwards directory,
      WritesFiles compiler settings document other exported tree files afterwards ∧
      Destination.parse settings.output = .ok directory ∧
      ∀ destination,
        after.spot? destination ≠ after.spot? (directory.join (.parse settings.endpointsFile)) →
        after.text? destination = afterwards.text? destination := by
  obtain ⟨url, parsed, modelled, changed, models, endpoints, runtime, package⟩ := written
  obtain ⟨spot, second, here, endpointsAgain, alike⟩ :=
    exists_gives_writeModule_other endpoints sound
  obtain ⟨third, runtimeAgain, alike⟩ := exists_gives_writeText_of_alikeBut alike runtime
  obtain ⟨afterwards, packageAgain, alike⟩ := exists_gives_writeModule_of_alikeBut alike package
  -- The file of the endpoints module stays where it is while the other files are written.
  have grows := (grows_of_gives_writeText runtime).trans
    (grows_of_gives_writeText (gives_writeModule_iff.1 package).2)
  refine ⟨afterwards, _, .intro url parsed modelled changed models endpointsAgain runtimeAgain
    packageAgain, parsed, fun destination elsewhere => alike.text?_eq ?_⟩
  rw [grows.spot?_eq_ok here] at elsewhere
  exact elsewhere

end Bindery.Run
