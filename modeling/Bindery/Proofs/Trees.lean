import Bindery.Files.Destination
import Mathlib.Data.List.Basic

/-!
# Trees that differ in one file

Where a path leads to depends on what is a directory and what is a file, and not on what the files
hold.  So of two trees that differ in the content of one file, whatever is done with directories and
files succeeds in both or in neither, and leaves trees that differ in that file at most.
-/

namespace Bindery.Files

/-- Whether something in a tree is a directory. -/
def Node.isDirectory : Node → Bool
  | file _ => false
  | directory => true

/-- A place in a store. -/
abbrev Spot := Store × List String

namespace Tree

/-! ## What is at a place -/

/-- What is at a place once all that is at another one has been replaced. -/
theorem lookup_replaced (nodes : List (List String × Node)) (place other : List String)
    (node : Node) :
    (nodes.map fun entry => if entry.1 = place then (entry.1, node) else entry).lookup other =
      if other = place then (nodes.lookup place).map fun _ => node else nodes.lookup other := by
  induction nodes with
  | nil => simp
  | cons entry rest ih =>
      obtain ⟨key, held⟩ := entry
      rw [List.map_cons]
      by_cases here : key = place
      · subst here
        by_cases same : other = key
        · simp [same]
        · rw [if_pos rfl, List.lookup_cons, ih, if_neg same, if_neg same, List.lookup_cons,
            beq_false_of_ne same]
      · rw [if_neg here, List.lookup_cons, ih]
        by_cases same : other = place
        · subst same
          rw [if_pos rfl, if_pos rfl, List.lookup_cons, beq_false_of_ne (Ne.symm here)]
        · rw [if_neg same, if_neg same, List.lookup_cons]

/-- What is at a place after something has been put at another one. -/
theorem node?_put (tree : Tree) (place other : List String) (node : Node) :
    (tree.put place node).node? other =
      if other = place ∧ isGiven place = false then some node else tree.node? other := by
  have found : (tree.put place node).nodes.lookup other =
      if other = place then some node else tree.nodes.lookup other := by
    simp only [put]
    split
    · next present =>
        obtain ⟨held, there⟩ := Option.isSome_iff_exists.1 present
        refine (lookup_replaced tree.nodes place other node).trans ?_
        rw [there]
        rfl
    · next absent =>
        by_cases same : other = place
        · subst same
          rw [List.lookup_append, Option.not_isSome_iff_eq_none.1 absent]
          simp
        · rw [List.lookup_append, List.lookup_cons, beq_false_of_ne same]
          simp [same]
  simp only [node?]
  rw [found]
  by_cases given : isGiven other = true
  · have notPlace : ¬ (other = place ∧ isGiven place = false) := by
      rintro ⟨rfl, free⟩
      rw [given] at free
      cases free
    rw [if_pos given, if_neg notPlace, if_pos given]
  · by_cases same : other = place
    · subst same
      simp [given]
    · simp [given, same]

@[simp] theorem memory_put (tree : Tree) (place : List String) (node : Node) :
    (tree.put place node).memory = tree.memory := by
  simp only [put]
  split <;> rfl

/-! ## Trees that are alike -/

/-- Two trees with the same files and directories, where at most one file has different contents.
Texts in memory count as files. -/
structure AlikeBut (spot : Spot) (first second : Tree) : Prop where
  kinds : ∀ place,
    (first.node? place).map Node.isDirectory = (second.node? place).map Node.isDirectory
  nodes : ∀ place, (Store.disk, place) ≠ spot → first.node? place = second.node? place
  memory : ∀ names, (Store.memory, names) ≠ spot →
    first.memory.lookup names = second.memory.lookup names

/-- Two steps that both fail, for the same reason, or leave trees that are alike. -/
inductive AlikeStep (spot : Spot) : Except Error Tree → Except Error Tree → Prop where
  | done {first second : Tree} :
      AlikeBut spot first second → AlikeStep spot (.ok first) (.ok second)
  | failed {error : Error} : AlikeStep spot (.error error) (.error error)

/-- What is at a place in trees that are alike. -/
inductive AlikeNodes : Option Node → Option Node → Prop where
  | nothing : AlikeNodes none none
  | directories : AlikeNodes (some .directory) (some .directory)
  | files {first second : Content} : AlikeNodes (some (.file first)) (some (.file second))

namespace AlikeBut

variable {spot : Spot} {first second : Tree}

theorem alikeNodes (alike : AlikeBut spot first second) (place : List String) :
    AlikeNodes (first.node? place) (second.node? place) := by
  have kind := alike.kinds place
  cases found : first.node? place with
  | none =>
      cases there : second.node? place with
      | none => exact .nothing
      | some node => simp [found, there] at kind
  | some node =>
      cases there : second.node? place with
      | none => simp [found, there] at kind
      | some other =>
          cases node <;> cases other <;> simp [found, there, Node.isDirectory] at kind
          · exact .files
          · exact .directories

/-- Names lead to the same place in trees that are alike. -/
theorem walk_eq (alike : AlikeBut spot first second) (place names : List String) :
    first.walk place names = second.walk place names := by
  induction names generalizing place with
  | nil => rfl
  | cons name rest ih =>
      rw [walk, walk, ih]
      dsimp only
      have next := alike.alikeNodes (place ++ [name])
      revert next
      generalize first.node? (place ++ [name]) = node
      generalize second.node? (place ++ [name]) = other
      intro next
      cases next with
      | nothing => rfl
      | directories => rw [ih]
      | files => rfl

theorem place_eq (alike : AlikeBut spot first second) (path : Path) :
    first.place path = second.place path := by
  simp only [place, alike.walk_eq]

theorem find?_eq_directory_iff (alike : AlikeBut spot first second) (path : Path) :
    first.find? path = some .directory ↔ second.find? path = some .directory := by
  simp only [find?]
  rw [alike.place_eq]
  cases second.place path with
  | error problem => rfl
  | ok place =>
      dsimp only
      have here := alike.alikeNodes place
      revert here
      generalize first.node? place = node
      generalize second.node? place = other
      intro here
      cases here <;> simp

/-! ### Steps -/

/-- Something that is put into both trees keeps them alike. -/
theorem put (alike : AlikeBut spot first second) (place : List String) (node : Node) :
    AlikeBut spot (first.put place node) (second.put place node) where
  kinds other := by
    rw [node?_put, node?_put]
    split
    · rfl
    · exact alike.kinds other
  nodes other elsewhere := by
    rw [node?_put, node?_put]
    split
    · rfl
    · exact alike.nodes other elsewhere
  memory names elsewhere := by
    rw [memory_put, memory_put]
    exact alike.memory names elsewhere

theorem makeDirectory (alike : AlikeBut spot first second) (path : Path) :
    AlikeStep spot (first.makeDirectory path) (second.makeDirectory path) := by
  simp only [Tree.makeDirectory]
  rw [alike.place_eq]
  cases second.place path with
  | error problem => exact .failed
  | ok place =>
      dsimp only
      have here := alike.alikeNodes place
      revert here
      generalize first.node? place = node
      generalize second.node? place = other
      intro here
      cases here with
      | nothing => exact .done (alike.put place .directory)
      | directories => exact .failed
      | files => exact .failed

theorem ensureDirectory (alike : AlikeBut spot first second) (path : Path) :
    AlikeStep spot (first.ensureDirectory path) (second.ensureDirectory path) := by
  have made := alike.makeDirectory path
  simp only [Tree.ensureDirectory]
  revert made
  generalize first.makeDirectory path = step
  generalize second.makeDirectory path = other
  intro made
  cases made with
  | done after => exact .done after
  | failed =>
      dsimp only
      simp only [alike.find?_eq_directory_iff path]
      split
      · exact .done alike
      · exact .failed

theorem ensureAll (alike : AlikeBut spot first second) (root : String) (names : List String) :
    AlikeStep spot (first.ensureAll root names) (second.ensureAll root names) := by
  induction names with
  | nil => exact alike.ensureDirectory _
  | cons name before ih =>
      have made := alike.makeDirectory ⟨root, (name :: before).reverse⟩
      have ensured := alike.ensureDirectory ⟨root, (name :: before).reverse⟩
      simp only [Tree.ensureAll]
      revert made
      generalize first.makeDirectory ⟨root, (name :: before).reverse⟩ = step
      generalize second.makeDirectory ⟨root, (name :: before).reverse⟩ = other
      intro made
      cases made with
      | done => exact ensured
      | @failed error =>
          obtain ⟨problem, path⟩ := error
          cases problem with
          | notFound =>
              dsimp only
              revert ih
              generalize first.ensureAll root before = step
              generalize second.ensureAll root before = other
              intro ih
              cases ih with
              | done above => exact above.ensureDirectory _
              | failed => exact .failed
          | alreadyExists | notDirectory | isDirectory | nameTooLong | holdsNull => exact ensured

theorem write (alike : AlikeBut spot first second) (path : Path) (text : String) :
    AlikeStep spot (first.write path text) (second.write path text) := by
  simp only [Tree.write]
  rw [alike.place_eq]
  cases second.place path with
  | error problem => exact .failed
  | ok place =>
      dsimp only
      have here := alike.alikeNodes place
      revert here
      generalize first.node? place = node
      generalize second.node? place = other
      intro here
      cases here with
      | nothing => exact .done (alike.put place _)
      | directories => exact .failed
      | files => exact .done (alike.put place _)

theorem prepare (alike : AlikeBut spot first second) (destination : Destination) :
    AlikeStep spot (first.prepare destination) (second.prepare destination) := by
  simp only [Tree.prepare]
  cases destination.store with
  | disk => exact alike.ensureAll ..
  | memory => exact .done alike

end AlikeBut

/-- What is kept in memory under names, once something has been kept under others. -/
theorem lookup_kept (memory : List (List String × String)) (names other : List String)
    (text : String) :
    (memory.filter (·.1 ≠ names) ++ [(names, text)]).lookup other =
      if other = names then some text else memory.lookup other := by
  induction memory with
  | nil =>
      rw [List.filter_nil, List.nil_append, List.lookup_cons]
      by_cases same : other = names
      · simp [same]
      · simp [same, beq_false_of_ne same]
  | cons entry rest ih =>
      obtain ⟨key, held⟩ := entry
      by_cases here : key = names
      · subst here
        rw [List.filter_cons_of_neg (by simp), ih, List.lookup_cons]
        split
        · rfl
        · next different => rw [beq_false_of_ne different]
      · rw [List.filter_cons_of_pos (by simpa using here), List.cons_append, List.lookup_cons,
          List.lookup_cons, ih]
        by_cases same : other = key
        · subst same
          simp only [beq_self_eq_true]
          rw [if_neg here]
        · rw [beq_false_of_ne same]

theorem AlikeBut.store {spot : Spot} {first second : Tree} (alike : AlikeBut spot first second)
    (destination : Destination) (text : String) :
    AlikeStep spot (first.store destination text) (second.store destination text) := by
  simp only [Tree.store]
  cases destination.store with
  | disk => exact alike.write destination.path text
  | memory =>
      refine .done ⟨alike.kinds, alike.nodes, fun names elsewhere => ?_⟩
      dsimp only
      rw [lookup_kept, lookup_kept]
      split
      · rfl
      · exact alike.memory names elsewhere

/-! ## Trees that grow -/

/-- Nothing goes away from the first tree to the second, and no file becomes a directory or a
directory a file. -/
def Grows (first second : Tree) : Prop :=
  ∀ place kind, (first.node? place).map Node.isDirectory = some kind →
    (second.node? place).map Node.isDirectory = some kind

namespace Grows

variable {first second third : Tree}

theorem refl (tree : Tree) : tree.Grows tree := fun _ _ here => here

theorem trans (one : first.Grows second) (other : second.Grows third) : first.Grows third :=
  fun place kind here => other place kind (one place kind here)

/-- A tree grows if something is put where nothing is. -/
theorem put_of_none {tree : Tree} {place : List String} (free : tree.node? place = none)
    (node : Node) : tree.Grows (tree.put place node) := by
  intro other kind here
  rw [node?_put]
  split
  · next same =>
      rw [same.1, free] at here
      cases here
  · exact here

/-- A tree grows if a file is put where another file is. -/
theorem put_of_file {tree : Tree} {place : List String} {content : Content}
    (there : tree.node? place = some (.file content)) (other : Content) :
    tree.Grows (tree.put place (.file other)) := by
  intro looked kind here
  rw [node?_put]
  split
  · next same =>
      rw [same.1, there] at here
      exact here
  · exact here

/-- Names still lead to a place when the tree has grown. -/
theorem walk_eq_ok (grows : first.Grows second) {place names found : List String}
    (leads : first.walk place names = .ok found) : second.walk place names = .ok found := by
  induction names generalizing place with
  | nil => exact leads
  | cons name rest ih =>
      rw [walk] at leads ⊢
      split at leads
      · next above =>
          rw [if_pos above]
          exact ih leads
      · next down =>
          rw [if_neg down]
          split at leads
          · cases leads
          · next fits =>
              rw [if_neg fits]
              have kind := grows (place ++ [name])
              dsimp only at leads ⊢
              split at leads
              · next there =>
                  have kept := kind true (by rw [there]; rfl)
                  split
                  · exact ih leads
                  · next content other => simp [other, Node.isDirectory] at kept
                  · next other => simp [other] at kept
              · next content there =>
                  have kept := kind false (by rw [there]; rfl)
                  split
                  · next other => simp [other, Node.isDirectory] at kept
                  · exact leads
                  · next other => simp [other] at kept
              · split at leads
                · next last =>
                    subst last
                    split
                    · exact leads
                    · simpa using leads
                    · simpa using leads
                · cases leads

theorem place_eq_ok (grows : first.Grows second) {path : Path} {found : List String}
    (leads : first.place path = .ok found) : second.place path = .ok found := by
  simp only [place] at leads ⊢
  split at leads
  · cases leads
  · next clean =>
      rw [if_neg clean]
      split at leads
      · cases leads
      · next fits =>
          rw [if_neg fits]
          split at leads
          · next absolute =>
              rw [if_pos absolute]
              exact grows.walk_eq_ok leads
          · next relative =>
              rw [if_neg relative]
              exact grows.walk_eq_ok leads

end Grows

variable {tree after : Tree}

theorem grows_of_makeDirectory {path : Path} (made : tree.makeDirectory path = .ok after) :
    tree.Grows after := by
  simp only [makeDirectory] at made
  split at made
  · cases made
  · split at made
    · cases made
    · next free =>
        cases made
        exact .put_of_none free .directory

theorem grows_of_ensureDirectory {path : Path} (done : tree.ensureDirectory path = .ok after) :
    tree.Grows after := by
  simp only [ensureDirectory] at done
  split at done
  · next made =>
      cases done
      exact grows_of_makeDirectory made
  · split at done
    · cases done
      exact .refl tree
    · cases done

theorem grows_of_ensureAll {root : String} {names : List String}
    (done : tree.ensureAll root names = .ok after) : tree.Grows after := by
  induction names generalizing after with
  | nil => exact grows_of_ensureDirectory done
  | cons name before ih =>
      simp only [ensureAll] at done
      split at done
      · split at done
        · next made above => exact (ih above).trans (grows_of_ensureDirectory done)
        · cases done
      · exact grows_of_ensureDirectory done

theorem grows_of_prepare {destination : Destination} (done : tree.prepare destination = .ok after) :
    tree.Grows after := by
  simp only [prepare] at done
  split at done
  · exact grows_of_ensureAll done
  · cases done
    exact .refl tree

theorem grows_of_store {destination : Destination} {text : String}
    (done : tree.store destination text = .ok after) : tree.Grows after := by
  simp only [store] at done
  split at done
  · simp only [write] at done
    split at done
    · cases done
    · next place _ =>
        cases here : tree.node? place with
        | none =>
            simp only [here] at done
            cases done
            exact .put_of_none here _
        | some node =>
            cases node with
            | directory => simp [here] at done
            | file content =>
                simp only [here] at done
                cases done
                exact .put_of_file here _
  · cases done
    exact fun _ _ here => here

/-! ## The file of a destination -/

/-- Where the file of a destination is. -/
def spot? (tree : Tree) (destination : Destination) : Except Problem Spot :=
  match destination.store with
  | .disk => (tree.place destination.path).map (Store.disk, ·)
  | .memory => .ok (.memory, destination.path.parts)

/-- The file of a destination stays where it is when the tree grows. -/
theorem Grows.spot?_eq_ok {first second : Tree} (grows : first.Grows second)
    {destination : Destination} {spot : Spot} (here : first.spot? destination = .ok spot) :
    second.spot? destination = .ok spot := by
  simp only [spot?] at here ⊢
  split at here
  · cases found : first.place destination.path with
    | error problem => simp [found, Except.map] at here
    | ok place =>
        rw [found] at here
        rw [grows.place_eq_ok found]
        exact here
  · exact here

/-- In trees that are alike every destination has the same text, but for those of one file. -/
theorem AlikeBut.text?_eq {spot : Spot} {first second : Tree} (alike : AlikeBut spot first second)
    {destination : Destination} (elsewhere : first.spot? destination ≠ .ok spot) :
    first.text? destination = second.text? destination := by
  simp only [spot?, text?] at elsewhere ⊢
  cases store : destination.store with
  | disk =>
      simp only [store] at elsewhere
      dsimp only
      simp only [content]
      rw [alike.place_eq] at elsewhere ⊢
      cases found : second.place destination.path with
      | error problem => rfl
      | ok place =>
          rw [found] at elsewhere
          dsimp only
          rw [alike.nodes place fun same => elsewhere (congrArg Except.ok same)]
  | memory =>
      simp only [store] at elsewhere
      exact alike.memory _ fun same => elsewhere (congrArg Except.ok same)

/-- Where one text is stored another one can be, and the trees differ in that file at most. -/
theorem exists_store {destination : Destination} {text : String}
    (done : tree.store destination text = .ok after) (other : String) :
    ∃ spot again, after.spot? destination = .ok spot ∧
      tree.store destination other = .ok again ∧ AlikeBut spot after again := by
  have grows := grows_of_store done
  simp only [store] at done ⊢
  cases isStore : destination.store with
  | disk =>
      simp only [isStore, write] at done ⊢
      cases leads : tree.place destination.path with
      | error problem => simp [leads] at done
      | ok place =>
          have here : tree.spot? destination = .ok (.disk, place) := by
            simp [spot?, isStore, leads, Except.map]
          simp only [leads] at done ⊢
          split at done
          · cases done
          · next noDirectory =>
              cases done
              refine ⟨(.disk, place), _, grows.spot?_eq_ok here, rfl, ?_, ?_, ?_⟩
              · intro looked
                rw [node?_put, node?_put]
                split <;> rfl
              · intro looked elsewhere
                rw [node?_put, node?_put]
                have different : ¬ (looked = place ∧ isGiven place = false) := by
                  rintro ⟨rfl, -⟩
                  exact elsewhere rfl
                rw [if_neg different, if_neg different]
              · intro names _
                rw [memory_put, memory_put]
  | memory =>
      simp only [isStore] at done ⊢
      cases done
      refine ⟨(.memory, destination.path.parts), _, ?_, rfl, fun _ => rfl, fun _ _ => rfl, ?_⟩
      · simp [spot?, isStore]
      · intro names elsewhere
        dsimp only
        rw [lookup_kept, lookup_kept]
        have different : names ≠ destination.path.parts := by
          rintro rfl
          exact elsewhere rfl
        rw [if_neg different, if_neg different]

end Tree

end Bindery.Files
