import Mathlib.Data.List.Forall2

/-!
# Steps that may fail

A computation of several steps succeeds if each of its steps does, and fails with the first of them
that fails.  The statements of this module take such a computation apart into its steps and put it
together again.
-/

namespace Bindery.Steps

variable {ε ε' α β : Type}

theorem bind_eq_ok_iff {step : Except ε α} {next : α → Except ε β} {result : β} :
    step >>= next = .ok result ↔ ∃ value, step = .ok value ∧ next value = .ok result := by
  cases step with
  | error cause => simp [bind, Except.bind]
  | ok value => simp [bind, Except.bind]

theorem map_eq_ok_iff {step : Except ε α} {image : α → β} {result : β} :
    step.map image = .ok result ↔ ∃ value, step = .ok value ∧ image value = result := by
  cases step with
  | error cause => simp [Except.map]
  | ok value => simp [Except.map]

theorem mapError_eq_ok_iff {step : Except ε α} {image : ε → ε'} {result : α} :
    step.mapError image = .ok result ↔ step = .ok result := by
  cases step with
  | error cause => simp [Except.mapError]
  | ok value => simp [Except.mapError]

theorem bind_eq_error_iff {step : Except ε α} {next : α → Except ε β} {cause : ε} :
    step >>= next = .error cause ↔
      step = .error cause ∨ ∃ value, step = .ok value ∧ next value = .error cause := by
  cases step with
  | error cause => simp [bind, Except.bind]
  | ok value => simp [bind, Except.bind]

theorem map_eq_error_iff {step : Except ε α} {image : α → β} {cause : ε} :
    step.map image = .error cause ↔ step = .error cause := by
  cases step with
  | error cause => simp [Except.map]
  | ok value => simp [Except.map]

theorem mapError_eq_error_iff {step : Except ε α} {image : ε → ε'} {result : ε'} :
    step.mapError image = .error result ↔ ∃ cause, step = .error cause ∧ image cause = result := by
  cases step with
  | error cause => simp [Except.mapError]
  | ok value => simp [Except.mapError]

/-- A step succeeds unless it fails. -/
theorem exists_ok_iff {step : Except ε α} :
    (∃ result, step = .ok result) ↔ ∀ cause, step ≠ .error cause := by
  cases step with
  | error cause => simp
  | ok value => simp

theorem toOption_eq_some_iff {step : Except ε α} {result : α} :
    step.toOption = some result ↔ step = .ok result := by
  cases step with
  | error cause => simp [Except.toOption]
  | ok value => simp [Except.toOption]

theorem isSome_toOption_iff {step : Except ε α} :
    step.toOption.isSome = true ↔ ∃ result, step = .ok result := by
  simp only [Option.isSome_iff_exists, toOption_eq_some_iff]

theorem toOption_map_eq_some_iff {step : Except ε α} {image : α → β} {result : β} :
    step.toOption.map image = some result ↔ ∃ value, step = .ok value ∧ image value = result := by
  simp only [Option.map_eq_some_iff, toOption_eq_some_iff]

theorem toOption_bind_eq_some_iff {step : Except ε α} {next : α → Option β} {result : β} :
    step.toOption.bind next = some result ↔
      ∃ value, step = .ok value ∧ next value = some result := by
  simp only [Option.bind_eq_some_iff, toOption_eq_some_iff]

/-- The steps for the items of a list succeed together if every one of them does. -/
theorem mapM_eq_ok_iff {step : α → Except ε β} {items : List α} {results : List β} :
    items.mapM step = .ok results ↔
      List.Forall₂ (fun item result => step item = .ok result) items results := by
  induction items generalizing results with
  | nil =>
      rw [List.mapM_nil, List.forall₂_nil_left_iff]
      constructor
      · intro done
        cases done
        rfl
      · rintro rfl
        rfl
  | cons item items ih =>
      rw [List.mapM_cons]
      constructor
      · intro done
        obtain ⟨result, here, done⟩ := bind_eq_ok_iff.1 done
        obtain ⟨more, there, done⟩ := bind_eq_ok_iff.1 done
        cases done
        exact .cons here (ih.1 there)
      · intro done
        cases done with
        | cons here there =>
            exact bind_eq_ok_iff.2 ⟨_, here, bind_eq_ok_iff.2 ⟨_, ih.2 there, rfl⟩⟩

/-- The item at which the steps for the items of a list end: its step fails, and those for all items
before it succeed. -/
def FailsFirst (step : α → Except ε β) (items : List α) (item : α) (cause : ε) : Prop :=
  ∃ before after, items = before ++ item :: after ∧
    (∀ earlier ∈ before, ∃ result, step earlier = .ok result) ∧ step item = .error cause

namespace FailsFirst

variable {step : α → Except ε β} {items : List α} {item : α} {cause : ε}
  (first : FailsFirst step items item cause)
include first

theorem mem : item ∈ items := by
  obtain ⟨before, after, rfl, -⟩ := first
  simp

theorem failed : step item = .error cause := by
  obtain ⟨before, after, -, -, failed⟩ := first
  exact failed

/-- Items that follow make no difference. -/
theorem append (more : List α) : FailsFirst step (items ++ more) item cause := by
  obtain ⟨before, after, rfl, done, failed⟩ := first
  exact ⟨before, after ++ more, by simp, done, failed⟩

end FailsFirst

theorem not_failsFirst_nil {step : α → Except ε β} {item : α} {cause : ε} :
    ¬ FailsFirst step [] item cause :=
  fun first => List.not_mem_nil first.mem

theorem failsFirst_cons_iff {step : α → Except ε β} {first item : α} {rest : List α} {cause : ε} :
    FailsFirst step (first :: rest) item cause ↔
      (item = first ∧ step first = .error cause) ∨
        ((∃ result, step first = .ok result) ∧ FailsFirst step rest item cause) := by
  constructor
  · rintro ⟨before, after, split, done, failed⟩
    cases before with
    | nil =>
        cases split
        exact .inl ⟨rfl, failed⟩
    | cons =>
        cases split
        obtain ⟨here, earlier⟩ := List.forall_mem_cons.1 done
        exact .inr ⟨here, _, after, rfl, earlier, failed⟩
  · rintro (⟨rfl, failed⟩ | ⟨here, before, after, rfl, earlier, failed⟩)
    · exact ⟨[], rest, rfl, List.forall_mem_nil _, failed⟩
    · exact ⟨first :: before, after, rfl, List.forall_mem_cons.2 ⟨here, earlier⟩, failed⟩

/-- The steps for the items of a list fail together if they end at one of the items, and for the
cause that they end for. -/
theorem mapM_eq_error_iff {step : α → Except ε β} {items : List α} {cause : ε} :
    items.mapM step = .error cause ↔ ∃ item, FailsFirst step items item cause := by
  induction items with
  | nil =>
      refine iff_of_false (fun failed => by cases failed) ?_
      rintro ⟨item, first⟩
      exact not_failsFirst_nil first
  | cons first rest ih =>
      simp only [failsFirst_cons_iff, exists_or, exists_eq_left, exists_and_left, ← ih]
      rw [List.mapM_cons, bind_eq_error_iff]
      refine or_congr Iff.rfl ?_
      constructor
      · rintro ⟨result, here, failed⟩
        rcases bind_eq_error_iff.1 failed with later | ⟨more, -, done⟩
        · exact ⟨⟨result, here⟩, later⟩
        · cases done
      · rintro ⟨⟨result, here⟩, later⟩
        exact ⟨result, here, bind_eq_error_iff.2 (.inl later)⟩

/-- Steps end at the same item when what they fail with is put otherwise. -/
theorem failsFirst_mapError_iff {step : α → Except ε β} {image : α → ε → ε'}
    {items : List α} {item : α} {result : ε'} :
    FailsFirst (fun item => (step item).mapError (image item)) items item result ↔
      ∃ cause, FailsFirst step items item cause ∧ image item cause = result := by
  simp only [FailsFirst, mapError_eq_ok_iff, mapError_eq_error_iff]
  constructor
  · rintro ⟨before, after, split, done, cause, failed, same⟩
    exact ⟨cause, ⟨before, after, split, done, failed⟩, same⟩
  · rintro ⟨cause, ⟨before, after, split, done, failed⟩, same⟩
    exact ⟨before, after, split, done, cause, failed, same⟩

/-- Every one of related results is related to one of the items. -/
theorem exists_mem_of_forall₂ {relation : α → β → Prop} {items : List α} {results : List β}
    (related : List.Forall₂ relation items results) {result : β} (member : result ∈ results) :
    ∃ item ∈ items, relation item result := by
  induction related with
  | nil => cases member
  | cons first _ ih =>
      rcases List.mem_cons.1 member with rfl | later
      · exact ⟨_, List.mem_cons_self, first⟩
      · obtain ⟨item, inItems, found⟩ := ih later
        exact ⟨item, List.mem_cons_of_mem _ inItems, found⟩

/-- Steps without results succeed together if each of them does. -/
theorem forM_eq_ok_iff {step : α → Except ε Unit} {items : List α} {done : Unit} :
    items.forM step = .ok done ↔ ∀ item ∈ items, step item = .ok () := by
  induction items with
  | nil => simp [List.forM, pure, Except.pure]
  | cons item items ih =>
      rw [List.forM, bind_eq_ok_iff, List.forall_mem_cons, ← ih]
      exact ⟨fun ⟨_, here, later⟩ => ⟨here, later⟩, fun ⟨here, later⟩ => ⟨(), here, later⟩⟩

/-- The steps for the items of a list succeed together if each of them succeeds with some result. -/
theorem exists_mapM_eq_ok_iff {step : α → Except ε β} {items : List α} :
    (∃ results, items.mapM step = .ok results) ↔
      ∀ item ∈ items, ∃ result, step item = .ok result := by
  simp only [mapM_eq_ok_iff]
  constructor
  · rintro ⟨results, related⟩ item member
    obtain ⟨result, -, done⟩ := exists_mem_of_forall₂ related.flip member
    exact ⟨result, done⟩
  · intro each
    induction items with
    | nil => exact ⟨[], .nil⟩
    | cons item items ih =>
        obtain ⟨⟨result, here⟩, later⟩ := List.forall_mem_cons.1 each
        obtain ⟨results, related⟩ := ih later
        exact ⟨result :: results, .cons here related⟩

/-- The steps for the items of a list end somewhere unless each of them succeeds. -/
theorem exists_failsFirst_iff {step : α → Except ε β} {items : List α} :
    (∃ item cause, FailsFirst step items item cause) ↔
      ¬ ∀ item ∈ items, ∃ result, step item = .ok result := by
  rw [exists_comm, ← exists_mapM_eq_ok_iff, exists_ok_iff]
  simp only [← mapM_eq_error_iff]
  push Not
  rfl

/-- A property of all items is one of all related results if it is so item by item. -/
theorem forall_mem_iff_of_forall₂ {relation : α → β → Prop} {items : List α} {results : List β}
    {ofItem : α → Prop} {ofResult : β → Prop} (related : List.Forall₂ relation items results)
    (same : ∀ item result, relation item result → (ofItem item ↔ ofResult result)) :
    (∀ item ∈ items, ofItem item) ↔ ∀ result ∈ results, ofResult result := by
  induction related with
  | nil => simp
  | cons first _ ih => rw [List.forall_mem_cons, List.forall_mem_cons, same _ _ first, ih]

/-- A property of some item is one of some related result if it is so item by item. -/
theorem exists_mem_iff_of_forall₂ {relation : α → β → Prop} {items : List α} {results : List β}
    {ofItem : α → Prop} {ofResult : β → Prop} (related : List.Forall₂ relation items results)
    (same : ∀ item result, relation item result → (ofItem item ↔ ofResult result)) :
    (∃ item ∈ items, ofItem item) ↔ ∃ result ∈ results, ofResult result := by
  induction related with
  | nil => simp
  | cons first _ ih => rw [List.exists_mem_cons_iff, List.exists_mem_cons_iff, same _ _ first, ih]

/-- Related items and results stand at the same positions. -/
theorem getElem?_of_forall₂ {relation : α → β → Prop} {items : List α} {results : List β}
    (related : List.Forall₂ relation items results) {index : Nat} {item : α}
    (found : items[index]? = some item) :
    ∃ result, results[index]? = some result ∧ relation item result := by
  induction related generalizing index with
  | nil => cases found
  | cons first _ ih =>
      cases index with
      | zero =>
          cases found
          exact ⟨_, rfl, first⟩
      | succ index => exact ih found

/-- Related items and results stay related when they are chosen alike, and the items are those that
are chosen. -/
theorem forall₂_filter {relation : α → β → Prop} {items : List α} {results : List β}
    {ofItem : α → Bool} {ofResult : β → Bool} (related : List.Forall₂ relation items results)
    (same : ∀ item result, relation item result → ofItem item = ofResult result) :
    List.Forall₂ (fun item result => relation item result ∧ ofItem item = true)
      (items.filter ofItem) (results.filter ofResult) := by
  induction related with
  | nil => exact .nil
  | @cons item result _ _ first _ ih =>
      rw [List.filter_cons, List.filter_cons, ← same item result first]
      split
      · next chosen => exact .cons ⟨first, chosen⟩ ih
      · exact ih

/-- Results that are given by the items are their images. -/
theorem forall₂_image_iff {property : α → Prop} {image : α → β} {items : List α}
    {results : List β} :
    List.Forall₂ (fun item result => property item ∧ result = image item) items results ↔
      (∀ item ∈ items, property item) ∧ results = items.map image := by
  rw [List.forall₂_and_left, eq_comm, ← List.forall₂_eq_eq_eq, List.forall₂_map_left_iff]
  simp only [eq_comm]

end Bindery.Steps
