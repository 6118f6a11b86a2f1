import Bindery.Client.Runtime
import Mathlib.Data.List.Basic

/-!
# The lines of the runtime module

The runtime module is the only one that is not put together from items: it is a fixed text around
the base URL of a client.  What it imports and defines is read off its lines, and these are the same
for every client but for the one with the URL.
-/

namespace Bindery.Code

/-! ## Texts and their lines -/

/-- A text starts with another one. -/
def StartsWith (opening text : String) : Prop := ∃ rest, text = opening ++ rest

/-- The bytes of a text; they are compared sooner than its characters. -/
def bytesOf (text : String) : List UInt8 := text.toByteArray.data.toList

theorem bytesOf_append (first second : String) :
    bytesOf (first ++ second) = bytesOf first ++ bytesOf second := by
  simp [bytesOf, String.toByteArray_append]

theorem StartsWith.isPrefixOf_bytesOf {opening text : String} (starts : StartsWith opening text) :
    (bytesOf opening).isPrefixOf (bytesOf text) = true := by
  obtain ⟨rest, rfl⟩ := starts
  rw [bytesOf_append, List.isPrefixOf_iff_prefix]
  exact List.prefix_append ..

/-- A line at the top of a module that imports something. -/
def ImportsAt (line : String) : Prop :=
  ∃ opening ∈ ["import ", "from "], StartsWith opening line

/-- A line at the top of a module that defines a name: that of a class, of a function or of a
value. -/
def DefinesAt (line name : String) : Prop :=
  (∃ opening ∈ ["class ", "def ", "async def "], StartsWith (opening ++ name ++ "(") line) ∨
    StartsWith (name ++ " = ") line

/-- A line whose start is known and differs from those of imports imports nothing. -/
theorem not_importsAt_append (first rest : String)
    (apart : ∀ opening ∈ ["import ", "from "],
      (bytesOf opening).isPrefixOf (bytesOf first) = false ∧
        (bytesOf first).isPrefixOf (bytesOf opening) = false) :
    ¬ ImportsAt (first ++ rest) := by
  rintro ⟨opening, isOpening, starts⟩
  obtain ⟨shorter, longer⟩ := apart opening isOpening
  have prefixes := starts.isPrefixOf_bytesOf
  rw [bytesOf_append, List.isPrefixOf_iff_prefix] at prefixes
  rcases List.prefix_or_prefix_of_prefix prefixes (List.prefix_append ..) with inFirst | inOpening
  · exact Bool.false_ne_true (shorter.symm.trans (List.isPrefixOf_iff_prefix.2 inFirst))
  · exact Bool.false_ne_true (longer.symm.trans (List.isPrefixOf_iff_prefix.2 inOpening))

theorem startsWith_render_exports (names : List String) :
    StartsWith "__all__" (exports names).render :=
  ⟨_, String.append_assoc ..⟩

/-- Lines are put together in two parts, with a text between the parts that ends one line and
starts none. -/
theorem intercalate_append_intercalate {separator text tail : String} {before after : List String}
    (some_after : after ≠ []) :
    separator.intercalate (before ++ [text]) ++ tail ++ separator.intercalate ("" :: after) =
      separator.intercalate (before ++ (text ++ tail) :: after) := by
  induction before with
  | nil =>
      rw [List.nil_append, List.nil_append, String.intercalate_singleton,
        String.intercalate_cons_of_ne_nil some_after, String.intercalate_cons_of_ne_nil some_after,
        String.empty_append]
      simp only [String.append_assoc]
  | cons first rest ih =>
      have later (line : String) (more : List String) : rest ++ line :: more ≠ [] :=
        List.append_ne_nil_of_right_ne_nil _ (List.cons_ne_nil _ _)
      rw [List.cons_append, List.cons_append, String.intercalate_cons_of_ne_nil (later _ _),
        String.intercalate_cons_of_ne_nil (later _ _), ← ih]
      simp only [String.append_assoc]

end Bindery.Code

namespace Bindery.Client

open Bindery.Code Bindery.Naming

/-! ## The runtime module -/

/-- The lines of the runtime module of a client. -/
def runtimeLines (url : String) : List String :=
  runtimeHeader ++ (exports runtimeNames).render :: "" ::
    ("BASE_URL = " ++ Literal.quoted url) :: runtimeBody

theorem intercalate_runtimeLines (url : String) :
    "\n".intercalate (runtimeLines url) = runtimeText url := by
  have start : runtimeHeader ++ [(exports runtimeNames).render, "", "BASE_URL = "] =
      (runtimeHeader ++ [(exports runtimeNames).render, ""]) ++ ["BASE_URL = "] := by
    rw [List.append_assoc]
    rfl
  have body : runtimeBody ≠ [] := List.cons_ne_nil _ _
  rw [runtimeText, runtimeStart, runtimeEnd, start, intercalate_append_intercalate body,
    List.append_assoc]
  rfl

/-- The import statements of the runtime module that take names from a module. -/
def runtimeImports : List Import := [
  ⟨0, "collections.abc", ["Mapping", "Sequence"]⟩,
  ⟨0, "typing", ["Any", "Generic", "TypeVar"]⟩,
  ⟨0, "pydantic", ["BaseModel", "ConfigDict", "Field", "TypeAdapter", "ValidationError"]⟩]

/-- Beside a whole module, the runtime module imports names. -/
theorem runtime_importsAt {url line : String} (member : line ∈ runtimeLines url)
    (imports : ImportsAt line) :
    line = "import httpx" ∨ ∃ statement ∈ runtimeImports, line = statement.render := by
  have fixed : ∀ line ∈ runtimeHeader ++ "" :: runtimeBody,
      (∃ opening ∈ ["import ", "from "], (bytesOf opening).isPrefixOf (bytesOf line) = true) →
        line = "import httpx" ∨ ∃ statement ∈ runtimeImports, line = statement.render := by
    decide +kernel
  have opened : ∃ opening ∈ ["import ", "from "],
      (bytesOf opening).isPrefixOf (bytesOf line) = true := by
    obtain ⟨opening, isOpening, starts⟩ := imports
    exact ⟨opening, isOpening, starts.isPrefixOf_bytesOf⟩
  simp only [runtimeLines, List.mem_append, List.mem_cons] at member
  rcases member with inHeader | isExports | rfl | rfl | inBody
  · exact fixed line (List.mem_append_left _ inHeader) opened
  · obtain ⟨rest, starts⟩ := startsWith_render_exports runtimeNames
    rw [isExports, starts] at imports
    exact absurd imports (not_importsAt_append "__all__" rest (by decide +kernel))
  · exact fixed "" (List.mem_append_right _ List.mem_cons_self) opened
  · exact absurd imports (not_importsAt_append "BASE_URL = " _ (by decide +kernel))
  · exact fixed line (List.mem_append_right _ (List.mem_cons_of_mem _ inBody)) opened

end Bindery.Client
