import Bindery.Code.Imports
import Bindery.Code.Render

/-!
# Types of emitted code

A `Mapped` is a declared type as emitted code writes it: the annotation, and what has to be
imported for the annotation to be read.
-/

namespace Bindery.Typing

open Bindery.Code

/-- An annotation with what it refers to: the names it needs from library modules and the model
classes it mentions. -/
structure Mapped where
  expr : Expr
  imports : Imports := {}
  models : List String := []
  /-- Whether the type is that of plain texts, possibly absent. -/
  isText : Bool := false
  /-- Whether the annotation admits the absence of a value. -/
  nullable : Bool := false
  deriving Repr

namespace Mapped

/-- Whether the annotation is the one that admits everything. -/
def isAny (type : Mapped) : Bool :=
  match type.expr with
  | .name id => id = "Any"
  | _ => false

/-- The type widened by the absence of a value, unless it admits it already. -/
def optional (type : Mapped) : Mapped :=
  if type.nullable || type.isAny then type
  else { type with expr := .union type.expr .none, nullable := true }

/-- The annotation as text. -/
def render (type : Mapped) : String := type.expr.render

@[simp] theorem optional_imports (type : Mapped) : type.optional.imports = type.imports := by
  unfold optional; split <;> rfl

@[simp] theorem optional_models (type : Mapped) : type.optional.models = type.models := by
  unfold optional; split <;> rfl

@[simp] theorem optional_isText (type : Mapped) : type.optional.isText = type.isText := by
  unfold optional; split <;> rfl

theorem optional_of_admits {type : Mapped} (admits : (type.nullable || type.isAny) = true) :
    type.optional = type := by
  unfold optional; rw [if_pos admits]

theorem admits_optional (type : Mapped) :
    (type.optional.nullable || type.optional.isAny) = true := by
  by_cases h : (type.nullable || type.isAny) = true
  · rw [optional_of_admits h]; exact h
  · unfold optional; rw [if_neg h]; rfl

/-- Widening a type a second time changes nothing. -/
@[simp] theorem optional_optional (type : Mapped) : type.optional.optional = type.optional :=
  optional_of_admits (admits_optional type)

end Mapped

end Bindery.Typing
