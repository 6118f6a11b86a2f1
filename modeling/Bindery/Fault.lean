import Bindery.Text.Case

/-!
# Faults

The ways in which generating a client can go wrong that are the fault of its input or of its
surroundings, with what is reported about each.  Details that are not known are left out of the
report, and so is a text that is empty.
-/

namespace Bindery

open Text

/-- What lies behind a fault: the text it is reported with, if there is one. -/
structure Cause where
  kind : String
  text : Option String
  deriving DecidableEq, Repr

/-- A fault that is reported to the user. -/
inductive Fault where
  /-- A description could not be fetched or parsed. -/
  | load (source : String) (cause : Option Cause)
  /-- What was loaded is no API description. -/
  | invalidDocument (source : String) (issues : List String)
  /-- Code could not be generated. -/
  | generation (message : String) (during : Option String) (cause : Option Cause)
  /-- A declared type has no annotation. -/
  | unmappableType (type reason : String) (operation parameter : Option String)
  /-- A derived name is taken. -/
  | nameCollision (operation identifier reason : String)
  /-- The request of an operation cannot be expressed. -/
  | endpoint (operation : String) (method path : Option String) (cause : Option Cause)
  /-- The configuration lacks something. -/
  | configuration (message : String) (file field : Option String)
  /-- A file could not be written. -/
  | output (path : String) (cause : Option Cause)
  deriving DecidableEq, Repr

namespace Fault

/-- A text that is there and not empty, with what surrounds it; nothing otherwise. -/
def clause (before : String) (text : Option String) (after : String) : String :=
  match text with
  | some text => if text.isEmpty then "" else before ++ text ++ after
  | none => ""

/-- A cause after a colon. A cause without text of its own adds nothing. -/
def because (cause : Option Cause) : String :=
  match cause.bind (·.text) with
  | some text => ": " ++ text
  | none => ""

/-- What is reported about a fault. -/
def message : Fault → String
  | load source cause => "Failed to load document from '" ++ source ++ "'" ++ because cause
  | invalidDocument source issues =>
    "Document validation failed for '" ++ source ++ "'" ++
      (if issues.isEmpty then "" else ": " ++ "; ".intercalate issues)
  | generation message during cause =>
    message ++ clause " (while generating " during ")" ++ because cause
  | unmappableType type reason operation parameter =>
    "Cannot map type " ++ type ++ ": " ++ reason ++ clause " (parameter '" parameter "')" ++
      clause " (while generating " operation ")"
  | nameCollision operation identifier reason =>
    "Name '" ++ identifier ++ "' collides with " ++ reason ++
      clause " (while generating " (some operation) ")"
  | endpoint operation method path cause =>
    "Failed to generate endpoint '" ++ operation ++ "'" ++
      (match method, path with
        | some method, some path =>
          if method.isEmpty || path.isEmpty then "" else " (" ++ upper method ++ " " ++ path ++ ")"
        | _, _ => "") ++
      clause " (while generating " (some operation) ")" ++ because cause
  | configuration message file field =>
    message ++ clause " in '" file "'" ++ clause " (field: " field ")"
  | output path cause => "Failed to write output to '" ++ path ++ "'" ++ because cause

end Fault

end Bindery
