import Bindery.Data.Position
import Bindery.Data.Rest
import Bindery.Format.Unrepresentable

/-!
# What is wrong with a TOML text

Every flaw names the place it was found at, save at the end of the text.
-/

namespace Bindery.Format.Toml

open Bindery.Data

/-- The names that lead to an entry. -/
abbrev Path := List String

/-- A path as messages show it: its names in parentheses. -/
def showPath : Path → String
  | [] => "()"
  | [name] => "(" ++ Code.Literal.quoted name ++ ",)"
  | names => "(" ++ ", ".intercalate (names.map Code.Literal.quoted) ++ ")"

/-- What is wrong with a text. -/
inductive Flaw where
  | invalidStatement
  | expectedLineEnd
  | expectedTableEnd
  | expectedListEnd
  | expectedEquals
  | expectedQuote (quote : String)
  | invalidKey
  | invalidValue
  | invalidDate
  | invalidCharacter (character : Char)
  | illegalCharacter (character : Char)
  | unterminated
  | unescaped
  | invalidCode
  | noCharacter
  | unclosedArray
  | unclosedTable
  | duplicateKey (name : String)
  | declaredTwice (path : Path)
  | immutable (path : Path)
  | redefined (path : Path)
  | overwritten
  deriving DecidableEq, Repr

/-- The wording of a flaw. -/
def Flaw.message : Flaw → String
  | invalidStatement => "Invalid statement"
  | expectedLineEnd => "Expected newline or end of document after a statement"
  | expectedTableEnd => "Expected ']' at the end of a table declaration"
  | expectedListEnd => "Expected ']]' at the end of an array declaration"
  | expectedEquals => "Expected '=' after a key in a key/value pair"
  | expectedQuote quote => "Expected " ++ Code.Literal.quoted quote
  | invalidKey => "Invalid initial character for a key part"
  | invalidValue => "Invalid value"
  | invalidDate => "Invalid date or datetime"
  | invalidCharacter character =>
    "Found invalid character " ++ Code.Literal.quoted (String.singleton character)
  | illegalCharacter character =>
    "Illegal character " ++ Code.Literal.quoted (String.singleton character)
  | unterminated => "Unterminated string"
  | unescaped => "Unescaped '\\' in a string"
  | invalidCode => "Invalid hex value"
  | noCharacter => "Escaped character is not a Unicode scalar value"
  | unclosedArray => "Unclosed array"
  | unclosedTable => "Unclosed inline table"
  | duplicateKey name => "Duplicate inline table key " ++ Code.Literal.quoted name
  | declaredTwice path => "Cannot declare " ++ showPath path ++ " twice"
  | immutable path => "Cannot mutate immutable namespace " ++ showPath path
  | redefined path => "Cannot redefine namespace " ++ showPath path
  | overwritten => "Cannot overwrite a value"

/-- Why a text could not be read. -/
inductive Error where
  | flaw (flaw : Flaw) (place : Option Position)
  | unrepresentable (flaw : Unrepresentable)
  deriving DecidableEq, Repr

/-- What is reported about a text that could not be read. -/
def Error.message : Error → String
  | .flaw kind place =>
    kind.message ++ " (at " ++
      (match place with
        | some position =>
          "line " ++ toString position.line ++ ", column " ++ toString position.column
        | none => "end of document") ++
      ")"
  | .unrepresentable kind => kind.message

/-- An error during reading, which knows its place by the number of characters left. -/
inductive Stop where
  | flaw (flaw : Flaw) (left : Nat)
  | unrepresentable (flaw : Unrepresentable)

/-- What a reading step gives: a result and what is left of the text, or an error. -/
abbrev Step (α : Type) (text : List Char) := Except Stop (α × Rest text)

/-- Whether a character is a space or a tab. -/
def isWhite (c : Char) : Bool := c = ' ' || c = '\t'

/-- Whether a character is a control other than a tab. -/
def isControl (c : Char) : Bool := (c.toNat < 0x20 && c ≠ '\t') || c.toNat = 0x7F

/-- A text without spaces and tabs at its start. -/
def skipWhite (text : List Char) : List Char := text.dropWhile isWhite

theorem length_skipWhite_le (text : List Char) : (skipWhite text).length ≤ text.length :=
  length_dropWhile_le isWhite text

end Bindery.Format.Toml
