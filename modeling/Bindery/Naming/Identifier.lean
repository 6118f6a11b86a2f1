import Bindery.Code.Words
import Bindery.Text.Blank
import Bindery.Text.Fold

/-!
# Identifiers from arbitrary names

An API may call its things anything.  `className` turns a name into the name of a class, and
`plain` and `member` turn it into the name of a function and of a field.  Accents are dropped,
separators become word breaks or underscores, and what is left keeps clear of keywords.
-/

namespace Bindery.Naming

open Bindery.Text Bindery.Code

/-- Whether a character is an ASCII letter or digit. -/
def isWordChar (c : Char) : Bool := c.isAlphanum

/-! ## Class names -/

/-- The maximal runs of letters and digits of a text. -/
def words (text : List Char) : List (List Char) :=
  match text with
  | [] => []
  | c :: rest =>
    if isWordChar c then
      (c :: rest.takeWhile isWordChar) :: words (rest.dropWhile isWordChar)
    else words rest
termination_by text.length
decreasing_by
  · have := (List.dropWhile_sublist isWordChar (l := rest)).length_le
    simp only [List.length_cons]; omega
  · simp

/-- A word with its first letter in upper case. -/
def capitalize : List Char → List Char
  | [] => []
  | c :: rest => c.toUpper :: rest

/-- A text that does not start with a digit, by way of an underscore. -/
def guardDigit (text : List Char) : List Char :=
  match text with
  | c :: _ => if c.isDigit then '_' :: text else text
  | [] => []

/-- The name of a class for a name without letters and digits. -/
def unnamed : String := "UnnamedType"

/-- The name of a class: the words of a name, each with a capital, without anything between
them. -/
def className (name : String) : String :=
  match guardDigit ((words (fold name.toList)).flatMap capitalize) with
  | [] => unnamed
  | text => String.ofList text

/-- The name of the class that holds an operation's parameters. -/
def optionsClass (operation : String) : String := className operation ++ "Params"

/-- The name of the class that builds the values of an options class. -/
def builderClass (options : String) : String := options ++ "Builder"

/-! ## Names of functions and fields -/

/-- A name with an underscore after it if it is a keyword. -/
def escapeKeyword (name : String) : String :=
  if name ∈ keywords then name ++ "_" else name

/-- Whether a character separates the words of a name. -/
def isSeparator (c : Char) : Bool := c = '-' || c = '.' || isBlank c

/-- A text with one underscore in place of each run of separators. -/
def joinWords (text : List Char) : List Char :=
  match text with
  | [] => []
  | c :: rest =>
    if isSeparator c then '_' :: joinWords (rest.dropWhile isSeparator)
    else c :: joinWords rest
termination_by text.length
decreasing_by
  · have := (List.dropWhile_sublist isSeparator (l := rest)).length_le
    simp only [List.length_cons]; omega
  · simp

/-- Whether a character may stand in a derived name. -/
def isNameChar (c : Char) : Bool := isWordChar c || c = '_'

/-- Why a name could not be derived: there was nothing to derive it from. -/
inductive EmptyName where
  | emptyName
  deriving DecidableEq, Repr

/-- What is reported about an empty name. -/
def EmptyName.message : EmptyName → String
  | emptyName => "Name cannot be empty"

/-- The name of a function or argument: letters, digits and underscores only. Keywords are
escaped before accents are taken off. The result is empty if no such character is left. -/
def plain (name : String) : Except EmptyName String :=
  if name.isEmpty then .error .emptyName
  else
    .ok <| String.ofList <| guardDigit <|
      (joinWords (fold (escapeKeyword name).toList)).filter isNameChar

/-- The name of a model's field or a builder's setter, given the plain form of its name.  A
leading underscore would make it private and an empty name is none, so both get a word in front;
names that are taken get an underscore after them. -/
def guardMember (reserved : List String) (name : String) : String :=
  let visible :=
    if name.isEmpty then "field"
    else if name.toList.head? = some '_' then "field" ++ name
    else name
  if visible ∈ modelAttributes ∨ visible ∈ reserved then visible ++ "_" else visible

/-- The name of a model's field or a builder's setter. -/
def member (name : String) (reserved : List String) : Except EmptyName String :=
  (plain name).map (guardMember reserved)

end Bindery.Naming
