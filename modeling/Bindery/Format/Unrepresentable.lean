import Bindery.Code.Literal
import Bindery.Data.Moment
import Bindery.Text.Digits

/-!
# Data that cannot be represented

A text can be well formed and still hold something that stands for nothing: a date that is in no
calendar, an integer with too many digits, a number that is none, a text that is its own part, or
more data in each other than fits.
-/

namespace Bindery.Format

open Bindery.Data

/-- Why something has no value. -/
inductive Unrepresentable where
  /-- An integer has more digits than are read. -/
  | hugeInteger (digits : Nat)
  /-- A text is no integer. -/
  | notInteger (base : Nat) (text : String)
  /-- A text is no real number. -/
  | notReal (text : String)
  /-- An integer has no real number near it. -/
  | tooLargeForReal
  /-- A number has no characters. -/
  | emptyNumber
  /-- A word is no truth value. -/
  | notTruth (word : String)
  /-- A text has not the form of a point in time. -/
  | notTime
  /-- A point in time is not written as a text. -/
  | timeWithoutText
  /-- A point in time does not exist. -/
  | noDate (problem : NoDate)
  /-- A text is its own part. -/
  | endless
  /-- Data lies too deep in other data. -/
  | tooDeep
  | arrayTooDeep
  | objectTooDeep
  /-- A code stands for no character. -/
  | noCharacter (code : Nat)
  deriving DecidableEq, Repr

/-- What is reported about data without a value. -/
def Unrepresentable.message : Unrepresentable → String
  | hugeInteger digits =>
    "Exceeds the limit (" ++ toString Text.maxDigits ++
      " digits) for integer string conversion: value has " ++ toString digits ++
      " digits; use sys.set_int_max_str_digits() to increase the limit"
  | notInteger base text =>
    "invalid literal for int() with base " ++ toString base ++ ": " ++
      String.ofList ((Code.Literal.quoted text).toList.take 200)
  | notReal text => "could not convert string to float: " ++ Code.Literal.quoted text
  | tooLargeForReal => "int too large to convert to float"
  | emptyNumber => "string index out of range"
  | notTruth word => Code.Literal.quoted word
  | notTime => "'NoneType' object has no attribute 'groupdict'"
  | timeWithoutText => "expected string or bytes-like object, got 'list'"
  | noDate problem => problem.message
  | endless | tooDeep => "maximum recursion depth exceeded"
  | arrayTooDeep =>
    "maximum recursion depth exceeded while decoding a JSON array from a unicode string"
  | objectTooDeep =>
    "maximum recursion depth exceeded while decoding a JSON object from a unicode string"
  | noCharacter code =>
    if code < 0x80000000 then "chr() arg not in range(0x110000)"
    else "Python int too large to convert to C int"

end Bindery.Format
