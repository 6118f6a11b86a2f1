import Bindery.Data.Rest

/-!
# Reading characters

A set of characters is read step by step: a step takes a byte, and maybe some that follow it, and
gives characters.  Bytes that mean nothing give the replacement character.
-/

namespace Bindery.Format.Charset

open Bindery.Data

/-- The character in the place of bytes that mean nothing. -/
def replacement : Char := '\ufffd'

/-- What a step gives: characters, how many bytes after the first it takes, and what the bytes
before the next step leave behind. -/
structure Step (σ : Type) where
  chars : List Char
  more : Nat := 0
  state : σ

namespace Step

variable {σ : Type}

/-- A step to one character. -/
def char (state : σ) (c : Char) (more : Nat := 0) : Step σ := ⟨[c], more, state⟩

/-- A step over bytes that mean nothing. -/
def replaced (state : σ) (more : Nat := 0) : Step σ := ⟨[replacement], more, state⟩

/-- A step over bytes that give no character. -/
def silent (state : σ) (more : Nat := 0) : Step σ := ⟨[], more, state⟩

/-- A step to a character if there is one. -/
def ofOption (state : σ) (c : Option Char) (more : Nat := 0) : Step σ :=
  match c with
  | some c => .char state c more
  | none => .replaced state

end Step

/-- How the first of some bytes is read. -/
abbrev Reader (σ : Type) := σ → UInt8 → List UInt8 → Step σ

/-- Reads bytes to the end, and tells what is left behind there. -/
def readAll {σ : Type} (reader : Reader σ) (state : σ) : List UInt8 → List Char × σ
  | [] => ([], state)
  | byte :: rest =>
    let step := reader state byte rest
    let (chars, state) := readAll reader step.state (rest.drop step.more)
    (step.chars ++ chars, state)
termination_by bytes => bytes.length
decreasing_by exact length_drop_lt_cons _ byte rest

/-- Reads bytes with steps that leave nothing behind. -/
def readPlain (reader : Reader Unit) (bytes : List UInt8) : List Char :=
  (readAll reader () bytes).1

end Bindery.Format.Charset
