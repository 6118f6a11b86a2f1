/-!
# Compressed data

Reads data in the deflate format: blocks of bytes that are stored as they are, or of symbols under
a code with lengths that vary.  A symbol is a byte, the end of the block, or a length that goes
with a distance to bytes that came before.  Data can be wrapped with a checksum.  What breaks off
is read as far as it goes.
-/

namespace Bindery.Format.Inflate

/-- What is wrong with compressed data. -/
inductive Flaw where
  | header | method | window | dictionary | check
  | blockType | storedLength | tooManySymbols | lengthCode | lengthRepeat | noBlockEnd
  | literalCode | distanceCode | badLiteral | badDistance | tooFarBack
  deriving DecidableEq, Repr

/-- What is reported about compressed data. -/
def Flaw.message (flaw : Flaw) : String :=
  let described (text : String) := "Error -3 while decompressing data: " ++ text
  match flaw with
  | header => described "incorrect header check"
  | method => described "unknown compression method"
  | window => described "invalid window size"
  | dictionary => "Error 2 while decompressing data"
  | check => described "incorrect data check"
  | blockType => described "invalid block type"
  | storedLength => described "invalid stored block lengths"
  | tooManySymbols => described "too many length or distance symbols"
  | lengthCode => described "invalid code lengths set"
  | lengthRepeat => described "invalid bit length repeat"
  | noBlockEnd => described "invalid code -- missing end-of-block"
  | literalCode => described "invalid literal/lengths set"
  | distanceCode => described "invalid distances set"
  | badLiteral => described "invalid literal/length code"
  | badDistance => described "invalid distance code"
  | tooFarBack => described "invalid distance too far back"

/-- Why reading stops: the data breaks off, or is wrong. -/
inductive Stop where
  | cut
  | flaw (flaw : Flaw)
  deriving DecidableEq, Repr

/-! ## Bits -/

/-- The bits of a byte, the lowest first. -/
def bitsOfByte (byte : UInt8) : List Bool := (List.range 8).map byte.toNat.testBit

/-- The bits of bytes. -/
def bitsOf (bytes : List UInt8) : List Bool := bytes.flatMap bitsOfByte

/-- The number that bits make, the lowest first. -/
def number (bits : List Bool) : Nat :=
  bits.foldr (fun bit rest => 2 * rest + bit.toNat) 0

/-- Reads something from the start of bits and gives back the bits after it. -/
abbrev Reader (α : Type) := StateT (List Bool) (Except Stop) α

/-- Reads a number of some bits. -/
def readNumber (count : Nat) : Reader Nat := do
  let bits ← get
  let first := bits.take count
  if first.length < count then throw .cut
  set (bits.drop count)
  return number first

/-- Leaves out the bits up to the next whole byte. -/
def align : Reader Unit := modify fun bits => bits.drop (bits.length % 8)

/-! ## Codes -/

/-- A code: how many symbols have each length from one on, and the symbols by length. -/
structure Code where
  counts : List Nat
  symbols : Array Nat
  deriving Repr

namespace Code

/-- The greatest length of a code. -/
def maxLength : Nat := 15

/-- The code in which symbols have the given lengths; those of length zero are not in it. -/
def ofLengths (lengths : List Nat) : Code where
  counts := (List.range maxLength).map fun length => lengths.countP (· = length + 1)
  symbols := ((List.range maxLength).flatMap fun length =>
    (lengths.zipIdx.filter (·.1 = length + 1)).map (·.2)).toArray

/-- The longest length in a code. -/
def longest (code : Code) : Nat :=
  maxLength - (code.counts.reverse.takeWhile (· = 0)).length

/-- The places for longer symbols that lengths leave, and nothing if they take too many. -/
def left (counts : List Nat) : Option Nat :=
  counts.foldlM (fun free count => if 2 * free < count then none else some (2 * free - count)) 1

/-- Whether lengths make a code. Where a few symbols suffice, one alone can have a length of one. -/
def isValid (code : Code) (alone : Bool) : Bool :=
  code.longest = 0 ||
    (left code.counts).any fun free => free = 0 || (alone && code.longest = 1)

/-- Reads a symbol, given the lengths that are left, and the first code and the number of the first
symbol of the next length. -/
def readFrom (code : Code) (wrong : Flaw) (value first index : Nat) : List Nat → Reader Nat
  | [] => throw (.flaw wrong)
  | count :: longer => do
    let value := 2 * value + (← readNumber 1)
    if value < first + count then
      match code.symbols[index + (value - first)]? with
      | some symbol => return symbol
      | none => throw (.flaw wrong)
    else code.readFrom wrong value (2 * (first + count)) (index + count) longer

/-- Reads a symbol. -/
def read (code : Code) (wrong : Flaw) : Reader Nat :=
  code.readFrom wrong 0 0 0 (code.counts.take (max 1 code.longest))

end Code

/-- The code of the lengths of bytes and distances where a block does not bring its own. -/
def fixedLiterals : Code :=
  .ofLengths (List.replicate 144 8 ++ List.replicate 112 9 ++ List.replicate 24 7 ++
    List.replicate 8 8)

/-- The code of distances where a block does not bring its own. -/
def fixedDistances : Code := .ofLengths (List.replicate 32 5)

/-- The order in which a block gives the lengths of its code for lengths. -/
def lengthOrder : List Nat := [16, 17, 18, 0, 8, 7, 9, 6, 10, 5, 11, 4, 12, 3, 13, 2, 14, 1, 15]

/-- Reads lengths until there are as many as are wanted. A length can be repeated. -/
def readLengths (code : Code) (wanted : Nat) : Nat → List Nat → Reader (List Nat)
  | 0, read => return read.reverse
  | fuel + 1, read => do
    if wanted ≤ read.length then return read.reverse
    let symbol ← if code.longest = 0 then (readNumber 1).map fun _ => 0 else code.read .lengthCode
    let again (length count : Nat) : Reader (List Nat) :=
      if wanted < read.length + count then throw (.flaw .lengthRepeat)
      else readLengths code wanted fuel (List.replicate count length ++ read)
    match symbol with
    | 16 =>
      let count ← readNumber 2
      match read with
      | [] => throw (.flaw .lengthRepeat)
      | last :: _ => again last (3 + count)
    | 17 => again 0 (3 + (← readNumber 3))
    | 18 => again 0 (11 + (← readNumber 7))
    | length => again length 1

/-- Reads the codes of a block: for bytes and lengths, and for distances. -/
def readCodes : Reader (Code × Code) := do
  let literals := 257 + (← readNumber 5)
  let distances := 1 + (← readNumber 5)
  let count := 4 + (← readNumber 4)
  if 286 < literals || 30 < distances then throw (.flaw .tooManySymbols)
  let given ← (lengthOrder.take count).mapM fun symbol => do return (symbol, ← readNumber 3)
  let code := Code.ofLengths ((List.range 19).map fun symbol => (given.lookup symbol).getD 0)
  unless code.isValid false do throw (.flaw .lengthCode)
  let lengths ← readLengths code (literals + distances) (literals + distances) []
  if lengths[256]? = some 0 then throw (.flaw .noBlockEnd)
  let literalCode := Code.ofLengths (lengths.take literals)
  unless literalCode.isValid true do throw (.flaw .literalCode)
  let distanceCode := Code.ofLengths (lengths.drop literals)
  unless distanceCode.isValid true do throw (.flaw .distanceCode)
  return (literalCode, distanceCode)

/-! ## Blocks -/

/-- What came out so far. -/
abbrev Output := Array UInt8

/-- How a part of the data ends: well with the bits after it, or not. What came out counts in
either case. -/
abbrev Ending := Except Stop (List Bool)

/-- The length that a symbol above the bytes stands for: the least, and the bits that add to it. -/
def lengthOf? (symbol : Nat) : Option (Nat × Nat) :=
  if symbol < 265 then some (symbol - 254, 0)
  else if symbol < 285 then
    let extra := (symbol - 261) / 4
    some ((4 + (symbol - 265) % 4) * Nat.pow 2 extra + 3, extra)
  else if symbol = 285 then some (258, 0)
  else none

/-- The distance that a symbol stands for: the least, and the bits that add to it. -/
def distanceOf? (symbol : Nat) : Option (Nat × Nat) :=
  if symbol < 4 then some (symbol + 1, 0)
  else if symbol < 30 then
    let extra := symbol / 2 - 1
    some ((2 + symbol % 2) * Nat.pow 2 extra + 1, extra)
  else none

/-- What a symbol stands for. -/
inductive Item where
  | byte (byte : UInt8)
  | copy (length distance : Nat)
  | stop
  deriving Repr

/-- Reads what a symbol stands for, given how much came out. -/
def readItem (codes : Code × Code) (size : Nat) : Reader Item := do
  let symbol ← codes.1.read .badLiteral
  if symbol < 256 then return .byte (UInt8.ofNat symbol)
  else if symbol = 256 then return .stop
  else match lengthOf? symbol with
    | none => throw (.flaw .badLiteral)
    | some (length, extra) =>
      let length := length + (← readNumber extra)
      match distanceOf? (← codes.2.read .badDistance) with
      | none => throw (.flaw .badDistance)
      | some (distance, extra) =>
        let distance := distance + (← readNumber extra)
        if size < distance then throw (.flaw .tooFarBack)
        return .copy length distance

/-- Output with bytes copied from a distance. -/
def copy (distance : Nat) (output : Output) : Nat → Output
  | 0 => output
  | count + 1 => copy distance (output.push (output[output.size - distance]?.getD 0)) count

/-- Reads symbols until the end of their block. Each takes a bit at least, so there are as many at
most as there are bits. -/
def readItems (codes : Code × Code) (output : Output) : Nat → List Bool → Output × Ending
  | 0, _ => (output, .error .cut)
  | fuel + 1, bits =>
    match (readItem codes output.size).run bits with
    | .error stop => (output, .error stop)
    | .ok (.stop, bits) => (output, .ok bits)
    | .ok (.byte byte, bits) => readItems codes (output.push byte) fuel bits
    | .ok (.copy length distance, bits) =>
      readItems codes (copy distance output length) fuel bits

/-- Reads bytes that are stored as they are, and as many of them as are there. -/
def readStored (output : Output) : Nat → List Bool → Output × Ending
  | 0, bits => (output, .ok bits)
  | count + 1, bits =>
    match (readNumber 8).run bits with
    | .error stop => (output, .error stop)
    | .ok (byte, bits) => readStored (output.push (UInt8.ofNat byte)) count bits

/-- Reads the length of stored bytes. -/
def readStoredLength : Reader Nat := do
  align
  let both ← readNumber 32
  if both % 65536 + both / 65536 ≠ 65535 then throw (.flaw .storedLength)
  return both % 65536

/-- The kinds of blocks. -/
inductive Block where
  | stored (length : Nat)
  | coded (codes : Code × Code)

/-- Reads the start of a block: whether it is the last, and its kind. -/
def readBlock : Reader (Bool × Block) := do
  let start ← readNumber 3
  let block ←
    match start / 2 with
    | 0 => Block.stored <$> readStoredLength
    | 1 => pure (.coded (fixedLiterals, fixedDistances))
    | 2 => Block.coded <$> readCodes
    | _ => throw (.flaw .blockType)
  return (start % 2 = 1, block)

/-- Reads blocks to the last. Each takes a bit at least. -/
def readBlocks (output : Output) : Nat → List Bool → Output × Ending
  | 0, _ => (output, .error .cut)
  | fuel + 1, bits =>
    match readBlock.run bits with
    | .error stop => (output, .error stop)
    | .ok ((last, block), bits) =>
      let (output, ending) :=
        match block with
        | .stored length => readStored output length bits
        | .coded codes => readItems codes output bits.length bits
      match ending with
      | .error stop => (output, .error stop)
      | .ok bits => if last then (output, .ok bits) else readBlocks output fuel bits

/-- Reads blocks from the start of bits. -/
def inflate (bits : List Bool) : Output × Ending := readBlocks #[] (bits.length + 1) bits

/-! ## Wrapped data -/

/-- The checksum of bytes. -/
def checksum (bytes : Output) : Nat :=
  let (low, high) := bytes.foldl
    (fun (low, high) byte =>
      let low := (low + byte.toNat) % 65521
      (low, (high + low) % 65521)) (1, 0)
  65536 * high + low

/-- Reads the header of wrapped data. -/
def readHeader : Reader Unit := do
  let first ← readNumber 8
  let second ← readNumber 8
  if (256 * first + second) % 31 ≠ 0 then throw (.flaw .header)
  if first % 16 ≠ 8 then throw (.flaw .method)
  if 7 < first / 16 then throw (.flaw .window)
  if second / 32 % 2 = 1 then
    let _ ← readNumber 32
    throw (.flaw .dictionary)

/-- Reads the checksum after wrapped data. -/
def readCheck (expected : Nat) : Reader Unit := do
  align
  let found ← (List.range 4).foldlM (fun read _ => do return 256 * read + (← readNumber 8)) 0
  if found ≠ expected then throw (.flaw .check)

/-- The bytes of data, or what is wrong with them. What breaks off is not wrong. -/
def result (output : Output) (ending : Ending) : Except Flaw (List UInt8) :=
  match ending with
  | .error (.flaw flaw) => .error flaw
  | _ => .ok output.toList

/-- Reads data with blocks alone. -/
def readRaw (bytes : List UInt8) : Except Flaw (List UInt8) :=
  let (output, ending) := inflate (bitsOf bytes)
  result output ending

/-- Reads wrapped data. -/
def readWrapped (bytes : List UInt8) : Except Flaw (List UInt8) :=
  match readHeader.run (bitsOf bytes) with
  | .error stop => result #[] (.error stop)
  | .ok (_, bits) =>
    match inflate bits with
    | (output, .ok bits) =>
      result output (((readCheck (checksum output)).run bits).map (·.2))
    | (output, ending) => result output ending

/-- Reads data that may be wrapped. -/
def read (bytes : List UInt8) : Except Flaw (List UInt8) :=
  match readWrapped bytes with
  | .ok read => .ok read
  | .error _ => readRaw bytes

end Bindery.Format.Inflate
