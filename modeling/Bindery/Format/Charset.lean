import Bindery.Format.Charset.Backslash
import Bindery.Format.Charset.Escapes
import Bindery.Format.Charset.LabelTable
import Bindery.Format.Charset.Unicode
import Bindery.Format.Punycode

/-!
# Sets of characters

Which characters bytes stand for.  A set is asked for by a label, in which letters of either case
are the same and so are all marks between letters and digits.  Bytes that mean nothing in a set
are read as the replacement character.
-/

namespace Bindery.Format

open Bindery.Data Bindery.Text

/-- A set of characters in bytes. -/
inductive Charset where
  /-- Unicode in units of one byte, with or without a mark at its start. -/
  | utf8 (marked : Bool)
  /-- Unicode in units of two bytes. Where the order is not given, a mark tells it. -/
  | utf16 (order : Option Charset.ByteOrder)
  /-- Unicode in units of four bytes. -/
  | utf32 (order : Option Charset.ByteOrder)
  | utf7
  /-- One byte a character. -/
  | single (runs : List Charset.ByteRun)
  /-- One or more bytes a character, each for itself. -/
  | plain (reader : Charset.Reader Unit)
  /-- Other sets after escapes. -/
  | escaped (code : Charset.EscapeCode)
  /-- Chinese after tildes. -/
  | tildes
  /-- The characters of ASCII before numbers for the others. -/
  | punycode
  /-- No set of characters, although it has a label. -/
  | refused (name : String)

namespace Charset

/-- Why bytes cannot be read. -/
inductive Refusal where
  /-- The mark that tells the order of bytes is missing. -/
  | noMark (bits : Nat)
  /-- What the label stands for is no set of characters. -/
  | notText (name : String)
  /-- What the bytes end with could go on, and is too long for that. -/
  | overlong
  /-- A byte among numbers is not ASCII. It is given as the character of its number. -/
  | notAscii (byte : Char) (position : Nat)
  deriving DecidableEq, Repr

/-- What is reported about bytes that cannot be read. -/
def Refusal.message : Refusal → String
  | noMark bits => "UTF-" ++ toString bits ++ " stream does not start with BOM"
  | notText "idna" => "Unsupported error handling replace"
  | notText "undefined" => "undefined encoding"
  | notText "rot_13" => "descriptor 'translate' for 'str' objects doesn't apply to a 'bytes' object"
  | notText _ => ""
  | overlong => "pending buffer overflow"
  | notAscii byte position =>
    "'ascii' codec can't decode byte 0x" ++ Utf8.hexByte (UInt8.ofNat byte.toNat) ++
      " in position " ++ toString position ++ ": ordinal not in range(128)"

/-- A label with its letters in lower case and one underscore for all marks between them. Other
characters than those of ASCII are left out. -/
def normalLabel (label : String) : String :=
  let isPart (c : Char) : Bool := c.isAlphanum || c = '.'
  let parts := (split (! isPart ·) label.toList).filter (! ·.isEmpty)
  String.ofList ((join '_' parts).map Char.toLower)

/-- The name of the set that has a label beside its name. -/
def labelled? (label : String) : Option String :=
  (labels.find? fun (_, others) => label ∈ (wordsOf others).map String.ofList).map (·.1)

/-- What a label stands for that is no set of characters. -/
def refusedLabels : List (String × List String) := [
  ("base64_codec", ["base64", "base_64"]), ("bz2_codec", ["bz2"]), ("hex_codec", ["hex"]),
  ("idna", []), ("quopri_codec", ["quopri", "quoted_printable", "quotedprintable"]),
  ("rot_13", ["rot13"]), ("undefined", []), ("uu_codec", ["uu"]),
  ("zlib_codec", ["zip", "zlib"])]

/-- The set of a name. -/
def ofName : String → Option Charset
  | "utf_8" => some (.utf8 false)
  | "utf_8_sig" => some (.utf8 true)
  | "utf_16" => some (.utf16 none)
  | "utf_16_le" => some (.utf16 (some .littleEndian))
  | "utf_16_be" => some (.utf16 (some .bigEndian))
  | "utf_32" => some (.utf32 none)
  | "utf_32_le" => some (.utf32 (some .littleEndian))
  | "utf_32_be" => some (.utf32 (some .bigEndian))
  | "utf_7" => some .utf7
  | "shift_jis" => some (.plain (readPair shiftedAlone? shiftJis?))
  | "cp932" => some (.plain (readPair windowsAlone? windowsJapanese?))
  | "shift_jisx0213" => some (.plain (readPairs largerAlone? (shiftedLarger .first)))
  | "shift_jis_2004" => some (.plain (readPairs largerAlone? (shiftedLarger .second)))
  | "euc_jp" => some (.plain readEucJapanese)
  | "euc_jisx0213" => some (.plain (readEucLarger .first))
  | "euc_jis_2004" => some (.plain (readEucLarger .second))
  | "gb2312" => some (.plain (readPair asciiAlone? gb2312?))
  | "gbk" => some (.plain (readPair asciiAlone? (inRuns? gbkRuns)))
  | "gb18030" => some (.plain readGb18030)
  | "big5" => some (.plain (readPair asciiAlone? (inRuns? big5Runs)))
  | "cp950" => some (.plain (readPair asciiAlone? windowsBig5?))
  | "big5hkscs" => some (.plain (readPairs asciiAlone? hongKongPair))
  | "euc_kr" => some (.plain readEucKorean)
  | "cp949" => some (.plain (readPair asciiAlone? unifiedHangul?))
  | "johab" => some (.plain (readPair asciiAlone? combined?))
  | "iso2022_jp" => some (.escaped .japanese)
  | "iso2022_jp_1" => some (.escaped .japanese1)
  | "iso2022_jp_2" => some (.escaped .japanese2)
  | "iso2022_jp_3" => some (.escaped (.larger .first 'O'))
  | "iso2022_jp_2004" => some (.escaped (.larger .second 'Q'))
  | "iso2022_jp_ext" => some (.escaped .japaneseExtended)
  | "iso2022_kr" => some (.escaped .korean)
  | "hz" => some .tildes
  | "punycode" => some .punycode
  | "unicode_escape" => some (.plain readBackslashes)
  | "raw_unicode_escape" => some (.plain readNumbered)
  | name => (singleByteSet? name).map .single

/-- The set that a label asks for. A label beside the name of a set can have dots in the place of
underscores. -/
def ofLabel? (label : String) : Option Charset :=
  let label := normalLabel label
  let dotless := String.ofList (label.toList.map fun c => if c = '.' then '_' else c)
  match ofName (((labelled? label).or (labelled? dotless)).getD label) with
  | some charset => some charset
  | none =>
    (refusedLabels.find? fun (name, others) => label = name || dotless ∈ others).map
      fun (name, _) => .refused name

/-- Bytes without the mark that tells their order, and the order. There can be too few bytes for
any mark. -/
def readMark (bits : Nat) (bytes : List UInt8) : Except Refusal (ByteOrder × List UInt8) :=
  let size := bits / 8
  let mark := ByteOrder.littleEndian.number (bytes.take size)
  if bytes.length < size then .ok (.littleEndian, bytes)
  else if mark = 0xFEFF then .ok (.littleEndian, bytes.drop size)
  else if ByteOrder.bigEndian.number (bytes.take size) = 0xFEFF then
    .ok (.bigEndian, bytes.drop size)
  else .error (.noMark bits)

/-- The characters that bytes with numbers stand for. -/
def readPunycode (bytes : List UInt8) : Except Refusal (List Char) :=
  let text := latin bytes
  let numbers := Punycode.numbers text
  match numbers.dropWhile (·.toNat < 0x80) with
  | c :: rest => .error (.notAscii c (numbers.length - rest.length - 1))
  | [] =>
    let plain := (Punycode.plain text).map fun c => if c.toNat < 0x80 then c else replacement
    let reading := Punycode.read (plain.map Char.toNat) (numbers.map Char.toLower)
    .ok (reading.codes.map fun code => if code.isValidChar then Char.ofNat code else replacement)

/-- The characters that bytes stand for. -/
def decode (charset : Charset) (bytes : List UInt8) : Except Refusal (List Char) :=
  match charset with
  | utf8 marked => .ok (readPlain readUtf8 (if marked then withoutMark bytes else bytes))
  | utf16 (some order) => .ok (readPlain (readUtf16 order) bytes)
  | utf16 none =>
    (readMark 16 bytes).map fun (order, bytes) => readPlain (readUtf16 order) bytes
  | utf32 (some order) => .ok (readPlain (readUtf32 order) bytes)
  | utf32 none =>
    (readMark 32 bytes).map fun (order, bytes) => readPlain (readUtf32 order) bytes
  | utf7 =>
    let (chars, state) := readAll readUtf7 .direct bytes
    .ok (chars ++ finishUtf7 state)
  | single runs => .ok (readPlain (readSingle runs) bytes)
  | plain reader => .ok (readPlain reader bytes)
  | escaped code =>
    let (chars, state) := readAll (readEscaped code) {} bytes
    if state.isOverlong then .error .overlong else .ok chars
  | tildes => .ok (readAll readTildeChinese .ascii bytes).1
  | punycode => readPunycode bytes
  | refused name => if bytes.isEmpty then .ok [] else .error (.notText name)

end Charset

end Bindery.Format
