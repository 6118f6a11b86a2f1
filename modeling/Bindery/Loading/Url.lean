import Bindery.Loading.HostAddress

/-!
# Which sources are addresses

The source of a description is a file, unless it has the form of a web address.
-/

namespace Bindery.Loading

/-- Whether a character is dropped from an address wherever it stands. -/
def isDropped (c : Char) : Bool := c = '\t' || c = '\n' || c = '\r'

/-- An address without the controls and spaces at its start, and without line breaks and
tabs. -/
def trimAddress (text : List Char) : List Char :=
  (text.dropWhile fun c => c.toNat ≤ 0x20).filter (! isDropped ·)

/-- Whether a character may stand in a scheme. -/
def isSchemeChar (c : Char) : Bool := c.isAlphanum || c = '+' || c = '-' || c = '.'

/-- The scheme of an address, in lower case, and the rest after its colon. -/
def splitScheme (text : List Char) : Option (List Char × List Char) :=
  let scheme := text.takeWhile (· ≠ ':')
  match text.drop scheme.length with
  | ':' :: rest =>
    if ! scheme.isEmpty && scheme.all isSchemeChar then some (scheme.map Char.toLower, rest)
    else none
  | _ => none

/-- Whether a character ends the host part of an address. -/
def endsHost (c : Char) : Bool := c = '/' || c = '?' || c = '#'

/-- The host part of an address after its scheme. -/
def hostPart (text : List Char) : List Char :=
  match text with
  | '/' :: '/' :: rest => rest.takeWhile (! endsHost ·)
  | _ => []

/-- Characters beyond ASCII whose plain form holds a delimiter of addresses. -/
def disguisedDelimiters : List Char := [
  '\u2048', '\u2049', '\u2047', '\u2100', '\u2101', '\u2105', '\u2106', '\u2a74', '\ufe13',
  '\ufe16', '\ufe55', '\ufe56', '\ufe5f', '\ufe6b', '\uff03', '\uff0f', '\uff1a', '\uff1f',
  '\uff20']

/-- Whether a text is a host address of a version to come: the version in hexadecimal digits, a
point, and the rest. -/
def isFutureAddress (text : List Char) : Bool :=
  match text with
  | 'v' :: rest =>
    let version := rest.takeWhile fun c => (Text.hexDigit? c).isSome
    ! version.isEmpty &&
      match rest.drop version.length with
      | '.' :: address => ! address.isEmpty
      | _ => false
  | _ => false

/-- The text after the last occurrence of a character, or the whole text. -/
def afterLast (c : Char) (text : List Char) : List Char :=
  (text.reverse.takeWhile (· ≠ c)).reverse

/-- Whether a host part with brackets is acceptable: they enclose a numeric address, with nothing
but user information before them and nothing but a port number after them. -/
def acceptableBrackets (host : List Char) : Bool :=
  let hostAndPort := afterLast '@' host
  let isAddress (text : List Char) : Bool := isFutureAddress text || isIPv6 text
  if hostAndPort.contains '[' then
    match hostAndPort with
    | '[' :: enclosed =>
      let address := enclosed.takeWhile (· ≠ ']')
      let rest := enclosed.drop (address.length + 1)
      (rest.isEmpty || rest.head? = some ':') && isAddress address
    | _ => false
  else isAddress (hostAndPort.takeWhile (· ≠ ':'))

/-- Whether the host part of an address is acceptable: its brackets come in both kinds or not at
all and enclose a numeric address, and it holds no delimiter in disguise. -/
def acceptableHost (host : List Char) : Bool :=
  let opens := host.contains '['
  let closes := host.contains ']'
  opens == closes && (! opens || acceptableBrackets host) &&
    ! host.any fun c => disguisedDelimiters.contains c

/-- Whether a source is a web address. -/
def isUrl (source : String) : Bool :=
  match splitScheme (trimAddress source.toList) with
  | none => false
  | some (scheme, rest) =>
    (scheme = "http".toList || scheme = "https".toList) && acceptableHost (hostPart rest)

end Bindery.Loading
