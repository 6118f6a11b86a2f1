import Bindery.Code.Literal
import Bindery.Loading.HostAddress
import Bindery.Loading.HostName
import Bindery.Text.Case
import Bindery.Text.Digits

/-!
# Addresses of requests

The address that a request goes to: a source in its normal form.  Scheme and host are in lower
case, a port number that goes without saying is left out, dots lead nowhere, and characters that an
address cannot hold are escaped.
-/

namespace Bindery.Loading

namespace Address

/-! ## Errors -/

/-- Why a source is no address. -/
inductive Flaw where
  | tooLong
  | control (character : Char) (position : Nat)
  | badIPv4 (host : String)
  | badIPv6 (host : String)
  | badHostName (host : String)
  | badPort (written : String)
  /-- The path behind a host starts without a slash. -/
  | barePath
  | doubleSlash
  | colon
  deriving DecidableEq, Repr

/-- What is reported about a source that is no address. -/
def Flaw.message : Flaw → String
  | tooLong => "URL too long"
  | control character position =>
    "Invalid non-printable ASCII character in URL, " ++
      Code.Literal.quoted (String.singleton character) ++ " at position " ++
      toString position ++ "."
  | badIPv4 host => "Invalid IPv4 address: " ++ Code.Literal.quoted host
  | badIPv6 host => "Invalid IPv6 address: " ++ Code.Literal.quoted host
  | badHostName host => "Invalid IDNA hostname: " ++ Code.Literal.quoted host
  | badPort written => "Invalid port: " ++ Code.Literal.quoted written
  | barePath => "For absolute URLs, path must be empty or begin with '/'"
  | doubleSlash => "Relative URLs cannot have a path starting with '//'"
  | colon => "Relative URLs cannot have a path starting with ':'"

/-! ## Escapes -/

/-- An uppercase hexadecimal digit. -/
def hexDigit (n : Nat) : Char := if n < 10 then Char.ofNat (48 + n) else Char.ofNat (55 + n)

/-- The bytes of a character, each as a percent sign and two digits. -/
def percent (c : Char) : List Char :=
  (String.singleton c).toUTF8.toList.flatMap fun byte =>
    ['%', hexDigit (byte.toNat / 16), hexDigit (byte.toNat % 16)]

/-- A text with every character escaped that may not stand in it. -/
def escape (mayStand : Char → Bool) (text : List Char) : List Char :=
  text.flatMap fun c => if mayStand c then [c] else percent c

/-- Whether a character is visible ASCII and not excluded. -/
def isPlain (excluded : String) (c : Char) : Bool :=
  0x20 < c.toNat && c.toNat < 0x7F && ! excluded.toList.contains c

/-- Whether a character may stand in a fragment. -/
def inFragment : Char → Bool := isPlain "\"<>`"

/-- Whether a character may stand in a query. -/
def inQuery : Char → Bool := isPlain "\"#<>"

/-- Whether a character may stand in a path. -/
def inPath : Char → Bool := isPlain "\"#<>?`\x7b\x7d"

/-- Whether a character may stand in user information. -/
def inUser : Char → Bool := isPlain "\"#<>?`\x7b\x7d/;=@[\\]^|"

/-- Whether a character may stand in the name of a host. -/
def inHost (c : Char) : Bool :=
  c.isAlphanum || "-._~!$&'()*+,;=\"`\x7b\x7d%|\\".toList.contains c

/-! ## Hosts and port numbers -/

/-- Whether a text is four runs of digits between dots. -/
def isFourRuns (text : List Char) : Bool :=
  let runs := Text.split (· = '.') text
  runs.length = 4 && runs.all fun run => ! run.isEmpty && run.all Char.isDigit

/-- Whether a text is enclosed in brackets. -/
def isBracketed (text : List Char) : Bool :=
  text.length ≥ 2 && text.head? = some '[' && text.getLast? = some ']'

/-- A host in its normal form. -/
def normalHost (text : List Char) : Except Flaw (List Char) :=
  if text.isEmpty then .ok []
  else if isFourRuns text then
    if isIPv4 text then .ok text else .error (.badIPv4 (String.ofList text))
  else if isBracketed text then
    let inside := (text.drop 1).dropLast
    if isIPv6 inside then .ok inside else .error (.badIPv6 (String.ofList text))
  else if text.all (·.toNat < 0x80) then .ok (escape inHost (text.map Char.toLower))
  else
    (HostName.encode (Text.lower (String.ofList text)).toList).mapError fun _ =>
      .badHostName (String.ofList text)

/-- The port numbers that go without saying. -/
def defaultPorts : List (String × Int) := [("http", 80), ("https", 443)]

/-- The number that a text gives. Single underscores may separate digits. -/
def portNumber? (text : List Char) : Option Int :=
  let (isNegative, digits) :=
    match Text.numeral text with
    | '-' :: rest => (true, rest)
    | '+' :: rest => (false, rest)
    | rest => (false, rest)
  let groups := Text.split (· = '_') digits
  if groups.all (fun group => ! group.isEmpty && group.all Char.isDigit) &&
      groups.flatten.length ≤ Text.maxDigits then
    let size : Int := Text.decimal groups.flatten
    some (if isNegative then -size else size)
  else none

/-- A port number, if it does not go without saying for the scheme as written. -/
def portNumber (scheme text : List Char) : Except Flaw (Option Int) :=
  if text.isEmpty then .ok none
  else match portNumber? text with
    | none => .error (.badPort (String.ofList text))
    | some number =>
      if defaultPorts.lookup (String.ofList scheme) = some number then .ok none
      else .ok (some number)

/-! ## Paths -/

/-- The parts of a path without single dots, and without what double dots take back. -/
def resolveDots (reached : List (List Char)) : List (List Char) → List (List Char)
  | [] => reached
  | part :: more =>
    if part = ['.'] then resolveDots reached more
    else if part = ['.', '.'] then
      resolveDots (if reached = [[]] then reached else reached.dropLast) more
    else resolveDots (reached ++ [part]) more

/-- A path in which dots are resolved. -/
def plainPath (path : List Char) : List Char :=
  Text.join '/' (resolveDots [] (Text.split (· = '/') path))

/-! ## Parts -/

/-- The parts of a text as written. -/
structure Parts where
  scheme : List Char
  authority : List Char
  path : List Char
  query : Option (List Char)
  fragment : Option (List Char)

/-- The text after a mark and what it stands before, if it is there. -/
def after (mark : Char) (text : List Char) : Option (List Char) :=
  match text with
  | c :: rest => if c = mark then some rest else none
  | [] => none

/-- The scheme of a text and what follows its colon. A scheme starts with a letter or is empty. -/
def schemeOf (text : List Char) : List Char × List Char :=
  let isPart (c : Char) : Bool := c.isAlphanum || c = '+' || c = '.' || c = '-'
  let scheme := text.takeWhile isPart
  match text.drop scheme.length with
  | ':' :: rest =>
    if scheme.isEmpty || scheme.head?.any Char.isAlpha then (scheme, rest) else ([], text)
  | _ => ([], text)

/-- The parts of a text. -/
def Parts.of (text : List Char) : Parts :=
  let (scheme, rest) := schemeOf text
  let (authority, rest) :=
    match rest with
    | '/' :: '/' :: more =>
      let found := more.takeWhile fun c => c ≠ '/' && c ≠ '?' && c ≠ '#'
      (found, more.drop found.length)
    | _ => ([], rest)
  let path := rest.takeWhile fun c => c ≠ '?' && c ≠ '#'
  let rest := rest.drop path.length
  let query := (after '?' rest).map fun more => more.takeWhile (· ≠ '#')
  let rest := rest.drop ((query.map (·.length + 1)).getD 0)
  ⟨scheme, authority, path, query, after '#' rest⟩

/-- User information, host and port number of an authority, as written. -/
def splitAuthority (authority : List Char) : List Char × List Char × List Char :=
  let hostAndPort := (authority.reverse.takeWhile (· ≠ '@')).reverse
  let user := authority.take (authority.length - hostAndPort.length - 1)
  let closed := (hostAndPort.reverse.dropWhile (· ≠ ']')).reverse
  let host :=
    if hostAndPort.head? = some '[' && ! closed.isEmpty then closed
    else hostAndPort.takeWhile (· ≠ ':')
  let rest := hostAndPort.drop host.length
  (user, host, (after ':' rest).getD rest)

/-- The most characters that an address may have. -/
def maxLength : Nat := 65536

end Address

/-- An address, or a part of one, whose parts are in their normal form. -/
structure Address where
  scheme : List Char
  user : List Char
  host : List Char
  number : Option Int
  path : List Char
  query : Option (List Char)
  fragment : Option (List Char)
  deriving DecidableEq, Repr

namespace Address

/-- Whether an address says where to ask. -/
def hasAuthority (address : Address) : Bool :=
  ! (address.user.isEmpty && address.host.isEmpty && address.number.isNone)

/-- Whether an address says how and which host to ask. -/
def isAbsolute (address : Address) : Bool := ! address.scheme.isEmpty && ! address.host.isEmpty

/-- What is wrong with where the path of an address starts. -/
def pathFlaw? (address : Address) : Option Flaw :=
  let start := address.path.head?
  if address.hasAuthority then
    if start.any (· ≠ '/') then some .barePath else none
  else if address.scheme.isEmpty then
    if ['/', '/'].isPrefixOf address.path then some .doubleSlash
    else if start = some ':' then some .colon
    else none
  else none

/-- The address of a text. -/
def read (text : List Char) : Except Flaw Address := do
  if text.length > maxLength then throw .tooLong
  let isControl (c : Char) : Bool := c.toNat < 0x20 || c.toNat = 0x7F
  match text.find? isControl with
  | some c => throw (.control c (text.takeWhile (! isControl ·)).length)
  | none => pure ()
  let parts := Parts.of text
  let (user, host, number) := splitAuthority parts.authority
  let address : Address := {
    scheme := parts.scheme.map Char.toLower
    user := escape inUser user
    host := ← normalHost host
    number := ← portNumber parts.scheme number
    path := parts.path
    query := parts.query.map (escape inQuery)
    fragment := parts.fragment.map (escape inFragment) }
  if let some flaw := address.pathFlaw? then throw flaw
  let isPlaced := address.hasAuthority || ! address.scheme.isEmpty
  return { address with
    path := escape inPath (if isPlaced then plainPath parts.path else parts.path) }

/-- The address that is asked for when one is given. Without a scheme or a host it is a path on no
host, and loses its fragment. -/
def asked (address : Address) : Address :=
  if address.isAbsolute then address
  else
    { scheme := []
      user := []
      host := []
      number := none
      path := '/' :: address.path.dropWhile (· = '/')
      query := address.query
      fragment := none }

/-- An address as a text. -/
def text (address : Address) : String :=
  let marked (mark : Char) (part : List Char) := mark :: part
  let scheme := if address.scheme.isEmpty then [] else address.scheme ++ [':']
  let user := if address.user.isEmpty then [] else address.user ++ ['@']
  let host := if address.host.contains ':' then '[' :: address.host ++ [']'] else address.host
  let number := address.number.map fun number => marked ':' (toString number).toList
  let authority := user ++ host ++ number.getD []
  String.ofList <|
    scheme ++ (if authority.isEmpty then [] else '/' :: '/' :: authority) ++ address.path ++
      (address.query.map (marked '?')).getD [] ++ (address.fragment.map (marked '#')).getD []

/-! ## Hosts that are asked -/

/-- Checks that the host of an address can be read if it starts like one of other characters than
ASCII. -/
def checkHost (address : Address) : Except HostLabel.Flaw Unit :=
  if HostName.sign.isPrefixOf address.host then (HostName.decode address.host).map fun _ => ()
  else .ok ()

/-- Why an answer leads nowhere. -/
inductive DeadEnd where
  /-- Where the answer leads is no address. -/
  | location (flaw : Flaw)
  /-- Where it leads is no address on the host that was asked. -/
  | target (flaw : Flaw)
  | host (flaw : HostLabel.Flaw)
  deriving DecidableEq, Repr

/-- Checks that there is an address where an answer from an address leads. A location with a scheme
and no host is on the host that was asked. -/
def checkLocation (address : Address) (location : String) : Except DeadEnd Unit := do
  let target ← (read location.toList).mapError .location
  if target.isAbsolute || target.scheme.isEmpty then target.checkHost.mapError .host
  else
    match { target with host := address.host }.pathFlaw? with
    | some flaw => throw (.target flaw)
    | none => pure ()

end Address

end Bindery.Loading
