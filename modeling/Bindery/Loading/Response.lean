import Bindery.Code.Literal
import Bindery.Format.Charset
import Bindery.Format.Inflate
import Bindery.Loading.ContentType

/-!
# Answers of the web

What a server answers, what text it brings, and how an answer that brings none is reported.
-/

namespace Bindery.Loading

open Bindery.Code Bindery.Format Bindery.Text

/-- The answer to a request. -/
structure Response where
  status : Nat
  headers : List (String × String) := []
  body : String := ""
  deriving DecidableEq, Repr

namespace Response

/-- A header by its name, in any case. Several of one name are one with commas. -/
def header? (response : Response) (name : String) : Option String :=
  let fold (text : String) : String := String.ofList (text.toList.map Char.toLower)
  match (response.headers.filter fun (other, _) => fold other = fold name).map (·.2) with
  | [] => none
  | values => some (", ".intercalate values)

/-! ## Headers -/

/-- A part of a header that is not ASCII: where it starts, and its characters. -/
structure NotAscii where
  position : Nat
  chars : List Char
  deriving DecidableEq, Repr

/-- What is reported about a header that is not ASCII. -/
def NotAscii.message (flaw : NotAscii) : String :=
  let what :=
    match flaw.chars with
    | [c] =>
      " '" ++ String.ofList (Literal.codeEscape c) ++ "' in position " ++ toString flaw.position
    | chars =>
      "s in position " ++ toString flaw.position ++ "-" ++
        toString (flaw.position + chars.length - 1)
  "'ascii' codec can't encode character" ++ what ++ ": ordinal not in range(128)"

/-- Whether a character is ASCII. -/
def isAscii (c : Char) : Bool := c.toNat < 0x80

/-- The first part of a text that is not ASCII. -/
def NotAscii.find? (text : String) : Option NotAscii :=
  let rest := text.toList.dropWhile isAscii
  if rest.isEmpty then none
  else some ⟨text.length - rest.length, rest.takeWhile (! isAscii ·)⟩

/-- What is not ASCII in the headers of an answer. -/
def notAscii? (response : Response) : Option NotAscii :=
  response.headers.findSome? fun (name, value) => (NotAscii.find? name).or (NotAscii.find? value)

/-! ## Content -/

/-- The ways of compressing content that can be undone. -/
inductive Compression where
  | gzip | deflate
  deriving DecidableEq, Repr

/-- Content without its compression. A body is text, and text never starts like a gzip file, so
only one that is too short to tell is accepted, and brings nothing. -/
def Compression.undo (compression : Compression) (bytes : List UInt8) :
    Except Inflate.Flaw (List UInt8) :=
  match compression with
  | gzip => if bytes.length < 2 then .ok [] else .error .header
  | deflate => Inflate.read bytes

/-- The ways in which content was compressed, the last one first. Unknown ways count as none. -/
def compressions (response : Response) : List Compression :=
  let names := (split (· = ',') ((response.header? "content-encoding").getD "").toList).map strip
  (names.filterMap fun name =>
    match lower (String.ofList name) with
    | "gzip" => some .gzip
    | "deflate" => some .deflate
    | _ => none).reverse

/-- The content of an answer, without compression. -/
def content (response : Response) : Except Inflate.Flaw (List UInt8) :=
  response.compressions.foldlM (fun bytes compression => compression.undo bytes)
    response.body.toUTF8.toList

/-- The set of characters that an answer is written in. -/
def charset (response : Response) : Charset :=
  (((response.header? "content-type").bind ContentType.charset?).bind Charset.ofLabel?).getD
    (.utf8 false)

/-- The text of content, in the set of characters that its answer names. -/
def textOf (response : Response) (content : List UInt8) : Except Charset.Refusal String :=
  if content.isEmpty then .ok "" else (response.charset.decode content).map String.ofList

/-! ## Statuses -/

/-- The phrases that go with statuses. -/
def phrases : List (Nat × String) := [
  (100, "Continue"), (101, "Switching Protocols"), (102, "Processing"), (103, "Early Hints"),
  (300, "Multiple Choices"), (301, "Moved Permanently"), (302, "Found"), (303, "See Other"),
  (304, "Not Modified"), (305, "Use Proxy"), (307, "Temporary Redirect"),
  (308, "Permanent Redirect"),
  (400, "Bad Request"), (401, "Unauthorized"), (402, "Payment Required"), (403, "Forbidden"),
  (404, "Not Found"), (405, "Method Not Allowed"), (406, "Not Acceptable"),
  (407, "Proxy Authentication Required"), (408, "Request Timeout"), (409, "Conflict"),
  (410, "Gone"), (411, "Length Required"), (412, "Precondition Failed"),
  (413, "Request Entity Too Large"), (414, "Request-URI Too Long"),
  (415, "Unsupported Media Type"), (416, "Requested Range Not Satisfiable"),
  (417, "Expectation Failed"), (418, "I'm a teapot"), (421, "Misdirected Request"),
  (422, "Unprocessable Entity"), (423, "Locked"), (424, "Failed Dependency"),
  (425, "Too Early"), (426, "Upgrade Required"), (428, "Precondition Required"),
  (429, "Too Many Requests"), (431, "Request Header Fields Too Large"),
  (451, "Unavailable For Legal Reasons"),
  (500, "Internal Server Error"), (501, "Not Implemented"), (502, "Bad Gateway"),
  (503, "Service Unavailable"), (504, "Gateway Timeout"), (505, "HTTP Version Not Supported"),
  (506, "Variant Also Negotiates"), (507, "Insufficient Storage"), (508, "Loop Detected"),
  (510, "Not Extended"), (511, "Network Authentication Required")]

/-- The phrase that goes with a status; an unknown one has none. -/
def phrase (status : Nat) : String := (phrases.lookup status).getD ""

/-- Whether an answer brings content. -/
def isSuccess (response : Response) : Bool := 200 ≤ response.status && response.status ≤ 299

/-- Where an answer says that the content is. -/
def redirection? (response : Response) : Option String :=
  if response.status ∈ [301, 302, 303, 307, 308] then response.header? "location" else none

/-- The kind of an answer without content. -/
def kind (response : Response) : String :=
  match response.status / 100 with
  | 1 => "Informational response"
  | 3 => "Redirect response"
  | 4 => "Client error"
  | 5 => "Server error"
  | _ => "Invalid status code"

/-- What is reported about an answer without content from an address. -/
def report (response : Response) (address : String) : String :=
  let status := toString response.status
  response.kind ++ " '" ++ status ++ " " ++ phrase response.status ++ "' for url '" ++ address ++
    "'\n" ++
    ((response.redirection?.map fun location =>
      "Redirect location: '" ++ location ++ "'\n").getD "") ++
    "For more information check: https://developer.mozilla.org/en-US/docs/Web/HTTP/Status/" ++
    status

end Response

/-- What becomes of a request: an answer, or no connection. -/
inductive Reply where
  | response (response : Response)
  | noConnection (reason : String)
  deriving DecidableEq, Repr

/-- The web, as far as requests for addresses see it. -/
abbrev Web := String → Reply

end Bindery.Loading
