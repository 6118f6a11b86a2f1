import Bindery.Loading.Load
import Bindery.Loading.Response
import Bindery.Loading.Url

/-!
# Loading from files and from the web

A source that has the form of a web address is requested from the web, and any other is a file.
What comes from the web is YAML if its type or the end of its address says so.
-/

namespace Bindery.Loading

open Bindery.Api Bindery.Data Bindery.Files

/-- The format of an answer to a request for a source. -/
def DataFormat.ofResponse (source : String) (response : Response) : DataFormat :=
  let type := ((response.header? "content-type").getD "").toList
  if Code.Literal.occursIn "yaml".toList type || source.endsWith ".yaml" || source.endsWith ".yml"
  then .yaml
  else .json

/-- A fault of a source, by the kind and the text of its cause. -/
def faultOf (source kind text : String) : LoadError :=
  .fault (.load source (some ⟨kind, some text⟩))

/-- What becomes of an answer that leads nowhere. -/
def LoadError.ofDeadEnd (source : String) : Address.DeadEnd → LoadError
  | .location flaw =>
    faultOf source "RemoteProtocolError" ("Invalid URL in location header: " ++ flaw.message ++ ".")
  | .target flaw => .badAddress flaw
  | .host flaw => .unreadableHost flaw

/-- Checks that an answer has content, given the source that was asked for and its address. -/
def checkStatus (source : String) (address : Address) (response : Response) :
    Except LoadError Unit := do
  if response.isSuccess then return
  if let some location := response.redirection? then
    (address.checkLocation location).mapError (.ofDeadEnd source)
  throw (faultOf source "HTTPStatusError" (response.report address.text))

/-- The text that an answer brings, given the source that was asked for and its address. -/
def textOf (source : String) (address : Address) (response : Response) :
    Except LoadError String := do
  if let some flaw := response.notAscii? then throw (.headerNotAscii flaw)
  let content ← response.content.mapError fun flaw =>
    faultOf source "DecodingError" flaw.message
  checkStatus source address response
  (response.textOf content).mapError .refusedCharset

/-- The description at a web address. -/
def loadFromWeb (web : Web) (source : String) : Except LoadError Document := do
  let address ← (Address.read source.toList).mapError .badAddress
  let address := address.asked
  address.checkHost.mapError .unreadableHost
  match web address.text with
  | .noConnection reason => throw (faultOf source "ConnectError" reason)
  | .response response =>
    let text ← textOf source address response
    accept source (← parse source (.ofResponse source response) text)

/-- The description that a source names. -/
def load (web : Web) (tree : Tree) (base : Base) (source : String) : Except LoadError Document :=
  if isUrl source then loadFromWeb web source else loadFile tree base source

end Bindery.Loading
