import ResistorCutter.WebCore

/-!
`setUpWebserver` of `LocalHost.h` over the dispatch of the vendored web server, and a client that
follows what it is sent.
-/

namespace ResistorCutter

def localIPURL : String := "http://4.3.2.1/"

structure HttpRequest extends Request where
  url : List Char

inductive Action
  | redirect (url : String)
  | send (code : Nat)
  | processRequest
  deriving DecidableEq, Repr

structure Handler where
  uri : String
  action : Action
  deriving DecidableEq, Repr

/-- `AsyncCallbackWebHandler::canHandle`; every handler here takes `HTTP_ANY`. -/
def Handler.canHandle (handler : Handler) (url : List Char) : Bool :=
  let uri := handler.uri.toList
  if "/*.".toList.isPrefixOf uri then
    ('.' :: (uri.reverse.takeWhile (· ≠ '.')).reverse).isSuffixOf url
  else if "*".toList.isSuffixOf uri then uri.dropLast.isPrefixOf url
  else uri.isEmpty || uri == url || (uri ++ ['/']).isPrefixOf url

def setUpWebserver : List Handler :=
  [⟨"/connecttest.txt", .redirect "http://logout.net"⟩,
    ⟨"/wpad.dat", .send 404⟩,
    ⟨"/generate_204", .redirect localIPURL⟩,
    ⟨"/redirect", .redirect localIPURL⟩,
    ⟨"/hotspot-detect.html", .redirect localIPURL⟩,
    ⟨"/canonical.html", .redirect localIPURL⟩,
    ⟨"/success.txt", .send 200⟩,
    ⟨"/ncsi.txt", .redirect localIPURL⟩,
    ⟨"/favicon.ico", .send 404⟩,
    ⟨"/", .processRequest⟩]

/-- The catch-all handler has no URI. -/
def onNotFound : Handler := ⟨"", .redirect localIPURL⟩

/-- `_attachHandler`: the first handler that can handle the request. -/
def attachHandler (url : List Char) : Handler :=
  (setUpWebserver.find? fun handler => handler.canHandle url).getD onNotFound

def Response.redirect (url : String) : Response := ⟨302, "", [], [("Location", url)]⟩

namespace LocalHost

def handleRequest (handler : Handler) (request : HttpRequest) (localHost : LocalHost) :
    Response × LocalHost :=
  match handler.action with
  | .redirect url => (Response.redirect url, localHost)
  | .send code => (Response.empty code, localHost)
  | .processRequest => localHost.processRequest request.toRequest

def serve (request : HttpRequest) (localHost : LocalHost) : Response × LocalHost :=
  localHost.handleRequest (attachHandler request.url) request

end LocalHost

/-! How the web server reads the head of a request. -/

def hexDigit (c : Char) : Option Nat :=
  if c.isDigit then some (c.toNat - '0'.toNat)
  else if 'a' ≤ c.toLower ∧ c.toLower ≤ 'f' then some (c.toLower.toNat - 'a'.toNat + 10)
  else none

/-- `strtol` of `0x` and the two characters: the number that the leading hexadecimal digits
of the two give, 0 if there are none. -/
def strtol (high low : Char) : Nat :=
  match hexDigit high, hexDigit low with
  | some first, some second => 16 * first + second
  | some first, none => first
  | none, _ => 0

def urlDecode : List Char → List Char
  | '%' :: high :: low :: rest => Char.ofNat (strtol high low) :: urlDecode rest
  | '+' :: rest => ' ' :: urlDecode rest
  | c :: rest => c :: urlDecode rest
  | [] => []

/-- `_addGetParams`: nothing is added for an empty text after the last `&`. -/
def addGetParams (params : List Char) : List Param :=
  let texts := params.splitOn '&'
  let texts := if texts.getLast? = some [] then texts.dropLast else texts
  texts.map fun text => ⟨String.ofList (urlDecode (text.takeWhile (· ≠ '='))), false, false⟩

/-- `index > 0`: a URL is split at its first `?`, but not if it starts with it. -/
def splitUrl (u : List Char) : List Char × List Char :=
  if u.head? ≠ some '?' ∧ '?' ∈ u then (u.takeWhile (· ≠ '?'), (u.dropWhile (· ≠ '?')).drop 1)
  else (u, [])

/-- What `_parseReqHead` makes of the target, and `_parseReqHeader` of the host. -/
def parseReqHead (host target : List Char) : HttpRequest :=
  let (u, g) := splitUrl target
  { host := host, params := addGetParams g, url := urlDecode u }

/-! The client. -/

def textAfter (pattern : List Char) : List Char → Option (List Char)
  | [] => if pattern.isEmpty then some [] else none
  | c :: rest =>
      if pattern.isPrefixOf (c :: rest) then some ((c :: rest).drop pattern.length)
      else textAfter pattern rest

/-- The request for an absolute URL; every host name resolves to the device. -/
def HttpRequest.get (url : List Char) : HttpRequest :=
  let rest := url.drop "http://".length
  let host := rest.takeWhile fun c => c ≠ '/' ∧ c ≠ '?'
  let target := rest.drop host.length
  parseReqHead host (if target.head? = some '/' then target else '/' :: target)

def refreshLink (content : List Char) : Option (List Char) :=
  (textAfter "http-equiv=\"refresh\" content=\"0; url=".toList content).map
    fun text => text.takeWhile (· ≠ '"')

/-- Where a client goes next: the `Location` of a redirect, or the link of an immediate refresh. -/
def Response.next (response : Response) : Option (List Char) :=
  if response.code = 302 then (response.headers.lookup "Location").map String.toList
  else refreshLink response.content

def LocalHost.browse : Nat → HttpRequest → LocalHost → List Response
  | 0, _, _ => []
  | n + 1, request, localHost =>
      let answer := localHost.serve request
      answer.1 :: match answer.1.next with
        | none => []
        | some url => answer.2.browse n (HttpRequest.get url)

end ResistorCutter
