import Mathlib.Logic.Function.Basic
import ResistorCutter.PortalCore

/-!
Connections of the vendored web server: `AsyncClient` of `AsyncTCP.cpp`, `WebRequest.cpp` from the
segments of a request to its handler, and `AsyncBasicResponse` of `WebResponses.cpp` from the
handler to the connection. A character is a byte.
-/

namespace ResistorCutter

def ASYNC_MAX_ACK_TIME : UInt32 := 5000

/-- What an event of a connection finds: the clock, the room in the send buffer, and what lwIP
answers to the calls of `tcp_write` and `tcp_output`, in their order. When no answers are left, the
calls succeed. -/
structure Link where
  now : UInt32
  sndbuf : Nat
  answers : List Bool
  deriving DecidableEq

/-- `_pcb` is whether there is one, and `written` what `tcp_write` has taken. -/
structure AsyncClient extends Link where
  _pcb : Bool
  _pcb_busy : Bool
  _pcb_sent_at : UInt32
  _rx_last_packet : UInt32
  _rx_since_timeout : UInt32
  written : List Char
  deriving DecidableEq

namespace AsyncClient

/-- The constructor, and `setRxTimeout(3)` when the server is given the client. -/
def construct (accepted : UInt32) : AsyncClient where
  now := accepted
  sndbuf := 0
  answers := []
  _pcb := true
  _pcb_busy := false
  _pcb_sent_at := 0
  _rx_last_packet := accepted
  _rx_since_timeout := 3
  written := []

def space (client : AsyncClient) : Nat := if client._pcb then client.sndbuf else 0

def canSend (client : AsyncClient) : Bool := 0 < client.space

/-- The next answer of lwIP. -/
def answer (client : AsyncClient) : Bool × AsyncClient :=
  (client.answers.headD true, { client with answers := client.answers.tail })

def add (data : List Char) (client : AsyncClient) : Nat × AsyncClient :=
  if client._pcb = false ∨ data = [] then (0, client)
  else
    let room := client.space
    if room = 0 then (0, client)
    else
      let willSend := min room data.length
      let (ok, client) := client.answer
      if ok then
        (willSend, { client with
          sndbuf := client.sndbuf - willSend
          written := client.written ++ data.take willSend })
      else (0, client)

def send (client : AsyncClient) : Bool × AsyncClient :=
  let (ok, client) := client.answer
  if ok then (true, { client with _pcb_busy := true, _pcb_sent_at := client.now })
  else (false, client)

/-- What `add` has queued stays queued when `send` fails. -/
def write (data : List Char) (client : AsyncClient) : Nat × AsyncClient :=
  let (willSend, client) := client.add data
  if willSend = 0 then (0, client)
  else
    let (ok, client) := client.send
    (if ok then willSend else 0, client)

def setRxTimeout (timeout : UInt32) (client : AsyncClient) : AsyncClient :=
  { client with _rx_since_timeout := timeout }

end AsyncClient

/-! Responses. -/

inductive WebResponseState
  | RESPONSE_SETUP | RESPONSE_HEADERS | RESPONSE_CONTENT | RESPONSE_WAIT_ACK | RESPONSE_END
  | RESPONSE_FAILED
  deriving DecidableEq

structure AsyncBasicResponse where
  _code : Nat
  _headers : List (String × String)
  _contentType : String
  _content : List Char
  _contentLength : Nat
  _sentLength : Nat
  _ackedLength : Nat
  _writtenLength : Nat
  _state : WebResponseState
  deriving DecidableEq

namespace AsyncBasicResponse

def _responseCodeToString (code : Nat) : String :=
  match code with
  | 100 => "Continue"
  | 101 => "Switching Protocols"
  | 200 => "OK"
  | 201 => "Created"
  | 202 => "Accepted"
  | 203 => "Non-Authoritative Information"
  | 204 => "No Content"
  | 205 => "Reset Content"
  | 206 => "Partial Content"
  | 300 => "Multiple Choices"
  | 301 => "Moved Permanently"
  | 302 => "Found"
  | 303 => "See Other"
  | 304 => "Not Modified"
  | 305 => "Use Proxy"
  | 307 => "Temporary Redirect"
  | 400 => "Bad Request"
  | 401 => "Unauthorized"
  | 402 => "Payment Required"
  | 403 => "Forbidden"
  | 404 => "Not Found"
  | 405 => "Method Not Allowed"
  | 406 => "Not Acceptable"
  | 407 => "Proxy Authentication Required"
  | 408 => "Request Time-out"
  | 409 => "Conflict"
  | 410 => "Gone"
  | 411 => "Length Required"
  | 412 => "Precondition Failed"
  | 413 => "Request Entity Too Large"
  | 414 => "Request-URI Too Large"
  | 415 => "Unsupported Media Type"
  | 416 => "Requested range not satisfiable"
  | 417 => "Expectation Failed"
  | 500 => "Internal Server Error"
  | 501 => "Not Implemented"
  | 502 => "Bad Gateway"
  | 503 => "Service Unavailable"
  | 504 => "Gateway Time-out"
  | 505 => "HTTP Version not supported"
  | _ => ""

def construct (code : Nat) (contentType : String) (content : List Char) : AsyncBasicResponse where
  _code := code
  _headers := [("Connection", "close")]
  _contentType := if content ≠ [] ∧ contentType = "" then "text/plain" else contentType
  _content := content
  _contentLength := content.length
  _sentLength := 0
  _ackedLength := 0
  _writtenLength := 0
  _state := .RESPONSE_SETUP

def addHeader (name value : String) (response : AsyncBasicResponse) : AsyncBasicResponse :=
  { response with _headers := response._headers ++ [(name, value)] }

/-- `beginResponse`, and the headers that a handler adds to it. -/
def ofResponse (response : Response) : AsyncBasicResponse :=
  response.headers.foldl (fun basic header => basic.addHeader header.1 header.2)
    (construct response.code response.contentType response.content)

/-- What `snprintf` leaves in the buffer of 300 bytes. -/
def snprintf (text : List Char) : List Char := text.take 299

/-- `_sendContentLength` is true and `_chunked` false in a basic response. -/
def _assembleHead (version : Nat) (response : AsyncBasicResponse) : List Char :=
  let response :=
    if version ≠ 0 then response.addHeader "Accept-Ranges" "none" else response
  snprintf ("HTTP/1.".toList ++ Nat.toDigits 10 version ++ [' '] ++
      Nat.toDigits 10 response._code ++ [' '] ++ (_responseCodeToString response._code).toList ++
      "\r\n".toList) ++
    snprintf ("Content-Length: ".toList ++ Nat.toDigits 10 response._contentLength ++
      "\r\n".toList) ++
    (if response._contentType = "" then []
      else snprintf ("Content-Type: ".toList ++ response._contentType.toList ++ "\r\n".toList)) ++
    (response._headers.flatMap fun header =>
      snprintf (header.1.toList ++ ": ".toList ++ header.2.toList ++ "\r\n".toList)) ++
    "\r\n".toList

def _finished (response : AsyncBasicResponse) : Bool :=
  response._state = .RESPONSE_END ∨ response._state = .RESPONSE_FAILED

def _respond (version : Nat) (response : AsyncBasicResponse) (client : AsyncClient) :
    AsyncBasicResponse × AsyncClient :=
  let out := response._assembleHead version
  let response := { response with _state := .RESPONSE_HEADERS, _headers := [] }
  let outLen := out.length
  let space := client.space
  if response._contentLength = 0 ∧ space ≥ outLen then
    let (written, client) := client.write out
    ({ response with
      _writtenLength := response._writtenLength + written
      _state := .RESPONSE_WAIT_ACK }, client)
  else if response._contentLength ≠ 0 ∧ space ≥ outLen + response._contentLength then
    let (written, client) := client.write (out ++ response._content)
    ({ response with
      _writtenLength := response._writtenLength + written
      _state := .RESPONSE_WAIT_ACK }, client)
  else if space ≠ 0 ∧ space < outLen then
    let (written, client) := client.write (out.take space)
    ({ response with
      _content := out.drop space ++ response._content
      _contentLength := response._contentLength + (outLen - space)
      _writtenLength := response._writtenLength + written
      _state := .RESPONSE_CONTENT }, client)
  else if space > outLen ∧ space < outLen + response._contentLength then
    let shift := space - outLen
    let (written, client) := client.write (out ++ response._content.take shift)
    ({ response with
      _sentLength := response._sentLength + shift
      _content := response._content.drop shift
      _writtenLength := response._writtenLength + written
      _state := .RESPONSE_CONTENT }, client)
  else
    ({ response with
      _content := out ++ response._content
      _contentLength := response._contentLength + outLen
      _state := .RESPONSE_CONTENT }, client)

def _ack (len : Nat) (response : AsyncBasicResponse) (client : AsyncClient) :
    AsyncBasicResponse × AsyncClient :=
  let response := { response with _ackedLength := response._ackedLength + len }
  match response._state with
  | .RESPONSE_CONTENT =>
      let available := response._contentLength - response._sentLength
      let space := client.space
      if space > available then
        let (written, client) := client.write (response._content.take available)
        ({ response with
          _writtenLength := response._writtenLength + written
          _content := []
          _state := .RESPONSE_WAIT_ACK }, client)
      else
        let (written, client) := client.write (response._content.take space)
        ({ response with
          _content := response._content.drop space
          _sentLength := response._sentLength + space
          _writtenLength := response._writtenLength + written }, client)
  | .RESPONSE_WAIT_ACK =>
      if response._ackedLength ≥ response._writtenLength then
        ({ response with _state := .RESPONSE_END }, client)
      else (response, client)
  | _ => (response, client)

end AsyncBasicResponse

/-! Requests. -/

inductive ParseState
  | PARSE_REQ_START | PARSE_REQ_HEADERS | PARSE_REQ_BODY | PARSE_REQ_END | PARSE_REQ_FAIL
  deriving DecidableEq

/-- What the handlers of the sketch can see of a request, and what it takes to read it. -/
structure AsyncWebServerRequest where
  _temp : List Char
  _parseState : ParseState
  _version : Nat
  _url : List Char
  _host : List Char
  _contentType : List Char
  _isMultipart : Bool
  _isPlainPost : Bool
  _expectingContinue : Bool
  _contentLength : Nat
  _parsedLength : Nat
  _params : List Param
  _handler : Option Handler
  deriving DecidableEq

/-- `isspace` of the C library. -/
def isSpace (c : Char) : Bool := c = ' ' ∨ (9 ≤ c.toNat ∧ c.toNat ≤ 13)

/-- `String::trim` -/
def trim (text : List Char) : List Char :=
  ((text.dropWhile isSpace).reverse.dropWhile isSpace).reverse

/-- What a function that takes a C string sees of the text. -/
def cstr (text : List Char) : List Char := text.takeWhile (· ≠ '\x00')

/-- `atoi` of the C library, which stops at the bounds of `int`. -/
def atoi (text : List Char) : Int :=
  let number (digits : List Char) : Int := Nat.ofDigitChars 10 (digits.takeWhile Char.isDigit) 0
  match text.dropWhile isSpace with
  | '-' :: digits => max (-number digits) (-2147483648)
  | '+' :: digits => min (number digits) 2147483647
  | digits => min (number digits) 2147483647

namespace AsyncWebServerRequest

def construct : AsyncWebServerRequest where
  _temp := []
  _parseState := .PARSE_REQ_START
  _version := 0
  _url := []
  _host := []
  _contentType := []
  _isMultipart := false
  _isPlainPost := false
  _expectingContinue := false
  _contentLength := 0
  _parsedLength := 0
  _params := []
  _handler := none

/-- `_addGetParams` adds to the parameters there are. -/
def _addGetParams (params : List Char) (request : AsyncWebServerRequest) : AsyncWebServerRequest :=
  { request with _params := request._params ++ addGetParams params }

/-- Without a blank after the URL the whole line stands for the version. -/
def _parseReqHead (request : AsyncWebServerRequest) : AsyncWebServerRequest :=
  let temp := request._temp
  let m := temp.takeWhile (· ≠ ' ')
  let rest := temp.drop (m.length + 1)
  let u := rest.takeWhile (· ≠ ' ')
  let temp := if u.length < rest.length then rest.drop (u.length + 1) else temp
  let (u, g) := splitUrl u
  let request := { request with _url := urlDecode u }._addGetParams g
  { request with
    _version := if "HTTP/1.0".toList.isPrefixOf temp then request._version else 1
    _temp := [] }

def _parseReqHeader (request : AsyncWebServerRequest) : AsyncWebServerRequest :=
  let temp := request._temp
  let name := temp.takeWhile (· ≠ ':')
  -- a line without a colon has index -1
  let value := if ':' ∈ temp then temp.drop (name.length + 2) else temp.drop 1
  let request :=
    if temp.head? = some ':' then request
    else if equalsIgnoreCase name "Host".toList then { request with _host := value }
    else if equalsIgnoreCase name "Content-Type".toList then
      { request with
        _contentType := value.takeWhile (· ≠ ';')
        _isMultipart := "multipart/".toList.isPrefixOf value || request._isMultipart }
    else if equalsIgnoreCase name "Content-Length".toList then
      { request with _contentLength := (atoi value % 4294967296).toNat }
    else if equalsIgnoreCase name "Expect".toList && value == "100-continue".toList then
      { request with _expectingContinue := true }
    else request
  { request with _temp := [] }

def isParamChar (c : Char) : Bool :=
  c ≠ '\x00' && c ≠ '\x7b' && c ≠ '[' && c ≠ '&' && c ≠ '='

/-- What the first segment of a body says about it. -/
def plainPost (segment : List Char) (request : AsyncWebServerRequest) : Bool :=
  if "application/x-www-form-urlencoded".toList.isPrefixOf request._contentType then true
  else if request._contentType = "text/plain".toList ∧ (segment.head?.any isParamChar) = true then
    match segment.dropWhile isParamChar with
    | '=' :: _ :: _ => true
    | _ => request._isPlainPost
  else request._isPlainPost

def _parsePlainPostChar (data : Char) (request : AsyncWebServerRequest) : AsyncWebServerRequest :=
  let request :=
    if data ≠ '\x00' ∧ data ≠ '&' then { request with _temp := request._temp ++ [data] }
    else request
  if data = '\x00' ∨ data = '&' ∨ request._parsedLength = request._contentLength then
    let temp := request._temp
    let named := temp.head? ≠ some '\x7b' ∧ temp.head? ≠ some '[' ∧ temp.head? ≠ some '=' ∧
      '=' ∈ temp
    let name := if named then temp.takeWhile (· ≠ '=') else "body".toList
    { request with
      _params := request._params ++ [⟨String.ofList (urlDecode name), true, false⟩]
      _temp := [] }
  else request

end AsyncWebServerRequest

/-! Connections. -/

/-- `deleted` is whether `_onDisconnect` has deleted the request and the client. -/
structure Connection where
  client : AsyncClient
  request : AsyncWebServerRequest
  response : Option AsyncBasicResponse
  deleted : Bool
  deriving DecidableEq

def Connection.construct (accepted : UInt32) : Connection :=
  ⟨AsyncClient.construct accepted, AsyncWebServerRequest.construct, none, false⟩

/-- What the server reads and changes for one connection. -/
structure Exchange extends Connection where
  localHost : LocalHost

namespace Exchange

def _onDisconnect (exchange : Exchange) : Exchange :=
  { exchange with response := none, deleted := true }

def close (exchange : Exchange) : Exchange :=
  if exchange.client._pcb then
    { exchange with client := { exchange.client with _pcb := false } }._onDisconnect
  else exchange

def _onTimeout (exchange : Exchange) : Exchange := exchange.close

def send (response : AsyncBasicResponse) (exchange : Exchange) : Exchange :=
  let client := exchange.client.setRxTimeout 0
  let (response, client) := response._respond exchange.request._version client
  { exchange with response := some response, client := client }

/-- Without a handler the server answers 501. -/
def handleRequest (exchange : Exchange) : Exchange :=
  let request := exchange.request
  match request._handler with
  | some handler =>
      let (response, localHost) := exchange.localHost.handleRequest handler
        { host := request._host, params := request._params, url := request._url }
      { exchange with localHost := localHost }.send (.ofResponse response)
  | none => exchange.send (.construct 501 "" [])

/-- There are no rewrites; `attachHandler` is the loop of `_attachHandler`. -/
def _parseLine (exchange : Exchange) : Exchange :=
  let request := exchange.request
  match request._parseState with
  | .PARSE_REQ_START =>
      if request._temp = [] then
        { exchange with request := { request with _parseState := .PARSE_REQ_FAIL } }.close
      else
        { exchange with
          request := { request._parseReqHead with _parseState := .PARSE_REQ_HEADERS } }
  | .PARSE_REQ_HEADERS =>
      if request._temp = [] then
        let request := { request with _handler := some (attachHandler request._url) }
        let client :=
          if request._expectingContinue then
            (exchange.client.write "HTTP/1.1 100 Continue\r\n\r\n".toList).2
          else exchange.client
        if request._contentLength ≠ 0 then
          { exchange with
            request := { request with _parseState := .PARSE_REQ_BODY }
            client := client }
        else
          { exchange with
            request := { request with _parseState := .PARSE_REQ_END }
            client := client }.handleRequest
      else { exchange with request := request._parseReqHeader }
  | _ => exchange

variable (_parseMultipartPostByte : Char → Bool → AsyncWebServerRequest → AsyncWebServerRequest)

def parseMultipart : List Char → AsyncWebServerRequest → AsyncWebServerRequest
  | [], request => request
  | c :: rest, request =>
      let request := _parseMultipartPostByte c rest.isEmpty request
      parseMultipart rest { request with _parsedLength := request._parsedLength + 1 }

def parsePlainPost : List Char → AsyncWebServerRequest → AsyncWebServerRequest
  | [], request => request
  | c :: rest, request =>
      let request := { request with _parsedLength := request._parsedLength + 1 }
      parsePlainPost rest (request._parsePlainPostChar c)

/-- `handleBody` does nothing for the handlers of the sketch. -/
def parseBody (buf : List Char) (request : AsyncWebServerRequest) : AsyncWebServerRequest :=
  let needParse := request._handler.isSome
  let passed := { request with _parsedLength := request._parsedLength + buf.length }
  if request._isMultipart then
    if needParse then parseMultipart _parseMultipartPostByte buf request else passed
  else
    let request :=
      if request._parsedLength = 0 then { request with _isPlainPost := request.plainPost buf }
      else request
    if request._isPlainPost then
      if needParse then parsePlainPost buf request
      else { request with _parsedLength := request._parsedLength + buf.length }
    else { request with _parsedLength := request._parsedLength + buf.length }

/-- The loop of `_onData`, which goes on as long as the buffer has lines of the head. -/
def onDataLoop : Nat → List Char → Exchange → Exchange
  | 0, _, exchange => exchange
  | fuel + 1, buf, exchange =>
      let request := exchange.request
      match request._parseState with
      | .PARSE_REQ_START | .PARSE_REQ_HEADERS =>
          match buf.dropWhile (· ≠ '\n') with
          | [] =>
              let temp := request._temp ++ cstr buf.dropLast ++ buf.getLast?.toList
              { exchange with request := { request with _temp := temp } }
          | _ :: rest =>
              let line := buf.takeWhile (· ≠ '\n')
              let temp := trim (request._temp ++ cstr line)
              let exchange := { exchange with request := { request with _temp := temp } }._parseLine
              if rest = [] then exchange else onDataLoop fuel rest exchange
      | .PARSE_REQ_BODY =>
          let request := parseBody _parseMultipartPostByte buf request
          if request._parsedLength = request._contentLength then
            { exchange with
              request := { request with _parseState := .PARSE_REQ_END } }.handleRequest
          else { exchange with request := request }
      | _ => exchange

def _onData (buf : List Char) (exchange : Exchange) : Exchange :=
  onDataLoop _parseMultipartPostByte buf.length buf exchange

def _onPoll (exchange : Exchange) : Exchange :=
  match exchange.response with
  | some response =>
      if exchange.client.canSend && !response._finished then
        let (response, client) := response._ack 0 exchange.client
        { exchange with response := some response, client := client }
      else exchange
  | none => exchange

def _onAck (len : Nat) (exchange : Exchange) : Exchange :=
  match exchange.response with
  | some response =>
      if response._finished then { exchange with response := none }
      else
        let (response, client) := response._ack len exchange.client
        { exchange with response := some response, client := client }
  | none => exchange

/-! The callbacks of `AsyncTCP.cpp`. -/

def _recv (buf : List Char) (exchange : Exchange) : Exchange :=
  let client := { exchange.client with _rx_last_packet := exchange.client.now }
  { exchange with client := client }._onData _parseMultipartPostByte buf

def _sent (len : Nat) (exchange : Exchange) : Exchange :=
  let client := { exchange.client with
    _rx_last_packet := exchange.client.now
    _pcb_busy := false }
  { exchange with client := client }._onAck len

def _poll (exchange : Exchange) : Exchange :=
  let client := exchange.client
  if client._pcb = false then exchange
  else if client._pcb_busy = true ∧ client.now - client._pcb_sent_at ≥ ASYNC_MAX_ACK_TIME then
    { exchange with client := { client with _pcb_busy := false } }._onTimeout
  else if client._rx_since_timeout ≠ 0 ∧
      client.now - client._rx_last_packet ≥ client._rx_since_timeout * 1000 then
    exchange.close
  else exchange._onPoll

/-- In the task of lwIP, when the end of the stream comes in; the event for `_fin` is queued. -/
def _lwip_fin (exchange : Exchange) : Exchange :=
  { exchange with client := { exchange.client with _pcb := false } }

def _fin (exchange : Exchange) : Exchange := exchange._onDisconnect

def _error (exchange : Exchange) : Exchange :=
  { exchange with client := { exchange.client with _pcb := false } }._onDisconnect

end Exchange

/-! The server. -/

inductive ClientEvent
  | data (buf : List Char)
  | ack (len : Nat)
  | poll
  | lwipFin
  | fin
  | error

inductive ServerInput
  | client (id : Nat) (link : Link) (event : ClientEvent)
  | disconnected
  | updatePageInfo (rPerKit kits running percent : Int)

structure AsyncWebServer where
  localHost : LocalHost
  connections : Nat → Connection

namespace AsyncWebServer

variable (_parseMultipartPostByte : Char → Bool → AsyncWebServerRequest → AsyncWebServerRequest)

/-- Connection `id` is accepted at the time `accepted id`. -/
def construct (accepted : Nat → UInt32) : AsyncWebServer :=
  ⟨LocalHost.construct, fun id => Connection.construct (accepted id)⟩

/-- `_tcp_clear_events` takes the events of a deleted client out of the queue. -/
def handle (event : ClientEvent) (exchange : Exchange) : Exchange :=
  if exchange.deleted then exchange
  else
    match event with
    | .data buf => exchange._recv _parseMultipartPostByte buf
    | .ack len => exchange._sent len
    | .poll => exchange._poll
    | .lwipFin => exchange._lwip_fin
    | .fin => exchange._fin
    | .error => exchange._error

def step (server : AsyncWebServer) : ServerInput → AsyncWebServer
  | .client id link event =>
      let connection := server.connections id
      let client := { connection.client with toLink := link }
      let exchange := handle _parseMultipartPostByte event
        { connection with client := client, localHost := server.localHost }
      { localHost := exchange.localHost
        connections := Function.update server.connections id exchange.toConnection }
  | .disconnected => { server with localHost := server.localHost.disconnected }
  | .updatePageInfo rPerKit kits running percent =>
      { server with localHost := server.localHost.updatePageInfo rPerKit kits running percent }

end AsyncWebServer

end ResistorCutter
