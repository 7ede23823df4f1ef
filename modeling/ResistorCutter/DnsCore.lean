import ResistorCutter.DnsMessage

/-!
`DNSServer.cpp` of the captive portal, down to its bytes. A read or a copy that leaves its buffer
has no result.
-/

namespace ResistorCutter

namespace DNSServer

def DNS_OFFSET_DOMAIN_NAME : Nat := 12
def DNS_HEADER_SIZE : Nat := 12
def DNS_TYPE_A : UInt16 := 1
def DNS_CLASS_IN : UInt16 := 1
def DNS_RDLENGTH_IPV4 : UInt16 := 4

/-- A field of two bytes, as they are in the packet. -/
abbrev Field := UInt8 × UInt8

/-- The bit fields are `flags.1` and `flags.2`: from the lowest bit on `RD`, `TC`, `AA`, `OPCode`
and `QR`, and `RCode`, `Z` and `RA`. -/
structure DNSHeader where
  ID : Field
  flags : Field
  QDCount : Field
  ANCount : Field
  NSCount : Field
  ARCount : Field
  deriving DecidableEq

namespace DNSHeader

/-- The first `memcpy` of `processNextRequest`. -/
def ofBytes : List UInt8 → Option DNSHeader
  | i :: i' :: f :: f' :: q :: q' :: a :: a' :: n :: n' :: r :: r' :: _ =>
      some ⟨(i, i'), (f, f'), (q, q'), (a, a'), (n, n'), (r, r')⟩
  | _ => none

def bytes (header : DNSHeader) : List UInt8 :=
  [header.ID.1, header.ID.2, header.flags.1, header.flags.2, header.QDCount.1, header.QDCount.2,
    header.ANCount.1, header.ANCount.2, header.NSCount.1, header.NSCount.2, header.ARCount.1,
    header.ARCount.2]

def QR (header : DNSHeader) : Bool := header.flags.1 &&& 0x80 != 0

def OPCode (header : DNSHeader) : UInt8 := (header.flags.1 >>> 3) &&& 0xF

end DNSHeader

/-- `QName` holds `QNameLength` bytes. -/
structure DNSQuestion where
  QName : List UInt8
  QType : Field
  QClass : Field
  deriving DecidableEq

/-- The parts of the object that a packet meets. `_domainName` is `"*"`. -/
structure Server where
  _dnsHeader : DNSHeader
  _dnsQuestion : DNSQuestion
  _ttl : UInt32
  _errorReplyCode : UInt8
  _resolvedIP : UInt8 × UInt8 × UInt8 × UInt8

/-- What `LocalHost` sets up, on memory with any content. -/
def start (header : DNSHeader) (question : DNSQuestion) : Server where
  _dnsHeader := header
  _dnsQuestion := question
  _ttl := 3600
  _errorReplyCode := 3
  _resolvedIP := (4, 3, 2, 1)

def htons (n : UInt16) : List UInt8 := [(n >>> 8).toUInt8, n.toUInt8]

def htonl (n : UInt32) : List UInt8 :=
  [(n >>> 24).toUInt8, (n >>> 16).toUInt8, (n >>> 8).toUInt8, n.toUInt8]

/-- The loop over the labels, with `QNameLength` and the bytes that `QName` holds so far. -/
def readQName (buffer : List UInt8) : Nat → Nat → List UInt8 → Option (List UInt8)
  | 0, _, _ => none
  | fuel + 1, QNameLength, QName => do
      let length ← buffer[DNS_HEADER_SIZE + QNameLength]?
      if length ≠ 0 then
        let count := length.toNat + 1
        if DNS_HEADER_SIZE + QNameLength + count ≤ buffer.length ∧ QNameLength + count ≤ 256 then
          readQName buffer fuel (QNameLength + count)
            (QName ++ (buffer.drop (DNS_HEADER_SIZE + QNameLength)).take count)
        else none
      else if QNameLength < 256 then some (QName ++ [0])
      else none

def readQuestion (buffer : List UInt8) : Option DNSQuestion := do
  let QName ← readQName buffer buffer.length 0 []
  let position := DNS_HEADER_SIZE + QName.length
  let t ← buffer[position]?
  let t' ← buffer[position + 1]?
  let c ← buffer[position + 2]?
  let c' ← buffer[position + 3]?
  some ⟨QName, (t, t'), (c, c')⟩

namespace Server

def requestIncludesOnlyOneQuestion (server : Server) : Bool :=
  server._dnsHeader.QDCount = (0, 1) && server._dnsHeader.ANCount = (0, 0) &&
    server._dnsHeader.NSCount = (0, 0) && server._dnsHeader.ARCount = (0, 0)

def replyWithIP (server : Server) : Server × List UInt8 :=
  let header := { server._dnsHeader with
    flags := (server._dnsHeader.flags.1 ||| 0x80, server._dnsHeader.flags.2)
    ANCount := server._dnsHeader.QDCount }
  let question := server._dnsQuestion
  let (first, second, third, fourth) := server._resolvedIP
  ({ server with _dnsHeader := header },
    header.bytes ++ question.QName ++ [question.QType.1, question.QType.2] ++
      [question.QClass.1, question.QClass.2] ++ [0xC0, UInt8.ofNat DNS_OFFSET_DOMAIN_NAME] ++
      htons DNS_TYPE_A ++ htons DNS_CLASS_IN ++ htonl server._ttl ++ htons DNS_RDLENGTH_IPV4 ++
      [first, second, third, fourth])

def replyWithCustomCode (server : Server) : Server × List UInt8 :=
  let header := { server._dnsHeader with
    flags := (server._dnsHeader.flags.1 ||| 0x80,
      (server._dnsHeader.flags.2 &&& 0xF0) ||| (server._errorReplyCode &&& 0xF))
    QDCount := (0, 0) }
  ({ server with _dnsHeader := header }, header.bytes)

/-- `processNextRequest` on the packet that has come in, with the packet that goes out. -/
def processNextRequest (server : Server) (packet : List UInt8) :
    Option (Server × Option (List UInt8)) :=
  if packet.length ≠ 0 then do
    let header ← DNSHeader.ofBytes packet
    let server := { server with _dnsHeader := header }
    let question ← if server.requestIncludesOnlyOneQuestion then readQuestion packet
      else some server._dnsQuestion
    let server := { server with _dnsQuestion := question }
    if !server._dnsHeader.QR && server._dnsHeader.OPCode = 0 &&
        server.requestIncludesOnlyOneQuestion then
      let reply := server.replyWithIP
      some (reply.1, some reply.2)
    else if !server._dnsHeader.QR then
      let reply := server.replyWithCustomCode
      some (reply.1, some reply.2)
    else some (server, none)
  else some (server, none)

/-- One packet after the other, with all that goes out. -/
def serve : Server → List (List UInt8) → Option (Server × List (List UInt8))
  | server, [] => some (server, [])
  | server, packet :: rest => do
      let now ← server.processNextRequest packet
      let later ← serve now.1 rest
      some (later.1, now.2.toList ++ later.2)

end Server

end DNSServer

end ResistorCutter
