import Mathlib.Data.Fintype.Basic
import ResistorCutter.DnsCore

/-!
What a resolver makes of the replies of the captive portal, and which packets are read within the
buffers.
-/

namespace ResistorCutter

namespace DNSServer

open Dns

/-! The name of the question. -/

/-- The bytes of a name from the position `n` on, as the loop reads it: any length below 256 is
that of a label. -/
structure Spelled (buffer : List UInt8) (n : Nat) (labels : Name) (after : List UInt8) : Prop where
  bytes : buffer.drop (DNS_HEADER_SIZE + n) = encodeName labels ++ after
  lengths : ∀ label ∈ labels, 0 < label.length ∧ label.length < 256
  short : n + (encodeName labels).length ≤ 256

theorem getElem?_of_drop {buffer tail : List UInt8} {position : Nat} {head : UInt8}
    (bytes : buffer.drop position = head :: tail) : buffer[position]? = some head := by
  have first : (buffer.drop position)[0]? = buffer[position + 0]? := List.getElem?_drop
  rw [bytes, List.getElem?_cons_zero, Nat.add_zero] at first
  exact first.symm

theorem drop_of_drop {buffer first rest : List UInt8} {position : Nat}
    (bytes : buffer.drop position = first ++ rest) :
    buffer.drop (position + first.length) = rest := by
  rw [← List.drop_drop, bytes, List.drop_left]

theorem readQName_spelled {buffer : List UInt8} {labels : Name} {after : List UInt8} {n fuel : Nat}
    (spelled : Spelled buffer n labels after) (enough : labels.length < fuel)
    (QName : List UInt8) :
    readQName buffer fuel n QName = some (QName ++ encodeName labels) := by
  induction labels generalizing n fuel QName with
  | nil =>
      obtain ⟨bytes, -, short⟩ := spelled
      obtain ⟨fuel, rfl⟩ := Nat.exists_eq_succ_of_ne_zero (Nat.ne_of_gt enough)
      have last : n + 1 ≤ 256 := short
      rw [readQName, getElem?_of_drop bytes]
      simp only [Option.bind_eq_bind, Option.bind_some, ne_eq, not_true_eq_false, if_false]
      exact if_pos (Nat.lt_of_succ_le last)
  | cons label rest ih =>
      obtain ⟨bytes, lengths, short⟩ := spelled
      obtain ⟨fuel, rfl⟩ := Nat.exists_eq_succ_of_ne_zero (Nat.ne_of_gt (Nat.zero_lt_of_lt enough))
      obtain ⟨positive, small⟩ := lengths label List.mem_cons_self
      have length : (UInt8.ofNat label.length).toNat = label.length := by
        rw [UInt8.toNat_ofNat', Nat.mod_eq_of_lt (by omega)]
      have head : UInt8.ofNat label.length ≠ 0 := by
        intro zero
        rw [zero] at length
        simp only [UInt8.reduceToNat] at length
        omega
      rw [encodeName_cons, List.append_assoc] at bytes
      rw [encodeName_cons, List.length_append, length_encodeLabel] at short
      have rested := drop_of_drop bytes
      rw [length_encodeLabel, Nat.add_assoc] at rested
      have inside : DNS_HEADER_SIZE + n + (label.length + 1) ≤ buffer.length := by
        have total := congrArg List.length bytes
        rw [List.length_drop, List.length_append, length_encodeLabel] at total
        omega
      have copied : (buffer.drop (DNS_HEADER_SIZE + n)).take (label.length + 1) =
          encodeLabel label := by
        rw [bytes, List.take_left' (length_encodeLabel label)]
      have more := ih ⟨rested, fun other member => lengths other (List.mem_cons_of_mem _ member),
        by omega⟩ (Nat.lt_of_succ_lt_succ enough) (QName ++ encodeLabel label)
      have fits : n + (label.length + 1) ≤ 256 := by omega
      rw [readQName, getElem?_of_drop bytes]
      simp only [Option.bind_eq_bind, Option.bind_some, ne_eq, head, not_false_eq_true, if_true,
        length, inside, fits, and_self, copied]
      rw [more, encodeName_cons, List.append_assoc]

theorem spelled_of_readQName {buffer : List UInt8} {fuel n : Nat} {QName result : List UInt8}
    (read : readQName buffer fuel n QName = some result) :
    ∃ labels after, Spelled buffer n labels after ∧ result = QName ++ encodeName labels := by
  induction fuel generalizing n QName with
  | zero => exact absurd read nofun
  | succ fuel ih =>
      rw [readQName] at read
      obtain ⟨length, here, read⟩ := Option.bind_eq_some_iff.mp read
      have bytes : buffer.drop (DNS_HEADER_SIZE + n) =
          length :: buffer.drop (DNS_HEADER_SIZE + n + 1) := by
        obtain ⟨inside, rfl⟩ := List.getElem?_eq_some_iff.mp here
        exact List.drop_eq_getElem_cons inside
      by_cases zero : length = 0
      · subst zero
        simp only [ne_eq, not_true_eq_false, if_false, Option.ite_none_right_eq_some,
          Option.some.injEq] at read
        obtain ⟨short, rfl⟩ := read
        exact ⟨[], _, ⟨bytes, by simp, Nat.succ_le_of_lt short⟩, rfl⟩
      · simp only [ne_eq, zero, not_false_eq_true, if_true, Option.ite_none_right_eq_some] at read
        obtain ⟨⟨inside, fits⟩, read⟩ := read
        obtain ⟨labels, after, spelled, same⟩ := ih read
        let label := (buffer.drop (DNS_HEADER_SIZE + n + 1)).take length.toNat
        have size : label.length = length.toNat := by
          rw [List.length_take, List.length_drop]
          omega
        have whole : length :: label =
            (buffer.drop (DNS_HEADER_SIZE + n)).take (length.toNat + 1) := by
          rw [bytes, List.take_succ_cons]
        have encoded : encodeLabel label = length :: label := by
          rw [encodeLabel, size, UInt8.ofNat_toNat]
        have below := length.toNat_lt
        have positive : 0 < length.toNat := by
          rw [Nat.pos_iff_ne_zero]
          exact fun none => zero (UInt8.toNat_inj.mp none)
        refine ⟨label :: labels, after, ⟨?_, ?_, ?_⟩, ?_⟩
        · have split := List.take_append_drop (length.toNat + 1)
            (buffer.drop (DNS_HEADER_SIZE + n))
          rw [List.drop_drop, Nat.add_assoc, spelled.bytes, ← whole, ← encoded] at split
          rw [encodeName_cons, List.append_assoc]
          exact split.symm
        · intro other member
          rcases List.mem_cons.mp member with rfl | later
          · omega
          · exact spelled.lengths other later
        · have short := spelled.short
          rw [encodeName_cons, List.length_append, length_encodeLabel, size]
          omega
        · rw [same, encodeName_cons, encoded, whole, List.append_assoc]

/-- A question that lies in the packet and whose name fits into `QName`. -/
def Readable (packet : List UInt8) : Prop :=
  ∃ (labels : Name) (t t' c c' : UInt8) (after : List UInt8),
    packet.drop DNS_HEADER_SIZE = encodeName labels ++ t :: t' :: c :: c' :: after ∧
      (∀ label ∈ labels, 0 < label.length ∧ label.length < 256) ∧
        (encodeName labels).length ≤ 256

theorem length_lt_encodeName (labels : Name) : labels.length < (encodeName labels).length := by
  induction labels with
  | nil => exact Nat.one_pos
  | cons label rest ih =>
      rw [encodeName_cons, List.length_append, length_encodeLabel, List.length_cons]
      omega

theorem drop_of_getElem? {buffer : List UInt8} {position : Nat} {head : UInt8}
    (here : buffer[position]? = some head) :
    buffer.drop position = head :: buffer.drop (position + 1) := by
  obtain ⟨inside, rfl⟩ := List.getElem?_eq_some_iff.mp here
  exact List.drop_eq_getElem_cons inside

theorem readQuestion_readable {packet : List UInt8} {labels : Name} {t t' c c' : UInt8}
    {after : List UInt8}
    (bytes : packet.drop DNS_HEADER_SIZE = encodeName labels ++ t :: t' :: c :: c' :: after)
    (lengths : ∀ label ∈ labels, 0 < label.length ∧ label.length < 256)
    (short : (encodeName labels).length ≤ 256) :
    readQuestion packet = some ⟨encodeName labels, (t, t'), (c, c')⟩ := by
  have spelled : Spelled packet 0 labels (t :: t' :: c :: c' :: after) := by
    refine ⟨bytes, lengths, ?_⟩
    rw [Nat.zero_add]
    exact short
  have enough : labels.length < packet.length := by
    have total := congrArg List.length bytes
    have few := length_lt_encodeName labels
    rw [List.length_drop, List.length_append] at total
    omega
  have rest := drop_of_drop bytes
  have place (k : Nat) : packet[DNS_HEADER_SIZE + (encodeName labels).length + k]? =
      (t :: t' :: c :: c' :: after)[k]? := by
    rw [← rest, List.getElem?_drop]
  rw [readQuestion, readQName_spelled spelled enough, List.nil_append]
  simp only [Option.bind_eq_bind, Option.bind_some, getElem?_of_drop rest, place 1, place 2,
    place 3, List.getElem?_cons_succ, List.getElem?_cons_zero]

theorem readable_of_readQuestion {packet : List UInt8} {question : DNSQuestion}
    (read : readQuestion packet = some question) : Readable packet := by
  rw [readQuestion] at read
  obtain ⟨QName, named, read⟩ := Option.bind_eq_some_iff.mp read
  obtain ⟨t, first, read⟩ := Option.bind_eq_some_iff.mp read
  obtain ⟨t', second, read⟩ := Option.bind_eq_some_iff.mp read
  obtain ⟨c, third, read⟩ := Option.bind_eq_some_iff.mp read
  obtain ⟨c', fourth, -⟩ := Option.bind_eq_some_iff.mp read
  obtain ⟨labels, after, spelled, rfl⟩ := spelled_of_readQName named
  rw [List.nil_append] at first second third fourth
  have short := spelled.short
  rw [Nat.zero_add] at short
  refine ⟨labels, t, t', c, c', packet.drop (DNS_HEADER_SIZE + (encodeName labels).length + 4), ?_,
    spelled.lengths, short⟩
  have rest := drop_of_drop spelled.bytes
  have tail : after = t :: t' :: c :: c' ::
      packet.drop (DNS_HEADER_SIZE + (encodeName labels).length + 4) := by
    rw [← rest, Nat.add_zero, drop_of_getElem? first, drop_of_getElem? second,
      drop_of_getElem? third, drop_of_getElem? fourth]
  rw [← tail]
  exact spelled.bytes

theorem readQuestion_eq_none_iff (packet : List UInt8) :
    readQuestion packet = none ↔ ¬Readable packet := by
  constructor
  · rintro none ⟨labels, t, t', c, c', after, bytes, lengths, short⟩
    rw [readQuestion_readable bytes lengths short] at none
    exact absurd none nofun
  · intro unreadable
    cases read : readQuestion packet with
    | none => rfl
    | some question => exact absurd (readable_of_readQuestion read) unreadable

/-! Packets. -/

theorem ofBytes_eq_none_iff (packet : List UInt8) :
    DNSHeader.ofBytes packet = none ↔ packet.length < DNS_HEADER_SIZE := by
  rcases packet with _ | ⟨_, _ | ⟨_, _ | ⟨_, _ | ⟨_, _ | ⟨_, _ | ⟨_, rest⟩⟩⟩⟩⟩⟩
  all_goals try (simp [DNSHeader.ofBytes, DNS_HEADER_SIZE]; done)
  rcases rest with _ | ⟨_, _ | ⟨_, _ | ⟨_, _ | ⟨_, _ | ⟨_, _ | ⟨_, rest⟩⟩⟩⟩⟩⟩
  all_goals simp [DNSHeader.ofBytes, DNS_HEADER_SIZE]

theorem ofBytes_bytes (header : DNSHeader) (rest : List UInt8) :
    DNSHeader.ofBytes (header.bytes ++ rest) = some header := rfl

theorem bytes_of_ofBytes {packet : List UInt8} {header : DNSHeader}
    (read : DNSHeader.ofBytes packet = some header) : ∃ rest, packet = header.bytes ++ rest := by
  unfold DNSHeader.ofBytes at read
  split at read
  · next rest =>
    obtain rfl := Option.some.inj read
    exact ⟨rest, rfl⟩
  · exact absurd read nofun

def DNSHeader.Single (header : DNSHeader) : Prop :=
  header.QDCount = (0, 1) ∧ header.ANCount = (0, 0) ∧ header.NSCount = (0, 0) ∧
    header.ARCount = (0, 0)

instance (header : DNSHeader) : Decidable header.Single :=
  inferInstanceAs (Decidable (_ ∧ _ ∧ _ ∧ _))

namespace Server

theorem requestIncludesOnlyOneQuestion_eq (server : Server) :
    server.requestIncludesOnlyOneQuestion = decide server._dnsHeader.Single := by
  rw [requestIncludesOnlyOneQuestion, Bool.eq_iff_iff, decide_eq_true_iff]
  simp [DNSHeader.Single, and_assoc]

/-- The end of `processNextRequest`. -/
def react (server : Server) : Server × Option (List UInt8) :=
  if !server._dnsHeader.QR && server._dnsHeader.OPCode = 0 &&
      decide server._dnsHeader.Single then
    (server.replyWithIP.1, some server.replyWithIP.2)
  else if !server._dnsHeader.QR then
    (server.replyWithCustomCode.1, some server.replyWithCustomCode.2)
  else (server, none)

theorem processNextRequest_eq (server : Server) {packet : List UInt8} {header : DNSHeader}
    (read : DNSHeader.ofBytes packet = some header) :
    server.processNextRequest packet =
      (if header.Single then readQuestion packet else some server._dnsQuestion).map fun question =>
        react { server with _dnsHeader := header, _dnsQuestion := question } := by
  have nonempty : packet.length ≠ 0 := by
    obtain ⟨rest, rfl⟩ := bytes_of_ofBytes read
    exact Nat.succ_ne_zero _
  rw [processNextRequest, if_pos nonempty, read]
  simp only [Option.bind_eq_bind, Option.bind_some, requestIncludesOnlyOneQuestion_eq,
    decide_eq_true_eq]
  by_cases single : header.Single
  · cases readQuestion packet with
    | none => simp only [single, if_true, Option.bind_none, Option.map_none]
    | some question =>
        simp only [single, if_true, Option.bind_some, Option.map_some, react]
        split
        · rfl
        · split <;> rfl
  · simp only [single, if_false, Option.map_some, react]
    split
    · rfl
    · split <;> rfl

/-- A packet is read within the buffers unless it is too short for a header, or says that it has
one question and that is not all in the packet or has a name that is too long. -/
theorem faults_iff (server : Server) (packet : List UInt8) :
    server.processNextRequest packet = none ↔ packet ≠ [] ∧ (packet.length < DNS_HEADER_SIZE ∨
      ∃ header, DNSHeader.ofBytes packet = some header ∧ header.Single ∧ ¬Readable packet) := by
  by_cases empty : packet = []
  · subst empty
    simp [processNextRequest]
  · have length : packet.length ≠ 0 := by rwa [ne_eq, List.length_eq_zero_iff]
    rw [← ofBytes_eq_none_iff]
    cases read : DNSHeader.ofBytes packet with
    | none => simp [processNextRequest, length, read, empty]
    | some header =>
        rw [processNextRequest_eq server read, Option.map_eq_none_iff, ← readQuestion_eq_none_iff]
        by_cases single : header.Single <;> simp [empty, single]

end Server

/-! What a resolver reads in a packet with such a header. -/

def value (field : Field) : Nat := 256 * field.1.toNat + field.2.toNat

def DNSHeader.message (header : DNSHeader) (questions : List Question)
    (answers authorities additionals : List Record) : Message where
  id := value header.ID
  response := header.QR
  opcode := header.OPCode.toNat
  aa := header.flags.1 &&& 0x4 != 0
  tc := header.flags.1 &&& 0x2 != 0
  rd := header.flags.1 &&& 0x1 != 0
  ra := header.flags.2 &&& 0x80 != 0
  z := ((header.flags.2 >>> 4) &&& 0x7).toNat
  rcode := (header.flags.2 &&& 0xF).toNat
  questions := questions
  answers := answers
  authorities := authorities
  additionals := additionals

theorem decode_bytes (header : DNSHeader) (rest : List UInt8) :
    decode (header.bytes ++ rest) = (do
      let packet := header.bytes ++ rest
      let questions ← decodeMany (decodeQuestion packet) (value header.QDCount) 12
      let answers ← decodeMany (decodeRecord packet) (value header.ANCount) questions.2
      let authorities ← decodeMany (decodeRecord packet) (value header.NSCount) answers.2
      let additionals ← decodeMany (decodeRecord packet) (value header.ARCount) authorities.2
      some (header.message questions.1 answers.1 authorities.1 additionals.1)) := rfl

/-- The header becomes that of a response, and nothing else of it changes. -/
theorem message_response (header : DNSHeader) (questions : List Question)
    (answers authorities additionals : List Record) (codes : UInt8) (q a n r : Field) :
    DNSHeader.message ⟨header.ID, (header.flags.1 ||| 0x80, codes), q, a, n, r⟩ questions answers
        authorities additionals =
      { header.message questions answers authorities additionals with
        response := true
        ra := codes &&& 0x80 != 0
        z := ((codes >>> 4) &&& 0x7).toNat
        rcode := (codes &&& 0xF).toNat } := by
  have bits : ∀ n : Fin 256, (fun flags flags' : UInt8 =>
      (flags' &&& 0x80 != 0) = true ∧ ((flags' >>> 3) &&& 0xF : UInt8) = (flags >>> 3) &&& 0xF ∧
        flags' &&& 0x4 = flags &&& 0x4 ∧ flags' &&& 0x2 = flags &&& 0x2 ∧
          flags' &&& 0x1 = flags &&& 0x1) (UInt8.ofNat n) (UInt8.ofNat n ||| 0x80) := by
    decide +kernel
  have byte : UInt8.ofNat (⟨header.flags.1.toNat, header.flags.1.toNat_lt⟩ : Fin 256) =
      header.flags.1 := UInt8.ofNat_toNat
  obtain ⟨response, opcode, aa, tc, rd⟩ := bits ⟨header.flags.1.toNat, header.flags.1.toNat_lt⟩
  rw [byte] at response opcode aa tc rd
  simp only [DNSHeader.message, DNSHeader.QR, DNSHeader.OPCode, response, opcode, aa, tc, rd]

/-! The replies. -/

/-- A query with a single question, of any type and class, for a name that is written out. -/
structure Lookup where
  header : DNSHeader
  name : Name
  qtype : Field
  qclass : Field
  trailing : List UInt8
  single : header.Single
  query : header.QR = false ∧ header.OPCode = 0
  valid : ValidName name

namespace Lookup

def packet (lookup : Lookup) : List UInt8 :=
  lookup.header.bytes ++ encodeName lookup.name ++
    lookup.qtype.1 :: lookup.qtype.2 :: lookup.qclass.1 :: lookup.qclass.2 :: lookup.trailing

def question (lookup : Lookup) : Question :=
  ⟨lookup.name, value lookup.qtype, value lookup.qclass⟩

def message (lookup : Lookup) : Message :=
  lookup.header.message [lookup.question] [] [] []

theorem decode_packet (lookup : Lookup) : decode lookup.packet = some lookup.message := by
  have bytes : lookup.packet = lookup.header.bytes ++ (encodeName lookup.name ++ lookup.qtype.1 ::
      lookup.qtype.2 :: lookup.qclass.1 :: lookup.qclass.2 :: lookup.trailing) := by
    rw [packet, List.append_assoc]
  have asked := decodeQuestion_encodeName lookup.valid lookup.header.bytes lookup.qtype.1
    lookup.qtype.2 lookup.qclass.1 lookup.qclass.2 lookup.trailing
  obtain ⟨q, a, n, r⟩ := lookup.single
  rw [List.append_assoc] at asked
  have one : value (0, 1) = 1 := rfl
  have zero : value (0, 0) = 0 := rfl
  have start : lookup.header.bytes.length = 12 := rfl
  rw [start] at asked
  rw [bytes, decode_bytes, q, a, n, r, one, zero]
  simp only [decodeMany_zero, decodeMany_one asked, Option.bind_eq_bind, Option.bind_some]
  rfl

/-- What the portal answers: the same message, as a response with the address of the portal. -/
def answer (lookup : Lookup) : Message :=
  { lookup.message with
    response := true
    answers := [⟨lookup.name, 1, 1, 3600, [4, 3, 2, 1]⟩] }

/-- What `replyWithIP` writes. -/
def reply (lookup : Lookup) : List UInt8 :=
  DNSHeader.bytes ⟨lookup.header.ID, (lookup.header.flags.1 ||| 0x80, lookup.header.flags.2),
      (0, 1), (0, 1), (0, 0), (0, 0)⟩ ++ encodeName lookup.name ++
    lookup.qtype.1 :: lookup.qtype.2 :: lookup.qclass.1 :: lookup.qclass.2 ::
      [0xC0, 12, 0, 1, 0, 1, 0, 0, 0xE, 0x10, 0, 4, 4, 3, 2, 1]

theorem decode_reply (lookup : Lookup) : decode lookup.reply = some lookup.answer := by
  obtain ⟨q, a, n, r⟩ := lookup.single
  have few := lookup.valid.few
  have short := lookup.valid.short
  let header : DNSHeader := ⟨lookup.header.ID,
    (lookup.header.flags.1 ||| 0x80, lookup.header.flags.2), (0, 1), (0, 1), (0, 0), (0, 0)⟩
  let record : List UInt8 := [0xC0, 12, 0, 1, 0, 1, 0, 0, 0xE, 0x10, 0, 4, 4, 3, 2, 1]
  have bytes : lookup.reply = header.bytes ++ (encodeName lookup.name ++ lookup.qtype.1 ::
      lookup.qtype.2 :: lookup.qclass.1 :: lookup.qclass.2 :: record) := by
    rw [reply, List.append_assoc]
  have asked := decodeQuestion_encodeName lookup.valid header.bytes lookup.qtype.1
    lookup.qtype.2 lookup.qclass.1 lookup.qclass.2 record
  have named := decodeName_encodeName lookup.valid.labels (show lookup.name.length < 255 by omega)
    header.bytes (lookup.qtype.1 :: lookup.qtype.2 :: lookup.qclass.1 :: lookup.qclass.2 :: record)
  rw [List.append_assoc] at asked named
  have rest : (header.bytes ++ (encodeName lookup.name ++ lookup.qtype.1 ::
      lookup.qtype.2 :: lookup.qclass.1 :: lookup.qclass.2 :: record)).drop
        (header.bytes.length + (encodeName lookup.name).length + 4) = record := by
    rw [← List.append_assoc, ← List.drop_drop, ← List.length_append, List.drop_left]
    rfl
  have answered := @decodeRecord_pointer _ _ 0xC0 12 0 1 0 1 0 0 0xE 0x10 0 4 [4, 3, 2, 1] [] _ rest
    (by decide) named rfl
  have message := message_response lookup.header [lookup.question]
    [⟨lookup.name, 1, 1, 3600, [4, 3, 2, 1]⟩] [] [] lookup.header.flags.2
    (0, 1) (0, 1) (0, 0) (0, 0)
  have one : value (0, 1) = 1 := rfl
  have zero : value (0, 0) = 0 := rfl
  have start : header.bytes.length = 12 := rfl
  rw [start] at asked answered
  rw [bytes, decode_bytes]
  simp only [header, one, zero, decodeMany_zero, decodeMany_one asked, decodeMany_one answered,
    Option.bind_eq_bind, Option.bind_some]
  exact congrArg some message

end Lookup

theorem value_eq_zero_iff (field : Field) : value field = 0 ↔ field = (0, 0) := by
  obtain ⟨high, low⟩ := field
  rw [value, Prod.mk.injEq, ← UInt8.toNat_inj, ← UInt8.toNat_inj]
  simp only [UInt8.reduceToNat]
  omega

theorem refused_codes (codes : UInt8) :
    ((codes &&& 0xF0 ||| (3 &&& 0xF)) &&& 0x80 != 0) = (codes &&& 0x80 != 0) ∧
      (((codes &&& 0xF0 ||| (3 &&& 0xF)) >>> 4) &&& 0x7).toNat = ((codes >>> 4) &&& 0x7).toNat ∧
        ((codes &&& 0xF0 ||| (3 &&& 0xF)) &&& 0xF).toNat = 3 := by
  have bits : ∀ n : Fin 256, (fun codes codes' : UInt8 =>
      (codes' &&& 0x80 != 0) = (codes &&& 0x80 != 0) ∧
        ((codes' >>> 4) &&& 0x7 : UInt8).toNat = ((codes >>> 4) &&& 0x7 : UInt8).toNat ∧
          (codes' &&& 0xF).toNat = 3) (UInt8.ofNat n) (UInt8.ofNat n &&& 0xF0 ||| (3 &&& 0xF)) := by
    decide +kernel
  have byte : UInt8.ofNat (⟨codes.toNat, codes.toNat_lt⟩ : Fin 256) = codes := UInt8.ofNat_toNat
  have known := bits ⟨codes.toNat, codes.toNat_lt⟩
  rw [byte] at known
  exact known

/-- The header of `replyWithCustomCode` with the code of the portal, by itself. -/
theorem decode_refusal (header : DNSHeader) :
    decode (DNSHeader.bytes ⟨header.ID, (header.flags.1 ||| 0x80,
        (header.flags.2 &&& 0xF0) ||| (3 &&& 0xF)), (0, 0), header.ANCount, header.NSCount,
        header.ARCount⟩) =
      if header.ANCount = (0, 0) ∧ header.NSCount = (0, 0) ∧ header.ARCount = (0, 0) then
        some { header.message [] [] [] [] with response := true, rcode := 3 }
      else none := by
  let refusal : DNSHeader := ⟨header.ID, (header.flags.1 ||| 0x80,
    (header.flags.2 &&& 0xF0) ||| (3 &&& 0xF)), (0, 0), header.ANCount, header.NSCount,
    header.ARCount⟩
  have short : (refusal.bytes ++ []).length ≤ 12 := Nat.le_refl 12
  have none_asked : value (0, 0) = 0 := rfl
  have decoded := decode_bytes refusal []
  rw [List.append_nil] at decoded short
  refine decoded.trans ?_
  simp only [refusal, none_asked, decodeMany_zero, Option.bind_eq_bind, Option.bind_some]
  have counted (field : Field) (some_counted : field ≠ (0, 0)) :
      decodeMany (decodeRecord refusal.bytes) (value field) 12 = none :=
    decodeMany_end short (mt (value_eq_zero_iff field).mp some_counted)
  by_cases answers : header.ANCount = (0, 0)
  · have first := (value_eq_zero_iff _).mpr answers
    by_cases authorities : header.NSCount = (0, 0)
    · have second := (value_eq_zero_iff _).mpr authorities
      by_cases additionals : header.ARCount = (0, 0)
      · have third := (value_eq_zero_iff _).mpr additionals
        rw [if_pos ⟨answers, authorities, additionals⟩]
        simp only [first, second, third, decodeMany_zero, Option.bind_some]
        obtain ⟨ra, z, rcode⟩ := refused_codes header.flags.2
        rw [message_response, ra, z, rcode]
        rfl
      · rw [if_neg fun all => additionals all.2.2]
        simp only [first, second, decodeMany_zero, Option.bind_some]
        rw [counted _ additionals]
        rfl
    · rw [if_neg fun all => authorities all.2.1]
      simp only [first, decodeMany_zero, Option.bind_some]
      rw [counted _ authorities]
      rfl
  · rw [if_neg fun all => answers all.1, counted _ answers]
    rfl

/-! Runs. -/

namespace Server

/-- The settings of `LocalHost`, which no packet changes. -/
structure Portal (server : Server) : Prop where
  ttl : server._ttl = 3600
  code : server._errorReplyCode = 3
  address : server._resolvedIP = (4, 3, 2, 1)

theorem react_portal {server : Server} (portal : server.Portal) : server.react.1.Portal := by
  rw [react]
  split
  · exact ⟨portal.ttl, portal.code, portal.address⟩
  · split
    · exact ⟨portal.ttl, portal.code, portal.address⟩
    · exact portal

theorem processNextRequest_portal {server : Server} (portal : server.Portal)
    {packet : List UInt8} {next : Server × Option (List UInt8)}
    (served : server.processNextRequest packet = some next) : next.1.Portal := by
  cases read : DNSHeader.ofBytes packet with
  | none =>
      rw [processNextRequest, read] at served
      split at served
      · exact absurd served nofun
      · obtain rfl := Option.some.inj served
        exact portal
  | some header =>
      rw [processNextRequest_eq server read] at served
      obtain ⟨question, -, rfl⟩ := Option.map_eq_some_iff.mp served
      exact react_portal ⟨portal.ttl, portal.code, portal.address⟩

theorem serve_portal {server last : Server} (portal : server.Portal)
    {packets replies : List (List UInt8)} (served : server.serve packets = some (last, replies)) :
    last.Portal := by
  induction packets generalizing server replies with
  | nil =>
      obtain ⟨rfl, -⟩ := Prod.mk.inj (Option.some.inj served)
      exact portal
  | cons packet rest ih =>
      rw [serve] at served
      obtain ⟨now, taken, served⟩ := Option.bind_eq_some_iff.mp served
      obtain ⟨later, done, same⟩ := Option.bind_eq_some_iff.mp served
      obtain ⟨rfl, -⟩ := Prod.mk.inj (Option.some.inj same)
      exact ih (processNextRequest_portal portal taken) done

theorem start_portal (header : DNSHeader) (question : DNSQuestion) :
    (start header question).Portal := ⟨rfl, rfl, rfl⟩

theorem processNextRequest_lookup {server : Server} (portal : server.Portal) (lookup : Lookup) :
    ∃ next, server.processNextRequest lookup.packet = some (next, some lookup.reply) := by
  have bytes : lookup.packet = lookup.header.bytes ++ (encodeName lookup.name ++ lookup.qtype.1 ::
      lookup.qtype.2 :: lookup.qclass.1 :: lookup.qclass.2 :: lookup.trailing) := by
    rw [Lookup.packet, List.append_assoc]
  have read : DNSHeader.ofBytes lookup.packet = some lookup.header := by
    rw [bytes]
    exact ofBytes_bytes _ _
  have short := lookup.valid.short
  have asked : readQuestion lookup.packet =
      some ⟨encodeName lookup.name, lookup.qtype, lookup.qclass⟩ := by
    have dropped : lookup.packet.drop DNS_HEADER_SIZE = encodeName lookup.name ++ lookup.qtype.1 ::
        lookup.qtype.2 :: lookup.qclass.1 :: lookup.qclass.2 :: lookup.trailing := by
      rw [bytes]
      rfl
    refine readQuestion_readable dropped (fun label member => ?_) (by omega)
    have lengths := lookup.valid.labels label member
    omega
  obtain ⟨query, standard⟩ := lookup.query
  obtain ⟨q, a, n, r⟩ := lookup.single
  have single := lookup.single
  rw [processNextRequest_eq server read, if_pos single, asked, Option.map_some, react]
  have plain : (!lookup.header.QR && decide (lookup.header.OPCode = 0) &&
      decide lookup.header.Single) = true := by
    simp [query, standard, single]
  rw [if_pos plain]
  refine ⟨_, congrArg some (Prod.ext rfl (congrArg some ?_))⟩
  obtain ⟨ttl, code, address⟩ := portal
  have constants : [0xC0, UInt8.ofNat DNS_OFFSET_DOMAIN_NAME] ++ htons DNS_TYPE_A ++
      htons DNS_CLASS_IN ++ htonl 3600 ++ htons DNS_RDLENGTH_IPV4 ++ [4, 3, 2, 1] =
        [0xC0, 12, 0, 1, 0, 1, 0, 0, 0xE, 0x10, 0, 4, 4, 3, 2, 1] := by decide
  simp only [replyWithIP, ttl, address, q, n, r, Lookup.reply, ← constants, List.append_assoc,
    List.cons_append, List.nil_append]

/-- Whatever packets have been served before, the portal answers every lookup, and a resolver
decodes the answer as the message of the query made a response, with one record for the name: the
address of the portal. -/
theorem lookups_answered (header : DNSHeader) (question : DNSQuestion)
    (before replies : List (List UInt8)) (server : Server)
    (served : (start header question).serve before = some (server, replies)) (lookup : Lookup) :
    ∃ next reply, server.processNextRequest lookup.packet = some (next, some reply) ∧
      decode lookup.packet = some lookup.message ∧
      decode reply = some { lookup.message with
        response := true
        answers := [⟨lookup.name, 1, 1, 3600, [4, 3, 2, 1]⟩] } := by
  obtain ⟨next, answered⟩ :=
    processNextRequest_lookup (serve_portal (start_portal header question) served) lookup
  exact ⟨next, lookup.reply, answered, lookup.decode_packet, lookup.decode_reply⟩

def nowhere : DNSHeader := ⟨(0, 0), (0, 0), (0, 0), (0, 0), (0, 0), (0, 0)⟩

/-- A query for the IPv6 address of `www.go`. -/
def connectivity : Lookup where
  header := ⟨(0xAB, 0xCD), (1, 0x20), (0, 1), (0, 0), (0, 0), (0, 0)⟩
  name := [[119, 119, 119], [103, 111]]
  qtype := (0, 28)
  qclass := (0, 1)
  trailing := []
  single := by decide
  query := by decide
  valid := ⟨by decide, by decide⟩

theorem lookups_answered_again : ∃ server replies,
    (start nowhere ⟨[], (0, 0), (0, 0)⟩).serve [connectivity.packet, nowhere.bytes] =
        some (server, replies) ∧
      ∃ next reply, server.processNextRequest connectivity.packet = some (next, some reply) ∧
        decode connectivity.packet = some connectivity.message ∧
        decode reply = some { connectivity.message with
          response := true
          answers := [⟨connectivity.name, 1, 1, 3600, [4, 3, 2, 1]⟩] } := by
  obtain ⟨server, replies, served⟩ : ∃ server replies,
      (start nowhere ⟨[], (0, 0), (0, 0)⟩).serve [connectivity.packet, nowhere.bytes] =
        some (server, replies) := ⟨_, _, rfl⟩
  exact ⟨server, replies, served, lookups_answered _ _ _ _ _ served connectivity⟩

/-- The reply to any other query is its header made a response, with the code of the server and no
question counted. It is a message if the query counted no record in any other section; else no
resolver can decode it, since the counts are sent back without the records. -/
theorem others_refused (header : DNSHeader) (question : DNSQuestion)
    (before replies : List (List UInt8)) (server : Server)
    (served : (start header question).serve before = some (server, replies))
    (asked : DNSHeader) (rest : List UInt8) (query : asked.QR = false)
    (other : ¬(asked.OPCode = 0 ∧ asked.Single))
    (readable : asked.Single → Readable (asked.bytes ++ rest)) :
    ∃ next reply, server.processNextRequest (asked.bytes ++ rest) = some (next, some reply) ∧
      reply = [asked.ID.1, asked.ID.2, asked.flags.1 ||| 0x80, (asked.flags.2 &&& 0xF0) ||| 3, 0, 0,
        asked.ANCount.1, asked.ANCount.2, asked.NSCount.1, asked.NSCount.2, asked.ARCount.1,
        asked.ARCount.2] ∧
      decode reply =
        if asked.ANCount = (0, 0) ∧ asked.NSCount = (0, 0) ∧ asked.ARCount = (0, 0) then
          some { asked.message [] [] [] [] with response := true, rcode := 3 }
        else none := by
  have portal := serve_portal (start_portal header question) served
  obtain ⟨kept, found⟩ : ∃ kept, (if asked.Single then readQuestion (asked.bytes ++ rest)
      else some server._dnsQuestion) = some kept := by
    split
    · next single =>
      cases read : readQuestion (asked.bytes ++ rest) with
      | none => exact absurd (readable single) ((readQuestion_eq_none_iff _).mp read)
      | some kept => exact ⟨kept, rfl⟩
    · exact ⟨_, rfl⟩
  have plain : ¬(!asked.QR && decide (asked.OPCode = 0) && decide asked.Single) = true := by
    simpa [query] using other
  have refused : (!asked.QR) = true := by simp [query]
  let refusal :=
    replyWithCustomCode { server with _dnsHeader := asked, _dnsQuestion := kept }
  refine ⟨refusal.1, refusal.2, ?_, ?_, ?_⟩
  · rw [processNextRequest_eq server (ofBytes_bytes asked rest), found, Option.map_some, react,
      if_neg plain, if_pos refused]
  · have code : server._errorReplyCode &&& 0xF = 3 := by
      rw [portal.code]
      rfl
    rw [← code]
    rfl
  · rw [← decode_refusal asked, ← portal.code]
    rfl

theorem others_refused_counted : ∃ next reply,
    (start nowhere ⟨[], (0, 0), (0, 0)⟩).processNextRequest
        (DNSHeader.bytes { connectivity.header with ARCount := (0, 1) } ++ [0]) =
      some (next, some reply) ∧
    reply = [0xAB, 0xCD, 0x81, 0x23, 0, 0, 0, 0, 0, 0, 0, 1] ∧
    decode reply = if connectivity.header.ANCount = (0, 0) ∧
        connectivity.header.NSCount = (0, 0) ∧ ((0, 1) : Field) = (0, 0) then
      some { DNSHeader.message { connectivity.header with ARCount := (0, 1) } [] [] [] [] with
        response := true
        rcode := 3 }
    else none :=
  others_refused nowhere ⟨[], (0, 0), (0, 0)⟩ [] [] _ rfl
    { connectivity.header with ARCount := (0, 1) } [0] (by decide) (by decide)
    fun single => absurd single (by decide)

end Server

end DNSServer

end ResistorCutter
