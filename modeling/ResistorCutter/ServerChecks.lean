import ResistorCutter.Runs
import ResistorCutter.ReplyChecks
import ResistorCutter.RequestChecks

/-!
The server with all its connections, against a portal that answers each request at once: the
order of the answers is that in which the last characters of the requests come in.
-/

namespace ResistorCutter

/-! The portal that the server is to be. -/

/-- Of one client: what it has yet to send, and when it was last heard of. After the reply to it:
the events at which the server could write, the bytes acknowledged, the moments of such events since
the last acknowledgement, and whether lwIP has refused a call. `ended` is that lwIP has closed the
connection, `dropped` that the server has given it up; after the reply, that it may have. -/
structure Visit where
  pending : Http.Text
  heard : UInt32
  reply : Option Http.Reply
  ended : Bool
  dropped : Bool
  turns : Nat
  acked : Nat
  moments : List UInt32
  refused : Bool

namespace Visit

def room (link : Link) (visit : Visit) : Nat := if visit.ended then 0 else link.sndbuf

/-- An event at which the server writes if it can. -/
def turn (link : Link) (visit : Visit) : Visit :=
  { visit with
    turns := visit.turns + min 1 (visit.room link)
    moments := if 0 < visit.room link then link.now :: visit.moments else visit.moments
    refused := visit.refused || link.answers.contains false }

/-- The reply begins to be written at the event that completes the request. -/
def answered (reply : Http.Reply) (link : Link) (visit : Visit) : Visit :=
  { { visit with
      pending := []
      reply := some reply
      acked := 0
      moments := []
      refused := false }.turn link with
    turns := 0 }

/-- Before the answer. The server waits for three seconds. -/
def receive (link : Link) (visit : Visit) : ClientEvent → Visit
  | .data buf => { visit with pending := visit.pending.drop buf.length, heard := link.now }
  | .ack _ => { visit with heard := link.now }
  | .poll => { visit with dropped := !visit.ended && decide (link.now - visit.heard ≥ 3000) }
  | .lwipFin => { visit with ended := true }
  | .fin => { visit with dropped := true }
  | .error => { visit with dropped := true }

/-- After the answer. The server waits for five seconds after a write. -/
def deliver (link : Link) (visit : Visit) : ClientEvent → Visit
  | .data _ => visit
  | .ack len => { visit with acked := visit.acked + len, moments := [] }.turn link
  | .poll =>
      let late := visit.moments.any fun moment => decide (link.now - moment ≥ 5000)
      { visit with dropped := visit.dropped || !visit.ended && late }.turn link
  | .lwipFin => { visit with ended := true }
  | .fin => { visit with dropped := true }
  | .error => { visit with dropped := true }

end Visit

structure Portal where
  localHost : LocalHost
  visits : Nat → Visit

namespace Portal

variable (messages : Nat → Http.Message)

def construct (accepted : Nat → UInt32) : Portal where
  localHost := LocalHost.construct
  visits := fun id => ⟨(messages id).text, accepted id, none, false, false, 0, 0, [], false⟩

def put (id : Nat) (visit : Visit) (portal : Portal) : Portal :=
  { portal with visits := Function.update portal.visits id visit }

def answer (id : Nat) (link : Link) (portal : Portal) : Portal :=
  let served := portal.localHost.serve (messages id).toHttpRequest
  let reply := served.1.reply (messages id).minor
  { portal with localHost := served.2 }.put id ((portal.visits id).answered reply link)

/-- A segment with the last character of the request is answered. -/
def receive (id : Nat) (link : Link) (portal : Portal) (event : ClientEvent) : Portal :=
  let visit := (portal.visits id).receive link event
  match event with
  | .data _ => if visit.pending = [] then portal.answer messages id link else portal.put id visit
  | _ => portal.put id visit

def step (portal : Portal) : ServerInput → Portal
  | .client id link event =>
      let visit := portal.visits id
      if visit.reply ≠ none then portal.put id (visit.deliver link event)
      else if visit.dropped then portal
      else portal.receive messages id link event
  | .disconnected => { portal with localHost := portal.localHost.disconnected }
  | .updatePageInfo rPerKit kits running percent =>
      { portal with localHost := portal.localHost.updatePageInfo rPerKit kits running percent }

/-- Every client sends its message, and the numbers for the page are of the type `int`. -/
def Meets (portal : Portal) : ServerInput → Prop
  | .client id _ (.data buf) =>
      buf ≠ [] ∧ ((portal.visits id).reply = none → buf <+: (portal.visits id).pending)
  | .updatePageInfo rPerKit kits _ _ =>
      (-2147483648 ≤ rPerKit ∧ rPerKit < 2147483648) ∧ -2147483648 ≤ kits ∧ kits < 2147483648
  | _ => True

instance (portal : Portal) : ∀ input, Decidable (portal.Meets input)
  | .client id _ (.data buf) => inferInstanceAs (Decidable (buf ≠ [] ∧
      ((portal.visits id).reply = none → buf <+: (portal.visits id).pending)))
  | .client _ _ (.ack _) => isTrue trivial
  | .client _ _ .poll => isTrue trivial
  | .client _ _ .lwipFin => isTrue trivial
  | .client _ _ .fin => isTrue trivial
  | .client _ _ .error => isTrue trivial
  | .disconnected => isTrue trivial
  | .updatePageInfo _ _ _ _ => inferInstanceAs (Decidable (_ ∧ _))

end Portal

namespace Visit

variable {link : Link} {visit : Visit}

theorem turn_moments (link : Link) (visit : Visit) {moment : UInt32}
    (member : moment ∈ visit.moments) : moment ∈ (visit.turn link).moments := by
  rw [turn]
  dsimp only
  split
  · exact List.mem_cons_of_mem _ member
  · exact member

theorem turn_now (room : 0 < visit.room link) : link.now ∈ (visit.turn link).moments := by
  rw [turn]
  dsimp only
  rw [if_pos room]
  exact List.mem_cons_self

theorem turn_refused (taken : (visit.turn link).refused = false) :
    visit.refused = false ∧ false ∉ link.answers := by
  simpa [turn] using taken

theorem answered_refused {reply : Http.Reply}
    (taken : (visit.answered reply link).refused = false) : false ∉ link.answers := by
  simpa [answered, turn] using taken

theorem deliver_reply (link : Link) (visit : Visit) (event : ClientEvent) :
    (visit.deliver link event).reply = visit.reply := by
  cases event <;> rfl

theorem deliver_dropped (dropped : visit.dropped = true) (event : ClientEvent) :
    (visit.deliver link event).dropped = true := by
  cases event with
  | poll => simp [deliver, turn, dropped]
  | fin => rfl
  | error => rfl
  | data => exact dropped
  | ack => exact dropped
  | lwipFin => exact dropped

theorem deliver_refused {event : ClientEvent} (taken : (visit.deliver link event).refused = false) :
    visit.refused = false := by
  cases event with
  | ack => exact (turn_refused taken).1
  | poll => exact (turn_refused taken).1
  | data => exact taken
  | lwipFin => exact taken
  | fin => exact taken
  | error => exact taken

end Visit

/-! A connection before and after the last character of the request. -/

namespace AsyncBasicResponse

theorem Sends.finished {whole unsent : List Char} {response : AsyncBasicResponse}
    {client : AsyncClient} (sends : Sends whole unsent response client)
    (finished : response._finished = true) :
    unsent = [] ∧ whole.length ≤ response._ackedLength := by
  have rest := sends.unsent
  simp only [_finished, decide_eq_true_eq] at finished
  rcases finished with state | state
  · rw [state] at rest
    exact rest
  · rw [state] at rest
    exact rest.elim

end AsyncBasicResponse

theorem AsyncBasicResponse.Sends.congr {whole unsent : List Char} {response : AsyncBasicResponse}
    {client after : AsyncClient} (sends : Sends whole unsent response client)
    (same : after.written = client.written) : Sends whole unsent response after :=
  ⟨same ▸ sends.parts, same ▸ sends.counted, sends.unsent⟩

theorem AsyncClient.space_room {client : AsyncClient} {visit : Visit}
    (pcb : client._pcb = !visit.ended) : client.space = visit.room client.toLink := by
  rw [space, pcb, Visit.room]
  cases visit.ended <;> rfl

namespace Connection

open AsyncWebServerRequest

/-- Nothing has been written, and the client was last heard of at `heard`. -/
structure Idle (ended : Bool) (heard : UInt32) (connection : Connection) : Prop where
  silent : connection.client.written = []
  pcb : connection.client._pcb = !ended
  quiet : connection.client._pcb_busy = false
  heard : connection.client._rx_last_packet = heard
  timeout : connection.client._rx_since_timeout = 3
  kept : connection.deleted = false
  unanswered : connection.response = none

/-- `consumed` of the message has come in. -/
structure Waits (message : Http.Message) (consumed : Http.Text) (ended : Bool) (heard : UInt32)
    (connection : Connection) : Prop where
  idle : connection.Idle ended heard
  request : (∃ later, consumed ++ later = message.front ∧
      connection.request = consumed.foldl hear AsyncWebServerRequest.construct) ∨
    ∃ part, consumed = message.head ++ part ∧ part.length < message.body.length ∧
      connection.request._parseState = .PARSE_REQ_BODY ∧ connection.request.Knows message ∧
      connection.request._handler = some (attachHandler connection.request._url) ∧
      connection.request._parsedLength = part.length

/-- The connection is open on the server's side, and a wait for an acknowledgement began at a moment
of the visit. -/
structure Sending (visit : Visit) (connection : Connection) : Prop where
  past : connection.request._parseState = .PARSE_REQ_END
  pcb : connection.client._pcb = !visit.ended
  timeout : connection.client._rx_since_timeout = 0
  kept : connection.deleted = false
  busy : connection.client._pcb_busy = true → connection.client._pcb_sent_at ∈ visit.moments

theorem Sending.count {visit : Visit} {connection : Connection} (sending : connection.Sending visit)
    (acked : Nat) : connection.Sending { visit with acked := acked } :=
  ⟨sending.past, sending.pcb, sending.timeout, sending.kept, sending.busy⟩

theorem Sending.turn {visit : Visit} {connection : Connection} (sending : connection.Sending visit)
    (link : Link) : connection.Sending (visit.turn link) :=
  ⟨sending.past, sending.pcb, sending.timeout, sending.kept,
    fun busy => Visit.turn_moments link visit (sending.busy busy)⟩

theorem Sending.respond {visit : Visit} {connection : Connection}
    (sending : connection.Sending visit) (response : Option AsyncBasicResponse) :
    Sending visit { connection with response := response } :=
  ⟨sending.past, sending.pcb, sending.timeout, sending.kept, sending.busy⟩

theorem Sending.write {visit : Visit} {connection : Connection} (sending : connection.Sending visit)
    {after : AsyncClient} (kept : connection.client.Kept after) :
    Sending (visit.turn connection.client.toLink) { connection with client := after } := by
  refine ⟨sending.past, kept.pcb.trans sending.pcb, kept.timeout.trans sending.timeout,
    sending.kept, fun busy => ?_⟩
  dsimp only
  rcases kept.busy busy with ⟨before, same⟩ | ⟨room, now⟩
  · rw [same]
    exact Visit.turn_moments _ visit (sending.busy before)
  · rw [now]
    rw [AsyncClient.space_room sending.pcb] at room
    exact Visit.turn_now room

/-- The server is about to send the rest of `whole`, or has sent it. -/
structure Answers (whole : Http.Text) (visit : Visit) (connection : Connection) : Prop where
  sending : connection.Sending visit
  response : visit.refused = false → match connection.response with
    | some response => response._ackedLength = visit.acked ∧
        ∃ unsent, AsyncBasicResponse.Sends whole unsent response connection.client ∧
          unsent.length ≤ whole.length - visit.turns
    | none => connection.client.written = whole ∧ whole.length ≤ visit.acked

/-- The server has given the connection up while sending. -/
structure Dropped (whole : Http.Text) (visit : Visit) (connection : Connection) : Prop where
  deleted : connection.deleted = true
  dropped : visit.dropped = true
  part : visit.refused = false → connection.client.written <+: whole

theorem Idle.read {ended : Bool} {heard : UInt32} {connection : Connection}
    (idle : connection.Idle ended heard) (request : AsyncWebServerRequest) :
    Idle ended heard { connection with request := request } :=
  ⟨idle.silent, idle.pcb, idle.quiet, idle.heard, idle.timeout, idle.kept, idle.unanswered⟩

/-- What is not written leaves the answer where it is. -/
theorem Answers.keep {whole : Http.Text} {visit after : Visit} {connection : Connection}
    {client : AsyncClient} (answers : connection.Answers whole visit)
    (sending : Sending after { connection with client := client })
    (same : client.written = connection.client.written)
    (refused : after.refused = false → visit.refused = false) (turns : after.turns = visit.turns)
    (acked : after.acked = visit.acked) :
    Answers whole after { connection with client := client } := by
  refine ⟨sending, fun taken => ?_⟩
  have rest := answers.response (refused taken)
  dsimp only
  rw [turns, acked, same]
  cases holds : connection.response with
  | none =>
      rw [holds] at rest
      exact rest
  | some response =>
      rw [holds] at rest
      obtain ⟨counted, unsent, sends, less⟩ := rest
      exact ⟨counted, unsent, sends.congr same, less⟩

theorem Answers.sent {whole : Http.Text} {visit : Visit} {connection : Connection}
    (answers : connection.Answers whole visit) (taken : visit.refused = false) :
    ∃ unsent, connection.client.written ++ unsent = whole ∧
      (whole.length ≤ visit.turns → unsent = []) ∧
      (connection.response = none → whole.length ≤ visit.acked) := by
  have rest := answers.response taken
  cases holds : connection.response with
  | none =>
      rw [holds] at rest
      exact ⟨[], by rw [rest.1, List.append_nil], fun _ => rfl, fun _ => rest.2⟩
  | some response =>
      rw [holds] at rest
      obtain ⟨-, unsent, sends, less⟩ := rest
      refine ⟨unsent, sends.parts, fun enough => ?_, fun impossible => by cases impossible⟩
      rw [Nat.sub_eq_zero_of_le enough] at less
      exact List.length_eq_zero_iff.mp (Nat.le_zero.mp less)

theorem Answers.drop {whole : Http.Text} {visit after : Visit} {connection next : Connection}
    (answers : connection.Answers whole visit) (gone : after.dropped = true)
    (deleted : next.deleted = true) (same : next.client.written = connection.client.written)
    (refused : after.refused = false → visit.refused = false) : next.Dropped whole after := by
  refine ⟨deleted, gone, fun taken => ?_⟩
  obtain ⟨unsent, parts, -⟩ := answers.sent (refused taken)
  rw [same]
  exact ⟨unsent, parts⟩

/-- The connection is where the visit is. -/
def Follows (message : Http.Message) (connection : Connection) (visit : Visit) : Prop :=
  match visit.reply with
  | none =>
      if visit.dropped then connection.client.written = [] ∧ connection.deleted = true
      else ∃ consumed, consumed ++ visit.pending = message.text ∧
        connection.Waits message consumed visit.ended visit.heard
  | some reply => reply.Valid ∧
      (connection.Answers reply.text visit ∨ connection.Dropped reply.text visit)

/-- What a client can tell of the server. Before the answer nothing comes, and the server gives the
connection up exactly when the portal does. After it the server gives it up only when the portal
may. As long as lwIP has taken everything, what has come is a part of the reply, and reading it the
client finds no other reply; on a connection that is not given up it has the reply after no more
events with room to send than the reply has characters, and the server lets go of the reply only
when that many characters have been acknowledged. -/
def Delivers (connection : Connection) (visit : Visit) : Prop :=
  match visit.reply with
  | none => connection.client.written = [] ∧ connection.deleted = visit.dropped
  | some reply => (connection.deleted = true → visit.dropped = true) ∧
      (visit.refused = false →
        connection.client.written <+: reply.text ∧
        (∀ other, Http.readReply connection.client.written = some other → other = reply) ∧
        (connection.deleted = false →
          (reply.text.length ≤ visit.turns →
            Http.readReply connection.client.written = some reply) ∧
          (connection.response = none → reply.text.length ≤ visit.acked)))

theorem Follows.delivers {message : Http.Message} {connection : Connection} {visit : Visit}
    (follows : connection.Follows message visit) : connection.Delivers visit := by
  rw [Follows] at follows
  rw [Delivers]
  cases replied : visit.reply with
  | none =>
      rw [replied] at follows
      dsimp only at follows ⊢
      split at follows
      · rename_i dropped
        exact ⟨follows.1, follows.2.trans dropped.symm⟩
      · rename_i waiting
        obtain ⟨consumed, -, waits⟩ := follows
        exact ⟨waits.idle.silent, waits.idle.kept.trans (Bool.eq_false_iff.mpr waiting).symm⟩
  | some reply =>
      rw [replied] at follows
      obtain ⟨valid, state⟩ := follows
      have only (isPart : connection.client.written <+: reply.text) (other : Http.Reply)
          (found : Http.readReply connection.client.written = some other) : other = reply := by
        rw [Http.readReply_part valid isPart] at found
        split at found
        · exact (Option.some.inj found).symm
        · cases found
      rcases state with answers | dropped
      · refine ⟨fun deleted => ?_, fun taken => ?_⟩
        · rw [answers.sending.kept] at deleted
          cases deleted
        · obtain ⟨unsent, parts, done, kept⟩ := answers.sent taken
          have isPart : connection.client.written <+: reply.text := ⟨unsent, parts⟩
          refine ⟨isPart, only isPart, fun _ => ⟨fun enough => ?_, kept⟩⟩
          rw [Http.readReply_part valid isPart, if_pos]
          rw [done enough, List.append_nil] at parts
          exact parts
      · refine ⟨fun _ => dropped.dropped, fun taken => ?_⟩
        have isPart := dropped.part taken
        refine ⟨isPart, only isPart, fun kept => ?_⟩
        rw [dropped.deleted] at kept
        cases kept

theorem waits_construct (message : Http.Message) (accepted : UInt32) :
    (construct accepted).Waits message [] false accepted :=
  ⟨⟨rfl, rfl, rfl, rfl, rfl, rfl, rfl⟩, .inl ⟨message.front, rfl, rfl⟩⟩

end Connection

/-! The handler. -/

namespace LocalHost

theorem handleRequest_posts (handler : Handler) (localHost : LocalHost) (host url : List Char)
    (params : List Param) {posts : List Param} (posted : ∀ param ∈ posts, param.isPost = true) :
    localHost.handleRequest handler { host := host, params := params ++ posts, url := url } =
      localHost.handleRequest handler { host := host, params := params, url := url } := by
  have asked (name : String) : Request.hasParam ⟨host, params ++ posts⟩ name =
      Request.hasParam ⟨host, params⟩ name := by
    have none : (posts.any fun param => param.name == name && !param.isPost && !param.isFile) =
        false := by
      rw [List.any_eq_false]
      intro param member
      simp [posted param member]
    rw [Request.hasParam, Request.hasParam, List.any_append, none, Bool.or_false]
  rw [handleRequest, handleRequest]
  split
  · rfl
  · rfl
  · rw [processRequest, processRequest, asked]

end LocalHost

namespace Exchange

open AsyncWebServerRequest

theorem handleRequest_knows {message : Http.Message} {exchange : Exchange}
    (knows : exchange.request.Knows message)
    (handler : exchange.request._handler = some (attachHandler exchange.request._url)) :
    let served := exchange.localHost.serve message.toHttpRequest
    exchange.handleRequest =
      ({ exchange with localHost := served.2 } : Exchange).send (.ofResponse served.1) := by
  obtain ⟨posts, posted, params⟩ := knows.params
  rw [handleRequest, handler]
  dsimp only
  rw [knows.host, params, knows.url, LocalHost.handleRequest_posts _ _ _ _ _ posted]
  rfl

theorem handleRequest_answers {message : Http.Message} {exchange : Exchange}
    (knows : exchange.request.Knows message)
    (handler : exchange.request._handler = some (attachHandler exchange.request._url))
    (past : exchange.request._parseState = .PARSE_REQ_END) {visit : Visit} {heard : UInt32}
    (idle : exchange.Idle visit.ended heard) (ints : exchange.localHost.webpages.Ints) :
    let served := exchange.localHost.serve message.toHttpRequest
    let reply := served.1.reply message.minor
    exchange.handleRequest.Answers reply.text (visit.answered reply exchange.client.toLink) ∧
      exchange.handleRequest.localHost = served.2 := by
  have known := message.minor_lt
  have served := LocalHost.serve_served ints message.toHttpRequest
  have plain := served.plainHead known
  have text := AsyncBasicResponse.assembleHead_reply (plain.short served.bounded)
  have content := (AsyncBasicResponse.ofResponse_spec
    (exchange.localHost.serve message.toHttpRequest).1).2.2.1
  have fresh := AsyncBasicResponse.fresh_ofResponse
    (exchange.localHost.serve message.toHttpRequest).1
  obtain ⟨acked, kept⟩ := AsyncBasicResponse.respond_kept message.minor (.ofResponse
    (exchange.localHost.serve message.toHttpRequest).1) (exchange.client.setRxTimeout 0)
  dsimp only
  rw [handleRequest_knows knows handler, send, knows.version]
  refine ⟨⟨⟨past, kept.pcb.trans idle.pcb, kept.timeout, idle.kept, fun busy => ?_⟩,
    fun taken => ?_⟩, rfl⟩
  · rcases kept.busy busy with ⟨before, -⟩ | ⟨room, now⟩
    · rw [AsyncClient.setRxTimeout, idle.quiet] at before
      cases before
    · rw [now]
      apply Visit.turn_now
      have same : exchange.client.space = visit.room exchange.client.toLink :=
        AsyncClient.space_room idle.pcb
      exact same ▸ room
  · obtain ⟨unsent, sends⟩ := @AsyncBasicResponse.respond_sends _ fresh
      (exchange.client.setRxTimeout 0) idle.silent (Visit.answered_refused taken) message.minor
    rw [content, text] at sends
    refine ⟨acked.trans fresh.acked, unsent, sends, ?_⟩
    rw [← sends.parts, List.length_append]
    exact Nat.le_add_left ..

variable (_parseMultipartPostByte : Char → Bool → AsyncWebServerRequest → AsyncWebServerRequest)

theorem onDataLoop_body {message : Http.Message} {exchange : Exchange}
    (body : exchange.request._parseState = .PARSE_REQ_BODY)
    (knows : exchange.request.Knows message) (fuel : Nat) (buf : List Char) :
    ∃ request : AsyncWebServerRequest, request.Knows message ∧
      request._handler = exchange.request._handler ∧ request._url = exchange.request._url ∧
      request._parseState = .PARSE_REQ_BODY ∧
      request._parsedLength = exchange.request._parsedLength + buf.length ∧
      onDataLoop _parseMultipartPostByte (fuel + 1) buf exchange =
        if request._parsedLength = message.body.length then
          { exchange with
            request := { request with _parseState := .PARSE_REQ_END } }.handleRequest
        else { exchange with request := request } := by
  obtain ⟨temp, plainPost, posts, posted, parsed⟩ :=
    parseBody_spec _parseMultipartPostByte buf knows.multipart
  obtain ⟨others, othersPosted, params⟩ := knows.params
  refine ⟨parseBody _parseMultipartPostByte buf exchange.request, ?_, ?_, ?_, ?_, ?_, ?_⟩
  · rw [parsed]
    refine ⟨knows.url, knows.host, ⟨others ++ posts, ?_, ?_⟩, knows.version, knows.length,
      knows.multipart⟩
    · intro param member
      rcases List.mem_append.mp member with first | second
      · exact othersPosted param first
      · exact posted param second
    · rw [params, List.append_assoc]
  · rw [parsed]
  · rw [parsed]
  · rw [parsed]
    exact body
  · rw [parsed]
  · have length : (parseBody _parseMultipartPostByte buf exchange.request)._contentLength =
        message.body.length := by
      rw [parsed]
      exact knows.length
    rw [onDataLoop]
    dsimp only
    rw [body]
    dsimp only
    rw [length]

theorem onDataLoop_past {exchange : Exchange} (past : exchange.request._parseState = .PARSE_REQ_END)
    (fuel : Nat) (buf : List Char) :
    onDataLoop _parseMultipartPostByte fuel buf exchange = exchange := by
  cases fuel with
  | zero => rfl
  | succ fuel => rw [onDataLoop, past]

/-- The end of the head: the server has the whole of a message without a body. -/
theorem parseLine_blank {exchange : Exchange}
    (headers : exchange.request._parseState = .PARSE_REQ_HEADERS)
    (blank : exchange.request._temp = []) (expect : exchange.request._expectingContinue = false) :
    let request := { exchange.request with _handler := some (attachHandler exchange.request._url) }
    exchange._parseLine =
      if exchange.request._contentLength = 0 then
        { exchange with request := { request with _parseState := .PARSE_REQ_END } }.handleRequest
      else { exchange with request := { request with _parseState := .PARSE_REQ_BODY } } := by
  rw [_parseLine, headers]
  dsimp only
  rw [if_pos blank, expect]
  by_cases none : exchange.request._contentLength = 0
  · rw [if_neg (not_not.mpr none), if_pos none]
    rfl
  · rw [if_pos none, if_neg none]
    rfl

/-- What a segment leads to: the rest of the message, `later`, is awaited, or answered if there is
none. -/
def Hears (message : Http.Message) (heard later : Http.Text) (visit : Visit)
    (exchange next : Exchange) : Prop :=
  let served := exchange.localHost.serve message.toHttpRequest
  let reply := served.1.reply message.minor
  if later = [] then
    next.Answers reply.text (visit.answered reply exchange.client.toLink) ∧
      next.localHost = served.2
  else
    next.Waits message heard visit.ended exchange.client._rx_last_packet ∧
      next.localHost = exchange.localHost

theorem onDataLoop_hears {message : Http.Message} {part buf later : Http.Text} {exchange : Exchange}
    (body : exchange.request._parseState = .PARSE_REQ_BODY)
    (knows : exchange.request.Knows message)
    (handler : exchange.request._handler = some (attachHandler exchange.request._url))
    (parsed : exchange.request._parsedLength = part.length)
    {visit : Visit} (idle : exchange.Idle visit.ended exchange.client._rx_last_packet)
    (sent : part ++ (buf ++ later) = message.body)
    (ints : exchange.localHost.webpages.Ints) (fuel : Nat) :
    Hears message (message.head ++ part ++ buf) later visit exchange
      (onDataLoop _parseMultipartPostByte (fuel + 1) buf exchange) := by
  obtain ⟨request, known, sameHandler, sameUrl, state, length, next⟩ :=
    onDataLoop_body _parseMultipartPostByte body knows fuel buf
  have kept : request._handler = some (attachHandler request._url) := by
    rw [sameHandler, sameUrl, handler]
  have total : part.length + (buf.length + later.length) = message.body.length := by
    rw [← sent, List.length_append, List.length_append]
  rw [Hears, next]
  by_cases last : later = []
  · have none := List.length_eq_zero_iff.mpr last
    rw [if_pos last, if_pos (by rw [length, parsed]; omega)]
    have ended : Knows message { request with _parseState := .PARSE_REQ_END } :=
      ⟨known.url, known.host, known.params, known.version, known.length, known.multipart⟩
    exact @handleRequest_answers message
      { exchange with request := { request with _parseState := .PARSE_REQ_END } }
      ended kept rfl visit _ (idle.read _) ints
  · have longer := List.length_pos_iff.mpr last
    rw [if_neg last, if_neg (by rw [length, parsed]; omega)]
    refine ⟨⟨idle.read _, .inr ⟨part ++ buf, ?_, ?_, state, known, kept, ?_⟩⟩, rfl⟩
    · rw [List.append_assoc]
    · rw [List.length_append]
      omega
    · rw [length, parsed, List.length_append]

/-- The empty line, and what else of the body is in its segment. -/
theorem parseLine_hears {message : Http.Message} {rest later : Http.Text} {exchange : Exchange}
    (headers : exchange.request._parseState = .PARSE_REQ_HEADERS)
    (blank : exchange.request._temp = []) (knows : exchange.request.Knows message)
    (parsed : exchange.request._parsedLength = 0)
    (expect : exchange.request._expectingContinue = false)
    {visit : Visit} (idle : exchange.Idle visit.ended exchange.client._rx_last_packet)
    (sent : rest ++ later = message.body)
    (ints : exchange.localHost.webpages.Ints) {fuel : Nat} (enough : rest.length ≤ fuel) :
    Hears message (message.head ++ rest) later visit exchange
      (if rest = [] then exchange._parseLine
        else onDataLoop _parseMultipartPostByte fuel rest exchange._parseLine) := by
  have kept (state : ParseState) : Knows message { exchange.request with
      _handler := some (attachHandler exchange.request._url), _parseState := state } :=
    ⟨knows.url, knows.host, knows.params, knows.version, knows.length, knows.multipart⟩
  have announced := knows.length
  rw [parseLine_blank headers blank expect]
  by_cases empty : message.body = []
  · rw [empty, List.append_eq_nil_iff] at sent
    obtain ⟨rfl, rfl⟩ := sent
    rw [if_pos rfl, if_pos (by rw [announced, empty]; rfl), Hears, if_pos rfl]
    exact @handleRequest_answers message
      { exchange with request := { exchange.request with
        _handler := some (attachHandler exchange.request._url), _parseState := .PARSE_REQ_END } }
      (kept _) rfl rfl visit _ (idle.read _) ints
  · have bodyLength := List.length_pos_iff.mpr empty
    have bodied : exchange.request._contentLength ≠ 0 := by omega
    rw [if_neg bodied]
    by_cases last : rest = []
    · subst last
      rw [if_pos rfl, Hears, if_neg (by rintro rfl; exact empty sent.symm)]
      exact ⟨⟨idle.read _, .inr ⟨[], rfl, bodyLength, rfl, kept _, rfl, parsed⟩⟩, rfl⟩
    · have restLength := List.length_pos_iff.mpr last
      obtain ⟨less, rfl⟩ : ∃ less, fuel = less + 1 := ⟨fuel - 1, by omega⟩
      rw [if_neg last]
      have heard := @onDataLoop_hears _parseMultipartPostByte message [] rest later
        { exchange with request := { exchange.request with
          _handler := some (attachHandler exchange.request._url), _parseState := .PARSE_REQ_BODY } }
        rfl (kept _) rfl parsed visit (idle.read _) sent ints less
      rwa [List.append_nil] at heard

/-- What a segment does: the rest of the message is still awaited, or the server answers. -/
theorem onData_hears {message : Http.Message} (plain : message.Plain)
    {consumed buf later : Http.Text} {exchange : Exchange} {visit : Visit}
    (waits : exchange.Waits message consumed visit.ended exchange.client._rx_last_packet)
    (some : buf ≠ []) (sent : consumed ++ (buf ++ later) = message.text)
    (ints : exchange.localHost.webpages.Ints) :
    Hears message (consumed ++ buf) later visit exchange
      (exchange._onData _parseMultipartPostByte buf) := by
  have text : message.text = message.front ++ '\n' :: message.body := by
    rw [Http.Message.text, Http.Message.head_eq, List.append_assoc]
    rfl
  obtain ⟨idle, request⟩ := waits
  have positive := List.length_pos_iff.mpr some
  obtain ⟨fuel, size⟩ : ∃ fuel, buf.length = fuel + 1 := ⟨buf.length - 1, by omega⟩
  rcases request with ⟨more, front, heard⟩ | ⟨part, head, shorter, body, knows, handler, parsed⟩
  · rw [text, ← front, List.append_assoc, List.append_cancel_left_eq] at sent
    obtain ⟨⟨headers, blank⟩, knows, none, expect⟩ := foldl_hear_front plain
    have frontText := plain.valid.front_text
    rw [← front, List.foldl_append, ← heard] at headers blank knows none expect
    rw [← front] at frontText
    by_cases within : buf <+: more
    · obtain ⟨rest, rfl⟩ := within
      have inHead : (buf.foldl hear exchange.request).InHead := by
        have ends := headers
        rw [List.foldl_append] at ends
        exact inHead_of_foldl (.inr ends)
      have bufText : '\x00' ∉ buf := fun member =>
        frontText (List.mem_append_right _ (List.mem_append_left _ member))
      have next := onDataLoop_head _parseMultipartPostByte some le_rfl bufText inHead
      have last : later ≠ [] := by
        rintro rfl
        have same := congrArg List.length sent
        simp at same
      rw [Hears, if_neg last, _onData, next]
      refine ⟨⟨idle.read _, .inl ⟨rest, ?_, ?_⟩⟩, rfl⟩
      · rw [List.append_assoc, front]
      · rw [List.foldl_append, heard]
    · obtain ⟨rest, rfl, body⟩ :
          ∃ rest, buf = more ++ '\n' :: rest ∧ rest ++ later = message.body := by
        rcases List.append_eq_append_iff.mp sent with ⟨tail, same, -⟩ | ⟨tail, same, ending⟩
        · exact absurd ⟨tail, same.symm⟩ within
        · cases tail with
          | nil => exact absurd ⟨[], by simp [same]⟩ within
          | cons c tail =>
              obtain ⟨rfl, body⟩ := List.cons.inj ending
              exact ⟨tail, same, body.symm⟩
      have frontLength : more.length < (more ++ '\n' :: rest).length := by simp
      have moreText : '\x00' ∉ more := fun member => frontText (List.mem_append_right _ member)
      obtain ⟨fuel, left, next⟩ := onDataLoop_cross _parseMultipartPostByte frontLength moreText
        headers (by rw [blank]; decide) rest
      have reached : consumed ++ (more ++ '\n' :: rest) = message.head ++ rest := by
        rw [Http.Message.head_eq, ← front]
        simp
      have enough : rest.length ≤ fuel := by
        simp only [List.length_append, List.length_cons] at left
        omega
      have emptied : Knows message { more.foldl hear exchange.request with _temp := [] } :=
        ⟨knows.url, knows.host, knows.params, knows.version, knows.length, knows.multipart⟩
      rw [_onData, next, reached]
      exact @parseLine_hears _parseMultipartPostByte message rest later
        { exchange with request := { more.foldl hear exchange.request with _temp := [] } }
        headers rfl emptied none expect visit (idle.read _) body ints fuel enough
  · rw [Http.Message.text, head, List.append_assoc, List.append_cancel_left_eq] at sent
    rw [_onData, size, head]
    exact onDataLoop_hears _ body knows handler parsed idle sent ints fuel

/-! Events after the answer. -/

/-- The server writes what it can of the rest. -/
theorem ack_answers {whole : Http.Text} {visit : Visit} {exchange : Exchange}
    {response : AsyncBasicResponse} (answers : exchange.Answers whole visit)
    (holds : exchange.response = some response) (len : Nat) :
    Connection.Answers whole
      ({ visit with acked := visit.acked + len }.turn exchange.client.toLink)
      { exchange.toConnection with
        response := some (response._ack len exchange.client).1
        client := (response._ack len exchange.client).2 } := by
  obtain ⟨sending, rest⟩ := answers
  have counted := sending.count (visit.acked + len)
  obtain ⟨sum, kept⟩ := AsyncBasicResponse.ack_kept len response exchange.client
  refine ⟨(counted.write kept).respond _, fun taken => ?_⟩
  obtain ⟨before, all⟩ := Visit.turn_refused taken
  have sent := rest before
  rw [holds] at sent
  obtain ⟨same, unsent, sends, less⟩ := sent
  obtain ⟨later, sent, fewer⟩ := AsyncBasicResponse.ack_sends sends all len
  rw [AsyncClient.space_room sending.pcb] at fewer
  refine ⟨sum.trans (by rw [same]; rfl), later, sent, ?_⟩
  simp only [Visit.turn, Visit.room] at fewer ⊢
  omega

theorem onAck_answers {whole : Http.Text} {visit : Visit} {exchange : Exchange}
    (answers : exchange.Answers whole visit) (len : Nat) :
    (exchange._onAck len).Answers whole
        ({ visit with acked := visit.acked + len }.turn exchange.client.toLink) ∧
      (exchange._onAck len).localHost = exchange.localHost := by
  obtain ⟨sending, rest⟩ := answers
  have counted := sending.count (visit.acked + len)
  rw [_onAck]
  cases holds : exchange.response with
  | none =>
      refine ⟨⟨counted.turn _, fun taken => ?_⟩, rfl⟩
      obtain ⟨before, -⟩ := Visit.turn_refused taken
      have sent := rest before
      rw [holds] at sent ⊢
      exact ⟨sent.1, Nat.le_add_right_of_le sent.2⟩
  | some response =>
      dsimp only
      split
      · rename_i finished
        refine ⟨⟨(counted.turn _).respond none, fun taken => ?_⟩, rfl⟩
        obtain ⟨before, -⟩ := Visit.turn_refused taken
        have sent := rest before
        rw [holds] at sent
        obtain ⟨same, unsent, sends, -⟩ := sent
        obtain ⟨none, all⟩ := sends.finished finished
        have parts := sends.parts
        rw [none, List.append_nil] at parts
        exact ⟨parts, Nat.le_add_right_of_le (same ▸ all)⟩
      · exact ⟨ack_answers ⟨sending, rest⟩ holds len, rfl⟩

theorem onPoll_answers {whole : Http.Text} {visit : Visit} {exchange : Exchange}
    (answers : exchange.Answers whole visit) :
    exchange._onPoll.Answers whole (visit.turn exchange.client.toLink) ∧
      exchange._onPoll.localHost = exchange.localHost := by
  obtain ⟨sending, rest⟩ := answers
  rw [_onPoll]
  cases holds : exchange.response with
  | none =>
      refine ⟨⟨sending.turn _, fun taken => ?_⟩, rfl⟩
      have sent := rest (Visit.turn_refused taken).1
      rw [holds] at sent ⊢
      exact sent
  | some response =>
      dsimp only
      split
      · exact ⟨ack_answers ⟨sending, rest⟩ holds 0, rfl⟩
      · rename_i idle
        refine ⟨⟨sending.turn _, fun taken => ?_⟩, rfl⟩
        have sent := rest (Visit.turn_refused taken).1
        rw [holds] at sent ⊢
        obtain ⟨same, unsent, sends, less⟩ := sent
        refine ⟨same, unsent, sends, ?_⟩
        by_cases finished : response._finished = true
        · rw [(sends.finished finished).1]
          exact Nat.zero_le _
        · have full : visit.room exchange.client.toLink = 0 := by
            rw [← AsyncClient.space_room sending.pcb]
            by_contra room
            simp [AsyncClient.canSend, finished] at idle
            omega
          simp only [Visit.turn, full]
          omega

/-- A poll after the answer. Only the wait for an acknowledgement has an end. -/
theorem poll_answers {whole : Http.Text} {visit : Visit} {exchange : Exchange}
    (answers : exchange.Answers whole visit) :
    (exchange._poll.Answers whole (visit.deliver exchange.client.toLink .poll) ∨
      exchange._poll.Dropped whole (visit.deliver exchange.client.toLink .poll)) ∧
      exchange._poll.localHost = exchange.localHost := by
  have sending := answers.sending
  have reset : ¬(exchange.client._rx_since_timeout ≠ 0 ∧ exchange.client.now -
      exchange.client._rx_last_packet ≥ exchange.client._rx_since_timeout * 1000) :=
    fun both => both.1 sending.timeout
  have waiting (dropped : Bool) : exchange.Answers whole { visit with dropped := dropped } :=
    answers.keep ⟨sending.past, sending.pcb, sending.timeout, sending.kept, sending.busy⟩
      rfl id rfl rfl
  rw [_poll, if_neg reset]
  cases ended : visit.ended with
  | true =>
      have shut : exchange.client._pcb = false := by
        rw [sending.pcb, ended]
        rfl
      have full : visit.room exchange.client.toLink = 0 := if_pos ended
      rw [if_pos shut]
      refine ⟨.inl (answers.keep ((waiting _).sending.turn _) rfl
        (fun taken => (Visit.turn_refused taken).1) ?_ rfl), rfl⟩
      simp only [Visit.room] at full
      simp [Visit.deliver, Visit.turn, Visit.room, full]
  | false =>
      have opened : exchange.client._pcb = true := by
        rw [sending.pcb, ended]
        rfl
      rw [if_neg (by simp [opened])]
      split
      · rename_i late
        have gone : (visit.deliver exchange.client.toLink .poll).dropped = true := by
          simp only [Visit.deliver, Visit.turn, ended, Bool.not_false, Bool.true_and,
            Bool.or_eq_true, List.any_eq_true, decide_eq_true_eq]
          exact .inr ⟨_, sending.busy late.1, late.2⟩
        rw [_onTimeout, close, if_pos opened]
        exact ⟨.inr (answers.drop gone rfl rfl fun taken => (Visit.turn_refused taken).1), rfl⟩
      · obtain ⟨sent, same⟩ := onPoll_answers (waiting _)
        exact ⟨.inl sent, same⟩

/-- A poll before the answer. Only the wait for the next segment has an end. -/
theorem poll_idle {ended : Bool} {heard : UInt32} {exchange : Exchange}
    (idle : exchange.Idle ended heard) :
    exchange._poll =
      if ended = false ∧ exchange.client.now - heard ≥ 3000 then
        { exchange with client := { exchange.client with _pcb := false } }._onDisconnect
      else exchange := by
  have room : ¬(exchange.client._pcb_busy = true ∧ exchange.client.now -
      exchange.client._pcb_sent_at ≥ ASYNC_MAX_ACK_TIME) := by simp [idle.quiet]
  have three : exchange.client._rx_since_timeout * 1000 = 3000 := by
    rw [idle.timeout]
    rfl
  have set : exchange.client._rx_since_timeout ≠ 0 := by
    rw [idle.timeout]
    decide
  have polled : exchange._onPoll = exchange := by rw [_onPoll, idle.unanswered]
  have pcb := idle.pcb
  rw [_poll, if_neg room, three, idle.heard, polled]
  cases ended with
  | true =>
      rw [Bool.not_true] at pcb
      rw [if_pos pcb, if_neg (by simp)]
  | false =>
      rw [Bool.not_false] at pcb
      rw [if_neg (by simp [pcb])]
      by_cases late : exchange.client.now - heard ≥ 3000
      · rw [if_pos ⟨set, late⟩, if_pos ⟨rfl, late⟩, close, if_pos pcb]
      · rw [if_neg fun both => late both.2, if_neg fun both => late both.2]

end Exchange

/-! Runs of the server. -/

namespace AsyncWebServer

variable (_parseMultipartPostByte : Char → Bool → AsyncWebServerRequest → AsyncWebServerRequest)

/-- An event without a segment, before the answer. -/
theorem handle_idle {message : Http.Message} {consumed : Http.Text} {visit : Visit}
    {exchange : Exchange} (unanswered : visit.reply = none) (open' : visit.dropped = false)
    (parts : consumed ++ visit.pending = message.text)
    (waits : exchange.Waits message consumed visit.ended visit.heard) {event : ClientEvent}
    (other : ∀ buf, event ≠ .data buf) :
    (handle _parseMultipartPostByte event exchange).Follows message
        (visit.receive exchange.client.toLink event) ∧
      (handle _parseMultipartPostByte event exchange).localHost = exchange.localHost := by
  obtain ⟨idle, request⟩ := waits
  have waiting {next : Exchange} {after : Visit} (reply : after.reply = none)
      (kept : after.dropped = false) (pending : after.pending = visit.pending)
      (still : next.Idle after.ended after.heard) (same : next.request = exchange.request) :
      next.Follows message after := by
    rw [Connection.Follows, reply]
    dsimp only
    rw [if_neg (by simp [kept]), pending]
    exact ⟨consumed, parts, still, same ▸ request⟩
  have given {next : Exchange} {after : Visit} (reply : after.reply = none)
      (gone : after.dropped = true) (silent : next.client.written = [])
      (deleted : next.deleted = true) : next.Follows message after := by
    rw [Connection.Follows, reply]
    dsimp only
    rw [if_pos gone]
    exact ⟨silent, deleted⟩
  rw [handle.eq_def, if_neg (by simp [idle.kept])]
  cases event with
  | data buf => exact absurd rfl (other buf)
  | ack len =>
      have quiet : exchange._sent len = { exchange with
          client := { exchange.client with
            _rx_last_packet := exchange.client.now
            _pcb_busy := false } } := by
        rw [Exchange._sent, Exchange._onAck, idle.unanswered]
      dsimp only
      rw [quiet]
      exact ⟨waiting unanswered open' rfl ⟨idle.silent, idle.pcb, rfl, rfl, idle.timeout,
        idle.kept, idle.unanswered⟩ rfl, rfl⟩
  | poll =>
      dsimp only
      rw [Exchange.poll_idle idle]
      split
      · rename_i late
        exact ⟨given unanswered (by simp [Visit.receive, late.1, late.2]) idle.silent rfl, rfl⟩
      · rename_i early
        have kept : (visit.receive exchange.client.toLink .poll).dropped = false := by
          simpa [Visit.receive] using early
        exact ⟨waiting unanswered kept rfl idle rfl, rfl⟩
  | lwipFin => exact ⟨waiting unanswered open' rfl ⟨idle.silent, rfl, idle.quiet, idle.heard,
      idle.timeout, idle.kept, idle.unanswered⟩ rfl, rfl⟩
  | fin => exact ⟨given unanswered rfl idle.silent rfl, rfl⟩
  | error => exact ⟨given unanswered rfl idle.silent rfl, rfl⟩

/-- An event after the answer. -/
theorem handle_answered {whole : Http.Text} {visit : Visit} {exchange : Exchange}
    (answers : exchange.Answers whole visit) (event : ClientEvent) :
    let next := handle _parseMultipartPostByte event exchange
    let after := visit.deliver exchange.client.toLink event
    (next.Answers whole after ∨ next.Dropped whole after) ∧
      next.localHost = exchange.localHost := by
  have sending := answers.sending
  dsimp only
  rw [handle.eq_def, if_neg (by simp [sending.kept])]
  cases event with
  | data buf =>
      have still : exchange._recv _parseMultipartPostByte buf = { exchange with
          client := { exchange.client with _rx_last_packet := exchange.client.now } } :=
        @Exchange.onDataLoop_past _parseMultipartPostByte { exchange with
          client := { exchange.client with _rx_last_packet := exchange.client.now } }
          sending.past buf.length buf
      dsimp only
      rw [still]
      exact ⟨.inl (answers.keep ⟨sending.past, sending.pcb, sending.timeout, sending.kept,
        sending.busy⟩ rfl id rfl rfl), rfl⟩
  | ack len =>
      have heard : ({ exchange with
          client := { exchange.client with
            _rx_last_packet := exchange.client.now
            _pcb_busy := false } } : Exchange).Answers whole { visit with moments := [] } :=
        answers.keep ⟨sending.past, sending.pcb, sending.timeout, sending.kept,
          fun busy => by simp at busy⟩ rfl id rfl rfl
      obtain ⟨sent, same⟩ := Exchange.onAck_answers heard len
      exact ⟨.inl sent, same⟩
  | poll => exact Exchange.poll_answers answers
  | lwipFin =>
      exact ⟨.inl (answers.keep ⟨sending.past, rfl, sending.timeout, sending.kept, sending.busy⟩
        rfl id rfl rfl), rfl⟩
  | fin => exact ⟨.inr (answers.drop rfl rfl rfl id), rfl⟩
  | error => exact ⟨.inr (answers.drop rfl rfl rfl id), rfl⟩

theorem handle_deleted {exchange : Exchange} (deleted : exchange.deleted = true)
    (event : ClientEvent) : handle _parseMultipartPostByte event exchange = exchange := by
  rw [handle.eq_def]
  exact if_pos deleted

/-- A segment before the answer. -/
theorem handle_segment {message : Http.Message} (plain : message.Plain)
    {consumed buf later : Http.Text} {visit : Visit} {heard : UInt32} {exchange : Exchange}
    (waits : exchange.Waits message consumed visit.ended heard) (some : buf ≠ [])
    (sent : consumed ++ (buf ++ later) = message.text)
    (ints : exchange.localHost.webpages.Ints) :
    let next := handle _parseMultipartPostByte (.data buf) exchange
    let served := exchange.localHost.serve message.toHttpRequest
    let reply := served.1.reply message.minor
    if later = [] then
      next.Answers reply.text (visit.answered reply exchange.client.toLink) ∧
        next.localHost = served.2
    else
      next.Waits message (consumed ++ buf) visit.ended exchange.client.now ∧
        next.localHost = exchange.localHost := by
  obtain ⟨idle, request⟩ := waits
  have handled : handle _parseMultipartPostByte (.data buf) exchange =
      exchange._recv _parseMultipartPostByte buf := by
    rw [handle.eq_def]
    exact if_neg (by simp [idle.kept])
  dsimp only
  rw [handled]
  exact @Exchange.onData_hears _parseMultipartPostByte message plain consumed buf later
    { exchange with client := { exchange.client with _rx_last_packet := exchange.client.now } }
    visit ⟨⟨idle.silent, idle.pcb, idle.quiet, rfl, idle.timeout, idle.kept, idle.unanswered⟩,
      request⟩ some sent ints

/-- Every connection is where the portal's visit of the same client is. -/
structure Follows (messages : Nat → Http.Message) (server : AsyncWebServer) (portal : Portal) :
    Prop where
  localHost : server.localHost = portal.localHost
  ints : portal.localHost.webpages.Ints
  visits : ∀ id, (server.connections id).Follows (messages id) (portal.visits id)

theorem follows_construct (messages : Nat → Http.Message) (accepted : Nat → UInt32) :
    (construct accepted).Follows messages (Portal.construct messages accepted) where
  localHost := rfl
  ints := (by decide : Webpages.construct.Ints)
  visits := fun id => ⟨[], rfl, Connection.waits_construct (messages id) (accepted id)⟩

variable {messages : Nat → Http.Message} {server : AsyncWebServer} {portal : Portal}

theorem follows_update {connections : Nat → Connection} {visits : Nat → Visit}
    (follows : ∀ id, (connections id).Follows (messages id) (visits id)) {id : Nat}
    {connection : Connection} {visit : Visit} (here : connection.Follows (messages id) visit)
    (other : Nat) :
    (Function.update connections id connection other).Follows (messages other)
      (Function.update visits id visit other) := by
  by_cases same : other = id
  · subst same
    rw [Function.update_self, Function.update_self]
    exact here
  · rw [Function.update_of_ne same, Function.update_of_ne same]
    exact follows other

theorem step_dropped (follows : server.Follows messages portal) (id : Nat) (link : Link)
    (event : ClientEvent) (unanswered : (portal.visits id).reply = none)
    (dropped : (portal.visits id).dropped = true) :
    (server.step _parseMultipartPostByte (.client id link event)).Follows messages portal := by
  obtain ⟨same, ints, visits⟩ := follows
  have here := visits id
  rw [Connection.Follows, unanswered] at here
  dsimp only at here
  rw [if_pos dropped] at here
  let exchange : Exchange := { server.connections id with
    client := { (server.connections id).client with toLink := link }
    localHost := server.localHost }
  have ignored := @handle_deleted _parseMultipartPostByte exchange here.2 event
  have still : exchange.Follows (messages id) (portal.visits id) := by
    rw [Connection.Follows, unanswered]
    dsimp only
    rw [if_pos dropped]
    exact here
  refine ⟨(congrArg Exchange.localHost ignored).trans same, ints, fun other => ?_⟩
  have kept := follows_update visits still other
  rw [Function.update_eq_self] at kept
  rw [← ignored] at kept
  exact kept

theorem step_unanswered (plain : ∀ id, (messages id).Plain)
    (follows : server.Follows messages portal) (id : Nat) (link : Link) {event : ClientEvent}
    (met : portal.Meets (.client id link event)) (unanswered : (portal.visits id).reply = none)
    (kept : (portal.visits id).dropped = false) :
    (server.step _parseMultipartPostByte (.client id link event)).Follows messages
      (portal.receive messages id link event) := by
  obtain ⟨same, ints, visits⟩ := follows
  have here := visits id
  rw [Connection.Follows, unanswered] at here
  dsimp only at here
  rw [if_neg (by simp [kept])] at here
  obtain ⟨consumed, parts, idle, request⟩ := here
  have waits : Connection.Waits (messages id) consumed (portal.visits id).ended
      (portal.visits id).heard { server.connections id with
        client := { (server.connections id).client with toLink := link } } :=
    ⟨⟨idle.silent, idle.pcb, idle.quiet, idle.heard, idle.timeout, idle.kept, idle.unanswered⟩,
      request⟩
  have quiet {event : ClientEvent} (other : ∀ buf, event ≠ .data buf) :
      (server.step _parseMultipartPostByte (.client id link event)).Follows messages
        (portal.put id ((portal.visits id).receive link event)) := by
    obtain ⟨after, still⟩ := @handle_idle _parseMultipartPostByte (messages id) consumed
      (portal.visits id) { server.connections id with
        client := { (server.connections id).client with toLink := link }
        localHost := server.localHost } unanswered kept parts waits event other
    exact ⟨still.trans same, ints, follows_update visits after⟩
  cases event with
  | ack len => exact quiet fun _ => by simp
  | poll => exact quiet fun _ => by simp
  | lwipFin => exact quiet fun _ => by simp
  | fin => exact quiet fun _ => by simp
  | error => exact quiet fun _ => by simp
  | data buf =>
      obtain ⟨nonempty, sent⟩ := met
      obtain ⟨later, pending⟩ := sent unanswered
      have heard := @handle_segment _parseMultipartPostByte (messages id) (plain id) consumed
        buf later (portal.visits id) _ { server.connections id with
          client := { (server.connections id).client with toLink := link }
          localHost := server.localHost } waits nonempty (by rw [pending, parts]) (same ▸ ints)
      have rest : (portal.visits id).pending.drop buf.length = later := by
        rw [← pending, List.drop_left]
      rw [Portal.receive, Visit.receive]
      dsimp only at heard ⊢
      rw [rest]
      split
      · rename_i last
        rw [if_pos last] at heard
        obtain ⟨answers, served⟩ := heard
        have known := (LocalHost.serve_served ints (messages id).toHttpRequest).plainHead
          (messages id).minor_lt
        refine ⟨?_, ?_, follows_update visits ⟨known.valid, .inl ?_⟩⟩
        · rw [step]
          dsimp only
          rw [served, same]
          rfl
        · rw [Portal.answer, Portal.put, LocalHost.serve_webpages]
          exact ints
        · rw [← same]
          exact answers
      · rename_i more
        rw [if_neg more] at heard
        obtain ⟨waits, still⟩ := heard
        refine ⟨still.trans same, ints, follows_update visits ?_⟩
        rw [Connection.Follows]
        dsimp only
        rw [unanswered]
        dsimp only
        rw [if_neg (by simp [kept])]
        exact ⟨consumed ++ buf, by rw [List.append_assoc, pending, parts], waits⟩

theorem step_answered (follows : server.Follows messages portal) (id : Nat) (link : Link)
    (event : ClientEvent) {reply : Http.Reply} (answered : (portal.visits id).reply = some reply) :
    (server.step _parseMultipartPostByte (.client id link event)).Follows messages
      (portal.put id ((portal.visits id).deliver link event)) := by
  obtain ⟨same, ints, visits⟩ := follows
  have here := visits id
  rw [Connection.Follows, answered] at here
  obtain ⟨valid, state⟩ := here
  let exchange : Exchange := { server.connections id with
    client := { (server.connections id).client with toLink := link }
    localHost := server.localHost }
  have reached (after : (handle _parseMultipartPostByte event exchange).Answers reply.text
        ((portal.visits id).deliver link event) ∨
      (handle _parseMultipartPostByte event exchange).Dropped reply.text
        ((portal.visits id).deliver link event)) :
      (handle _parseMultipartPostByte event exchange).Follows (messages id)
        ((portal.visits id).deliver link event) := by
    rw [Connection.Follows, Visit.deliver_reply, answered]
    exact ⟨valid, after⟩
  rcases state with answers | gone
  · have sending := answers.sending
    obtain ⟨after, still⟩ := @handle_answered _parseMultipartPostByte reply.text
      (portal.visits id) exchange (answers.keep ⟨sending.past, sending.pcb, sending.timeout,
        sending.kept, sending.busy⟩ rfl (fun taken => taken) rfl rfl) event
    exact ⟨still.trans same, ints, follows_update visits (reached after)⟩
  · have ignored := @handle_deleted _parseMultipartPostByte exchange gone.deleted event
    have still : exchange.Dropped reply.text ((portal.visits id).deliver link event) :=
      ⟨gone.deleted, Visit.deliver_dropped gone.dropped event,
        fun taken => gone.part (Visit.deliver_refused taken)⟩
    refine ⟨(congrArg Exchange.localHost ignored).trans same, ints, follows_update visits ?_⟩
    apply reached
    rw [ignored]
    exact .inr still

theorem step_follows (plain : ∀ id, (messages id).Plain) {input : ServerInput}
    (follows : server.Follows messages portal) (met : portal.Meets input) :
    (server.step _parseMultipartPostByte input).Follows messages (portal.step messages input) := by
  cases input with
  | client id link event =>
      rw [Portal.step]
      split
      · rename_i answered
        obtain ⟨reply, answered⟩ := Option.ne_none_iff_exists'.mp answered
        exact step_answered _ follows id link event answered
      · rename_i unanswered
        rw [not_not] at unanswered
        split
        · rename_i dropped
          exact step_dropped _ follows id link event unanswered dropped
        · rename_i kept
          exact step_unanswered _ plain follows id link met unanswered (Bool.eq_false_iff.mpr kept)
  | disconnected =>
      exact ⟨congrArg LocalHost.disconnected follows.localHost, follows.ints, follows.visits⟩
  | updatePageInfo rPerKit kits running percent =>
      refine ⟨congrArg (LocalHost.updatePageInfo rPerKit kits running percent) follows.localHost,
        ?_, follows.visits⟩
      rw [Portal.step, LocalHost.updatePageInfo]
      dsimp only
      split
      · exact met
      · exact met

/-- One station asks for the status page, the others post a form. -/
def stations (id : Nat) : Http.Message :=
  if id = 0 then
    { method := "GET".toList
      target := "/?redirect=true".toList
      version := "HTTP/1.1".toList
      fields := [("Host".toList, "4.3.2.1".toList)]
      body := [] }
  else
    { method := "POST".toList
      target := "/generate_204".toList
      version := "HTTP/1.0".toList
      fields := [("Content-Type".toList, "application/x-www-form-urlencoded".toList),
        ("Content-Length".toList, "3".toList)]
      body := "a=1".toList }

theorem stations_plain (id : Nat) : (stations id).Plain := by
  rw [stations]
  split
  · exact ⟨⟨by decide, by decide, by decide, by decide⟩, by decide, by decide, by decide⟩
  · exact ⟨⟨by decide, by decide, by decide, by decide⟩, by decide, by decide, by decide⟩

/-- Three requests in pieces, while the sketch updates the page. A call of lwIP for client 1 fails;
client 2 falls silent, and client 0 does so after its answer. -/
def afternoon : List ServerInput :=
  [.client 0 ⟨100, 0, []⟩ (.data ((stations 0).text.take 20)),
    .client 1 ⟨110, 0, []⟩ (.data ((stations 1).text.dropLast)),
    .client 2 ⟨120, 0, []⟩ (.data ((stations 2).text.take 7)),
    .updatePageInfo 5 3 1 60,
    .client 0 ⟨900, 50, []⟩ (.data ((stations 0).text.drop 20)),
    .client 1 ⟨1000, 10, [true, false]⟩ (.data ['1']),
    .client 0 ⟨1400, 3000, []⟩ .poll,
    .client 1 ⟨1500, 7, []⟩ (.ack 10),
    .client 2 ⟨3120, 0, []⟩ .poll,
    .client 1 ⟨3500, 0, []⟩ .lwipFin,
    .client 1 ⟨3500, 0, []⟩ .fin,
    .client 0 ⟨6400, 3000, []⟩ .poll,
    .disconnected]

end AsyncWebServer

end ResistorCutter
