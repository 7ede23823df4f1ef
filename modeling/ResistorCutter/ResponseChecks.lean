import ResistorCutter.HttpMessage
import ResistorCutter.HttpCore

/-!
A response on its way to the client: whatever room the connection has at each event, what was
written is the beginning of the head and the content, each byte once.
-/

namespace ResistorCutter

namespace AsyncClient

/-- Beyond what it writes a call leaves the client as it is, but for the wait for an acknowledgement
that begins with a write. -/
structure Kept (before after : AsyncClient) : Prop where
  pcb : after._pcb = before._pcb
  received : after._rx_last_packet = before._rx_last_packet
  timeout : after._rx_since_timeout = before._rx_since_timeout
  busy : after._pcb_busy = true →
    before._pcb_busy = true ∧ after._pcb_sent_at = before._pcb_sent_at ∨
      0 < before.space ∧ after._pcb_sent_at = before.now

theorem Kept.refl (client : AsyncClient) : Kept client client :=
  ⟨rfl, rfl, rfl, fun busy => .inl ⟨busy, rfl⟩⟩

theorem write_nothing {data : List Char} {client : AsyncClient}
    (nothing : client.space = 0 ∨ data = []) : client.write data = (0, client) := by
  have added : client.add data = (0, client) := by
    rw [add]
    split
    · rfl
    · rename_i some
      rw [not_or] at some
      exact if_pos (nothing.resolve_right some.2)
  rw [write, added]
  rfl

/-- What there is to write, and room for some of it. -/
theorem write_some {data : List Char} {client : AsyncClient} (room : 0 < client.space)
    (some : data ≠ []) : client.write data =
      if client.answers.headD true then
        let queued := { client with
          answers := client.answers.tail
          sndbuf := client.sndbuf - min client.space data.length
          written := client.written ++ data.take (min client.space data.length) }
        (if queued.send.1 then min client.space data.length else 0, queued.send.2)
      else (0, { client with answers := client.answers.tail }) := by
  have opened : client._pcb = true := by
    by_contra shut
    rw [space, if_neg shut] at room
    exact Nat.lt_irrefl 0 room
  have ready : ¬(client._pcb = false ∨ data = []) := by simp [opened, some]
  have positive := List.length_pos_iff.mpr some
  rw [write, add, if_neg ready]
  dsimp only
  rw [if_neg (Nat.ne_of_gt room), answer]
  dsimp only
  split
  · dsimp only
    rw [if_neg (by omega)]
  · rfl

theorem send_kept (client : AsyncClient) :
    client.send.2._pcb = client._pcb ∧
      client.send.2._rx_last_packet = client._rx_last_packet ∧
      client.send.2._rx_since_timeout = client._rx_since_timeout ∧
      client.send.2.written = client.written ∧
      (client.send.2._pcb_busy = true →
        client._pcb_busy = true ∧ client.send.2._pcb_sent_at = client._pcb_sent_at ∨
          client.send.2._pcb_sent_at = client.now) := by
  rw [send, answer]
  dsimp only
  split
  · exact ⟨rfl, rfl, rfl, rfl, fun _ => .inr rfl⟩
  · exact ⟨rfl, rfl, rfl, rfl, fun busy => .inl ⟨busy, rfl⟩⟩

theorem write_kept (data : List Char) (client : AsyncClient) :
    Kept client (client.write data).2 := by
  by_cases nothing : client.space = 0 ∨ data = []
  · rw [write_nothing nothing]
    exact Kept.refl client
  · rw [not_or] at nothing
    have room : 0 < client.space := Nat.pos_of_ne_zero nothing.1
    rw [write_some room nothing.2]
    split
    · dsimp only
      generalize queued : ({ client with
        answers := client.answers.tail
        sndbuf := client.sndbuf - min client.space data.length
        written := client.written ++ data.take (min client.space data.length) } : AsyncClient) =
          next
      obtain ⟨pcb, received, timeout, -, busy⟩ := send_kept next
      rw [← queued] at pcb received timeout busy ⊢
      refine ⟨pcb, received, timeout, fun waits => (busy waits).imp id fun now => ⟨room, now⟩⟩
    · exact ⟨rfl, rfl, rfl, fun busy => .inl ⟨busy, rfl⟩⟩

/-- lwIP takes all that fits if it refuses nothing. -/
theorem write_fits {client : AsyncClient} {data : List Char} (fits : data.length ≤ client.space)
    (taken : false ∉ client.answers) :
    (client.write data).1 = data.length ∧
      (client.write data).2.written = client.written ++ data := by
  by_cases empty : data = []
  · rw [write_nothing (.inr empty), empty]
    exact ⟨rfl, (List.append_nil _).symm⟩
  · have positive := List.length_pos_iff.mpr empty
    have yes (answers : List Bool) (all : false ∉ answers) : answers.headD true = true := by
      cases answers with
      | nil => rfl
      | cons first rest =>
          cases first with
          | false => exact absurd List.mem_cons_self all
          | true => rfl
    have later : false ∉ client.answers.tail := fun member => taken (List.mem_of_mem_tail member)
    rw [write_some (by omega) empty, if_pos (yes _ taken), min_eq_right fits, List.take_length]
    dsimp only
    rw [send, answer]
    dsimp only
    rw [yes _ later]
    exact ⟨rfl, rfl⟩

end AsyncClient

namespace AsyncBasicResponse

/-- `unsent` is still to be written of `whole`. -/
structure Sends (whole unsent : List Char) (response : AsyncBasicResponse) (client : AsyncClient) :
    Prop where
  parts : client.written ++ unsent = whole
  counted : response._writtenLength = client.written.length
  unsent : match response._state with
    | .RESPONSE_CONTENT => response._content = unsent ∧
        response._contentLength = response._sentLength + unsent.length
    | .RESPONSE_WAIT_ACK => unsent = []
    | .RESPONSE_END => unsent = [] ∧ whole.length ≤ response._ackedLength
    | _ => False

/-- A response that a handler has built. -/
structure Fresh (response : AsyncBasicResponse) : Prop where
  length : response._contentLength = response._content.length
  sent : response._sentLength = 0
  written : response._writtenLength = 0
  acked : response._ackedLength = 0

theorem fresh_ofResponse (response : Response) : (ofResponse response).Fresh := by
  have added (headers : List (String × String)) (basic : AsyncBasicResponse) (fresh : basic.Fresh) :
      (headers.foldl (fun basic header => basic.addHeader header.1 header.2) basic).Fresh := by
    induction headers generalizing basic with
    | nil => exact fresh
    | cons header headers ih => exact ih _ ⟨fresh.length, fresh.sent, fresh.written, fresh.acked⟩
  exact added response.headers _ ⟨rfl, rfl, rfl, rfl⟩

theorem respond_sends {response : AsyncBasicResponse} (fresh : response.Fresh)
    {client : AsyncClient} (empty : client.written = []) (taken : false ∉ client.answers)
    (version : Nat) :
    ∃ unsent, Sends (response._assembleHead version ++ response._content) unsent
      (response._respond version client).1 (response._respond version client).2 := by
  obtain ⟨length, sent, written, -⟩ := fresh
  rw [_respond]
  generalize response._assembleHead version = out
  dsimp only
  split
  · rename_i small
    have none : response._content = [] := by
      rw [← List.length_eq_zero_iff, ← length]
      exact small.1
    obtain ⟨count, put⟩ := AsyncClient.write_fits small.2 taken
    rw [none]
    exact ⟨[], by simp [put, empty], by simp [count, put, written, empty], rfl⟩
  · split
    · rename_i small
      have fits : (out ++ response._content).length ≤ client.space := by
        rw [List.length_append, ← length]
        exact small.2
      obtain ⟨count, put⟩ := AsyncClient.write_fits fits taken
      exact ⟨[], by simp [put, empty], by simp [count, put, written, empty], rfl⟩
    · split
      · rename_i part
        have fits : (out.take client.space).length ≤ client.space :=
          List.length_take_le ..
        obtain ⟨count, put⟩ := AsyncClient.write_fits fits taken
        refine ⟨out.drop client.space ++ response._content, ?_, ?_, rfl, ?_⟩
        · simp [put, empty, ← List.append_assoc]
        · simp [count, put, written, empty]
        · simp only [List.length_append, List.length_drop, sent, length]
          omega
      · split
        · rename_i part
          have fits : (out ++ response._content.take (client.space - out.length)).length ≤
              client.space := by
            simp only [List.length_append, List.length_take]
            omega
          obtain ⟨count, put⟩ := AsyncClient.write_fits fits taken
          refine ⟨response._content.drop (client.space - out.length), ?_, ?_, rfl, ?_⟩
          · simp [put, empty]
          · simp [count, put, written, empty]
          · simp only [List.length_drop, sent, length]
            omega
        · refine ⟨out ++ response._content, ?_, ?_, rfl, ?_⟩
          · simp [empty]
          · simp [written, empty]
          · simp only [List.length_append, sent, length]
            omega

/-- Whatever lwIP answers. -/
theorem respond_kept (version : Nat) (response : AsyncBasicResponse) (client : AsyncClient) :
    (response._respond version client).1._ackedLength = response._ackedLength ∧
      client.Kept (response._respond version client).2 := by
  rw [_respond]
  dsimp only
  split
  · exact ⟨rfl, AsyncClient.write_kept ..⟩
  · split
    · exact ⟨rfl, AsyncClient.write_kept ..⟩
    · split
      · exact ⟨rfl, AsyncClient.write_kept ..⟩
      · split
        · exact ⟨rfl, AsyncClient.write_kept ..⟩
        · exact ⟨rfl, AsyncClient.Kept.refl client⟩

theorem ack_kept (len : Nat) (response : AsyncBasicResponse) (client : AsyncClient) :
    (response._ack len client).1._ackedLength = response._ackedLength + len ∧
      client.Kept (response._ack len client).2 := by
  rw [_ack]
  dsimp only
  split
  · split
    · exact ⟨rfl, AsyncClient.write_kept ..⟩
    · exact ⟨rfl, AsyncClient.write_kept ..⟩
  · split
    · exact ⟨rfl, AsyncClient.Kept.refl client⟩
    · exact ⟨rfl, AsyncClient.Kept.refl client⟩
  · exact ⟨rfl, AsyncClient.Kept.refl client⟩

/-- An event with room in the send buffer writes at least one byte, if there are any left. -/
theorem ack_sends {whole unsent : List Char} {response : AsyncBasicResponse} {client : AsyncClient}
    (sends : Sends whole unsent response client) (taken : false ∉ client.answers) (len : Nat) :
    ∃ later, Sends whole later (response._ack len client).1 (response._ack len client).2 ∧
      later.length ≤ unsent.length - client.space := by
  obtain ⟨split, counted, rest⟩ := sends
  rw [_ack]
  dsimp only
  cases state : response._state with
  | RESPONSE_CONTENT =>
      rw [state] at rest
      obtain ⟨content, length⟩ := rest
      dsimp only
      have available : response._contentLength - response._sentLength = unsent.length := by omega
      rw [available]
      split
      · have fits : (response._content.take unsent.length).length ≤ client.space := by
          rw [content, List.take_length]
          omega
        obtain ⟨count, put⟩ := AsyncClient.write_fits fits taken
        rw [content, List.take_length] at count put ⊢
        exact ⟨[], ⟨by simpa [put] using split, by simp [count, put, counted], rfl⟩, by simp⟩
      · have fits : (response._content.take client.space).length ≤ client.space :=
          List.length_take_le ..
        obtain ⟨count, put⟩ := AsyncClient.write_fits fits taken
        rw [content] at count put ⊢
        refine ⟨unsent.drop client.space, ⟨?_, ?_, ?_⟩, ?_⟩
        · simpa [put] using split
        · simp [count, put, counted]
        · refine ⟨rfl, ?_⟩
          simp only [List.length_drop]
          omega
        · simp
  | RESPONSE_WAIT_ACK =>
      rw [state] at rest
      subst rest
      dsimp only
      split
      · rename_i acked
        refine ⟨[], ⟨split, counted, rfl, ?_⟩, by simp⟩
        rw [← split, List.append_nil, ← counted]
        exact acked
      · exact ⟨[], ⟨split, counted, rfl⟩, by simp⟩
  | RESPONSE_END =>
      rw [state] at rest
      obtain ⟨rfl, acked⟩ := rest
      exact ⟨[], ⟨split, counted, rfl, Nat.le_add_right_of_le acked⟩, by simp⟩
  | RESPONSE_SETUP => rw [state] at rest; exact rest.elim
  | RESPONSE_HEADERS => rw [state] at rest; exact rest.elim
  | RESPONSE_FAILED => rw [state] at rest; exact rest.elim

end AsyncBasicResponse

/-! What the client is to read. -/

namespace Response

def fields (version : Nat) (response : Response) : List Http.Field :=
  let contentType := (AsyncBasicResponse.ofResponse response)._contentType
  let headers := ("Connection", "close") :: response.headers ++
    if version ≠ 0 then [("Accept-Ranges", "none")] else []
  let described := if contentType = "" then headers else ("Content-Type", contentType) :: headers
  ("Content-Length".toList, Nat.toDigits 10 response.content.length) ::
    described.map fun header => (header.1.toList, header.2.toList)

def reply (version : Nat) (response : Response) : Http.Reply where
  minor := version
  status := response.code
  reason := (AsyncBasicResponse._responseCodeToString response.code).toList
  fields := response.fields version
  body := response.content

/-- No line of the head fills the buffer that it is printed to. -/
structure Short (version : Nat) (response : Response) : Prop where
  status : (response.reply version).statusLine.length ≤ 297
  fields : ∀ field ∈ response.fields version, field.text.length ≤ 299

end Response

namespace AsyncBasicResponse

theorem ofResponse_spec (response : Response) :
    (ofResponse response)._code = response.code ∧
      (ofResponse response)._headers = ("Connection", "close") :: response.headers ∧
      (ofResponse response)._content = response.content ∧
      (ofResponse response)._contentLength = response.content.length := by
  have added (headers : List (String × String)) (basic : AsyncBasicResponse) :
      let last := headers.foldl (fun basic header => basic.addHeader header.1 header.2) basic
      last._code = basic._code ∧ last._headers = basic._headers ++ headers ∧
        last._content = basic._content ∧ last._contentLength = basic._contentLength := by
    induction headers generalizing basic with
    | nil => simp
    | cons header headers ih =>
        obtain ⟨code, kept, content, length⟩ := ih (basic.addHeader header.1 header.2)
        exact ⟨code, by simpa [addHeader] using kept, content, length⟩
  exact added response.headers _

theorem snprintf_short {text : List Char} (short : text.length ≤ 299) : snprintf text = text :=
  List.take_of_length_le short

theorem colon_eq : ": ".toList = Http.colon := by decide

theorem crlf_eq : "\r\n".toList = Http.crlf := by decide

theorem protocol_eq : "HTTP/1.".toList = Http.protocol := by decide

theorem headers_text {headers : List (String × String)}
    (short : ∀ header ∈ headers,
      (Http.Field.text (header.1.toList, header.2.toList)).length ≤ 299) :
    (headers.flatMap fun header =>
      snprintf (header.1.toList ++ ": ".toList ++ header.2.toList ++ "\r\n".toList)) =
      (headers.map fun header => (header.1.toList, header.2.toList)).flatMap Http.Field.text := by
  rw [List.flatMap_map]
  refine List.flatMap_congr fun header member => ?_
  rw [colon_eq, crlf_eq]
  exact snprintf_short (short header member)

theorem assembleHead_reply {version : Nat} {response : Response} (short : response.Short version) :
    (ofResponse response)._assembleHead version ++ response.content =
      (response.reply version).text := by
  obtain ⟨code, headers, -, length⟩ := ofResponse_spec response
  obtain ⟨statusLine, fields⟩ := short
  have status : snprintf ("HTTP/1.".toList ++ Nat.toDigits 10 version ++ [' '] ++
      Nat.toDigits 10 response.code ++ [' '] ++ (_responseCodeToString response.code).toList ++
      "\r\n".toList) = (response.reply version).statusLine ++ Http.crlf := by
    rw [protocol_eq, crlf_eq]
    exact snprintf_short (by
      simp only [Http.Reply.statusLine, Response.reply] at statusLine
      rw [List.length_append]
      exact Nat.add_le_add_right statusLine 2)
  have described : ∀ header ∈ (ofResponse response)._headers ++
      (if version ≠ 0 then [("Accept-Ranges", "none")] else []),
      (Http.Field.text (header.1.toList, header.2.toList)).length ≤ 299 := by
    intro header member
    apply fields
    rw [Response.fields]
    refine List.mem_cons_of_mem _ (List.mem_map.mpr ⟨header, ?_, rfl⟩)
    rw [headers] at member
    split
    · exact member
    · exact List.mem_cons_of_mem _ member
  have lengthLine : snprintf ("Content-Length: ".toList ++
      Nat.toDigits 10 response.content.length ++ "\r\n".toList) =
      Http.Field.text ("Content-Length".toList, Nat.toDigits 10 response.content.length) := by
    have shape : "Content-Length: ".toList = "Content-Length".toList ++ Http.colon := by decide
    rw [shape, crlf_eq]
    exact snprintf_short (fields _ List.mem_cons_self)
  have typeLine (typed : (ofResponse response)._contentType ≠ "") :
      snprintf ("Content-Type: ".toList ++ (ofResponse response)._contentType.toList ++
        "\r\n".toList) =
      Http.Field.text ("Content-Type".toList, (ofResponse response)._contentType.toList) := by
    have shape : "Content-Type: ".toList = "Content-Type".toList ++ Http.colon := by decide
    have member : ("Content-Type".toList, (ofResponse response)._contentType.toList) ∈
        response.fields version := by
      rw [Response.fields, if_neg typed]
      exact List.mem_cons_of_mem _ (List.mem_map.mpr ⟨_, List.mem_cons_self, rfl⟩)
    rw [shape, crlf_eq]
    exact snprintf_short (fields _ member)
  have added : (if version ≠ 0 then (ofResponse response).addHeader "Accept-Ranges" "none"
      else ofResponse response) = { ofResponse response with
        _headers := (ofResponse response)._headers ++
          if version ≠ 0 then [("Accept-Ranges", "none")] else [] } := by
    split
    · rfl
    · rw [List.append_nil]
  rw [_assembleHead, added]
  dsimp only
  rw [code, length, status, lengthLine, headers_text described, headers]
  simp only [Http.Reply.text, Response.reply, Response.fields]
  split
  · rw [crlf_eq]
    simp only [List.append_nil, List.flatMap_cons, List.append_assoc]
  · rename_i typed
    rw [typeLine typed, crlf_eq]
    simp only [List.map_cons, List.flatMap_cons, List.append_assoc]

end AsyncBasicResponse

end ResistorCutter
