import Mathlib.Data.List.Induction
import ResistorCutter.HttpMessage
import ResistorCutter.HttpCore

/-!
A request as the server reads it: a character at a time, whatever segments it comes in.
-/

namespace ResistorCutter

namespace AsyncWebServerRequest

/-! One character of the head. -/

def InHead (request : AsyncWebServerRequest) : Prop :=
  request._parseState = .PARSE_REQ_START ∨ request._parseState = .PARSE_REQ_HEADERS

/-- What `_parseLine` makes of the request itself. -/
def parseLine (request : AsyncWebServerRequest) : AsyncWebServerRequest :=
  match request._parseState with
  | .PARSE_REQ_START =>
      if request._temp = [] then { request with _parseState := .PARSE_REQ_FAIL }
      else { request._parseReqHead with _parseState := .PARSE_REQ_HEADERS }
  | .PARSE_REQ_HEADERS =>
      if request._temp = [] then
        { request with
          _handler := some (attachHandler request._url)
          _parseState := if request._contentLength ≠ 0 then .PARSE_REQ_BODY else .PARSE_REQ_END }
      else request._parseReqHeader
  | _ => request

def hear (request : AsyncWebServerRequest) (c : Char) : AsyncWebServerRequest :=
  match request._parseState with
  | .PARSE_REQ_START | .PARSE_REQ_HEADERS =>
      if c = '\n' then { request with _temp := trim request._temp }.parseLine
      else { request with _temp := request._temp ++ [c] }
  | _ => request

theorem hear_inHead {request : AsyncWebServerRequest} (inHead : request.InHead) (c : Char) :
    request.hear c = if c = '\n' then { request with _temp := trim request._temp }.parseLine
      else { request with _temp := request._temp ++ [c] } := by
  rcases inHead with start | headers
  · rw [hear, start]
  · rw [hear, headers]

theorem hear_past {request : AsyncWebServerRequest} (past : ¬request.InHead) (c : Char) :
    request.hear c = request := by
  rw [hear]
  split
  · exact absurd (.inl ‹_›) past
  · exact absurd (.inr ‹_›) past
  · rfl

theorem foldl_hear_past {request : AsyncWebServerRequest} (past : ¬request.InHead)
    (text : List Char) : text.foldl hear request = request := by
  induction text with
  | nil => rfl
  | cons c text ih => rw [List.foldl_cons, hear_past past, ih]

theorem inHead_of_foldl {request : AsyncWebServerRequest} {text : List Char}
    (inHead : (text.foldl hear request).InHead) : request.InHead := by
  by_contra past
  rw [foldl_hear_past past] at inHead
  exact past inHead

theorem foldl_hear_plain {request : AsyncWebServerRequest} (inHead : request.InHead)
    {text : List Char} (plain : '\n' ∉ text) :
    text.foldl hear request = { request with _temp := request._temp ++ text } := by
  induction text generalizing request with
  | nil => rw [List.append_nil]; rfl
  | cons c text ih =>
      obtain ⟨other, plain⟩ := not_or.mp (mt List.mem_cons.mpr plain)
      have kept : InHead { request with _temp := request._temp ++ [c] } := inHead
      rw [List.foldl_cons, hear_inHead inHead, if_neg (Ne.symm other), ih kept plain,
        List.append_assoc]
      rfl

theorem foldl_hear_line {request : AsyncWebServerRequest} (inHead : request.InHead)
    {line : List Char} (plain : '\n' ∉ line) (rest : List Char) :
    (line ++ '\n' :: rest).foldl hear request =
      rest.foldl hear { request with _temp := trim (request._temp ++ line) }.parseLine := by
  have kept : InHead { request with _temp := request._temp ++ line } := inHead
  rw [List.foldl_append, foldl_hear_plain inHead plain, List.foldl_cons, hear_inHead kept,
    if_pos rfl]

end AsyncWebServerRequest

/-! Segments of the head. -/

namespace Exchange

open AsyncWebServerRequest

theorem parseLine_request {exchange : Exchange} (inHead : exchange.request.parseLine.InHead) :
    exchange._parseLine = { exchange with request := exchange.request.parseLine } := by
  rw [parseLine] at inHead
  rw [_parseLine, parseLine]
  dsimp only
  cases state : exchange.request._parseState with
  | PARSE_REQ_START =>
      rw [state] at inHead
      dsimp only at inHead ⊢
      split
      · rename_i empty
        rw [if_pos empty] at inHead
        rcases inHead with impossible | impossible <;> cases impossible
      · rfl
  | PARSE_REQ_HEADERS =>
      rw [state] at inHead
      dsimp only at inHead ⊢
      split
      · rename_i empty
        rw [if_pos empty] at inHead
        rcases inHead with impossible | impossible <;> dsimp only at impossible <;>
          split at impossible <;> cases impossible
      · rfl
  | PARSE_REQ_BODY => rfl
  | PARSE_REQ_END => rfl
  | PARSE_REQ_FAIL => rfl

theorem cstr_plain {text : List Char} (plain : '\x00' ∉ text) : cstr text = text := by
  rw [cstr, List.takeWhile_eq_self_iff]
  intro c member
  exact decide_eq_true fun same => plain (same ▸ member)

variable (_parseMultipartPostByte : Char → Bool → AsyncWebServerRequest → AsyncWebServerRequest)

theorem onDataLoop_line {exchange : Exchange} (inHead : exchange.request.InHead)
    {line : List Char} (plain : '\n' ∉ line) (text : '\x00' ∉ line) (rest : List Char)
    (fuel : Nat) :
    onDataLoop _parseMultipartPostByte (fuel + 1) (line ++ '\n' :: rest) exchange =
      let temp := trim (exchange.request._temp ++ line)
      let next := { exchange with request := { exchange.request with _temp := temp } }._parseLine
      if rest = [] then next else onDataLoop _parseMultipartPostByte fuel rest next := by
  have keep : ∀ c ∈ line, (decide (c ≠ '\n')) = true :=
    fun c member => decide_eq_true fun same => plain (same ▸ member)
  have taken : (line ++ '\n' :: rest).takeWhile (· ≠ '\n') = line := by
    rw [List.takeWhile_append_of_pos keep]
    simp
  have dropped : (line ++ '\n' :: rest).dropWhile (· ≠ '\n') = '\n' :: rest := by
    rw [List.dropWhile_append_of_pos keep]
    simp
  rw [onDataLoop]
  dsimp only
  rw [taken, dropped, cstr_plain text]
  rcases inHead with start | headers
  · rw [start]
  · rw [headers]

theorem onDataLoop_part {exchange : Exchange} (inHead : exchange.request.InHead)
    {buf : List Char} (some : buf ≠ []) (plain : '\n' ∉ buf) (text : '\x00' ∉ buf) (fuel : Nat) :
    onDataLoop _parseMultipartPostByte (fuel + 1) buf exchange =
      { exchange with
        request := { exchange.request with _temp := exchange.request._temp ++ buf } } := by
  have dropped : buf.dropWhile (· ≠ '\n') = [] := by
    rw [List.dropWhile_eq_nil_iff]
    exact fun c member => decide_eq_true fun same => plain (same ▸ member)
  have whole : cstr buf.dropLast ++ buf.getLast?.toList = buf := by
    rw [cstr_plain fun member => text (List.dropLast_subset _ member),
      List.getLast?_eq_some_getLast some]
    exact List.dropLast_append_getLast some
  rw [onDataLoop]
  dsimp only
  rw [dropped, List.append_assoc, whole]
  rcases inHead with start | headers
  · rw [start]
  · rw [headers]

/-- A segment that does not end the head. -/
theorem onDataLoop_head {fuel : Nat} {buf : List Char} {exchange : Exchange} (some : buf ≠ [])
    (enough : buf.length ≤ fuel) (text : '\x00' ∉ buf)
    (inHead : (buf.foldl hear exchange.request).InHead) :
    onDataLoop _parseMultipartPostByte fuel buf exchange =
      { exchange with request := buf.foldl hear exchange.request } := by
  induction fuel generalizing buf exchange with
  | zero => exact absurd (List.length_eq_zero_iff.mp (Nat.le_zero.mp enough)) some
  | succ fuel ih =>
      have before := inHead_of_foldl inHead
      by_cases lines : '\n' ∈ buf
      · obtain ⟨line, rest, rfl, plain⟩ := List.eq_append_cons_of_mem lines
        rw [foldl_hear_line before plain] at inHead ⊢
        have next := @parseLine_request { exchange with request :=
          { exchange.request with _temp := trim (exchange.request._temp ++ line) } }
          (inHead_of_foldl inHead)
        have lineText : '\x00' ∉ line := fun member => text (List.mem_append_left _ member)
        have restText : '\x00' ∉ rest :=
          fun member => text (List.mem_append_right _ (List.mem_cons_of_mem _ member))
        rw [onDataLoop_line _ before plain lineText]
        dsimp only
        rw [next]
        split
        · rename_i last
          rw [last]
          rfl
        · rename_i more
          have shorter : rest.length ≤ fuel := by
            simp only [List.length_append, List.length_cons] at enough
            omega
          rw [ih more shorter restText inHead]
      · rw [onDataLoop_part _ before some lines text, foldl_hear_plain before lines]

/-- A segment with the end of the head in it. -/
theorem onDataLoop_cross {fuel : Nat} {front : List Char} {exchange : Exchange}
    (enough : front.length < fuel) (text : '\x00' ∉ front)
    (headers : (front.foldl hear exchange.request)._parseState = .PARSE_REQ_HEADERS)
    (blank : trim (front.foldl hear exchange.request)._temp = []) (rest : List Char) :
    ∃ more, fuel ≤ more + front.length + 1 ∧
      onDataLoop _parseMultipartPostByte fuel (front ++ '\n' :: rest) exchange =
        let request := front.foldl hear exchange.request
        let next := { exchange with request := { request with _temp := [] } }._parseLine
        if rest = [] then next else onDataLoop _parseMultipartPostByte more rest next := by
  induction fuel generalizing front exchange with
  | zero => omega
  | succ fuel ih =>
      have inHead : (front.foldl hear exchange.request).InHead := .inr headers
      have before := inHead_of_foldl inHead
      by_cases lines : '\n' ∈ front
      · obtain ⟨line, later, rfl, plain⟩ := List.eq_append_cons_of_mem lines
        rw [foldl_hear_line before plain] at headers blank inHead ⊢
        have next := @parseLine_request { exchange with request :=
          { exchange.request with _temp := trim (exchange.request._temp ++ line) } }
          (inHead_of_foldl inHead)
        have lineText : '\x00' ∉ line := fun member => text (List.mem_append_left _ member)
        have laterText : '\x00' ∉ later :=
          fun member => text (List.mem_append_right _ (List.mem_cons_of_mem _ member))
        simp only [List.length_append, List.length_cons] at enough ⊢
        obtain ⟨more, left, result⟩ := @ih later { exchange with request :=
          { exchange.request with _temp := trim (exchange.request._temp ++ line) }.parseLine }
          (by omega) laterText headers blank
        refine ⟨more, by omega, ?_⟩
        rw [List.append_assoc, List.cons_append, onDataLoop_line _ before plain lineText]
        dsimp only
        rw [next, if_neg (by simp), result]
      · rw [foldl_hear_plain before lines] at blank
        rw [foldl_hear_plain before lines]
        refine ⟨fuel, by omega, ?_⟩
        rw [onDataLoop_line _ before lines text]
        dsimp only at blank ⊢
        rw [blank]

end Exchange

/-! The lines of a well-formed head. -/

theorem not_isSpace {c : Char} (visible : ' ' < c) : isSpace c = false := by
  have larger : 32 < c.toNat := UInt32.lt_iff_toNat_lt.mp visible
  have other : c ≠ ' ' := by
    rintro rfl
    revert larger
    decide
  simp only [isSpace, other, false_or, decide_eq_false_iff_not]
  omega

theorem trim_line {line blanks : List Char} (first : ∀ c ∈ line.head?, ' ' < c)
    (last : ∀ c ∈ line.getLast?, ' ' < c) (spaces : ∀ c ∈ blanks, isSpace c = true) :
    trim (line ++ blanks) = line := by
  cases shape : line with
  | nil =>
      rw [trim, List.nil_append, List.dropWhile_eq_nil_iff.mpr spaces]
      rfl
  | cons c rest =>
      rw [shape] at first
      have start := not_isSpace (first c rfl)
      have endsIn : ∀ c ∈ line.reverse.head?, isSpace c = false := by
        intro c member
        rw [List.head?_reverse] at member
        exact not_isSpace (last c member)
      rw [trim, List.cons_append, List.dropWhile_cons_of_neg (by simp [start]), ← List.cons_append,
        ← shape, List.reverse_append, List.dropWhile_append_of_pos (by simpa using spaces)]
      cases mirrored : line.reverse with
      | nil => simp [shape] at mirrored
      | cons d more =>
          rw [mirrored] at endsIn
          rw [List.dropWhile_cons_of_neg (by simp [endsIn d rfl]), ← mirrored, List.reverse_reverse]

namespace Http.Message

/-- The version of the protocol that the server takes a request to be of. -/
def minor (message : Message) : Nat :=
  if "HTTP/1.0".toList.isPrefixOf message.version then 0 else 1

theorem minor_lt (message : Message) : message.minor < 2 := by
  rw [minor]
  split <;> omega

def toHttpRequest (message : Message) : HttpRequest :=
  parseReqHead (message.value "Host".toList) message.target

end Http.Message

namespace AsyncWebServerRequest

open Http

theorem takeWhile_blank {word : List Char} (visible : ∀ c ∈ word, ' ' < c) (rest : List Char) :
    (word ++ ' ' :: rest).takeWhile (· ≠ ' ') = word := by
  refine (takeWhile_append_cons (fun c member => ?_) (by decide) rest).1
  have shown := visible c member
  refine decide_eq_true ?_
  rintro rfl
  exact absurd shown (by decide)

theorem parseReqHead_requestLine {message : Message} (valid : message.Valid)
    (request : AsyncWebServerRequest) (temp : request._temp = message.requestLine)
    (params : request._params = []) (version : request._version = 0) :
    request._parseReqHead = { request with
      _temp := []
      _url := message.toHttpRequest.url
      _params := message.toHttpRequest.params
      _version := message.minor } := by
  have method : message.requestLine.takeWhile (· ≠ ' ') = message.method :=
    takeWhile_blank valid.method.2 _
  have rest : message.requestLine.drop (message.method.length + 1) =
      message.target ++ ' ' :: message.version := by
    rw [Message.requestLine, ← List.drop_drop, List.drop_left, List.drop_succ_cons, List.drop_zero]
  have target : (message.target ++ ' ' :: message.version).takeWhile (· ≠ ' ') = message.target :=
    takeWhile_blank valid.target _
  have last : (message.target ++ ' ' :: message.version).drop (message.target.length + 1) =
      message.version := by
    rw [← List.drop_drop, List.drop_left, List.drop_succ_cons, List.drop_zero]
  have longer : message.target.length < (message.target ++ ' ' :: message.version).length := by
    simp
  rw [_parseReqHead, temp, method, rest, target, if_pos longer, last]
  dsimp only [_addGetParams]
  rw [params, version, List.nil_append]
  rfl

/-- A line without a value loses the blank after its colon. -/
theorem trim_field {field : Field} (valid : field.Valid) :
    trim (field.1 ++ colon ++ field.2 ++ ['\r']) =
      if field.2 = [] then field.1 ++ [':'] else field.1 ++ colon ++ field.2 := by
  obtain ⟨c, rest, shape⟩ := List.exists_cons_of_ne_nil valid.named
  have visible : ' ' < c := (valid.name c (shape ▸ List.mem_cons_self)).1
  split
  · rename_i empty
    have parts : field.1 ++ colon ++ field.2 ++ ['\r'] = (field.1 ++ [':']) ++ [' ', '\r'] := by
      simp [empty, colon]
    rw [parts]
    refine trim_line ?_ ?_ (by decide)
    · simpa [shape] using visible
    · simp
  · rename_i some
    refine trim_line ?_ ?_ (by decide)
    · simpa [shape] using visible
    · intro d member
      rw [List.getLast?_append_of_ne_nil _ some] at member
      exact valid.last d member

theorem parseReqHeader_shape {field : Field} (valid : field.Valid) :
    let temp := trim (field.1 ++ colon ++ field.2 ++ ['\r'])
    (temp.takeWhile (· ≠ ':') = field.1 ∧ ':' ∈ temp) ∧ temp.head? ≠ some ':' ∧
      temp.drop (field.1.length + 2) = field.2 ∧ temp ≠ [] := by
  have plain : ∀ c ∈ field.1, (decide (c ≠ ':')) = true :=
    fun c member => decide_eq_true (valid.name c member).2
  obtain ⟨c, rest, shape⟩ := List.exists_cons_of_ne_nil valid.named
  have other : c ≠ ':' := (valid.name c (shape ▸ List.mem_cons_self)).2
  have starts (tail : List Char) : (field.1 ++ tail).head? ≠ some ':' := by
    rw [shape, List.cons_append, List.head?_cons]
    exact fun same => other (Option.some.inj same)
  dsimp only
  rw [trim_field valid]
  split
  · rename_i empty
    refine ⟨⟨?_, by simp⟩, starts _, ?_, by simp⟩
    · exact (takeWhile_append_cons plain (by decide) []).1
    · rw [empty, List.drop_eq_nil_iff]
      simp
  · have parts : field.1 ++ colon ++ field.2 = field.1 ++ ':' :: ' ' :: field.2 := by simp [colon]
    rw [parts]
    refine ⟨⟨?_, by simp⟩, starts _, ?_, by simp⟩
    · exact (takeWhile_append_cons plain (by decide) _).1
    · rw [← List.drop_drop, List.drop_left, List.drop_succ_cons, List.drop_succ_cons,
        List.drop_zero]

/-- What a field makes of the request. -/
def receive (request : AsyncWebServerRequest) (field : Field) : AsyncWebServerRequest :=
  if Texts.sameLetters field.1 "Host".toList then { request with _host := field.2 }
  else if Texts.sameLetters field.1 "Content-Type".toList then
    { request with
      _contentType := field.2.takeWhile (· ≠ ';')
      _isMultipart := "multipart/".toList.isPrefixOf field.2 || request._isMultipart }
  else if Texts.sameLetters field.1 "Content-Length".toList then
    { request with _contentLength := (atoi field.2 % 4294967296).toNat }
  else if Texts.sameLetters field.1 "Expect".toList && field.2 == "100-continue".toList then
    { request with _expectingContinue := true }
  else request

theorem parseLine_field {field : Field} (valid : field.Valid) {request : AsyncWebServerRequest}
    (headers : request._parseState = .PARSE_REQ_HEADERS) (empty : request._temp = []) :
    parseLine { request with _temp := trim (field.1 ++ colon ++ field.2 ++ ['\r']) } =
      request.receive field := by
  obtain ⟨⟨name, colon⟩, start, value, some⟩ := parseReqHeader_shape valid
  generalize trim (field.1 ++ Http.colon ++ field.2 ++ ['\r']) = temp at name colon start value some
  cases request
  dsimp only at headers empty
  subst headers empty
  have same (text : Text) : equalsIgnoreCase field.1 text = Texts.sameLetters field.1 text := rfl
  rw [parseLine]
  dsimp only
  rw [if_neg some, _parseReqHeader]
  dsimp only
  rw [if_pos colon, if_neg start, name, value, receive, same, same, same, same]
  cases Texts.sameLetters field.1 "Host".toList
  · cases Texts.sameLetters field.1 "Content-Type".toList
    · cases Texts.sameLetters field.1 "Content-Length".toList
      · cases Texts.sameLetters field.1 "Expect".toList && field.2 == "100-continue".toList <;> rfl
      · rfl
    · rfl
  · rfl

theorem receive_kept (request : AsyncWebServerRequest) (field : Field) :
    (request.receive field)._parseState = request._parseState ∧
      (request.receive field)._temp = request._temp := by
  rw [receive]
  split
  · exact ⟨rfl, rfl⟩
  · split
    · exact ⟨rfl, rfl⟩
    · split
      · exact ⟨rfl, rfl⟩
      · split <;> exact ⟨rfl, rfl⟩

theorem foldl_hear_fields {fields : List Field} (valid : ∀ field ∈ fields, field.Valid)
    {request : AsyncWebServerRequest} (headers : request._parseState = .PARSE_REQ_HEADERS)
    (empty : request._temp = []) :
    (fields.flatMap Field.text).foldl hear request = fields.foldl receive request := by
  induction fields generalizing request with
  | nil => rfl
  | cons field fields ih =>
      have here := valid field List.mem_cons_self
      have plain : '\n' ∉ field.1 ++ colon ++ field.2 ++ ['\r'] := by
        intro member
        simp only [List.mem_append] at member
        rcases member with ((name | colon) | value) | ending
        · exact absurd (here.name _ name).1 (by decide)
        · revert colon
          decide
        · exact (here.value _ value).2.1 rfl
        · revert ending
          decide
      have shape : (field :: fields).flatMap Field.text =
          field.1 ++ colon ++ field.2 ++ ['\r'] ++ '\n' :: fields.flatMap Field.text := by
        simp [Field.text, crlf]
      obtain ⟨state, temp⟩ := receive_kept request field
      rw [shape, foldl_hear_line (.inr headers) plain, empty, List.nil_append,
        parseLine_field here headers empty,
        ih (fun other member => valid other (List.mem_cons_of_mem _ member))
          (state.trans headers) (temp.trans empty)]
      rfl

/-- The last field of a name decides, if that is what each field does. -/
theorem foldl_receive_value {β : Type} {get : AsyncWebServerRequest → β} (put : Text → β)
    {name : Text} (each : ∀ request field, get (receive request field) =
      if Texts.sameLetters field.1 name then put field.2 else get request)
    (message : Message) (request : AsyncWebServerRequest) (start : get request = put []) :
    get (message.fields.foldl receive request) = put (message.value name) := by
  rw [Message.value]
  induction message.fields using List.reverseRecOn with
  | nil => exact start
  | append_singleton fields field ih =>
      rw [List.foldl_append, List.foldl_cons, List.foldl_nil, each, List.filter_append,
        List.map_append]
      split
      · rename_i same
        have kept : [field].filter (fun field => Texts.sameLetters field.1 name) = [field] := by
          simp [same]
        simp [kept]
      · rename_i other
        have dropped : [field].filter (fun field => Texts.sameLetters field.1 name) = [] := by
          simp [other]
        rw [ih, dropped]
        simp

theorem receive_host (request : AsyncWebServerRequest) (field : Field) :
    (request.receive field)._host =
      if Texts.sameLetters field.1 "Host".toList then field.2 else request._host := by
  rw [receive]
  split
  · rfl
  · split
    · rfl
    · split
      · rfl
      · split <;> rfl

theorem receive_contentLength (request : AsyncWebServerRequest) (field : Field) :
    (request.receive field)._contentLength =
      if Texts.sameLetters field.1 "Content-Length".toList then (atoi field.2 % 4294967296).toNat
      else request._contentLength := by
  rw [receive]
  split
  · rename_i host
    rw [if_neg]
    intro length
    exact absurd (Texts.sameLetters_trans host length) (by decide)
  · split
    · rename_i type
      rw [if_neg]
      intro length
      exact absurd (Texts.sameLetters_trans type length) (by decide)
    · split
      · rfl
      · split <;> rfl

theorem foldl_receive_multipart {fields : List Field}
    (other : ∀ field ∈ fields, Texts.sameLetters field.1 "Content-Type".toList = true →
      "multipart/".toList.isPrefixOf field.2 = false) (request : AsyncWebServerRequest) :
    (fields.foldl receive request)._isMultipart = request._isMultipart := by
  induction fields generalizing request with
  | nil => rfl
  | cons field fields ih =>
      rw [List.foldl_cons, ih fun later member => other later (List.mem_cons_of_mem _ member),
        receive]
      split
      · rfl
      · split
        · rename_i type
          simp only [other field List.mem_cons_self type, Bool.false_or]
        · split
          · rfl
          · split <;> rfl

theorem foldl_receive_expect {fields : List Field}
    (other : ∀ field ∈ fields, Texts.sameLetters field.1 "Expect".toList = true →
      field.2 ≠ "100-continue".toList) (request : AsyncWebServerRequest) :
    (fields.foldl receive request)._expectingContinue = request._expectingContinue := by
  induction fields generalizing request with
  | nil => rfl
  | cons field fields ih =>
      have here := other field List.mem_cons_self
      rw [List.foldl_cons, ih fun later member => other later (List.mem_cons_of_mem _ member),
        receive]
      split
      · rfl
      · split
        · rfl
        · split
          · rfl
          · split
            · rename_i expect
              simp only [Bool.and_eq_true, beq_iff_eq] at expect
              exact absurd expect.2 (here expect.1)
            · rfl

/-- What the fields leave as it is. -/
theorem foldl_receive_kept (fields : List Field) (request : AsyncWebServerRequest) :
    let last := fields.foldl receive request
    last._parseState = request._parseState ∧ last._temp = request._temp ∧
      last._version = request._version ∧ last._url = request._url ∧
      last._parsedLength = request._parsedLength ∧ last._params = request._params := by
  induction fields generalizing request with
  | nil => simp
  | cons field fields ih =>
      obtain ⟨state, temp, version, url, parsed, params⟩ := ih (request.receive field)
      have here : (request.receive field)._parseState = request._parseState ∧
          (request.receive field)._temp = request._temp ∧
          (request.receive field)._version = request._version ∧
          (request.receive field)._url = request._url ∧
          (request.receive field)._parsedLength = request._parsedLength ∧
          (request.receive field)._params = request._params := by
        rw [receive]
        cases Texts.sameLetters field.1 "Host".toList
        · cases Texts.sameLetters field.1 "Content-Type".toList
          · cases Texts.sameLetters field.1 "Content-Length".toList
            · cases Texts.sameLetters field.1 "Expect".toList &&
                field.2 == "100-continue".toList <;> simp
            · simp
          · simp
        · simp
      exact ⟨state.trans here.1, temp.trans here.2.1, version.trans here.2.2.1,
        url.trans here.2.2.2.1, parsed.trans here.2.2.2.2.1, params.trans here.2.2.2.2.2⟩

end AsyncWebServerRequest

/-! Whole messages. -/

namespace Http.Message

/-- The head without the line feed that ends it. -/
def front (message : Message) : Text :=
  message.requestLine ++ crlf ++ (message.fields.flatMap Field.text ++ ['\r'])

theorem head_eq (message : Message) : message.head = message.front ++ ['\n'] := by
  simp [head, front, crlf]

/-- A message with a body of the length it announces, which is neither a form in parts nor held
back until the server asks for it. -/
structure Plain (message : Message) : Prop where
  valid : message.Valid
  length : (atoi (message.value "Content-Length".toList) % 4294967296).toNat = message.body.length
  multipart : ∀ field ∈ message.fields, Texts.sameLetters field.1 "Content-Type".toList = true →
    "multipart/".toList.isPrefixOf field.2 = false
  expect : ∀ field ∈ message.fields, Texts.sameLetters field.1 "Expect".toList = true →
    field.2 ≠ "100-continue".toList

theorem Valid.front_text {message : Message} (valid : message.Valid) : '\x00' ∉ message.front := by
  intro member
  simp only [front, requestLine, List.mem_append, List.mem_cons, List.mem_flatMap] at member
  rcases member with ((method | blank | target | blank | version) | ending) |
    ⟨field, among, member⟩ | ending
  · exact absurd (valid.method.2 _ method) (by decide)
  · revert blank
    decide
  · exact absurd (valid.target _ target) (by decide)
  · revert blank
    decide
  · exact absurd (valid.version.2 _ version) (by decide)
  · revert ending
    decide
  · simp only [Field.text, List.mem_append] at member
    rcases member with ((name | colon) | value) | ending
    · exact absurd ((valid.fields field among).name _ name).1 (by decide)
    · revert colon
      decide
    · exact ((valid.fields field among).value _ value).2.2 rfl
    · revert ending
      decide
  · revert ending
    decide

end Http.Message

namespace AsyncWebServerRequest

open Http

/-- What the server knows of a message after its head. -/
structure Knows (message : Message) (request : AsyncWebServerRequest) : Prop where
  url : request._url = message.toHttpRequest.url
  host : request._host = message.toHttpRequest.host
  params : ∃ posts, (∀ param ∈ posts, param.isPost = true) ∧
    request._params = message.toHttpRequest.params ++ posts
  version : request._version = message.minor
  length : request._contentLength = message.body.length
  multipart : request._isMultipart = false

/-- The request after its first line. -/
def begun (message : Message) : AsyncWebServerRequest :=
  { construct with
    _parseState := .PARSE_REQ_HEADERS
    _url := message.toHttpRequest.url
    _params := message.toHttpRequest.params
    _version := message.minor }

theorem parseLine_requestLine {message : Message} (plain : message.Plain) :
    parseLine { construct with _temp := message.requestLine } = begun message := by
  have some : message.requestLine ≠ [] := by simp [Message.requestLine]
  have split := parseReqHead_requestLine plain.valid
    { construct with _temp := message.requestLine } rfl rfl rfl
  rw [parseLine]
  dsimp only [construct] at split ⊢
  rw [if_neg some, split]
  rfl

theorem trim_requestLine {message : Message} (valid : message.Valid) :
    trim (message.requestLine ++ ['\r']) = message.requestLine := by
  refine trim_line ?_ ?_ (by decide)
  · obtain ⟨c, rest, shape⟩ := List.exists_cons_of_ne_nil valid.method.1
    have visible : ' ' < c := valid.method.2 c (shape ▸ List.mem_cons_self)
    simpa [Message.requestLine, shape] using visible
  · intro c member
    have shape : message.requestLine =
        message.method ++ ' ' :: message.target ++ [' '] ++ message.version := by
      simp [Message.requestLine]
    rw [shape, List.getLast?_append_of_ne_nil _ valid.version.1] at member
    exact valid.version.2 c (List.mem_of_mem_getLast? member)

theorem foldl_hear_requestLine {message : Message} (plain : message.Plain) (rest : Text) :
    (message.requestLine ++ crlf ++ rest).foldl hear construct =
      rest.foldl hear (begun message) := by
  have valid := plain.valid
  have lineText : '\n' ∉ message.requestLine ++ ['\r'] := by
    intro member
    simp only [Message.requestLine, List.mem_append, List.mem_cons] at member
    rcases member with (method | blank | target | blank | version) | ending
    · exact absurd (valid.method.2 _ method) (by decide)
    · revert blank
      decide
    · exact absurd (valid.target _ target) (by decide)
    · revert blank
      decide
    · exact absurd (valid.version.2 _ version) (by decide)
    · revert ending
      decide
  have shape : message.requestLine ++ crlf ++ rest =
      message.requestLine ++ ['\r'] ++ '\n' :: rest := by
    simp [crlf]
  have line := parseLine_requestLine plain
  rw [shape, foldl_hear_line (.inl rfl) lineText]
  dsimp only [construct] at line ⊢
  rw [List.nil_append, trim_requestLine valid, line]

/-- The end of the head has been read, but for its last character. -/
theorem foldl_hear_front {message : Message} (plain : message.Plain) :
    let request := message.front.foldl hear construct
    (request._parseState = .PARSE_REQ_HEADERS ∧ request._temp = ['\r']) ∧
      request.Knows message ∧ request._parsedLength = 0 ∧ request._expectingContinue = false := by
  obtain ⟨state, temp, version, url, parsed, params⟩ :=
    foldl_receive_kept message.fields (begun message)
  have host := foldl_receive_value id receive_host message (begun message) rfl
  have none : (atoi [] % 4294967296).toNat = 0 := by decide
  have length := foldl_receive_value (fun value => (atoi value % 4294967296).toNat)
    receive_contentLength message (begun message) none.symm
  have multipart := foldl_receive_multipart plain.multipart (begun message)
  have expect := foldl_receive_expect plain.expect (begun message)
  rw [Message.front, foldl_hear_requestLine plain, List.foldl_append,
    foldl_hear_fields plain.valid.fields rfl rfl]
  generalize message.fields.foldl receive (begun message) = last at *
  dsimp only
  rw [List.foldl_cons, List.foldl_nil, hear_inHead (.inr state), if_neg (by decide), temp]
  exact ⟨⟨state, rfl⟩, ⟨url, host, ⟨[], by simp, by rw [params, List.append_nil]; rfl⟩, version,
    length.trans plain.length, multipart⟩, parsed, expect⟩

/-! Bodies. -/

end AsyncWebServerRequest

namespace Exchange

open AsyncWebServerRequest

theorem parsePlainPost_spec (buf : List Char) (request : AsyncWebServerRequest) :
    ∃ temp posts, (∀ param ∈ posts, param.isPost = true) ∧ parsePlainPost buf request =
      { request with
        _temp := temp
        _parsedLength := request._parsedLength + buf.length
        _params := request._params ++ posts } := by
  induction buf generalizing request with
  | nil => exact ⟨request._temp, [], by simp, by simp [parsePlainPost]⟩
  | cons c buf ih =>
      have here : ∃ temp posts, (∀ param ∈ posts, param.isPost = true) ∧
          _parsePlainPostChar c { request with _parsedLength := request._parsedLength + 1 } =
            { request with
              _temp := temp
              _parsedLength := request._parsedLength + 1
              _params := request._params ++ posts } := by
        rw [_parsePlainPostChar]
        dsimp only
        split
        · split
          · exact ⟨[], [_], by simp, rfl⟩
          · exact ⟨_, [], by simp, by rw [List.append_nil]⟩
        · split
          · exact ⟨[], [_], by simp, rfl⟩
          · exact ⟨_, [], by simp, by rw [List.append_nil]⟩
      obtain ⟨temp, posts, posted, parsed⟩ := here
      obtain ⟨last, others, othersPosted, rest⟩ := ih { request with
        _temp := temp
        _parsedLength := request._parsedLength + 1
        _params := request._params ++ posts }
      refine ⟨last, posts ++ others, ?_, ?_⟩
      · intro param member
        rcases List.mem_append.mp member with first | second
        · exact posted param first
        · exact othersPosted param second
      · rw [parsePlainPost, parsed, rest, List.append_assoc, List.length_cons, Nat.add_assoc,
          Nat.add_comm 1]

variable (_parseMultipartPostByte : Char → Bool → AsyncWebServerRequest → AsyncWebServerRequest)

theorem parseBody_spec (buf : List Char) {request : AsyncWebServerRequest}
    (multipart : request._isMultipart = false) :
    ∃ temp plainPost posts, (∀ param ∈ posts, param.isPost = true) ∧
      parseBody _parseMultipartPostByte buf request =
        { request with
          _temp := temp
          _isPlainPost := plainPost
          _parsedLength := request._parsedLength + buf.length
          _params := request._params ++ posts } := by
  have detected : ∃ plainPost, (if request._parsedLength = 0 then
      { request with _isPlainPost := request.plainPost buf } else request) =
      { request with _isPlainPost := plainPost } := by
    split
    · exact ⟨_, rfl⟩
    · exact ⟨request._isPlainPost, rfl⟩
  obtain ⟨plainPost, detected⟩ := detected
  rw [parseBody]
  dsimp only
  rw [if_neg (by simp [multipart]), detected]
  split
  · split
    · obtain ⟨temp, posts, posted, parsed⟩ :=
        parsePlainPost_spec buf { request with _isPlainPost := plainPost }
      exact ⟨temp, plainPost, posts, posted, parsed⟩
    · exact ⟨request._temp, plainPost, [], by simp, by simp⟩
  · exact ⟨request._temp, plainPost, [], by simp, by simp⟩

end Exchange

end ResistorCutter
