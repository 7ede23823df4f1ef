import Mathlib.Data.List.TakeWhile
import ResistorCutter.Template

/-!
Messages of the hypertext transfer protocol: a head of lines that end in CRLF, closed by an empty
line, and a body. `readReply` is the reader of a client, which may have only a part of the text.
-/

namespace ResistorCutter

namespace Http

abbrev Text := List Char

abbrev Field := Text × Text

def crlf : Text := ['\r', '\n']

def colon : Text := [':', ' ']

def protocol : Text := ['H', 'T', 'T', 'P', '/', '1', '.']

def Field.text (field : Field) : Text := field.1 ++ colon ++ field.2 ++ crlf

structure Field.Valid (field : Field) : Prop where
  named : field.1 ≠ []
  name : ∀ c ∈ field.1, ' ' < c ∧ c ≠ ':'
  value : ∀ c ∈ field.2, c ≠ '\r' ∧ c ≠ '\n' ∧ c ≠ '\x00'
  start : field.2.head? ≠ some ' '
  last : ∀ c ∈ field.2.getLast?, ' ' < c

instance (field : Field) : Decidable field.Valid :=
  decidable_of_iff (field.1 ≠ [] ∧ field.1.all (fun c => ' ' < c ∧ c ≠ ':') ∧
      field.2.all (fun c => c ≠ '\r' ∧ c ≠ '\n' ∧ c ≠ '\x00') ∧ field.2.head? ≠ some ' ' ∧
      field.2.getLast?.all (fun c => ' ' < c))
    ⟨fun ⟨named, name, value, start, last⟩ =>
        ⟨named, by simpa using name, by simpa using value, start,
          by simpa [Option.all_eq_true] using last⟩,
      fun ⟨named, name, value, start, last⟩ =>
        ⟨named, by simpa using name, by simpa using value, start,
          by simpa [Option.all_eq_true] using last⟩⟩

/-! Requests. -/

structure Message where
  method : Text
  target : Text
  version : Text
  fields : List Field
  body : Text

namespace Message

def requestLine (message : Message) : Text :=
  message.method ++ ' ' :: (message.target ++ ' ' :: message.version)

def head (message : Message) : Text :=
  message.requestLine ++ crlf ++ (message.fields.flatMap Field.text ++ crlf)

def text (message : Message) : Text := message.head ++ message.body

/-- The value of the last field of a name, nothing if there is none. -/
def value (message : Message) (name : Text) : Text :=
  ((message.fields.filter fun field => Texts.sameLetters field.1 name).map Prod.snd).getLastD []

structure Valid (message : Message) : Prop where
  method : message.method ≠ [] ∧ ∀ c ∈ message.method, ' ' < c
  target : ∀ c ∈ message.target, ' ' < c
  version : message.version ≠ [] ∧ ∀ c ∈ message.version, ' ' < c
  fields : ∀ field ∈ message.fields, field.Valid

end Message

/-! Targets. -/

def unreserved (c : Char) : Bool := c.isAlphanum || c ∈ ['-', '.', '_', '~']

def hexChar (n : Nat) : Char := if n < 10 then Char.ofNat (48 + n) else Char.ofNat (55 + n)

/-- Every byte but those to keep as `%` and two hexadecimal digits. -/
def percentEncode (keep : Char → Bool) (text : Text) : Text :=
  text.flatMap fun c =>
    if keep c then [c] else ['%', hexChar (c.toNat / 16), hexChar (c.toNat % 16)]

def encodeParam (param : Text × Text) : Text :=
  percentEncode unreserved param.1 ++ '=' :: percentEncode unreserved param.2

def encodeQuery (params : List (Text × Text)) : Text :=
  List.intercalate ['&'] (params.map encodeParam)

def encodeTarget (path : Text) (params : List (Text × Text)) : Text :=
  percentEncode (fun c => unreserved c || c = '/') path ++
    if params = [] then [] else '?' :: encodeQuery params

/-! Replies. -/

structure Reply where
  minor : Nat
  status : Nat
  reason : Text
  fields : List Field
  body : Text
  deriving DecidableEq

def Reply.statusLine (reply : Reply) : Text :=
  protocol ++ Nat.toDigits 10 reply.minor ++ [' '] ++ Nat.toDigits 10 reply.status ++
    [' '] ++ reply.reason

def Reply.text (reply : Reply) : Text :=
  reply.statusLine ++ crlf ++ (reply.fields.flatMap Field.text ++ crlf ++ reply.body)

def takeLine : Text → Option (Text × Text)
  | '\r' :: '\n' :: rest => some ([], rest)
  | c :: rest => (takeLine rest).map fun pair => (c :: pair.1, pair.2)
  | [] => none

def readNumber (text : Text) : Nat × Text :=
  (Nat.ofDigitChars 10 (text.takeWhile Char.isDigit) 0, text.dropWhile Char.isDigit)

def readField (line : Text) : Field :=
  (line.takeWhile (· ≠ ':'), ((line.dropWhile (· ≠ ':')).drop 1).dropWhile (· = ' '))

/-- The fields up to the empty line, and what is after it. -/
def readFields : Nat → Text → Option (List Field × Text)
  | 0, _ => none
  | fuel + 1, text =>
      match takeLine text with
      | none => none
      | some ([], rest) => some ([], rest)
      | some (line, rest) =>
          (readFields fuel rest).map fun pair => (readField line :: pair.1, pair.2)

def contentLength (fields : List Field) : Option Nat :=
  (fields.find? fun field => Texts.sameLetters field.1 "Content-Length".toList).map fun field =>
    (readNumber field.2).1

/-- The minor version, the status and the reason. -/
def readStatusLine (line : Text) : Nat × Nat × Text :=
  let minor := readNumber (line.drop protocol.length)
  let status := readNumber (minor.2.drop 1)
  (minor.1, status.1, status.2.drop 1)

def readReply (text : Text) : Option Reply := do
  let head ← takeLine text
  let (minor, status, reason) := readStatusLine head.1
  let fields ← readFields head.2.length head.2
  let length ← contentLength fields.1
  if length ≤ fields.2.length then
    some ⟨minor, status, reason, fields.1, fields.2.take length⟩
  else none

structure Reply.Valid (reply : Reply) : Prop where
  reason : '\r' ∉ reply.reason
  fields : ∀ field ∈ reply.fields, field.Valid
  length : contentLength reply.fields = some reply.body.length

theorem takeLine_line {line : Text} (plain : '\r' ∉ line) (rest : Text) :
    takeLine (line ++ crlf ++ rest) = some (line, rest) := by
  induction line with
  | nil => rfl
  | cons c line ih =>
      obtain ⟨other, plain⟩ := not_or.mp (mt List.mem_cons.mpr plain)
      rw [List.cons_append, List.cons_append, takeLine, ih plain]
      · rfl
      · intro tail same
        exact absurd same.symm other

/-- A text that stops within the line or its end has no line. -/
theorem takeLine_part {line part rest : Text} (plain : '\r' ∉ line)
    (isPart : part <+: line ++ crlf ++ rest) :
    takeLine part = none ∨ ∃ later, part = line ++ crlf ++ later ∧ later <+: rest := by
  induction line generalizing part with
  | nil =>
      match part with
      | [] => exact .inl rfl
      | [c] => exact .inl (by
          rw [takeLine, takeLine, Option.map_none]
          intro tail _ impossible
          cases impossible)
      | c :: d :: later =>
          obtain ⟨first, isPart⟩ := List.cons_prefix_cons.mp isPart
          obtain ⟨second, isPart⟩ := List.cons_prefix_cons.mp isPart
          rw [first, second]
          exact .inr ⟨later, rfl, isPart⟩
  | cons c line ih =>
      obtain ⟨other, plain⟩ := not_or.mp (mt List.mem_cons.mpr plain)
      cases part with
      | nil => exact .inl rfl
      | cons d part =>
          obtain ⟨same, isPart⟩ := List.cons_prefix_cons.mp isPart
          rw [same]
          rcases ih plain isPart with failed | ⟨later, rfl, laterPart⟩
          · left
            rw [takeLine, failed]
            · rfl
            · intro tail same
              exact absurd same.symm other
          · exact .inr ⟨later, rfl, laterPart⟩

theorem takeWhile_append_cons {keep : Char → Bool} {front : Text} {c : Char}
    (all : ∀ d ∈ front, keep d = true) (stop : keep c = false) (rest : Text) :
    (front ++ c :: rest).takeWhile keep = front ∧
      (front ++ c :: rest).dropWhile keep = c :: rest := by
  rw [List.takeWhile_append_of_pos all, List.dropWhile_append_of_pos all]
  simp [stop]

theorem readNumber_digits (n : Nat) (rest : Text) :
    readNumber (Nat.toDigits 10 n ++ ' ' :: rest) = (n, ' ' :: rest) := by
  have digits : ∀ c ∈ Nat.toDigits 10 n, c.isDigit = true :=
    fun c member => Nat.isDigit_of_mem_toDigits (by omega) (by omega) member
  obtain ⟨taken, dropped⟩ := takeWhile_append_cons digits (c := ' ') rfl rest
  rw [readNumber, taken, dropped, Nat.ofDigitChars_ten_toDigits]

theorem readNumber_all_digits (n : Nat) : readNumber (Nat.toDigits 10 n) = (n, []) := by
  have digits : ∀ c ∈ Nat.toDigits 10 n, c.isDigit = true :=
    fun c member => Nat.isDigit_of_mem_toDigits (by omega) (by omega) member
  rw [readNumber, List.takeWhile_eq_self_iff.mpr digits, Nat.ofDigitChars_ten_toDigits,
    List.dropWhile_eq_nil_iff.mpr digits]

theorem Field.Valid.readField {field : Field} (valid : field.Valid) :
    readField (field.1 ++ colon ++ field.2) = field := by
  have name : ∀ c ∈ field.1, (decide (c ≠ ':')) = true :=
    fun c member => decide_eq_true (valid.name c member).2
  obtain ⟨taken, dropped⟩ := takeWhile_append_cons name (c := ':') (by decide) (' ' :: field.2)
  have value : field.2.dropWhile (· = ' ') = field.2 := by
    cases shape : field.2 with
    | nil => rfl
    | cons c rest =>
        have start := valid.start
        rw [shape, List.head?_cons] at start
        rw [List.dropWhile_cons_of_neg]
        simpa using fun same => start (congrArg some same)
  have shape : field.1 ++ colon ++ field.2 = field.1 ++ ':' :: ' ' :: field.2 := by
    simp [colon]
  rw [shape, Http.readField, taken, dropped]
  simp [value]

theorem Field.Valid.line {field : Field} (valid : field.Valid) :
    '\r' ∉ field.1 ++ colon ++ field.2 := by
  intro member
  simp only [List.mem_append] at member
  rcases member with (name | colon) | value
  · exact absurd (valid.name _ name).1 (by decide)
  · revert colon
    decide
  · exact (valid.value _ value).1 rfl

theorem fieldLine_ne_nil (field : Field) : field.1 ++ colon ++ field.2 ≠ [] := by simp [colon]

theorem readFields_fields {fields : List Field} (valid : ∀ field ∈ fields, field.Valid) {fuel : Nat}
    (enough : fields.length < fuel) (rest : Text) :
    readFields fuel (fields.flatMap Field.text ++ crlf ++ rest) = some (fields, rest) := by
  induction fields generalizing fuel with
  | nil =>
      obtain ⟨fuel, rfl⟩ : ∃ less, fuel = less + 1 := ⟨fuel - 1, by simp at enough; omega⟩
      rw [readFields]
      rfl
  | cons field fields ih =>
      obtain ⟨fuel, rfl⟩ : ∃ less, fuel = less + 1 := ⟨fuel - 1, by simp at enough; omega⟩
      have here := valid field List.mem_cons_self
      have later := ih (fun other member => valid other (List.mem_cons_of_mem _ member))
        (by simpa using enough : fields.length < fuel)
      have line := takeLine_line here.line (fields.flatMap Field.text ++ crlf ++ rest)
      have shape : (field :: fields).flatMap Field.text ++ crlf ++ rest =
          field.1 ++ colon ++ field.2 ++ crlf ++ (fields.flatMap Field.text ++ crlf ++ rest) := by
        simp [Field.text]
      rw [readFields, shape, line]
      obtain ⟨c, tail, start⟩ := List.exists_cons_of_ne_nil (fieldLine_ne_nil field)
      have same := here.readField
      rw [start] at same ⊢
      simp only [later, Option.map_some, same]

theorem readFields_part {fields : List Field} (valid : ∀ field ∈ fields, field.Valid)
    {part rest : Text} (isPart : part <+: fields.flatMap Field.text ++ crlf ++ rest) (fuel : Nat) :
    readFields fuel part = none ∨
      ∃ later, part = fields.flatMap Field.text ++ crlf ++ later ∧ later <+: rest := by
  induction fields generalizing part fuel with
  | nil =>
      cases fuel with
      | zero => exact .inl rfl
      | succ fuel =>
          rcases @takeLine_part [] _ _ List.not_mem_nil isPart with failed | found
          · exact .inl (by rw [readFields, failed])
          · exact .inr found
  | cons field fields ih =>
      cases fuel with
      | zero => exact .inl rfl
      | succ fuel =>
          have here := valid field List.mem_cons_self
          have shape (tail : Text) : (field :: fields).flatMap Field.text ++ crlf ++ tail =
              field.1 ++ colon ++ field.2 ++ crlf ++
                (fields.flatMap Field.text ++ crlf ++ tail) := by
            simp [Field.text]
          rw [shape] at isPart
          rcases takeLine_part here.line isPart with failed | ⟨later, rfl, laterPart⟩
          · exact .inl (by rw [readFields, failed])
          · have line := takeLine_line here.line later
            rcases ih (fun other member => valid other (List.mem_cons_of_mem _ member)) laterPart
              fuel with failed | ⟨last, rfl, lastPart⟩
            · left
              rw [readFields, line]
              obtain ⟨c, tail, start⟩ := List.exists_cons_of_ne_nil (fieldLine_ne_nil field)
              rw [start]
              simp only [failed, Option.map_none]
            · exact .inr ⟨last, (shape last).symm, lastPart⟩

theorem Reply.readStatusLine (reply : Reply) :
    readStatusLine reply.statusLine = (reply.minor, reply.status, reply.reason) := by
  have start : reply.statusLine.drop protocol.length = Nat.toDigits 10 reply.minor ++
      ' ' :: (Nat.toDigits 10 reply.status ++ ' ' :: reply.reason) := by
    rw [statusLine]
    simp only [List.append_assoc, List.drop_left, List.cons_append, List.nil_append]
  rw [Http.readStatusLine, start, readNumber_digits]
  dsimp only
  rw [List.drop_succ_cons, List.drop_zero, readNumber_digits, List.drop_succ_cons, List.drop_zero]

theorem Reply.Valid.statusLine {reply : Reply} (valid : reply.Valid) : '\r' ∉ reply.statusLine := by
  have digits (n : Nat) : '\r' ∉ Nat.toDigits 10 n := by
    intro member
    have digit := Nat.isDigit_of_mem_toDigits (by omega) (by omega) member
    revert digit
    decide
  intro member
  simp only [Reply.statusLine, List.mem_append] at member
  rcases member with ((((start | minor) | blank) | status) | blank) | reason
  · revert start
    decide
  · exact digits _ minor
  · revert blank
    decide
  · exact digits _ status
  · revert blank
    decide
  · exact valid.reason reason

theorem fields_length (fields : List Field) :
    fields.length ≤ (fields.flatMap Field.text).length := by
  induction fields with
  | nil => rfl
  | cons field fields ih =>
      simp only [List.flatMap_cons, List.length_append, List.length_cons, Field.text, crlf,
        List.length_nil]
      omega

theorem readReply_head {reply : Reply} (valid : reply.Valid) (body : Text) :
    readReply (reply.statusLine ++ crlf ++ (reply.fields.flatMap Field.text ++ crlf ++ body)) =
      if reply.body.length ≤ body.length then
        some { reply with body := body.take reply.body.length } else none := by
  have enough : reply.fields.length <
      (reply.fields.flatMap Field.text ++ crlf ++ body).length := by
    have counted := fields_length reply.fields
    simp only [crlf, List.length_append, List.length_cons, List.length_nil]
    omega
  rw [readReply, takeLine_line valid.statusLine, Option.bind_eq_bind, Option.bind_some,
    reply.readStatusLine]
  dsimp only
  rw [readFields_fields valid.fields enough, Option.bind_eq_bind, Option.bind_some, valid.length,
    Option.bind_eq_bind, Option.bind_some]

/-- A client that has a part of a reply takes it for the reply only when it is the whole. -/
theorem readReply_part {reply : Reply} (valid : reply.Valid) {part : Text}
    (isPart : part <+: reply.text) :
    readReply part = if part = reply.text then some reply else none := by
  by_cases whole : part = reply.text
  · rw [if_pos whole, whole, Reply.text, readReply_head valid, if_pos (le_refl _),
      List.take_length]
  rw [if_neg whole]
  rcases takeLine_part valid.statusLine isPart with failed | ⟨later, rfl, laterPart⟩
  · rw [readReply, failed]
    rfl
  rcases readFields_part valid.fields laterPart later.length with failed | ⟨body, rfl, bodyPart⟩
  · rw [readReply, takeLine_line valid.statusLine, Option.bind_eq_bind, Option.bind_some]
    dsimp only
    rw [failed, Option.bind_eq_bind, Option.bind_none]
  · have shorter : ¬reply.body.length ≤ body.length := by
      intro atLeast
      have same := bodyPart.eq_of_length_le atLeast
      exact whole (by rw [same, Reply.text])
    rw [readReply_head valid, if_neg shorter]

end Http

end ResistorCutter
