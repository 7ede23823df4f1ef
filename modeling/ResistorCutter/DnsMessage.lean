import Mathlib.Data.List.Basic

/-!
Messages of the domain name system: a decoder that follows compression pointers, and what it makes
of a name that is written out.
-/

namespace ResistorCutter

namespace Dns

abbrev Name := List (List UInt8)

structure Question where
  name : Name
  qtype : Nat
  qclass : Nat
  deriving DecidableEq

structure Record where
  name : Name
  rtype : Nat
  rclass : Nat
  ttl : Nat
  data : List UInt8
  deriving DecidableEq

structure Message where
  id : Nat
  response : Bool
  opcode : Nat
  aa : Bool
  tc : Bool
  rd : Bool
  ra : Bool
  z : Nat
  rcode : Nat
  questions : List Question
  answers : List Record
  authorities : List Record
  additionals : List Record
  deriving DecidableEq

variable (packet : List UInt8)

def word (position : Nat) : Option Nat := do
  let high ← packet[position]?
  let low ← packet[position + 1]?
  some (256 * high.toNat + low.toNat)

/-- A name takes at most `fuel` labels and pointers. -/
def decodeName : Nat → Nat → Option (Name × Nat)
  | 0, _ => none
  | fuel + 1, position => do
      let length ← packet[position]?
      if length = 0 then some ([], position + 1)
      else if length < 64 then do
        let label := (packet.drop (position + 1)).take length.toNat
        let rest ← decodeName fuel (position + 1 + length.toNat)
        some (label :: rest.1, rest.2)
      else if length ≥ 192 then do
        let low ← packet[position + 1]?
        let target ← decodeName fuel (256 * (length.toNat - 192) + low.toNat)
        some (target.1, position + 2)
      else none

def decodeQuestion (position : Nat) : Option (Question × Nat) := do
  let name ← decodeName packet 256 position
  let qtype ← word packet name.2
  let qclass ← word packet (name.2 + 2)
  some (⟨name.1, qtype, qclass⟩, name.2 + 4)

def decodeRecord (position : Nat) : Option (Record × Nat) := do
  let name ← decodeName packet 256 position
  let rtype ← word packet name.2
  let rclass ← word packet (name.2 + 2)
  let high ← word packet (name.2 + 4)
  let low ← word packet (name.2 + 6)
  let length ← word packet (name.2 + 8)
  let data := (packet.drop (name.2 + 10)).take length
  if data.length = length then
    some (⟨name.1, rtype, rclass, 65536 * high + low, data⟩, name.2 + 10 + length)
  else none

def decodeMany {α : Type} (decode : Nat → Option (α × Nat)) : Nat → Nat → Option (List α × Nat)
  | 0, position => some ([], position)
  | count + 1, position => do
      let first ← decode position
      let rest ← decodeMany decode count first.2
      some (first.1 :: rest.1, rest.2)

theorem decodeMany_zero {α : Type} (decode : Nat → Option (α × Nat)) (position : Nat) :
    decodeMany decode 0 position = some ([], position) := rfl

theorem decodeMany_one {α : Type} {decode : Nat → Option (α × Nat)} {position next : Nat} {a : α}
    (decoded : decode position = some (a, next)) :
    decodeMany decode 1 position = some ([a], next) := by
  rw [decodeMany, decoded]
  rfl

def decode : Option Message := do
  let id ← word packet 0
  let flags : UInt8 ← packet[2]?
  let codes : UInt8 ← packet[3]?
  let qdcount ← word packet 4
  let ancount ← word packet 6
  let nscount ← word packet 8
  let arcount ← word packet 10
  let questions ← decodeMany (decodeQuestion packet) qdcount 12
  let answers ← decodeMany (decodeRecord packet) ancount questions.2
  let authorities ← decodeMany (decodeRecord packet) nscount answers.2
  let additionals ← decodeMany (decodeRecord packet) arcount authorities.2
  some {
    id := id
    response := flags &&& 0x80 != 0
    opcode := ((flags >>> 3) &&& 0xF).toNat
    aa := flags &&& 0x4 != 0
    tc := flags &&& 0x2 != 0
    rd := flags &&& 0x1 != 0
    ra := codes &&& 0x80 != 0
    z := ((codes >>> 4) &&& 0x7).toNat
    rcode := (codes &&& 0xF).toNat
    questions := questions.1
    answers := answers.1
    authorities := authorities.1
    additionals := additionals.1 }

/-! Names that are written out. -/

def encodeLabel (label : List UInt8) : List UInt8 := UInt8.ofNat label.length :: label

def encodeName (name : Name) : List UInt8 := name.flatMap encodeLabel ++ [0]

structure ValidName (name : Name) : Prop where
  labels : ∀ label ∈ name, 0 < label.length ∧ label.length < 64
  short : (encodeName name).length ≤ 255

theorem encodeName_cons (label : List UInt8) (name : Name) :
    encodeName (label :: name) = encodeLabel label ++ encodeName name := by
  rw [encodeName, encodeName, List.flatMap_cons, List.append_assoc]

theorem length_encodeLabel (label : List UInt8) :
    (encodeLabel label).length = label.length + 1 := List.length_cons

theorem ValidName.tail {label : List UInt8} {name : Name} (valid : ValidName (label :: name)) :
    ValidName name := by
  refine ⟨fun other member => valid.labels other (List.mem_cons_of_mem _ member), ?_⟩
  have short := valid.short
  rw [encodeName_cons, List.length_append] at short
  omega

theorem ValidName.few {name : Name} (valid : ValidName name) :
    2 * name.length + 1 ≤ (encodeName name).length := by
  induction name with
  | nil => exact Nat.le_refl 1
  | cons label rest ih =>
      have more := ih valid.tail
      have nonempty := (valid.labels label List.mem_cons_self).1
      rw [encodeName_cons, List.length_append, length_encodeLabel, List.length_cons]
      omega

theorem decodeName_encodeName {name : Name} (labels : ∀ label ∈ name,
    0 < label.length ∧ label.length < 64) {fuel : Nat} (enough : name.length < fuel)
    (before after : List UInt8) :
    decodeName (before ++ encodeName name ++ after) fuel before.length =
      some (name, before.length + (encodeName name).length) := by
  induction name generalizing before fuel with
  | nil =>
      obtain ⟨fuel, rfl⟩ := Nat.exists_eq_succ_of_ne_zero (Nat.ne_of_gt enough)
      have here : (before ++ encodeName [] ++ after)[before.length]? = some 0 := by
        simp [encodeName]
      rw [decodeName, here]
      rfl
  | cons label rest ih =>
      obtain ⟨fuel, rfl⟩ := Nat.exists_eq_succ_of_ne_zero (Nat.ne_of_gt (Nat.zero_lt_of_lt enough))
      obtain ⟨positive, small⟩ := labels label List.mem_cons_self
      have more := ih (fun other member => labels other (List.mem_cons_of_mem _ member))
        (Nat.lt_of_succ_lt_succ enough) (before ++ encodeLabel label)
      have length : (UInt8.ofNat label.length).toNat = label.length := by
        rw [UInt8.toNat_ofNat', Nat.mod_eq_of_lt (by omega)]
      have head : UInt8.ofNat label.length ≠ 0 := by
        intro zero
        rw [zero] at length
        simp only [UInt8.reduceToNat] at length
        omega
      have under : UInt8.ofNat label.length < 64 := by
        rw [UInt8.lt_iff_toNat_lt, length]
        exact small
      have split : before ++ encodeName (label :: rest) ++ after =
          before ++ UInt8.ofNat label.length :: (label ++ (encodeName rest ++ after)) := by
        simp [encodeName_cons, encodeLabel]
      have again : before ++ encodeLabel label ++ encodeName rest ++ after =
          before ++ UInt8.ofNat label.length :: (label ++ (encodeName rest ++ after)) := by
        simp [encodeLabel]
      have start : (before ++ encodeLabel label).length = before.length + 1 + label.length := by
        rw [List.length_append, length_encodeLabel]
        omega
      rw [again, start] at more
      have text :
          ((before ++ UInt8.ofNat label.length :: (label ++ (encodeName rest ++ after))).drop
            (before.length + 1)).take label.length = label := by
        rw [List.drop_append, List.drop_of_length_le (by omega), List.nil_append,
          Nat.add_sub_cancel_left, List.drop_succ_cons, List.drop_zero, List.take_left']
        rfl
      rw [split, decodeName, List.getElem?_append_right (Nat.le_refl _), Nat.sub_self,
        List.getElem?_cons_zero]
      simp only [Option.bind_eq_bind, Option.bind_some, head, under, if_true, if_false, length,
        text, more, encodeName_cons, List.length_append, length_encodeLabel, Option.some.injEq,
        Prod.mk.injEq, true_and]
      omega

/-! Questions and records after such a name. -/

variable {packet}

theorem word_of_drop {position : Nat} {high low : UInt8} {rest : List UInt8}
    (bytes : packet.drop position = high :: low :: rest) :
    word packet position = some (256 * high.toNat + low.toNat) := by
  have place (k : Nat) : packet[position + k]? = (high :: low :: rest)[k]? := by
    rw [← bytes, List.getElem?_drop]
  have first := place 0
  rw [Nat.add_zero] at first
  rw [word, first, place 1]
  rfl

theorem decodeName_pointer {fuel position : Nat} {high low : UInt8} {rest : List UInt8}
    (bytes : packet.drop position = high :: low :: rest) (pointer : 192 ≤ high) :
    decodeName packet (fuel + 1) position =
      (decodeName packet fuel (256 * (high.toNat - 192) + low.toNat)).map fun target =>
        (target.1, position + 2) := by
  have place (k : Nat) : packet[position + k]? = (high :: low :: rest)[k]? := by
    rw [← bytes, List.getElem?_drop]
  have first := place 0
  rw [Nat.add_zero] at first
  have large := UInt8.le_iff_toNat_le.mp pointer
  simp only [UInt8.reduceToNat] at large
  have nonzero : high ≠ 0 := by
    rintro rfl
    simp only [UInt8.reduceToNat] at large
    omega
  have above : ¬high < 64 := by
    rw [UInt8.lt_iff_toNat_lt]
    simp only [UInt8.reduceToNat]
    omega
  rw [decodeName, first, place 1]
  simp only [List.getElem?_cons_zero, List.getElem?_cons_succ, Option.bind_eq_bind,
    Option.bind_some, nonzero, above, ge_iff_le, pointer, if_true, if_false]
  cases decodeName packet fuel (256 * (high.toNat - 192) + low.toNat) <;> rfl

theorem decodeQuestion_encodeName {name : Name} (valid : ValidName name) (before : List UInt8)
    (t t' c c' : UInt8) (after : List UInt8) :
    decodeQuestion (before ++ encodeName name ++ t :: t' :: c :: c' :: after) before.length =
      some (⟨name, 256 * t.toNat + t'.toNat, 256 * c.toNat + c'.toNat⟩,
        before.length + (encodeName name).length + 4) := by
  have few := valid.few
  have short := valid.short
  have named := decodeName_encodeName valid.labels (show name.length < 256 by omega) before
    (t :: t' :: c :: c' :: after)
  have rest : (before ++ encodeName name ++ t :: t' :: c :: c' :: after).drop
      (before.length + (encodeName name).length) = t :: t' :: c :: c' :: after := by
    rw [← List.length_append, List.drop_left]
  have second : (before ++ encodeName name ++ t :: t' :: c :: c' :: after).drop
      (before.length + (encodeName name).length + 2) = c :: c' :: after := by
    rw [← List.drop_drop, rest]
    rfl
  rw [decodeQuestion, named]
  simp only [Option.bind_eq_bind, Option.bind_some, word_of_drop rest, word_of_drop second]

/-- A record whose name is a pointer, as it is after that. -/
theorem decodeRecord_pointer {position : Nat} {high low : UInt8}
    {r r' c c' t1 t2 t3 t4 l l' : UInt8} {data after : List UInt8} {target : Name × Nat}
    (bytes : packet.drop position = high :: low :: r :: r' :: c :: c' :: t1 :: t2 :: t3 :: t4 ::
      l :: l' :: (data ++ after)) (pointer : 192 ≤ high)
    (named : decodeName packet 255 (256 * (high.toNat - 192) + low.toNat) = some target)
    (length : 256 * l.toNat + l'.toNat = data.length) :
    decodeRecord packet position = some (⟨target.1, 256 * r.toNat + r'.toNat,
      256 * c.toNat + c'.toNat, 65536 * (256 * t1.toNat + t2.toNat) + (256 * t3.toNat + t4.toNat),
      data⟩, position + 12 + data.length) := by
  have rest (k : Nat) : packet.drop (position + k) = (high :: low :: r :: r' :: c :: c' :: t1 ::
      t2 :: t3 :: t4 :: l :: l' :: (data ++ after)).drop k := by
    rw [← bytes, List.drop_drop]
  have content : (packet.drop (position + 2 + 10)).take data.length = data := by
    rw [Nat.add_assoc, rest 12]
    exact List.take_left' rfl
  rw [decodeRecord, decodeName_pointer bytes pointer, named]
  simp only [Option.map_some, Option.bind_eq_bind, Option.bind_some, word_of_drop (rest 2),
    word_of_drop (show packet.drop (position + 2 + 2) = _ from rest 4),
    word_of_drop (show packet.drop (position + 2 + 4) = _ from rest 6),
    word_of_drop (show packet.drop (position + 2 + 6) = _ from rest 8),
    word_of_drop (show packet.drop (position + 2 + 8) = _ from rest 10), length, content, if_true]

/-! Records that are counted and not there. -/

theorem decodeRecord_end {position : Nat} (beyond : packet.length ≤ position) :
    decodeRecord packet position = none := by
  have missing : packet[position]? = none := List.getElem?_eq_none beyond
  rw [decodeRecord, decodeName, missing]
  rfl

theorem decodeMany_end {count position : Nat} (beyond : packet.length ≤ position)
    (some_counted : count ≠ 0) : decodeMany (decodeRecord packet) count position = none := by
  obtain ⟨count, rfl⟩ := Nat.exists_eq_succ_of_ne_zero some_counted
  rw [decodeMany, decodeRecord_end beyond]
  rfl

end Dns

end ResistorCutter
