import Mathlib.Data.List.Infix

/-!
Texts that are compared without regard to case, and templates with placeholders. A template is cut
at its placeholders into gaps and holes, and put together again with other texts in all holes at
once; a chain of find-and-replace passes does the same if what it puts in looks like no placeholder.
-/

namespace Texts

/-- The texts differ at most in the case of their letters. -/
def sameLetters (first second : List Char) : Bool :=
  first.map Char.toLower == second.map Char.toLower

theorem sameLetters_trans {first second third : List Char}
    (left : sameLetters first second = true) (right : sameLetters first third = true) :
    sameLetters second third = true := by
  simp only [sameLetters, beq_iff_eq] at left right ⊢
  rw [← left, right]

end Texts

namespace Template

variable {α κ : Type*} [DecidableEq α]

/-- The first occurrence only; a text without the pattern stays as it is. -/
def replaceFirst (pattern value : List α) : List α → List α
  | [] => []
  | c :: rest =>
      if pattern.isPrefixOf (c :: rest) then value ++ (c :: rest).drop pattern.length
      else c :: replaceFirst pattern value rest

theorem replaceFirst_length (pattern value text : List α) :
    (replaceFirst pattern value text).length ≤ text.length + value.length := by
  induction text with
  | nil => simp [replaceFirst]
  | cons c rest ih =>
      rw [replaceFirst]
      split
      · simp only [List.length_append, List.length_drop]
        omega
      · simp only [List.length_cons]
        omega

/-- Gaps and holes in turn, and what is left after the last hole. -/
def assemble (text : κ → List α) : List (List α × κ) → List α → List α
  | [], tail => tail
  | piece :: rest, tail => piece.1 ++ (text piece.2 ++ assemble text rest tail)

def extend (c : α) : List (List α × κ) × List α → List (List α × κ) × List α
  | ([], tail) => ([], c :: tail)
  | (piece :: rest, tail) => ((c :: piece.1, piece.2) :: rest, tail)

/-- The number counts the characters left of the placeholder found last. -/
def cut (pattern : κ → List α) (holes : List κ) : Nat → List α → List (List α × κ) × List α
  | _, [] => ([], [])
  | skip + 1, _ :: rest => cut pattern holes skip rest
  | 0, c :: rest =>
      match holes.find? fun hole => (pattern hole).isPrefixOf (c :: rest) with
      | some hole =>
          let (pieces, tail) := cut pattern holes ((pattern hole).length - 1) rest
          (([], hole) :: pieces, tail)
      | none => extend c (cut pattern holes 0 rest)

/-! Cutting loses nothing. -/

omit [DecidableEq α] in
theorem assemble_extend (text : κ → List α) (c : α) (pieces : List (List α × κ) × List α) :
    assemble text (extend c pieces).1 (extend c pieces).2 =
      c :: assemble text pieces.1 pieces.2 := by
  obtain ⟨_ | ⟨piece, rest⟩, tail⟩ := pieces <;> rfl

theorem assemble_cut {pattern : κ → List α} (nonempty : ∀ hole, pattern hole ≠ [])
    (holes : List κ) (skip : Nat) (text : List α) :
    assemble pattern (cut pattern holes skip text).1 (cut pattern holes skip text).2 =
      text.drop skip := by
  induction text generalizing skip with
  | nil => cases skip <;> rfl
  | cons c rest ih =>
      cases skip with
      | succ skip => exact ih skip
      | zero =>
          rw [cut]
          split
          · rename_i hole found
            have matched := List.find?_some found
            obtain ⟨after, whole⟩ := List.isPrefixOf_iff_prefix.mp matched
            obtain ⟨head, body, spelled⟩ := List.exists_cons_of_ne_nil (nonempty hole)
            simp only [assemble, List.nil_append, ih]
            rw [spelled, List.cons_append, List.cons.injEq] at whole
            rw [spelled, List.cons_append, ← whole.1, ← whole.2]
            simp
          · rw [assemble_extend, ih]
            rfl

/-! Texts in which no placeholder begins, if placeholders begin with two marks. -/

def Quiet (mark : α) : List α → Prop
  | [] => True
  | [c] => c ≠ mark
  | c :: next :: rest => (c = mark → next ≠ mark) ∧ Quiet mark (next :: rest)

def decidableQuiet (mark : α) : ∀ text, Decidable (Quiet mark text)
  | [] => isTrue trivial
  | [c] => inferInstanceAs (Decidable (c ≠ mark))
  | c :: next :: rest =>
      have := decidableQuiet mark (next :: rest)
      inferInstanceAs (Decidable ((c = mark → next ≠ mark) ∧ _))

instance (mark : α) (text : List α) : Decidable (Quiet mark text) := decidableQuiet mark text

section Quiet

omit [DecidableEq α]

variable {mark : α}

theorem Quiet.tail {c : α} {rest : List α} (quiet : Quiet mark (c :: rest)) : Quiet mark rest := by
  cases rest with
  | nil => trivial
  | cons next rest => exact quiet.2

theorem quiet_of_not_mem {text : List α} (absent : mark ∉ text) : Quiet mark text := by
  induction text with
  | nil => trivial
  | cons c rest ih =>
      simp only [List.mem_cons, not_or] at absent
      cases rest with
      | nil => exact fun same => absent.1 same.symm
      | cons next rest => exact ⟨fun same => (absent.1 same.symm).elim, ih absent.2⟩

theorem Quiet.append {first second : List α} (quietFirst : Quiet mark first)
    (quietSecond : Quiet mark second) : Quiet mark (first ++ second) := by
  induction first with
  | nil => exact quietSecond
  | cons c rest ih =>
      have later := ih quietFirst.tail
      cases rest with
      | nil =>
          cases second with
          | nil => exact quietFirst
          | cons next second => exact ⟨fun same => (quietFirst same).elim, later⟩
      | cons next rest => exact ⟨quietFirst.1, later⟩

theorem Quiet.not_prefix {c : α} {rest : List α} (quiet : Quiet mark (c :: rest))
    (body after : List α) : ¬mark :: mark :: body <+: c :: rest ++ after := by
  intro begins
  rw [List.cons_append, List.cons_prefix_cons] at begins
  obtain ⟨rfl, begins⟩ := begins
  cases rest with
  | nil => exact quiet rfl
  | cons next rest =>
      rw [List.cons_append, List.cons_prefix_cons] at begins
      exact quiet.1 rfl begins.1.symm

theorem Quiet.not_infix {text : List α} (quiet : Quiet mark text) (body : List α) :
    ¬mark :: mark :: body <:+: text := by
  induction text with
  | nil => simp
  | cons c rest ih =>
      rw [List.infix_cons_iff, not_or]
      have here := quiet.not_prefix body []
      rw [List.append_nil] at here
      exact ⟨here, ih quiet.tail⟩

end Quiet

/-! One pass after the other. -/

theorem replaceFirst_append {mark : α} {front : List α} (quiet : Quiet mark front)
    (body value rest : List α) :
    replaceFirst (mark :: mark :: body) value (front ++ rest) =
      front ++ replaceFirst (mark :: mark :: body) value rest := by
  induction front with
  | nil => rfl
  | cons c front ih =>
      have apart : ¬(mark :: mark :: body).isPrefixOf (c :: (front ++ rest)) := by
        rw [List.isPrefixOf_iff_prefix]
        exact quiet.not_prefix body rest
      rw [List.cons_append, replaceFirst, if_neg apart, ih quiet.tail, List.cons_append]

theorem replaceFirst_pattern (c : α) (body value rest : List α) :
    replaceFirst (c :: body) value (c :: body ++ rest) = value ++ rest := by
  have begins : (c :: body).isPrefixOf (c :: (body ++ rest)) := by
    rw [List.isPrefixOf_iff_prefix]
    exact List.prefix_append (c :: body) rest
  rw [List.cons_append, replaceFirst, if_pos begins, ← List.cons_append, List.drop_left]

/-- Find-and-replace passes in the order of the holes fill the template: what stands before the
hole that is looked for, filled in earlier or not, is quiet. -/
theorem foldl_replaceFirst {mark : α} {pattern value : κ → List α}
    (marked : ∀ hole, ∃ body, pattern hole = mark :: mark :: body)
    (quietValue : ∀ hole, Quiet mark (value hole)) {pieces : List (List α × κ)}
    (quietGaps : ∀ piece ∈ pieces, Quiet mark piece.1) {front : List α}
    (quietFront : Quiet mark front) (tail : List α) :
    (pieces.map Prod.snd).foldl (fun text hole => replaceFirst (pattern hole) (value hole) text)
        (front ++ assemble pattern pieces tail) = front ++ assemble value pieces tail := by
  induction pieces generalizing front with
  | nil => rfl
  | cons piece rest ih =>
      obtain ⟨gap, hole⟩ := piece
      have quietGap : Quiet mark gap := quietGaps (gap, hole) (by simp)
      obtain ⟨body, spelled⟩ := marked hole
      have replaced : replaceFirst (pattern hole) (value hole)
          (front ++ assemble pattern ((gap, hole) :: rest) tail) =
          (front ++ gap ++ value hole) ++ assemble pattern rest tail := by
        rw [assemble, spelled, replaceFirst_append quietFront, replaceFirst_append quietGap,
          replaceFirst_pattern, List.append_assoc, List.append_assoc]
      rw [List.map_cons, List.foldl_cons, replaced,
        ih (fun later member => quietGaps later (by simp [member]))
          ((quietFront.append quietGap).append (quietValue hole)),
        assemble, List.append_assoc, List.append_assoc]

omit [DecidableEq α] in
theorem assemble_quiet {mark : α} {value : κ → List α}
    (quietValue : ∀ hole, Quiet mark (value hole)) {pieces : List (List α × κ)}
    (quietGaps : ∀ piece ∈ pieces, Quiet mark piece.1) {tail : List α}
    (quietTail : Quiet mark tail) : Quiet mark (assemble value pieces tail) := by
  induction pieces with
  | nil => exact quietTail
  | cons piece rest ih =>
      have later := ih fun next member => quietGaps next (by simp [member])
      exact (quietGaps piece (by simp)).append ((quietValue piece.2).append later)

/-! Reading a filled template: a hole ends at the first character that no value can hold. -/

section Reading

omit [DecidableEq α]

variable {stops : List α}

def Begins (stops : List α) : List α → Prop
  | [] => False
  | c :: _ => c ∈ stops

theorem Begins.append {text : List α} (begins : Begins stops text) (rest : List α) :
    Begins stops (text ++ rest) := by
  cases text with
  | nil => exact begins.elim
  | cons c body => exact begins

theorem append_inj_of_begins {first second rest other : List α}
    (plain : ∀ c ∈ first, c ∉ stops) (plain' : ∀ c ∈ second, c ∉ stops)
    (begins : Begins stops rest) (begins' : Begins stops other)
    (same : first ++ rest = second ++ other) : first = second ∧ rest = other := by
  induction first generalizing second with
  | nil =>
      cases second with
      | nil => exact ⟨rfl, same⟩
      | cons d second =>
          rw [List.nil_append, List.cons_append] at same
          subst same
          exact (plain' d (by simp) begins).elim
  | cons c first ih =>
      cases second with
      | nil =>
          rw [List.nil_append, List.cons_append] at same
          subst same
          exact (plain c (by simp) begins').elim
      | cons d second =>
          rw [List.cons_append, List.cons_append, List.cons.injEq] at same
          obtain ⟨rfl, same⟩ := same
          obtain ⟨equal, after⟩ := ih (fun c member => plain c (by simp [member]))
            (fun c member => plain' c (by simp [member])) same
          exact ⟨by rw [equal], after⟩

def Stopped (stops : List α) : List (List α × κ) → List α → Prop
  | [], _ => True
  | [_], tail => Begins stops tail
  | _ :: next :: rest, tail => Begins stops next.1 ∧ Stopped stops (next :: rest) tail

theorem Stopped.begins {piece : List α × κ} {rest : List (List α × κ)} {tail : List α}
    (stopped : Stopped stops (piece :: rest) tail) (value : κ → List α) :
    Begins stops (assemble value rest tail) := by
  cases rest with
  | nil => exact stopped
  | cons next rest => exact stopped.1.append _

theorem Stopped.tail {piece : List α × κ} {rest : List (List α × κ)} {tail : List α}
    (stopped : Stopped stops (piece :: rest) tail) : Stopped stops rest tail := by
  cases rest with
  | nil => trivial
  | cons next rest => exact stopped.2

theorem assemble_inj {value other : κ → List α} (plain : ∀ hole, ∀ c ∈ value hole, c ∉ stops)
    (plain' : ∀ hole, ∀ c ∈ other hole, c ∉ stops) {pieces : List (List α × κ)} {tail : List α}
    (stopped : Stopped stops pieces tail) :
    assemble value pieces tail = assemble other pieces tail ↔
      ∀ piece ∈ pieces, value piece.2 = other piece.2 := by
  induction pieces with
  | nil => simp [assemble]
  | cons piece rest ih =>
      rw [List.forall_mem_cons, ← ih stopped.tail, assemble, assemble, List.append_cancel_left_eq]
      constructor
      · intro same
        exact append_inj_of_begins (plain piece.2) (plain' piece.2) (stopped.begins value)
          (stopped.begins other) same
      · rintro ⟨equal, after⟩
        rw [equal, after]

end Reading

instance (stops : List α) : (text : List α) → Decidable (Begins stops text)
  | [] => isFalse id
  | c :: _ => inferInstanceAs (Decidable (c ∈ stops))

def decidableStopped (stops : List α) :
    ∀ (pieces : List (List α × κ)) (tail : List α), Decidable (Stopped stops pieces tail)
  | [], _ => isTrue trivial
  | [_], tail => inferInstanceAs (Decidable (Begins stops tail))
  | _ :: next :: rest, tail =>
      have := decidableStopped stops (next :: rest) tail
      inferInstanceAs (Decidable (Begins stops next.1 ∧ _))

instance (stops : List α) (pieces : List (List α × κ)) (tail : List α) :
    Decidable (Stopped stops pieces tail) := decidableStopped stops pieces tail

end Template
