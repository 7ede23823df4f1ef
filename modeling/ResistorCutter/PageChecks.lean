import ResistorCutter.Runs
import ResistorCutter.Template
import ResistorCutter.WebCore

/-!
The status page after any calls of `Webpages`: the template with its four placeholders filled in at
once, from which the numbers can be read back.
-/

namespace ResistorCutter

namespace Pages

open Webpages

inductive Call
  | setRPerKit (rPerKit : Int)
  | setKits (kits : Int)
  | setRunning (running : Int)
  | setPercent (percent : Int)
  | getMainHTML

def call (pages : Pages) : Call → Pages
  | .setRPerKit rPerKit => { pages with webpages := pages.webpages.setRPerKit rPerKit }
  | .setKits kits => { pages with webpages := pages.webpages.setKits kits }
  | .setRunning running => { pages with webpages := pages.webpages.setRunning running }
  | .setPercent percent => { pages with webpages := pages.webpages.setPercent percent }
  | .getMainHTML => pages.fillMainHTML

def page (start : Pages) (calls : List Call) : List Char :=
  (Runs.run call start calls).fillMainHTML.htmlCopy

theorem page_eq (start : Pages) (calls : List Call) :
    page start calls = (Runs.run call start calls).webpages.getMainHTML := by
  rw [page, getMainHTML, fillMainHTML_htmlCopy, fillMainHTML_htmlCopy]

/-! The values in force after the calls, as the calls give them. -/

@[ext]
structure Shown where
  rPerKit : Int
  kits : Int
  running : Int
  deriving DecidableEq, Repr

def Call.rPerKit? : Call → Option Int
  | .setRPerKit rPerKit => some rPerKit
  | _ => none

def Call.kits? : Call → Option Int
  | .setKits kits => some kits
  | _ => none

def Call.running? : Call → Option Int
  | .setRunning running => some running
  | _ => none

/-- Each value is the last one set, or the constructor's. -/
def current (start : Pages) (calls : List Call) : Shown where
  rPerKit := (calls.filterMap Call.rPerKit?).getLastD start.webpages.rPerKit
  kits := (calls.filterMap Call.kits?).getLastD start.webpages.kits
  running := (calls.filterMap Call.running?).getLastD start.webpages.running

theorem run_field {field : Webpages → Int} {set? : Call → Option Int}
    (sets : ∀ pages next, field (call pages next).webpages =
      (set? next).getD (field pages.webpages)) (start : Pages) (calls : List Call) :
    field (Runs.run call start calls).webpages =
      (calls.filterMap set?).getLastD (field start.webpages) := by
  induction calls generalizing start with
  | nil => rfl
  | cons next rest ih =>
      rw [Runs.run_cons, ih, sets]
      cases found : set? next with
      | none => rw [List.filterMap_cons_none found, Option.getD_none]
      | some value => rw [List.filterMap_cons_some found, Option.getD_some, List.getLastD_cons]

theorem run_current (start : Pages) (calls : List Call) :
    (Runs.run call start calls).webpages.rPerKit = (current start calls).rPerKit ∧
      (Runs.run call start calls).webpages.kits = (current start calls).kits ∧
      (Runs.run call start calls).webpages.running = (current start calls).running := by
  refine ⟨run_field ?_ start calls, run_field ?_ start calls, run_field ?_ start calls⟩
  · rintro pages (rPerKit | kits | running | percent | _) <;> rfl
  · rintro pages (rPerKit | kits | running | percent | _) <;> rfl
  · rintro pages (rPerKit | kits | running | percent | _) <;> rfl

/-! The page as a template. -/

inductive Placeholder
  | rPerKit
  | kits
  | cuttingClass
  | cuttingText
  deriving DecidableEq, Repr

namespace Placeholder

def all : List Placeholder := [.rPerKit, .kits, .cuttingClass, .cuttingText]

def text : Placeholder → List Char
  | .rPerKit => "\x7b\x7brPerKit\x7d\x7d".toList
  | .kits => "\x7b\x7bkits\x7d\x7d".toList
  | .cuttingClass => "\x7b\x7bcuttingClass\x7d\x7d".toList
  | .cuttingText => "\x7b\x7bcuttingText\x7d\x7d".toList

/-- What the page is to show in each place. -/
def content (shown : Shown) : Placeholder → List Char
  | .rPerKit => decimal shown.rPerKit
  | .kits => decimal shown.kits
  | .cuttingClass =>
      match shown.running with
      | 1 => "cutting".toList
      | 0 => "notCutting".toList
      | _ => "paused".toList
  | .cuttingText =>
      match shown.running with
      | 1 => "Cutting".toList
      | 0 => "Not Cutting".toList
      | _ => "Paused".toList

theorem content_running {shown : Shown} (running : shown.running = 1) :
    content shown .cuttingClass = "cutting".toList ∧
      content shown .cuttingText = "Cutting".toList := by
  simp [content, running]

theorem content_idle {shown : Shown} (idle : shown.running = 0) :
    content shown .cuttingClass = "notCutting".toList ∧
      content shown .cuttingText = "Not Cutting".toList := by
  simp [content, idle]

theorem content_paused {shown : Shown} (notRunning : shown.running ≠ 1)
    (notIdle : shown.running ≠ 0) :
    content shown .cuttingClass = "paused".toList ∧
      content shown .cuttingText = "Paused".toList := by
  simp [content]

theorem cutting_content (shown : Shown) :
    Webpages.cuttingClass shown.running = content shown .cuttingClass ∧
      Webpages.cuttingText shown.running = content shown .cuttingText := by
  by_cases running : shown.running = 1
  · obtain ⟨style, text⟩ := content_running running
    rw [style, text, running]
    exact ⟨rfl, rfl⟩
  · by_cases idle : shown.running = 0
    · obtain ⟨style, text⟩ := content_idle idle
      rw [style, text, idle]
      exact ⟨rfl, rfl⟩
    · obtain ⟨style, text⟩ := content_paused running idle
      rw [style, text, Webpages.cuttingClass, Webpages.cuttingText, if_neg running, if_neg idle,
        if_neg running, if_neg idle]
      exact ⟨rfl, rfl⟩

theorem marked (hole : Placeholder) : ∃ body, hole.text = '\x7b' :: '\x7b' :: body := by
  cases hole <;> exact ⟨_, rfl⟩

/-- Nothing that is put in holds a brace, or a character that ends a hole. -/
theorem content_plain (shown : Shown) (hole : Placeholder) :
    ∀ c ∈ content shown hole, c ≠ '\x7b' ∧ c ∉ ['<', '"'] := by
  have number (n : Int) : ∀ c ∈ decimal n, c ≠ '\x7b' ∧ c ∉ ['<', '"'] := by
    intro c member
    have digit := digit_of_mem_decimal member
    simp only [List.mem_cons, List.not_mem_nil, or_false, not_or]
    refine ⟨?_, ?_, ?_⟩
    all_goals
      rintro rfl
      simp at digit
  cases hole with
  | rPerKit => exact number shown.rPerKit
  | kits => exact number shown.kits
  | cuttingClass =>
      simp only [content]
      split <;> simp
  | cuttingText =>
      simp only [content]
      split <;> simp

theorem content_quiet (shown : Shown) (hole : Placeholder) :
    Template.Quiet '\x7b' (content shown hole) :=
  Template.quiet_of_not_mem fun member => (content_plain shown hole _ member).1 rfl

end Placeholder

/-- The gaps of the template, each with the placeholder after it, and its end. -/
def cutHTML : List (List Char × Placeholder) × List Char :=
  Template.cut Placeholder.text Placeholder.all 0 mainHTML.toList

/-- Each placeholder occurs once, and in the order of the passes; no other placeholder begins, and
the characters after the holes tell where these end. -/
theorem cutHTML_spec : cutHTML.1.map Prod.snd = Placeholder.all ∧
    (∀ piece ∈ cutHTML.1, Template.Quiet '\x7b' piece.1) ∧ Template.Quiet '\x7b' cutHTML.2 ∧
    Template.Stopped ['<', '"'] cutHTML.1 cutHTML.2 := by
  rw [cutHTML, mainHTML, String.toList_ofList]
  decide +kernel

theorem assemble_cutHTML :
    Template.assemble Placeholder.text cutHTML.1 cutHTML.2 = mainHTML.toList := by
  have nonempty (hole : Placeholder) : hole.text ≠ [] := by
    obtain ⟨body, spelled⟩ := hole.marked
    simp [spelled]
  rw [cutHTML, Template.assemble_cut nonempty, List.drop_zero]

-- what follows uses these facts alone; no unification should start to cut
attribute [irreducible] cutHTML

theorem getMainHTML_assemble (webpages : Webpages) (shown : Shown)
    (rPerKit : webpages.rPerKit = shown.rPerKit) (kits : webpages.kits = shown.kits)
    (running : webpages.running = shown.running) :
    webpages.getMainHTML =
      Template.assemble (Placeholder.content shown) cutHTML.1 cutHTML.2 := by
  obtain ⟨holes, quietGaps, -, -⟩ := cutHTML_spec
  have start : Template.Quiet '\x7b' ([] : List Char) := trivial
  have passes := Template.foldl_replaceFirst Placeholder.marked (Placeholder.content_quiet shown)
    quietGaps start cutHTML.2
  rw [List.nil_append, List.nil_append, assemble_cutHTML, holes] at passes
  -- for any template: the literal is too long to be unfolded
  have spelled (template : List Char) :
      Template.replaceFirst "\x7b\x7bcuttingText\x7d\x7d".toList (cuttingText webpages.running)
        (Template.replaceFirst "\x7b\x7bcuttingClass\x7d\x7d".toList (cuttingClass webpages.running)
          (Template.replaceFirst "\x7b\x7bkits\x7d\x7d".toList (decimal webpages.kits)
            (Template.replaceFirst "\x7b\x7brPerKit\x7d\x7d".toList (decimal webpages.rPerKit)
              template))) =
        Placeholder.all.foldl (fun text hole =>
          Template.replaceFirst hole.text (Placeholder.content shown hole) text) template := by
    obtain ⟨style, text⟩ := Placeholder.cutting_content shown
    rw [rPerKit, kits, running, style, text]
    rfl
  rw [getMainHTML, fillMainHTML_htmlCopy]
  exact (spelled mainHTML.toList).trans passes

theorem page_assemble (start : Pages) (calls : List Call) :
    page start calls =
      Template.assemble (Placeholder.content (current start calls)) cutHTML.1 cutHTML.2 := by
  obtain ⟨rPerKit, kits, running⟩ := run_current start calls
  rw [page_eq, getMainHTML_assemble _ (current start calls) rPerKit kits running]

theorem cuttingClass_inj {running other : Int} (known : running ∈ [0, 1, 2])
    (known' : other ∈ [0, 1, 2]) (same : cuttingClass running = cuttingClass other) :
    running = other := by
  simp only [List.mem_cons, List.not_mem_nil, or_false] at known known'
  rcases known with rfl | rfl | rfl <;> rcases known' with rfl | rfl | rfl <;>
    first | rfl | simp [cuttingClass] at same

theorem content_inj {left right : Shown} (known : left.running ∈ [0, 1, 2])
    (known' : right.running ∈ [0, 1, 2])
    (same : ∀ hole, Placeholder.content left hole = Placeholder.content right hole) :
    left = right := by
  apply Shown.ext
  · exact decimal_injective (same .rPerKit)
  · exact decimal_injective (same .kits)
  · have style := same .cuttingClass
    rw [← (Placeholder.cutting_content left).1, ← (Placeholder.cutting_content right).1] at style
    exact cuttingClass_inj known known' style

theorem assemble_content_inj {left right : Shown} (known : left.running ∈ [0, 1, 2])
    (known' : right.running ∈ [0, 1, 2])
    (same : Template.assemble (Placeholder.content left) cutHTML.1 cutHTML.2 =
      Template.assemble (Placeholder.content right) cutHTML.1 cutHTML.2) : left = right := by
  obtain ⟨holes, -, -, stopped⟩ := cutHTML_spec
  have values := (Template.assemble_inj
    (fun hole c member => (Placeholder.content_plain left hole c member).2)
    (fun hole c member => (Placeholder.content_plain right hole c member).2) stopped).mp same
  apply content_inj known known'
  intro hole
  have listed : hole ∈ cutHTML.1.map Prod.snd := by
    rw [holes]
    cases hole <;> simp [Placeholder.all]
  obtain ⟨piece, member, rfl⟩ := List.mem_map.mp listed
  exact values piece member

/-- Whatever the object was constructed with, what the static string holds and what was called
before: the page is the template, cut at its four placeholders, each of which it holds once, and
put together again with the values in force, the status in words; no placeholder is left in it. It
depends on these values only, and shows them unambiguously. -/
theorem page_fills_template (start : Pages) (calls : List Call) :
    cutHTML.1.map Prod.snd = Placeholder.all ∧
    Template.assemble Placeholder.text cutHTML.1 cutHTML.2 = mainHTML.toList ∧
    page start calls =
      Template.assemble (Placeholder.content (current start calls)) cutHTML.1 cutHTML.2 ∧
    Placeholder.content (current start calls) .rPerKit = decimal (current start calls).rPerKit ∧
    Placeholder.content (current start calls) .kits = decimal (current start calls).kits ∧
    ((current start calls).running = 1 →
      Placeholder.content (current start calls) .cuttingClass = "cutting".toList ∧
        Placeholder.content (current start calls) .cuttingText = "Cutting".toList) ∧
    ((current start calls).running = 0 →
      Placeholder.content (current start calls) .cuttingClass = "notCutting".toList ∧
        Placeholder.content (current start calls) .cuttingText = "Not Cutting".toList) ∧
    ((current start calls).running ≠ 1 → (current start calls).running ≠ 0 →
      Placeholder.content (current start calls) .cuttingClass = "paused".toList ∧
        Placeholder.content (current start calls) .cuttingText = "Paused".toList) ∧
    (∀ hole : Placeholder, ¬hole.text <:+: page start calls) ∧
    (∀ other calls', current other calls' = current start calls →
      page other calls' = page start calls) ∧
    ((current start calls).running ∈ [0, 1, 2] → ∀ other calls',
      (current other calls').running ∈ [0, 1, 2] → page other calls' = page start calls →
        current other calls' = current start calls) := by
  obtain ⟨holes, quietGaps, quietTail, -⟩ := cutHTML_spec
  refine ⟨holes, assemble_cutHTML, page_assemble start calls, rfl, rfl,
    Placeholder.content_running, Placeholder.content_idle, Placeholder.content_paused, ?_, ?_, ?_⟩
  · intro hole left
    have quiet := Template.assemble_quiet (Placeholder.content_quiet (current start calls))
      quietGaps quietTail
    obtain ⟨body, spelled⟩ := hole.marked
    rw [page_assemble, spelled] at left
    exact quiet.not_infix body left
  · intro other calls' same
    rw [page_assemble, page_assemble, same]
  · intro known other calls' known' same
    rw [page_assemble, page_assemble] at same
    exact assemble_content_inj known' known same

end Pages

end ResistorCutter
