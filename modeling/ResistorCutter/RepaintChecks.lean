import ResistorCutter.DisplayChecks
import ResistorCutter.Runs

/-!
The painters of `Display.h` as functions of the picture. Each of them clears an area of its own and
stays in it, so that a part of the screen can be painted anew without the rest.
-/

namespace ResistorCutter

open Raster

namespace Display

open Lcd

/-! From any display with text of size 1 a painter does the same to the picture. -/

def plain (font : Font) : Pen := ⟨font, 0, 0, 0, 0, 1, 1⟩

def drawn (font : Font) (paint : Display → Display) (picture : Framebuffer) : Framebuffer :=
  (paint ⟨plain font, picture⟩).picture

abbrev Drawn (font : Font) (paint : Display → Display) : Prop :=
  Paints Pen.face (font, 1, 1) paint (drawn font paint)

theorem drawn_of_congr (font : Font) {paint : Display → Display}
    (faces : ∀ display, (paint display).pen.face = display.pen.face)
    (congr : ∀ {first second : Display}, Matches first second → paint first = paint second) :
    Drawn font paint := by
  constructor
  · intro display shows
    rw [faces, shows]
  · intro display shows
    have matched : Matches display ⟨plain font, display.picture⟩ := ⟨shows, rfl⟩
    rw [congr matched]
    rfl

/-! The two lines of settings. -/

def line (label : List Char) (labelColumn field top column : Int) (number : Int)
    (highlighted running : Bool) (display : Display) : Display :=
  print (decimal number) (setCursor column (top + 2) (printField field top highlighted running
    (print label (setCursor labelColumn (top + 2) (setTextColor BLACK BLACK
      (fillRect 0 top 84 11 WHITE display))))))

theorem printLn1_eq (number : Int) (highlighted running : Bool) :
    printLn1 number highlighted running =
      line "R per kit:".toList 4 64 0 (if number < 10 then 69 else 65) number highlighted
        running := by
  funext display
  simp only [printLn1, line]
  split <;> rfl

theorem printLn2_eq (number : Int) (highlighted running : Bool) :
    printLn2 number highlighted running =
      line "Kits:".toList 20 50 12 (if number < 10 then 55 else 52) number highlighted
        running := by
  funext display
  simp only [printLn2, line]
  split <;> rfl

variable {pen : Pen} {font : Font}

theorem drawn_line (label : List Char) (labelColumn field top column : Int) (number : Int)
    (highlighted running : Bool) :
    Drawn font (line label labelColumn field top column number highlighted running) := by
  apply drawn_of_congr
  · intro display
    simp [line]
  · intro first second same
    simp only [line, (same.fillRect 0 top 84 11 WHITE).setCursor_setTextColor]

def box (x y w h : Int) (highlighted : Bool) (display : Display) : Display :=
  if highlighted then setTextColor WHITE BLACK (fillRect x y w h BLACK display)
  else setTextColor BLACK BLACK (drawRect x y w h BLACK display)

theorem draws_box (x y w h : Int) (highlighted : Bool) {area : Area LCDWIDTH LCDHEIGHT}
    (small : pen.Small) (wide : 0 < w) (high : 0 < h)
    (inside : ∀ px py, rect x y w h px py → area px py) :
    ∃ after : Pen, after.Small ∧ Draws area pen (box x y w h highlighted) after := by
  cases highlighted with
  | true =>
      have filled : Draws area pen (setTextColor WHITE BLACK ∘ fillRect x y w h BLACK)
          { pen with textcolor := WHITE, textbgcolor := BLACK } :=
        (draws_fillRect x y w h BLACK inside).comp (draws_setTextColor WHITE BLACK)
      exact ⟨{ pen with textcolor := WHITE, textbgcolor := BLACK }, small, filled⟩
  | false =>
      have framed : Draws area pen (setTextColor BLACK BLACK ∘ drawRect x y w h BLACK)
          { pen with textcolor := BLACK, textbgcolor := BLACK } :=
        (draws_drawRect x y w h BLACK wide high inside).comp (draws_setTextColor BLACK BLACK)
      exact ⟨{ pen with textcolor := BLACK, textbgcolor := BLACK }, small, framed⟩

theorem draws_printField (x y : Int) (highlighted running : Bool) {area : Area LCDWIDTH LCDHEIGHT}
    (small : pen.Small) (inside : ∀ px py, rect x y 15 11 px py → area px py) :
    ∃ after : Pen, after.Small ∧ Draws area pen (printField x y highlighted running) after := by
  cases running with
  | true => exact ⟨pen, small, Draws.of_pen fun _ => rfl⟩
  | false => exact draws_box x y 15 11 highlighted small (by decide) (by decide) inside

theorem overwrites_cleared {area : Area LCDWIDTH LCDHEIGHT} {x y w h : Int} {color : Color}
    {paint rest : Display → Display} {after : Pen} (band : rect x y w h = area)
    (draws : Draws area (plain font) rest after)
    (same : ∀ display, paint display = rest (fillRect x y w h color display)) :
    Overwrites area (drawn font paint) := by
  have cleared := fill_overwrites (w := LCDWIDTH) (h := LCDHEIGHT) x y w h (color != 0)
  rw [band] at cleared
  rw [funext same]
  exact draws.confined.comp_overwrites cleared

theorem rect_rows (top : Int) :
    (rect 0 top 84 11 : Area LCDWIDTH LCDHEIGHT) = rows top (top + 11) := by
  funext px py
  have inside := px.isLt
  simp only [rect, rows, eq_iff_iff, LCDWIDTH] at inside ⊢
  omega

theorem overwrites_line (label : List Char) (labelColumn field top column : Int) (number : Int)
    (highlighted running : Bool) (plain : ∀ c ∈ label, c ≠ '\n' ∧ c ≠ '\r')
    (labelFits : labelColumn + 6 * label.length ≤ 84)
    (fits : column + 6 * (decimal number).length ≤ 84) :
    Overwrites (rows top (top + 11))
      (drawn font (line label labelColumn field top column number highlighted running)) := by
  have band (x y width : Int) (low : top ≤ y) (high : y + 8 ≤ top + 11)
      (px : Fin LCDWIDTH) (py : Fin LCDHEIGHT) (member : rect x y width 8 px py) :
      rows top (top + 11) px py := by
    simp only [rect, rows] at member ⊢
    omega
  let titled : Pen := { Display.plain font with
    cursor_x := labelColumn + 6 * label.length, cursor_y := top + 2, textcolor := BLACK,
    textbgcolor := BLACK }
  have title : Draws (rows top (top + 11)) (Display.plain font)
      (print label ∘ setCursor labelColumn (top + 2) ∘ setTextColor BLACK BLACK) titled :=
    draws_text _ label labelColumn (top + 2) BLACK BLACK rfl plain labelFits
      (band _ _ _ (by omega) (by omega))
  obtain ⟨after, small, input⟩ : ∃ after : Pen, after.Small ∧
      Draws (rows top (top + 11)) titled (printField field top highlighted running) after := by
    refine draws_printField field top highlighted running rfl fun px py member => ?_
    simp only [rect, rows] at member ⊢
    omega
  have value := draws_setCursor_print after (decimal number) column (top + 2) small
    (decimal_plain number) fits (band _ _ _ (by omega) (by omega))
  exact overwrites_cleared (rect_rows top) ((title.comp input).comp value) fun _ => rfl

theorem overwrites_printLn1 (number : Int) (highlighted running : Bool)
    (range : 1 ≤ number ∧ number ≤ 10) :
    Overwrites (rows 0 11) (drawn font (printLn1 number highlighted running)) := by
  rw [printLn1_eq]
  apply overwrites_line
  · simp
  · simp
  · split
    · have length := decimal_length number 1 (by omega) (by omega) (by decide)
      omega
    · have length := decimal_length number 2 (by omega) (by omega) (by decide)
      omega

theorem overwrites_printLn2 (number : Int) (highlighted running : Bool)
    (range : 1 ≤ number ∧ number ≤ 50) :
    Overwrites (rows 12 23) (drawn font (printLn2 number highlighted running)) := by
  rw [printLn2_eq]
  have length := decimal_length number 2 (by omega) (by omega) (by decide)
  apply overwrites_line
  · simp
  · simp
  · split
    · omega
    · omega

/-! The progress bar and the button. -/

theorem decimal_percentage (percent : Int) (lower : -1 ≤ percent) (upper : percent ≤ 100) :
    (decimal percent).length ≤ 3 := by
  by_cases negative : percent = -1
  · subst negative
    decide
  · exact decimal_length percent 3 (by omega) (by omega) (by decide)

theorem draws_paintBar (percent : Int) (lower : -1 ≤ percent) (upper : percent ≤ 100) :
    ∃ after, Draws (rows 24 35) (plain font) (paintBar percent) after := by
  have frame : Draws (rows 24 35) (plain font) (drawRect 4 24 77 11 BLACK) (plain font) := by
    refine draws_drawRect 4 24 77 11 BLACK (by decide) (by decide) fun px py member => ?_
    simp only [rect, rows] at member ⊢
    omega
  have column : progressColumn percent ≤ 36 := by
    simp only [progressColumn]
    split
    · omega
    · split <;> omega
  have length := decimal_percentage percent lower upper
  have signed : ∀ c ∈ decimal percent ++ ['%'], c ≠ '\n' ∧ c ≠ '\r' := by
    intro c member
    rcases List.mem_append.mp member with digit | sign
    · exact decimal_plain percent c digit
    · obtain rfl := List.mem_singleton.mp sign
      decide
  have number := draws_text (plain font) (decimal percent ++ ['%']) (progressColumn percent) 26
    BLACK BLACK rfl signed (by simp only [List.length_append, List.length_singleton]; omega)
    (show ∀ px py, _ → rows 24 35 px py from fun px py member => by
      simp only [rect, rows] at member ⊢
      omega)
  refine ⟨_, (frame.comp number).comp (draws_invertRect 5 25 _ 9 fun px py member => ?_)⟩
  simp only [rect, rows] at member ⊢
  omega

theorem overwrites_paintProgress (percent : Int) (lower : -1 ≤ percent) :
    Overwrites (rows 24 35) (drawn font (paintProgress percent)) := by
  obtain ⟨after, bar⟩ : ∃ after, Draws (rows 24 35) (plain font)
      (paintBar (if percent > 100 then 100 else percent)) after := by
    apply draws_paintBar
    · split <;> omega
    · split <;> omega
  exact overwrites_cleared (rect_rows 24) bar fun display => paintProgress_eq display percent

theorem drawn_paintProgress (percent : Int) : Drawn font (paintProgress percent) :=
  drawn_of_congr font (fun display => face_paintProgress display percent)
    fun same => paintProgress_congr percent same

abbrev buttonArea : Area LCDWIDTH LCDHEIGHT := rect 25 37 33 11

theorem printButton_eq (highlighted running : Bool) (display : Display) :
    printButton highlighted running display =
      print (if running then "Stop" else "Start").toList (setCursor (if running then 30 else 27) 39
        (box 25 37 33 11 highlighted (fillRect 25 37 33 11 WHITE display))) := by
  cases running <;> rfl

theorem overwrites_printButton (highlighted running : Bool) :
    Overwrites buttonArea (drawn font (printButton highlighted running)) := by
  obtain ⟨after, small, frame⟩ : ∃ after : Pen, after.Small ∧
      Draws buttonArea (plain font) (box 25 37 33 11 highlighted) after :=
    draws_box 25 37 33 11 highlighted rfl (by decide) (by decide) fun px py member => member
  obtain ⟨final, label⟩ : ∃ final, Draws buttonArea after
      (print (if running then "Stop" else "Start").toList ∘
        setCursor (if running then 30 else 27) 39) final := by
    refine ⟨_, draws_setCursor_print after _ _ 39 small ?_ ?_ fun px py member => ?_⟩
    · cases running <;> simp
    · cases running <;> simp
    · cases running <;>
      · simp [buttonArea, rect] at member ⊢
        omega
  exact overwrites_cleared rfl (frame.comp label) (printButton_eq highlighted running)

theorem drawn_printButton (highlighted running : Bool) :
    Drawn font (printButton highlighted running) :=
  drawn_of_congr font (fun display => face_printButton display highlighted running)
    fun same => printButton_congr highlighted running same

theorem drawn_printLn1 (number : Int) (highlighted running : Bool) :
    Drawn font (printLn1 number highlighted running) := by
  rw [printLn1_eq]
  exact drawn_line _ _ _ _ _ number highlighted running

theorem drawn_printLn2 (number : Int) (highlighted running : Bool) :
    Drawn font (printLn2 number highlighted running) := by
  rw [printLn2_eq]
  exact drawn_line _ _ _ _ _ number highlighted running

theorem drawn_printProgress (percent : Int) (running : Bool) :
    Drawn font (printProgress percent running) := by
  cases running with
  | true => exact drawn_paintProgress percent
  | false => exact ⟨fun _ shows => shows, fun _ _ => rfl⟩

theorem confined_printProgress (percent : Int) (running : Bool) (lower : -1 ≤ percent) :
    Confined (rows 24 35) (drawn font (printProgress percent running)) := by
  cases running with
  | true => exact (overwrites_paintProgress percent lower).confined
  | false => exact Confined.id _

/-! The full repaint is the four painters on a blank picture. -/

def full (font : Font) (highlightNum rPerKit kits percent : Int) (running : Bool) : Framebuffer :=
  drawn font (printButton (decide (highlightNum = 2)) running)
    (drawn font (printProgress percent running)
      (drawn font (printLn2 kits (decide (highlightNum = 1)) running)
        (drawn font (printLn1 rPerKit (decide (highlightNum = 0)) running) fun _ _ => false)))

variable {display : Display} (highlightNum rPerKit kits percent running : Int)

theorem updateAll_picture (shows : display.pen.face = (font, 1, 1)) (unpaused : running ≠ 2) :
    (updateAll highlightNum rPerKit kits percent running display).picture =
      full font highlightNum rPerKit kits percent (decide (running ≠ 0)) := by
  rw [updateAll, if_neg unpaused]
  exact ((drawn_printButton _ _).comp ((drawn_printProgress _ _).comp
    ((drawn_printLn2 _ _ _).comp (drawn_printLn1 _ _ _)))).picture (clearDisplay display) shows

theorem updateAll_shows (shows : display.pen.face = (font, 1, 1)) :
    (updateAll highlightNum rPerKit kits percent running display).pen.face = (font, 1, 1) := by
  rw [face_updateAll display _ _ _ _ _ (show display.pen.face.2 = (1, 1) by rw [shows]), shows]

theorem full_progress (old : Int) (before : -1 ≤ old) (range : -1 ≤ percent) :
    drawn font (paintProgress percent) (full font highlightNum rPerKit kits old true) =
      full font highlightNum rPerKit kits percent true := by
  refine (overwrites_paintProgress percent range).repaints
    (overwrites_paintProgress old before).confined (overwrites_printButton _ _).confined ?_ _
  intro px py above below
  simp only [rows, buttonArea, rect] at above below
  omega

theorem confined_button_rows (highlighted shown : Bool) :
    Confined (rows 37 48) (drawn font (printButton highlighted shown)) := by
  refine (overwrites_printButton highlighted shown).confined.mono fun px py member => ?_
  simp only [rows, buttonArea, rect] at member ⊢
  omega

theorem full_printLn2 (shown : Bool) (number : Int) (before : 1 ≤ kits ∧ kits ≤ 50)
    (range : 1 ≤ number ∧ number ≤ 50) (lower : -1 ≤ percent) :
    drawn font (printLn2 number (decide (highlightNum = 1)) shown)
        (full font highlightNum rPerKit kits percent shown) =
      full font highlightNum rPerKit number percent shown := by
  have below : Confined (rows 24 48) (drawn font (printButton (decide (highlightNum = 2)) shown) ∘
      drawn font (printProgress percent shown)) := by
    apply Confined.comp
    · exact (confined_button_rows _ _).rows_mono (by omega) (by omega)
    · exact (confined_printProgress percent shown lower).rows_mono (by omega) (by omega)
  refine (overwrites_printLn2 number _ shown range).repaints
    (overwrites_printLn2 kits _ shown before).confined below (fun px py line rest => ?_) _
  simp only [rows] at line rest
  omega

theorem full_printLn1 (shown : Bool) (number : Int) (before : 1 ≤ rPerKit ∧ rPerKit ≤ 10)
    (range : 1 ≤ number ∧ number ≤ 10) (second : 1 ≤ kits ∧ kits ≤ 50) (lower : -1 ≤ percent) :
    drawn font (printLn1 number (decide (highlightNum = 0)) shown)
        (full font highlightNum rPerKit kits percent shown) =
      full font highlightNum number kits percent shown := by
  have below : Confined (rows 12 48) (drawn font (printButton (decide (highlightNum = 2)) shown) ∘
      drawn font (printProgress percent shown) ∘
        drawn font (printLn2 kits (decide (highlightNum = 1)) shown)) := by
    apply Confined.comp
    · exact (confined_button_rows _ _).rows_mono (by omega) (by omega)
    · apply Confined.comp
      · exact (confined_printProgress percent shown lower).rows_mono (by omega) (by omega)
      · exact (overwrites_printLn2 kits _ shown second).confined.rows_mono (by omega) (by omega)
  refine (overwrites_printLn1 number _ shown range).repaints
    (overwrites_printLn1 rPerKit _ shown before).confined below (fun px py line rest => ?_) _
  simp only [rows] at line rest
  omega

theorem paintProgress_repaints (old : Int) (small : display.pen.Small) (active : running ≠ 0)
    (unpaused : running ≠ 2) (before : -1 ≤ old) (range : -1 ≤ percent)
    (shown : display.picture = (updateAll highlightNum rPerKit kits old running display).picture) :
    (paintProgress percent display).picture =
      (updateAll highlightNum rPerKit kits percent running display).picture := by
  have shows : display.pen.face = (display.pen.font, 1, 1) :=
    Prod.ext rfl (show display.pen.face.2 = (1, 1) from small)
  have running : decide (running ≠ 0) = true := by simp [active]
  rw [(drawn_paintProgress percent).picture display shows, shown,
    updateAll_picture _ _ _ _ _ shows unpaused, updateAll_picture _ _ _ _ _ shows unpaused, running]
  exact full_progress highlightNum rPerKit kits percent old before range

/-! The painters, and everything that can be done to a display. -/

inductive Part
  | ln1 (number : Int) (highlighted running : Bool)
  | ln2 (number : Int) (highlighted running : Bool)
  | progress (percent : Int) (running : Bool)
  | button (highlighted running : Bool)

namespace Part

def paint : Part → Display → Display
  | ln1 number highlighted running => printLn1 number highlighted running
  | ln2 number highlighted running => printLn2 number highlighted running
  | progress percent running => printProgress percent running
  | button highlighted running => printButton highlighted running

def painter : Part → Fin 4
  | ln1 .. => 0
  | ln2 .. => 1
  | progress .. => 2
  | button .. => 3

def InRange : Part → Prop
  | ln1 number _ _ => 1 ≤ number ∧ number ≤ 10
  | ln2 number _ _ => 1 ≤ number ∧ number ≤ 50
  | progress percent _ => -1 ≤ percent
  | button _ _ => True

def area : Part → Area LCDWIDTH LCDHEIGHT
  | ln1 .. => rows 0 11
  | ln2 .. => rows 12 23
  | progress .. => rows 24 35
  | button .. => rows 37 48

theorem drawn_paint (part : Part) : Drawn font part.paint := by
  cases part with
  | ln1 number highlighted running => exact drawn_printLn1 number highlighted running
  | ln2 number highlighted running => exact drawn_printLn2 number highlighted running
  | progress percent running => exact drawn_printProgress percent running
  | button highlighted running => exact drawn_printButton highlighted running

theorem confined_paint (part : Part) (range : part.InRange) :
    Confined part.area (drawn font part.paint) := by
  cases part with
  | ln1 number highlighted running =>
      exact (overwrites_printLn1 number highlighted running range).confined
  | ln2 number highlighted running =>
      exact (overwrites_printLn2 number highlighted running range).confined
  | progress percent running => exact confined_printProgress percent running range
  | button highlighted running => exact confined_button_rows highlighted running

theorem idem_paint (part : Part) (range : part.InRange) (picture : Framebuffer) :
    drawn font part.paint (drawn font part.paint picture) = drawn font part.paint picture := by
  cases part with
  | ln1 number highlighted running =>
      exact (overwrites_printLn1 number highlighted running range).idem picture
  | ln2 number highlighted running =>
      exact (overwrites_printLn2 number highlighted running range).idem picture
  | progress percent running =>
      cases running with
      | true => exact (overwrites_paintProgress percent range).idem picture
      | false => rfl
  | button highlighted running =>
      exact (overwrites_printButton highlighted running).idem picture

theorem disjoint_areas {first second : Part} (different : first.painter ≠ second.painter)
    (x : Fin LCDWIDTH) (y : Fin LCDHEIGHT) (member : first.area x y) : ¬second.area x y := by
  intro other
  cases first <;> cases second <;> simp [painter, area, rows] at different member other <;> omega

end Part

inductive Call
  | part (part : Part)
  | updateAll (highlightNum rPerKit kits percent running : Int)
  | showPaused

def perform (display : Display) : Call → Display
  | .part part => part.paint display
  | .updateAll highlightNum rPerKit kits percent running =>
      display.updateAll highlightNum rPerKit kits percent running
  | .showPaused => display.showPaused

/-- Any picture, with the text state that some calls have left behind. -/
def reached (font : Font) (buffer : Framebuffer) (calls : List Call) (picture : Framebuffer) :
    Display :=
  ⟨(Runs.run perform (construct font buffer) calls).pen, picture⟩

theorem perform_shows (display : Display) (call : Call) (shows : display.pen.face = (font, 1, 1)) :
    (display.perform call).pen.face = (font, 1, 1) := by
  cases call with
  | part part => exact part.drawn_paint.pen display shows
  | updateAll highlightNum rPerKit kits percent running =>
      exact updateAll_shows highlightNum rPerKit kits percent running shows
  | showPaused => rw [perform, face_showPaused, shows]

theorem reached_shows (font : Font) (buffer : Framebuffer) (calls : List Call)
    (picture : Framebuffer) : (reached font buffer calls picture).pen.face = (font, 1, 1) :=
  Runs.invariant_run_always perform_shows rfl calls

/-- The painters commute and are idempotent, a full repaint shows its arguments and nothing else,
and painting one part of it anew shows what the full repaint with the new argument would. -/
theorem partial_repaint_agrees (font : Font) (buffer : Framebuffer) (calls : List Call)
    (picture : Framebuffer) :
    (∀ first second : Part, first.InRange → second.InRange → first.painter ≠ second.painter →
      (first.paint (second.paint (reached font buffer calls picture))).picture =
        (second.paint (first.paint (reached font buffer calls picture))).picture) ∧
    (∀ part : Part, part.InRange →
      (part.paint (part.paint (reached font buffer calls picture))).picture =
        (part.paint (reached font buffer calls picture)).picture) ∧
    (∀ (highlightNum rPerKit kits percent running : Int) (other : Framebuffer)
      (before : List Call) (content : Framebuffer),
      (updateAll highlightNum rPerKit kits percent running
          (reached font buffer calls picture)).picture =
        (updateAll highlightNum rPerKit kits percent running
          (reached font other before content)).picture) ∧
    (∀ highlightNum rPerKit kits percent old : Int, -1 ≤ percent → -1 ≤ old →
      (printProgress percent true
          (updateAll highlightNum rPerKit kits old 1 (reached font buffer calls picture))).picture =
        (updateAll highlightNum rPerKit kits percent 1
          (reached font buffer calls picture)).picture) ∧
    ∀ highlightNum rPerKit kits percent running : Int, running ≠ 2 →
      1 ≤ rPerKit ∧ rPerKit ≤ 10 → 1 ≤ kits ∧ kits ≤ 50 → -1 ≤ percent →
      (∀ number : Int, 1 ≤ number ∧ number ≤ 10 →
        (printLn1 number (decide (highlightNum = 0)) (decide (running ≠ 0))
            (updateAll highlightNum rPerKit kits percent running
              (reached font buffer calls picture))).picture =
          (updateAll highlightNum number kits percent running
            (reached font buffer calls picture)).picture) ∧
      ∀ number : Int, 1 ≤ number ∧ number ≤ 50 →
        (printLn2 number (decide (highlightNum = 1)) (decide (running ≠ 0))
            (updateAll highlightNum rPerKit kits percent running
              (reached font buffer calls picture))).picture =
          (updateAll highlightNum rPerKit number percent running
            (reached font buffer calls picture)).picture := by
  have shows := reached_shows font buffer calls picture
  refine ⟨?_, ?_, ?_, ?_, ?_⟩
  · intro first second firstRange secondRange different
    have commute : drawn font first.paint (drawn font second.paint picture) =
        drawn font second.paint (drawn font first.paint picture) :=
      (first.confined_paint firstRange).comm (second.confined_paint secondRange)
        (Part.disjoint_areas different) picture
    have left := (first.drawn_paint.comp second.drawn_paint).picture _ shows
    have right := (second.drawn_paint.comp first.drawn_paint).picture _ shows
    exact left.trans (commute.trans right.symm)
  · intro part range
    have once := part.drawn_paint.picture _ shows
    have twice := (part.drawn_paint.comp part.drawn_paint).picture _ shows
    exact twice.trans ((part.idem_paint range picture).trans once.symm)
  · intro highlightNum rPerKit kits percent running other before content
    have same := reached_shows font other before content
    rw [updateAll_congr _ _ _ _ _ (shows.trans same.symm)]
  · intro highlightNum rPerKit kits percent old range before
    have after := updateAll_shows highlightNum rPerKit kits old 1 shows
    rw [(drawn_printProgress percent true).picture _ after,
      updateAll_picture _ _ _ _ _ shows (by decide), updateAll_picture _ _ _ _ _ shows (by decide)]
    exact full_progress highlightNum rPerKit kits percent old before range
  · intro highlightNum rPerKit kits percent running unpaused first second lower
    have after := updateAll_shows highlightNum rPerKit kits percent running shows
    constructor
    · intro number range
      rw [(drawn_printLn1 number _ _).picture _ after,
        updateAll_picture _ _ _ _ _ shows unpaused, updateAll_picture _ _ _ _ _ shows unpaused]
      exact full_printLn1 highlightNum rPerKit kits percent _ number first range second lower
    · intro number range
      rw [(drawn_printLn2 number _ _).picture _ after,
        updateAll_picture _ _ _ _ _ shows unpaused, updateAll_picture _ _ _ _ _ shows unpaused]
      exact full_printLn2 highlightNum rPerKit kits percent _ number second range lower

end Display

end ResistorCutter
