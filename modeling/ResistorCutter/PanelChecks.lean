import ResistorCutter.DriverChecks
import ResistorCutter.Mirror
import ResistorCutter.PanelCore

/-!
The glass follows the frame buffer: whatever calls are made after `begin`, the controller hears
only what it documents, and it holds the bytes of the buffer outside the box of the changes that
`display` has not sent yet.
-/

namespace ResistorCutter

/-! Command bytes. -/

namespace Panel

variable (panel : Panel)

theorem command_extend : panel.command (PCD8544_FUNCTIONSET ||| PCD8544_EXTENDEDINSTRUCTION) =
    some { panel with mode := some 1 } := rfl

theorem command_functionSet : panel.command PCD8544_FUNCTIONSET =
    some { panel with mode := some 0 } := rfl

theorem setVop_bits : ∀ val : Fin 128,
    (PCD8544_SETVOP ||| UInt8.ofNat val) &&& 0xF8 ≠ PCD8544_FUNCTIONSET ∧
    (PCD8544_SETVOP ||| UInt8.ofNat val) &&& PCD8544_SETVOP ≠ 0 ∧
    (PCD8544_SETVOP ||| UInt8.ofNat val) &&& 0x7F = UInt8.ofNat val := by decide

theorem setYAddr_bits : ∀ page : Fin 6,
    (PCD8544_SETYADDR ||| UInt8.ofNat page) &&& 0xF8 ≠ PCD8544_FUNCTIONSET ∧
    (PCD8544_SETYADDR ||| UInt8.ofNat page) &&& PCD8544_SETXADDR = 0 ∧
    (PCD8544_SETYADDR ||| UInt8.ofNat page) &&& PCD8544_SETYADDR ≠ 0 ∧
    ((PCD8544_SETYADDR ||| UInt8.ofNat page) &&& 0x3F).toNat = page := by decide

theorem setBias_bits : ∀ val : Fin 8,
    (PCD8544_SETBIAS ||| UInt8.ofNat val) &&& 0xF8 = PCD8544_SETBIAS ∧
    (PCD8544_SETBIAS ||| UInt8.ofNat val) &&& PCD8544_SETVOP = 0 ∧
    (PCD8544_SETBIAS ||| UInt8.ofNat val) &&& 0x7 = UInt8.ofNat val := by decide

variable {panel}

theorem command_extended (extended : panel.mode = some 1) {c : UInt8}
    (other : c &&& 0xF8 ≠ PCD8544_FUNCTIONSET) : panel.command c = panel.extended c := by
  rw [command, if_neg other, extended]
  rfl

theorem command_basic (basic : panel.mode = some 0) {c : UInt8}
    (other : c &&& 0xF8 ≠ PCD8544_FUNCTIONSET) : panel.command c = panel.basic c := by
  rw [command, if_neg other, basic]
  rfl

theorem command_setVop (extended : panel.mode = some 1) {val : UInt8} (small : val ≤ 0x7f) :
    panel.command (PCD8544_SETVOP ||| val) = some { panel with vop := some val } := by
  have below : val.toNat < 128 := Nat.lt_succ_of_le (UInt8.le_iff_toNat_le.mp small)
  obtain ⟨other, opcode, value⟩ := setVop_bits ⟨val.toNat, below⟩
  simp only [UInt8.ofNat_toNat] at other opcode value
  rw [command_extended extended other, Panel.extended, if_pos opcode, value]

theorem command_setBias (extended : panel.mode = some 1) {val : UInt8} (small : val ≤ 0x07) :
    panel.command (PCD8544_SETBIAS ||| val) = some { panel with bias := some val } := by
  have below : val.toNat < 8 := Nat.lt_succ_of_le (UInt8.le_iff_toNat_le.mp small)
  obtain ⟨opcode, other, value⟩ := setBias_bits ⟨val.toNat, below⟩
  simp only [UInt8.ofNat_toNat] at opcode other value
  have apart : (PCD8544_SETBIAS ||| val) &&& 0xF8 ≠ PCD8544_FUNCTIONSET := by
    rw [opcode]
    decide
  rw [command_extended extended apart, Panel.extended, other, if_neg (by simp), if_pos opcode,
    value]

theorem command_setYAddr (basic : panel.mode = some 0) {page : Nat} (small : page < 6) :
    panel.command (PCD8544_SETYADDR ||| UInt8.ofNat page) = some { panel with y := some page } := by
  obtain ⟨other, column, opcode, value⟩ := setYAddr_bits ⟨page, small⟩
  rw [command_basic basic other, Panel.basic, column, if_neg (by simp), if_pos opcode]
  simp only at value
  simp only [value]
  rw [if_pos (by omega)]

theorem command_setXAddr (basic : panel.mode = some 0) {column : UInt8}
    (small : column.toNat < 84) :
    panel.command (PCD8544_SETXADDR ||| column) =
      some { panel with x := some column.toNat } := by
  obtain ⟨other, opcode, value⟩ := setVop_bits ⟨column.toNat, by omega⟩
  simp only [UInt8.ofNat_toNat] at other opcode value
  have same : PCD8544_SETXADDR = PCD8544_SETVOP := rfl
  rw [same, command_basic basic other, Panel.basic, same, if_pos opcode, value]
  simp only
  rw [if_pos (by omega)]

theorem command_control (basic : panel.mode = some 0) {d : UInt8}
    (known : d = PCD8544_DISPLAYNORMAL ∨ d = PCD8544_DISPLAYINVERTED) :
    panel.command (PCD8544_DISPLAYCONTROL ||| d) = some { panel with control := some d } := by
  rcases known with rfl | rfl
  · rw [command_basic basic (by decide)]
    rfl
  · rw [command_basic basic (by decide)]
    rfl

/-! Data bytes. -/

/-- The registers that data bytes leave as they are. -/
structure SameSettings (before after : Panel) : Prop where
  mode : after.mode = before.mode
  vop : after.vop = before.vop
  bias : after.bias = before.bias
  control : after.control = before.control

theorem SameSettings.trans {first second third : Panel} (left : SameSettings first second)
    (right : SameSettings second third) : SameSettings first third :=
  ⟨right.mode.trans left.mode, right.vop.trans left.vop, right.bias.trans left.bias,
    right.control.trans left.control⟩

/-- Bytes `x` to `x + length` of row `y`. -/
def Row (y x length i : Nat) : Prop := i / 84 = y ∧ x ≤ i % 84 ∧ i % 84 < x + length

instance (y x length i : Nat) : Decidable (Row y x length i) :=
  inferInstanceAs (Decidable (_ ∧ _ ∧ _))

theorem store_row {y : Nat} (inside : y < 6) (bytes : List UInt8) {x : Nat}
    (fits : x + bytes.length ≤ 84) (basic : panel.mode = some 0) (row : panel.y = some y)
    (column : panel.x = some x) :
    ∃ after, bytes.foldlM (fun panel byte => panel.store byte) panel = some after ∧
      SameSettings panel after ∧ ∀ i, after.ram[i]? =
        if Row y x bytes.length i then bytes[i % 84 - x]? else panel.ram[i]? := by
  induction bytes generalizing panel x with
  | nil =>
      refine ⟨panel, rfl, ⟨rfl, rfl, rfl, rfl⟩, fun i => ?_⟩
      rw [if_neg]
      simp only [Row, List.length_nil]
      omega
  | cons byte rest ih =>
      simp only [List.length_cons] at fits
      let next : Panel := { panel with
        ram := panel.ram.setIfInBounds (LCDWIDTH * y + x) byte
        x := if x = 83 then none else some (x + 1) }
      have stored : panel.store byte = some next := by
        have horizontal : (0 : UInt8) &&& PCD8544_ENTRYMODE = 0 := rfl
        simp only [store, basic, row, column, Option.bind_eq_bind, Option.bind_some]
        rw [if_pos horizontal]
        simp only [next, basic, row]
      have cell (i : Nat) : next.ram[i]? = if i = 84 * y + x then some byte else panel.ram[i]? := by
        simp only [next, LCDWIDTH]
        rw [Vector.getElem?_setIfInBounds]
        by_cases same : i = 84 * y + x
        · rw [if_pos same.symm, if_pos same, if_pos (by simp only [LCDHEIGHT]; omega)]
        · rw [if_neg fun equal => same equal.symm, if_neg same]
      rw [List.foldlM_cons, stored, Option.bind_eq_bind, Option.bind_some]
      by_cases last : x = 83
      · have done : rest = [] := List.eq_nil_of_length_eq_zero (by omega)
        subst done
        refine ⟨next, rfl, ⟨rfl, rfl, rfl, rfl⟩, fun i => ?_⟩
        rw [cell]
        by_cases same : i = 84 * y + x
        · have member : Row y x [byte].length i := by
            simp only [Row, List.length_singleton]
            omega
          have first : i % 84 - x = 0 := by omega
          rw [if_pos same, if_pos member, first]
          rfl
        · rw [if_neg same, if_neg]
          simp only [Row, List.length_singleton]
          omega
      · have onward : next.x = some (x + 1) := if_neg last
        obtain ⟨after, heard, settings, written⟩ := @ih next (x + 1) (by omega) basic row onward
        have before : panel.SameSettings next := ⟨rfl, rfl, rfl, rfl⟩
        refine ⟨after, heard, before.trans settings, fun i => ?_⟩
        rw [written, cell]
        by_cases same : i = 84 * y + x
        · have before : ¬Row y (x + 1) rest.length i := by
            simp only [Row]
            omega
          have member : Row y x (byte :: rest).length i := by
            simp only [Row, List.length_cons]
            omega
          have first : i % 84 - x = 0 := by omega
          rw [if_neg before, if_pos same, if_pos member, first]
          rfl
        · by_cases member : Row y (x + 1) rest.length i
          · have wider : Row y x (byte :: rest).length i := by
              simp only [Row, List.length_cons] at member ⊢
              omega
            have later : i % 84 - x = (i % 84 - (x + 1)) + 1 := by
              simp only [Row] at member
              omega
            rw [if_pos member, if_pos wider, later, List.getElem?_cons_succ]
          · have outside : ¬Row y x (byte :: rest).length i := by
              simp only [Row, List.length_cons] at member ⊢
              omega
            rw [if_neg member, if_neg same, if_neg outside]

end Panel

namespace AdafruitPCD8544

variable (lcd : AdafruitPCD8544)

/-! Reading after writing. -/

theorem offScreen_setPixel (x y px py : Int16) (color : Bool) :
    (lcd.setPixel x y color).OffScreen px py ↔ lcd.OffScreen px py := by
  obtain ⟨-, width, height⟩ := lcd.setPixel_frame x y color
  rw [OffScreen, OffScreen, width, height]

theorem getPixel_setPixel {px py : Int16} (on : ¬lcd.OffScreen px py) (x y : Int16)
    (color : Bool) : (lcd.setPixel x y color).getPixel px py =
      if (x, y) = (px, py) then color else lcd.getPixel px py := by
  rw [getPixel_eq, getPixel_eq, cell?_setPixel, setPixel_buffer, cell?, if_neg on]
  simp only [Option.elim_some]
  by_cases off : lcd.OffScreen x y
  · rw [if_pos off, if_neg]
    intro same
    obtain ⟨rfl, rfl⟩ := Prod.mk.inj same
    exact on off
  · rw [if_neg off, Packed.read_write (lcd.cell_valid off) (lcd.cell_valid on).2]
    by_cases same : (x, y) = (px, py)
    · obtain ⟨rfl, rfl⟩ := Prod.mk.inj same
      rw [if_pos rfl, if_pos rfl]
    · have apart : lcd.cell px py ≠ lcd.cell x y := by
        intro equal
        obtain ⟨rfl, rfl⟩ := lcd.cell_injective on off equal
        exact same rfl
      rw [if_neg apart, if_neg same]

/-! The box around the changes. -/

/-- As `display` leaves the box, or from corner to corner of a part of the glass. -/
def Boxed (lcd : AdafruitPCD8544) : Prop :=
  (lcd.xUpdateMin.toNat = 83 ∧ lcd.xUpdateMax.toNat = 0 ∧
    lcd.yUpdateMin.toNat = 47 ∧ lcd.yUpdateMax.toNat = 0) ∨
  (lcd.xUpdateMin.toNat ≤ lcd.xUpdateMax.toNat ∧ lcd.xUpdateMax.toNat ≤ 83 ∧
    lcd.yUpdateMin.toNat ≤ lcd.yUpdateMax.toNat ∧ lcd.yUpdateMax.toNat ≤ 47)

/-- The bytes that `display` sends. -/
def Stale (lcd : AdafruitPCD8544) (i : Nat) : Prop :=
  lcd.yUpdateMin.toNat / 8 ≤ i / 84 ∧ i / 84 ≤ lcd.yUpdateMax.toNat / 8 ∧
    lcd.xUpdateMin.toNat ≤ i % 84 ∧ i % 84 ≤ lcd.xUpdateMax.toNat

instance (lcd : AdafruitPCD8544) (i : Nat) : Decidable (lcd.Stale i) :=
  inferInstanceAs (Decidable (_ ∧ _ ∧ _ ∧ _))

/-- The box widens, and every byte that changes lies in it. -/
structure Grows (before after : AdafruitPCD8544) : Prop where
  boxed : before.Boxed → after.Boxed
  wider : ∀ i, before.Stale i → after.Stale i
  kept : ∀ i, ¬after.Stale i → after.pcd8544_buffer[i]? = before.pcd8544_buffer[i]?

theorem Grows.refl (lcd : AdafruitPCD8544) : Grows lcd lcd :=
  ⟨id, fun _ => id, fun _ _ => rfl⟩

theorem Grows.trans {first second third : AdafruitPCD8544} (left : Grows first second)
    (right : Grows second third) : Grows first third := by
  refine ⟨right.boxed ∘ left.boxed, fun i => right.wider i ∘ left.wider i, fun i fresh => ?_⟩
  rw [right.kept i fresh, left.kept i (fresh ∘ right.wider i)]

theorem Grows.run {ι : Type*} {step : AdafruitPCD8544 → ι → AdafruitPCD8544}
    (grows : ∀ lcd input, Grows lcd (step lcd input)) (lcd : AdafruitPCD8544) (inputs : List ι) :
    Grows lcd (inputs.foldl step lcd) := by
  induction inputs generalizing lcd with
  | nil => exact Grows.refl lcd
  | cons input rest ih => exact (grows lcd input).trans (ih (step lcd input))

theorem updateBoundingBox_grows {xmin ymin xmax ymax : UInt8} (across : xmin ≤ xmax)
    (right : xmax ≤ 83) (down : ymin ≤ ymax) (bottom : ymax ≤ 47) :
    Grows lcd (lcd.updateBoundingBox xmin ymin xmax ymax) := by
  simp only [UInt8.le_iff_toNat_le, UInt8.reduceToNat] at across right down bottom
  refine ⟨fun boxed => ?_, fun i stale => ?_, fun i _ => rfl⟩
  · simp only [Boxed, updateBoundingBox, toNat_min, toNat_max] at boxed ⊢
    omega
  · simp only [Stale, updateBoundingBox, toNat_min, toNat_max] at stale ⊢
    omega

theorem toNat_narrowed {x : Int16} (lower : 0 ≤ x.toInt) (upper : x.toInt < 84) :
    x.toUInt16.toUInt8.toNat = x.toInt.toNat := by
  have same : x.toUInt16.toNat = x.toInt.toNat :=
    Int16.toNat_toUInt16_of_le (Int16.le_iff_toInt_le.mpr lower)
  rw [UInt16.toNat_toUInt8, same]
  omega

theorem setPixel_grows (x y : Int16) (color : Bool) : Grows lcd (lcd.setPixel x y color) := by
  by_cases off : lcd.OffScreen x y
  · rw [setPixel, if_pos off]
    exact Grows.refl lcd
  · obtain ⟨left, right, top, bottom⟩ := lcd.rotated_inside off
    have column := toNat_narrowed left right
    have row := toNat_narrowed top (by omega)
    have byte : (lcd.cell x y).1 =
        (lcd.rotated x y).1.toInt.toNat + (lcd.rotated x y).2.toInt.toNat / 8 * 84 := by
      rw [cell, place_eq left top]
    have boxed : Grows lcd (lcd.updateBoundingBox (lcd.rotated x y).1.toUInt16.toUInt8
        (lcd.rotated x y).2.toUInt16.toUInt8 (lcd.rotated x y).1.toUInt16.toUInt8
        (lcd.rotated x y).2.toUInt16.toUInt8) := by
      apply updateBoundingBox_grows <;>
        simp only [UInt8.le_iff_toNat_le, UInt8.reduceToNat, column, row] <;> omega
    refine boxed.trans ?_
    rw [setPixel, if_neg off]
    refine ⟨id, fun _ => id, fun i fresh => ?_⟩
    have apart : (lcd.cell x y).1 ≠ i := by
      rintro rfl
      apply fresh
      simp only [Stale, updateBoundingBox, toNat_min, toNat_max, column, row, byte]
      omega
    exact Vector.getElem?_setIfInBounds_ne apart

theorem invertRect_grows (x y w h : Int16) : Grows lcd (lcd.invertRect x y w h) := by
  rw [invertRect_eq]
  refine Grows.run (fun lcd point => ?_) lcd (visits x y w h)
  rw [flip_eq]
  exact lcd.setPixel_grows _ _ _

theorem moved_grows (xpixels ypixels : Int8) :
    Grows { lcd with pcd8544_buffer := Vector.replicate _ 0 }
      (Nokia.moved xpixels ypixels lcd) := by
  rw [Nokia.moved]
  refine Grows.run (fun drawn x => Grows.run (fun drawn y => ?_) drawn _) _ _
  split
  · exact drawn.setPixel_grows _ _ _
  · exact Grows.refl drawn

theorem setRotation_grows (x : UInt8) : Grows lcd (lcd.setRotation x) := by
  rw [setRotation]
  split <;> exact ⟨id, fun _ => id, fun _ _ => rfl⟩

/-- The box that covers the glass. -/
theorem stale_of_whole {i : Nat} (inside : i < 504) :
    (lcd.updateBoundingBox 0 0 (UInt8.ofNat (LCDWIDTH - 1)) (UInt8.ofNat (LCDHEIGHT - 1))).Stale
      i := by
  have right : (UInt8.ofNat (LCDWIDTH - 1)).toNat = 83 := rfl
  have bottom : (UInt8.ofNat (LCDHEIGHT - 1)).toNat = 47 := rfl
  simp only [Stale, updateBoundingBox, toNat_min, toNat_max, right, bottom, UInt8.reduceToNat]
  omega

end AdafruitPCD8544

/-! What the controller has after the calls of the driver. -/

namespace Nokia

open AdafruitPCD8544

variable {resets : Panel → Panel} {glass panel : Panel} {lcd : Nokia}

def Heard (resets : Panel → Panel) (glass : Panel) (lcd : Nokia) (panel : Panel) : Prop :=
  glass.hearAll resets lcd.sent = some panel

theorem Heard.put {signal : Signal} {next : Panel} (heard : Heard resets glass lcd panel)
    (hears : panel.hear resets signal = some next) :
    Heard resets glass (lcd.put signal) next := by
  have before : glass.hearAll resets lcd.sent = some panel := heard
  rw [Panel.hearAll] at before
  rw [Heard, Nokia.put, Panel.hearAll, List.foldlM_append, before, Option.bind_eq_bind,
    Option.bind_some]
  simp only [List.foldlM_cons, hears, Option.bind_eq_bind, Option.bind_some, List.foldlM_nil]
  rfl

theorem Heard.command {c : UInt8} {next : Panel} (heard : Heard resets glass lcd panel)
    (hears : panel.command c = some next) : Heard resets glass (lcd.command c) next :=
  heard.put hears

theorem heard_setContrast (heard : Heard resets glass lcd panel) (val : UInt8) :
    Heard resets glass (lcd.setContrast val) { panel with
      mode := some 0
      vop := some (lcd.setContrast val)._contrast } := by
  have small : (if val > 0x7f then 0x7f else val) ≤ 0x7f := by
    split
    · exact UInt8.le_refl _
    · exact UInt8.not_lt.mp ‹_›
  have start : Heard resets glass { lcd with _contrast := if val > 0x7f then 0x7f else val }
    panel := heard
  have extended := start.command panel.command_extend
  have written := extended.command (Panel.command_setVop rfl small)
  exact written.command (Panel.command_functionSet _)

theorem heard_setBias (heard : Heard resets glass lcd panel) (val : UInt8) :
    Heard resets glass (lcd.setBias val) { panel with
      mode := some 0
      bias := some (lcd.setBias val)._bias } := by
  have small : (if val > 0x07 then 0x07 else val) ≤ 0x07 := by
    split
    · exact UInt8.le_refl _
    · exact UInt8.not_lt.mp ‹_›
  have start : Heard resets glass { lcd with _bias := if val > 0x07 then 0x07 else val }
    panel := heard
  have extended := start.command panel.command_extend
  have written := extended.command (Panel.command_setBias rfl small)
  exact written.command (Panel.command_functionSet _)

/-- The controller is in the basic instruction set, addresses bytes along the rows and has the
registers that the driver keeps a copy of. -/
structure Configured (lcd : Nokia) (panel : Panel) : Prop where
  mode : panel.mode = some 0
  vop : panel.vop = some lcd._contrast
  bias : panel.bias = some lcd._bias
  control : panel.control = some PCD8544_DISPLAYNORMAL ∨
    panel.control = some PCD8544_DISPLAYINVERTED

/-- The members that text uses. -/
def face (lcd : Nokia) : Pen × Int16 × Int16 × UInt8 × UInt8 × Bool × Bool :=
  (⟨lcd.font, lcd.cursor_x.toInt, lcd.cursor_y.toInt, lcd.textcolor, lcd.textbgcolor,
    lcd.textsize_x.toNat, lcd.textsize_y.toNat⟩, lcd.cursor_x, lcd.cursor_y, lcd.textsize_x,
    lcd.textsize_y, lcd.wrap, lcd._cp437)

/-- What the calls that only send commands leave as it is. -/
structure Kept (before after : Nokia) : Prop where
  lcd : after.toAdafruitPCD8544 = before.toAdafruitPCD8544
  interval : after._reinit_interval = before._reinit_interval
  face : after.face = before.face

theorem Kept.trans {first second third : Nokia} (left : Kept first second)
    (right : Kept second third) : Kept first third :=
  ⟨right.lcd.trans left.lcd, right.interval.trans left.interval, right.face.trans left.face⟩

theorem put_kept (lcd : Nokia) (signal : Signal) : Kept lcd (lcd.put signal) := ⟨rfl, rfl, rfl⟩

theorem setContrast_kept (lcd : Nokia) (val : UInt8) : Kept lcd (lcd.setContrast val) :=
  ⟨rfl, rfl, rfl⟩

theorem setBias_kept (lcd : Nokia) (val : UInt8) : Kept lcd (lcd.setBias val) := ⟨rfl, rfl, rfl⟩

/-- The RST pin of `initDisplay`, if there is one. -/
def pulse (lcd : Nokia) : Nokia := if lcd._rstpin ≥ 0 then lcd.put .reset else lcd

theorem pulse_spec (heard : Heard resets glass lcd panel) :
    Kept lcd lcd.pulse ∧ ∃ next, Heard resets glass lcd.pulse next ∧
      (next.ram = panel.ram ∨ next.ram = (resets panel).ram) := by
  rw [pulse]
  split
  · exact ⟨lcd.put_kept _, resets panel, heard.put rfl, .inr rfl⟩
  · exact ⟨⟨rfl, rfl, rfl⟩, panel, heard, .inl rfl⟩

theorem initDisplay_spec (heard : Heard resets glass lcd panel) :
    Kept lcd lcd.initDisplay ∧ ∃ next, Heard resets glass lcd.initDisplay next ∧
      Configured lcd.initDisplay next ∧
      (next.ram = panel.ram ∨ next.ram = (resets panel).ram) := by
  obtain ⟨kept, base, begun, ram⟩ := pulse_spec heard
  let biased := lcd.pulse.setBias lcd.pulse._bias
  let contrasted := biased.setContrast biased._contrast
  have heardBias : Heard resets glass biased _ := heard_setBias begun lcd.pulse._bias
  have heardContrast : Heard resets glass contrasted _ :=
    heard_setContrast heardBias biased._contrast
  have basic := heardContrast.command (Panel.command_functionSet _)
  have shown := basic.command (Panel.command_control rfl (.inl rfl))
  refine ⟨?_, _, shown, ⟨rfl, rfl, rfl, .inl rfl⟩, ram⟩
  have before := kept.trans (setBias_kept lcd.pulse lcd.pulse._bias)
  have between := before.trans (setContrast_kept biased biased._contrast)
  exact (between.trans (put_kept _ _)).trans (put_kept _ _)

/-! `display` -/

/-- The bytes of a page that lie between the columns of the box. -/
def Sent (lcd : Nokia) (page i : Nat) : Prop :=
  i / 84 = page ∧ lcd.xUpdateMin.toNat ≤ i % 84 ∧ i % 84 ≤ lcd.xUpdateMax.toNat

instance (lcd : Nokia) (page i : Nat) : Decidable (lcd.Sent page i) :=
  inferInstanceAs (Decidable (_ ∧ _ ∧ _))

theorem span_spec {page : Nat} (inside : page < 6)
    (across : lcd.xUpdateMin.toNat ≤ lcd.xUpdateMax.toNat) (right : lcd.xUpdateMax.toNat ≤ 83) :
    ∃ bytes, lcd.span (LCDWIDTH * page + lcd.xUpdateMin.toNat)
        (lcd.xUpdateMax.toNat - lcd.xUpdateMin.toNat + 1) = some bytes ∧
      bytes.length = lcd.xUpdateMax.toNat - lcd.xUpdateMin.toNat + 1 ∧
      ∀ i, lcd.Sent page i →
        bytes[i % 84 - lcd.xUpdateMin.toNat]? = lcd.pcd8544_buffer[i]? := by
  have length : (((lcd.xUpdateMax.toNat : Int) - lcd.xUpdateMin.toNat + 1) % 2 ^ 32).toNat =
      lcd.xUpdateMax.toNat - lcd.xUpdateMin.toNat + 1 := by omega
  refine ⟨(lcd.pcd8544_buffer.toList.drop (LCDWIDTH * page + lcd.xUpdateMin.toNat)).take
    (lcd.xUpdateMax.toNat - lcd.xUpdateMin.toNat + 1), ?_, ?_, ?_⟩
  · rw [span, length]
    exact if_pos (by simp only [LCDWIDTH, LCDHEIGHT]; omega)
  · rw [List.length_take, List.length_drop, Vector.length_toList]
    simp only [LCDWIDTH, LCDHEIGHT]
    omega
  · intro i sent
    have place : LCDWIDTH * page + lcd.xUpdateMin.toNat + (i % 84 - lcd.xUpdateMin.toNat) = i := by
      simp only [Sent] at sent
      simp only [LCDWIDTH]
      omega
    rw [List.getElem?_take_of_lt (by simp only [Sent] at sent; omega), List.getElem?_drop, place]
    simp

theorem sendPage_spec {page : Nat} (inside : page < 6)
    (across : lcd.xUpdateMin.toNat ≤ lcd.xUpdateMax.toNat) (right : lcd.xUpdateMax.toNat ≤ 83)
    (heard : Heard resets glass lcd panel) (basic : panel.mode = some 0) :
    ∃ lcd' panel', lcd.sendPage page = some lcd' ∧ lcd' = { lcd with sent := lcd'.sent } ∧
      Heard resets glass lcd' panel' ∧ panel.SameSettings panel' ∧
      ∀ i, panel'.ram[i]? =
        if lcd.Sent page i then lcd.pcd8544_buffer[i]? else panel.ram[i]? := by
  let paged : Panel := { panel with y := some page }
  let addressed : Panel := { paged with x := some lcd.xUpdateMin.toNat }
  have pagedBasic : paged.mode = some 0 := basic
  have addressedBasic : addressed.mode = some 0 := basic
  have addressedRow : addressed.y = some page := rfl
  have addressedColumn : addressed.x = some lcd.xUpdateMin.toNat := rfl
  have row := heard.command (Panel.command_setYAddr basic inside)
  have narrow : lcd.xUpdateMin.toNat < 84 := by omega
  have column := row.command (Panel.command_setXAddr pagedBasic narrow)
  obtain ⟨bytes, read, length, content⟩ := span_spec inside across right
  obtain ⟨next, stored, settings, ram⟩ := Panel.store_row inside bytes (by omega) addressedBasic
    addressedRow addressedColumn
  have done : lcd.sendPage page = some (((lcd.command
      (PCD8544_SETYADDR ||| UInt8.ofNat page)).command
        (PCD8544_SETXADDR ||| lcd.xUpdateMin)).put (.data bytes)) := by
    rw [sendPage]
    exact congrArg (Option.map _) read
  refine ⟨_, next, done, rfl, column.put stored, ?_, fun i => ?_⟩
  · exact ⟨settings.mode, settings.vop, settings.bias, settings.control⟩
  · rw [ram]
    have same : Panel.Row page lcd.xUpdateMin.toNat bytes.length i ↔ lcd.Sent page i := by
      simp only [Panel.Row, Sent]
      omega
    by_cases sent : lcd.Sent page i
    · rw [if_pos (same.mpr sent), if_pos sent, content i sent]
    · rw [if_neg (sent ∘ same.mp), if_neg sent]

theorem sendPages_spec (pages : List Nat) (inside : ∀ page ∈ pages, page < 6)
    (across : lcd.xUpdateMin.toNat ≤ lcd.xUpdateMax.toNat) (right : lcd.xUpdateMax.toNat ≤ 83)
    (heard : Heard resets glass lcd panel) (basic : panel.mode = some 0) :
    ∃ lcd' panel', pages.foldlM sendPage lcd = some lcd' ∧ lcd' = { lcd with sent := lcd'.sent } ∧
      Heard resets glass lcd' panel' ∧ panel.SameSettings panel' ∧
      ∀ i, panel'.ram[i]? =
        if ∃ page ∈ pages, lcd.Sent page i then lcd.pcd8544_buffer[i]? else panel.ram[i]? := by
  induction pages generalizing lcd panel with
  | nil => exact ⟨lcd, panel, rfl, rfl, heard, ⟨rfl, rfl, rfl, rfl⟩, by simp⟩
  | cons page rest ih =>
      obtain ⟨lcd', panel', sent, frame, heard', settings, ram⟩ :=
        sendPage_spec (inside page (by simp)) across right heard basic
      generalize lcd'.sent = signals at frame
      subst frame
      obtain ⟨last, final, sentAll, frameAll, heardAll, settingsAll, ramAll⟩ :=
        @ih panel' { lcd with sent := signals }
          (fun later member => inside later (by simp [member])) across right heard'
          (settings.mode.trans basic)
      refine ⟨last, final, ?_, frameAll, heardAll, settings.trans settingsAll, fun i => ?_⟩
      · rw [List.foldlM_cons, sent]
        exact sentAll
      · rw [ramAll, ram]
        simp only [List.mem_cons, exists_eq_or_imp]
        by_cases later : ∃ page ∈ rest, lcd.Sent page i
        · have both : lcd.Sent page i ∨ ∃ page ∈ rest, lcd.Sent page i := .inr later
          rw [if_pos both]
          exact if_pos later
        · have only : (lcd.Sent page i ∨ ∃ page ∈ rest, lcd.Sent page i) ↔ lcd.Sent page i :=
            or_iff_left later
          simp only [only]
          exact if_neg later

/-- The controller follows the driver. A reset while the display is in use is one that leaves
the bytes of the controller alone. -/
structure Tracks (resets : Panel → Panel) (lcd : Nokia) (panel : Panel) : Prop where
  boxed : lcd.Boxed
  configured : Configured lcd panel
  agree : Mirror.Agree lcd.Stale (fun i => lcd.pcd8544_buffer[i]?) fun i => panel.ram[i]?
  resets : lcd._reinit_interval ≠ 0 → ∀ panel, (resets panel).ram = panel.ram

def Follows (resets : Panel → Panel) (glass : Panel) (lcd : Nokia) : Prop :=
  ∃ panel, Heard resets glass lcd panel ∧ Tracks resets lcd panel

theorem reinit_spec (heard : Heard resets glass lcd panel) (tracks : Tracks resets lcd panel) :
    Kept lcd lcd.reinit ∧ ∃ next, Heard resets glass lcd.reinit next ∧
      Configured lcd.reinit next ∧ next.ram = panel.ram := by
  rw [reinit]
  split
  · next enabled =>
    simp only
    split
    · have start : Heard resets glass { lcd with _display_count := 0 } panel := heard
      obtain ⟨kept, next, heard', configured, ram⟩ := initDisplay_spec start
      refine ⟨⟨kept.lcd, kept.interval, kept.face⟩, next, heard', configured, ?_⟩
      rw [tracks.resets enabled, or_self] at ram
      exact ram
    · exact ⟨⟨rfl, rfl, rfl⟩, panel, heard, ⟨tracks.configured.mode, tracks.configured.vop,
        tracks.configured.bias, tracks.configured.control⟩, rfl⟩
  · exact ⟨⟨rfl, rfl, rfl⟩, panel, heard, tracks.configured, rfl⟩

theorem display_eq (lcd : Nokia) : lcd.display =
    ((List.range' (lcd.reinit.yUpdateMin.toNat / 8)
      (lcd.reinit.yUpdateMax.toNat / 8 + 1 - lcd.reinit.yUpdateMin.toNat / 8)).foldlM sendPage
        lcd.reinit).map emptyBox := by
  rw [display]
  simp only [Option.bind_eq_bind, Option.map_eq_bind]
  rfl

theorem emptyBox_boxed (lcd : Nokia) : lcd.emptyBox.Boxed := .inl ⟨rfl, rfl, rfl, rfl⟩

/-- All pages of the box, whether it is empty or not. -/
theorem pages_spec (boxed : lcd.Boxed) (heard : Heard resets glass lcd panel)
    (basic : panel.mode = some 0) :
    ∃ lcd' panel', (List.range' (lcd.yUpdateMin.toNat / 8)
        (lcd.yUpdateMax.toNat / 8 + 1 - lcd.yUpdateMin.toNat / 8)).foldlM sendPage lcd =
          some lcd' ∧
      lcd' = { lcd with sent := lcd'.sent } ∧ Heard resets glass lcd' panel' ∧
      panel.SameSettings panel' ∧ ∀ i, panel'.ram[i]? =
        if lcd.Stale i then lcd.pcd8544_buffer[i]? else panel.ram[i]? := by
  rcases boxed with ⟨left, right, top, bottom⟩ | ⟨across, right, down, bottom⟩
  · rw [top, bottom]
    refine ⟨lcd, panel, rfl, rfl, heard, ⟨rfl, rfl, rfl, rfl⟩, fun i => ?_⟩
    rw [if_neg]
    simp only [Stale]
    omega
  · have inside : ∀ page ∈ List.range' (lcd.yUpdateMin.toNat / 8)
        (lcd.yUpdateMax.toNat / 8 + 1 - lcd.yUpdateMin.toNat / 8), page < 6 := by
      intro page member
      have bounds := List.mem_range'_1.mp member
      omega
    obtain ⟨lcd', panel', sent, frame, heard', settings, ram⟩ :=
      sendPages_spec _ inside across right heard basic
    refine ⟨lcd', panel', sent, frame, heard', settings, fun i => ?_⟩
    rw [ram]
    have same : (∃ page ∈ List.range' (lcd.yUpdateMin.toNat / 8)
        (lcd.yUpdateMax.toNat / 8 + 1 - lcd.yUpdateMin.toNat / 8), lcd.Sent page i) ↔
          lcd.Stale i := by
      simp only [List.mem_range'_1, Sent, Stale]
      constructor
      · rintro ⟨page, bounds, rfl, columns⟩
        omega
      · intro stale
        exact ⟨i / 84, by omega, rfl, by omega⟩
    simp only [same]

theorem display_spec (heard : Heard resets glass lcd panel) (tracks : Tracks resets lcd panel) :
    ∃ lcd' panel', lcd.display = some lcd' ∧ Heard resets glass lcd' panel' ∧
      Tracks resets lcd' panel' ∧ panel'.ram = lcd'.pcd8544_buffer ∧
      lcd'.pcd8544_buffer = lcd.pcd8544_buffer ∧ lcd'.face = lcd.face ∧
      lcd'.rotation = lcd.rotation ∧ lcd'._width = lcd._width ∧ lcd'._height = lcd._height := by
  obtain ⟨kept, base, begun, configured, ram⟩ := reinit_spec heard tracks
  have boxed : lcd.reinit.Boxed := by
    rw [kept.lcd]
    exact tracks.boxed
  obtain ⟨lcd', panel', sent, frame, heard', settings, written⟩ :=
    pages_spec boxed begun configured.mode
  have basic : panel'.mode = some 0 := settings.mode.trans configured.mode
  have closed := heard'.command (Panel.command_setYAddr basic (Nat.succ_pos 5))
  generalize lcd'.sent = signals at frame
  subst frame
  have fresh : Mirror.Agree (fun i => lcd.Stale i ∧ ¬lcd.Stale i)
      (fun i => lcd.pcd8544_buffer[i]?) fun i => panel'.ram[i]? := by
    refine tracks.agree.transfer (fun i stale => ?_) fun i untouched => ?_
    · rw [written, kept.lcd, if_pos stale]
    · rw [written, kept.lcd, if_neg untouched, ram]
  have same : panel'.ram = lcd.pcd8544_buffer := by
    apply Vector.ext
    intro i below
    have byte := congrFun (fresh.eq fun i member => member.2 member.1) i
    simpa only [Vector.getElem?_eq_getElem below, Option.some.injEq] using byte
  have after : (emptyBox { lcd.reinit with sent := signals }).pcd8544_buffer =
      lcd.pcd8544_buffer := by
    have unsent := congrArg AdafruitPCD8544.pcd8544_buffer kept.lcd
    exact unsent
  have ended : Heard resets glass (emptyBox { lcd.reinit with sent := signals })
    { panel' with y := some 0 } := closed
  have frame : lcd.reinit.rotation = lcd.rotation ∧ lcd.reinit._width = lcd._width ∧
      lcd.reinit._height = lcd._height := by
    rw [kept.lcd]
    exact ⟨rfl, rfl, rfl⟩
  refine ⟨_, _, ?_, ended, ⟨emptyBox_boxed _, ?_, ?_, ?_⟩, ?_, after, kept.face, frame⟩
  · rw [display_eq, sent]
    rfl
  · refine ⟨basic, settings.vop.trans configured.vop, settings.bias.trans configured.bias, ?_⟩
    exact settings.control.symm ▸ configured.control
  · intro i _
    rw [after, ← same]
  · intro enabled
    exact tracks.resets (kept.interval ▸ enabled)
  · rw [after]
    exact same

/-! Runs. -/

/-- The box may be widened to a part of the glass only, and the interval set only where a reset
leaves the bytes of the controller alone. -/
def Allowed (resets : Panel → Panel) : Call → Prop
  | .updateBoundingBox xmin ymin xmax ymax => xmin ≤ xmax ∧ xmax ≤ 83 ∧ ymin ≤ ymax ∧ ymax ≤ 47
  | .setReinitInterval val => val ≠ 0 → ∀ panel, (resets panel).ram = panel.ram
  | _ => True

theorem Configured.paint (configured : Configured lcd panel) (next : AdafruitPCD8544) :
    Configured { lcd with toAdafruitPCD8544 := next } panel :=
  ⟨configured.mode, configured.vop, configured.bias, configured.control⟩

theorem Tracks.paint (tracks : Tracks resets lcd panel) {next : AdafruitPCD8544}
    (grows : Grows lcd.toAdafruitPCD8544 next) :
    Tracks resets { lcd with toAdafruitPCD8544 := next } panel := by
  have agree := tracks.agree.change grows.kept fun i member => member.elim (grows.wider i) id
  exact ⟨grows.boxed tracks.boxed, tracks.configured.paint next, agree, tracks.resets⟩

theorem whole_grows (next : AdafruitPCD8544) : Grows next (next.updateBoundingBox 0 0
    (UInt8.ofNat (LCDWIDTH - 1)) (UInt8.ofNat (LCDHEIGHT - 1))) := by
  apply updateBoundingBox_grows <;> decide

/-- With the box around the whole glass nothing is asked of what the controller has. -/
theorem Configured.tracks (configured : Configured lcd panel) (boxed : lcd.Boxed)
    (settled : lcd._reinit_interval ≠ 0 → ∀ panel, (resets panel).ram = panel.ram) :
    Tracks resets (lcd.updateBoundingBox 0 0 (UInt8.ofNat (LCDWIDTH - 1))
      (UInt8.ofNat (LCDHEIGHT - 1))) panel := by
  refine ⟨(whole_grows _).boxed boxed, configured.paint _, ?_, settled⟩
  intro i fresh
  have beyond : 504 ≤ i := Nat.not_lt.mp fun inside => fresh (lcd.stale_of_whole inside)
  simp only
  rw [Vector.getElem?_eq_none beyond, Vector.getElem?_eq_none beyond]

/-- Every round takes a negative offset at least 48 pixels on, and past no 127. -/
theorem raise_spec {size : Int16} (screen : size.toInt = 84 ∨ size.toInt = 48) (fuel : Nat)
    (pixels : Int8) (enough : -pixels.toInt ≤ 48 * fuel) :
    ∃ raised, raise size (fuel + 1) pixels = some raised ∧ 0 ≤ raised.toInt ∧
      raised.toInt % size.toInt = pixels.toInt % size.toInt := by
  induction fuel generalizing pixels with
  | zero =>
      have shown : ¬pixels < 0 := by
        rw [Int8.lt_iff_toInt_lt, Int8.toInt_zero]
        omega
      exact ⟨pixels, by rw [raise, if_neg shown], by omega, rfl⟩
  | succ fuel ih =>
      rw [raise]
      by_cases negative : pixels < 0
      · have sum : (Int8.ofInt (pixels.toInt + size.toInt)).toInt = pixels.toInt + size.toInt := by
          have least := pixels.le_toInt
          rw [Int8.lt_iff_toInt_lt, Int8.toInt_zero] at negative
          apply Int8.toInt_ofInt_of_le <;> omega
        obtain ⟨raised, rounds, nonneg, congruent⟩ :=
          ih (Int8.ofInt (pixels.toInt + size.toInt)) (by omega)
        refine ⟨raised, by rw [if_pos negative, rounds], nonneg, ?_⟩
        rw [congruent, sum, Int.add_emod_right]
      · refine ⟨pixels, if_neg negative, ?_, rfl⟩
        rw [Int8.lt_iff_toInt_lt, Int8.toInt_zero] at negative
        omega

theorem extent (lcd : AdafruitPCD8544) :
    (lcd._width.toInt = 84 ∧ lcd._height.toInt = 48) ∨
      (lcd._width.toInt = 48 ∧ lcd._height.toInt = 84) := by
  rcases lcd.oriented with ⟨-, width, height⟩ | ⟨-, width, height⟩
  · rw [width, height]
    exact .inl ⟨rfl, rfl⟩
  · rw [width, height]
    exact .inr ⟨rfl, rfl⟩

/-- What the offsets are when the loops of `scroll` that move the pixels begin. -/
theorem reduce_spec {size : Int16} (screen : size.toInt = 84 ∨ size.toInt = 48) (pixels : Int8) :
    ∃ raised, raise size 128 pixels = some raised ∧
      (reduce size raised).toInt = pixels.toInt % size.toInt := by
  have least := pixels.le_toInt
  obtain ⟨raised, rounds, nonneg, congruent⟩ := raise_spec screen 127 pixels (by omega)
  refine ⟨raised, rounds, ?_⟩
  rw [reduce, Int.tmod_eq_emod_of_nonneg nonneg, congruent]
  have lower := pixels.toInt.emod_nonneg (show size.toInt ≠ 0 by omega)
  have upper := pixels.toInt.emod_lt_of_pos (show 0 < size.toInt by omega)
  apply Int8.toInt_ofInt_of_le <;> omega

theorem scroll_eq (lcd : Nokia) (xpixels ypixels : Int8) :
    ∃ across down : Int8, across.toInt = xpixels.toInt % lcd._width.toInt ∧
      down.toInt = ypixels.toInt % lcd._height.toInt ∧
      lcd.scroll xpixels ypixels = some { lcd with
        toAdafruitPCD8544 := (moved across down lcd.toAdafruitPCD8544).updateBoundingBox 0 0
          (UInt8.ofNat (LCDWIDTH - 1)) (UInt8.ofNat (LCDHEIGHT - 1)) } := by
  have width : lcd._width.toInt = 84 ∨ lcd._width.toInt = 48 :=
    (extent lcd.toAdafruitPCD8544).imp And.left And.left
  have height : lcd._height.toInt = 84 ∨ lcd._height.toInt = 48 :=
    (extent lcd.toAdafruitPCD8544).symm.imp And.right And.right
  obtain ⟨raisedX, roundsX, across⟩ := reduce_spec width xpixels
  obtain ⟨raisedY, roundsY, down⟩ := reduce_spec height ypixels
  refine ⟨_, _, across, down, ?_⟩
  simp only [scroll, roundsX, roundsY, Option.bind_eq_bind, Option.bind_some]
  rfl

theorem perform_follows (follows : Follows resets glass lcd) {call : Call}
    (allowed : Allowed resets call) :
    ∃ next, lcd.perform call = some next ∧ Follows resets glass next := by
  obtain ⟨panel, heard, tracks⟩ := follows
  have same {next : AdafruitPCD8544} (grows : Grows lcd.toAdafruitPCD8544 next) :
      Follows resets glass { lcd with toAdafruitPCD8544 := next } :=
    ⟨panel, heard, tracks.paint grows⟩
  have blank : Boxed { lcd.toAdafruitPCD8544 with pcd8544_buffer := Vector.replicate _ 0 } :=
    tracks.boxed
  cases call with
  | drawPixel x y color => exact ⟨_, rfl, same (lcd.setPixel_grows x y _)⟩
  | invertRect x y w h => exact ⟨_, rfl, same (lcd.invertRect_grows x y w h)⟩
  | clearDisplay =>
      have cleared := (tracks.configured.paint _).tracks blank tracks.resets
      exact ⟨_, rfl, panel, heard, cleared.boxed, ⟨tracks.configured.mode, tracks.configured.vop,
        tracks.configured.bias, tracks.configured.control⟩, cleared.agree, tracks.resets⟩
  | scroll xpixels ypixels =>
      obtain ⟨across, down, -, -, done⟩ := scroll_eq lcd xpixels ypixels
      have scrolled := (moved_grows lcd.toAdafruitPCD8544 across down).boxed blank
      have redrawn := (tracks.configured.paint _).tracks scrolled tracks.resets
      exact ⟨_, done, panel, heard, redrawn⟩
  | setRotation x => exact ⟨_, rfl, same (lcd.setRotation_grows x)⟩
  | updateBoundingBox xmin ymin xmax ymax =>
      obtain ⟨across, right, down, bottom⟩ := allowed
      exact ⟨_, rfl, same (lcd.updateBoundingBox_grows across right down bottom)⟩
  | setContrast val =>
      exact ⟨_, rfl, _, heard_setContrast heard val, tracks.boxed, ⟨rfl, rfl,
        tracks.configured.bias, tracks.configured.control⟩, tracks.agree, tracks.resets⟩
  | setBias val =>
      exact ⟨_, rfl, _, heard_setBias heard val, tracks.boxed, ⟨rfl, tracks.configured.vop, rfl,
        tracks.configured.control⟩, tracks.agree, tracks.resets⟩
  | setReinitInterval val =>
      exact ⟨_, rfl, panel, heard, tracks.boxed, ⟨tracks.configured.mode, tracks.configured.vop,
        tracks.configured.bias, tracks.configured.control⟩, tracks.agree, allowed⟩
  | invertDisplay i =>
      have basic := heard.command (Panel.command_functionSet panel)
      have known : (if i then PCD8544_DISPLAYINVERTED else PCD8544_DISPLAYNORMAL) =
          PCD8544_DISPLAYNORMAL ∨ (if i then PCD8544_DISPLAYINVERTED else PCD8544_DISPLAYNORMAL) =
            PCD8544_DISPLAYINVERTED := by
        cases i
        · exact .inl rfl
        · exact .inr rfl
      have shown := basic.command (Panel.command_control rfl known)
      refine ⟨_, rfl, _, shown, tracks.boxed, ⟨rfl, tracks.configured.vop,
        tracks.configured.bias, ?_⟩, tracks.agree, tracks.resets⟩
      simp only [Option.some.injEq]
      exact known
  | display =>
      obtain ⟨next, after, done, heard', tracks', -⟩ := display_spec heard tracks
      exact ⟨next, done, after, heard', tracks'⟩

theorem begin_spec (font : Font) (buffer : Vector UInt8 (LCDWIDTH * LCDHEIGHT / 8))
    (rst_pin : Int8) (contrast bias : UInt8) (glass : Panel) :
    ∃ lcd panel, (construct font buffer rst_pin).begin contrast bias = some lcd ∧
      Heard resets glass lcd panel ∧ Tracks resets lcd panel ∧
      panel.ram = lcd.pcd8544_buffer ∧ lcd.pcd8544_buffer = buffer ∧
      lcd.face = (construct font buffer rst_pin).face ∧ lcd.rotation = 0 := by
  let start : Nokia := { construct font buffer rst_pin with
    _bias := bias
    _contrast := contrast }
  have silent : Heard resets glass start glass := rfl
  obtain ⟨kept, panel, heard, configured, -⟩ := initDisplay_spec silent
  have boxed : start.initDisplay.Boxed := by
    rw [kept.lcd]
    exact .inr ⟨Nat.le_refl 0, Nat.zero_le 83, Nat.le_refl 0, Nat.zero_le 47⟩
  have settled : start.initDisplay._reinit_interval ≠ 0 →
      ∀ panel, (resets panel).ram = panel.ram := absurd kept.interval
  have covered : Heard resets glass (start.initDisplay.updateBoundingBox 0 0
    (UInt8.ofNat (LCDWIDTH - 1)) (UInt8.ofNat (LCDHEIGHT - 1))) panel := heard
  obtain ⟨lcd, shown, done, heard', tracks, ram, drawn, face, rotation, -⟩ :=
    display_spec covered (configured.tracks boxed settled)
  exact ⟨lcd, shown, done, heard', tracks, ram,
    drawn.trans (congrArg AdafruitPCD8544.pcd8544_buffer kept.lcd), face.trans kept.face,
    rotation.trans (congrArg AdafruitPCD8544.rotation kept.lcd)⟩

/-- From the constructor through `begin` and any calls after it. -/
def session (font : Font) (buffer : Vector UInt8 (LCDWIDTH * LCDHEIGHT / 8)) (rst_pin : Int8)
    (contrast bias : UInt8) (calls : List Call) : Option Nokia :=
  ((construct font buffer rst_pin).begin contrast bias).bind fun lcd => calls.foldlM perform lcd

theorem session_follows (font : Font) (buffer : Vector UInt8 (LCDWIDTH * LCDHEIGHT / 8))
    (rst_pin : Int8) (contrast bias : UInt8) (glass : Panel) {calls : List Call}
    (allowed : ∀ call ∈ calls, Allowed resets call) :
    ∃ lcd, session font buffer rst_pin contrast bias calls = some lcd ∧
      Follows resets glass lcd := by
  obtain ⟨lcd, panel, begun, heard, tracks, -⟩ :=
    @begin_spec resets font buffer rst_pin contrast bias glass
  have keeps (lcd : Nokia) (call : Call) (follows : Follows resets glass lcd)
      (allowed : Allowed resets call) :
      ∃ next, lcd.perform call = some next ∧ Follows resets glass next :=
    perform_follows follows allowed
  rw [session, begun]
  exact Runs.invariant_foldlM (Follows resets glass) keeps ⟨panel, heard, tracks⟩ allowed

theorem session_display (font : Font) (buffer : Vector UInt8 (LCDWIDTH * LCDHEIGHT / 8))
    (rst_pin : Int8) (contrast bias : UInt8) (calls : List Call) :
    session font buffer rst_pin contrast bias (calls ++ [.display]) =
      (session font buffer rst_pin contrast bias calls).bind display := by
  rw [session, session]
  cases (construct font buffer rst_pin).begin contrast bias with
  | none => rfl
  | some lcd => simp [List.foldlM_append, perform]

/-- Whatever is called after `begin`, on a glass in any state, no call fails or reads outside the
buffer, the controller takes every byte, its registers are those the driver has noted, and its
bytes outside the box are those of the buffer. -/
theorem glass_follows (font : Font) (buffer : Vector UInt8 (LCDWIDTH * LCDHEIGHT / 8))
    (rst_pin : Int8) (contrast bias : UInt8) (glass : Panel) (resets : Panel → Panel)
    (calls : List Call) (allowed : ∀ call ∈ calls, Allowed resets call) :
    ∃ lcd panel, session font buffer rst_pin contrast bias calls = some lcd ∧
      glass.hearAll resets lcd.sent = some panel ∧ Configured lcd panel ∧ lcd.Boxed ∧
      ∀ i, ¬lcd.Stale i → panel.ram[i]? = lcd.pcd8544_buffer[i]? := by
  obtain ⟨lcd, done, panel, heard, tracks⟩ :=
    session_follows font buffer rst_pin contrast bias glass allowed
  exact ⟨lcd, panel, done, heard, tracks.configured, tracks.boxed, tracks.agree⟩

/-- The reset of a controller that keeps its bytes and forgets everything else. -/
def forget (panel : Panel) : Panel := ⟨panel.ram, none, none, none, none, none, none⟩

theorem glass_follows_reset : ∃ lcd panel, session (fun _ => 0) (Vector.replicate _ 0x3C) 4 40 4
      [.setReinitInterval 1, .setRotation 3, .drawPixel 47 83 BLACK, .display] = some lcd ∧
    Panel.hearAll forget lcd.sent ⟨Vector.replicate _ 0, none, none, none, none, none, none⟩ =
      some panel ∧ Configured lcd panel ∧ lcd.Boxed ∧
      ∀ i, ¬lcd.Stale i → panel.ram[i]? = lcd.pcd8544_buffer[i]? :=
  glass_follows _ _ _ _ _ _ forget _ (by simp [Allowed, forget])

/-- After `display` the glass has the bytes of the buffer, all of them, however little of it that
call sent. -/
theorem glass_shows (font : Font) (buffer : Vector UInt8 (LCDWIDTH * LCDHEIGHT / 8))
    (rst_pin : Int8) (contrast bias : UInt8) (glass : Panel) (resets : Panel → Panel)
    (calls : List Call) (allowed : ∀ call ∈ calls, Allowed resets call) :
    ∃ before lcd panel, session font buffer rst_pin contrast bias calls = some before ∧
      session font buffer rst_pin contrast bias (calls ++ [.display]) = some lcd ∧
      glass.hearAll resets lcd.sent = some panel ∧ panel.ram = before.pcd8544_buffer := by
  obtain ⟨before, done, panel, heard, tracks⟩ :=
    session_follows font buffer rst_pin contrast bias glass allowed
  obtain ⟨lcd, shown, sent, heard', -, same, kept, -⟩ := display_spec heard tracks
  refine ⟨before, lcd, shown, done, ?_, heard', same.trans kept⟩
  rw [session_display, done]
  exact sent

/-- The reset of a controller that also clears its bytes. -/
def clear (_ : Panel) : Panel := ⟨Vector.replicate _ 0, none, none, none, none, none, none⟩

theorem glass_shows_part : ∃ before lcd panel,
    session (fun _ => 0) (Vector.replicate _ 0x3C) 4 40 4
      [.updateBoundingBox 2 3 50 20, .scroll (-7) 3] = some before ∧
    session (fun _ => 0) (Vector.replicate _ 0x3C) 4 40 4
      ([.updateBoundingBox 2 3 50 20, .scroll (-7) 3] ++ [.display]) = some lcd ∧
    Panel.hearAll clear lcd.sent ⟨Vector.replicate _ 0xFF, none, none, none, none, none, none⟩ =
      some panel ∧ panel.ram = before.pcd8544_buffer :=
  glass_shows _ _ _ _ _ _ clear _ (by simp [Allowed])

end Nokia

end ResistorCutter
