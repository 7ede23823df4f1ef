import Mathlib.Data.Fintype.Basic
import ResistorCutter.SessionChecks
import ResistorCutter.SpiCore

/-!
What arrives of the bytes that are written to the pins: every byte, in the first three modes, and
so the controller of the glass has the picture of the sketch behind its five pins.
-/

namespace ResistorCutter

namespace SPIDevice

open SerialLine

variable {device : SPIDevice} {τ : Type*} {act : List Bool → τ → Option τ}

def bit (send b : UInt8) : Bool := send &&& b != 0

def bitsOf (device : SPIDevice) (send : UInt8) : List Bool :=
  (device.masks 9 device.startbit).map (bit send)

theorem masks_eq (device : SPIDevice) : device.masks 9 device.startbit =
    if device._dataOrder = .LSBFIRST then [1, 2, 4, 8, 16, 32, 64, 128]
    else [128, 64, 32, 16, 8, 4, 2, 1] := by
  obtain ⟨order, mode⟩ := device
  cases order <;> cases mode <;> decide

theorem length_bitsOf (device : SPIDevice) (send : UInt8) : (device.bitsOf send).length = 8 := by
  rw [bitsOf, List.length_map, masks_eq]
  split <;> rfl

theorem byteOf_bitsOf (device : SPIDevice) (send : UInt8) :
    device.byteOf (device.bitsOf send) = send := by
  have most : ∀ n : Fin 256, ([128, 64, 32, 16, 8, 4, 2, 1] : List UInt8).foldl
      (fun (byte : UInt8) b => byte <<< 1 ||| (bit (UInt8.ofNat n) b).toUInt8) 0 =
        UInt8.ofNat n := by
    decide +kernel
  have value : UInt8.ofNat (⟨send.toNat, send.toNat_lt⟩ : Fin 256) = send := UInt8.ofNat_toNat
  have byte := most ⟨send.toNat, send.toNat_lt⟩
  rw [value] at byte
  rw [bitsOf, masks_eq, byteOf]
  split
  · rw [← List.map_reverse, List.foldl_map]
    exact byte
  · rw [List.foldl_map]
    exact byte

/-! One byte. -/

/-- What `lastmosi` says of the line, where it is used. -/
def Knows (device : SPIDevice) (lastmosi : Bool) (line : Line) (next : Bool) : Prop :=
  device._dataMode ≠ .SPI_MODE1 → lastmosi = next → line.mosi = next

theorem transferBit_heard (good : device._dataMode ≠ .SPI_MODE3) {line : Line}
    (ready : Ready device.edge line) (result : τ) {send b : UInt8} {lastmosi : Bool}
    (knows : device.Knows lastmosi line (bit send b)) :
    hearAll 8 device.edge act (line, result) (device.transferBit send lastmosi b).1 =
      push 8 act (line, result) (bit send b) := by
  rw [transferBit]
  split
  · next first =>
    have placed : hearAll 8 device.edge act (line, result)
        (if lastmosi ≠ bit send b then [(.mosi, bit send b)] else []) =
          some ({ line with mosi := bit send b }, result) := by
      split
      · rfl
      · next same =>
        have known := knows (by rcases first with mode | mode <;> simp [mode]) (not_not.mp same)
        rw [← known]
        rfl
    have settled : Ready device.edge { line with mosi := bit send b } :=
      ⟨ready.selected, ready.clock⟩
    rw [hearAll_append]
    refine (congrArg (Option.bind · _) placed).trans ?_
    exact hear_pulse settled result
  · next second =>
    have mode : device._dataMode = .SPI_MODE1 := by
      cases mode : device._dataMode <;> simp [mode] at second good ⊢
    have falling : device.edge = false := by simp [edge, mode]
    rw [falling] at ready ⊢
    exact hear_between ready result (bit send b)

theorem transferBit_last (good : device._dataMode ≠ .SPI_MODE3)
    (other : device._dataMode ≠ .SPI_MODE1) (send : UInt8) (lastmosi : Bool) (b : UInt8) :
    (device.transferBit send lastmosi b).2 = bit send b := by
  have first : device._dataMode = .SPI_MODE0 ∨ device._dataMode = .SPI_MODE2 := by
    cases mode : device._dataMode <;> simp [mode] at good other ⊢
  rw [transferBit, if_pos first]
  rfl

theorem transferBits_heard (good : device._dataMode ≠ .SPI_MODE3) (send : UInt8)
    (masks : List UInt8) {line : Line} (ready : Ready device.edge line) (result : τ)
    {lastmosi : Bool} (knows : ∀ b ∈ masks.head?, device.Knows lastmosi line (bit send b)) :
    hearAll 8 device.edge act (line, result) (device.transferBits send lastmosi masks).1 =
      (masks.map (bit send)).foldlM (push 8 act) (line, result) := by
  induction masks generalizing line result lastmosi with
  | nil => rfl
  | cons b rest ih =>
      have now := @transferBit_heard device _ act good _ ready result send b lastmosi
        (knows b rfl)
      rw [transferBits, hearAll_append, now, List.map_cons, List.foldlM_cons]
      cases pushed : push 8 act (line, result) (bit send b) with
      | none => rfl
      | some next =>
          obtain ⟨settled, level⟩ : Ready device.edge next.1 ∧ next.1.mosi = bit send b :=
            push_ready ready.selected pushed
          refine ih settled next.2 fun other _ mode same => ?_
          rw [transferBit_last good mode] at same
          exact level.trans same

theorem transferBits_last (good : device._dataMode ≠ .SPI_MODE3)
    (other : device._dataMode ≠ .SPI_MODE1) (send : UInt8) {masks : List UInt8}
    (nonempty : masks ≠ []) (lastmosi : Bool) :
    (device.transferBits send lastmosi masks).2 = bit send (masks.getLast nonempty) := by
  induction masks generalizing lastmosi with
  | nil => exact absurd rfl nonempty
  | cons b rest ih =>
      rw [transferBits]
      by_cases last : rest = []
      · subst last
        exact transferBit_last good other send lastmosi b
      · rw [List.getLast_cons last]
        exact ih last _

/-! The bytes of a buffer. -/

/-- Between the bytes. -/
structure Waits (device : SPIDevice) (line : Line) : Prop where
  ready : Ready device.edge line
  empty : line.bits = []

/-- The effect of one byte, as it is received. -/
def received (device : SPIDevice) (act : List Bool → τ → Option τ) (result : τ) (send : UInt8) :
    Option τ := act (device.bitsOf send) result

theorem masks_head (device : SPIDevice) :
    (device.masks 9 device.startbit).head? = some device.startbit := by
  rw [masks_eq, startbit]
  split <;> rfl

theorem masks_ne_nil (device : SPIDevice) : device.masks 9 device.startbit ≠ [] := by
  intro none
  have first := device.masks_head
  simp [none] at first

theorem transferBytes_heard (good : device._dataMode ≠ .SPI_MODE3) (buffer : List UInt8)
    {line : Line} (waits : device.Waits line) {lastmosi : Bool}
    (knows : ∀ send ∈ buffer.head?, device.Knows lastmosi line (bit send device.startbit)) :
    ∃ after, device.Waits after ∧ ∀ result,
      hearAll 8 device.edge act (line, result) (device.transferBytes lastmosi buffer) =
        (buffer.foldlM (device.received act) result).map fun result => (after, result) := by
  induction buffer generalizing line lastmosi with
  | nil => exact ⟨line, waits, fun _ => rfl⟩
  | cons send rest ih =>
      have start : ∀ b ∈ (device.masks 9 device.startbit).head?,
          device.Knows lastmosi line (bit send b) := by
        rw [device.masks_head]
        rintro b ⟨⟩
        exact knows send rfl
      have nonempty : device.bitsOf send ≠ [] := by
        rw [bitsOf, ne_eq, List.map_eq_nil_iff]
        exact device.masks_ne_nil
      let next : Line := sent line ((device.bitsOf send).getLast nonempty) []
      have whole : line.bits.length + (device.bitsOf send).length = 8 := by
        rw [waits.empty, length_bitsOf]
        rfl
      have now (result : τ) : hearAll 8 device.edge act (line, result)
          (device.transferBits send lastmosi (device.masks 9 device.startbit)).1 =
            (device.received act result send).map fun result => (next, result) := by
        rw [transferBits_heard good send _ waits.ready result start]
        refine (push_word line result nonempty whole).trans ?_
        rw [waits.empty]
        rfl
      have settled : device.Waits next := ⟨⟨waits.ready.selected, fun _ => rfl⟩, rfl⟩
      obtain ⟨after, done, later⟩ := @ih next settled
        (device.transferBits send lastmosi (device.masks 9 device.startbit)).2
        fun _ _ mode same => by
          rw [transferBits_last good mode send device.masks_ne_nil] at same
          rw [← same]
          exact List.getLast_map (f := bit send) _
      refine ⟨after, done, fun result => ?_⟩
      rw [transferBytes, hearAll_append, now, List.foldlM_cons]
      cases device.received act result send with
      | none => rfl
      | some result => exact later result

theorem transfer_heard (good : device._dataMode ≠ .SPI_MODE3) (buffer : List UInt8)
    {line : Line} (waits : device.Waits line) :
    ∃ after, device.Waits after ∧ ∀ result,
      hearAll 8 device.edge act (line, result) (device.transfer buffer) =
        (buffer.foldlM (device.received act) result).map fun result => (after, result) := by
  refine transferBytes_heard good buffer waits fun send first _ same => ?_
  cases buffer with
  | nil => cases first
  | cons head rest =>
      obtain rfl : head = send := Option.some.inj first
      -- `lastmosi` starts as the other level, so that the first bit is written
      exact absurd same (Bool.not_ne_self _)

theorem transfers_heard (good : device._dataMode ≠ .SPI_MODE3) (buffer : List UInt8)
    {line : Line} (waits : device.Waits line) :
    ∃ after, device.Waits after ∧ ∀ result,
      hearAll 8 device.edge act (line, result)
          (buffer.flatMap fun send => device.transfer [send]) =
        (buffer.foldlM (device.received act) result).map fun result => (after, result) := by
  induction buffer generalizing line with
  | nil => exact ⟨line, waits, fun _ => rfl⟩
  | cons send rest ih =>
      obtain ⟨next, settled, now⟩ := @transfer_heard device _ act good [send] line waits
      obtain ⟨after, done, later⟩ := ih settled
      refine ⟨after, done, fun result => ?_⟩
      rw [List.flatMap_cons, hearAll_append, now, List.foldlM_cons, List.foldlM_cons]
      cases device.received act result send with
      | none => rfl
      | some result => exact later result

/-! Transactions. -/

/-- Between the transactions. -/
structure Idle (device : SPIDevice) (line : Line) : Prop where
  clock : device.edge = true → line.sck = false
  empty : line.bits = []

theorem begin_heard (good : device._dataMode ≠ .SPI_MODE3) (line : Line) :
    ∃ after, device.Idle after ∧ ∀ result : τ,
      hearAll 8 device.edge act (line, result) device.begin = some (after, result) := by
  let level := !(device._dataMode = .SPI_MODE0 || device._dataMode = .SPI_MODE1)
  refine ⟨⟨level, true, true, []⟩, ⟨fun rising => ?_, rfl⟩, fun result => ?_⟩
  · cases mode : device._dataMode <;> simp [level, edge, mode] at rising good ⊢
  · obtain ⟨sck, mosi, cs, bits⟩ := line
    simp [begin, hearAll, hear, level]

/-- A transaction sends bytes in one of the two ways. -/
theorem transaction_heard {levels : Levels} {buffer : List UInt8} {line : Line}
    (heard : ∀ line, device.Waits line → ∃ after, device.Waits after ∧ ∀ result,
      hearAll 8 device.edge act (line, result) levels =
        (buffer.foldlM (device.received act) result).map fun result => (after, result))
    (idle : device.Idle line) :
    ∃ after, device.Idle after ∧ ∀ result,
      hearAll 8 device.edge act (line, result) ([(.cs, false)] ++ levels ++ [(.cs, true)]) =
        (buffer.foldlM (device.received act) result).map fun result => (after, result) := by
  obtain ⟨after, waits, bytes⟩ := heard { line with cs := false } ⟨⟨rfl, idle.clock⟩, idle.empty⟩
  refine ⟨{ after with cs := true, bits := [] }, ⟨waits.ready.clock, rfl⟩, fun result => ?_⟩
  have selected : hearAll 8 device.edge act (line, result) [(.cs, false)] =
      some ({ line with cs := false }, result) := rfl
  rw [hearAll_append, hearAll_append, selected, Option.bind_some, bytes]
  cases buffer.foldlM (device.received act) result <;> rfl

inductive Transaction
  | write (buffer : List UInt8)
  | writeAndRead (buffer : List UInt8)

def Transaction.buffer : Transaction → List UInt8
  | write buffer => buffer
  | writeAndRead buffer => buffer

def levels (device : SPIDevice) : Transaction → Levels
  | .write buffer => device.write buffer
  | .writeAndRead buffer => device.writeAndRead buffer

theorem levels_heard (good : device._dataMode ≠ .SPI_MODE3) (transaction : Transaction)
    {line : Line} (idle : device.Idle line) :
    ∃ after, device.Idle after ∧ ∀ result,
      hearAll 8 device.edge act (line, result) (device.levels transaction) =
        (transaction.buffer.foldlM (device.received act) result).map fun result =>
          (after, result) := by
  cases transaction with
  | write buffer => exact transaction_heard (fun _ waits => transfers_heard good buffer waits) idle
  | writeAndRead buffer =>
      exact transaction_heard (fun _ waits => transfer_heard good buffer waits) idle

/-- The bytes that a receiver in the mode of the device makes of what it hears. -/
def receive (device : SPIDevice) (line : Line) (events : Levels) : Option (List UInt8) :=
  (hearAll 8 device.edge (fun bits bytes => some (bytes ++ [device.byteOf bits])) (line, [])
    events).map Prod.snd

theorem transactions_heard (good : device._dataMode ≠ .SPI_MODE3)
    (transactions : List Transaction) {line : Line} (idle : device.Idle line)
    (bytes : List UInt8) :
    (hearAll 8 device.edge (fun bits bytes => some (bytes ++ [device.byteOf bits])) (line, bytes)
      (transactions.flatMap device.levels)).map Prod.snd =
        some (bytes ++ transactions.flatMap Transaction.buffer) := by
  have taken (buffer bytes : List UInt8) :
      buffer.foldlM (device.received fun bits bytes => some (bytes ++ [device.byteOf bits]))
        bytes = some (bytes ++ buffer) := by
    induction buffer generalizing bytes with
    | nil => rw [List.append_nil]; rfl
    | cons send rest ih =>
        rw [List.foldlM_cons, received, byteOf_bitsOf]
        exact (ih (bytes ++ [send])).trans (by rw [List.append_assoc]; rfl)
  induction transactions generalizing line bytes with
  | nil => rw [List.flatMap_nil, List.flatMap_nil, List.append_nil]; rfl
  | cons transaction rest ih =>
      obtain ⟨after, settled, now⟩ := @levels_heard device _
        (fun bits bytes => some (bytes ++ [device.byteOf bits])) good transaction line idle
      rw [List.flatMap_cons, List.flatMap_cons, hearAll_append, now, taken, Option.map_some,
        Option.bind_some, ih settled, List.append_assoc]

/-- In the first three modes and in either order of the bits a receiver gets every byte of every
transaction, whatever the levels on the line and in it before `begin`; in the fourth it does not:
the edge that would take the last bit of a transaction is made in the next one. -/
theorem bytes_received_iff (device : SPIDevice) :
    (∀ (line : Line) (transactions : List Transaction),
      device.receive line (device.begin ++ transactions.flatMap device.levels) =
        some (transactions.flatMap Transaction.buffer)) ↔
      device._dataMode ≠ .SPI_MODE3 := by
  constructor
  · intro all fourth
    obtain ⟨order, mode⟩ := device
    obtain rfl : mode = .SPI_MODE3 := fourth
    have one := all ⟨false, false, true, []⟩ [.write [0]]
    cases order <;> exact absurd one (by decide)
  · intro good line transactions
    obtain ⟨after, idle, begun⟩ := @begin_heard device _
      (fun bits bytes => some (bytes ++ [device.byteOf bits])) good line
    rw [receive, hearAll_append, begun, Option.bind_some, transactions_heard good transactions idle]
    rfl

end SPIDevice

/-! The glass. -/

namespace Panel

open SerialLine Nokia SPIDevice

variable {resets : Panel → Panel} {chip : Chip}

theorem spi_dev_good : spi_dev._dataMode ≠ .SPI_MODE3 := by decide

/-- Between the signals. -/
def Chip.Rests (chip : Chip) : Prop := spi_dev.Idle chip.line

theorem Chip.hearAll_append (first second : List (Pin × Bool)) :
    Chip.hearAll resets chip (first ++ second) =
      (Chip.hearAll resets chip first).bind fun next => Chip.hearAll resets next second := by
  rw [Chip.hearAll, List.foldlM_append]
  rfl

theorem hearAll_onPins (events : Levels) (line : Line) (dc : Bool) (panel : Panel) :
    Chip.hearAll resets ⟨line, dc, panel⟩ (onPins events) =
      (SerialLine.hearAll 8 true (take dc) (line, panel) events).map fun next =>
        ⟨next.1, dc, next.2⟩ := by
  induction events generalizing line panel with
  | nil => rfl
  | cons event rest ih =>
      have now : Chip.hear resets ⟨line, dc, panel⟩ (.spi event.1, event.2) =
          (SerialLine.hear 8 true (take dc) (line, panel) event).map fun next =>
            ⟨next.1, dc, next.2⟩ := rfl
      rw [onPins, List.map_cons, Chip.hearAll, List.foldlM_cons, now, SerialLine.hearAll,
        List.foldlM_cons]
      cases SerialLine.hear 8 true (take dc) (line, panel) event with
      | none => rfl
      | some next => exact ih next.1 next.2

theorem received_take (dc : Bool) : spi_dev.received (take dc) =
    fun (panel : Panel) byte => if dc then panel.store byte else panel.command byte := by
  funext panel byte
  rw [received, take, byteOf_bitsOf]

/-- A call of `write` hands every byte to the controller. -/
theorem write_heard (rests : chip.Rests) (buffer : List UInt8) :
    ∃ line, spi_dev.Idle line ∧
      Chip.hearAll resets chip (onPins (spi_dev.write buffer)) =
        (buffer.foldlM (fun (panel : Panel) byte => if chip.dc then panel.store byte else
          panel.command byte) chip.panel).map fun panel => ⟨line, chip.dc, panel⟩ := by
  obtain ⟨line, dc, panel⟩ := chip
  obtain ⟨after, idle, heard⟩ :=
    @levels_heard spi_dev _ (take dc) spi_dev_good (.write buffer) line rests
  refine ⟨after, idle, ?_⟩
  have bytes := heard panel
  rw [received_take] at bytes
  rw [hearAll_onPins]
  refine (congrArg _ bytes).trans ?_
  rw [Option.map_map]
  rfl

/-- What is on the pins means what the signals do. -/
theorem levels_heard (rests : chip.Rests) (signal : Signal) :
    ∃ rest : Panel → Chip, (∀ panel, (rest panel).Rests ∧ (rest panel).panel = panel) ∧
      Chip.hearAll resets chip (levels signal) = (chip.panel.hear resets signal).map rest := by
  cases signal with
  | reset =>
      exact ⟨fun panel => { chip with panel := panel }, fun _ => ⟨rests, rfl⟩, rfl⟩
  | command c =>
      have set : ({ chip with dc := false } : Chip).Rests := rests
      obtain ⟨line, idle, heard⟩ := @write_heard resets _ set [c]
      refine ⟨fun panel => ⟨line, false, panel⟩, fun _ => ⟨idle, rfl⟩, heard.trans ?_⟩
      simp [hear]
  | data bytes =>
      have set : ({ chip with dc := true } : Chip).Rests := rests
      obtain ⟨line, idle, heard⟩ := @write_heard resets _ set bytes
      exact ⟨fun panel => ⟨line, true, panel⟩, fun _ => ⟨idle, rfl⟩, heard⟩

theorem signals_heard (rests : chip.Rests) (signals : List Signal) :
    (Chip.hearAll resets chip (signals.flatMap levels)).map Chip.panel =
      chip.panel.hearAll resets signals := by
  induction signals generalizing chip with
  | nil => rfl
  | cons signal later ih =>
      obtain ⟨rest, kept, heard⟩ := @levels_heard resets _ rests signal
      rw [List.flatMap_cons, Chip.hearAll_append, heard, Panel.hearAll, List.foldlM_cons]
      cases chip.panel.hear resets signal with
      | none => rfl
      | some panel =>
          obtain ⟨settled, same⟩ := kept panel
          have after := ih settled
          rw [same] at after
          exact after

/-- Behind the pins the controller hears the signals and nothing else, whatever the levels on
them were before. -/
theorem pins_heard (chip : Chip) (signals : List Signal) :
    (Chip.hearAll resets chip (pins signals)).map Chip.panel =
      chip.panel.hearAll resets signals := by
  obtain ⟨line, dc, panel⟩ := chip
  obtain ⟨after, idle, begun⟩ := @begin_heard spi_dev _ (take dc) spi_dev_good line
  have started : Chip.hearAll resets ⟨line, dc, panel⟩ (onPins spi_dev.begin) =
      some ⟨after, dc, panel⟩ := by
    rw [hearAll_onPins]
    exact congrArg _ (begun panel)
  rw [pins, Chip.hearAll_append, started, Option.bind_some]
  exact @signals_heard resets ⟨after, dc, panel⟩ idle signals

end Panel

namespace Config

/-- In every run of the sketch all that the driver puts on the five pins makes a controller, in
any state and with any levels on the pins before, hold the dots of the picture of the model. -/
theorem sketch_shows (font : Font) (logo : Vector UInt8 (LCDWIDTH * LCDHEIGHT / 8)) (safe : Bool)
    (rst : Int8) (chip : Panel.Chip) (resets : Panel → Panel) (inputs : List Input) :
    ∃ lcd after, (Nokia.constructDisplay font logo rst).bind
        ((allCalls ⟨font, (AdafruitPCD8544.construct logo).picture, safe⟩ inputs).foldlM
          Nokia.performDisplay) = some lcd ∧
      chip.hearAll resets (Nokia.pins lcd.sent) = some after ∧
      after.panel.picture = (run ⟨font, (AdafruitPCD8544.construct logo).picture, safe⟩
        inputs).interface.display.picture := by
  obtain ⟨lcd, done, lit⟩ := @Nokia.lit_run resets font logo rst chip.panel _ (fits_allCalls
    ⟨font, (AdafruitPCD8544.construct logo).picture, safe⟩ inputs)
  obtain ⟨panel, heard, same⟩ := lit.panel
  have pins := @Panel.pins_heard resets chip lcd.sent
  rw [heard] at pins
  obtain ⟨after, arrived, kept⟩ := Option.map_eq_some_iff.mp pins
  refine ⟨lcd, after, done, arrived, ?_⟩
  rw [kept, same, allCalls_display]

end Config

end ResistorCutter
