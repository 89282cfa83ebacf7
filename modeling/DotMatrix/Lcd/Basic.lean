import DotMatrix.Interrupt
import DotMatrix.Lcd.Sprite
import DotMatrix.Memory.Ram

/-! # The LCD

The state of the LCD, and its registers as a program sees them. Where in the frame it is, is said by
the line, the mode and the T-cycles spent in the mode. While it is off none of these moves, and the
picture stays as it is.
-/
namespace DotMatrix

/-- The LCD. -/
structure Lcd where
  vram : Ram 0x2000 := .zeroed
  oam : Oam := .zeroed
  control : Control := {}
  sources : Sources := {}
  scrollY : UInt8 := 0
  scrollX : UInt8 := 0
  /-- The line that is being worked on; 144 to 153 lie between two frames. -/
  line : Nat := 0
  /-- The line that a program asked for. -/
  lineCompare : UInt8 := 0
  /-- Whether the two were equal when last compared. -/
  coincidence : Bool := false
  /-- The page last copied to object memory. -/
  dmaPage : UInt8 := 0
  backgroundPalette : Palette := {}
  objectPalette0 : Palette := {}
  objectPalette1 : Palette := {}
  windowY : UInt8 := 0
  windowX : UInt8 := 0
  /-- The lines of the window drawn so far in this frame. -/
  windowLine : Nat := 0
  /-- T-cycles spent in the current mode. -/
  clock : Nat := 0
  mode : Mode := .hblank
  screen : Screen := .blank
  /-- The sprites found for the current line. -/
  sprites : List Sprite := []
  /-- A frame was finished and nobody has asked yet. -/
  frameReady : Bool := false
  /-- The level of the status line, of which only a rise interrupts. -/
  statLine : Bool := false
  /-- Frames finished so far. -/
  frames : Nat := 0

namespace Lcd

instance : Inhabited Lcd := ⟨{}⟩

/-- What the boot program leaves behind. -/
def afterBoot (lcd : Lcd) : Lcd :=
  { lcd with
    control := ⟨0x91⟩
    dmaPage := 0xFF
    backgroundPalette := ⟨0xFC⟩
    sources := {}
    line := 0
    mode := .search
    clock := 0
    windowLine := 0
    coincidence := lcd.lineCompare == 0
    statLine := false }

/-! ## Access from the processor -/

/-- Video memory is closed while a line is drawn. -/
def vramOpen (lcd : Lcd) : Bool := !lcd.control.enabled || lcd.mode != .transfer

/-- Object memory is closed from the search for sprites to the end of drawing. -/
def oamOpen (lcd : Lcd) : Bool :=
  !lcd.control.enabled || lcd.mode == .hblank || lcd.mode == .vblank

/-- The byte of video memory at an address, open or not. -/
def readVram (lcd : Lcd) (address : UInt16) : UInt8 := lcd.vram.read address.toNat

/-- Store a byte in video memory, open or not. -/
def writeVram (lcd : Lcd) (address : UInt16) (value : UInt8) : Lcd :=
  { lcd with vram := lcd.vram.write address.toNat value }

/-- The byte of object memory at an address, open or not. -/
def readOam (lcd : Lcd) (address : UInt16) : UInt8 := lcd.oam.read address.toNat

/-- Store a byte in object memory, open or not. -/
def writeOam (lcd : Lcd) (address : UInt16) (value : UInt8) : Lcd :=
  { lcd with oam := lcd.oam.write address.toNat value }

/-- Whether a frame was finished since this was last asked. -/
def takeFrameReady (lcd : Lcd) : Bool × Lcd := (lcd.frameReady, { lcd with frameReady := false })

/-! ## Registers -/

/-- Compare the current line with the one asked for; not while the LCD is off. -/
def compareLine (lcd : Lcd) : Lcd :=
  if lcd.control.enabled then { lcd with coincidence := lcd.line == lcd.lineCompare.toNat } else lcd

/-- The status register: the chosen events, the comparison, and the mode, which reads zero while the
LCD is off. -/
def status (lcd : Lcd) : UInt8 :=
  lcd.sources.toByte ||| 0x80 ||| (if lcd.control.enabled then lcd.mode.number else 0) |||
    maskIf lcd.coincidence 0x04

/-- Write the control register. Switching off goes to the start of a frame and lets the status line
fall; switching on starts with the search for the sprites of the first line. -/
def setControl (lcd : Lcd) (value : UInt8) : Lcd :=
  let control : Control := ⟨value⟩
  match lcd.control.enabled, control.enabled with
  | true, false =>
    { lcd with
      control := control
      mode := .hblank
      clock := 0
      windowLine := 0
      line := 0
      statLine := false }
  | false, true => { lcd with control := control, mode := .search, clock := 0 }.compareLine
  | _, _ => { lcd with control := control }

/-- Read a register by its address. -/
def read (lcd : Lcd) (address : UInt16) : UInt8 :=
  match address with
  | 0xFF40 => lcd.control.bits
  | 0xFF41 => lcd.status
  | 0xFF42 => lcd.scrollY
  | 0xFF43 => lcd.scrollX
  | 0xFF44 => UInt8.ofNat lcd.line
  | 0xFF45 => lcd.lineCompare
  | 0xFF46 => lcd.dmaPage
  | 0xFF47 => lcd.backgroundPalette.bits
  | 0xFF48 => lcd.objectPalette0.bits
  | 0xFF49 => lcd.objectPalette1.bits
  | 0xFF4A => lcd.windowY
  | 0xFF4B => lcd.windowX
  | _ => 0xFF

/-- Write a register by its address; the current line cannot be written. -/
def write (lcd : Lcd) (address : UInt16) (value : UInt8) : Lcd :=
  match address with
  | 0xFF40 => lcd.setControl value
  | 0xFF41 => { lcd with sources := .ofByte value }
  | 0xFF42 => { lcd with scrollY := value }
  | 0xFF43 => { lcd with scrollX := value }
  | 0xFF45 => { lcd with lineCompare := value }.compareLine
  | 0xFF46 => { lcd with dmaPage := value }
  | 0xFF47 => { lcd with backgroundPalette := ⟨value⟩ }
  | 0xFF48 => { lcd with objectPalette0 := ⟨value⟩ }
  | 0xFF49 => { lcd with objectPalette1 := ⟨value⟩ }
  | 0xFF4A => { lcd with windowY := value }
  | 0xFF4B => { lcd with windowX := value }
  | _ => lcd

end Lcd
end DotMatrix
