/-! # Kinds of cartridge

One byte of the header says which bank controller a cartridge has and what else is on its board.
Nineteen of its values are in use here; the others name boards that are not known.
-/
namespace DotMatrix

/-- The bank controllers. -/
inductive Controller where
  /-- No controller: two banks, always in place. -/
  | plain
  | mbc1
  | mbc2
  | mbc3
  | mbc5
  deriving DecidableEq, Inhabited

namespace Controller

/-- The name shown for a controller. -/
def name : Controller → String
  | plain => "NoMbc"
  | mbc1 => "Mbc1"
  | mbc2 => "Mbc2"
  | mbc3 => "Mbc3"
  | mbc5 => "Mbc5"

end Controller

/-- What a cartridge is made of. -/
structure Kind where
  /-- The byte of the header. -/
  code : UInt8
  controller : Controller
  /-- Whether there is memory beside the program. -/
  ram : Bool := false
  /-- Whether that memory keeps its content when the power is off. -/
  battery : Bool := false
  /-- Whether there is a real-time clock. -/
  clock : Bool := false
  /-- Whether there is a motor. -/
  rumble : Bool := false
  deriving DecidableEq, Inhabited

namespace Kind

/-- All kinds that are known, by ascending code. -/
def all : List Kind :=
  [{ code := 0x00, controller := .plain },
    { code := 0x01, controller := .mbc1 },
    { code := 0x02, controller := .mbc1, ram := true },
    { code := 0x03, controller := .mbc1, ram := true, battery := true },
    { code := 0x05, controller := .mbc2, ram := true },
    { code := 0x06, controller := .mbc2, ram := true, battery := true },
    { code := 0x08, controller := .plain, ram := true },
    { code := 0x09, controller := .plain, ram := true, battery := true },
    { code := 0x0F, controller := .mbc3, battery := true, clock := true },
    { code := 0x10, controller := .mbc3, ram := true, battery := true, clock := true },
    { code := 0x11, controller := .mbc3 },
    { code := 0x12, controller := .mbc3, ram := true },
    { code := 0x13, controller := .mbc3, ram := true, battery := true },
    { code := 0x19, controller := .mbc5 },
    { code := 0x1A, controller := .mbc5, ram := true },
    { code := 0x1B, controller := .mbc5, ram := true, battery := true },
    { code := 0x1C, controller := .mbc5, rumble := true },
    { code := 0x1D, controller := .mbc5, ram := true, rumble := true },
    { code := 0x1E, controller := .mbc5, ram := true, battery := true, rumble := true }]

/-- The kind with a code, if it is known. -/
def ofCode? (code : UInt8) : Option Kind := all.find? fun kind => kind.code == code

end Kind
end DotMatrix
