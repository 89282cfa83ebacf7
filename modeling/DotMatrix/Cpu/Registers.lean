import DotMatrix.Cpu.Flags

/-! # Registers

Seven byte registers, the flags, the stack pointer and the program counter. Byte registers pair up
to words, the first named being the high byte; A pairs with the flag byte.
-/
namespace DotMatrix

/-- The register file. -/
structure Registers where
  a : UInt8 := 0
  flags : Flags := {}
  b : UInt8 := 0
  c : UInt8 := 0
  d : UInt8 := 0
  e : UInt8 := 0
  h : UInt8 := 0
  l : UInt8 := 0
  sp : UInt16 := 0
  pc : UInt16 := 0
  deriving DecidableEq, Inhabited

namespace Registers

/-- What the boot program leaves behind. -/
def afterBoot : Registers where
  a := 0x01
  flags := Flags.ofByte 0xB0
  b := 0x00
  c := 0x13
  d := 0x00
  e := 0xD8
  h := 0x01
  l := 0x4D
  sp := 0xFFFE
  pc := 0x0100

/-- The flag byte. -/
def f (regs : Registers) : UInt8 := regs.flags.toByte

/-- Store the flag byte; its lower half is lost. -/
def setF (regs : Registers) (value : UInt8) : Registers :=
  { regs with flags := Flags.ofByte value }

/-! ## Pairs -/

def af (regs : Registers) : UInt16 := wordOf regs.a regs.f

def bc (regs : Registers) : UInt16 := wordOf regs.b regs.c

def de (regs : Registers) : UInt16 := wordOf regs.d regs.e

def hl (regs : Registers) : UInt16 := wordOf regs.h regs.l

def setAf (regs : Registers) (word : UInt16) : Registers :=
  { regs with a := highByte word, flags := Flags.ofByte (lowByte word) }

def setBc (regs : Registers) (word : UInt16) : Registers :=
  { regs with b := highByte word, c := lowByte word }

def setDe (regs : Registers) (word : UInt16) : Registers :=
  { regs with d := highByte word, e := lowByte word }

def setHl (regs : Registers) (word : UInt16) : Registers :=
  { regs with h := highByte word, l := lowByte word }

@[simp]
theorem bc_setBc (regs : Registers) (word : UInt16) : (regs.setBc word).bc = word := by
  simp [bc, setBc]

@[simp]
theorem de_setDe (regs : Registers) (word : UInt16) : (regs.setDe word).de = word := by
  simp [de, setDe]

@[simp]
theorem hl_setHl (regs : Registers) (word : UInt16) : (regs.setHl word).hl = word := by
  simp [hl, setHl]

/-- Set or clear the flags that `mask` names in the flag byte. -/
def setFlags (regs : Registers) (mask : UInt8) (on : Bool) : Registers :=
  regs.setF (if on then regs.f ||| mask else regs.f &&& ~~~mask)

end Registers
end DotMatrix
