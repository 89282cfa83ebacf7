import DotMatrix.Bus.Flat
import DotMatrix.Console.Folder
import DotMatrix.Main
import DotMatrix.Cpu.Work
import DotMatrix.Proofs.Bus.Agreement
import DotMatrix.Proofs.Cpu.Enabling
import DotMatrix.Proofs.Cpu.Lockstep
import DotMatrix.Proofs.Cpu.Timing
import DotMatrix.Proofs.Lcd.Dot
import DotMatrix.Proofs.Lcd.Entry
import DotMatrix.Proofs.Lcd.Pixel
import DotMatrix.Proofs.Lcd.Schedule
import DotMatrix.Proofs.Machine.Delivery
import DotMatrix.Proofs.Timer.FreeRun
import DotMatrix.Proofs.Cartridge.Timekeeping
import DotMatrix.Proofs.Cartridge.Registers
import DotMatrix.Proofs.Lcd.Representation
import DotMatrix.Proofs.Cpu.Serving
import DotMatrix.Proofs.MemoryMap.Calls
import DotMatrix.Proofs.MemoryMap.Copying
import DotMatrix.Proofs.MemoryMap.Display
import DotMatrix.Proofs.MemoryMap.Requests
import DotMatrix.Proofs.Lcd.History
import DotMatrix.Proofs.Lcd.StatusLine
import DotMatrix.Proofs.Lcd.WholeFrame
import DotMatrix.Proofs.Lcd.WindowLines
import DotMatrix.Proofs.Lcd.Cuts
import DotMatrix.Proofs.Timer.Alignment
import DotMatrix.Proofs.MemoryMap.ReloadWindow
import DotMatrix.Proofs.MemoryMap.PlainMemory
import DotMatrix.Proofs.Machine.Lockup
import DotMatrix.Proofs.Machine.Moves
import DotMatrix.Proofs.Machine.OneFrame
import DotMatrix.Proofs.Machine.Pieces
import DotMatrix.Proofs.Cartridge.ProgramBanks
import DotMatrix.Proofs.Cartridge.MemoryCells
import DotMatrix.Proofs.Narrow.Machine
import DotMatrix.Proofs.Handoff
import DotMatrix.Proofs.Serial.Transfers
import DotMatrix.Proofs.Cartridge.Counting
import DotMatrix.Proofs.Cartridge.Format
import DotMatrix.Proofs.Cpu.Operands
import DotMatrix.Proofs.Cpu.Steps
import DotMatrix.Proofs.Cpu.HaltBug
import DotMatrix.Proofs.Cpu.Halting
import DotMatrix.Proofs.Cpu.Doubling
import DotMatrix.Proofs.Cartridge.Latching
import DotMatrix.Proofs.Cpu.Confinement
import DotMatrix.Proofs.Cpu.Stack
import DotMatrix.Proofs.Arithmetic.PackedDecimal
import DotMatrix.Proofs.Joypad.Lines
import DotMatrix.Proofs.Lcd.Selection
import DotMatrix.Proofs.Machine.Batches
import DotMatrix.Proofs.Text.Utf8
import DotMatrix.Proofs.Cartridge.Title
