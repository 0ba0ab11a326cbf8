import Chip8.Main
import Chip8.Proofs.Atomicity
import Chip8.Proofs.Brackets
import Chip8.Proofs.Safety
import Chip8.Proofs.SysCalls
import Chip8.Proofs.Commands
import Chip8.Proofs.Halting
import Chip8.Proofs.Loading
import Chip8.Proofs.Frames
import Chip8.Proofs.FrameOutcomes
import Chip8.Proofs.Accounting
import Chip8.Proofs.Footprint
import Chip8.Proofs.Clocks
import Chip8.Proofs.RandomBytes
import Chip8.Proofs.Buzzers
import Chip8.Proofs.Silence
import Chip8.Proofs.Noninterference
import Chip8.Proofs.Composition
import Chip8.Proofs.Drawing
import Chip8.Proofs.Sprites
import Chip8.Proofs.Storage
import Chip8.Proofs.KeyHold
import Chip8.Proofs.Waiting
import Chip8.Proofs.Arithmetic
import Chip8.Proofs.Transfers
import Chip8.Proofs.Pictures
import Chip8.Proofs.Redrawing
import Chip8.Proofs.Torus
import Chip8.Proofs.Mnemonics
import Chip8.Proofs.Canvas
import Chip8.Proofs.Messages
import Chip8.Proofs.HaltLog
import Chip8.Proofs.CallStacks
import Chip8.Proofs.Sessions
