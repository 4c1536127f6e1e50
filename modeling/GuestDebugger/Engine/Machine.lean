import GuestDebugger.Bytes
import GuestDebugger.Engine.Basic
import GuestDebugger.Listing.Basic

/-! # The machine that executes listings

The instruction pointer moves last: an instruction that fails leaves it where it is. Batches stop
before an address of the break set and after the guest has ended. -/

namespace GuestDebugger

/-- A surface as it was created. -/
structure CreatedSurface where
  /-- Its handle. -/
  handle : SurfaceHandle
  /-- Its width in pixels. -/
  width : UInt32
  /-- Its height in pixels. -/
  height : UInt32
deriving DecidableEq, Repr

/-- A machine that executes a listing. -/
@[ext] structure Machine where
  /-- The guest program. -/
  listing : Listing
  /-- The registers. -/
  registers : Registers
  /-- The guest memory. -/
  memory : ByteArray
  /-- Where batches stop. -/
  breaks : AddressSet := ∅
  /-- The window that was opened last. -/
  lastWindow : Option WindowHandle := none
  /-- The surface that was created last. -/
  lastSurface : Option CreatedSurface := none

namespace Machine

/-- The size of guest memory unless another one is asked for. -/
def defaultMemorySize : Nat := 0x10000

/-- A machine before its first instruction. The stack begins at the end of the memory. -/
def create (listing : Listing) (memorySize : Nat) : Machine :=
  { listing
    registers := { eip := listing.entry?.getD 0, esp := UInt32.ofNat memorySize }
    memory := Bytes.replicate memorySize 0 }

/-- The address of the next instruction. -/
def pc (m : Machine) : Address := m.registers.eip

/-- Whether an address is in the break set. -/
def hasBreak (m : Machine) (a : Address) : Bool := a ∈ m.breaks

/-- The address after an instruction that does not jump. -/
def fallThrough (m : Machine) : Address := (m.listing.nextAddress? m.pc).getD (m.pc + 1)

/-- The machine with a new instruction pointer. -/
def goTo (m : Machine) (a : Address) : Machine :=
  { m with registers := { m.registers with eip := a } }

/-- The machine with a new result register. -/
def setResult (m : Machine) (value : UInt32) : Machine :=
  { m with registers := { m.registers with eax := value } }

/-- An instruction that is done: execution goes on at an address. -/
def proceed (m : Machine) (h : Host) (next : Address) : Ran Machine Unit := ⟨m.goTo next, h, .ok ()⟩

/-- An instruction that fails: the machine stays where it is. -/
def fail (m : Machine) (h : Host) (e : EngineError) : Ran Machine Unit := ⟨m, h, .error (.error e)⟩

/-- Which buffer a fill paints: the back buffer of a surface that has one. -/
def paintTarget (h : Host) (surface : SurfaceHandle) : Except DisplayError SurfaceHandle :=
  match h.attached surface with
  | .ok back => .ok back
  | .error .noBackBuffer => .ok surface
  | .error e => .error e

/-- Paints a surface with one byte value. -/
def paint (h : Host) (surface : CreatedSurface) (byte : UInt8) : Host.Result Unit :=
  match paintTarget h surface.handle,
      PixelBuffer.byteLength surface.width surface.height guestBytesPerPixel with
  | .error e, _ => (.error e, h)
  | .ok _, .error e => (.error e, h)
  | .ok target, .ok length => h.writePixels target (Bytes.replicate length byte)

/-- Executes an instruction. -/
def execute (m : Machine) (h : Host) (op : Op) : Ran Machine Unit :=
  let next := m.fallThrough
  match op with
  | .nop => m.proceed h next
  | .jump target => m.proceed h target
  | .move name value =>
    match Register.ofName? name with
    | some register => { m with registers := m.registers.set register value }.proceed h next
    | none => m.fail h (.unknownRegister name)
  | .loop target =>
    let count := m.registers.ecx - 1
    { m with registers := { m.registers with ecx := count } }.proceed h
      (if count = 0 then next else target)
  | .time =>
    let (now, h) := h.time
    (m.setResult now.toUInt32).proceed h next
  | .write text =>
    let (count, h) := h.write (Text.encode text)
    (m.setResult (UInt32.ofNat count)).proceed h next
  | .writeLine text =>
    let (count, h) := h.write (Text.encode (text ++ "\n"))
    (m.setResult (UInt32.ofNat count)).proceed h next
  | .exit code => m.proceed (h.exit code) next
  | .window title width height =>
    let (window, h) := h.createWindow { title, width, height }
    ({ m with lastWindow := some window }.setResult window.id).proceed h next
  | .surface width height primary =>
    match h.createSurface
        { width, height, primary, window := if primary then m.lastWindow else none } with
    | (.error e, h) => m.fail h (.display e)
    | (.ok handle, h) =>
      ({ m with lastSurface := some { handle, width, height } }.setResult handle.index).proceed h
        next
  | .fill byte =>
    match m.lastSurface with
    | none => m.fail h .noSurface
    | some surface =>
      match paint h surface byte with
      | (.error e, h) => m.fail h (.display e)
      | (.ok (), h) => m.proceed h next
  | .flip =>
    match m.lastSurface with
    | none => m.fail h .noSurface
    | some surface =>
      match h.flip surface.handle with
      | (.error e, h) => m.fail h (.display e)
      | (.ok (), h) => m.proceed h next
  | .poke address byte =>
    if inside : address.toNat < m.memory.size then
      { m with memory := m.memory.set address.toNat byte inside }.proceed h next
    else m.fail h (.outsideMemory address)
  | .fault message => m.fail h (.guestFault message)

/-- Executes the instruction at the instruction pointer. -/
def step (m : Machine) (h : Host) : Ran Machine Unit :=
  match m.listing.get? m.pc with
  | some op => m.execute h op
  | none => m.fail h (.noInstruction m.pc)

/-- Executes at most `fuel` more instructions of a batch in which `done` ran. -/
def runBatch (done : UInt32) : (fuel : Nat) → Machine → Host → Ran Machine UInt32
  | 0, m, h => ⟨m, h, .ok done⟩
  | fuel + 1, m, h =>
    if m.hasBreak m.pc then ⟨m, h, .ok done⟩
    else match m.step h with
      | ⟨m, h, .error halt⟩ => ⟨m, h, .error halt⟩
      | ⟨m, h, .ok ()⟩ =>
        if h.exitCode.isSome then ⟨m, h, .ok (done + 1)⟩ else runBatch (done + 1) fuel m h

/-- Executes at most the given number of instructions. -/
def stepMany (m : Machine) (h : Host) (count : UInt32) : Ran Machine UInt32 :=
  runBatch 0 count.toNat m h

/-- At most the given number of instructions from an address on. -/
def disassemble (m : Machine) (a : Address) (count : Nat) : List Disassembly :=
  ((m.listing.opsFrom a).take count).map fun (address, op) => ⟨address, op.text⟩

instance : Engine Machine where
  addBreak m a := { m with breaks := m.breaks.insert a () }
  removeBreak m a := { m with breaks := m.breaks.erase a }
  pc := pc
  registers := Machine.registers
  memory := Machine.memory
  disassemble := disassemble
  step := step
  stepMany := stepMany

end Machine

end GuestDebugger
