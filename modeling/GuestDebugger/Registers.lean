/-! # Registers

Nine general registers of 32 bits, the instruction pointer among them, and six segment registers
of 16 bits. Registers are listed in a fixed order. -/

namespace GuestDebugger

/-- The name of a register. -/
inductive Register where
  | eax | ebx | ecx | edx | esp | ebp | esi | edi | eip | cs | ds | es | fs | gs | ss
deriving DecidableEq, Repr

namespace Register

/-- All registers in the order in which they are listed. -/
def all : List Register := [eax, ebx, ecx, edx, esp, ebp, esi, edi, eip, cs, ds, es, fs, gs, ss]

/-- The written name of a register. -/
def name : Register → String
  | eax => "eax"
  | ebx => "ebx"
  | ecx => "ecx"
  | edx => "edx"
  | esp => "esp"
  | ebp => "ebp"
  | esi => "esi"
  | edi => "edi"
  | eip => "eip"
  | cs => "cs"
  | ds => "ds"
  | es => "es"
  | fs => "fs"
  | gs => "gs"
  | ss => "ss"

/-- The register with a written name. -/
def ofName? (text : String) : Option Register := all.find? (·.name = text)

end Register

/-- The contents of all registers. -/
@[ext] structure Registers where
  eax : UInt32 := 0
  ebx : UInt32 := 0
  ecx : UInt32 := 0
  edx : UInt32 := 0
  esp : UInt32 := 0
  ebp : UInt32 := 0
  esi : UInt32 := 0
  edi : UInt32 := 0
  eip : UInt32 := 0
  cs : UInt16 := 0
  ds : UInt16 := 0
  es : UInt16 := 0
  fs : UInt16 := 0
  gs : UInt16 := 0
  ss : UInt16 := 0
deriving DecidableEq, Repr, Inhabited

namespace Registers

/-- The content of a register. -/
def get (r : Registers) : Register → UInt32
  | .eax => r.eax
  | .ebx => r.ebx
  | .ecx => r.ecx
  | .edx => r.edx
  | .esp => r.esp
  | .ebp => r.ebp
  | .esi => r.esi
  | .edi => r.edi
  | .eip => r.eip
  | .cs => r.cs.toUInt32
  | .ds => r.ds.toUInt32
  | .es => r.es.toUInt32
  | .fs => r.fs.toUInt32
  | .gs => r.gs.toUInt32
  | .ss => r.ss.toUInt32

/-- Sets a register. A segment register keeps the low 16 bits. -/
def set (r : Registers) (register : Register) (value : UInt32) : Registers :=
  match register with
  | .eax => { r with eax := value }
  | .ebx => { r with ebx := value }
  | .ecx => { r with ecx := value }
  | .edx => { r with edx := value }
  | .esp => { r with esp := value }
  | .ebp => { r with ebp := value }
  | .esi => { r with esi := value }
  | .edi => { r with edi := value }
  | .eip => { r with eip := value }
  | .cs => { r with cs := value.toUInt16 }
  | .ds => { r with ds := value.toUInt16 }
  | .es => { r with es := value.toUInt16 }
  | .fs => { r with fs := value.toUInt16 }
  | .gs => { r with gs := value.toUInt16 }
  | .ss => { r with ss := value.toUInt16 }

/-- All registers with their contents, in order. -/
def toList (r : Registers) : List (Register × UInt32) := Register.all.map fun x => (x, r.get x)

end Registers

end GuestDebugger
