import GuestDebugger.Display.Surface

/-! # The display

Windows and surfaces that the guest creates. Nothing is ever removed: windows are numbered from
one and surfaces from zero in the order of their creation, and a window shows at most one surface
for good. Every call gives the display after it beside its outcome, also if it fails. -/

namespace GuestDebugger

/-- What the guest chooses about a window. -/
structure WindowOptions where
  /-- The title. -/
  title : String := ""
  /-- The width in pixels. -/
  width : UInt32 := 0
  /-- The height in pixels. -/
  height : UInt32 := 0
deriving DecidableEq, Repr

/-- A window. -/
structure Window where
  /-- The handle of the window. -/
  handle : WindowHandle
  /-- What the guest chose about it. -/
  options : WindowOptions
  /-- The surface it shows. -/
  surface : Option SurfaceHandle := none
deriving DecidableEq, Repr

/-- The bytes in a pixel that guests are offered. -/
def guestBytesPerPixel : UInt32 := 4

/-- All windows and surfaces. -/
@[ext] structure Display where
  /-- The bytes in a pixel of every surface. -/
  bytesPerPixel : UInt32
  /-- The windows in the order of their creation. -/
  windows : Array Window := #[]
  /-- The surfaces in the order of their creation. -/
  surfaces : Array Surface := #[]

namespace Display

/-- A display without windows and surfaces. A pixel has at least one byte. -/
def create (bytesPerPixel : UInt32) : Display := { bytesPerPixel := max bytesPerPixel 1 }

/-! ### Windows -/

/-- Where a window is stored. -/
def windowIndex? (handle : WindowHandle) : Option Nat :=
  if handle.id = 0 then none else some (handle.id.toNat - 1)

/-- Opens a window. -/
def createWindow (d : Display) (options : WindowOptions) : WindowHandle × Display :=
  let handle := ⟨UInt32.ofNat d.windows.size + 1⟩
  (handle, { d with windows := d.windows.push { handle, options } })

/-- The window with a handle. -/
def window (d : Display) (handle : WindowHandle) : Except DisplayError Window :=
  match (windowIndex? handle).bind (d.windows[·]?) with
  | some w => .ok w
  | none => .error (.unknownWindow handle)

/-- The handle of the window that was opened last. -/
def latestWindow? (d : Display) : Option WindowHandle := d.windows.back?.map (·.handle)

/-! ### Surfaces -/

/-- The surface with a handle, be the handle its own or that of its back buffer. -/
def owner (d : Display) (handle : SurfaceHandle) : Except DisplayError Surface :=
  match d.surfaces[handle.index.toNat]? with
  | some s => .ok s
  | none => .error (.unknownSurface handle)

/-- The pixel buffer with a handle. -/
def buffer (d : Display) (handle : SurfaceHandle) : Except DisplayError PixelBuffer := do
  let s ← d.owner handle
  if handle.attached then
    match s.back with
    | some back => return back
    | none => throw .noBackBuffer
  else return s.front

/-- Puts a pixel buffer in the place of the one with a handle. -/
def setBuffer (d : Display) (handle : SurfaceHandle) (b : PixelBuffer) : Display :=
  { d with
    surfaces := d.surfaces.modify handle.index.toNat fun s =>
      if handle.attached then { s with back := some b } else { s with front := b } }

/-- All surfaces with their handles. -/
def surfaceList (d : Display) : List (SurfaceHandle × Surface) :=
  d.surfaces.toList.zipIdx.map fun (s, i) => ({ index := UInt32.ofNat i }, s)

/-- The outcome of a call that changes the display, and the display after it. -/
abbrev Result (α : Type) := Except DisplayError α × Display

/-- Creates a surface. -/
def createSurface (d : Display) (width height : UInt32) (primary : Bool) : Result SurfaceHandle :=
  match Surface.create width height d.bytesPerPixel primary with
  | .error e => (.error e, d)
  | .ok s =>
    (.ok { index := UInt32.ofNat d.surfaces.size }, { d with surfaces := d.surfaces.push s })

/-- Makes a window show a surface. -/
def bindSurface (d : Display) (window : WindowHandle) (surface : SurfaceHandle) : Result Unit :=
  match d.buffer surface, d.window window with
  | .error e, _ => (.error e, d)
  | .ok _, .error e => (.error e, d)
  | .ok _, .ok w =>
    if w.surface.isSome then (.error (.alreadyBound w.handle), d)
    else
      (.ok (), { d with
        windows := d.windows.modify (window.id.toNat - 1) ({ · with surface := some surface }) })

/-- Replaces all pixels of a buffer. -/
def writePixels (d : Display) (handle : SurfaceHandle) (pixels : ByteArray) : Result Unit :=
  match (d.buffer handle).bind (·.write pixels) with
  | .error e => (.error e, d)
  | .ok b => (.ok (), d.setBuffer handle b)

/-- The handle of the back buffer of a primary surface. -/
def attached (d : Display) (handle : SurfaceHandle) : Except DisplayError SurfaceHandle :=
  if handle.attached then .error .noBackBuffer
  else do
    let s ← d.owner handle
    if s.isPrimary then return { handle with attached := true } else throw .noBackBuffer

/-- Presents the back buffer of a primary surface. -/
def flip (d : Display) (handle : SurfaceHandle) : Result Unit :=
  if handle.attached then (.error .noBackBuffer, d)
  else match (d.owner handle).bind (·.flip) with
    | .error e => (.error e, d)
    | .ok s => (.ok (), d.setBuffer handle s.front)

/-- A rectangle to be copied from one buffer to another. -/
structure Transfer where
  /-- The buffer that is written to. -/
  target : SurfaceHandle
  /-- The column and the row in it. -/
  targetX : UInt32
  targetY : UInt32
  /-- The buffer that is read from. -/
  source : SurfaceHandle
  /-- The column and the row in it. -/
  sourceX : UInt32
  sourceY : UInt32
  /-- The size of the rectangle in pixels. -/
  width : UInt32
  height : UInt32
deriving DecidableEq, Repr

/-- Copies a rectangle, clipped to both buffers. The rectangle is read before anything is
written. -/
def copyRect (d : Display) (t : Transfer) : Result Unit :=
  match d.buffer t.source, d.buffer t.target with
  | .error e, _ => (.error e, d)
  | .ok _, .error e => (.error e, d)
  | .ok source, .ok target =>
    let rect := source.readRect t.sourceX.toNat t.sourceY.toNat t.width.toNat t.height.toNat
    (.ok (), d.setBuffer t.target (target.writeRect t.targetX.toNat t.targetY.toNat rect))

end Display

end GuestDebugger
