import GuestDebugger.Clock
import GuestDebugger.Display.Basic
import GuestDebugger.Text.Utf8

/-! # The host

What a running guest calls into: its exit code, its output, the time and the display. Every call
takes effect before the instruction that makes it is over. -/

namespace GuestDebugger

/-- The host side of a guest session. -/
structure Host where
  /-- The code with which the guest ended. -/
  exitCode : Option Int32 := none
  /-- The output that was not taken yet. -/
  output : String := ""
  /-- Windows and surfaces. -/
  display : Display
  /-- The time. -/
  clock : Clock := {}

/-- What the guest chooses about a surface. -/
structure SurfaceOptions where
  /-- The width in pixels. -/
  width : UInt32
  /-- The height in pixels. -/
  height : UInt32
  /-- Whether the surface has a back buffer. -/
  primary : Bool
  /-- The window that shows a primary surface. -/
  window : Option WindowHandle
deriving DecidableEq, Repr

namespace Host

/-- A host at the beginning of a session. -/
def create (bytesPerPixel : UInt32) (clock : Clock) : Host :=
  { display := .create bytesPerPixel, clock }

/-- Ends the guest. Only the first code is kept. -/
def exit (h : Host) (code : Int32) : Host :=
  match h.exitCode with
  | none => { h with exitCode := some code }
  | some _ => h

/-- Appends the text that bytes stand for to the output. Gives the number of bytes. -/
def write (h : Host) (bytes : List UInt8) : Nat × Host :=
  (bytes.length, { h with output := h.output ++ Text.decodeLossy bytes })

/-- Takes the output that was not taken yet. -/
def takeOutput (h : Host) : String × Host := (h.output, { h with output := "" })

/-- Reads the clock. -/
def readClock (h : Host) : Float × Host :=
  let (now, clock) := h.clock.read
  (now, { h with clock })

/-- The time in whole milliseconds. -/
def time (h : Host) : UInt64 × Host :=
  let (now, h) := h.readClock
  (now.toUInt64, h)

/-- The outcome of a display call and the host after it. -/
abbrev Result (α : Type) := Except DisplayError α × Host

/-- The host after a display call. -/
def withDisplay {α : Type} (h : Host) (r : Display.Result α) : Result α :=
  (r.1, { h with display := r.2 })

/-- Opens a window. -/
def createWindow (h : Host) (options : WindowOptions) : WindowHandle × Host :=
  let (handle, display) := h.display.createWindow options
  (handle, { h with display })

/-- Whether a surface may be created for the window that the guest names. -/
def checkWindow (h : Host) (options : SurfaceOptions) : Except DisplayError Unit :=
  match options.window with
  | none => .ok ()
  | some window => do
    let w ← h.display.window window
    if options.primary && w.surface.isSome then throw (.alreadyBound window)

/-- Creates a surface. A primary one is shown in the window that the guest names. The window is
checked before anything is created. -/
def createSurface (h : Host) (options : SurfaceOptions) : Result SurfaceHandle :=
  match h.checkWindow options with
  | .error e => (.error e, h)
  | .ok () =>
    match h.withDisplay (h.display.createSurface options.width options.height options.primary) with
    | (.error e, h) => (.error e, h)
    | (.ok surface, h) =>
      match options.primary, options.window with
      | true, some window =>
        match h.withDisplay (h.display.bindSurface window surface) with
        | (.error e, h) => (.error e, h)
        | (.ok (), h) => (.ok surface, h)
      | _, _ => (.ok surface, h)

/-- Replaces all pixels of a buffer. -/
def writePixels (h : Host) (surface : SurfaceHandle) (pixels : ByteArray) : Result Unit :=
  h.withDisplay (h.display.writePixels surface pixels)

/-- The handle of the back buffer of a primary surface. -/
def attached (h : Host) (surface : SurfaceHandle) : Except DisplayError SurfaceHandle :=
  h.display.attached surface

/-- Presents the back buffer of a primary surface. -/
def flip (h : Host) (surface : SurfaceHandle) : Result Unit :=
  h.withDisplay (h.display.flip surface)

/-- Copies a rectangle from one buffer to another. -/
def copyRect (h : Host) (t : Display.Transfer) : Result Unit :=
  h.withDisplay (h.display.copyRect t)

end Host

end GuestDebugger
