import GuestDebugger.Address

/-! # Display handles and failures

Windows and surfaces are named by handles. A surface handle is the number of a surface, or stands
for the back buffer of that surface. -/

namespace GuestDebugger

/-- Names a window. -/
structure WindowHandle where
  /-- The number of the window, counted from one. -/
  id : UInt32
deriving DecidableEq, Repr, Inhabited

/-- Names a surface or its back buffer. -/
structure SurfaceHandle where
  /-- The number of the surface, counted from zero. -/
  index : UInt32
  /-- Whether the back buffer of the surface is meant. -/
  attached : Bool := false
deriving DecidableEq, Repr, Inhabited

/-- The written form of a window handle. -/
def WindowHandle.text (w : WindowHandle) : String := "WindowHandle(" ++ toString w.id.toNat ++ ")"

/-- The written form of a surface handle. -/
def SurfaceHandle.text (s : SurfaceHandle) : String :=
  "SurfaceHandle \x7b index: " ++ toString s.index.toNat ++ ", attached: " ++ toString s.attached
    ++ " \x7d"

/-- Why a display call fails. -/
inductive DisplayError where
  /-- A pixel buffer has another size than the surface. -/
  | sizeMismatch (expected actual : Nat)
  /-- The surface has no back buffer. -/
  | noBackBuffer
  /-- There is no such surface. -/
  | unknownSurface (surface : SurfaceHandle)
  /-- There is no such window. -/
  | unknownWindow (window : WindowHandle)
  /-- The window has a surface already. -/
  | alreadyBound (window : WindowHandle)
  /-- The surface would take too many bytes. -/
  | tooLarge (width height : UInt32)
deriving DecidableEq, Repr

/-- What is told to the user about a failed display call. -/
def DisplayError.message : DisplayError → String
  | sizeMismatch expected actual =>
    "pixel buffer has " ++ toString actual ++ " bytes, surface needs " ++ toString expected
  | noBackBuffer => "surface has no back buffer"
  | unknownSurface surface => "unknown surface " ++ surface.text
  | unknownWindow window => "unknown window " ++ window.text
  | alreadyBound window => "window " ++ window.text ++ " already has a surface"
  | tooLarge width height =>
    "surface of " ++ toString width.toNat ++ "x" ++ toString height.toNat
      ++ " pixels is too large"

end GuestDebugger
