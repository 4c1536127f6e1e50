/-! # Sinks

A sink takes the bytes that are written to it, either all of them or up to a limit. A write that
does not fit fails after as many bytes as do fit. -/

namespace GuestDebugger

/-- Takes written bytes. -/
structure Sink where
  /-- The bytes taken so far. -/
  written : ByteArray := .empty
  /-- How many more bytes are taken; all, if there is no limit. -/
  room : Option Nat := none

namespace Sink

/-- Writes bytes. Gives whether all of them were taken. -/
def writeBytes (k : Sink) (bytes : ByteArray) : Bool × Sink :=
  match k.room with
  | none => (true, { k with written := k.written ++ bytes })
  | some room =>
    if bytes.size ≤ room then
      (true, { written := k.written ++ bytes, room := some (room - bytes.size) })
    else (false, { written := k.written ++ bytes.extract 0 room, room := some 0 })

/-- Writes a text. Gives whether all of it was taken. -/
def write (k : Sink) (text : String) : Bool × Sink := k.writeBytes text.toUTF8

end Sink

end GuestDebugger
