import GuestDebugger.Adapter.Frame
import GuestDebugger.Sink

/-! # The wire

All messages of the adapter go over one wire. Sending is done in two steps: a message takes the
next number, and then its frame is put on the wire. -/

namespace GuestDebugger.Adapter

/-- The sending side of the adapter. -/
structure Wire where
  /-- The number that was taken last. -/
  lastSeq : UInt64 := 0
  /-- The messages on the wire in the order of their frames. -/
  messages : Array Message := #[]

namespace Wire

/-- Takes the next number. -/
def takeNumber (w : Wire) : UInt64 × Wire := (w.lastSeq + 1, { w with lastSeq := w.lastSeq + 1 })

/-- Puts the frame of a message on the wire. -/
def put (w : Wire) (m : Message) : Wire := { w with messages := w.messages.push m }

/-- Sends a content as the next message. -/
def send (w : Wire) (content : Content) : Wire :=
  let (seq, w) := w.takeNumber
  w.put { seq, kind := content.kind, content }

/-- Writes the frames of messages to a sink, as far as it takes them. -/
def writeFrames (messages : List Message) (k : Sink) : Sink :=
  messages.foldl (fun k m => (k.write m.frame).2) k

end Wire

end GuestDebugger.Adapter
