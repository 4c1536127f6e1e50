import GuestDebugger.Adapter.Requests

/-! # Serving a client

Messages are handled one after the other until a request to disconnect or the end of the input.
Only requests are answered. A frame that cannot be read is passed over, unless the input seems to
end inside it. -/

namespace GuestDebugger.Adapter

/-- Where a service takes programs and the time from. -/
structure Surroundings where
  /-- The files that may be launched. -/
  files : Files
  /-- The clock of a launched program. -/
  clock : Clock := {}

/-- The request that a message makes, if it makes one. -/
def Message.request? (m : Message) : Option Request :=
  match m.content with
  | .request command arguments => some ⟨m.seq, command, arguments.getD .null⟩
  | _ => none

/-- The files that a message asks to launch. -/
def Message.launchedFiles (m : Message) : List String :=
  match m.request? with
  | some ⟨_, "launch", arguments⟩ =>
    match LaunchSettings.ofJson arguments with
    | .ok settings => settings.files
    | .error _ => []
  | _ => []

namespace Server

/-- Handles a message, the worker proceeding only where it has to. Gives whether more messages are
handled, and the server. There is no result if the worker does not come to rest. -/
def handle (around : Surroundings) (fuel : Nat) (s : Server) (m : Message) :
    Option (Bool × Server) :=
  match m.request? with
  | none => some (true, s)
  | some r =>
    let (s, actions) := r.accept around.files around.clock s
    (s.performAll fuel actions).map (r.goesOn, ·)

/-- Ends the use of a program. -/
def shutdown (fuel : Nat) (s : Server) : Option Server := s.performAll fuel s.shutdownActions

/-- How a service ends. -/
structure Served where
  /-- Why it ended before its input, if it did. -/
  failure : Option FrameError
  /-- The server afterwards. -/
  server : Server

/-- Serves the messages of an input, at most `fuel` frames of them. -/
def serve (around : Surroundings) : (fuel : Nat) → List UInt8 → Server → Option Served
  | 0, _, _ => none
  | fuel + 1, input, s =>
    match Frame.readMessage input with
    | (.ok none, _) => (s.shutdown fuel).map (⟨none, ·⟩)
    | (.ok (some m), rest) => do
      let (goesOn, s) ← s.handle around (fuel + 1) m
      if goesOn then serve around fuel rest s else (s.shutdown fuel).map (⟨none, ·⟩)
    | (.error e, rest) =>
      if e.isEndOfInput then (s.shutdown fuel).map (⟨some e, ·⟩) else serve around fuel rest s

end Server

end GuestDebugger.Adapter
