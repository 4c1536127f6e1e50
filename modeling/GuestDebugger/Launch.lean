import GuestDebugger.Engine.Machine
import GuestDebugger.Listing.Reader
import GuestDebugger.Session.Basic
import GuestDebugger.Text.Utf8

/-! # Launching a program

A session begins with the listing and the labels, if any, that the settings name. What goes wrong
is told in two parts: what was being done, and why it failed. -/

namespace GuestDebugger

/-- Why a file could not be read. -/
inductive FileError where
  /-- There is no such file. -/
  | notFound
  /-- The path names a directory. -/
  | isDirectory
  /-- Something else went wrong. -/
  | other (message : String)
deriving DecidableEq, Repr

/-- What is told to the user about a file that could not be read. -/
def FileError.message : FileError → String
  | notFound => "No such file or directory (os error 2)"
  | isDirectory => "Is a directory (os error 21)"
  | other message => message

/-- The contents of files by path. -/
abbrev Files := String → Except FileError (List UInt8)

/-- Why a program could not be launched. -/
inductive LaunchError where
  /-- A file could not be read. -/
  | unreadable (path : String) (error : FileError)
  /-- A file is no UTF-8. -/
  | notUtf8 (path : String)
  /-- A file is no listing. -/
  | badListing (path : String) (error : ListingError)
  /-- A file is no label file. -/
  | badLabels (path : String) (error : LabelError)
deriving DecidableEq, Repr

namespace LaunchError

/-- What was being done when the launch failed. -/
def task : LaunchError → String
  | unreadable path _ => "reading " ++ path
  | notUtf8 path => "reading " ++ path
  | badListing path _ => "parsing " ++ path
  | badLabels path _ => "parsing " ++ path

/-- Why the launch failed. -/
def cause : LaunchError → String
  | unreadable _ error => error.message
  | notUtf8 _ => "stream did not contain valid UTF-8"
  | badListing _ error => error.message
  | badLabels _ error => error.message

end LaunchError

namespace Launch

/-- Reads a file as a text. -/
def readText (files : Files) (path : String) : Except LaunchError String := do
  let bytes ← (files path).mapError (.unreadable path)
  match Text.decode? bytes with
  | some text => return text
  | none => throw (.notUtf8 path)

/-- Reads the listing of a program. -/
def readListing (files : Files) (path : String) : Except LaunchError Listing := do
  (Listing.parse (← readText files path)).mapError (.badListing path)

/-- Reads the labels, if there are any. -/
def readLabels (files : Files) : Option String → Except LaunchError Labels
  | none => .ok ∅
  | some path => do (Labels.parse (← readText files path)).mapError (.badLabels path)

/-- Begins a session for a program. The listing is read before the labels. -/
def start (files : Files) (clock : Clock) (settings : LaunchSettings) :
    Except LaunchError (Session Machine) := do
  let listing ← readListing files settings.program
  let labels ← readLabels files settings.labels
  let machine := Machine.create listing Machine.defaultMemorySize
  return { Session.create machine settings.stepping clock with labels }

end Launch

end GuestDebugger
