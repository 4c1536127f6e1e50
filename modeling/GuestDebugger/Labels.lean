import GuestDebugger.AddressMap
import GuestDebugger.Text.Blank
import GuestDebugger.Text.Lines
import GuestDebugger.Text.Quoted

/-! # Labels

Labels name guest addresses. Each address has at most one name; a name is looked up at the address
where it was put last. A label file holds a name, a tab and an address on each line. -/

namespace GuestDebugger

/-- Names of guest addresses. -/
structure Labels where
  /-- The name at each address. -/
  byAddress : AddressMap String := ∅
  /-- The address at which each name is found, each name once. -/
  byName : List (String × Address) := []

/-- Why a text is no label file. -/
inductive LabelError where
  /-- A line has no tab, or no name before it. -/
  | malformed (line : Nat)
  /-- What follows the tab is no address. -/
  | badAddress (line : Nat) (text : String)
deriving DecidableEq, Repr

/-- What is told to the user about a refused label file. -/
def LabelError.message : LabelError → String
  | malformed line => "line " ++ toString line ++ ": expected name<TAB>hexAddress"
  | badAddress line text => "line " ++ toString line ++ ": bad address " ++ Text.quoted text

namespace Labels

/-- The labels before any is put. -/
def empty : Labels := {}

instance : EmptyCollection Labels where
  emptyCollection := empty

/-- The address of a name. -/
def lookup? (l : Labels) (name : String) : Option Address := l.byName.lookup name

/-- The name at an address. -/
def nameAt? (l : Labels) (a : Address) : Option String := l.byAddress.get? a

/-- The names without the given one. -/
def eraseName (names : List (String × Address)) (name : String) : List (String × Address) :=
  names.filter (·.1 ≠ name)

/-- Names an address. The name that the address had before is forgotten if it is found there. -/
def insert (l : Labels) (name : String) (a : Address) : Labels :=
  let kept := match l.nameAt? a with
    | some old => if l.lookup? old = some a then eraseName l.byName old else l.byName
    | none => l.byName
  { byAddress := l.byAddress.insert a name
    byName := (name, a) :: eraseName kept name }

/-- The number of named addresses. -/
def size (l : Labels) : Nat := l.byAddress.size

/-- Whether no address has a name. -/
def isEmpty (l : Labels) : Bool := l.byAddress.isEmpty

/-- An address in terms of the closest name at or below it. -/
def describe (l : Labels) (a : Address) : String :=
  match l.byAddress.entryAtOrBelow? a with
  | some (base, name) =>
    if base = a then name else name ++ "+0x" ++ Text.hex (a - base).toNat
  | none => a.text

/-- The parts of a line before and after its first tab. -/
def splitAtTab? : List Char → Option (List Char × List Char)
  | [] => none
  | c :: rest =>
    if c == '\t' then some ([], rest)
    else (splitAtTab? rest).map fun parts => (c :: parts.1, parts.2)

/-- Reads the line with the given number; a blank line holds no label. -/
def readLine (number : Nat) (line : List Char) : Except LabelError (Option (String × Address)) :=
  if (Text.trim line).isEmpty then .ok none
  else match splitAtTab? line with
    | none => .error (.malformed number)
    | some (before, after) =>
      let name := Text.trim before
      let address := Text.trim after
      if name.isEmpty then .error (.malformed number)
      else match Address.read? address with
        | none => .error (.badAddress number (String.ofList address))
        | some a => .ok (some (String.ofList name, a))

/-- Reads the remaining lines, of which the first has the given number. -/
def readLines (number : Nat) (labels : Labels) : List (List Char) → Except LabelError Labels
  | [] => .ok labels
  | line :: rest =>
    match readLine number line with
    | .error e => .error e
    | .ok none => readLines (number + 1) labels rest
    | .ok (some (name, a)) => readLines (number + 1) (labels.insert name a) rest

/-- Reads a label file. -/
def parse (text : String) : Except LabelError Labels :=
  readLines 1 ∅ (Text.lines text.toList)

end Labels

end GuestDebugger
