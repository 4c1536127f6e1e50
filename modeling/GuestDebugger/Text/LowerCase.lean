import GuestDebugger.Text.LowerCaseTable

/-! # Lower case

The lower-case form of a text by the full Unicode mapping. All characters map one by one but two:
the dotted capital I keeps its dot as a combining mark, and a capital sigma takes its final form
when a cased character stands before it and none after it, case-ignorable ones skipped. -/

namespace GuestDebugger.Text

/-- Whether a character has case. -/
def isCased (c : Char) : Bool := casedRanges.contains c

/-- Whether a character is skipped in the search for the neighbours of a sigma. -/
def isCaseIgnorable (c : Char) : Bool := caseIgnorableRanges.contains c

/-- The lower-case form of a character, its neighbours left aside. -/
def lowerChar (c : Char) : List Char :=
  if c.toNat < 128 then [c.toLower]
  else if c = 'İ' then ['i', '\u0307']
  else [((lowerCaseRuns.findSome? (·.lower? c.toNat)).map Char.ofNat).getD c]

/-- Whether the first character that is not case-ignorable has case. -/
def startsCased (cs : List Char) : Bool :=
  ((cs.dropWhile isCaseIgnorable).head?.map isCased).getD false

/-- The lower-case form of the rest of a text; `afterCased` tells whether the last character
before it that is not case-ignorable has case. -/
def lowerFrom (afterCased : Bool) : List Char → List Char
  | [] => []
  | c :: rest =>
    let lowered :=
      if c = 'Σ' then [if afterCased && !startsCased rest then 'ς' else 'σ'] else lowerChar c
    lowered ++ lowerFrom (if isCaseIgnorable c then afterCased else isCased c) rest

/-- The lower-case form of a text. -/
def lower (text : String) : String := String.ofList (lowerFrom false text.toList)

end GuestDebugger.Text
