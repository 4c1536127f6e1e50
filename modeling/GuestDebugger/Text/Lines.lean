/-! # Lines

A line ends at a line feed, and a carriage return just before the line feed belongs to the line
break. What follows the last line feed is a line only if it is not empty; it keeps a carriage
return at its end. The rule is the same for characters and for bytes. -/

namespace GuestDebugger.Text

/-- The two symbols that end a line. -/
structure LineBreak (α : Type) where
  /-- The symbol that ends a line. -/
  feed : α
  /-- The symbol that may stand before it. -/
  carriageReturn : α

/-- The line break of texts. -/
def LineBreak.ofChars : LineBreak Char := ⟨'\n', '\r'⟩

/-- The line break of byte streams. -/
def LineBreak.ofBytes : LineBreak UInt8 := ⟨10, 13⟩

variable {α : Type} [BEq α]

/-- The line whose symbols, read backwards, are given, less a carriage return at its end. -/
def LineBreak.close (br : LineBreak α) : List α → List α
  | [] => []
  | c :: before => if c == br.carriageReturn then before.reverse else (c :: before).reverse

/-- The lines of the remaining symbols, where `before` holds those of the open line backwards. -/
def LineBreak.linesFrom (br : LineBreak α) (before : List α) : List α → List (List α)
  | [] => if before.isEmpty then [] else [before.reverse]
  | c :: rest =>
    if c == br.feed then br.close before :: br.linesFrom [] rest
    else br.linesFrom (c :: before) rest

/-- The lines of a sequence of symbols. -/
def LineBreak.lines (br : LineBreak α) (symbols : List α) : List (List α) :=
  br.linesFrom [] symbols

/-- The lines of a text. -/
def lines (text : List Char) : List (List Char) := LineBreak.ofChars.lines text

/-- The lines of a byte stream. -/
def byteLines (bytes : List UInt8) : List (List UInt8) := LineBreak.ofBytes.lines bytes

end GuestDebugger.Text
