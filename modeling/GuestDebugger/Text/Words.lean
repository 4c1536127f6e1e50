/-! # Words of a command line

A line is split into words at spaces, tabs and line feeds. Single quotes keep everything, double
quotes keep everything but a backslash before `$`, a grave accent, a double quote, a backslash or
a line feed, and outside quotes a backslash keeps the next character. A backslash before a line
feed joins two lines. A word that would start with `#` is a comment up to the end of the line. -/

namespace GuestDebugger.Text

/-- What the reader of words is inside of. -/
inductive WordMode where
  /-- Between two words. -/
  | gap
  /-- In a comment. -/
  | comment
  /-- In a word, outside quotes. -/
  | bare
  /-- After a backslash outside quotes. -/
  | bareEscape
  /-- In single quotes. -/
  | single
  /-- In double quotes. -/
  | double
  /-- After a backslash in double quotes. -/
  | doubleEscape
deriving DecidableEq, Repr

/-- Whether a character separates words. -/
def isWordSeparator (c : Char) : Bool := c == ' ' || c == '\t' || c == '\n'

/-- Whether a backslash before a character in double quotes vanishes. -/
def isDoubleEscapable (c : Char) : Bool := c == '$' || c == '\x60' || c == '"' || c == '\\'

/-- The words of the remaining characters, where `word` holds the open word backwards. There are
none if a quote stays open or a backslash ends the text. -/
def wordsFrom : WordMode → List Char → List Char → Option (List (List Char))
  | .gap, _, [] => some []
  | .comment, _, [] => some []
  | .bare, word, [] => some [word.reverse]
  | .bareEscape, _, [] => none
  | .single, _, [] => none
  | .double, _, [] => none
  | .doubleEscape, _, [] => none
  | .gap, _, c :: rest =>
    if isWordSeparator c then wordsFrom .gap [] rest
    else if c == '#' then wordsFrom .comment [] rest
    else if c == '"' then wordsFrom .double [] rest
    else if c == '\x27' then wordsFrom .single [] rest
    else if c == '\\' then wordsFrom .bareEscape [] rest
    else wordsFrom .bare [c] rest
  | .comment, _, c :: rest => wordsFrom (if c == '\n' then .gap else .comment) [] rest
  | .bare, word, c :: rest =>
    if isWordSeparator c then (wordsFrom .gap [] rest).map (word.reverse :: ·)
    else if c == '"' then wordsFrom .double word rest
    else if c == '\x27' then wordsFrom .single word rest
    else if c == '\\' then wordsFrom .bareEscape word rest
    else wordsFrom .bare (c :: word) rest
  | .bareEscape, word, c :: rest => wordsFrom .bare (if c == '\n' then word else c :: word) rest
  | .single, word, c :: rest =>
    if c == '\x27' then wordsFrom .bare word rest else wordsFrom .single (c :: word) rest
  | .double, word, c :: rest =>
    if c == '"' then wordsFrom .bare word rest
    else if c == '\\' then wordsFrom .doubleEscape word rest
    else wordsFrom .double (c :: word) rest
  | .doubleEscape, word, c :: rest =>
    if isDoubleEscapable c then wordsFrom .double (c :: word) rest
    else if c == '\n' then wordsFrom .double word rest
    else wordsFrom .double (c :: '\\' :: word) rest

/-- The words of a line, or none if a quote stays open or a backslash ends the line. -/
def words (line : List Char) : Option (List String) :=
  (wordsFrom .gap [] line).map (List.map String.ofList)

end GuestDebugger.Text
