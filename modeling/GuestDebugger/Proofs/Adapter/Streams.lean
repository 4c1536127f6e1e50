import GuestDebugger.Proofs.Adapter.Frames

/-! # Streams of frames with other header lines

A header block may begin with blank lines, and lines that say nothing about the body may stand
around the one that tells its length. Frames of this kind that follow one another are read one
after the other. What the bodies hold makes no difference, be it line breaks, the look of a header
or bytes that are no text. -/

namespace GuestDebugger.Adapter.Frame

/-- A blank line, without the line feed that ends it. -/
structure BlankLine where
  /-- The line. -/
  text : String
  /-- It does not go on behind its end. -/
  unbroken : '\n' ∉ text.toList
  /-- Nothing is left when it is trimmed. -/
  blank : Text.trim text.toList = []

/-- A header line that does not tell the length of the body, without the line feed that ends it. -/
structure OtherLine where
  /-- The line. -/
  text : String
  /-- It does not go on behind its end. -/
  unbroken : '\n' ∉ text.toList
  /-- Something is left when it is trimmed. -/
  visible : Text.trim text.toList ≠ []
  /-- It does not begin with the name of the length field. -/
  unnamed : ¬lengthField <+: text.toList

/-- A frame with blank lines before its header block and other lines in it. -/
structure Layout where
  /-- The blank lines. -/
  blanks : List BlankLine := []
  /-- The lines before the one that tells the length of the body. -/
  before : List OtherLine := []
  /-- The lines behind that line. -/
  behind : List OtherLine := []
  /-- The body. -/
  body : List UInt8
  /-- The length of the body is a machine word. -/
  small : body.length < UInt64.size

/-! ### Lines by their meaning -/

theorem readHeaderLine_blankLine (line : BlankLine) :
    readHeaderLine (Text.encode line.text) = .ok .blank := by
  have trimmed := Text.trim_eq_nil_iff.1 line.blank
  simp only [readHeaderLine, Text.decode?_encode, trimmed, List.isEmpty_nil, if_true]

theorem readHeaderLine_otherLine (line : OtherLine) :
    readHeaderLine (Text.encode line.text) = .ok .other := by
  have trimmed := mt Text.trim_eq_nil_iff.2 line.visible
  have unnamed : lengthText? (Text.trimEnd line.text.toList) = none := by
    rw [lengthText?, if_neg]
    intro named
    rw [List.isPrefixOf_iff_prefix] at named
    exact line.unnamed (named.trans (Text.trimEnd_prefix _))
  simp only [readHeaderLine, Text.decode?_encode, List.isEmpty_iff, trimmed, if_false, unnamed]

theorem Header.blankLines {lines : List (List UInt8)} {n : Nat} (blanks : List BlankLine)
    (rest : Header none lines n) :
    Header none (blanks.map (Text.encode ·.text) ++ lines) n := by
  induction blanks with
  | nil => exact rest
  | cons line blanks ih => exact .blank (readHeaderLine_blankLine line) ih

theorem Header.otherLines {known : Option Nat} {lines : List (List UInt8)} {n : Nat}
    (others : List OtherLine) (rest : Header known lines n) :
    Header known (others.map (Text.encode ·.text) ++ lines) n := by
  induction others with
  | nil => exact rest
  | cons line others ih => exact .other (readHeaderLine_otherLine line) ih

namespace Layout

variable (f : Layout)

/-- The header block, with the blank lines before it and the one that ends it. -/
def header : String :=
  String.join (f.blanks.map (·.text ++ "\n")) ++ String.join (f.before.map (·.text ++ "\n")) ++
    ("Content-Length: " ++ toString f.body.length ++ "\r\n") ++
    String.join (f.behind.map (·.text ++ "\n")) ++ "\r\n"

/-- The bytes of the frame. -/
def bytes : List UInt8 := Text.encode f.header ++ f.body

/-- The bytes of frames one behind the other. -/
def stream (frames : List Layout) : List UInt8 := frames.flatMap bytes

/-- The frame is complete. -/
def complete : Complete where
  lines := f.blanks.map (Text.encode ·.text) ++ (f.before.map (Text.encode ·.text) ++
    Text.encode (String.ofList (lengthLine f.body.length)) ::
      (f.behind.map (Text.encode ·.text) ++ [[13]]))
  body := f.body
  unbroken := by
    intro line mem
    simp only [List.mem_append, List.mem_cons, List.mem_map, List.not_mem_nil, or_false] at mem
    rcases mem with ⟨blank, _, rfl⟩ | ⟨other, _, rfl⟩ | rfl | ⟨other, _, rfl⟩ | rfl
    · exact Text.lineFeed_notMem_encode blank.unbroken
    · exact Text.lineFeed_notMem_encode other.unbroken
    · exact unbroken_lengthLine _
    · exact Text.lineFeed_notMem_encode other.unbroken
    · decide
  header := by
    refine .blankLines _ (.otherLines _ (.length (readHeaderLine_lengthLine f.small) ?_))
    exact .otherLines _ (.ended rfl)

theorem bytes_complete : f.complete.bytes = f.bytes := by
  have feed : Text.encode "\n" = [10] := by decide +kernel
  have ends : Text.encode "\r\n" = [13] ++ [10] := by decide +kernel
  simp only [bytes, header, Text.encode_append, Text.encode_join, List.flatMap_map, feed, ends,
    Complete.bytes, complete, encode_lengthLine, List.flatMap_append, List.flatMap_cons,
    List.flatMap_nil, List.append_nil, List.append_assoc]

/-- The body is a text, and there are no lines but the one that tells its length. -/
structure Plain (text : String) : Prop where
  blanks : f.blanks = []
  before : f.before = []
  behind : f.behind = []
  body : f.body = Text.encode text

/-- A plain frame is the one that is written for its text. -/
theorem Plain.bytes_eq {text : String} (plain : f.Plain text) :
    f.bytes = Text.encode (Frame.ofBody text) := by
  have ends : Text.encode "\r\n\r\n" = Text.encode "\r\n" ++ Text.encode "\r\n" := by
    decide +kernel
  simp only [bytes, header, plain.blanks, plain.before, plain.behind, plain.body, encode_ofBody,
    Text.encode_append, Text.encode_join, Text.length_encode, ends, List.map_nil, List.flatMap_nil,
    List.nil_append, List.append_nil, List.append_assoc]

/-! ### One message after the other -/

@[simp] theorem stream_nil : stream [] = [] := rfl

@[simp] theorem stream_cons (frames : List Layout) :
    stream (f :: frames) = f.bytes ++ stream frames := List.flatMap_cons ..

theorem readBody_bytes (rest : List UInt8) :
    readBody (f.bytes ++ rest) = (.ok (some f.body), rest) := by
  rw [← f.bytes_complete]
  exact Frame.readBody_bytes f.complete rest

theorem readMessage_bytes (rest : List UInt8) :
    readMessage (f.bytes ++ rest) =
      (((Message.parse f.body).mapError .badBody).map some, rest) := by
  rw [← f.bytes_complete]
  exact Frame.readMessage_bytes f.complete rest

end Layout

/-- What is left of an input after a number of calls that read a message. -/
def restAfter : (calls : Nat) → List UInt8 → List UInt8
  | 0, input => input
  | calls + 1, input => restAfter calls (readMessage input).2

open Layout (stream)

/-- Every call takes one frame, as long as there are any. -/
theorem restAfter_stream (calls : Nat) (frames : List Layout) :
    restAfter calls (stream frames) = stream (frames.drop calls) := by
  induction calls generalizing frames with
  | zero => rfl
  | succ calls ih =>
      cases frames with
      | nil =>
          have ended := ih []
          rw [List.drop_nil] at ended
          exact ended
      | cons f frames =>
          rw [restAfter, Layout.stream_cons, Layout.readMessage_bytes, List.drop_succ_cons]
          exact ih frames

/-- Frames that follow one another are read one by one. Each call takes exactly the next frame and
hands exactly its body to the reader of messages, whether that makes a message of it or not; and
the call behind the last frame tells the end of the input. Among them may be the frames that are
written for texts. -/
theorem reads_stream (frames : List Layout) :
    (∀ i : Fin frames.length,
      let rest := stream (frames.drop (i + 1))
      restAfter i (stream frames) = frames[i].bytes ++ rest ∧
      readBody (frames[i].bytes ++ rest) = (.ok (some frames[i].body), rest) ∧
      readMessage (frames[i].bytes ++ rest) =
        (((Message.parse frames[i].body).mapError .badBody).map some, rest) ∧
      ∀ text, frames[i].Plain text → frames[i].bytes = Text.encode (Frame.ofBody text)) ∧
    readMessage (restAfter frames.length (stream frames)) = (.ok none, []) := by
  constructor
  · intro i rest
    refine ⟨?_, frames[i].readBody_bytes rest, frames[i].readMessage_bytes rest,
      fun _ plain => plain.bytes_eq⟩
    rw [restAfter_stream, List.drop_eq_getElem_cons i.isLt, Layout.stream_cons]
    rfl
  · rw [restAfter_stream, List.drop_length, Layout.stream_nil]
    exact readMessage_nil

/-- A body that looks like a frame, behind another header line. -/
example :
    let f : Layout :=
      { before := [⟨"Content-Type: text\r", by decide, by decide, by decide⟩]
        body := Text.encode "Content-Length: 2\r\n\r\n{}", small := by decide +kernel }
    readBody (stream [f, f]) = (.ok (some f.body), f.bytes) := by
  decide +kernel

end GuestDebugger.Adapter.Frame
