import GuestDebugger.Adapter.Frame
import GuestDebugger.Text.Lemmas

/-! # Complete frames

A frame is complete if its header lines tell the length of its body. Whatever the body holds, and
whatever comes behind it, reading gives the body and stands right behind the frame. -/

namespace GuestDebugger.Adapter.Frame

/-- The lines of a header block that tell the length of the body. The length that was told last
counts; until one is told, blank lines do not end the block. -/
inductive Header : Option Nat → List (List UInt8) → Nat → Prop
  | ended {n : Nat} {line : List UInt8} (blank : readHeaderLine line = .ok .blank) :
      Header (some n) [line] n
  | blank {n : Nat} {line : List UInt8} {lines : List (List UInt8)}
      (blank : readHeaderLine line = .ok .blank) (rest : Header none lines n) :
      Header none (line :: lines) n
  | length {known : Option Nat} {k n : Nat} {line : List UInt8} {lines : List (List UInt8)}
      (told : readHeaderLine line = .ok (.length k)) (rest : Header (some k) lines n) :
      Header known (line :: lines) n
  | other {known : Option Nat} {n : Nat} {line : List UInt8} {lines : List (List UInt8)}
      (other : readHeaderLine line = .ok .other) (rest : Header known lines n) :
      Header known (line :: lines) n

/-- A header block and the body whose length it tells. -/
structure Complete where
  /-- The lines of the header block, without the bytes that end them. -/
  lines : List (List UInt8)
  /-- The body. -/
  body : List UInt8
  /-- A line does not go on behind its end. -/
  unbroken : ∀ line ∈ lines, 10 ∉ line
  /-- The lines tell the length of the body. -/
  header : Header none lines body.length

namespace Complete

/-- The bytes of a frame. -/
def bytes (f : Complete) : List UInt8 := f.lines.flatMap (· ++ [10]) ++ f.body

/-- The bytes of frames one behind the other. -/
def stream (frames : List Complete) : List UInt8 := frames.flatMap bytes

@[simp] theorem stream_nil : stream [] = [] := rfl

@[simp] theorem stream_cons (f : Complete) (frames : List Complete) :
    stream (f :: frames) = f.bytes ++ stream frames := List.flatMap_cons ..

@[simp] theorem stream_append (frames others : List Complete) :
    stream (frames ++ others) = stream frames ++ stream others := List.flatMap_append ..

end Complete

/-- A line is taken into account as soon as it ends. -/
theorem readHeader_line {line : List UInt8} (unbroken : 10 ∉ line) (known : Option Nat)
    (before rest : List UInt8) :
    readHeader known before (line ++ 10 :: rest) =
      match afterLine known (before.reverse ++ line) with
      | .failed e => (.error e, rest)
      | .ended n => (.ok (some n), rest)
      | .goesOn known => readHeader known [] rest := by
  induction line generalizing before with
  | nil =>
      cases progress : afterLine known before.reverse <;> simp [readHeader, progress]
  | cons b line ih =>
      simp only [List.mem_cons, not_or] at unbroken
      obtain ⟨goesOn, unbroken⟩ := unbroken
      have differ : (b == 10) = false := by simpa using Ne.symm goesOn
      rw [List.cons_append, readHeader, differ]
      simp only [Bool.false_eq_true, if_false, ih unbroken, List.reverse_cons, List.append_assoc,
        List.singleton_append]

theorem readHeader_lines {known : Option Nat} {lines : List (List UInt8)} {n : Nat}
    (header : Header known lines n) (unbroken : ∀ line ∈ lines, 10 ∉ line) (rest : List UInt8) :
    readHeader known [] (lines.flatMap (· ++ [10]) ++ rest) = (.ok (some n), rest) := by
  induction header with
  | @ended n line blank =>
      have here := unbroken line List.mem_cons_self
      simp [readHeader_line here, afterLine, blank]
  | @blank n line lines blank _ ih | @length _ _ n line lines blank _ ih
  | @other _ n line lines blank _ ih =>
      have here := unbroken line List.mem_cons_self
      have after := ih fun line mem => unbroken line (List.mem_cons_of_mem _ mem)
      simp [readHeader_line here, afterLine, blank, after]

theorem readBody_bytes (f : Complete) (rest : List UInt8) :
    readBody (f.bytes ++ rest) = (.ok (some f.body), rest) := by
  have header := readHeader_lines f.header f.unbroken (f.body ++ rest)
  simp only [readBody, Complete.bytes, List.append_assoc, header]
  simp

/-- The message of a frame, or why there is none, is told by its body alone. -/
theorem readMessage_bytes (f : Complete) (rest : List UInt8) :
    readMessage (f.bytes ++ rest) =
      (((Message.parse f.body).mapError .badBody).map some, rest) := by
  simp only [readMessage, readBody_bytes]
  cases Message.parse f.body <;> rfl

theorem readMessage_nil : readMessage [] = (.ok none, []) := rfl

/-! ### Frames as they are written -/

/-- The header line that tells a length. -/
def lengthLine (n : Nat) : List Char := lengthField ++ ' ' :: (toString n).toList ++ ['\r']

/-- It consists of ASCII characters, none of which ends a line. -/
theorem toNat_of_mem_lengthLine {n : Nat} {c : Char} (mem : c ∈ lengthLine n) :
    c.toNat < 128 ∧ c.toNat ≠ 10 := by
  simp only [lengthLine, List.mem_append, List.mem_cons] at mem
  rcases mem with (name | rfl | digit) | rfl | absent
  · have all : lengthField.all (fun c => c.toNat < 128 && c.toNat != 10) = true := by
      decide +kernel
    simpa using List.all_eq_true.1 all c name
  · decide
  · have range := Text.toNat_of_isDigit (Text.isDigit_of_mem_toString digit)
    omega
  · decide
  · cases absent

theorem ascii_lengthLine (n : Nat) : Text.Ascii (lengthLine n) :=
  fun _ mem => (toNat_of_mem_lengthLine mem).1

theorem readHeaderLine_lengthLine {n : Nat} (small : n < UInt64.size) :
    readHeaderLine (Text.encode (String.ofList (lengthLine n))) = .ok (.length n) := by
  have trimmed : Text.trimEnd (lengthLine n) = lengthField ++ ' ' :: (toString n).toList := by
    have last := Text.trimEnd_toString (lengthField ++ [' ']) n
    rw [List.append_assoc] at last
    rw [lengthLine, Text.trimEnd_of_blank (by decide)]
    exact last
  have text : lengthText? (lengthField ++ ' ' :: (toString n).toList) =
      some (toString n).toList := by
    have named : lengthField.isPrefixOf (lengthField ++ ' ' :: (toString n).toList) = true :=
      List.isPrefixOf_iff_prefix.2 (List.prefix_append _ _)
    rw [lengthText?, if_pos named, List.drop_left, Text.trim_toString]
  have filled : (lengthField ++ ' ' :: (toString n).toList).isEmpty = false := by simp
  simp only [readHeaderLine, Text.decode?_encode,
    String.toList_ofList, trimmed, filled, text, Text.readUnsigned_toString small,
    Bool.false_eq_true, if_false]

theorem unbroken_lengthLine (n : Nat) : 10 ∉ Text.encode (String.ofList (lengthLine n)) := by
  rw [Text.encode_of_ascii (ascii_lengthLine n), List.mem_map]
  rintro ⟨c, mem, eq⟩
  obtain ⟨ascii, unbroken⟩ := toNat_of_mem_lengthLine mem
  have byte := congrArg UInt8.toNat eq
  simp only [UInt8.toNat_ofNat', UInt8.reduceToNat] at byte
  omega

/-- The frame of a body is complete. -/
def Complete.ofBody (body : String) (small : body.utf8ByteSize < UInt64.size) : Complete where
  lines := [Text.encode (String.ofList (lengthLine body.utf8ByteSize)), [13]]
  body := Text.encode body
  unbroken := by
    intro line mem
    simp only [List.mem_cons, List.not_mem_nil, or_false] at mem
    rcases mem with rfl | rfl
    · exact unbroken_lengthLine _
    · decide
  header := by
    rw [Text.length_encode]
    exact .length (readHeaderLine_lengthLine small) (.ended rfl)

theorem encode_lengthLine (n : Nat) :
    Text.encode (String.ofList (lengthLine n)) =
      Text.encode "Content-Length: " ++ Text.encode (toString n) ++ [13] := by
  have field : Text.encode "Content-Length: " =
      lengthField.flatMap String.utf8EncodeChar ++ [32] := by decide +kernel
  have blank : String.utf8EncodeChar ' ' = [32] := by decide
  have ending : String.utf8EncodeChar '\r' = [13] := by decide
  rw [Text.encode_ofList, lengthLine, field, Text.encode_eq_flatMap (toString n)]
  simp [blank, ending]

theorem encode_ofBody (body : String) :
    Text.encode (Frame.ofBody body) =
      Text.encode "Content-Length: " ++ Text.encode (toString body.utf8ByteSize) ++
        Text.encode "\r\n\r\n" ++ Text.encode body := by
  unfold Frame.ofBody
  rw [Text.encode_append, Text.encode_append, Text.encode_append]

end GuestDebugger.Adapter.Frame
