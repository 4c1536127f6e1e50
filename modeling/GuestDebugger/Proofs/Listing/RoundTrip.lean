import GuestDebugger.AddressMap.Lemmas
import GuestDebugger.Proofs.Listing.Instructions
import GuestDebugger.Proofs.Listing.Numbers
import GuestDebugger.Proofs.Listing.Words

/-! # Listings as they are written

Written down line by line, each instruction behind its address as the disassembler shows it, a
listing is read back. -/

namespace GuestDebugger

namespace Text

/-! ### Lower case -/

/-- Whether a character is a small ASCII letter or a digit. -/
def isSmall (c : Char) : Bool := c.isLower || c.isDigit

theorem lt_of_isSmall {c : Char} (small : isSmall c = true) : c.toNat < 128 := by
  rcases Bool.or_eq_true_iff.1 small with lower | digit
  · have bounds : (decide (97 ≤ c.val) && decide (c.val ≤ 122)) = true := lower
    have below := UInt32.le_iff_toNat_le.1 (of_decide_eq_true (Bool.and_eq_true_iff.1 bounds).2)
    exact Nat.lt_of_le_of_lt below (by decide)
  · exact Nat.lt_of_le_of_lt (toNat_of_isDigit digit).2 (by decide)

theorem isPlain_of_isSmall {c : Char} (small : isSmall c = true) : isPlain c = true := by
  have alphanum : c.isAlphanum = ((c.isUpper || c.isLower) || c.isDigit) := rfl
  rcases Bool.or_eq_true_iff.1 small with lower | digit
  · simp [isPlain, alphanum, lower]
  · simp [isPlain, alphanum, digit]

/-- In ASCII, characters are put in lower case one by one. -/
theorem lower_of_ascii {text : String} (ascii : Ascii text.toList) : lower text = text.toLower := by
  have all : ∀ cs : List Char, Ascii cs → ∀ afterCased,
      lowerFrom afterCased cs = cs.map Char.toLower := by
    intro cs
    induction cs with
    | nil => exact fun _ _ => rfl
    | cons c cs ih =>
        intro ascii afterCased
        have first := ascii c List.mem_cons_self
        have noSigma : c ≠ 'Σ' := by
          rintro rfl
          exact absurd first (by decide)
        rw [lowerFrom, if_neg noSigma, lowerChar, if_pos first,
          ih fun d mem => ascii d (List.mem_cons_of_mem _ mem)]
        rfl
  rw [lower, all _ ascii, ← String.toList_map, String.ofList_toList]
  rfl

theorem toLower_of_isSmall {c : Char} (small : isSmall c = true) : c.toLower = c := by
  have all : ∀ n < 128, isSmall (Char.ofNat n) = true → (Char.ofNat n).toLower = Char.ofNat n := by
    decide
  have same := all c.toNat (lt_of_isSmall small)
  rw [Char.ofNat_toNat] at same
  exact same small

theorem toList_toLower (text : String) : text.toLower.toList = text.toList.map Char.toLower :=
  String.toList_map

theorem lower_of_isSmall {text : String} (small : ∀ c ∈ text.toList, isSmall c = true) :
    lower text = text := by
  have same : text.toList.map Char.toLower = text.toList :=
    (List.map_congr_left fun c mem => toLower_of_isSmall (small c mem)).trans (List.map_id _)
  rw [lower_of_ascii fun c mem => lt_of_isSmall (small c mem), ← String.toList_inj,
    toList_toLower, same]

/-! ### Quoted texts -/

/-- Whether a text is read back from its quoted form: quotes keep its characters, and it has not
both double quotes and semicolons, which would hide a comment and open one. -/
def WellQuoted (text : String) : Prop :=
  (∀ c ∈ text.toList, Quotable c) ∧ ('"' ∉ text.toList ∨ ';' ∉ text.toList)

instance (text : String) : Decidable (WellQuoted text) :=
  have : Decidable (∀ c ∈ text.toList, Quotable c) := List.decidableBAll _ _
  inferInstanceAs (Decidable (_ ∧ (_ ∨ _)))

end Text

/-! ### Instructions as spelled words -/

namespace Op

open Text

/-- The name of an instruction. -/
def mnemonic : Op → String
  | nop => "nop"
  | jump _ => "jmp"
  | move .. => "mov"
  | loop _ => "loop"
  | time => "time"
  | write _ => "write"
  | writeLine _ => "writeln"
  | exit _ => "exit"
  | window .. => "window"
  | surface .. => "surface"
  | fill _ => "fill"
  | flip => "flip"
  | poke .. => "poke"
  | fault _ => "fault"

/-- The arguments of an instruction, as they are spelled. -/
def arguments : Op → List Spelling
  | nop | time | flip => []
  | jump target | loop target => [.bare (hexNumeral true 8 target.toNat)]
  | move register value => [.bare (register ++ ","), .bare (hexNumeral true 0 value.toNat)]
  | write text | writeLine text | fault text => [.quoted text]
  | exit code => [.bare (toString code.toInt)]
  | window title width height =>
    [.quoted title, .bare (toString width.toNat), .bare (toString height.toNat)]
  | surface width height primary =>
    .bare (toString width.toNat) :: .bare (toString height.toNat) ::
      if primary then [.bare "primary"] else []
  | fill byte => [.bare (hexNumeral true 2 byte.toNat)]
  | poke address byte =>
    [.bare (hexNumeral true 8 address.toNat), .bare (hexNumeral true 2 byte.toNat)]

/-- An instruction is written as its name and its arguments. -/
theorem toList_text (op : Op) : op.text.toList = spell (.bare op.mnemonic :: op.arguments) := by
  cases op with
  | surface width height primary =>
      cases primary <;> simp [text, mnemonic, arguments, spell, Spelling.chars]
  | _ =>
      simp [text, mnemonic, arguments, spell, Spelling.chars, quoted, hexNumeral, paddedHex_zero,
        Address.text, Address.digits]

/-- Whether an instruction is read back: its register is written in small letters and digits, its
text in characters that keep their meaning in quotes. -/
def Spellable : Op → Prop
  | move register _ => ∀ c ∈ register.toList, isSmall c = true
  | write text | writeLine text | window text _ _ | fault text => WellQuoted text
  | _ => True

instance (op : Op) : Decidable op.Spellable :=
  match op with
  | move register _ => List.decidableBAll (isSmall · = true) register.toList
  | write text | writeLine text | window text _ _ | fault text =>
    inferInstanceAs (Decidable (WellQuoted text))
  | nop | jump _ | loop _ | time | exit _ | surface .. | fill _ | flip | poke .. =>
    inferInstanceAs (Decidable True)

theorem isSmall_of_mem_mnemonic (op : Op) : ∀ c ∈ op.mnemonic.toList, isSmall c = true := by
  refine List.all_eq_true.1 ?_
  cases op <;> simp only [mnemonic] <;> decide

theorem lower_mnemonic (op : Op) : lower op.mnemonic = op.mnemonic :=
  lower_of_isSmall op.isSmall_of_mem_mnemonic

end Op

/-! ### Readable words -/

namespace Text

theorem isPlain_of_isHexDigit {c : Char} (digit : IsHexDigit c) : isPlain c = true := by
  obtain ⟨d, small, rfl⟩ := digit
  have all : ∀ d < 16, isPlain (Nat.digitChar d) = true := by decide
  exact all d small

theorem isPlain_of_isDigit {c : Char} (digit : c.isDigit = true) : isPlain c = true :=
  isPlain_of_isSmall (Bool.or_eq_true_iff.2 (.inr digit))

namespace Spelling

theorem readable_hexNumeral (marked : Bool) (width n : Nat) :
    (bare (hexNumeral marked width n)).Readable := by
  constructor
  · rw [Ne, ← String.toList_eq_nil_iff, toList_hexNumeral]
    exact List.append_ne_nil_of_right_ne_nil _ (paddedHexDigits_ne_nil width n)
  · intro c mem
    rw [toList_hexNumeral, List.mem_append] at mem
    rcases mem with mark | digit
    · cases marked with
      | true =>
          have plain : ∀ c ∈ ['0', 'x'], isPlain c = true := List.all_eq_true.1 rfl
          exact plain c mark
      | false => cases mark
    · exact isPlain_of_isHexDigit (isHexDigit_of_mem_paddedHexDigits digit)

theorem readable_toString (n : Nat) : (bare (toString n)).Readable := by
  refine ⟨?_, fun c mem => isPlain_of_isDigit (isDigit_of_mem_toString mem)⟩
  rw [Ne, ← String.toList_eq_nil_iff]
  exact toString_toList_ne_nil n

theorem readable_toString_int (i : Int) : (bare (toString i)).Readable := by
  cases i with
  | ofNat n => exact readable_toString n
  | negSucc n =>
      obtain ⟨-, digits⟩ := readable_toString (n + 1)
      have text : toString (Int.negSucc n) = "-" ++ toString (n + 1) := rfl
      rw [text]
      refine ⟨by simp, fun c mem => ?_⟩
      rw [String.toList_append, List.mem_append] at mem
      rcases mem with sign | digit
      · have plain : ∀ c ∈ "-".toList, isPlain c = true := List.all_eq_true.1 rfl
        exact plain c sign
      · exact digits c digit

theorem readable_of_isSmall {text : String} (filled : text ≠ "")
    (small : ∀ c ∈ text.toList, isSmall c = true) : (bare text).Readable :=
  ⟨filled, fun c mem => isPlain_of_isSmall (small c mem)⟩

end Spelling

end Text

namespace Op

open Text

variable {op : Op}

theorem readable_mnemonic (op : Op) : (Spelling.bare op.mnemonic).Readable := by
  refine Spelling.readable_of_isSmall ?_ op.isSmall_of_mem_mnemonic
  cases op <;> simp only [mnemonic] <;> decide

theorem readable_register {register : String} (small : ∀ c ∈ register.toList, isSmall c = true) :
    (Spelling.bare (register ++ ",")).Readable := by
  refine ⟨by simp, fun c mem => ?_⟩
  rw [String.toList_append, List.mem_append] at mem
  rcases mem with letter | comma
  · exact isPlain_of_isSmall (small c letter)
  · have plain : ∀ c ∈ ",".toList, isPlain c = true := List.all_eq_true.1 rfl
    exact plain c comma

theorem Spellable.readable (spellable : op.Spellable) : ∀ s ∈ op.arguments, s.Readable := by
  have primary : (Spelling.bare "primary").Readable :=
    Spelling.readable_of_isSmall (by decide) (List.all_eq_true.1 rfl)
  cases op with
  | nop | time | flip => exact nofun
  | jump target | loop target =>
      exact List.forall_mem_singleton.2 (Spelling.readable_hexNumeral true 8 target.toNat)
  | move register value =>
      exact List.forall_mem_cons.2 ⟨readable_register spellable,
        List.forall_mem_singleton.2 (Spelling.readable_hexNumeral true 0 value.toNat)⟩
  | write text | writeLine text | fault text =>
      exact List.forall_mem_singleton.2 spellable.1
  | exit code => exact List.forall_mem_singleton.2 (Spelling.readable_toString_int code.toInt)
  | window title width height =>
      exact List.forall_mem_cons.2 ⟨spellable.1,
        List.forall_mem_cons.2 ⟨Spelling.readable_toString width.toNat,
          List.forall_mem_singleton.2 (Spelling.readable_toString height.toNat)⟩⟩
  | surface width height isPrimary =>
      refine List.forall_mem_cons.2 ⟨Spelling.readable_toString width.toNat,
        List.forall_mem_cons.2 ⟨Spelling.readable_toString height.toNat, ?_⟩⟩
      cases isPrimary with
      | true => exact List.forall_mem_singleton.2 primary
      | false => exact nofun
  | fill byte =>
      exact List.forall_mem_singleton.2 (Spelling.readable_hexNumeral true 2 byte.toNat)
  | poke address byte =>
      exact List.forall_mem_cons.2 ⟨Spelling.readable_hexNumeral true 8 address.toNat,
        List.forall_mem_singleton.2 (Spelling.readable_hexNumeral true 2 byte.toNat)⟩

/-- The text that an instruction quotes. -/
def text? : Op → Option String
  | write text | writeLine text | window text _ _ | fault text => some text
  | _ => none

theorem Spellable.wellQuoted {text : String} (spellable : op.Spellable)
    (told : op.text? = some text) : WellQuoted text := by
  cases op with
  | write | writeLine | window | fault =>
      cases told
      exact spellable
  | _ => cases told

theorem text?_of_quoted {text : String} (quoted : Spelling.quoted text ∈ op.arguments) :
    op.text? = some text := by
  cases op with
  | surface width height primary => cases primary <;> simp [arguments] at quoted
  | _ => simp_all [arguments, text?]

/-- As there is one quoted word at most, its double quotes meet no semicolons of another one. -/
theorem Spellable.apart (spellable : op.Spellable) :
    (∀ s ∈ op.arguments, '"' ∉ s.text.toList) ∨ ∀ s ∈ op.arguments, ';' ∉ s.text.toList := by
  have bare : ∀ {text : String}, Spelling.bare text ∈ op.arguments →
      '"' ∉ text.toList ∧ ';' ∉ text.toList := fun mem =>
    (spellable.readable _ mem).notMem_bare
  cases told : op.text? with
  | none =>
      refine .inl fun s mem => ?_
      cases s with
      | bare word => exact (bare mem).1
      | quoted word => cases told.symm.trans (text?_of_quoted mem)
  | some text =>
      refine (spellable.wellQuoted told).2.imp (fun absent s mem => ?_) fun absent s mem => ?_
      · cases s with
        | bare word => exact (bare mem).1
        | quoted word =>
            cases told.symm.trans (text?_of_quoted mem)
            exact absent
      · cases s with
        | bare word => exact (bare mem).2
        | quoted word =>
            cases told.symm.trans (text?_of_quoted mem)
            exact absent

end Op

/-! ### Reading instructions -/

namespace Listing

open Text

theorem readNumber?_byte (byte : UInt8) :
    readNumber? (hexNumeral true 2 byte.toNat).toList = some byte.toUInt32 := by
  have small : byte.toNat < UInt32.size := byte.toNat_lt.trans (by decide)
  rw [readNumber?_hexNumeral 2 small, UInt32.ofNat_uInt8ToNat]

theorem toUInt32_lt (byte : UInt8) : byte.toUInt32 < 256 := by
  rw [UInt32.lt_iff_toNat_lt, UInt8.toNat_toUInt32]
  exact byte.toNat_lt

/-- The comma behind a register is left out, and a name in small letters and digits is kept. -/
theorem registerName_append {register : String}
    (small : ∀ c ∈ register.toList, isSmall c = true) :
    registerName (register ++ ",") = register := by
  have kept : dropEndWhile (· == ',') (register ++ ",").toList = register.toList := by
    have comma : (register ++ ",").toList = register.toList ++ [','] := by simp
    rw [comma, dropEndWhile, List.reverse_append]
    have ends : (register.toList.reverse).dropWhile (· == ',') = register.toList.reverse := by
      refine List.dropWhile_eq_self_iff.2 fun filled => ?_
      have letter := small _ (List.mem_reverse.1 (List.getElem_mem filled))
      intro comma
      rw [beq_iff_eq.1 comma] at letter
      exact absurd letter (by decide)
    simp [ends]
  rw [registerName, kept, String.ofList_toList, lower_of_isSmall small]

/-- An instruction is valid as it is written. -/
theorem instruction_arguments {op : Op} (spellable : op.Spellable) :
    Instruction op.mnemonic (op.arguments.map Spelling.text) op := by
  cases op with
  | nop => exact .nop
  | time => exact .time
  | flip => exact .flip
  | write text => exact .write
  | writeLine text => exact .writeLine
  | jump target => exact .jump (Address.parse?_hexNumeral true 8 target)
  | loop target => exact .loop (Address.parse?_hexNumeral true 8 target)
  | move register value =>
      have number := readNumber?_hexNumeral 0 value.toNat_lt_size
      rw [UInt32.ofNat_toNat] at number
      have valid : Instruction "mov" [register ++ ",", hexNumeral true 0 value.toNat]
          (.move (registerName (register ++ ",")) value) := .move number
      rwa [registerName_append spellable] at valid
  | exit code => exact .exit (readInt32_toString code)
  | window title width height =>
      exact .window (readNumber?_toString width) (readNumber?_toString height)
  | surface width height isPrimary =>
      cases isPrimary with
      | true => exact .primarySurface (readNumber?_toString width) (readNumber?_toString height)
      | false => exact .surface (readNumber?_toString width) (readNumber?_toString height)
  | fill byte =>
      have valid : Instruction "fill" [hexNumeral true 2 byte.toNat]
          (.fill byte.toUInt32.toUInt8) := .fill (readNumber?_byte byte) (toUInt32_lt byte)
      rwa [UInt8.toUInt8_toUInt32] at valid
  | poke address byte =>
      have valid : Instruction "poke"
          [hexNumeral true 8 address.toNat, hexNumeral true 2 byte.toNat]
          (.poke address byte.toUInt32.toUInt8) :=
        .poke (Address.parse?_hexNumeral true 8 address) (readNumber?_byte byte) (toUInt32_lt byte)
      rwa [UInt8.toUInt8_toUInt32] at valid
  | fault message =>
      have only : " ".intercalate [message] = message := rfl
      have valid : Instruction "fault" [message] (.fault (" ".intercalate [message])) := .fault
      rwa [only] at valid

/-- An instruction is read back from its name and its arguments. -/
theorem readOp_arguments {op : Op} (spellable : op.Spellable) :
    readOp op.mnemonic (op.arguments.map Spelling.text) = .ok op :=
  readOp_of_instruction (instruction_arguments spellable)

/-! ### Lines -/

/-- A line of a listing: an address in hexadecimal digits, a space and the instruction there. -/
def line (marked : Bool) (width : Nat) (entry : Address × Op) : String :=
  hexNumeral marked width entry.1.toNat ++ " " ++ entry.2.text

/-- The words of a line as they are spelled. -/
def spelled (marked : Bool) (width : Nat) (entry : Address × Op) : List Spelling :=
  .bare (hexNumeral marked width entry.1.toNat) :: .bare entry.2.mnemonic :: entry.2.arguments

variable (marked : Bool) (width : Nat) {entry : Address × Op}

theorem toList_line : (line marked width entry).toList = spell (spelled marked width entry) := by
  simp [line, spelled, spell, Op.toList_text, Spelling.chars]

theorem readable_spelled (spellable : entry.2.Spellable) :
    ∀ s ∈ spelled marked width entry, s.Readable :=
  List.forall_mem_cons.2 ⟨Spelling.readable_hexNumeral marked width _,
    List.forall_mem_cons.2 ⟨entry.2.readable_mnemonic, spellable.readable⟩⟩

theorem apart_spelled (spellable : entry.2.Spellable) :
    (∀ s ∈ spelled marked width entry, '"' ∉ s.text.toList) ∨
      ∀ s ∈ spelled marked width entry, ';' ∉ s.text.toList := by
  have address := (Spelling.readable_hexNumeral marked width entry.1.toNat).notMem_bare
  have mnemonic := entry.2.readable_mnemonic.notMem_bare
  exact spellable.apart.imp
    (fun absent => List.forall_mem_cons.2 ⟨address.1, List.forall_mem_cons.2 ⟨mnemonic.1, absent⟩⟩)
    fun absent => List.forall_mem_cons.2 ⟨address.2, List.forall_mem_cons.2 ⟨mnemonic.2, absent⟩⟩

/-- A line is read back. -/
theorem readLine_line (spellable : entry.2.Spellable) :
    readLine (line marked width entry).toList = .ok (some entry) := by
  have readable := readable_spelled marked width spellable
  have read : readOp (lower entry.2.mnemonic) (entry.2.arguments.map Spelling.text) =
      .ok entry.2 := by
    rw [Op.lower_mnemonic, readOp_arguments spellable]
  rw [toList_line, readLine, beforeComment_spell readable (apart_spelled marked width spellable),
    words_spell readable]
  simp only [spelled, List.map_cons, Spelling.text, readWords, Address.parse?_hexNumeral, read]
  rfl

theorem notMem_line (spellable : entry.2.Spellable) :
    '\n' ∉ (line marked width entry).toList ∧ '\r' ∉ (line marked width entry).toList := by
  have ne : ∀ c ∈ (line marked width entry).toList, c ≠ '\n' ∧ c ≠ '\r' := by
    intro c mem
    rw [toList_line] at mem
    rcases mem_spell mem with rfl | ⟨s, there, mem⟩
    · decide
    · exact (readable_spelled marked width spellable s there).ne_lineBreak mem
  exact ⟨fun mem => (ne _ mem).1 rfl, fun mem => (ne _ mem).2 rfl⟩

/-! ### Listings -/

/-- The lines of new instructions are added one by one. The induction is on the lines. -/
theorem readLines_lines {entries : List (Address × Op)}
    (spellable : ∀ e ∈ entries, e.2.Spellable) (sorted : entries.Pairwise fun p q => p.1 < q.1)
    {number : Nat} {ops : AddressMap Op} (fresh : ∀ e ∈ entries, e.1 ∉ ops)
    (filled : entries ≠ [] ∨ ops.isEmpty = false) :
    readLines number ops (entries.map fun e => (line marked width e).toList) =
      .ok ⟨entries.foldl (fun m e => m.insert e.1 e.2) ops⟩ := by
  induction entries generalizing number ops with
  | nil =>
      have held := filled.resolve_left (absurd rfl)
      rw [List.map_nil, readLines, held]
      rfl
  | cons e rest ih =>
      obtain ⟨above, tail⟩ := List.pairwise_cons.1 sorted
      have later : ∀ d ∈ rest, d.1 ∉ ops.insert e.1 e.2 := by
        intro d mem
        rw [AddressMap.mem_insert_iff, not_or]
        exact ⟨(UInt32.ne_of_lt (above d mem)).symm, fresh d (List.mem_cons_of_mem _ mem)⟩
      rw [List.map_cons, readLines, readLine_line marked width (spellable e List.mem_cons_self)]
      dsimp only
      rw [if_neg (fresh e List.mem_cons_self), List.foldl_cons]
      exact ih (fun d mem => spellable d (List.mem_cons_of_mem _ mem)) tail later
        (.inr (ops.isEmpty_insert _ _))

/-- A listing as it is written, a line for each instruction in the order of their addresses. -/
def disassembly (l : Listing) : String :=
  String.join (l.ops.toList.map fun e => line marked width e ++ "\n")

theorem toList_disassembly (l : Listing) :
    (disassembly marked width l).toList =
      (l.ops.toList.map fun e => (line marked width e).toList).flatMap (· ++ ['\n']) := by
  simp [disassembly, String.toList_join, List.flatMap_map]

/-- A listing that is written down is read back. -/
theorem parse_disassembly {l : Listing} (filled : l.isEmpty = false)
    (spellable : ∀ e ∈ l.ops.toList, e.2.Spellable) :
    parse (disassembly marked width l) = .ok l := by
  have unbroken : ∀ cs ∈ l.ops.toList.map fun e => (line marked width e).toList,
      '\n' ∉ cs ∧ '\r' ∉ cs := by
    intro cs mem
    obtain ⟨e, there, rfl⟩ := List.mem_map.1 mem
    exact notMem_line marked width (spellable e there)
  have entries : l.ops.toList ≠ [] := by
    intro empty
    simp [isEmpty, AddressMap.isEmpty, empty] at filled
  rw [parse, toList_disassembly, lines_flatMap unbroken,
    readLines_lines marked width spellable l.ops.sorted (fun _ _ => AddressMap.notMem_empty _)
      (.inl entries)]
  exact congrArg (fun ops => Except.ok (Listing.mk ops)) l.ops.ofList_toList

/-- A guest with texts that other tools would expand, cut off or take for the end of the text. -/
def trickyListing : Listing :=
  .ofOps [(0x10, .write "say \"hi\" \\"), (0x11, .writeLine "$HOME # ; `ls`"),
    (0x12, .window "" 640 480), (0x20, .move "r7" 0xDEADBEEF), (0x21, .surface 8 4 true),
    (0x22, .poke 0xFF 7), (0x30, .fault "it's over"), (0xFFFFFFFF, .exit (-2147483648))]

theorem parse_disassembly_of_tricky :
    trickyListing.isEmpty = false ∧ (∀ e ∈ trickyListing.ops.toList, e.2.Spellable) ∧
      (disassembly true 0 trickyListing).startsWith "0x10 write \"say \\\"hi\\\" \\\\\"\n" ∧
      parse (disassembly true 0 trickyListing) = .ok trickyListing := by
  have filled : trickyListing.isEmpty = false := by decide +kernel
  have spellable : ∀ e ∈ trickyListing.ops.toList, e.2.Spellable := by decide +kernel
  exact ⟨filled, spellable, by decide +kernel, parse_disassembly true 0 filled spellable⟩

end Listing

end GuestDebugger
