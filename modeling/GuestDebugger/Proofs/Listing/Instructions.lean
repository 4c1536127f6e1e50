import GuestDebugger.Except.Lemmas
import GuestDebugger.Listing.Reader

/-! # Valid instructions

The instructions of a listing as a grammar: a mnemonic, the arguments that it needs, and any further
ones. An instruction is read exactly if the grammar has it. -/

namespace GuestDebugger.Listing

/-- A mnemonic in lower case and its arguments make an instruction. Arguments beyond those that an
instruction needs make no difference, but for the third of a surface and those of a fault. -/
inductive Instruction : String → List String → Op → Prop
  | nop {extra : List String} : Instruction "nop" extra .nop
  | jump {target : String} {a : Address} {extra : List String}
      (address : Address.parse? target = some a) : Instruction "jmp" (target :: extra) (.jump a)
  | move {register value : String} {n : UInt32} {extra : List String}
      (number : readNumber? value.toList = some n) :
      Instruction "mov" (register :: value :: extra) (.move (registerName register) n)
  | loop {target : String} {a : Address} {extra : List String}
      (address : Address.parse? target = some a) : Instruction "loop" (target :: extra) (.loop a)
  | time {extra : List String} : Instruction "time" extra .time
  | write {text : String} {extra : List String} : Instruction "write" (text :: extra) (.write text)
  | writeLine {text : String} {extra : List String} :
      Instruction "writeln" (text :: extra) (.writeLine text)
  | exit {text : String} {code : Int32} {extra : List String}
      (number : Text.readInt32 text.toList = .ok code) :
      Instruction "exit" (text :: extra) (.exit code)
  | window {title width height : String} {w h : UInt32} {extra : List String}
      (first : readNumber? width.toList = some w) (second : readNumber? height.toList = some h) :
      Instruction "window" (title :: width :: height :: extra) (.window title w h)
  | surface {width height : String} {w h : UInt32}
      (first : readNumber? width.toList = some w) (second : readNumber? height.toList = some h) :
      Instruction "surface" [width, height] (.surface w h false)
  | primarySurface {width height : String} {w h : UInt32} {extra : List String}
      (first : readNumber? width.toList = some w) (second : readNumber? height.toList = some h) :
      Instruction "surface" (width :: height :: "primary" :: extra) (.surface w h true)
  | fill {value : String} {n : UInt32} {extra : List String}
      (number : readNumber? value.toList = some n) (byte : n < 256) :
      Instruction "fill" (value :: extra) (.fill n.toUInt8)
  | flip {extra : List String} : Instruction "flip" extra .flip
  | poke {target value : String} {a : Address} {n : UInt32} {extra : List String}
      (address : Address.parse? target = some a) (number : readNumber? value.toList = some n)
      (byte : n < 256) : Instruction "poke" (target :: value :: extra) (.poke a n.toUInt8)
  | fault {message : List String} : Instruction "fault" message (.fault (" ".intercalate message))

/-! ### Arguments -/

section Arguments

variable {mnemonic : String} {arguments : List String} {index : Nat}

theorem argument_eq_ok_iff {text : String} :
    argument mnemonic arguments index = .ok text ↔ arguments[index]? = some text := by
  rw [argument]
  cases arguments[index]? <;> simp

/-- An argument is there if something is read from it. -/
theorem bind_argument_eq_ok_iff {α : Type} {read : String → Except LineProblem α} {x : α} :
    (argument mnemonic arguments index >>= read) = .ok x ↔
      ∃ text, arguments[index]? = some text ∧ read text = .ok x := by
  constructor
  · intro done
    obtain ⟨text, there, done⟩ := Except.exists_ok_of_bind done
    exact ⟨text, argument_eq_ok_iff.1 there, done⟩
  · rintro ⟨text, there, done⟩
    exact Except.bind_of_ok (argument_eq_ok_iff.2 there) done

theorem addressArgument_eq_ok_iff {a : Address} :
    addressArgument mnemonic arguments index = .ok a ↔
      ∃ text, arguments[index]? = some text ∧ Address.parse? text = some a := by
  refine bind_argument_eq_ok_iff.trans (exists_congr fun text => and_congr_right fun _ => ?_)
  cases Address.parse? text with
  | none => exact iff_of_false nofun nofun
  | some b => simp [pure, Except.pure]

theorem numberArgument_eq_ok_iff {n : UInt32} :
    numberArgument mnemonic arguments index = .ok n ↔
      ∃ text, arguments[index]? = some text ∧ readNumber? text.toList = some n := by
  refine bind_argument_eq_ok_iff.trans (exists_congr fun text => and_congr_right fun _ => ?_)
  cases readNumber? text.toList with
  | none => exact iff_of_false nofun nofun
  | some m => simp [pure, Except.pure]

theorem byteArgument_eq_ok_iff {byte : UInt8} :
    byteArgument mnemonic arguments index = .ok byte ↔
      ∃ text n, arguments[index]? = some text ∧ readNumber? text.toList = some n ∧ n < 256 ∧
        byte = n.toUInt8 := by
  constructor
  · intro done
    obtain ⟨n, read, done⟩ := Except.exists_ok_of_bind done
    obtain ⟨text, there, number⟩ := numberArgument_eq_ok_iff.1 read
    by_cases fits : n < 256
    · rw [if_pos fits] at done
      cases done
      exact ⟨text, n, there, number, fits, rfl⟩
    · rw [if_neg fits] at done
      cases done
  · rintro ⟨text, n, there, number, fits, rfl⟩
    refine Except.bind_of_ok (numberArgument_eq_ok_iff.2 ⟨text, there, number⟩) ?_
    rw [if_pos fits]
    rfl

theorem exitCodeArgument_eq_ok_iff {code : Int32} :
    exitCodeArgument mnemonic arguments index = .ok code ↔
      ∃ text, arguments[index]? = some text ∧ Text.readInt32 text.toList = .ok code := by
  refine bind_argument_eq_ok_iff.trans (exists_congr fun text => and_congr_right fun _ => ?_)
  cases Text.readInt32 text.toList with
  | error e => exact iff_of_false nofun nofun
  | ok c => simp [pure, Except.pure]

theorem primaryFlag_eq_ok_iff {primary : Bool} :
    primaryFlag arguments = .ok primary ↔
      arguments[2]? = none ∧ primary = false ∨ arguments[2]? = some "primary" ∧ primary = true := by
  rw [primaryFlag]
  cases arguments[2]? with
  | none => simp [eq_comm]
  | some text =>
      by_cases named : text = "primary"
      · simp [named, eq_comm]
      · simp [named]

end Arguments

/-! ### Reading instructions -/

variable {mnemonic : String} {arguments : List String} {op : Op}

theorem readOp_of_instruction (valid : Instruction mnemonic arguments op) :
    readOp mnemonic arguments = .ok op := by
  cases valid with
  | nop | time | flip | write | writeLine | fault => rfl
  | jump address | loop address =>
      exact Except.bind_of_ok (addressArgument_eq_ok_iff.2 ⟨_, rfl, address⟩) rfl
  | move number =>
      exact Except.bind_of_ok (argument_eq_ok_iff.2 rfl)
        (Except.bind_of_ok (numberArgument_eq_ok_iff.2 ⟨_, rfl, number⟩) rfl)
  | exit number => exact Except.bind_of_ok (exitCodeArgument_eq_ok_iff.2 ⟨_, rfl, number⟩) rfl
  | window first second =>
      exact Except.bind_of_ok (argument_eq_ok_iff.2 rfl)
        (Except.bind_of_ok (numberArgument_eq_ok_iff.2 ⟨_, rfl, first⟩)
          (Except.bind_of_ok (numberArgument_eq_ok_iff.2 ⟨_, rfl, second⟩) rfl))
  | surface first second | primarySurface first second =>
      exact Except.bind_of_ok (numberArgument_eq_ok_iff.2 ⟨_, rfl, first⟩)
        (Except.bind_of_ok (numberArgument_eq_ok_iff.2 ⟨_, rfl, second⟩) rfl)
  | fill number byte =>
      exact Except.bind_of_ok (byteArgument_eq_ok_iff.2 ⟨_, _, rfl, number, byte, rfl⟩) rfl
  | poke address number byte =>
      exact Except.bind_of_ok (addressArgument_eq_ok_iff.2 ⟨_, rfl, address⟩)
        (Except.bind_of_ok (byteArgument_eq_ok_iff.2 ⟨_, _, rfl, number, byte, rfl⟩) rfl)

theorem exists_eq_cons {first : String} (there : arguments[0]? = some first) :
    ∃ extra, arguments = first :: extra := by
  cases arguments with
  | nil => cases there
  | cons head extra =>
      cases there
      exact ⟨extra, rfl⟩

theorem exists_eq_cons_cons {first second : String} (there : arguments[0]? = some first)
    (next : arguments[1]? = some second) : ∃ extra, arguments = first :: second :: extra := by
  obtain ⟨rest, rfl⟩ := exists_eq_cons there
  obtain ⟨extra, rfl⟩ := exists_eq_cons (show rest[0]? = some second from next)
  exact ⟨extra, rfl⟩

/-- What is read is valid. The cases are the mnemonics in the order in which they are compared. -/
theorem instruction_of_readOp (read : readOp mnemonic arguments = .ok op) :
    Instruction mnemonic arguments op := by
  unfold readOp at read
  split at read
  · cases read
    exact .nop
  · obtain ⟨a, target, done⟩ := Except.exists_ok_of_bind read
    obtain ⟨text, there, address⟩ := addressArgument_eq_ok_iff.1 target
    obtain ⟨extra, rfl⟩ := exists_eq_cons there
    cases done
    exact .jump address
  · obtain ⟨register, first, later⟩ := Except.exists_ok_of_bind read
    obtain ⟨n, value, done⟩ := Except.exists_ok_of_bind later
    obtain ⟨text, second, number⟩ := numberArgument_eq_ok_iff.1 value
    obtain ⟨extra, rfl⟩ := exists_eq_cons_cons (argument_eq_ok_iff.1 first) second
    cases done
    exact .move number
  · obtain ⟨a, target, done⟩ := Except.exists_ok_of_bind read
    obtain ⟨text, there, address⟩ := addressArgument_eq_ok_iff.1 target
    obtain ⟨extra, rfl⟩ := exists_eq_cons there
    cases done
    exact .loop address
  · cases read
    exact .time
  · obtain ⟨text, first, done⟩ := Except.exists_ok_of_bind read
    obtain ⟨extra, rfl⟩ := exists_eq_cons (argument_eq_ok_iff.1 first)
    cases done
    exact .write
  · obtain ⟨text, first, done⟩ := Except.exists_ok_of_bind read
    obtain ⟨extra, rfl⟩ := exists_eq_cons (argument_eq_ok_iff.1 first)
    cases done
    exact .writeLine
  · obtain ⟨code, value, done⟩ := Except.exists_ok_of_bind read
    obtain ⟨text, there, number⟩ := exitCodeArgument_eq_ok_iff.1 value
    obtain ⟨extra, rfl⟩ := exists_eq_cons there
    cases done
    exact .exit number
  · obtain ⟨title, first, later⟩ := Except.exists_ok_of_bind read
    obtain ⟨w, width, last⟩ := Except.exists_ok_of_bind later
    obtain ⟨h, height, done⟩ := Except.exists_ok_of_bind last
    obtain ⟨widthText, second, wide⟩ := numberArgument_eq_ok_iff.1 width
    obtain ⟨heightText, third, high⟩ := numberArgument_eq_ok_iff.1 height
    obtain ⟨rest, rfl⟩ := exists_eq_cons (argument_eq_ok_iff.1 first)
    obtain ⟨extra, rfl⟩ := exists_eq_cons_cons
      (show rest[0]? = some widthText from second) (show rest[1]? = some heightText from third)
    cases done
    exact .window wide high
  · obtain ⟨w, width, later⟩ := Except.exists_ok_of_bind read
    obtain ⟨h, height, last⟩ := Except.exists_ok_of_bind later
    obtain ⟨primary, flag, done⟩ := Except.exists_ok_of_bind last
    obtain ⟨widthText, first, wide⟩ := numberArgument_eq_ok_iff.1 width
    obtain ⟨heightText, second, high⟩ := numberArgument_eq_ok_iff.1 height
    obtain ⟨rest, rfl⟩ := exists_eq_cons_cons first second
    cases done
    rcases primaryFlag_eq_ok_iff.1 flag with ⟨unnamed, rfl⟩ | ⟨named, rfl⟩
    · cases rest with
      | nil => exact .surface wide high
      | cons third extra => cases unnamed
    · obtain ⟨extra, rfl⟩ := exists_eq_cons (show rest[0]? = some "primary" from named)
      exact .primarySurface wide high
  · obtain ⟨byte, value, done⟩ := Except.exists_ok_of_bind read
    obtain ⟨text, n, there, number, fits, rfl⟩ := byteArgument_eq_ok_iff.1 value
    obtain ⟨extra, rfl⟩ := exists_eq_cons there
    cases done
    exact .fill number fits
  · cases read
    exact .flip
  · obtain ⟨a, target, later⟩ := Except.exists_ok_of_bind read
    obtain ⟨byte, value, done⟩ := Except.exists_ok_of_bind later
    obtain ⟨targetText, first, address⟩ := addressArgument_eq_ok_iff.1 target
    obtain ⟨valueText, n, second, number, fits, rfl⟩ := byteArgument_eq_ok_iff.1 value
    obtain ⟨extra, rfl⟩ := exists_eq_cons_cons first second
    cases done
    exact .poke address number fits
  · cases read
    exact .fault
  · cases read

theorem readOp_eq_ok_iff :
    readOp mnemonic arguments = .ok op ↔ Instruction mnemonic arguments op :=
  ⟨instruction_of_readOp, readOp_of_instruction⟩

end GuestDebugger.Listing
