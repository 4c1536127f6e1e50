import GuestDebugger.Bytes.Lemmas
import GuestDebugger.Prompt.Listings
import GuestDebugger.Proofs.Listing.Numbers
import Mathlib.Data.List.Forall2

/-! # Memory dumps

The rows of a dump show a range of guest memory. Read back, their bytes are those of the range, each
once and in its place. An empty range is answered by an error instead.

## Implementation notes

A slice of a sequence of bytes that reaches beyond its end is cut short. That the bytes of each row
are a slice that `Bytes.slice?` finds says that none is. -/

namespace GuestDebugger

/-! ### Columns of bytes -/

namespace Bytes

open Text

/-- The byte of two hexadecimal digits. -/
def ofDigits? (high low : Char) : Option UInt8 := do
  let high ← digit? 16 high
  let low ← digit? 16 low
  return UInt8.ofNat (high * 16 + low)

/-- Reads bytes that are written in two digits each, with a blank between any two. -/
def readColumn? : List Char → Option (List UInt8)
  | [high, low] => (ofDigits? high low).map ([·])
  | high :: low :: ' ' :: rest => do return (← ofDigits? high low) :: (← readColumn? rest)
  | _ => none

theorem toList_hex (b : UInt8) :
    (hex b).toList = [Nat.digitChar (b.toNat / 16), Nat.digitChar (b.toNat % 16)] := by
  have small : b.toNat / 16 < 16 := by
    have := b.toNat_lt
    omega
  rw [hex, paddedHex, String.toList_ofList, paddedHexDigits]
  by_cases single : b.toNat < 16
  · rw [hexDigits_of_lt single, Nat.div_eq_of_lt single, Nat.mod_eq_of_lt single]
    rfl
  · rw [hexDigits_of_le (Nat.not_lt.1 single), hexDigits_of_lt small]
    rfl

theorem ofDigits?_digitChar (b : UInt8) :
    ofDigits? (Nat.digitChar (b.toNat / 16)) (Nat.digitChar (b.toNat % 16)) = some b := by
  have small : b.toNat / 16 < 16 := by
    have := b.toNat_lt
    omega
  have value : UInt8.ofNat (b.toNat / 16 * 16 + b.toNat % 16) = b := by
    rw [Nat.div_add_mod', UInt8.ofNat_toNat]
  rw [ofDigits?, digit?_digitChar _ small, digit?_digitChar _ (Nat.mod_lt _ (by decide))]
  exact congrArg some value

/-- Bytes are read back from their column. -/
theorem readColumn?_intercalate {bytes : List UInt8} (filled : bytes ≠ []) :
    readColumn? (" ".intercalate (bytes.map hex)).toList = some bytes := by
  induction bytes with
  | nil => exact absurd rfl filled
  | cons b rest ih =>
      cases rest with
      | nil => simp [toList_hex, readColumn?, ofDigits?_digitChar]
      | cons c rest =>
          have later := ih (List.cons_ne_nil c rest)
          rw [List.map_cons] at later
          rw [List.map_cons, List.map_cons, String.intercalate_cons_cons, String.toList_append,
            String.toList_append, toList_hex]
          have blank : " ".toList = [' '] := rfl
          simp only [blank, List.cons_append, List.nil_append, readColumn?, ofDigits?_digitChar,
            later]
          rfl

end Bytes

/-! ### Rows -/

variable {memory : ByteArray} {start stop : Nat}

theorem length_dumpRows (memory : ByteArray) (start stop : Nat) :
    (dumpRows memory start stop).length = (stop - start + 15) / 16 := by
  simp [dumpRows, dumpRowLength]

theorem getElem?_dumpRows {i : Nat} {row : DumpRow}
    (found : (dumpRows memory start stop)[i]? = some row) :
    i < (stop - start + 15) / 16 ∧ row.address = start + i * 16 ∧
      row.bytes = (memory.extract row.address (min (row.address + 16) stop)).toList := by
  have inside : i < (stop - start + 15) / 16 := by
    rw [← length_dumpRows memory start stop]
    exact (List.getElem?_eq_some_iff.1 found).1
  simp only [dumpRows, dumpRowLength, List.getElem?_map, List.getElem?_range inside,
    Option.map_some, Option.some.injEq] at found
  subst found
  exact ⟨inside, rfl, rfl⟩

theorem toList_extract_append {i j k : Nat} (first : i ≤ j) (second : j ≤ k) :
    (memory.extract i j).toList ++ (memory.extract j k).toList = (memory.extract i k).toList := by
  have joined : memory.extract i j ++ memory.extract j k = memory.extract i k := by
    rw [ByteArray.extract_append_extract, Nat.min_eq_left first, Nat.max_eq_right second]
  rw [← joined]
  simp only [Bytes.toList_eq_data_toList, ByteArray.data_append, Array.toList_append]

/-- The first rows of a range are those of the range up to where they end. The induction is on their
number; rows that begin behind the range are empty. -/
theorem flatMap_range (memory : ByteArray) (ordered : start ≤ stop) (count : Nat) :
    (List.range count).flatMap (fun i =>
      (memory.extract (start + i * 16) (min (start + i * 16 + 16) stop)).toList) =
        (memory.extract start (min (start + count * 16) stop)).toList := by
  induction count with
  | zero => simp [Nat.min_eq_left ordered, Bytes.toList_eq_data_toList]
  | succ count ih =>
      have next : start + (count + 1) * 16 = start + count * 16 + 16 := by omega
      rw [List.range_succ, List.flatMap_append, List.flatMap_singleton, ih, next]
      by_cases within : start + count * 16 ≤ stop
      · rw [Nat.min_eq_left within]
        exact toList_extract_append (Nat.le_add_right _ _) (by omega)
      · have all : min (start + count * 16) stop = stop := by omega
        have all' : min (start + count * 16 + 16) stop = stop := by omega
        have nothing : (memory.extract (start + count * 16) stop).toList = [] := by
          rw [Bytes.toList_eq_data_toList, ByteArray.data_extract,
            Array.extract_empty_of_stop_le_start (by omega)]
        rw [all, all', nothing, List.append_nil]

/-- The rows of a range hold all of it. -/
theorem flatMap_dumpRows (ordered : start ≤ stop) :
    (dumpRows memory start stop).flatMap DumpRow.bytes = (memory.extract start stop).toList := by
  have whole : min (start + (stop - start + 15) / 16 * 16) stop = stop := by omega
  rw [dumpRows, List.flatMap_map]
  have rows := flatMap_range memory ordered ((stop - start + 15) / 16)
  rw [whole] at rows
  exact rows

/-- A row lies inside the memory. Its length is the one of rows, up to the end of the range. -/
theorem slice?_dumpRows {row : DumpRow} (mem : row ∈ dumpRows memory start stop)
    (inside : stop ≤ memory.size) :
    row.bytes.length = min 16 (stop - row.address) ∧ row.address < stop ∧
      ∃ slice, Bytes.slice? memory row.address row.bytes.length = some slice ∧
        slice.toList = row.bytes := by
  obtain ⟨i, found⟩ := List.getElem?_of_mem mem
  obtain ⟨early, address, bytes⟩ := getElem?_dumpRows found
  have before : row.address < stop := by omega
  have length : row.bytes.length = min 16 (stop - row.address) := by
    rw [bytes, Bytes.toList_eq_data_toList, Array.length_toList, ByteArray.size_data,
      ByteArray.size_extract]
    omega
  refine ⟨length, before, _, Bytes.slice?_of_le (by omega), ?_⟩
  have ends : row.address + row.bytes.length = min (row.address + 16) stop := by omega
  rw [ends, ← bytes]

/-! ### Dumps -/

/-- Lines show a range of a memory, from `start` up to `stop`, that one left out, in rows. -/
structure Dumps (memory : ByteArray) (start stop : Nat) (lines : List String)
    (rows : List DumpRow) : Prop where
  /-- A line has the address of its row in front, and the bytes are read back from the rest. -/
  lines : List.Forall₂ (fun line row => ∃ column,
    line = "  " ++ Text.paddedHex 8 row.address ++ "  " ++ column ∧
      Bytes.readColumn? column.toList = some row.bytes) lines rows
  /-- The rows together hold the bytes of the range. -/
  bytes : rows.flatMap DumpRow.bytes = (memory.extract start stop).toList
  address : ∀ (i : Nat) (row : DumpRow), rows[i]? = some row → row.address = start + 16 * i
  /-- Every row but the last is full, and that one is not empty. -/
  length : ∀ (i : Nat) (row : DumpRow), rows[i]? = some row →
    row.bytes.length ≤ 16 ∧ 0 < row.bytes.length ∧
      (i + 1 < rows.length → row.bytes.length = 16)
  /-- Each row is a slice that the memory has at its address. -/
  inside : ∀ row ∈ rows, ∃ slice,
    Bytes.slice? memory row.address row.bytes.length = some slice ∧ slice.toList = row.bytes

theorem dumps_dumpRows (ordered : start < stop) (inside : stop ≤ memory.size) :
    Dumps memory start stop ((dumpRows memory start stop).map DumpRow.text)
      (dumpRows memory start stop) where
  lines := by
    rw [List.forall₂_map_left_iff, List.forall₂_same]
    intro row mem
    obtain ⟨length, before, -⟩ := slice?_dumpRows mem inside
    refine ⟨_, rfl, Bytes.readColumn?_intercalate fun empty => ?_⟩
    rw [empty, List.length_nil] at length
    omega
  bytes := flatMap_dumpRows (Nat.le_of_lt ordered)
  address i row found := by
    rw [(getElem?_dumpRows found).2.1, Nat.mul_comm]
  length i row found := by
    obtain ⟨-, address, -⟩ := getElem?_dumpRows found
    obtain ⟨length, before, -⟩ := slice?_dumpRows (List.mem_of_getElem? found) inside
    rw [length_dumpRows]
    omega
  inside row mem := (slice?_dumpRows mem inside).2.2

/-- A line of a dump is no error. -/
theorem Dumps.ne_error {rows : List DumpRow} {message : String}
    (dumps : Dumps memory start stop ["error: " ++ message] rows) : False := by
  cases dumps.lines with
  | cons first =>
      obtain ⟨column, line, -⟩ := first
      have heads := congrArg (fun text : String => text.toList.head?) line
      simp at heads

/-- The lines of a dump show the bytes from the address on, as many as are asked for and there. Only
if there is none, and always then, the one line is an error. -/
theorem memoryLines_dumps (memory : ByteArray) (a : Address) (length : Nat) :
    let stop := min (a.toNat + length) memory.size
    (if a.toNat < stop then ∃ rows, Dumps memory a.toNat stop (memoryLines memory a length) rows
      else memoryLines memory a length = ["error: " ++ a.text ++ " is outside guest memory"]) ∧
    (memoryLines memory a length = ["error: " ++ a.text ++ " is outside guest memory"] ↔
      stop ≤ a.toNat) := by
  intro stop
  by_cases inside : a.toNat < stop
  · have lines : memoryLines memory a length = (dumpRows memory a.toNat stop).map DumpRow.text :=
      if_pos inside
    have dumps := dumps_dumpRows inside (Nat.min_le_right (a.toNat + length) memory.size)
    rw [← lines] at dumps
    rw [if_pos inside]
    refine ⟨⟨_, dumps⟩, iff_of_false (fun error => ?_) (Nat.not_le.2 inside)⟩
    rw [error, String.append_assoc] at dumps
    exact dumps.ne_error
  · have lines : memoryLines memory a length =
        ["error: " ++ a.text ++ " is outside guest memory"] := if_neg inside
    rw [if_neg inside]
    exact ⟨lines, iff_of_true lines (Nat.not_lt.1 inside)⟩

/-- The bytes from two on of a memory of twenty, where more are asked for. -/
theorem memoryLines_dumps_to_the_end :
    let memory : ByteArray := ⟨(Array.range 20).map UInt8.ofNat⟩
    2 < min (2 + 100) memory.size ∧
      memoryLines memory 2 100 =
        ["  00000002  02 03 04 05 06 07 08 09 0a 0b 0c 0d 0e 0f 10 11", "  00000012  12 13"] ∧
      ∃ rows, Dumps memory 2 20 (memoryLines memory 2 100) rows := by
  intro memory
  have inside : (2 : Address).toNat < min ((2 : Address).toNat + 100) memory.size := by
    decide +kernel
  have stop : min ((2 : Address).toNat + 100) memory.size = 20 := by decide +kernel
  have shown := (memoryLines_dumps memory 2 100).1
  rw [if_pos inside, stop] at shown
  exact ⟨inside, by decide +kernel, shown⟩

end GuestDebugger
