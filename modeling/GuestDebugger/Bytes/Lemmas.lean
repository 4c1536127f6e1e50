import GuestDebugger.Bytes

/-! # Slices of byte sequences

Slices that lie inside their sequence, and what is found in a sequence after a slice of it was
taken or overwritten. -/

namespace GuestDebugger.Bytes

/-- The slice of a length from a start on, if all of it is there. -/
def slice? (bytes : ByteArray) (start length : Nat) : Option ByteArray :=
  if start + length ≤ bytes.size then some (bytes.extract start (start + length)) else none

/-- Overwrites a slice with one of another sequence, if all of both is there. -/
def splice? (source : ByteArray) (start : Nat) (target : ByteArray) (place length : Nat) :
    Option ByteArray :=
  if start + length ≤ source.size ∧ place + length ≤ target.size then
    some (source.copySlice start target place length)
  else none

theorem slice?_of_le {bytes : ByteArray} {start length : Nat}
    (inside : start + length ≤ bytes.size) :
    slice? bytes start length = some (bytes.extract start (start + length)) := if_pos inside

theorem splice?_of_le {source target : ByteArray} {start place length : Nat}
    (there : start + length ≤ source.size) (inside : place + length ≤ target.size) :
    splice? source start target place length =
      some (source.copySlice start target place length) := if_pos ⟨there, inside⟩

theorem toList_loop (bytes : ByteArray) (i : Nat) (before : List UInt8) :
    ByteArray.toList.loop bytes i before = before.reverse ++ bytes.data.toList.drop i := by
  fun_induction ByteArray.toList.loop bytes i before with
  | case1 i before inside ih =>
      have inside' : i < bytes.data.toList.length := by simpa using inside
      have byte : bytes.get! i = bytes.data[i]! := by cases bytes; rfl
      rw [ih, List.drop_eq_getElem_cons inside', byte, getElem!_pos bytes.data i inside]
      simp
  | case2 i before outside =>
      rw [List.drop_eq_nil_of_le (by simpa using Nat.le_of_not_lt outside)]
      simp

theorem toList_eq_data_toList (bytes : ByteArray) : bytes.toList = bytes.data.toList := by
  rw [ByteArray.toList, toList_loop]
  simp

theorem getElem?_data (bytes : ByteArray) (i : Nat) : bytes[i]? = bytes.data[i]? := rfl

/-- Sequences with the same byte at every place are equal. -/
theorem eq_of_getElem?_eq {a b : ByteArray} (same : ∀ i : Nat, a[i]? = b[i]?) : a = b :=
  ByteArray.ext (Array.ext_getElem? same)

theorem getElem?_append (a b : ByteArray) (i : Nat) :
    (a ++ b)[i]? = if i < a.size then a[i]? else b[i - a.size]? := by
  simp only [getElem?_data, ByteArray.data_append, Array.getElem?_append, ByteArray.size_data]

/-- A slice that goes beyond the end is the whole sequence. -/
theorem extract_of_size_le {bytes : ByteArray} {stop : Nat} (all : bytes.size ≤ stop) :
    bytes.extract 0 stop = bytes := by
  apply ByteArray.ext
  rw [ByteArray.data_extract]
  exact Array.extract_eq_self_of_le all

theorem getElem?_extract (bytes : ByteArray) (start stop i : Nat) :
    (bytes.extract start stop)[i]? =
      if i < min stop bytes.size - start then bytes[start + i]? else none := by
  simp only [getElem?_data, ByteArray.data_extract, Array.getElem?_extract, ByteArray.size_data]

/-- A slice holds what the sequence holds there. -/
theorem getElem?_extract_of_le {bytes : ByteArray} {start length : Nat}
    (inside : start + length ≤ bytes.size) (i : Nat) :
    (bytes.extract start (start + length))[i]? =
      if i < length then bytes[start + i]? else none := by
  have span : min (start + length) bytes.size - start = length := by omega
  rw [getElem?_extract, span]

section Splice

variable {source target : ByteArray} {start place length : Nat}

theorem size_copySlice (there : start + length ≤ source.size)
    (inside : place + length ≤ target.size) :
    (source.copySlice start target place length).size = target.size := by
  rw [ByteArray.copySlice_eq_append, ByteArray.size_append, ByteArray.size_append,
    ByteArray.size_extract, ByteArray.size_extract, ByteArray.size_extract]
  simp only [ByteArray.size_data]
  omega

/-- In the slice that was overwritten there are the new bytes, elsewhere the old ones. -/
theorem getElem?_copySlice (there : start + length ≤ source.size)
    (inside : place + length ≤ target.size) (i : Nat) :
    (source.copySlice start target place length)[i]? =
      if place ≤ i ∧ i < place + length then source[start + (i - place)]? else target[i]? := by
  have copied : min length (source.data.size - start) = length := by
    rw [ByteArray.size_data]
    omega
  have before : (target.extract 0 place).size = place := by
    rw [ByteArray.size_extract]
    omega
  have middle : (source.extract start (start + length)).size = length := by
    rw [ByteArray.size_extract]
    omega
  rw [ByteArray.copySlice_eq_append, copied, ByteArray.size_data, getElem?_append,
    ByteArray.size_append, before, middle]
  by_cases left : i < place
  · have outside : ¬(place ≤ i ∧ i < place + length) := by omega
    have early : i < place + length := by omega
    rw [if_pos early, if_neg outside, getElem?_append, before, if_pos left, getElem?_extract]
    have range : i < min place target.size - 0 := by omega
    rw [if_pos range, Nat.zero_add]
  · by_cases within : i < place + length
    · have here : place ≤ i ∧ i < place + length := by omega
      rw [if_pos within, if_pos here, getElem?_append, before, if_neg left,
        getElem?_extract_of_le there]
      have range : i - place < length := by omega
      rw [if_pos range]
    · have outside : ¬(place ≤ i ∧ i < place + length) := by omega
      rw [if_neg within, if_neg outside, getElem?_extract, Nat.min_self]
      by_cases last : i < target.size
      · have range : i - (place + length) < target.size - (place + length) := by omega
        have same : place + length + (i - (place + length)) = i := by omega
        rw [if_pos range, same]
      · have range : ¬i - (place + length) < target.size - (place + length) := by omega
        have absent : target[i]? = none := getElem?_neg target i (by simpa using last)
        rw [if_neg range, absent]

end Splice

theorem size_pushCopies (b : UInt8) (n : Nat) (bytes : ByteArray) :
    (pushCopies b n bytes).size = bytes.size + n := by
  induction n generalizing bytes with
  | zero => rfl
  | succ n ih =>
      rw [pushCopies, ih, ByteArray.size_push]
      omega

@[simp] theorem size_replicate (n : Nat) (b : UInt8) : (replicate n b).size = n := by
  rw [replicate, size_pushCopies]
  exact Nat.zero_add n

theorem data_pushCopies (b : UInt8) (n : Nat) (bytes : ByteArray) :
    (pushCopies b n bytes).data = bytes.data ++ Array.replicate n b := by
  induction n generalizing bytes with
  | zero => exact (Array.append_empty).symm
  | succ n ih =>
      rw [pushCopies, ih, ByteArray.data_push, Array.push_eq_append, Array.append_assoc]
      exact congrArg (bytes.data ++ ·) Array.replicate_succ'.symm

/-- A filled sequence has the same byte everywhere. -/
theorem getElem?_replicate {n i : Nat} (inside : i < n) (b : UInt8) :
    (replicate n b)[i]? = some b := by
  have data : (replicate n b).data = Array.replicate n b := by
    rw [replicate, data_pushCopies]
    exact Array.empty_append
  rw [getElem?_data, data, Array.getElem?_replicate, if_pos inside]

end GuestDebugger.Bytes
