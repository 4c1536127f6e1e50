import GuestDebugger.Text.Lemmas

/-! # Decoding in pieces

Bytes that are decoded in two pieces stand for the same text as in one, unless the cut falls inside
a character: unless the bytes before it end as a character begins that those after it go on with.
Then there are more characters in the pieces than in the whole, since what was begun and what goes
on with it are invalid each for itself.

## Implementation notes

The decoder says the same in its own terms: after the first piece a character is open, and the next
byte fits. The two are shown to agree from both sides. A beginning of a character leaves it open
because the pieces of a character cannot each be decoded alone; an open character can be completed
because its bits and its bounds are those of encoded characters. -/

namespace GuestDebugger.Text

/-- A cut falls inside a character, which need not be complete after it. -/
def Straddles (before after : List UInt8) : Prop :=
  ∃ c begun further, begun ≠ [] ∧ further ≠ [] ∧ begun ++ further <+: String.utf8EncodeChar c ∧
    begun <:+ before ∧ further <+: after

/-- Nothing is begun before the first byte. -/
theorem not_straddles_nil {after : List UInt8} : ¬Straddles [] after := by
  rintro ⟨_, _, _, filled, -, -, ends, -⟩
  exact filled (List.suffix_nil.1 ends)

/-! ### Open characters -/

namespace OpenChar

/-- A byte goes on with an open character. -/
def Fits (o : OpenChar) (b : UInt8) : Prop := o.least ≤ b ∧ b ≤ o.greatest

instance (o : OpenChar) (b : UInt8) : Decidable (o.Fits b) :=
  inferInstanceAs (Decidable (_ ∧ _))

/-- The bounds of an open character are bounds of bytes after the first of a character. -/
structure Bounded (o : OpenChar) : Prop where
  least : 0x80 ≤ o.least
  greatest : o.greatest ≤ 0xBF

theorem fits_iff {o : OpenChar} {b : UInt8} :
    o.Fits b ↔ o.least.toNat ≤ b.toNat ∧ b.toNat ≤ o.greatest.toNat := by
  rw [Fits, UInt8.le_iff_toNat_le, UInt8.le_iff_toNat_le]

end OpenChar

/-- A byte that only goes on with characters, and begins none. -/
def Trails (b : UInt8) : Prop := 0x80 ≤ b ∧ b ≤ 0xBF

theorem OpenChar.Bounded.trails {o : OpenChar} {b : UInt8} (bounded : o.Bounded) (fits : o.Fits b) :
    Trails b :=
  ⟨UInt8.le_trans bounded.least fits.1, UInt8.le_trans fits.2 bounded.greatest⟩

theorem firstByte_of_trails {b : UInt8} (trails : Trails b) : firstByte b = ([none], none) := by
  have least : 0x80 ≤ b.toNat := UInt8.le_iff_toNat_le.1 trails.1
  have greatest : b.toNat ≤ 0xBF := UInt8.le_iff_toNat_le.1 trails.2
  simp only [firstByte]
  rw [if_neg (by omega), if_pos (by omega)]

section Bytes

variable {o : OpenChar} {b : UInt8}

theorem nextByte_of_not_fits (other : ¬o.Fits b) :
    nextByte (some o) b = (none :: (firstByte b).1, (firstByte b).2) := by
  rw [nextByte]
  exact if_neg other

theorem nextByte_of_fits (fits : o.Fits b) :
    nextByte (some o) b =
      if o.missing ≤ 1 then ([some (Char.ofNat (o.bits * 64 + b.toNat % 64))], none)
      else ([], some ⟨o.bits * 64 + b.toNat % 64, o.missing - 1, 0x80, 0xBF⟩) := by
  rw [nextByte]
  exact if_pos fits

theorem decodeFrom_cons (pending : Option OpenChar) (b : UInt8) (rest : List UInt8) :
    decodeFrom pending (b :: rest) =
      (nextByte pending b).1 ++ decodeFrom (nextByte pending b).2 rest := rfl

theorem decodeFrom_of_not_fits (other : ¬o.Fits b) (rest : List UInt8) :
    decodeFrom (some o) (b :: rest) = none :: decodeFrom none (b :: rest) := by
  rw [decodeFrom, nextByte_of_not_fits other]
  rfl

theorem decodeFrom_of_trails (trails : Trails b) (rest : List UInt8) :
    decodeFrom none (b :: rest) = none :: decodeFrom none rest := by
  rw [decodeFrom, nextByte, firstByte_of_trails trails]
  rfl

theorem bounded_free (bits missing : Nat) : OpenChar.Bounded ⟨bits, missing, 0x80, 0xBF⟩ :=
  ⟨UInt8.le_refl _, UInt8.le_refl _⟩

/-- An open character adds at most one part to what follows it. -/
theorem length_decodeFrom_some_le {bytes : List UInt8} (bounded : o.Bounded) :
    (decodeFrom (some o) bytes).length ≤ (decodeFrom none bytes).length + 1 := by
  induction bytes generalizing o with
  | nil => exact Nat.le_refl _
  | cons b rest ih =>
      by_cases fits : o.Fits b
      · rw [decodeFrom_cons, nextByte_of_fits fits, decodeFrom_of_trails (bounded.trails fits)]
        split
        · exact Nat.le_succ _
        · exact Nat.le_succ_of_le (ih (bounded_free _ _))
      · rw [decodeFrom_of_not_fits fits]
        exact Nat.le_refl _

/-- If the next byte fits it, it adds none. -/
theorem length_decodeFrom_of_fits (bounded : o.Bounded) (fits : o.Fits b) (rest : List UInt8) :
    (decodeFrom (some o) (b :: rest)).length ≤ (decodeFrom none (b :: rest)).length := by
  rw [decodeFrom_cons, nextByte_of_fits fits, decodeFrom_of_trails (bounded.trails fits)]
  split
  · exact Nat.le_refl _
  · exact length_decodeFrom_some_le (bounded_free _ _)

end Bytes

/-! ### After a piece -/

/-- The character that is open after more bytes. -/
def openAfter (pending : Option OpenChar) (bytes : List UInt8) : Option OpenChar :=
  bytes.foldl (fun pending b => (nextByte pending b).2) pending

theorem openAfter_append (pending : Option OpenChar) (before after : List UInt8) :
    openAfter pending (before ++ after) = openAfter (openAfter pending before) after :=
  List.foldl_append

/-- What the first piece gives for itself comes before what the second gives on its state. -/
theorem decodeFrom_append (pending : Option OpenChar) (before : List UInt8) :
    ∃ out, ∀ after, decodeFrom pending (before ++ after) =
      out ++ decodeFrom (openAfter pending before) after := by
  induction before generalizing pending with
  | nil => exact ⟨[], fun _ => rfl⟩
  | cons b before ih =>
      obtain ⟨out, told⟩ := ih (nextByte pending b).2
      refine ⟨(nextByte pending b).1 ++ out, ?_⟩
      intro after
      rw [List.cons_append, decodeFrom_cons, told, List.append_assoc]
      rfl

/-- Bytes go on with a character that is open before them. -/
def GoesOn (pending : Option OpenChar) (bytes : List UInt8) : Prop :=
  ∃ o b rest, pending = some o ∧ bytes = b :: rest ∧ o.Fits b

/-- Without a character that goes on, a cut makes no difference. -/
theorem decodeFrom_append_of_not_goesOn {before after : List UInt8}
    (apart : ¬GoesOn (openAfter none before) after) :
    decodeFrom none (before ++ after) = decodeFrom none before ++ decodeFrom none after := by
  obtain ⟨out, told⟩ := decodeFrom_append none before
  have first := told []
  rw [List.append_nil] at first
  rw [told, first]
  cases pending : openAfter none before with
  | none => simp [decodeFrom]
  | some o =>
      cases after with
      | nil => simp [decodeFrom]
      | cons b rest =>
          have other : ¬o.Fits b := fun fits => apart ⟨o, b, rest, pending, rfl, fits⟩
          rw [decodeFrom_of_not_fits other]
          simp [decodeFrom]

/-- A byte gives something or leaves a character open. -/
theorem nextByte_tells (pending : Option OpenChar) (b : UInt8) :
    (nextByte pending b).1 ≠ [] ∨ ∃ o, (nextByte pending b).2 = some o := by
  have begins : (firstByte b).1 ≠ [] ∨ ∃ o, (firstByte b).2 = some o := by
    simp only [firstByte]
    repeat' split
    all_goals simp
  cases pending with
  | none => exact begins
  | some p =>
      by_cases fits : p.Fits b
      · rw [nextByte_of_fits fits]
        split <;> simp
      · rw [nextByte_of_not_fits fits]
        simp

theorem decodeFrom_some_ne_nil (o : OpenChar) (bytes : List UInt8) :
    decodeFrom (some o) bytes ≠ [] := by
  induction bytes generalizing o with
  | nil => simp [decodeFrom]
  | cons b rest ih =>
      rw [decodeFrom_cons, ne_eq, List.append_eq_nil_iff, not_and_or]
      rcases nextByte_tells (some o) b with gives | ⟨o', opens⟩
      · exact .inl gives
      · rw [opens]
        exact .inr (ih o')

theorem decodeFrom_ne_nil {bytes : List UInt8} (filled : bytes ≠ []) :
    decodeFrom none bytes ≠ [] := by
  obtain ⟨b, rest, rfl⟩ := List.exists_cons_of_ne_nil filled
  rw [decodeFrom_cons, ne_eq, List.append_eq_nil_iff, not_and_or]
  rcases nextByte_tells none b with gives | ⟨o, opens⟩
  · exact .inl gives
  · rw [opens]
    exact .inr (decodeFrom_some_ne_nil o rest)

/-! ### Characters that are completed -/

/-- Whatever bytes of the right number go on with what was begun, there is such a character. -/
structure Completable (begun : List UInt8) (o : OpenChar) : Prop where
  filled : begun ≠ []
  bounded : o.Bounded
  missing : 0 < o.missing
  completed : ∀ b rest, o.Fits b → (∀ x ∈ rest, Trails x) → rest.length + 1 = o.missing →
    ∃ c, begun ++ b :: rest = String.utf8EncodeChar c

section Lead

variable (high : Nat)

theorem exists_char {n : Nat} (valid : n < 0xD800 ∨ 0xDFFF < n ∧ n < 0x110000) :
    ∃ c : Char, c.val.toNat = n := ⟨Char.ofNatAux n valid, rfl⟩

theorem trails_eq {b : UInt8} (trails : Trails b) :
    ∃ low, low < 64 ∧ b = UInt8.ofNat (low + 0x80) ∧ b.toNat = low + 0x80 := by
  have least : 0x80 ≤ b.toNat := UInt8.le_iff_toNat_le.1 trails.1
  have greatest : b.toNat ≤ 0xBF := UInt8.le_iff_toNat_le.1 trails.2
  have number : b.toNat = b.toNat - 0x80 + 0x80 := by omega
  refine ⟨b.toNat - 0x80, by omega, ?_, number⟩
  rw [← number, UInt8.ofNat_toNat]

theorem completable_two (least : 2 ≤ high) (small : high < 32) :
    Completable [UInt8.ofNat (high + 0xC0)] ⟨high, 1, 0x80, 0xBF⟩ := by
  refine ⟨List.cons_ne_nil _ _, bounded_free _ _, Nat.one_pos, ?_⟩
  intro b rest fits _ length
  obtain rfl : rest = [] := List.length_eq_zero_iff.1 (Nat.succ.inj length)
  obtain ⟨low, below, rfl, -⟩ := trails_eq fits
  obtain ⟨c, value⟩ := exists_char (n := high * 64 + low) (by omega)
  have first : (high * 64 + low) / 64 % 32 = high := by omega
  have second : (high * 64 + low) % 64 = low := by omega
  refine ⟨c, ?_⟩
  simp only [String.utf8EncodeChar, value, first, second]
  rw [if_neg (by omega), if_pos (by omega)]
  rfl

/-- The second byte is restricted where the value could be written shorter or is a surrogate. -/
theorem completable_three (small : high < 16) :
    Completable [UInt8.ofNat (high + 0xE0)]
      ⟨high, 2, if high = 0 then 0xA0 else 0x80, if high = 13 then 0x9F else 0xBF⟩ := by
  have bounded : OpenChar.Bounded
      ⟨high, 2, if high = 0 then 0xA0 else 0x80, if high = 13 then 0x9F else 0xBF⟩ := by
    constructor <;> dsimp only <;> split <;> decide
  refine ⟨List.cons_ne_nil _ _, bounded, Nat.two_pos, ?_⟩
  intro b rest fits all length
  obtain ⟨b', rfl⟩ := List.length_eq_one_iff.1 (Nat.succ.inj length)
  obtain ⟨middle, _, rfl, number⟩ := trails_eq (bounded.trails fits)
  obtain ⟨low, _, rfl, -⟩ := trails_eq (all b' (List.mem_singleton_self _))
  obtain ⟨above, below⟩ := OpenChar.fits_iff.1 fits
  rw [number] at above below
  have shortest : high = 0 → 0xA0 ≤ middle + 0x80 := by
    rintro rfl
    exact above
  have proper : high = 13 → middle + 0x80 ≤ 0x9F := by
    rintro rfl
    exact below
  obtain ⟨c, value⟩ := exists_char (n := (high * 64 + middle) * 64 + low) (by omega)
  have first : ((high * 64 + middle) * 64 + low) / 4096 % 16 = high := by omega
  have second : ((high * 64 + middle) * 64 + low) / 64 % 64 = middle := by omega
  have third : ((high * 64 + middle) * 64 + low) % 64 = low := by omega
  refine ⟨c, ?_⟩
  simp only [String.utf8EncodeChar, value, first, second, third]
  rw [if_neg (by omega), if_neg (by omega), if_pos (by omega)]
  rfl

/-- The second byte is restricted where the value could be written shorter or is no character. -/
theorem completable_four (small : high < 5) :
    Completable [UInt8.ofNat (high + 0xF0)]
      ⟨high, 3, if high = 0 then 0x90 else 0x80, if high = 4 then 0x8F else 0xBF⟩ := by
  have bounded : OpenChar.Bounded
      ⟨high, 3, if high = 0 then 0x90 else 0x80, if high = 4 then 0x8F else 0xBF⟩ := by
    constructor <;> dsimp only <;> split <;> decide
  refine ⟨List.cons_ne_nil _ _, bounded, Nat.succ_pos _, ?_⟩
  intro b rest fits all length
  obtain ⟨b', b'', rfl⟩ := List.length_eq_two.1 (Nat.succ.inj length)
  obtain ⟨upper, _, rfl, number⟩ := trails_eq (bounded.trails fits)
  obtain ⟨middle, _, rfl, -⟩ := trails_eq (all b' (by simp))
  obtain ⟨low, _, rfl, -⟩ := trails_eq (all b'' (by simp))
  obtain ⟨above, below⟩ := OpenChar.fits_iff.1 fits
  rw [number] at above below
  have shortest : high = 0 → 0x90 ≤ upper + 0x80 := by
    rintro rfl
    exact above
  have proper : high = 4 → upper + 0x80 ≤ 0x8F := by
    rintro rfl
    exact below
  obtain ⟨c, value⟩ :=
    exists_char (n := ((high * 64 + upper) * 64 + middle) * 64 + low) (by omega)
  have first : (((high * 64 + upper) * 64 + middle) * 64 + low) / 262144 % 8 = high := by omega
  have second : (((high * 64 + upper) * 64 + middle) * 64 + low) / 4096 % 64 = upper := by omega
  have third : (((high * 64 + upper) * 64 + middle) * 64 + low) / 64 % 64 = middle := by omega
  have fourth : (((high * 64 + upper) * 64 + middle) * 64 + low) % 64 = low := by omega
  refine ⟨c, ?_⟩
  simp only [String.utf8EncodeChar, value, first, second, third, fourth]
  rw [if_neg (by omega), if_neg (by omega), if_neg (by omega)]
  rfl

end Lead

/-- The cases are the lengths of characters. -/
theorem completable_firstByte {b : UInt8} {o : OpenChar} (opens : (firstByte b).2 = some o) :
    Completable [b] o := by
  have byte : ∀ {base : Nat}, base ≤ b.toNat → UInt8.ofNat (b.toNat - base + base) = b := by
    intro base above
    rw [Nat.sub_add_cancel above, UInt8.ofNat_toNat]
  simp only [firstByte] at opens
  split at opens
  · cases opens
  split at opens
  · cases opens
  split at opens
  · obtain rfl := Option.some.inj opens
    have completable := completable_two (b.toNat - 0xC0) (by omega) (by omega)
    rwa [byte (by omega)] at completable
  split at opens
  · obtain rfl := Option.some.inj opens
    have completable := completable_three (b.toNat - 0xE0) (by omega)
    have first : b.toNat - 0xE0 = 0 ↔ b.toNat = 0xE0 := by omega
    have last : b.toNat - 0xE0 = 13 ↔ b.toNat = 0xED := by omega
    simpa only [byte (show 0xE0 ≤ b.toNat by omega), first, last] using completable
  split at opens
  · obtain rfl := Option.some.inj opens
    have completable := completable_four (b.toNat - 0xF0) (by omega)
    have first : b.toNat - 0xF0 = 0 ↔ b.toNat = 0xF0 := by omega
    have last : b.toNat - 0xF0 = 4 ↔ b.toNat = 0xF4 := by omega
    simpa only [byte (show 0xF0 ≤ b.toNat by omega), first, last] using completable
  · cases opens

/-- What was begun is as long as it could still be completed. -/
theorem Completable.more {begun : List UInt8} {o : OpenChar} (completable : Completable begun o)
    {b : UInt8} (fits : o.Fits b) (open' : ¬o.missing ≤ 1) :
    Completable (begun ++ [b]) ⟨o.bits * 64 + b.toNat % 64, o.missing - 1, 0x80, 0xBF⟩ := by
  refine ⟨by simp, bounded_free _ _, Nat.sub_pos_of_lt (Nat.not_le.1 open'), ?_⟩
  intro b' rest fits' all length
  have trail : ∀ x ∈ b' :: rest, Trails x := List.forall_mem_cons.2 ⟨fits', all⟩
  have length' : (b' :: rest).length + 1 = o.missing := by
    rw [List.length_cons, length]
    exact Nat.sub_add_cancel completable.missing
  obtain ⟨c, encoded⟩ := completable.completed b (b' :: rest) fits trail length'
  exact ⟨c, by simpa using encoded⟩

/-- A character that is open was begun by the last bytes. The induction is on the bytes from the
end, where the character is begun or gone on with. -/
theorem exists_completable {bytes : List UInt8} {o : OpenChar}
    (opens : openAfter none bytes = some o) : ∃ begun, begun <:+ bytes ∧ Completable begun o := by
  induction bytes using List.reverseRecOn generalizing o with
  | nil => cases opens
  | append_singleton bytes b ih =>
      have last : openAfter none (bytes ++ [b]) = (nextByte (openAfter none bytes) b).2 :=
        openAfter_append none bytes [b]
      rw [last] at opens
      have single : [b] <:+ bytes ++ [b] := List.suffix_append _ _
      cases before : openAfter none bytes with
      | none =>
          rw [before] at opens
          exact ⟨[b], single, completable_firstByte opens⟩
      | some p =>
          rw [before] at opens
          by_cases fits : p.Fits b
          · obtain ⟨begun, ⟨earlier, rfl⟩, completable⟩ := ih before
            rw [nextByte_of_fits fits] at opens
            split at opens
            · cases opens
            · rename_i open'
              obtain rfl := Option.some.inj opens
              exact ⟨begun ++ [b], ⟨earlier, by simp⟩, completable.more fits open'⟩
          · rw [nextByte_of_not_fits fits] at opens
            exact ⟨[b], single, completable_firstByte opens⟩

theorem bounded_openAfter {bytes : List UInt8} {o : OpenChar}
    (opens : openAfter none bytes = some o) : o.Bounded := by
  obtain ⟨_, -, completable⟩ := exists_completable opens
  exact completable.bounded

theorem GoesOn.straddles {before after : List UInt8}
    (goesOn : GoesOn (openAfter none before) after) : Straddles before after := by
  obtain ⟨o, b, rest, opens, rfl, fits⟩ := goesOn
  obtain ⟨begun, ends, completable⟩ := exists_completable opens
  -- The least bytes that go on complete the character as well as any others.
  have trail : ∀ x ∈ List.replicate (o.missing - 1) (0x80 : UInt8), Trails x := by
    intro x mem
    rw [List.eq_of_mem_replicate mem]
    exact ⟨UInt8.le_refl _, by decide⟩
  have length : (List.replicate (o.missing - 1) (0x80 : UInt8)).length + 1 = o.missing := by
    rw [List.length_replicate]
    exact Nat.sub_add_cancel completable.missing
  obtain ⟨c, encoded⟩ := completable.completed b _ fits trail length
  exact ⟨c, begun, [b], completable.filled, List.cons_ne_nil _ _, ⟨_, by simpa using encoded⟩, ends,
    ⟨rest, rfl⟩⟩

/-! ### Characters that are cut -/

/-- A beginning of a character leaves it open for its next byte. -/
theorem goesOn_of_encoded {c : Char} {begun further : List UInt8}
    (encoded : begun ++ further = String.utf8EncodeChar c) (filled : begun ≠ [])
    (more : further ≠ []) : GoesOn (openAfter none begun) further := by
  by_contra apart
  have whole := decodeFrom_utf8EncodeChar c []
  rw [List.append_nil, ← encoded, decodeFrom_append_of_not_goesOn apart] at whole
  have lengths := congrArg List.length whole
  have first := List.length_pos_iff.2 (decodeFrom_ne_nil filled)
  have second := List.length_pos_iff.2 (decodeFrom_ne_nil more)
  rw [List.length_append] at lengths
  simp only [decodeFrom, Option.isSome_none, Bool.false_eq_true, if_false, List.length_cons,
    List.length_nil] at lengths
  omega

theorem not_trails_of_encoded {c : Char} {b : UInt8} {rest : List UInt8}
    (encoded : b :: rest = String.utf8EncodeChar c) : ¬Trails b := by
  intro trails
  have whole := decodeFrom_utf8EncodeChar c []
  rw [List.append_nil, ← encoded, decodeFrom_of_trails trails] at whole
  cases whole

/-- A byte that begins characters does so whatever is open. -/
theorem openAfter_of_not_trails {pending : Option OpenChar} {b : UInt8}
    (bounded : ∀ o, pending = some o → o.Bounded) (begins : ¬Trails b) (rest : List UInt8) :
    openAfter pending (b :: rest) = openAfter none (b :: rest) := by
  cases pending with
  | none => rfl
  | some o =>
      have other : ¬o.Fits b := fun fits => begins ((bounded o rfl).trails fits)
      simp only [openAfter, List.foldl_cons, nextByte_of_not_fits other]
      rfl

theorem Straddles.goesOn {before after : List UInt8} (straddles : Straddles before after) :
    GoesOn (openAfter none before) after := by
  obtain ⟨c, begun, further, filled, more, ⟨rest, encoded⟩, ⟨earlier, rfl⟩, later, rfl⟩ := straddles
  obtain ⟨b, begun, rfl⟩ := List.exists_cons_of_ne_nil filled
  obtain ⟨f, further, rfl⟩ := List.exists_cons_of_ne_nil more
  have begins : ¬Trails b := not_trails_of_encoded (by simpa using encoded)
  have goesOn : GoesOn (openAfter none (b :: begun)) (f :: (further ++ rest)) :=
    goesOn_of_encoded (by simpa using encoded) filled (List.cons_ne_nil _ _)
  obtain ⟨o, _, _, opens, same, fits⟩ := goesOn
  cases same
  refine ⟨o, f, further ++ later, ?_, rfl, fits⟩
  rw [openAfter_append, openAfter_of_not_trails _ begins, opens]
  exact fun _ => bounded_openAfter

/-- With one, there is less in the whole than in the pieces. -/
theorem length_decodeFrom_append_lt {before after : List UInt8}
    (goesOn : GoesOn (openAfter none before) after) :
    (decodeFrom none (before ++ after)).length <
      (decodeFrom none before).length + (decodeFrom none after).length := by
  obtain ⟨o, b, rest, pending, rfl, fits⟩ := goesOn
  obtain ⟨out, told⟩ := decodeFrom_append none before
  have first := told []
  have bounded : o.Bounded := bounded_openAfter pending
  have fewer := length_decodeFrom_of_fits bounded fits rest
  rw [List.append_nil] at first
  rw [told, first, pending, List.length_append, List.length_append]
  have closed : (decodeFrom (some o) []).length = 1 := rfl
  omega

/-! ### Pieces -/

theorem straddles_iff_goesOn {before after : List UInt8} :
    Straddles before after ↔ GoesOn (openAfter none before) after :=
  ⟨Straddles.goesOn, GoesOn.straddles⟩

theorem decodeLossy_append {before after : List UInt8} (apart : ¬Straddles before after) :
    decodeLossy (before ++ after) = decodeLossy before ++ decodeLossy after := by
  rw [straddles_iff_goesOn] at apart
  rw [decodeLossy, decodeFrom_append_of_not_goesOn apart, List.map_append, String.ofList_append]
  rfl

theorem length_decodeLossy (bytes : List UInt8) :
    (decodeLossy bytes).length = (decodeFrom none bytes).length := by
  rw [decodeLossy, String.length_ofList, List.length_map]

theorem length_decodeLossy_append_lt {before after : List UInt8}
    (straddles : Straddles before after) :
    (decodeLossy (before ++ after)).length <
      (decodeLossy before).length + (decodeLossy after).length := by
  simp only [length_decodeLossy]
  exact length_decodeFrom_append_lt straddles.goesOn

theorem length_decodeLossy_append_le (before after : List UInt8) :
    (decodeLossy (before ++ after)).length ≤
      (decodeLossy before).length + (decodeLossy after).length := by
  by_cases straddles : Straddles before after
  · exact Nat.le_of_lt (length_decodeLossy_append_lt straddles)
  · rw [decodeLossy_append straddles, String.length_append]

/-- A cut inside a character lies in one of the pieces before it, or between them. -/
theorem Straddles.split {first before after : List UInt8}
    (straddles : Straddles (first ++ before) after) :
    Straddles before after ∨ Straddles first (before ++ after) := by
  obtain ⟨c, begun, further, filled, more, encoded, ⟨earlier, whole⟩, begins⟩ := straddles
  rcases List.append_eq_append_iff.1 whole with ⟨into, rfl, rfl⟩ | ⟨between, rfl, rfl⟩
  · by_cases empty : into = []
    · subst empty
      exact .inl ⟨c, before, further, filled, more, encoded, List.suffix_refl _, begins⟩
    · refine .inr
        ⟨c, into, before ++ further, empty, by simp [more], ?_, List.suffix_append _ _, ?_⟩
      · rw [← List.append_assoc]
        exact encoded
      · exact List.prefix_append_right_inj _ |>.2 begins
  · exact .inl ⟨c, begun, further, filled, more, encoded, List.suffix_append _ _, begins⟩

/-- Some cut between the pieces falls inside a character. -/
def CutsCharacter (pieces : List (List UInt8)) : Prop :=
  ∃ before after, pieces = before ++ after ∧ Straddles before.flatten after.flatten

theorem cutsCharacter_cons {first : List UInt8} {pieces : List (List UInt8)} :
    CutsCharacter (first :: pieces) ↔ Straddles first pieces.flatten ∨ CutsCharacter pieces := by
  constructor
  · rintro ⟨before, after, eq, straddles⟩
    cases before with
    | nil => exact absurd straddles not_straddles_nil
    | cons piece before =>
        obtain ⟨rfl, rfl⟩ := List.cons.inj eq
        rw [List.flatten_cons] at straddles
        rcases straddles.split with inside | first
        · exact .inr ⟨before, after, rfl, inside⟩
        · rw [← List.flatten_append] at first
          exact .inl first
  · rintro (straddles | ⟨before, after, rfl, straddles⟩)
    · exact ⟨[first], pieces, rfl, by simpa using straddles⟩
    · obtain ⟨c, begun, further, filled, more, encoded, ends, begins⟩ := straddles
      refine ⟨first :: before, after, rfl, c, begun, further, filled, more, encoded, ?_, begins⟩
      rw [List.flatten_cons]
      exact ends.trans (List.suffix_append _ _)

theorem length_decodeLossy_flatten_le (pieces : List (List UInt8)) :
    (decodeLossy pieces.flatten).length ≤ (String.join (pieces.map decodeLossy)).length := by
  induction pieces with
  | nil => exact Nat.le_refl _
  | cons first pieces ih =>
      have whole := length_decodeLossy_append_le first pieces.flatten
      rw [List.map_cons, String.join_cons, String.length_append, List.flatten_cons]
      omega

/-- Pieces stand for the same text as the whole exactly if no cut falls inside a character. -/
theorem decodeLossy_flatten_iff {pieces : List (List UInt8)} :
    String.join (pieces.map decodeLossy) = decodeLossy pieces.flatten ↔ ¬CutsCharacter pieces := by
  induction pieces with
  | nil =>
      refine iff_of_true rfl ?_
      rintro ⟨before, after, eq, straddles⟩
      obtain ⟨rfl, -⟩ := List.append_eq_nil_iff.1 eq.symm
      exact not_straddles_nil straddles
  | cons first pieces ih =>
      rw [List.map_cons, String.join_cons, List.flatten_cons, cutsCharacter_cons, not_or, ← ih]
      by_cases straddles : Straddles first pieces.flatten
      · refine iff_of_false ?_ fun apart => apart.1 straddles
        intro eq
        have fewer := length_decodeLossy_append_lt straddles
        have rest := length_decodeLossy_flatten_le pieces
        rw [← eq, String.length_append] at fewer
        omega
      · rw [decodeLossy_append straddles, String.append_right_inj]
        simp [straddles]

end GuestDebugger.Text
