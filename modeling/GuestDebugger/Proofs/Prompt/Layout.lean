import GuestDebugger.Prompt.Loop

/-! # How output is laid out

Guest output is shown in pieces, each of which ends its last line. So the text that is shown has
line feeds that the guest did not write, wherever a piece ends inside a line. The output together
with these places is all there is to the text: from output that is known they can be read off. -/

namespace GuestDebugger.Prompt

/-- A piece of output as it is shown. Of an empty one nothing is. -/
def shownPiece (piece : String) : String := if piece.isEmpty then "" else withLineEnd piece

/-- Pieces of output as they are shown, one after the other. -/
def shown (pieces : List String) : String := String.join (pieces.map shownPiece)

theorem shown_append (pieces rest : List String) :
    shown (pieces ++ rest) = shown pieces ++ shown rest := by
  simp only [shown, List.map_append, String.join_append]

theorem shown_singleton (piece : String) : shown [piece] = shownPiece piece := by
  simp only [shown, List.map_cons, List.map_nil, String.join_cons, String.join_nil,
    String.append_empty]

/-- A character of the output as it is shown. -/
structure Mark where
  /-- The character. -/
  char : Char
  /-- Whether a line feed that is not part of the output is shown behind it. -/
  broken : Bool
deriving DecidableEq, Repr

/-- The characters that are shown for one of the output. -/
def Mark.spelled (k : Mark) : List Char := if k.broken then [k.char, '\n'] else [k.char]

/-- The characters of a piece of output. A line feed is added behind the last, unless it is one. -/
def marked : List Char → List Mark
  | [] => []
  | [c] => [⟨c, c ≠ '\n'⟩]
  | c :: d :: rest => ⟨c, false⟩ :: marked (d :: rest)

/-- The characters of all the output, each with whether a piece ends its line there. -/
def marks (pieces : List String) : List Mark := pieces.flatMap fun piece => marked piece.toList

/-! ### What the marks tell -/

theorem map_char_marked (cs : List Char) : (marked cs).map Mark.char = cs := by
  induction cs using marked.induct with
  | case1 => rfl
  | case2 c => rfl
  | case3 c d rest ih => rw [marked, List.map_cons, ih]

/-- Without the added line feeds the output remains. -/
theorem map_char_marks (pieces : List String) :
    (marks pieces).map Mark.char = (String.join pieces).toList := by
  induction pieces with
  | nil => rfl
  | cons piece rest ih =>
      have first := map_char_marked piece.toList
      rw [marks] at ih ⊢
      rw [List.flatMap_cons, List.map_append, first, ih, String.join_cons, String.toList_append]

theorem flatMap_spelled_marked (cs : List Char) :
    (marked cs).flatMap Mark.spelled =
      if cs = [] ∨ cs.getLast? = some '\n' then cs else cs ++ ['\n'] := by
  induction cs using marked.induct with
  | case1 => rfl
  | case2 c => by_cases feed : c = '\n' <;> simp [marked, Mark.spelled, feed]
  | case3 c d rest ih =>
      rw [marked, List.flatMap_cons, ih, List.getLast?_cons_cons]
      by_cases feed : (d :: rest).getLast? = some '\n' <;> simp [Mark.spelled, feed]

theorem toList_shownPiece (piece : String) :
    (shownPiece piece).toList = (marked piece.toList).flatMap Mark.spelled := by
  rw [flatMap_spelled_marked]
  by_cases empty : piece = ""
  · subst empty
    rfl
  · have notNil : piece.toList ≠ [] := by simpa using empty
    by_cases feed : piece.toList.getLast? = some '\n' <;>
      simp [shownPiece, withLineEnd, empty, feed]

/-- The text that is shown, spelled by its marks. -/
theorem toList_shown (pieces : List String) :
    (shown pieces).toList = (marks pieces).flatMap Mark.spelled := by
  induction pieces with
  | nil => rfl
  | cons piece rest ih =>
      have first := toList_shownPiece piece
      rw [shown] at ih ⊢
      rw [marks] at ih ⊢
      rw [List.map_cons, String.join_cons, String.toList_append, first, ih, List.flatMap_cons,
        List.flatMap_append]

/-! ### Reading marks off a text -/

/-- Marks that add line feeds only where there is none. -/
def Sparing (ks : List Mark) : Prop := ∀ k ∈ ks, k.broken = true → k.char ≠ '\n'

theorem Sparing.tail {k : Mark} {ks : List Mark} (sparing : Sparing (k :: ks)) : Sparing ks :=
  fun j mem => sparing j (List.mem_cons_of_mem k mem)

theorem sparing_marked (cs : List Char) : Sparing (marked cs) := by
  induction cs using marked.induct with
  | case1 =>
      intro k mem
      cases mem
  | case2 c =>
      intro k mem broken
      rw [marked, List.mem_singleton] at mem
      subst mem
      simpa using broken
  | case3 c d rest ih =>
      intro k mem broken
      rw [marked, List.mem_cons] at mem
      rcases mem with rfl | mem
      · cases broken
      · exact ih k mem broken

theorem sparing_marks (pieces : List String) : Sparing (marks pieces) := by
  intro k mem
  obtain ⟨piece, -, mem⟩ := List.mem_flatMap.1 mem
  exact sparing_marked piece.toList k mem

theorem Sparing.spelled_head {k : Mark} {ks : List Mark} (sparing : Sparing (k :: ks))
    (feed : k.char = '\n') : k.spelled = ['\n'] := by
  have whole : k.broken = false := by
    cases broken : k.broken with
    | false => rfl
    | true => exact absurd feed (sparing k List.mem_cons_self broken)
  simp only [Mark.spelled, whole, feed, Bool.false_eq_true, if_false]

/-- A line feed too many could only be taken for the next one of the output, that one for the next,
and so on. So it shows in the end. -/
theorem flatMap_spelled_ne_cons {ks js : List Mark} (sparing : Sparing ks) (sparing' : Sparing js)
    (same : ks.map Mark.char = js.map Mark.char) :
    js.flatMap Mark.spelled ≠ '\n' :: ks.flatMap Mark.spelled := by
  induction js generalizing ks with
  | nil => nofun
  | cons j js ih =>
      cases ks with
      | nil => cases same
      | cons k ks =>
          obtain ⟨char, rest⟩ := List.cons.inj same
          intro eq
          have feed : j.char = '\n' := by
            rw [List.flatMap_cons, Mark.spelled] at eq
            split at eq <;> exact (List.cons.inj eq).1
          rw [List.flatMap_cons, List.flatMap_cons, sparing'.spelled_head feed,
            sparing.spelled_head (char.trans feed)] at eq
          exact ih sparing.tail sparing'.tail rest (List.cons.inj eq).2

/-- Texts that show the same output are the same only if they add line feeds at the same places. -/
theorem eq_of_flatMap_spelled_eq {ks js : List Mark} (sparing : Sparing ks) (sparing' : Sparing js)
    (same : ks.map Mark.char = js.map Mark.char)
    (eq : ks.flatMap Mark.spelled = js.flatMap Mark.spelled) : ks = js := by
  induction ks generalizing js with
  | nil =>
      cases js with
      | nil => rfl
      | cons => cases same
  | cons k ks ih =>
      cases js with
      | nil => cases same
      | cons j js =>
          obtain ⟨c, b⟩ := k
          obtain ⟨c', b'⟩ := j
          obtain ⟨char, rest⟩ := List.cons.inj same
          obtain rfl : c = c' := char
          have distinct := flatMap_spelled_ne_cons sparing.tail sparing'.tail rest
          have distinct' := flatMap_spelled_ne_cons sparing'.tail sparing.tail rest.symm
          rw [List.flatMap_cons, List.flatMap_cons] at eq
          cases b with
          | false =>
              cases b' with
              | false =>
                  obtain rfl := ih sparing.tail sparing'.tail rest (List.cons.inj eq).2
                  rfl
              | true => exact absurd (List.cons.inj eq).2 distinct'
          | true =>
              cases b' with
              | false => exact absurd (List.cons.inj eq).2.symm distinct
              | true =>
                  obtain rfl := ih sparing.tail sparing'.tail rest
                    (List.cons.inj (List.cons.inj eq).2).2
                  rfl

/-- Output that is the same in all is shown the same exactly if its pieces end inside lines at the
same places. -/
theorem shown_eq_iff {pieces pieces' : List String}
    (same : String.join pieces = String.join pieces') :
    shown pieces = shown pieces' ↔ marks pieces = marks pieces' := by
  have chars : (marks pieces).map Mark.char = (marks pieces').map Mark.char := by
    rw [map_char_marks, map_char_marks, same]
  rw [← String.toList_inj, toList_shown, toList_shown]
  constructor
  · exact eq_of_flatMap_spelled_eq (sparing_marks pieces) (sparing_marks pieces') chars
  · intro eq
    rw [eq]

end GuestDebugger.Prompt
