import GuestDebugger.Json.Lemmas
import GuestDebugger.Proofs.Address.Grammar
import GuestDebugger.Proofs.Adapter.Replacing

/-! # Printed references

A reference is an address before it is a label. So an address that was printed for the client is
found again when the client sends it back, whatever names the labels give. -/

namespace GuestDebugger

namespace Json

/-- The text of a field, if there is one. -/
def text? (value : Json) (field : String) : Option String := (value.field? field).bind string?

/-- The texts of a field in the items of a list that a body has. -/
def texts (body : Json) (list field : String) : List String :=
  (((body.field? list).bind array?).getD []).filterMap (·.text? field)

theorem text?_ofFields {fields : List (String × Json)} {field text : String}
    (found : fields.reverse.lookup field = some (.string text)) :
    (ofFields fields).text? field = some text := by
  rw [text?, field?_ofFields, found]
  rfl

theorem texts_ofFields {fields : List (String × Json)} {list field : String} {items : List Json}
    (found : fields.reverse.lookup list = some (.array items)) :
    (ofFields fields).texts list field = items.filterMap (·.text? field) := by
  rw [texts, field?_ofFields, found]
  rfl

end Json

namespace Adapter.Request

theorem resolve?_text (labels : Labels) (a : Address) : resolve? labels a.text = some a := by
  rw [resolve?, Address.parse?_text, Option.some_or]

/-- A response prints addresses in a field of the items of a list, and each of them resolves to
itself whatever labels there are. -/
def Prints (r : Request) (list field : String) (addresses : List Address)
    (actions : List Action) : Prop :=
  ∃ body, actions = [r.respond (some body)] ∧
    body.texts list field = addresses.map Address.text ∧
    ∀ labels, (body.texts list field).map (resolve? labels) = addresses.map some

/-- It is enough that the addresses are printed. -/
theorem prints_of_texts {r : Request} {list field : String} {addresses : List Address}
    {body : Json} (texts : body.texts list field = addresses.map Address.text) :
    Prints r list field addresses [r.respond (some body)] := by
  refine ⟨body, rfl, texts, ?_⟩
  intro labels
  rw [texts, List.map_map]
  exact List.map_congr_left fun a _ => resolve?_text labels a

variable {r : Request} {s : Server} {p : Program}

theorem prints_stackTrace (launched : s.program = some p) (files : Files) (clock : Clock)
    (named : r.command = "stackTrace") :
    Prints r "stackFrames" "instructionPointerReference" [p.session.pc]
      (r.accept files clock s).2 := by
  simp only [accept, begun, begin, named, stackTrace, run_program_bind, launched]
  refine prints_of_texts ?_
  rw [Json.texts_ofFields rfl]
  exact List.filterMap_cons_some (Json.text?_ofFields rfl)

/-- An address is told only for what resolves. -/
theorem text?_result (b : BreakpointRequest) (labels : Labels) :
    (b.result labels).text? "instructionReference" =
      (b.address? labels).map Address.text := by
  rw [BreakpointRequest.result]
  cases b.address? labels with
  | some a => exact Json.text?_ofFields rfl
  | none =>
      dsimp only
      rw [Json.text?, Json.field?_ofFields]
      rfl

theorem prints_setInstructionBreakpoints (launched : s.program = some p) (files : Files)
    (clock : Clock) (named : r.command = "setInstructionBreakpoints") :
    Prints r "breakpoints" "instructionReference" (r.addresses p.session.labels)
      (r.accept files clock s).2 := by
  rw [accept_setInstructionBreakpoints named launched]
  refine prints_of_texts ?_
  rw [replacedBody, Json.texts_ofFields rfl, results, addresses, List.filterMap_map,
    List.map_filterMap]
  refine List.filterMap_congr fun element _ => ?_
  exact text?_result _ _

theorem text?_instructionJson (labels : Labels) (d : Disassembly) :
    (instructionJson labels d).text? "address" = some d.address.text := by
  rw [instructionJson]
  cases labels.nameAt? d.address <;> exact Json.text?_ofFields rfl

theorem prints_disassemble (launched : s.program = some p) (files : Files) (clock : Clock)
    (named : r.command = "disassemble") {start : Address}
    (found : resolve? p.session.labels ((r.text? "memoryReference").getD "") = some start) :
    ∃ count skipped, Prints r "instructions" "address"
      (((p.session.engine.disassemble start count).drop skipped).map (·.address))
      (r.accept files clock s).2 := by
  obtain ⟨count, skipped, accepted⟩ : ∃ count skipped, r.accept files clock s =
      (s, [r.respond (some (.ofFields [("instructions", .array
        (((p.session.engine.disassemble start count).drop skipped).map
          (instructionJson p.session.labels)))]))]) := by
    simp only [accept, begun, begin, named, disassemble, run_program_bind, launched,
      run_check_bind, resolve, found]
    exact ⟨_, _, rfl⟩
  refine ⟨count, skipped, ?_⟩
  rw [accepted]
  refine prints_of_texts ?_
  have each : (·.text? "address") ∘ instructionJson p.session.labels =
      fun d => some d.address.text := funext (text?_instructionJson _)
  rw [Json.texts_ofFields rfl, List.filterMap_map, each, List.filterMap_eq_map', List.map_map]
  rfl

/-- A text is read as an address exactly if it is written as one: after one mark or none and a plus
sign or none there are digits of base sixteen, and their value is the address. So an address is read
back from its digits and from its full form, and wherever the server prints addresses, each of them
resolves to itself, whatever names there are. -/
theorem addresses_are_read_back :
    (∀ text a, Address.parse? text = some a ↔ Address.Written text.toList a.toNat) ∧
      (∀ a : Address,
        Address.parse? (Text.hex a.toNat) = some a ∧ Address.parse? a.text = some a) ∧
      ∀ (files : Files) (clock : Clock) (r : Request) (s : Server) (p : Program),
        s.program = some p →
          (r.command = "stackTrace" →
            Prints r "stackFrames" "instructionPointerReference" [p.session.pc]
              (r.accept files clock s).2) ∧
          (r.command = "setInstructionBreakpoints" →
            Prints r "breakpoints" "instructionReference" (r.addresses p.session.labels)
              (r.accept files clock s).2) ∧
          (r.command = "disassemble" →
            ∀ start, resolve? p.session.labels ((r.text? "memoryReference").getD "") = some start →
              ∃ count skipped, Prints r "instructions" "address"
                (((p.session.engine.disassemble start count).drop skipped).map (·.address))
                (r.accept files clock s).2) := by
  refine ⟨fun text a => Address.parse?_eq_some_iff,
    fun a => ⟨Address.parse?_hex a, Address.parse?_text a⟩, ?_⟩
  intro files clock r s p launched
  exact ⟨prints_stackTrace launched files clock,
    prints_setInstructionBreakpoints launched files clock,
    fun named start found => prints_disassemble launched files clock named found⟩

/-- Two labels look like addresses of the program. They are not found by those names. -/
theorem addresses_are_read_back_beside_labels :
    let labels : Labels := (Labels.empty.insert "0x00000010" 0x12).insert "12" 0x10
    let listing := Listing.ofOps [(0x10, .nop), (0x12, .jump 0x10)]
    let session := { Session.create (Machine.create listing 16) {} {} with labels }
    let p : Program := { session, stopOnEntry := true }
    let s : Server := { program := some p }
    let frames : Request := ⟨1, "stackTrace", .null⟩
    let lines : Request := ⟨2, "disassemble",
      .object [("instructionCount", .ofNat 2), ("memoryReference", .string "0X+010")]⟩
    let files : Files := fun _ => .error .notFound
    Address.Written "0X+010".toList 0x10 ∧ ¬Address.Written "0x0x10".toList 0x10 ∧
      (s.program = some p ∧ frames.command = "stackTrace" ∧ lines.command = "disassemble" ∧
        resolve? labels ((lines.text? "memoryReference").getD "") = some 0x10) ∧
      Prints frames "stackFrames" "instructionPointerReference" [0x10]
        (frames.accept files {} s).2 ∧
      ∃ count skipped, Prints lines "instructions" "address"
        (((p.session.engine.disassemble 0x10 count).drop skipped).map (·.address))
        (lines.accept files {} s).2 := by
  intro labels listing session p s frames lines files
  have written := addresses_are_read_back.1
  have printed := addresses_are_read_back.2.2
  have found : resolve? labels ((lines.text? "memoryReference").getD "") = some 0x10 := by decide
  refine ⟨(written _ 0x10).1 (by decide), ?_, ⟨rfl, rfl, rfl, found⟩, ?_, ?_⟩
  · exact fun twice => absurd ((written _ 0x10).2 twice) (by decide)
  · exact (printed files {} frames s p rfl).1 rfl
  · exact (printed files {} lines s p rfl).2.2 rfl 0x10 found

end Adapter.Request

end GuestDebugger
