import GuestDebugger.AddressMap.Lemmas
import GuestDebugger.Json.Basic
import Mathlib.Data.List.Induction

/-! # Fields of objects

What is found in an object that was made from its fields. -/

namespace GuestDebugger.Json

theorem lookup_insertField (name other : String) (value : Json) (fields : List (String × Json)) :
    (insertField name value fields).lookup other =
      if other = name then some value else fields.lookup other := by
  induction fields with
  | nil => exact AddressMap.lookup_cons_eq_ite _ _ _
  | cons field rest ih =>
      rw [insertField]
      split
      · exact AddressMap.lookup_cons_eq_ite _ _ _
      · split
        · rename_i same
          simp only [AddressMap.lookup_cons_eq_ite, same]
          split <;> rfl
        · rename_i different
          simp only [AddressMap.lookup_cons_eq_ite, ih]
          by_cases here : other = field.1
          · rw [if_pos here, if_pos here, if_neg fun same => different (same.symm.trans here)]
          · rw [if_neg here, if_neg here]

/-- Of fields with one name the last is found. -/
theorem field?_ofFields (fields : List (String × Json)) (name : String) :
    (ofFields fields).field? name = fields.reverse.lookup name := by
  have sorted : (sortFields fields).lookup name = fields.reverse.lookup name := by
    induction fields using List.reverseRecOn with
    | nil => rfl
    | append_singleton fields field ih =>
        have last : sortFields (fields ++ [field]) =
            insertField field.1 field.2 (sortFields fields) := List.foldl_append
        rw [last, lookup_insertField, ih, List.reverse_append]
        exact (AddressMap.lookup_cons_eq_ite _ _ _).symm
  exact sorted

end GuestDebugger.Json
