import Daihon.Json.Reader
import Daihon.Proofs.Value.Tables

/-!
# Tables in JSON

What is read from a JSON text has entries only if it is a table, and that table has every key once
(`isKeyed_of_parse`): a key that is written again takes the place it had.
-/

namespace Daihon

/-- Whether the entries of a value, if it has any, stand under distinct texts. -/
def Value.IsKeyed : Value → Prop
  | .table t => (Table.keys t).Nodup
  | .mapping _ => False
  | _ => True

theorem Value.isKeyed_of_pairs?_eq_none {v : Value} (h : v.pairs? = none) : v.IsKeyed := by
  cases v with
  | table t => cases h
  | mapping es => cases h
  | _ => trivial

theorem Value.pairs?_ofCharacters (cs : List (Option Char)) : (ofCharacters cs).pairs? = none := by
  unfold ofCharacters
  split <;> rfl

namespace Json

variable {limit : Option Nat} {fuel : Nat} {s r : List Char} {v : Value}

theorem pairs?_of_integer {negative : Bool} {digits : List Char}
    (h : integer limit negative digits = .ok v) : v.pairs? = none := by
  unfold integer at h
  split at h
  · cases h
  · obtain rfl := Except.ok.inj h
    rfl

theorem pairs?_of_unsigned {negative : Bool} (h : unsigned limit negative s = .ok (v, r)) :
    v.pairs? = none := by
  unfold unsigned at h
  split at h
  next whole rest _ =>
    split at h
    · cases h
    · dsimp only at h
      split at h
      · cases h
        rfl
      · split at h
        · -- Without fraction and exponent it is an integer.
          cases hwhole : integer limit negative whole with
          | error f =>
            rw [hwhole] at h
            cases h
          | ok n =>
            rw [hwhole] at h
            cases h
            exact pairs?_of_integer hwhole
        · cases h
          rfl

theorem pairs?_of_number (h : number limit s = .ok (v, r)) : v.pairs? = none := by
  unfold number at h
  split at h
  · cases h; rfl
  · cases h; rfl
  · cases h; rfl
  · exact pairs?_of_unsigned h
  · exact pairs?_of_unsigned h

theorem pairs?_of_quotedText? (h : quotedText? s = some (v, r)) : v.pairs? = none := by
  obtain ⟨ps, -, hv⟩ := Option.map_eq_some_iff.mp h
  cases hv
  exact Value.pairs?_ofCharacters _

theorem pairs?_of_items {done : List Value} (h : items limit fuel done s = .ok (v, r)) :
    v.pairs? = none := by
  induction fuel generalizing done s with
  | zero => cases h
  | succ fuel ih =>
    unfold items at h
    split at h
    · cases h
    · split at h
      · exact ih h
      · cases h
        rfl
      · cases h

/-- Behind entries under distinct keys comes a table with distinct keys. -/
theorem isKeyed_of_entries {done : Table Value} (hdone : (Table.keys done).Nodup)
    (h : entries limit fuel done s = .ok (v, r)) : v.IsKeyed := by
  induction fuel generalizing done s with
  | zero => cases h
  | succ fuel ih =>
    unfold entries at h
    split at h
    · split at h
      · cases h
      · next k _ _ =>
        split at h
        · split at h
          · cases h
          · next w _ _ =>
            have hput := Table.nodup_keys_put hdone k.shown w
            split at h
            · exact ih hput h
            · cases h
              exact hput
            · cases h
        · cases h
    · cases h

theorem isKeyed_of_value (h : value limit fuel s = .ok (v, r)) : v.IsKeyed := by
  cases fuel with
  | zero => cases h
  | succ fuel =>
    unfold value at h
    split at h
    · split at h
      · next hquoted =>
        cases h
        exact Value.isKeyed_of_pairs?_eq_none (pairs?_of_quotedText? hquoted)
      · cases h
    · split at h
      · cases h
        exact List.nodup_nil
      · exact isKeyed_of_entries (by simp) h
    · split at h
      · cases h
        trivial
      · exact Value.isKeyed_of_pairs?_eq_none (pairs?_of_items h)
    · cases h; trivial
    · cases h; trivial
    · cases h; trivial
    · exact Value.isKeyed_of_pairs?_eq_none (pairs?_of_number h)

/-- The entries of what is read stand under distinct texts. -/
theorem isKeyed_of_parse (h : parse limit s = .ok v) : v.IsKeyed := by
  unfold parse at h
  split at h
  · next w rest hvalue =>
    split at h
    · cases h
      exact isKeyed_of_value hvalue
    · cases h
  · cases h

end Json

end Daihon
