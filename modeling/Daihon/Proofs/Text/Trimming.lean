import Daihon.Text.Blank
import Mathlib.Data.List.DropRight

/-!
# Trimmed texts

A text is its trimmed part between two rows of blanks (`exists_eq_append_trim`), and blanks put around a
text do not show once it is trimmed (`trim_append_append`).  A trimmed text is one that starts and ends
with no blank (`trim_eq_self_iff`).
-/

namespace Daihon.Text

/-- Whether a text consists of blanks. -/
def Blanks (s : List Char) : Prop := ∀ c ∈ s, isBlank c = true

instance : DecidablePred Blanks := List.decidableBAll fun c => isBlank c = true

theorem blanks_nil : Blanks [] := fun _ hc => (nomatch hc)

theorem trim_eq (s : List Char) : trim s = (s.dropWhile isBlank).rdropWhile isBlank := rfl

/-! ### Blanks around a text -/

theorem trim_append_left {a : List Char} (ha : Blanks a) (s : List Char) : trim (a ++ s) = trim s := by
  rw [trim_eq, trim_eq, List.dropWhile_append, List.dropWhile_eq_nil_iff.mpr ha]
  rfl

theorem rdropWhile_append_right {b : List Char} (hb : Blanks b) (s : List Char) :
    (s ++ b).rdropWhile isBlank = s.rdropWhile isBlank := by
  have hb' : Blanks b.reverse := fun c hc => hb c (List.mem_reverse.mp hc)
  unfold List.rdropWhile
  rw [List.reverse_append, List.dropWhile_append, List.dropWhile_eq_nil_iff.mpr hb']
  rfl

theorem trim_append_right {b : List Char} (hb : Blanks b) (s : List Char) : trim (s ++ b) = trim s := by
  rw [trim_eq, trim_eq, List.dropWhile_append]
  split
  · next h =>
    rw [List.isEmpty_iff.mp h, List.dropWhile_eq_nil_iff.mpr hb]
  · rw [rdropWhile_append_right hb]

theorem trim_append_append {a b : List Char} (ha : Blanks a) (hb : Blanks b) (s : List Char) :
    trim (a ++ s ++ b) = trim s := by
  rw [trim_append_right hb, trim_append_left ha]

/-- A text is its trimmed part between two rows of blanks. -/
theorem exists_eq_append_trim (s : List Char) :
    ∃ a b, Blanks a ∧ Blanks b ∧ s = a ++ trim s ++ b := by
  refine ⟨s.takeWhile isBlank, (s.dropWhile isBlank).rtakeWhile isBlank,
    fun c hc => List.mem_takeWhile_imp hc, fun c hc => List.mem_rtakeWhile_imp hc, ?_⟩
  rw [trim_eq, List.append_assoc, List.rdropWhile_append_rtakeWhile, List.takeWhile_append_dropWhile]

theorem mem_of_mem_trim {c : Char} {s : List Char} (h : c ∈ trim s) : c ∈ s := by
  obtain ⟨a, b, -, -, hs⟩ := exists_eq_append_trim s
  rw [hs]
  simp [h]

theorem trim_eq_nil_iff {s : List Char} : trim s = [] ↔ Blanks s := by
  constructor
  · intro h
    obtain ⟨a, b, ha, hb, hs⟩ := exists_eq_append_trim s
    rw [h, List.append_nil] at hs
    rw [hs]
    intro c hc
    exact (List.mem_append.mp hc).elim (ha c) (hb c)
  · intro h
    simpa using trim_append_left h []

/-! ### Trimmed texts -/

theorem length_trim_le (s : List Char) : (trim s).length ≤ s.length := by
  obtain ⟨a, b, -, -, hs⟩ := exists_eq_append_trim s
  conv_rhs => rw [hs]
  simp only [List.length_append]
  omega

theorem trim_eq_self_iff {s : List Char} :
    trim s = s ↔ (∀ c ∈ s.head?, isBlank c = false) ∧ ∀ c ∈ s.getLast?, isBlank c = false := by
  constructor
  · -- a blank at an end would be trimmed away, and the text would be shorter
    have hshort (t : List Char) (h : trim s = trim t) (hlen : s.length = t.length + 1) : trim s ≠ s := by
      intro hs
      have := length_trim_le t
      rw [← h, hs] at this
      omega
    refine fun h => ⟨fun c hc => ?_, fun c hc => ?_⟩
    · obtain ⟨t, rfl⟩ := List.head?_eq_some_iff.mp hc
      by_contra hb
      exact hshort t (trim_append_left (a := [c]) (by simpa [Blanks] using hb) t) rfl h
    · obtain ⟨t, rfl⟩ := List.getLast?_eq_some_iff.mp hc
      by_contra hb
      exact hshort t (trim_append_right (by simpa [Blanks] using hb) t) (by simp) h
  · rintro ⟨hhead, hlast⟩
    have hdrop : s.dropWhile isBlank = s := by
      cases s with
      | nil => rfl
      | cons c s => exact List.dropWhile_cons_of_neg (by simp [hhead c rfl])
    rw [trim_eq, hdrop]
    exact List.rdropWhile_eq_self_iff.mpr fun hs => by
      simp [hlast _ (List.getLast?_eq_getLast_of_ne_nil hs)]

/-- A trimmed text has no blanks at its end. -/
theorem eq_nil_of_trim_append_self {s b : List Char} (h : trim (s ++ b) = s ++ b) (hb : Blanks b) :
    b = [] := by
  by_contra hne
  have hlast := (trim_eq_self_iff.mp h).2 (b.getLast hne)
    (by rw [List.getLast?_append_of_ne_nil s hne, List.getLast?_eq_getLast_of_ne_nil hne]; rfl)
  have := hb _ (List.getLast_mem hne)
  simp_all

/-- A text between two trimmed ones that are not empty gives a trimmed text. -/
theorem trim_append_append_of_trimmed {a s : List Char} (ha : trim a = a) (hane : a ≠ []) (m : List Char)
    (hs : trim s = s) (hsne : s ≠ []) : trim (a ++ m ++ s) = a ++ m ++ s := by
  rw [trim_eq_self_iff] at *
  refine ⟨fun c hc => ?_, fun c hc => ?_⟩
  · rw [List.append_assoc, List.head?_append_of_ne_nil a hane] at hc
    exact ha.1 c hc
  · rw [List.getLast?_append_of_ne_nil _ hsne] at hc
    exact hs.2 c hc

/-- Something trimmed in front of a trimmed text gives a trimmed text. -/
theorem trim_append_of_trimmed {a s : List Char} (ha : trim a = a) (hne : a ≠ []) (hs : trim s = s) :
    trim (a ++ s) = a ++ s := by
  rw [trim_eq_self_iff] at *
  refine ⟨fun c hc => ha.1 c (List.head?_append_of_ne_nil a hne ▸ hc), fun c hc => ?_⟩
  rw [List.getLast?_append] at hc
  cases hlast : s.getLast? with
  | none => exact ha.2 c (by simpa [hlast] using hc)
  | some d => exact hs.2 c (by simpa [hlast] using hc)

@[simp] theorem trim_trim (s : List Char) : trim (trim s) = trim s := by
  obtain ⟨a, b, ha, hb, hs⟩ := exists_eq_append_trim s
  conv_rhs => rw [hs, trim_append_append ha hb]

end Daihon.Text
