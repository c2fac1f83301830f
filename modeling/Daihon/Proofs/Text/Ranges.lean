import Daihon.Proofs.Text.Lines

/-!
# Ranges of lines

The lines of a text are numbered from 1, and a range takes the lines whose numbers lie between its bounds,
the bounds included (`between`).  A slice from the bound before the first line takes exactly these
(`slice_eq_between`).  Of two ranges that meet, the lines are those of the whole range
(`between_append_between`).  Lines put together with line feeds are read back, up to an empty last line
(`lines_joinLines`).
-/

namespace Daihon.Text

/-- Whether a number lies in a range; a range without `stop` is open. -/
def InRange (start : Int) (stop : Option Int) (n : Int) : Prop :=
  start ≤ n ∧ ∀ m ∈ stop, n ≤ m

instance (start : Int) (stop : Option Int) : DecidablePred (InRange start stop) := fun _ =>
  inferInstanceAs (Decidable (_ ∧ ∀ _ ∈ stop, _))

/-- Whether there is a range of lines with these bounds: it starts at a line, and does not stop before it
starts. -/
def IsRange (start : Int) (stop : Option Int) : Prop :=
  1 ≤ start ∧ ∀ m ∈ stop, start ≤ m

instance (start : Int) (stop : Option Int) : Decidable (IsRange start stop) :=
  inferInstanceAs (Decidable (_ ∧ ∀ _ ∈ stop, _))

section IsRange

variable {start : Int} {stop : Option Int} (h : IsRange start stop) {k : Int} (hk : start ≤ k)
include h hk

theorem IsRange.upTo : IsRange start (some k) :=
  ⟨h.1, fun _ hm => Option.some.inj hm ▸ hk⟩

theorem IsRange.behind (hstop : ∀ m ∈ stop, k < m) : IsRange (k + 1) stop :=
  ⟨Int.le_trans h.1 (Int.le_trans hk (by omega)), hstop⟩

end IsRange

section Between

variable {α : Type}

/-- The elements whose numbers lie in a range, counted from 1. -/
def between (start : Int) (stop : Option Int) (xs : List α) : List α :=
  ((xs.zipIdx 1).filter fun (_, n) => InRange start stop n).map Prod.fst

/-- The elements up to the end of a range. -/
def upTo (stop : Option Int) (xs : List α) : List α :=
  stop.elim xs fun m => xs.take m.toNat

theorem length_between (start : Int) (stop : Option Int) (xs : List α) :
    (between start stop xs).length =
      (List.range' 1 xs.length).countP fun n : Nat => InRange start stop n := by
  rw [between, List.length_map, ← List.countP_eq_length_filter, ← List.zipIdx_map_snd, List.countP_map]
  rfl

theorem between_sublist (start : Int) (stop : Option Int) (xs : List α) :
    (between start stop xs).Sublist xs := by
  have h := (List.filter_sublist (l := xs.zipIdx 1) (p := fun (_, n) => InRange start stop n)).map Prod.fst
  rwa [List.zipIdx_map_fst] at h

/-! ### Ranges as parts of a row -/

theorem filter_le_zipIdx (xs : List α) (m k : Nat) :
    (xs.zipIdx (m + 1)).filter (fun (_, n) => n ≤ m + k) = (xs.take k).zipIdx (m + 1) := by
  induction xs generalizing m k with
  | nil => simp
  | cons x xs ih =>
    cases k with
    | zero =>
      refine List.filter_eq_nil_iff.mpr fun p hp => ?_
      have hlow : m + 1 ≤ p.2 := (List.mem_zipIdx (x := p.1) (i := p.2) hp).1
      rw [decide_eq_true_eq]
      omega
    | succ k =>
      have htail := ih (m + 1) k
      rw [Nat.add_assoc m 1 k, Nat.add_comm 1 k] at htail
      rw [List.take_succ_cons, List.zipIdx_cons, List.zipIdx_cons, List.filter_cons_of_pos (by simp), htail]

theorem filter_lt_zipIdx (xs : List α) (m k : Nat) :
    ((xs.zipIdx (m + 1)).filter fun (_, n) => m + k < n).map Prod.fst = xs.drop k := by
  induction xs generalizing m k with
  | nil => simp
  | cons x xs ih =>
    cases k with
    | zero =>
      rw [List.filter_eq_self.mpr, List.zipIdx_map_fst, List.drop_zero]
      intro p hp
      have hlow : m + 1 ≤ p.2 := (List.mem_zipIdx (x := p.1) (i := p.2) hp).1
      rw [decide_eq_true_eq]
      omega
    | succ k =>
      have htail := ih (m + 1) k
      rw [Nat.add_assoc m 1 k, Nat.add_comm 1 k] at htail
      rw [List.drop_succ_cons, List.zipIdx_cons, List.filter_cons_of_neg (by simp), htail]

section IsRange

variable {start : Int} {stop : Option Int} (h : IsRange start stop) (xs : List α)
include h

/-- A range takes the elements up to its end and leaves out those before its start. -/
theorem between_eq_drop_upTo : between start stop xs = (upTo stop xs).drop (start - 1).toNat := by
  have hstart := h.1
  have hlow (n : Nat) : start ≤ n ↔ 0 + (start - 1).toNat < n := by omega
  rw [← filter_lt_zipIdx _ 0]
  cases stop with
  | none => simp [between, upTo, InRange, hlow]
  | some m =>
    have hstop := h.2 m rfl
    have hhigh (n : Nat) : (n : Int) ≤ m ↔ n ≤ 0 + m.toNat := by omega
    rw [upTo, Option.elim_some, ← filter_le_zipIdx, List.filter_filter]
    simp [between, InRange, hlow, hhigh]

theorem between_map {β : Type} (f : α → β) :
    between start stop (xs.map f) = (between start stop xs).map f := by
  rw [between_eq_drop_upTo h, between_eq_drop_upTo h, List.map_drop]
  cases stop with
  | none => rfl
  | some m => simp only [upTo, Option.elim_some, List.map_take]

/-- The slice that starts at the bound before the first line of a range is the range. -/
theorem slice_eq_between : slice xs (start - 1) stop = between start stop xs := by
  have hstart := h.1
  have hfirst : clampPosition xs.length (start - 1) = min (start - 1).toNat xs.length := by
    rw [clampPosition, if_neg (by omega)]
  have hupTo : xs.take ((stop.map (clampPosition xs.length)).getD xs.length) = upTo stop xs := by
    cases stop with
    | none => exact List.take_length
    | some m =>
      have hstop := h.2 m rfl
      have hlast : clampPosition xs.length m = min m.toNat xs.length := by
        rw [clampPosition, if_neg (by omega)]
      rw [Option.map_some, Option.getD_some, hlast, ← List.take_eq_take_min]
      rfl
  have hlength : (upTo stop xs).length ≤ xs.length := by
    rw [← hupTo]
    exact List.length_take_le' ..
  rw [between_eq_drop_upTo h, slice, hfirst, ← List.drop_take, hupTo, List.drop_eq_drop_iff]
  omega

/-- **Ranges that meet** give together the lines of the whole range. -/
theorem between_append_between {k : Int} (hk : start ≤ k) (hstop : ∀ m ∈ stop, k < m) :
    between start (some k) xs ++ between (k + 1) stop xs = between start stop xs := by
  have hstart := h.1
  -- the end of the first range is no later than that of the whole range
  have hupTo : upTo (some k) xs = (upTo stop xs).take k.toNat := by
    cases stop with
    | none => rfl
    | some m =>
      have hlast := hstop m rfl
      rw [upTo, upTo, Option.elim_some, Option.elim_some, List.take_take, Nat.min_eq_left (by omega)]
  rw [between_eq_drop_upTo (h.upTo hk), between_eq_drop_upTo (h.behind hk hstop),
    between_eq_drop_upTo h, hupTo, Int.add_sub_cancel]
  obtain ⟨d, hd⟩ := Nat.exists_eq_add_of_le (show (start - 1).toNat ≤ k.toNat by omega)
  rw [hd, List.drop_take, ← List.drop_drop, Nat.add_sub_cancel_left, List.take_append_drop]

end IsRange

end Between

/-! ### Lines put together -/

theorem pieces_joinLines {ls : List (List Char)} (h : ∀ l ∈ ls, '\n' ∉ l) (hne : ls ≠ []) :
    pieces (joinLines ls) = ls := by
  induction ls with
  | nil => exact absurd rfl hne
  | cons l ls ih =>
    have hl := h l List.mem_cons_self
    cases ls with
    | nil => exact pieces_of_lineFeed_notMem hl
    | cons l' ls =>
      have htail := ih (fun l hmem => h l (List.mem_cons_of_mem _ hmem)) (List.cons_ne_nil _ _)
      rw [joinLines, pieces_append_lineFeed, pieces_of_lineFeed_notMem hl, htail]
      · rfl
      · exact fun h => nomatch h

/-- **Lines put together with line feeds** are read back, but for an empty last line and carriage returns
at the ends of lines. -/
theorem lines_joinLines {ls : List (List Char)} (h : ∀ l ∈ ls, '\n' ∉ l) :
    lines (joinLines ls) = (dropEmptyLast ls).map dropReturn := by
  by_cases hne : ls = []
  · subst hne
    rfl
  · rw [lines, pieces_joinLines h hne]

end Daihon.Text
