import Daihon.Proofs.Text.Trimming
import Daihon.Script.Choice

/-!
# Dividing an item

An item is divided by the pattern `text→target［route］`, in which target and route may be left out and blanks
may stand in front of the route.  `Parts.Fits` says which divisions the pattern allows.  The division that
counts is one with the shortest text (`Parts.ofItem_fits`, `Parts.ofItem_shortest`), and all of these give
the same choice (`ofItem_of_isShortest`).
-/

namespace Daihon.Script

/-- Whether a text holds no bracket of routes. -/
def NoBrackets (s : List Char) : Prop := ∀ c ∈ s, isRouteBracket c = false

instance : DecidablePred NoBrackets := List.decidableBAll fun c => isRouteBracket c = false

/-- A target as it is written. -/
def targetChars : Option (List Char) → List Char
  | none => []
  | some target => arrow :: target

/-- A route as it is written. -/
def routeChars : Option (List Char) → List Char
  | none => []
  | some route => openRoute :: route ++ [closeRoute]

/-- Whether `s` is what the tail looks like: its target, blanks, and its route. -/
structure Tail.Fits (tail : Tail) (s : List Char) : Prop where
  target : ∀ target ∈ tail.target, NoBrackets target
  route : ∀ route ∈ tail.route, route ≠ [] ∧ NoBrackets route
  chars : ∃ gap, Text.Blanks gap ∧ s = targetChars tail.target ++ gap ++ routeChars tail.route

/-- Whether an item is divided into the parts by the pattern: a text that is not empty, and a tail. -/
def Parts.Fits (p : Parts) (item : List Char) : Prop :=
  p.text ≠ [] ∧ ∃ rest, item = p.text ++ rest ∧ p.tail.Fits rest

/-! ### Tails -/

theorem isRouteBracket_of_isBlank {c : Char} (h : Text.isBlank c = true) : isRouteBracket c = false := by
  unfold isRouteBracket
  rw [Bool.or_eq_false_iff, decide_eq_false_iff_not, decide_eq_false_iff_not]
  constructor
  · rintro rfl
    exact absurd h (by decide)
  · rintro rfl
    exact absurd h (by decide)

theorem route?_eq_some_iff {s route : List Char} :
    route? s = some route ↔ route ≠ [] ∧ NoBrackets route ∧ s = routeChars (some route) := by
  cases s with
  | nil => simp [route?, routeChars]
  | cons c s =>
    simp only [route?, routeChars]
    constructor
    · intro h
      split at h
      · next hends =>
        simp only [Bool.and_eq_true, decide_eq_true_eq] at hends
        obtain ⟨rfl, hlast⟩ := hends
        obtain ⟨t, rfl⟩ := List.getLast?_eq_some_iff.mp hlast
        simp only [List.dropLast_concat] at h
        split at h
        · cases h
        · next hroute =>
          obtain rfl := Option.some.inj h
          simp only [Bool.or_eq_true, List.isEmpty_iff, List.any_eq_true, not_or, not_exists,
            not_and, Bool.not_eq_true] at hroute
          exact ⟨hroute.1, hroute.2, rfl⟩
      · cases h
    · rintro ⟨hne, hfree, hs⟩
      obtain ⟨rfl, rfl⟩ := List.cons.inj hs
      have hany : route.any isRouteBracket = false := by
        rw [List.any_eq_false]
        exact fun c hc => by simp [hfree c hc]
      simp [hne, hany]

theorem NoBrackets.append {s t : List Char} (hs : NoBrackets s) (ht : NoBrackets t) : NoBrackets (s ++ t) :=
  fun c hc => (List.mem_append.mp hc).elim (hs c) (ht c)

theorem NoBrackets.of_blanks {gap : List Char} (h : Text.Blanks gap) : NoBrackets gap :=
  fun c hc => isRouteBracket_of_isBlank (h c hc)

/-- A text without brackets ends where a route, or nothing, stands behind it. -/
theorem span_routeChars {s : List Char} (hs : NoBrackets s) (route : Option (List Char)) :
    (s ++ routeChars route).takeWhile (fun c => !isRouteBracket c) = s ∧
      (s ++ routeChars route).dropWhile (fun c => !isRouteBracket c) = routeChars route := by
  have hpos : ∀ c ∈ s, (!isRouteBracket c) = true := fun c hc => by simp [hs c hc]
  have hbracket : isRouteBracket openRoute = true := by decide
  rw [List.takeWhile_append_of_pos hpos, List.dropWhile_append_of_pos hpos]
  cases route <;> simp [routeChars, hbracket]

theorem target?_sound {s : List Char} {tail : Tail} (h : target? s = some tail) : tail.Fits (arrow :: s) := by
  have hs := List.takeWhile_append_dropWhile (p := fun c => !isRouteBracket c) (l := s)
  have hfree : NoBrackets (s.takeWhile fun c => !isRouteBracket c) := fun c hc => by
    simpa using List.mem_takeWhile_imp hc
  unfold target? at h
  split at h
  · next hdrop =>
    obtain rfl := Option.some.inj h
    rw [hdrop, List.append_nil] at hs
    refine ⟨fun t ht => Option.some.inj ht ▸ hfree, fun r hr => (nomatch hr), [], Text.blanks_nil, ?_⟩
    simp [targetChars, routeChars, hs]
  · next hdrop =>
    obtain ⟨route, hroute, rfl⟩ := Option.map_eq_some_iff.mp h
    obtain ⟨hne, hrfree, hchars⟩ := route?_eq_some_iff.mp hroute
    refine ⟨fun t ht => Option.some.inj ht ▸ hfree, fun r hr => Option.some.inj hr ▸ ⟨hne, hrfree⟩,
      [], Text.blanks_nil, ?_⟩
    rw [targetChars, ← hchars, List.append_nil, List.cons_append, hs]

theorem targetless?_sound {s : List Char} {tail : Tail} (h : targetless? s = some tail) : tail.Fits s := by
  have hs := List.takeWhile_append_dropWhile (p := Text.isBlank) (l := s)
  have hgap : Text.Blanks (s.takeWhile Text.isBlank) := fun c hc => List.mem_takeWhile_imp hc
  unfold targetless? at h
  split at h
  · next hdrop =>
    obtain rfl := Option.some.inj h
    rw [hdrop, List.append_nil] at hs
    exact ⟨fun t ht => (nomatch ht), fun r hr => (nomatch hr), s, hs ▸ hgap,
      by simp [targetChars, routeChars]⟩
  · next hdrop =>
    obtain ⟨route, hroute, rfl⟩ := Option.map_eq_some_iff.mp h
    obtain ⟨hne, hrfree, hchars⟩ := route?_eq_some_iff.mp hroute
    refine ⟨fun t ht => (nomatch ht), fun r hr => Option.some.inj hr ▸ ⟨hne, hrfree⟩, _, hgap, ?_⟩
    rw [← hchars, targetChars, List.nil_append, hs]

theorem tail?_sound {s : List Char} {tail : Tail} (h : tail? s = some tail) : tail.Fits s := by
  cases s with
  | nil =>
    obtain rfl := Option.some.inj h
    exact ⟨fun t ht => (nomatch ht), fun r hr => (nomatch hr), [], Text.blanks_nil, rfl⟩
  | cons c s =>
    rw [tail?] at h
    cases htarget : (if c = arrow then target? s else none) with
    | some t =>
      obtain rfl : t = tail := by simpa [htarget] using h
      split at htarget
      · next hc => exact hc ▸ target?_sound htarget
      · cases htarget
    | none => exact targetless?_sound (by simpa [htarget] using h)

theorem target?_complete {target gap : List Char} {route : Option (List Char)} (hfree : NoBrackets target)
    (hgap : Text.Blanks gap) (hroute : ∀ r ∈ route, r ≠ [] ∧ NoBrackets r) :
    target? (target ++ gap ++ routeChars route) = some ⟨some (target ++ gap), route⟩ := by
  have hspan := span_routeChars (hfree.append (.of_blanks hgap)) route
  rw [target?, hspan.1, hspan.2]
  cases route with
  | none => rfl
  | some r =>
    have hread : route? (routeChars (some r)) = some r :=
      route?_eq_some_iff.mpr ⟨(hroute r rfl).1, (hroute r rfl).2, rfl⟩
    rw [routeChars] at hread ⊢
    simp only [List.cons_append] at hread ⊢
    rw [hread]
    rfl

theorem targetless?_complete {gap : List Char} {route : Option (List Char)} (hgap : Text.Blanks gap)
    (hroute : ∀ r ∈ route, r ≠ [] ∧ NoBrackets r) :
    targetless? (gap ++ routeChars route) = some ⟨none, route⟩ := by
  have hopen : Text.isBlank openRoute = false := by decide
  rw [targetless?, List.dropWhile_append_of_pos hgap]
  cases route with
  | none => rfl
  | some r =>
    have hread : route? (routeChars (some r)) = some r :=
      route?_eq_some_iff.mpr ⟨(hroute r rfl).1, (hroute r rfl).2, rfl⟩
    rw [routeChars] at hread ⊢
    simp only [List.cons_append, List.dropWhile_cons, hopen, Bool.false_eq_true, if_false] at hread ⊢
    rw [hread]
    rfl

theorem tail?_of_head_ne_arrow {s : List Char} (h : ∀ c ∈ s.head?, c ≠ arrow) : tail? s = targetless? s := by
  cases s with
  | nil => rfl
  | cons c s => simp [tail?, h c rfl]

/-- What looks like a tail is read as one, with its route and, but for blanks around it, its target. -/
theorem tail?_complete {s : List Char} {tail : Tail} (h : tail.Fits s) :
    ∃ found, tail? s = some found ∧ found.route = tail.route ∧
      Text.trim (found.target.getD []) = Text.trim (tail.target.getD []) := by
  obtain ⟨htarget, hroute, gap, hgap, rfl⟩ := h
  obtain ⟨target, route⟩ := tail
  cases target with
  | some target =>
    refine ⟨⟨some (target ++ gap), route⟩, ?_, rfl, Text.trim_append_right hgap _⟩
    have hrest := target?_complete (htarget target rfl) hgap hroute
    rw [targetChars, List.cons_append, List.cons_append, tail?, if_pos rfl, hrest]
    rfl
  | none =>
    have hhead : ∀ c ∈ (gap ++ routeChars route).head?, c ≠ arrow := by
      intro c hc
      cases gap with
      | cons d gap =>
        obtain rfl := Option.some.inj hc
        rintro rfl
        exact absurd (hgap arrow List.mem_cons_self) (by decide)
      | nil =>
        cases route with
        | none => cases hc
        | some r =>
          obtain rfl := Option.some.inj hc
          decide
    exact ⟨⟨none, route⟩, (tail?_of_head_ne_arrow hhead).trans (targetless?_complete hgap hroute), rfl, rfl⟩

/-! ### The shortest text -/

theorem Parts.cut_spec (s : List Char) :
    ∃ rest, s = (cut s).text ++ rest ∧ tail? rest = some (cut s).tail ∧
      ∀ a b, s = a ++ b → (tail? b).isSome → (cut s).text.length ≤ a.length := by
  induction s with
  | nil => exact ⟨[], rfl, rfl, fun a b _ _ => Nat.zero_le _⟩
  | cons c s ih =>
    cases htail : tail? (c :: s) with
    | some tail =>
      have hcut : cut (c :: s) = ⟨[], tail⟩ := by rw [cut, htail]
      rw [hcut]
      exact ⟨c :: s, rfl, htail, fun a b _ _ => Nat.zero_le _⟩
    | none =>
      have hcut : cut (c :: s) = { cut s with text := c :: (cut s).text } := by rw [cut, htail]
      obtain ⟨rest, hs, hrest, hshort⟩ := ih
      rw [hcut]
      refine ⟨rest, congrArg (c :: ·) hs, hrest, fun a b hab hb => ?_⟩
      cases a with
      | nil =>
        rw [List.nil_append] at hab
        rw [← hab, htail] at hb
        cases hb
      | cons d a => exact Nat.succ_le_succ (hshort a b (List.cons.inj hab).2 hb)

theorem Parts.ofItem_cons (c : Char) (s : List Char) :
    ofItem (c :: s) = { cut s with text := c :: (cut s).text } := rfl

theorem Parts.ofItem_spec {item : List Char} (h : item ≠ []) :
    (ofItem item).text ≠ [] ∧
      ∃ rest, item = (ofItem item).text ++ rest ∧ tail? rest = some (ofItem item).tail := by
  obtain ⟨c, s, rfl⟩ := List.exists_cons_of_ne_nil h
  obtain ⟨rest, hs, hrest, -⟩ := cut_spec s
  rw [ofItem_cons]
  exact ⟨List.cons_ne_nil _ _, rest, congrArg (c :: ·) hs, hrest⟩

theorem Parts.ofItem_fits {item : List Char} (h : item ≠ []) : (ofItem item).Fits item := by
  obtain ⟨hne, rest, hitem, hrest⟩ := ofItem_spec h
  exact ⟨hne, rest, hitem, tail?_sound hrest⟩

/-- No division of an item has a shorter text than its parts. -/
theorem Parts.ofItem_shortest {item : List Char} {p : Parts} (h : p.Fits item) :
    (ofItem item).text.length ≤ p.text.length := by
  obtain ⟨hne, rest, rfl, hrest⟩ := h
  obtain ⟨found, hfound, -⟩ := tail?_complete hrest
  obtain ⟨c, a, ha⟩ := List.exists_cons_of_ne_nil hne
  obtain ⟨-, -, -, hshort⟩ := cut_spec (a ++ rest)
  rw [ha, List.cons_append, ofItem_cons]
  exact Nat.succ_le_succ (hshort a rest rfl (by rw [hfound]; rfl))

/-- The choice that the parts of an item make. -/
def Parts.choice (p : Parts) (number : Nat) : Choice :=
  { id := s!"choice_{number}"
    text := .ofList (Text.trim p.text)
    nextScene := .ofList (Text.trim (p.tail.target.getD []))
    routeChange := p.tail.route.map String.ofList }

/-- Whether a division of an item by the pattern has the shortest text. -/
def Parts.IsShortest (p : Parts) (item : List Char) : Prop :=
  p.Fits item ∧ ∀ q : Parts, q.Fits item → p.text.length ≤ q.text.length

theorem Parts.isShortest_ofItem {item : List Char} (h : item ≠ []) : (ofItem item).IsShortest item :=
  ⟨ofItem_fits h, fun _ hq => ofItem_shortest hq⟩

/-- **All divisions with the shortest text give the same choice.** -/
theorem ofItem_of_isShortest {item : List Char} {p : Parts} (h : p.IsShortest item) (number : Nat) :
    Choice.ofItem number item = p.choice number := by
  obtain ⟨⟨hne, rest, hitem, hrest⟩, hshort⟩ := h
  have hitemne : item ≠ [] := by
    rw [hitem]
    exact List.append_ne_nil_of_left_ne_nil hne rest
  obtain ⟨-, rest', hitem', hrest'⟩ := Parts.ofItem_spec hitemne
  have hlen : p.text.length = (Parts.ofItem item).text.length :=
    Nat.le_antisymm (hshort _ (Parts.ofItem_fits hitemne))
      (Parts.ofItem_shortest ⟨hne, rest, hitem, hrest⟩)
  obtain ⟨htext, rfl⟩ := List.append_inj (hitem.symm.trans hitem') hlen
  obtain ⟨found, hfound, hroute, htarget⟩ := tail?_complete hrest
  obtain rfl := Option.some.inj (hfound.symm.trans hrest')
  have hchoice : Choice.ofItem number item = (Parts.ofItem item).choice number := rfl
  rw [hchoice, Parts.choice, Parts.choice, htext, hroute, htarget]

end Daihon.Script
