import Daihon.Proofs.Script.Division
import Daihon.Proofs.Script.Items
import Mathlib.Data.Nat.Find

/-!
# The grammar of item lines

The choice of an item is described by looking at the item from its end: a route is cut off first
(`IsRouted`), and what stands in front of it is cut at the first arrow behind which no bracket stands
(`IsAimed`).  The division found in this way has the shortest text that the pattern of items allows, so that
it gives the choice that is read (`ofItem_of_isAimed`).

`item_line_grammar` puts this together with the grammar of the lines themselves.
-/

namespace Daihon.Script

/-! ### An item from its end -/

/-- An item with a route behind `p`, or else `p` itself. -/
inductive IsRouted (item : List Char) : List Char → Option (List Char) → Prop where
  | route {p r : List Char} (hp : p ≠ []) (hr : r ≠ []) (hfree : NoBrackets r)
      (h : item = p ++ openRoute :: r ++ [closeRoute]) : IsRouted item p (some r)
  | none (h : ∀ p r, p ≠ [] → r ≠ [] → NoBrackets r → item ≠ p ++ openRoute :: r ++ [closeRoute]) :
      IsRouted item item none

/-- Whether the character at position `i` of `p` is the arrow of a target: it does not stand in front, and no
bracket follows it. -/
def IsTargetArrow (p : List Char) (i : Nat) : Prop :=
  1 ≤ i ∧ p[i]? = some arrow ∧ NoBrackets (p.drop (i + 1))

/-- `p` cut at its first arrow of a target, or uncut. -/
inductive IsAimed (p : List Char) : List Char → Option (List Char) → Prop where
  | target {i : Nat} (h : IsTargetArrow p i) (hfirst : ∀ j < i, ¬IsTargetArrow p j) :
      IsAimed p (p.take i) (some (p.drop (i + 1)))
  | none (h : ∀ i, ¬IsTargetArrow p i) : IsAimed p p none

theorem exists_isRouted (item : List Char) : ∃ p route, IsRouted item p route := by
  by_cases h : ∃ p r, p ≠ [] ∧ r ≠ [] ∧ NoBrackets r ∧ item = p ++ openRoute :: r ++ [closeRoute]
  · obtain ⟨p, r, hp, hr, hfree, hitem⟩ := h
    exact ⟨p, some r, .route hp hr hfree hitem⟩
  · exact ⟨item, none, .none fun p r hp hr hfree hitem => h ⟨p, r, hp, hr, hfree, hitem⟩⟩

theorem exists_isAimed (p : List Char) : ∃ text target, IsAimed p text target := by
  classical
  by_cases h : ∃ i, IsTargetArrow p i
  · exact ⟨_, _, .target (Nat.find_spec h) fun j hj => Nat.find_min h hj⟩
  · exact ⟨_, _, .none fun i hi => h ⟨i, hi⟩⟩

theorem IsRouted.chars {item p : List Char} {route : Option (List Char)} (h : IsRouted item p route) :
    item = p ++ routeChars route := by
  cases h with
  | route _ _ _ h => simpa [routeChars] using h
  | none => simp [routeChars]

theorem IsRouted.route_fits {item p : List Char} {route : Option (List Char)} (h : IsRouted item p route) :
    ∀ r ∈ route, r ≠ [] ∧ NoBrackets r := by
  cases h with
  | route _ hr hfree _ => exact fun r h => Option.some.inj h ▸ ⟨hr, hfree⟩
  | none => exact fun r h => (nomatch h)

theorem IsRouted.length_le {item p : List Char} {route : Option (List Char)} (h : IsRouted item p route) :
    p.length ≤ item.length := by
  rw [h.chars, List.length_append]
  omega

theorem routeChars_inj {p p' r r' : List Char} (hr : NoBrackets r) (hr' : NoBrackets r')
    (h : p ++ openRoute :: r = p' ++ openRoute :: r') : p = p' ∧ r = r' := by
  -- a longer text in front would put the bracket into the other route
  have hlonger {a x y : List Char} (hx : NoBrackets x) (hxy : openRoute :: x = a ++ openRoute :: y) :
      a = [] := by
    by_contra ha
    obtain ⟨c, a, rfl⟩ := List.exists_cons_of_ne_nil ha
    have := hx openRoute (by simp [(List.cons.inj hxy).2])
    exact absurd this (by decide)
  rcases List.append_eq_append_iff.mp h with ⟨a, rfl, hxy⟩ | ⟨a, rfl, hxy⟩
  · obtain rfl := hlonger hr hxy
    simpa using hxy
  · obtain rfl := hlonger hr' hxy
    simpa using hxy.symm

theorem noBrackets_targetChars {target : Option (List Char)} (h : ∀ t ∈ target, NoBrackets t) :
    NoBrackets (targetChars target) := by
  cases target with
  | none => exact fun c hc => (nomatch hc)
  | some t =>
    intro c hc
    rcases List.mem_cons.mp hc with rfl | hc
    · decide
    · exact h t rfl c hc

/-- A division of a routed item leaves the route alone, unless its text is all of the item. -/
theorem IsRouted.before_route {item p : List Char} {route : Option (List Char)} (h : IsRouted item p route)
    {q : Parts} (hq : q.Fits item) :
    q.text = item ∨ ∃ gap, Text.Blanks gap ∧ p = q.text ++ targetChars q.tail.target ++ gap := by
  obtain ⟨hne, rest, hitem, htarget, hroute, gap, hgap, rfl⟩ := hq
  rw [← List.append_assoc, ← List.append_assoc] at hitem
  have hfront : q.text ++ targetChars q.tail.target ++ gap ≠ [] := by simp [hne]
  cases hqr : q.tail.route with
  | none =>
    rw [hqr, routeChars, List.append_nil] at hitem
    cases h with
    | none h => exact .inr ⟨gap, hgap, hitem⟩
    | route hp hr hfree h =>
      left
      -- what stands behind the text holds no bracket, but the item ends with one
      have hfreeTail := (noBrackets_targetChars htarget).append (.of_blanks hgap)
      rw [List.append_assoc] at hitem
      cases htail : (targetChars q.tail.target ++ gap).getLast? with
      | none => rw [hitem, List.getLast?_eq_none_iff.mp htail, List.append_nil]
      | some c =>
        have hlast : item.getLast? = some c := by rw [hitem, List.getLast?_append, htail]; rfl
        rw [h, List.getLast?_concat] at hlast
        obtain rfl := Option.some.inj hlast
        exact absurd (hfreeTail _ (List.mem_of_getLast? htail)) (by decide)
  | some r' =>
    right
    obtain ⟨hr', hfree'⟩ := hroute r' hqr
    rw [hqr, routeChars, ← List.append_assoc] at hitem
    cases h with
    | none h => exact absurd hitem (h _ r' hfront hr' hfree')
    | route hp hr hfree h =>
      have hboth := List.append_cancel_right (h.symm.trans hitem)
      exact ⟨gap, hgap, (routeChars_inj hfree hfree' hboth).1⟩

/-- What a division leaves in front of the route, if it has a target, has the arrow of a target behind the
text. -/
theorem isTargetArrow_of_eq {p text t gap : List Char} (hne : text ≠ []) (hfree : NoBrackets t)
    (hgap : Text.Blanks gap) (hp : p = text ++ targetChars (some t) ++ gap) :
    IsTargetArrow p text.length := by
  rw [targetChars, List.append_assoc, List.cons_append] at hp
  refine ⟨List.length_pos_iff.mpr hne, by simp [hp], ?_⟩
  have hdrop : p.drop (text.length + 1) = t ++ gap := by
    rw [hp, ← List.drop_drop, List.drop_left, List.drop_one, List.tail_cons]
  rw [hdrop]
  exact hfree.append (.of_blanks hgap)

theorem lt_length_of_isTargetArrow {p : List Char} {i : Nat} (h : IsTargetArrow p i) : i < p.length :=
  (List.getElem?_eq_some_iff.mp h.2.1).1

/-- An arrow of a target does not stand among the blanks at the end. -/
theorem IsTargetArrow.lt_of_blanks {text gap : List Char} {i : Nat} (h : IsTargetArrow (text ++ gap) i)
    (hgap : Text.Blanks gap) : i < text.length := by
  by_contra hi
  have harrow := h.2.1
  rw [List.getElem?_append_right (Nat.le_of_not_lt hi)] at harrow
  exact absurd (hgap arrow (List.mem_of_getElem? harrow)) (by decide)

theorem isShortest_of_isTargetArrow {item p : List Char} {route : Option (List Char)} {i : Nat}
    (hrouted : IsRouted item p route) (h : IsTargetArrow p i) (hfirst : ∀ j < i, ¬IsTargetArrow p j) :
    (⟨p.take i, some (p.drop (i + 1)), route⟩ : Parts).IsShortest item := by
  have hi := lt_length_of_isTargetArrow h
  have hsplit : p = p.take i ++ arrow :: p.drop (i + 1) := by
    have harrow := (List.getElem?_eq_some_iff.mp h.2.1).2
    conv_lhs => rw [← List.take_append_drop i p, List.drop_eq_getElem_cons hi, harrow]
  have hlen : (p.take i).length = i := List.length_take_of_le (Nat.le_of_lt hi)
  refine ⟨⟨?_, targetChars (some (p.drop (i + 1))) ++ [] ++ routeChars route, ?_, ?_, hrouted.route_fits,
    [], Text.blanks_nil, rfl⟩, fun q hq => ?_⟩
  · have hpos : 0 < (p.take i).length := by rw [hlen]; exact h.1
    exact List.length_pos_iff.mp hpos
  · rw [List.append_nil, ← List.append_assoc, targetChars, ← hsplit]
    exact hrouted.chars
  · exact fun t ht => Option.some.inj ht ▸ h.2.2
  · rw [hlen]
    have hle := hrouted.length_le
    rcases hrouted.before_route hq with htext | ⟨gap, hgap, hp⟩
    · rw [htext]
      omega
    · cases htarget : q.tail.target with
      | some t =>
        rw [htarget] at hp
        obtain ⟨hne, -, -, hfree, -⟩ := hq
        by_contra hlt
        exact hfirst _ (Nat.lt_of_not_le hlt) (isTargetArrow_of_eq hne (hfree t htarget) hgap hp)
      | none =>
        rw [htarget, targetChars, List.append_nil] at hp
        rw [hp] at h
        exact Nat.le_of_lt (h.lt_of_blanks hgap)

theorem isShortest_of_forall_not_isTargetArrow {item p : List Char} {route : Option (List Char)}
    (hrouted : IsRouted item p route) (hp : ¬Text.Blanks p) (h : ∀ i, ¬IsTargetArrow p i) :
    (⟨p.rdropWhile Text.isBlank, none, route⟩ : Parts).IsShortest item := by
  refine ⟨⟨fun hnil => hp (List.rdropWhile_eq_nil_iff.mp hnil),
    targetChars none ++ p.rtakeWhile Text.isBlank ++ routeChars route, ?_, fun t ht => (nomatch ht),
    hrouted.route_fits, p.rtakeWhile Text.isBlank, fun c hc => List.mem_rtakeWhile_imp hc, rfl⟩,
    fun q hq => ?_⟩
  · rw [targetChars, List.nil_append, ← List.append_assoc, List.rdropWhile_append_rtakeWhile]
    exact hrouted.chars
  · have hle := (List.rdropWhile_prefix Text.isBlank p).length_le
    have hlen := hrouted.length_le
    rcases hrouted.before_route hq with htext | ⟨gap, hgap, hq'⟩
    · rw [htext]
      exact Nat.le_trans hle hlen
    · cases htarget : q.tail.target with
      | some t =>
        rw [htarget] at hq'
        obtain ⟨hne, -, -, hfree, -⟩ := hq
        exact absurd (isTargetArrow_of_eq hne (hfree t htarget) hgap hq') (h _)
      | none =>
        rw [htarget, targetChars, List.append_nil] at hq'
        rw [hq', Text.rdropWhile_append_right hgap]
        exact (List.rdropWhile_prefix Text.isBlank q.text).length_le

/-- In front of the route of a trimmed item stand not only blanks. -/
theorem IsRouted.not_blanks {item p : List Char} {route : Option (List Char)} (h : IsRouted item p route)
    (hitem : Text.trim item = item) (hne : item ≠ []) : ¬Text.Blanks p := by
  intro hp
  have hpne : p ≠ [] := by
    cases h with
    | route hp _ _ _ => exact hp
    | none => exact hne
  obtain ⟨c, p', rfl⟩ := List.exists_cons_of_ne_nil hpne
  have hhead := (Text.trim_eq_self_iff.mp hitem).1 c (by rw [h.chars]; rfl)
  rw [hp c List.mem_cons_self] at hhead
  cases hhead

/-- **An item is read from its end.**  The choice of an item is that of the text and the target in front of
its route. -/
theorem ofItem_of_isAimed {item p text : List Char} {route target : Option (List Char)}
    (hitem : Text.trim item = item) (hne : item ≠ []) (hrouted : IsRouted item p route)
    (haimed : IsAimed p text target) (number : Nat) :
    Choice.ofItem number item = (⟨text, target, route⟩ : Parts).choice number := by
  cases haimed with
  | target h hfirst => exact ofItem_of_isShortest (isShortest_of_isTargetArrow hrouted h hfirst) number
  | none h =>
    have hp := hrouted.not_blanks hitem hne
    have htrim : Text.trim (p.rdropWhile Text.isBlank) = Text.trim p := by
      have hgap : Text.Blanks (p.rtakeWhile Text.isBlank) := fun c hc => List.mem_rtakeWhile_imp hc
      rw [← Text.trim_append_right hgap, List.rdropWhile_append_rtakeWhile]
    rw [ofItem_of_isShortest (isShortest_of_forall_not_isTargetArrow hrouted hp h), Parts.choice,
      Parts.choice, htrim]

/-! ### The grammar -/

/-- How the choice with a number is read off an item. -/
structure ReadsAs (item : List Char) (number : Nat) (choice : Choice) : Prop where
  /-- The item can be divided by the pattern of items, -/
  divided : ∃ p : Parts, p.IsShortest item
  /-- every division with the shortest text gives the choice, -/
  shortest : ∀ p : Parts, p.IsShortest item → choice = p.choice number
  /-- it has a place for its route and an arrow of its target, or none, -/
  described : ∃ p route text target, IsRouted item p route ∧ IsAimed p text target
  /-- the choice is what stands around them, -/
  fromEnd : ∀ p route text target, IsRouted item p route → IsAimed p text target →
    choice = (⟨text, target, route⟩ : Parts).choice number
  /-- and its text is not empty. -/
  text : choice.text ≠ ""

theorem Parts.Fits.trim_text_ne_nil {p : Parts} {item : List Char} (h : p.Fits item)
    (hitem : Text.trim item = item) : Text.trim p.text ≠ [] := by
  obtain ⟨hne, rest, rfl, -⟩ := h
  obtain ⟨c, t, ht⟩ := List.exists_cons_of_ne_nil hne
  rw [ht] at hitem ⊢
  intro hnil
  have hhead := (Text.trim_eq_self_iff.mp hitem).1 c rfl
  rw [Text.trim_eq_nil_iff.mp hnil c List.mem_cons_self] at hhead
  cases hhead

theorem readsAs_ofItem {item : List Char} (hitem : Text.trim item = item) (hne : item ≠ []) (number : Nat) :
    ReadsAs item number (Choice.ofItem number item) where
  divided := ⟨_, Parts.isShortest_ofItem hne⟩
  shortest p hp := ofItem_of_isShortest hp number
  described := by
    obtain ⟨p, route, hrouted⟩ := exists_isRouted item
    obtain ⟨text, target, haimed⟩ := exists_isAimed p
    exact ⟨p, route, text, target, hrouted, haimed⟩
  fromEnd p route text target hrouted haimed := ofItem_of_isAimed hitem hne hrouted haimed number
  text := by
    rw [ofItem_of_isShortest (Parts.isShortest_ofItem hne) number, Parts.choice]
    simpa using (Parts.ofItem_fits hne).trim_text_ne_nil hitem

theorem IsItem.trimmed {s item : List Char} (h : IsItem s item) (hs : Text.trim s = s) :
    Text.trim item = item ∧ item ≠ [] := by
  obtain ⟨-, bullet, rest, -, hne, rfl, rfl⟩ := h
  refine ⟨Text.trim_trim rest, fun hnil => ?_⟩
  exact hne (Text.eq_nil_of_trim_append_self hs (Text.trim_eq_nil_iff.mp hnil))

theorem ofLines_singleton (line : String) :
    Choice.ofLines [line] = .ok ((item? (Text.trim line.toList)).toList.map (Choice.ofItem 1)) := by
  simp only [Choice.ofLines, List.map_cons, List.map_nil, choicesFrom, Element.line?]
  split
  · next h => rw [List.isEmpty_iff.mp h]; rfl
  · cases item? (Text.trim line.toList) <;> rfl

/-- **The grammar of item lines.**  A line is read as an item if and only if it is one by the grammar, and the
choice that is made of the item is the one that the pattern of items describes. -/
theorem item_line_grammar (line : String) (hline : '\n' ∉ line.toList) :
    Choice.ofLines [line] = .ok ((item? (Text.trim line.toList)).toList.map (Choice.ofItem 1)) ∧
      (∀ item, item? (Text.trim line.toList) = some item ↔ IsItem (Text.trim line.toList) item) ∧
      ∀ item, IsItem (Text.trim line.toList) item →
        ∀ number, ReadsAs item number (Choice.ofItem number item) := by
  have hs := Text.trim_trim line.toList
  have hfeed : '\n' ∉ Text.trim line.toList := fun hmem => hline (Text.mem_of_mem_trim hmem)
  refine ⟨ofLines_singleton line, fun item => item?_eq_some_iff_of_lineFeed_notMem hs hfeed, ?_⟩
  intro item hitem number
  obtain ⟨htrim, hne⟩ := hitem.trimmed hs
  exact readsAs_ofItem htrim hne number

/-- Brackets may stand in the text, arrows in the target and the route. -/
theorem item_line_grammar_arrows :
    '\n' ∉ " 2.［a］ →b→c ［ →］ ".toList ∧
      Choice.ofLines [" 2.［a］ →b→c ［ →］ "] = .ok [⟨"choice_1", "［a］", "b→c", some " →"⟩] ∧
      ReadsAs "［a］ →b→c ［ →］".toList 1 ⟨"choice_1", "［a］", "b→c", some " →"⟩ := by
  obtain ⟨hlines, hitems, hreads⟩ := item_line_grammar " 2.［a］ →b→c ［ →］ " (by decide)
  have hitem := (hitems "［a］ →b→c ［ →］".toList).mp (by decide)
  exact ⟨by decide, hlines.trans (congrArg Except.ok (by decide)), hreads _ hitem 1⟩

end Daihon.Script
