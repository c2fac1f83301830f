import Daihon.Json.Reader
import Daihon.Proofs.Value.Tables
import Mathlib.Data.List.TakeWhile

/-!
# The grammar of JSON texts

Which texts are JSON texts, and what value each of them spells, said apart from the reader.  A number has
a whole part without needless zeros, a fraction perhaps and an exponent perhaps.  Between quotes stand
characters as they are, save quotes, backslashes and what comes before the blank, and escapes.  Items and
entries are separated by commas, with blanks around every part.  Integers have as many digits at most as a
limit says, if there is one; a text is a JSON text at all if it is one without a limit.

**The reader reads every JSON text as the value it spells** (`parse_of_isTextOf`), so that a text spells
one value at most (`IsTextOf.unique`).
-/

namespace Daihon.Json

variable {limit : Option Nat} {negative : Bool} {v : Value} {ds s t r : List Char}

/-! ### Blanks -/

/-- A row of blanks, perhaps an empty one. -/
def Blanks (b : List Char) : Prop :=
  ∀ c ∈ b, isBlank c = true

theorem skip_append_cons {b : List Char} (hb : Blanks b) {c : Char} (hc : isBlank c = false) :
    skip (b ++ c :: s) = c :: s := by
  rw [skip, List.dropWhile_append_of_pos hb, List.dropWhile_cons_of_neg (by simp [hc])]

/-! ### Numbers -/

/-- A row of digits, at least one. -/
def IsDigits (ds : List Char) : Prop :=
  ds ≠ [] ∧ ∀ d ∈ ds, Decimal.isDigit d = true

/-- The whole part of a number: a zero on its own, or digits of which the first is no zero. -/
def IsWhole (ds : List Char) : Prop :=
  ds = ['0'] ∨ (IsDigits ds ∧ ds.head? ≠ some '0')

/-- The fraction of a number with its digits, if it has one. -/
inductive IsFraction : List Char → List Char → Prop
  | absent : IsFraction [] []
  | point {ds : List Char} (h : IsDigits ds) : IsFraction ds ('.' :: ds)

/-- The exponent of a number. -/
inductive IsExponent : Int → List Char → Prop
  | plain {m : Char} {ds : List Char} (hm : m = 'e' ∨ m = 'E') (h : IsDigits ds) :
      IsExponent (Decimal.ofDigits ds) (m :: ds)
  | plus {m : Char} {ds : List Char} (hm : m = 'e' ∨ m = 'E') (h : IsDigits ds) :
      IsExponent (Decimal.ofDigits ds) (m :: '+' :: ds)
  | minus {m : Char} {ds : List Char} (hm : m = 'e' ∨ m = 'E') (h : IsDigits ds) :
      IsExponent (-Decimal.ofDigits ds) (m :: '-' :: ds)

/-- A number behind its sign: an integer if it has neither a fraction nor an exponent. -/
inductive IsUnsigned (limit : Option Nat) (negative : Bool) : Value → List Char → Prop
  | whole {ds : List Char} (h : IsWhole ds) (hlimit : ∀ n ∈ limit, ds.length ≤ n) :
      IsUnsigned limit negative (.int (Decimal.withSign negative (Decimal.ofDigits ds))) ds
  | fraction {ds fs : List Char} (h : IsWhole ds) (hf : IsDigits fs) :
      IsUnsigned limit negative (.float (Decimal.ofParts negative ds fs 0)) (ds ++ '.' :: fs)
  | exponent {ds fs t u : List Char} {e : Int} (h : IsWhole ds) (hf : IsFraction fs t)
      (he : IsExponent e u) :
      IsUnsigned limit negative (.float (Decimal.ofParts negative ds fs e)) (ds ++ (t ++ u))

/-- A number. -/
inductive IsNumber (limit : Option Nat) : Value → List Char → Prop
  | plain {v : Value} {s : List Char} (h : IsUnsigned limit false v s) : IsNumber limit v s
  | minus {v : Value} {s : List Char} (h : IsUnsigned limit true v s) : IsNumber limit v ('-' :: s)

/-- Whether a text does not start with a digit. -/
def NoDigit (r : List Char) : Prop :=
  ∀ c ∈ r.head?, Decimal.isDigit c = false

/-- Whether no number goes on at the start of a text. -/
def EndsNumber (r : List Char) : Prop :=
  ∀ c ∈ r.head?, Decimal.isDigit c = false ∧ c ≠ '.' ∧ c ≠ 'e' ∧ c ≠ 'E'

theorem EndsNumber.noDigit (h : EndsNumber r) : NoDigit r :=
  fun c hc => (h c hc).1

theorem noDigit_cons {c : Char} (h : Decimal.isDigit c = false) : NoDigit (c :: r) := by
  intro d hd
  obtain rfl := Option.some.inj hd
  exact h

theorem endsNumber_cons {c : Char}
    (h : Decimal.isDigit c = false ∧ c ≠ '.' ∧ c ≠ 'e' ∧ c ≠ 'E') : EndsNumber (c :: r) := by
  intro d hd
  obtain rfl := Option.some.inj hd
  exact h

theorem endsNumber_blanks_append {b : List Char} (hb : Blanks b) (hr : EndsNumber r) :
    EndsNumber (b ++ r) := by
  cases b with
  | nil => exact hr
  | cons c b =>
    have hc := hb c List.mem_cons_self
    simp only [isBlank, Bool.or_eq_true, beq_iff_eq] at hc
    obtain ((rfl | rfl) | rfl) | rfl := hc <;> exact endsNumber_cons (by decide)

theorem spanDigits_append (h : ∀ d ∈ ds, Decimal.isDigit d = true) (hr : NoDigit r) :
    spanDigits (ds ++ r) = (ds, r) := by
  have htake : r.takeWhile Decimal.isDigit = [] ∧ r.dropWhile Decimal.isDigit = r := by
    cases r with
    | nil => exact ⟨rfl, rfl⟩
    | cons c r =>
      have hc : ¬Decimal.isDigit c = true := by simp [hr c rfl]
      exact ⟨List.takeWhile_cons_of_neg hc, List.dropWhile_cons_of_neg hc⟩
  rw [spanDigits, List.takeWhile_append_of_pos h, List.dropWhile_append_of_pos h, htake.1, htake.2,
    List.append_nil]

theorem fraction?_eq_none (hr : ∀ c ∈ r.head?, c ≠ '.') : fraction? r = none := by
  cases r with
  | nil => rfl
  | cons c r => exact fraction?.eq_2 _ fun s hs => hr c rfl (List.cons.inj hs).1

/-- The fraction is read up to its last digit, and there is none where no point stands. -/
theorem fraction?_of_isFraction {fs : List Char} (h : IsFraction fs t) (hr : NoDigit r)
    (hpoint : ∀ c ∈ r.head?, c ≠ '.') : (fraction? (t ++ r)).getD ([], t ++ r) = (fs, r) := by
  cases h with
  | absent =>
    rw [List.nil_append, fraction?_eq_none hpoint]
    rfl
  | point h =>
    rw [List.cons_append, fraction?, spanDigits_append h.2 hr]
    simp [h.1]

theorem exponent?_of_isExponent {e : Int} (h : IsExponent e s) (hr : NoDigit r) :
    exponent? (s ++ r) = some (e, r) := by
  cases h with
  | @plain m ds hm h =>
    have hm : (m == 'e' || m == 'E') = true := by simpa using hm
    have hsigned : Decimal.signed (ds ++ r) = (false, ds ++ r) := by
      obtain ⟨d, ds, rfl⟩ := List.exists_cons_of_ne_nil h.1
      have hd := h.2 d List.mem_cons_self
      refine Decimal.signed.eq_3 _ (fun s hs => ?_) (fun s hs => ?_) <;>
      · obtain ⟨rfl, -⟩ := List.cons.inj hs
        exact absurd hd (by decide)
    simp [exponent?, hm, hsigned, spanDigits_append h.2 hr, h.1, Decimal.withSign]
  | @plus m ds hm h =>
    have hm : (m == 'e' || m == 'E') = true := by simpa using hm
    simp [exponent?, hm, Decimal.signed, spanDigits_append h.2 hr, h.1, Decimal.withSign]
  | @minus m ds hm h =>
    have hm : (m == 'e' || m == 'E') = true := by simpa using hm
    simp [exponent?, hm, Decimal.signed, spanDigits_append h.2 hr, h.1, Decimal.withSign]

theorem exponent?_eq_none (hr : ∀ c ∈ r.head?, c ≠ 'e' ∧ c ≠ 'E') : exponent? r = none := by
  cases r with
  | nil => rfl
  | cons c r =>
    have hc := hr c rfl
    simp [exponent?, hc.1, hc.2]

/-- What follows the whole part decides what a number is. -/
theorem unsigned_append (h : IsWhole ds) (hr : NoDigit r) {fs r' : List Char}
    (hfraction : (fraction? r).getD ([], r) = (fs, r')) :
    unsigned limit negative (ds ++ r) =
      (exponent? r').elim
        (if fs.isEmpty then (integer limit negative ds).map fun v => (v, r')
        else .ok (.float (Decimal.ofParts negative ds fs 0), r'))
        fun p => .ok (.float (Decimal.ofParts negative ds fs p.1), p.2) := by
  obtain rfl | ⟨hds, hzero⟩ := h
  · simp only [unsigned, List.cons_append, List.nil_append, hfraction]
    cases exponent? r' <;> simp
  · unfold unsigned
    split
    next whole rest hwhole =>
      split at hwhole
      · -- A zero in front would be the first of the digits.
        obtain ⟨d, ds, rfl⟩ := List.exists_cons_of_ne_nil hds.1
        next hs =>
        obtain ⟨rfl, -⟩ := List.cons.inj hs
        exact absurd rfl hzero
      · rw [spanDigits_append hds.2 hr] at hwhole
        obtain ⟨rfl, rfl⟩ := Prod.mk.inj hwhole
        simp only [hfraction]
        cases exponent? r' <;> simp [hds.1]

theorem IsExponent.head {e : Int} (h : IsExponent e s) :
    ∃ m t, s = m :: t ∧ (m = 'e' ∨ m = 'E') := by
  cases h with
  | plain hm => exact ⟨_, _, rfl, hm⟩
  | plus hm => exact ⟨_, _, rfl, hm⟩
  | minus hm => exact ⟨_, _, rfl, hm⟩

theorem integer_of_length_le (h : ∀ n ∈ limit, ds.length ≤ n) :
    integer limit negative ds = .ok (.int (Decimal.withSign negative (Decimal.ofDigits ds))) := by
  refine if_neg ?_
  cases limit with
  | none => exact Bool.false_ne_true
  | some n => simpa using h n rfl

theorem unsigned_of_isUnsigned (h : IsUnsigned limit negative v s) (hr : EndsNumber r) :
    unsigned limit negative (s ++ r) = .ok (v, r) := by
  have hpoint : ∀ c ∈ r.head?, c ≠ '.' := fun c hc => (hr c hc).2.1
  have hexponent : exponent? r = none := exponent?_eq_none fun c hc => (hr c hc).2.2
  cases h with
  | whole h hlimit =>
    rw [unsigned_append h hr.noDigit (fraction?_of_isFraction .absent hr.noDigit hpoint), hexponent,
      integer_of_length_le hlimit]
    rfl
  | @fraction ds fs h hf =>
    have hfs : NoDigit ('.' :: fs ++ r) := noDigit_cons (by decide)
    rw [List.append_assoc, unsigned_append h hfs
      (fraction?_of_isFraction (.point hf) hr.noDigit hpoint), hexponent, Option.elim_none,
      if_neg (by simpa using hf.1)]
  | @exponent ds fs t u e h hf he =>
    have hu : exponent? (u ++ r) = some (e, r) := exponent?_of_isExponent he hr.noDigit
    obtain ⟨m, u', rfl, hm⟩ := he.head
    have hmark : Decimal.isDigit m = false ∧ m ≠ '.' := by
      obtain rfl | rfl := hm <;> decide
    have ht : NoDigit (t ++ (m :: u' ++ r)) := by
      cases hf with
      | absent => exact noDigit_cons hmark.1
      | point hf => exact noDigit_cons (by decide)
    rw [List.append_assoc, List.append_assoc, unsigned_append h ht
      (fraction?_of_isFraction hf (noDigit_cons hmark.1) (by simpa using hmark.2)), hu]
    rfl

theorem IsUnsigned.head (h : IsUnsigned limit negative v s) :
    ∃ d t, s = d :: t ∧ Decimal.isDigit d = true := by
  have hwhole : ∀ {ds : List Char}, IsWhole ds → ∃ d t, ds = d :: t ∧ Decimal.isDigit d = true := by
    rintro ds (rfl | ⟨⟨hne, hds⟩, -⟩)
    · exact ⟨_, _, rfl, by decide⟩
    · obtain ⟨d, ds, rfl⟩ := List.exists_cons_of_ne_nil hne
      exact ⟨d, ds, rfl, hds d List.mem_cons_self⟩
  cases h with
  | whole h => exact hwhole h
  | fraction h =>
    obtain ⟨d, t, rfl, hd⟩ := hwhole h
    exact ⟨d, _, rfl, hd⟩
  | exponent h =>
    obtain ⟨d, t, rfl, hd⟩ := hwhole h
    exact ⟨d, _, rfl, hd⟩

theorem number_of_isNumber (h : IsNumber limit v s) (hr : EndsNumber r) :
    number limit (s ++ r) = .ok (v, r) := by
  cases h with
  | plain h =>
    rw [← unsigned_of_isUnsigned h hr]
    obtain ⟨d, t, rfl, hd⟩ := h.head
    refine number.eq_5 _ _ ?_ ?_ ?_ ?_ <;>
    · intro s hs
      obtain ⟨rfl, -⟩ := List.cons.inj hs
      exact absurd hd (by decide)
  | minus h =>
    rw [← unsigned_of_isUnsigned h hr]
    obtain ⟨d, t, rfl, hd⟩ := h.head
    refine number.eq_4 _ _ fun s hs => ?_
    obtain ⟨rfl, -⟩ := List.cons.inj hs
    exact absurd hd (by decide)

/-! ### Quoted texts -/

/-- How a piece of a text is written between quotes: as it is, as an escape of one letter, or as a code
unit in four hexadecimal digits. -/
inductive Piece.IsWritten : Piece → List Char → Prop
  | plain {c : Char} (hlow : 32 ≤ c.toNat) (hquote : c ≠ '"') (hslash : c ≠ '\\') :
      IsWritten (.char c) [c]
  | simple {e c : Char} (h : simpleEscape? e = some c) : IsWritten (.char c) ['\\', e]
  | unit {ds : List Char} {n : Nat} (hlength : ds.length = 4) (h : Decimal.ofBase? 16 ds = some n) :
      IsWritten (.unit n) ('\\' :: 'u' :: ds)

/-- How a row of pieces is written, one after another. -/
inductive AreWritten : List Piece → List Char → Prop
  | nil : AreWritten [] []
  | cons {p : Piece} {ps : List Piece} {s t : List Char} (h : p.IsWritten s) (hs : AreWritten ps t) :
      AreWritten (p :: ps) (s ++ t)

theorem pieces?_of_isWritten {p : Piece} (h : p.IsWritten s) :
    pieces? (s ++ t) = (pieces? t).map fun (ps, r) => (p :: ps, r) := by
  cases h with
  | @plain c hlow hquote hslash =>
    rw [List.cons_append, List.nil_append, pieces?]
    · simp [hslash, Nat.not_lt.mpr hlow]
    · exact hquote
    · exact fun _ _ _ _ _ hc => absurd hc hslash
    · exact fun _ _ hc => absurd hc hslash
  | @simple e c h =>
    rw [List.cons_append, List.cons_append, List.nil_append, pieces?, h]
    rintro a b c d s rfl
    cases h
  | @unit ds n hlength h =>
    obtain ⟨a, b, c, d, rfl⟩ := List.length_eq_four.mp hlength
    simp only [List.cons_append, List.nil_append, pieces?, h]

theorem pieces?_of_areWritten {ps : List Piece} (h : AreWritten ps s) :
    pieces? (s ++ '"' :: r) = some (ps, r) := by
  induction h with
  | nil => rfl
  | cons h _ ih =>
    rw [List.append_assoc, pieces?_of_isWritten h, ih]
    rfl

/-! ### Values -/

/-- A key with its colon and the blanks on both sides of that. -/
inductive IsKey : String → List Char → Prop
  | mk {ps : List Piece} {s b b' : List Char} (h : AreWritten ps s) (hb : Blanks b)
      (hb' : Blanks b') :
      IsKey (Value.ofCharacters (characters ps)).shown ('"' :: s ++ '"' :: b ++ ':' :: b')

mutual
/-- The value that a text spells, without blanks around it. -/
inductive Spells (limit : Option Nat) : Value → List Char → Prop
  | null : Spells limit .null ['n', 'u', 'l', 'l']
  | yes : Spells limit (.bool true) ['t', 'r', 'u', 'e']
  | no : Spells limit (.bool false) ['f', 'a', 'l', 's', 'e']
  | number {v : Value} {s : List Char} (h : IsNumber limit v s) : Spells limit v s
  | text {ps : List Piece} {s : List Char} (h : AreWritten ps s) :
      Spells limit (.ofCharacters (characters ps)) ('"' :: s ++ ['"'])
  | noItems {b : List Char} (hb : Blanks b) : Spells limit (.list []) ('[' :: b ++ [']'])
  | items {b s : List Char} {vs : List Value} (hb : Blanks b) (h : SpellsItems limit vs s) :
      Spells limit (.list vs) ('[' :: b ++ s)
  | noEntries {b : List Char} (hb : Blanks b) : Spells limit (.table []) ('{' :: b ++ ['}'])
  | entries {b s : List Char} {es : Table Value} (hb : Blanks b) (h : SpellsEntries limit es s) :
      Spells limit (.table (Table.ofEntries es)) ('{' :: b ++ s)
/-- The items that a text spells up to the closing bracket. -/
inductive SpellsItems (limit : Option Nat) : List Value → List Char → Prop
  | last {v : Value} {s b : List Char} (h : Spells limit v s) (hb : Blanks b) :
      SpellsItems limit [v] (s ++ (b ++ [']']))
  | more {v : Value} {vs : List Value} {s b b' t : List Char} (h : Spells limit v s) (hb : Blanks b)
      (hb' : Blanks b') (hs : SpellsItems limit vs t) :
      SpellsItems limit (v :: vs) (s ++ (b ++ ',' :: (b' ++ t)))
/-- The entries that a text spells up to the closing brace, in the order in which they are written. -/
inductive SpellsEntries (limit : Option Nat) : Table Value → List Char → Prop
  | last {k : String} {v : Value} {s t b : List Char} (hk : IsKey k s) (h : Spells limit v t)
      (hb : Blanks b) : SpellsEntries limit [(k, v)] (s ++ (t ++ (b ++ ['}'])))
  | more {k : String} {v : Value} {es : Table Value} {s t b b' u : List Char} (hk : IsKey k s)
      (h : Spells limit v t) (hb : Blanks b) (hb' : Blanks b') (hs : SpellsEntries limit es u) :
      SpellsEntries limit ((k, v) :: es) (s ++ (t ++ (b ++ ',' :: (b' ++ u))))
end

/-- Whether `s` is a JSON text of `v`: a text that spells it, with blanks around. -/
def IsTextOf (limit : Option Nat) (v : Value) (s : List Char) : Prop :=
  ∃ b t b', Blanks b ∧ Spells limit v t ∧ Blanks b' ∧ s = b ++ (t ++ b')

/-- The characters that a value can start with. -/
def isStart (c : Char) : Bool :=
  Decimal.isDigit c || ['-', '"', '[', '{', 'n', 't', 'f'].contains c

theorem not_isBlank_of_isStart {c : Char} (h : isStart c = true) : isBlank c = false := by
  by_contra hc
  simp only [isBlank, Bool.not_eq_false, Bool.or_eq_true, beq_iff_eq] at hc
  obtain ((rfl | rfl) | rfl) | rfl := hc <;> exact absurd h (by decide)

theorem Spells.head (h : Spells limit v s) : ∃ c t, s = c :: t ∧ isStart c = true := by
  cases h with
  | number h =>
    cases h with
    | plain h =>
      obtain ⟨d, t, rfl, hd⟩ := h.head
      exact ⟨d, t, rfl, by simp [isStart, hd]⟩
    | minus h => exact ⟨_, _, rfl, by decide⟩
  | _ => exact ⟨_, _, rfl, by decide⟩

theorem SpellsItems.head {vs : List Value} (h : SpellsItems limit vs s) :
    ∃ c t, s = c :: t ∧ isStart c = true := by
  cases h with
  | last h =>
    obtain ⟨c, t, rfl, hc⟩ := h.head
    exact ⟨c, _, rfl, hc⟩
  | more h =>
    obtain ⟨c, t, rfl, hc⟩ := h.head
    exact ⟨c, _, rfl, hc⟩

theorem SpellsEntries.head {es : Table Value} (h : SpellsEntries limit es s) : ∃ t, s = '"' :: t := by
  cases h with
  | last hk =>
    cases hk
    exact ⟨_, rfl⟩
  | more hk =>
    cases hk
    exact ⟨_, rfl⟩

theorem quotedText?_of_areWritten {ps : List Piece} (h : AreWritten ps s) :
    quotedText? (s ++ '"' :: r) = some (.ofCharacters (characters ps), r) := by
  rw [quotedText?, pieces?_of_areWritten h]
  rfl

/-! ### Reading -/

theorem value_of_isNumber {fuel : Nat} (h : IsNumber limit v s) (hr : EndsNumber r) :
    value limit (fuel + 1) (s ++ r) = .ok (v, r) := by
  rw [← number_of_isNumber h hr]
  have hstart : ∃ c t, s ++ r = c :: t ∧ (Decimal.isDigit c || c == '-') = true := by
    cases h with
    | plain h =>
      obtain ⟨d, t, rfl, hd⟩ := h.head
      exact ⟨d, _, rfl, by simp [hd]⟩
    | minus h => exact ⟨_, _, rfl, by decide⟩
  obtain ⟨c, t, hs, hc⟩ := hstart
  rw [hs]
  refine value.eq_8 _ _ _ ?_ ?_ ?_ ?_ ?_ ?_ <;>
  · intro u hu
    obtain ⟨rfl, -⟩ := List.cons.inj hu
    exact absurd hc (by decide)

/-- Whether so many steps are enough for every text that is shorter. -/
structure Reads (limit : Option Nat) (fuel : Nat) : Prop where
  value {v : Value} {s r : List Char} (h : Spells limit v s) (hfuel : s.length < fuel)
    (hr : EndsNumber r) : value limit fuel (s ++ r) = .ok (v, r)
  items {vs done : List Value} {s r : List Char} (h : SpellsItems limit vs s)
    (hfuel : s.length < fuel) :
    items limit fuel done (s ++ r) = .ok (.list (done.reverse ++ vs), r)
  entries {es done : Table Value} {s r : List Char} (h : SpellsEntries limit es s)
    (hfuel : s.length < fuel) : entries limit fuel done (s ++ r) = .ok (.table (done.putAll es), r)

namespace Reads

variable {fuel : Nat}

theorem value_succ (ih : Reads limit fuel) (h : Spells limit v s) (hfuel : s.length < fuel + 1)
    (hr : EndsNumber r) : Json.value limit (fuel + 1) (s ++ r) = .ok (v, r) := by
  cases h with
  | null => rfl
  | yes => rfl
  | no => rfl
  | number h => exact value_of_isNumber h hr
  | text h =>
    rw [List.append_assoc, List.cons_append, List.singleton_append, Json.value,
      quotedText?_of_areWritten h]
  | @noItems b hb =>
    have hclose : skip (b ++ ']' :: r) = ']' :: r := skip_append_cons hb (by decide)
    simp only [List.cons_append, List.append_assoc, List.nil_append, Json.value, hclose]
  | @items b s vs hb h =>
    simp only [List.length_append, List.length_cons] at hfuel
    have hitems : Json.items limit fuel [] (s ++ r) = .ok (.list ([].reverse ++ vs), r) :=
      ih.items h (by omega)
    obtain ⟨c, t, rfl, hc⟩ := h.head
    have hskip : skip (b ++ c :: (t ++ r)) = c :: (t ++ r) :=
      skip_append_cons hb (not_isBlank_of_isStart hc)
    simp only [List.cons_append, List.append_assoc, Json.value, hskip]
    split
    · next hs =>
      obtain ⟨rfl, -⟩ := List.cons.inj hs
      exact absurd hc (by decide)
    · exact hitems
  | @noEntries b hb =>
    have hclose : skip (b ++ '}' :: r) = '}' :: r := skip_append_cons hb (by decide)
    simp only [List.cons_append, List.append_assoc, List.nil_append, Json.value, hclose]
  | @entries b s es hb h =>
    simp only [List.length_append, List.length_cons] at hfuel
    have hentries : Json.entries limit fuel [] (s ++ r) = .ok (.table (Table.putAll [] es), r) :=
      ih.entries h (by omega)
    obtain ⟨t, rfl⟩ := h.head
    have hskip : skip (b ++ '"' :: (t ++ r)) = '"' :: (t ++ r) := skip_append_cons hb (by decide)
    simp only [List.cons_append, List.append_assoc, Json.value, hskip]
    exact hentries

theorem items_succ (ih : Reads limit fuel) {vs done : List Value} (h : SpellsItems limit vs s)
    (hfuel : s.length < fuel + 1) :
    Json.items limit (fuel + 1) done (s ++ r) = .ok (.list (done.reverse ++ vs), r) := by
  cases h with
  | @last v s b h hb =>
    simp only [List.length_append, List.length_cons] at hfuel
    have hvalue := ih.value h (by omega)
      (endsNumber_blanks_append hb (endsNumber_cons (c := ']') (r := r) (by decide)))
    have hclose : skip (b ++ ']' :: r) = ']' :: r := skip_append_cons hb (by decide)
    simp only [Json.items, List.append_assoc, List.singleton_append, hvalue, hclose,
      List.reverse_cons]
  | @more v vs s b b' t h hb hb' hs =>
    simp only [List.length_append, List.length_cons] at hfuel
    have hvalue := ih.value h (by omega)
      (endsNumber_blanks_append hb (endsNumber_cons (c := ',') (r := b' ++ (t ++ r)) (by decide)))
    have hcomma : skip (b ++ ',' :: (b' ++ (t ++ r))) = ',' :: (b' ++ (t ++ r)) :=
      skip_append_cons hb (by decide)
    have hnext : skip (b' ++ (t ++ r)) = t ++ r := by
      obtain ⟨c, t, rfl, hc⟩ := hs.head
      exact skip_append_cons hb' (not_isBlank_of_isStart hc)
    simp only [Json.items, List.append_assoc, List.cons_append, hvalue, hcomma, hnext,
      ih.items hs (show t.length < fuel by omega), List.reverse_cons, List.nil_append]

/-- Behind a key and its value the entries go on after a comma and end at a brace. -/
theorem entries_of_isKey {k : String} (done : Table Value) (hk : IsKey k s)
    (ht : ∃ c u, t = c :: u ∧ isStart c = true) (hvalue : Json.value limit fuel t = .ok (v, r)) :
    (∀ r', skip r = ',' :: r' → Json.entries limit (fuel + 1) done (s ++ t) =
        Json.entries limit fuel (done.put k v) (skip r')) ∧
      ∀ r', skip r = '}' :: r' → Json.entries limit (fuel + 1) done (s ++ t) =
        .ok (.table (done.put k v), r') := by
  obtain @⟨ps, s, b, b', h, hb, hb'⟩ := hk
  have hquoted : quotedText? (s ++ '"' :: (b ++ ':' :: (b' ++ t))) =
      some (.ofCharacters (characters ps), b ++ ':' :: (b' ++ t)) := quotedText?_of_areWritten h
  have hcolon : skip (b ++ ':' :: (b' ++ t)) = ':' :: (b' ++ t) := skip_append_cons hb (by decide)
  have hnext : skip (b' ++ t) = t := by
    obtain ⟨c, u, rfl, hc⟩ := ht
    exact skip_append_cons hb' (not_isBlank_of_isStart hc)
  refine ⟨fun r' hr' => ?_, fun r' hr' => ?_⟩ <;>
    simp only [List.cons_append, List.append_assoc, Json.entries, hquoted, hcolon, hnext, hvalue, hr']

theorem entries_succ (ih : Reads limit fuel) {es done : Table Value} (h : SpellsEntries limit es s)
    (hfuel : s.length < fuel + 1) :
    Json.entries limit (fuel + 1) done (s ++ r) = .ok (.table (done.putAll es), r) := by
  cases h with
  | @last k v s t b hk h hb =>
    simp only [List.length_append, List.length_cons] at hfuel
    have hvalue := ih.value h (by omega)
      (endsNumber_blanks_append hb (endsNumber_cons (c := '}') (r := r) (by decide)))
    have hclose : skip (b ++ '}' :: r) = '}' :: r := skip_append_cons hb (by decide)
    obtain ⟨c, u, rfl, hc⟩ := h.head
    have hentries := (entries_of_isKey done hk ⟨c, _, rfl, hc⟩ hvalue).2 r hclose
    simpa [Table.putAll] using hentries
  | @more k v es s t b b' u hk h hb hb' hs =>
    simp only [List.length_append, List.length_cons] at hfuel
    have hvalue := ih.value h (by omega)
      (endsNumber_blanks_append hb (endsNumber_cons (c := ',') (r := b' ++ (u ++ r)) (by decide)))
    have hcomma : skip (b ++ ',' :: (b' ++ (u ++ r))) = ',' :: (b' ++ (u ++ r)) :=
      skip_append_cons hb (by decide)
    have hnext : skip (b' ++ (u ++ r)) = u ++ r := by
      obtain ⟨t, rfl⟩ := hs.head
      exact skip_append_cons hb' (by decide)
    obtain ⟨c, w, rfl, hc⟩ := h.head
    have hentries := (entries_of_isKey done hk ⟨c, _, rfl, hc⟩ hvalue).1 _ hcomma
    rw [hnext, ih.entries hs (show u.length < fuel by omega)] at hentries
    simpa [Table.putAll_cons] using hentries

end Reads

/-- A text is read with as many steps as it has characters, and one more. -/
theorem reads (fuel : Nat) : Reads limit fuel := by
  induction fuel with
  | zero =>
    exact ⟨fun _ hfuel => absurd hfuel (Nat.not_lt_zero _),
      fun _ hfuel => absurd hfuel (Nat.not_lt_zero _), fun _ hfuel => absurd hfuel (Nat.not_lt_zero _)⟩
  | succ fuel ih => exact ⟨ih.value_succ, ih.items_succ, ih.entries_succ⟩

/-- **The reader reads every JSON text** as the value that it spells. -/
theorem parse_of_isTextOf (h : IsTextOf limit v s) : parse limit s = .ok v := by
  obtain ⟨b, t, b', hb, ht, hb', rfl⟩ := h
  have hend : EndsNumber b' := by
    have hnil : EndsNumber [] := fun c hc => absurd hc (Option.not_mem_none c)
    simpa using endsNumber_blanks_append hb' hnil
  have hlength : t.length < (b ++ (t ++ b')).length + 1 := by
    simp only [List.length_append]
    omega
  have hvalue := (reads _).value ht hlength hend
  have hskip : skip (b ++ (t ++ b')) = t ++ b' := by
    obtain ⟨c, t, rfl, hc⟩ := ht.head
    exact skip_append_cons hb (not_isBlank_of_isStart hc)
  have hrest : skip b' = [] := List.dropWhile_eq_nil_iff.mpr hb'
  simp only [parse, hskip, hvalue, hrest]
  rfl

theorem IsTextOf.unique {w : Value} (h : IsTextOf limit v s) (h' : IsTextOf limit w s) : v = w :=
  Except.ok.inj ((parse_of_isTextOf h).symm.trans (parse_of_isTextOf h'))

end Daihon.Json
