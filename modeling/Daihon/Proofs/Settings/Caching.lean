import Daihon.Settings.Session
import Mathlib.Data.List.DropRight

/-!
# The global settings over a session

The settings that a session keeps are hidden: they depend on everything that was done before.  Here they
are said outright.  Only what was done since the settings were last forgotten counts; of that, the last
settings that were set, or if none were set, what the first load that succeeded found in the surroundings
of its moment (`governing`).

* `cache_apply` says what one operation makes of the kept settings, and `governing_concat` what it makes of
  the settings that govern;
* `cache_after` puts the two together for any row of operations, and `cache_coherent` says what is answered
  on the way.
-/

namespace Daihon

/-! ## Operations -/

/-- What is done to a session, and what happens around it. -/
inductive Session.Operation where
  /-- The global settings are asked for. -/
  | get
  | set (settings : Loaded)
  | clear
  | reset
  /-- The settings of a command are asked for. -/
  | command (config : Option Path) (overrides : Table Value)
  /-- The environment, the files and the directories are no longer what they were. -/
  | change (surroundings : Surroundings)

namespace Session.Operation

/-- The session after an operation. -/
def apply (s : Session) : Operation → Session
  | get => s.global.session
  | set l => s.set l
  | clear => s.clear
  | reset => s.reset
  | command config overrides => (s.forCommand config overrides).session
  | change w => { s with surroundings := w }

/-- The surroundings after an operation: no operation but a change touches them. -/
def around (w : Surroundings) : Operation → Surroundings
  | change w' => w'
  | _ => w

/-- Whether an operation forgets the global settings. -/
def forgets : Operation → Bool
  | clear | reset => true
  | _ => false

/-- The settings that an operation sets. -/
def settings? : Operation → Option Loaded
  | set l => some l
  | _ => none

/-- Whether an operation needs the global settings. -/
def needsSettings : Operation → Bool
  | get | command none _ => true
  | _ => false

/-- What an operation that needs the global settings loads from the surroundings `w`. -/
def loaded? (w : Surroundings) (op : Operation) : Option Loaded :=
  if op.needsSettings then (Loaded.standard w).1.toOption else none

end Session.Operation

namespace Session

/-- The session after a row of operations. -/
def after (s : Session) (ops : List Operation) : Session :=
  ops.foldl Operation.apply s

/-- The surroundings after a row of operations. -/
def aroundAfter (w : Surroundings) (ops : List Operation) : Surroundings :=
  ops.foldl Operation.around w

/-- The operations of a session, each with the surroundings in which it is done. -/
def history (w : Surroundings) : List Operation → List (Surroundings × Operation)
  | [] => []
  | op :: ops => (w, op) :: history (op.around w) ops

/-- What was done since the global settings were last forgotten, or since the start. -/
def recent (w : Surroundings) (ops : List Operation) : List (Surroundings × Operation) :=
  (history w ops).rtakeWhile fun e => !e.2.forgets

/-- The settings that were set last among `es`. -/
def lastSet? (es : List (Surroundings × Operation)) : Option Loaded :=
  es.reverse.findSome? fun e => e.2.settings?

/-- What the first load among `es` that succeeds finds. -/
def firstLoaded? (es : List (Surroundings × Operation)) : Option Loaded :=
  es.findSome? fun e => e.2.loaded? e.1

/-- The settings that govern after a row of operations in a session that begins without any: of what was
done since they were last forgotten, those set last, or else those of the first load that succeeded. -/
def governing (w : Surroundings) (ops : List Operation) : Option Loaded :=
  (lastSet? (recent w ops)).or (firstLoaded? (recent w ops))

/-! ## One operation -/

/-- What an operation in the surroundings `w` makes of the settings that are kept. -/
def Operation.keeps (w : Surroundings) (kept : Option Loaded) (op : Operation) : Option Loaded :=
  if op.forgets then none else op.settings?.or (kept.or (op.loaded? w))

theorem global_of_cache {s : Session} {held : Held} (h : s.cache = some held) :
    s.global = ⟨.ok held, s, []⟩ := by
  simp only [global, h]

theorem global_of_error {s : Session} {e : Failure} {notices : List Notice} (h : s.cache = none)
    (hl : Loaded.standard s.surroundings = (.error e, notices)) :
    s.global = ⟨.error e, s, notices⟩ := by
  simp only [global, h, hl, holding]

theorem global_of_ok {s : Session} {l : Loaded} {notices : List Notice} (h : s.cache = none)
    (hl : Loaded.standard s.surroundings = (.ok l, notices)) :
    s.global =
      ⟨.ok ⟨s.next, l⟩, { s with next := s.next + 1, cache := some ⟨s.next, l⟩ }, notices⟩ := by
  simp only [global, h, hl, holding, hold]

/-- Asking for the global settings keeps what is kept, or else what is loaded. -/
theorem cache_global (s : Session) :
    s.global.session.cache.map Held.loaded =
      (s.cache.map Held.loaded).or (Loaded.standard s.surroundings).1.toOption := by
  cases hc : s.cache with
  | some held =>
    rw [global_of_cache hc]
    simp only [hc, Option.map_some, Option.some_or]
  | none =>
    rcases hl : Loaded.standard s.surroundings with ⟨e | l, notices⟩
    · rw [global_of_error hc hl]
      simp only [hc, Option.map_none, Option.none_or, Except.toOption]
    · rw [global_of_ok hc hl]
      simp only [Option.map_some, Option.map_none, Option.none_or, Except.toOption]

/-- The settings that are asked for are the ones that are kept from then on. -/
theorem cache_of_global_eq_ok {s : Session} {held : Held} (h : s.global.answer = .ok held) :
    s.global.session.cache = some held := by
  cases hc : s.cache with
  | some held' =>
    rw [global_of_cache hc] at h ⊢
    cases h
    exact hc
  | none =>
    rcases hl : Loaded.standard s.surroundings with ⟨e | l, notices⟩
    · rw [global_of_error hc hl] at h
      cases h
    · rw [global_of_ok hc hl] at h ⊢
      cases h
      rfl

/-- Global settings that cannot be had were not kept, and are not afterwards. -/
theorem cache_of_global_eq_error {s : Session} {e : Failure} (h : s.global.answer = .error e) :
    s.cache = none ∧ s.global.session = s ∧ (Loaded.standard s.surroundings).1 = .error e := by
  cases hc : s.cache with
  | some held =>
    rw [global_of_cache hc] at h
    cases h
  | none =>
    rcases hl : Loaded.standard s.surroundings with ⟨e' | l, notices⟩
    · rw [global_of_error hc hl] at h ⊢
      cases h
      exact ⟨rfl, rfl, rfl⟩
    · rw [global_of_ok hc hl] at h
      cases h

theorem answer_global_of_cache {s : Session} (h : s.cache = none) :
    s.global.answer.map Held.loaded = (Loaded.standard s.surroundings).1 := by
  rcases hl : Loaded.standard s.surroundings with ⟨e | l, notices⟩
  · rw [global_of_error h hl]
    rfl
  · rw [global_of_ok h hl]
    rfl

theorem answer_holding (s : Session) (result : Except Failure Loaded × List Notice) :
    (s.holding result).answer.map Held.loaded = result.1 := by
  rcases result with ⟨e | l, notices⟩ <;> rfl

@[simp] theorem cache_holding (s : Session) (result : Except Failure Loaded × List Notice) :
    (s.holding result).session.cache = s.cache := by
  rcases result with ⟨e | l, notices⟩ <;> rfl

@[simp] theorem surroundings_holding (s : Session) (result : Except Failure Loaded × List Notice) :
    (s.holding result).session.surroundings = s.surroundings := by
  rcases result with ⟨e | l, notices⟩ <;> rfl

/-- A command with a configuration file of its own leaves the global settings as they are. -/
theorem cache_forCommand_some (s : Session) (path : Path) (overrides : Table Value) :
    (s.forCommand (some path) overrides).session.cache = s.cache :=
  cache_holding s _

/-- A command with a configuration file of its own does not look at the global settings. -/
theorem answer_forCommand_some (s : Session) (path : Path) (overrides : Table Value)
    (cache : Option Held) :
    ({ s with cache }.forCommand (some path) overrides).answer =
      (s.forCommand (some path) overrides).answer := by
  simp only [forCommand]
  rcases Loaded.fromNamedFile s.surroundings path overrides with ⟨e | l, notices⟩ <;> rfl

/-- A command without a configuration file keeps what asking for the global settings keeps, whatever is
overridden and whatever comes of it. -/
theorem cache_forCommand_none (s : Session) (overrides : Table Value) :
    (s.forCommand none overrides).session.cache = s.global.session.cache := by
  rcases h : s.global with ⟨e | held, t, notices⟩
  · simp only [forCommand, h]
  · simp only [forCommand, h]
    by_cases he : (Layer.withoutNull overrides).isEmpty
    · rw [if_pos he]
    · rw [if_neg he]
      exact cache_holding t _

theorem cache_apply (s : Session) (op : Operation) :
    (op.apply s).cache.map Held.loaded = op.keeps s.surroundings (s.cache.map Held.loaded) := by
  cases op with
  | get => exact cache_global s
  | set l => rfl
  | clear => rfl
  | reset => rfl
  | command config overrides =>
    cases config with
    | none =>
      show (s.forCommand none overrides).session.cache.map _ = _
      rw [cache_forCommand_none]
      exact cache_global s
    | some path =>
      show (s.forCommand (some path) overrides).session.cache.map _ = _
      rw [cache_forCommand_some]
      exact Option.or_none.symm
  | change w => exact Option.or_none.symm

@[simp] theorem surroundings_global (s : Session) : s.global.session.surroundings = s.surroundings := by
  cases hc : s.cache with
  | some held => rw [global_of_cache hc]
  | none =>
    rcases hl : Loaded.standard s.surroundings with ⟨e | l, notices⟩
    · rw [global_of_error hc hl]
    · rw [global_of_ok hc hl]

@[simp] theorem surroundings_forCommand (s : Session) (config : Option Path)
    (overrides : Table Value) :
    (s.forCommand config overrides).session.surroundings = s.surroundings := by
  cases config with
  | some path => exact surroundings_holding s _
  | none =>
    have hg := surroundings_global s
    rcases h : s.global with ⟨e | held, t, notices⟩
    · rw [h] at hg
      simp only [forCommand, h]
      exact hg
    · rw [h] at hg
      simp only [forCommand, h]
      by_cases he : (Layer.withoutNull overrides).isEmpty
      · rw [if_pos he]
        exact hg
      · rw [if_neg he]
        exact (surroundings_holding t _).trans hg

/-- No operation but a change touches the surroundings. -/
theorem surroundings_apply (s : Session) (op : Operation) :
    (op.apply s).surroundings = op.around s.surroundings := by
  cases op with
  | get => exact surroundings_global s
  | command config overrides => exact surroundings_forCommand s config overrides
  | set _ | clear | reset | change _ => rfl

/-! ## Rows of operations -/

theorem after_concat (s : Session) (ops : List Operation) (op : Operation) :
    s.after (ops ++ [op]) = op.apply (s.after ops) := by
  simp only [after, List.foldl_append, List.foldl_cons, List.foldl_nil]

theorem surroundings_after (s : Session) (ops : List Operation) :
    (s.after ops).surroundings = aroundAfter s.surroundings ops := by
  induction ops generalizing s with
  | nil => rfl
  | cons op ops ih =>
    show ((op.apply s).after ops).surroundings = aroundAfter (op.around s.surroundings) ops
    rw [ih, surroundings_apply]

theorem history_concat (w : Surroundings) (ops : List Operation) (op : Operation) :
    history w (ops ++ [op]) = history w ops ++ [(aroundAfter w ops, op)] := by
  induction ops generalizing w with
  | nil => rfl
  | cons op' ops ih =>
    show (w, op') :: history (op'.around w) (ops ++ [op]) = _
    rw [ih]
    rfl

theorem recent_concat_of_forgets (w : Surroundings) (ops : List Operation) {op : Operation}
    (h : op.forgets = true) : recent w (ops ++ [op]) = [] := by
  rw [recent, history_concat]
  apply List.rtakeWhile_concat_neg
  simp only [h, Bool.not_true, Bool.false_eq_true, not_false_eq_true]

theorem recent_concat_of_keeps (w : Surroundings) (ops : List Operation) {op : Operation}
    (h : op.forgets = false) :
    recent w (ops ++ [op]) = recent w ops ++ [(aroundAfter w ops, op)] := by
  rw [recent, history_concat]
  apply List.rtakeWhile_concat_pos
  simp only [h, Bool.not_false]

theorem lastSet?_concat (es : List (Surroundings × Operation)) (e : Surroundings × Operation) :
    lastSet? (es ++ [e]) = e.2.settings?.or (lastSet? es) := by
  rw [lastSet?, List.reverse_append, List.reverse_singleton, List.singleton_append,
    List.findSome?_cons]
  cases e.2.settings? <;> rfl

theorem firstLoaded?_concat (es : List (Surroundings × Operation)) (e : Surroundings × Operation) :
    firstLoaded? (es ++ [e]) = (firstLoaded? es).or (e.2.loaded? e.1) := by
  rw [firstLoaded?, List.findSome?_append, List.findSome?_singleton]
  rfl

/-- What one more operation makes of the settings that govern. -/
theorem governing_concat (w : Surroundings) (ops : List Operation) (op : Operation) :
    governing w (ops ++ [op]) = op.keeps (aroundAfter w ops) (governing w ops) := by
  cases h : op.forgets with
  | true =>
    rw [governing, recent_concat_of_forgets w ops h, Operation.keeps, if_pos h]
    rfl
  | false =>
    have hne : ¬ op.forgets = true := by simp only [h, Bool.false_eq_true, not_false_eq_true]
    rw [governing, recent_concat_of_keeps w ops h, lastSet?_concat, firstLoaded?_concat,
      Operation.keeps, if_neg hne, governing, Option.or_assoc, Option.or_assoc]

theorem cache_after {s : Session} (h : s.cache = none) (ops : List Operation) :
    (s.after ops).cache.map Held.loaded = governing s.surroundings ops := by
  induction ops using List.reverseRecOn with
  | nil => simp only [after, List.foldl_nil, h, Option.map_none]; rfl
  | append_singleton ops op ih =>
    rw [after_concat, cache_apply, ih, surroundings_after, governing_concat]

/-- The global settings over any row of operations.  Asking for them answers with the settings that govern
and keeps them; where they cannot be loaded nothing is kept, and they are loaded anew when they are asked
for again, whatever has changed by then.  A command with a configuration file of its own neither changes
the kept settings nor looks at them, and a command without one keeps what asking for the global settings
keeps. -/
theorem cache_coherent {s : Session} (h : s.cache = none) (ops : List Operation) :
    (∀ held, (s.after ops).global.answer = .ok held →
        governing s.surroundings (ops ++ [.get]) = some held.loaded ∧
          (s.after (ops ++ [.get])).cache = some held) ∧
      (∀ e, (s.after ops).global.answer = .error e →
        governing s.surroundings ops = none ∧
          (Loaded.standard (aroundAfter s.surroundings ops)).1 = .error e ∧
          (s.after (ops ++ [.get])).cache = none ∧
          ∀ w, (s.after (ops ++ [.get, .change w])).global.answer.map Held.loaded =
            (Loaded.standard w).1) ∧
      (∀ path overrides,
        (s.after (ops ++ [.command (some path) overrides])).cache = (s.after ops).cache ∧
          ∀ cache, ({ s.after ops with cache }.forCommand (some path) overrides).answer =
            ((s.after ops).forCommand (some path) overrides).answer) ∧
      ∀ overrides,
        (s.after (ops ++ [.command none overrides])).cache = (s.after (ops ++ [.get])).cache := by
  refine ⟨?_, ?_, ?_, ?_⟩
  · intro held hheld
    have hcache : (s.after (ops ++ [.get])).cache = some held := by
      rw [after_concat]
      exact cache_of_global_eq_ok hheld
    refine ⟨?_, hcache⟩
    rw [← cache_after h, hcache]
    rfl
  · intro e he
    obtain ⟨hcache, hsame, hload⟩ := cache_of_global_eq_error he
    have hget : s.after (ops ++ [.get]) = s.after ops := by
      rw [after_concat]
      exact hsame
    refine ⟨?_, ?_, hget ▸ hcache, ?_⟩
    · rw [← cache_after h, hcache]
      rfl
    · rw [← surroundings_after]
      exact hload
    · intro w
      have hsplit : ops ++ [.get, .change w] = (ops ++ [.get]) ++ [.change w] := by
        rw [List.append_assoc]
        rfl
      rw [hsplit, after_concat, hget]
      exact answer_global_of_cache hcache
  · intro path overrides
    constructor
    · rw [after_concat]
      exact cache_forCommand_some _ path overrides
    · intro cache
      exact answer_forCommand_some _ path overrides cache
  · intro overrides
    rw [after_concat, after_concat]
    exact cache_forCommand_none _ overrides

/-- Surroundings with one configuration file at a standard place. -/
def configured (text : String) : Surroundings where
  disk :=
    ⟨[(workDirectory, .directory), (homeDirectory, .directory),
      (["work", "vnscript.json"], .file (Encoding.Utf8.encode text.toList))]⟩
  environment := [(homeVariable, homeText)]

/-- Global settings that cannot be loaded at first are not kept.  A command loads them once the file is
mended; its overrides are not kept, and a later change of the file does not show. -/
theorem cache_coherent_configured :
    let s : Session := { surroundings := configured "\x7b" }
    let ops : List Operation :=
      [.get, .change (configured "\x7b\"bgm_track\": \"a\"\x7d"),
        .command none [("bgm_track", .text "b")], .change (configured "\x7b\"bgm_track\": \"c\"\x7d")]
    s.cache = none ∧
      (∃ e, s.global.answer = .error e ∧ (s.after [.get]).cache = none) ∧
      ∃ held, (s.after ops).global.answer = .ok held ∧ held.loaded.settings.bgmTrack = "a" ∧
        governing s.surroundings (ops ++ [.get]) = some held.loaded := by
  intro s ops
  have hcache : s.cache = none := rfl
  refine ⟨hcache, ?_, ?_⟩
  · have hfails : s.global.answer.isOk = false := by decide +kernel
    cases hanswer : s.global.answer with
    | error e => exact ⟨e, rfl, ((cache_coherent hcache []).2.1 e hanswer).2.2.1⟩
    | ok held =>
      rw [hanswer] at hfails
      cases hfails
  · have htrack : (s.after ops).global.answer.toOption.map (·.loaded.settings.bgmTrack) = some "a" := by
      decide +kernel
    cases hanswer : (s.after ops).global.answer with
    | error e =>
      rw [hanswer] at htrack
      cases htrack
    | ok held =>
      rw [hanswer] at htrack
      exact ⟨held, rfl, Option.some.inj htrack, ((cache_coherent hcache ops).1 held hanswer).1⟩

end Session

end Daihon
