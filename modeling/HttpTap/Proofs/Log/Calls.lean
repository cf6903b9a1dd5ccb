import HttpTap.Log.Setup
import Mathlib.Data.List.Basic

/-!
# Calls that set up the log

The log is set up by calls, some of which fail, and in between others may put handlers of their own
on the channel.  An `Event` is one such step, and `Setup.after` carries out a row of them.

## The handlers

The channel holds the handlers of others in the order in which they came, and among them one handler
of the library at the most: the one of the latest `configure`, in the place where it was put
(`Setup.single_handler`).  What carries this through a row of events is `Setup.foreign`, the
handlers on the channel without the one that the library remembers.  `configure` may take that one
off by its number because no number is given twice (`Setup.Numbered`).

## The level

A call that succeeds makes the threshold the number of its level, and a call that fails changes
neither of the two.

## Calls that fail

`setLevel` looks at the level first and changes nothing if it fails.  `configure` looks at it last.
So a call that fails leaves everything as it was exactly if it is no `configure`
(`Setup.unchanged_iff_of_error`).
-/

namespace HttpTap
namespace Log

/-- Somebody else puts a handler on the channel. -/
def Setup.join (format : String) (s : Setup) : Setup :=
  { s with handlers := s.handlers ++ [⟨s.nextObject, format⟩], nextObject := s.nextObject + 1 }

/-- What happens to the log. -/
inductive Event where
  | configure (level lead : Value)
  | setLevel (level : Value)
  /-- A handler of somebody else. -/
  | join (format : String)

namespace Event

/-- What comes of an event. -/
def on (s : Setup) : Event → Except Fault Unit × Setup
  | configure level lead => s.configure level lead
  | setLevel level => s.setLevel level
  | join format => (.ok (), s.join format)

/-- Is it a call of `configure`? -/
def Configures : Event → Prop
  | configure .. => True
  | _ => False

/-- Is it a call that sets the level? -/
def Sets : Event → Prop
  | join _ => False
  | _ => True

/-- The handler of somebody else that comes with the event. -/
def arrival (s : Setup) : Event → List Handler
  | join format => [⟨s.nextObject, format⟩]
  | _ => []

end Event

namespace Setup

variable {s t : Setup} {e : Event} {f : Fault}

/-- The log after some events. -/
def after (s : Setup) (es : List Event) : Setup := es.foldl (fun s e => (e.on s).2) s

/-- The handlers of others that come with some events. -/
def joined (s : Setup) : List Event → List Handler
  | [] => []
  | e :: es => e.arrival s ++ (e.on s).2.joined es

/-- The handlers on the channel without the one that the library remembers. -/
def foreign (s : Setup) : List Handler :=
  match s.own with
  | some h => s.handlers.filter (·.object != h.object)
  | none => s.handlers

/-- The handlers are the same, and so is what concerns them. -/
structure SameHandlers (s t : Setup) : Prop where
  handlers : t.handlers = s.handlers
  own : t.own = s.own
  goesOn : t.goesOn = s.goesOn
  nextObject : t.nextObject = s.nextObject

/-- The level is the same, and so is the threshold. -/
structure SameLevel (s t : Setup) : Prop where
  level : t.level = s.level
  threshold : t.threshold = s.threshold

/-- The threshold is the number of the level. -/
def Agrees (s : Setup) : Prop := s.threshold = s.level.threshold

/-! ## One call -/

/-- Setting the level succeeds and sets it, or fails and changes nothing. -/
theorem setLevel_cases (v : Value) (s : Setup) :
    (∃ l, loudness v = .ok l ∧
        s.setLevel v = (.ok (), { s with level := l, threshold := l.threshold })) ∨
      ∃ f, loudness v = .error f ∧ s.setLevel v = (.error f, s) := by
  cases h : loudness v with
  | ok l => exact .inl ⟨l, rfl, by rw [setLevel, h]⟩
  | error f => exact .inr ⟨f, rfl, by rw [setLevel, h]⟩

/-- Setting up replaces the handler and then sets the level, or makes a handler that is never put
anywhere. -/
theorem configure_cases (level lead : Value) (s : Setup) :
    (∃ text, lead.display? = some text ∧
        s.configure level lead = (s.replaceHandler (formatOf text)).setLevel level) ∨
      lead.display? = none ∧ s.configure level lead = (.error .numeralTooLong, s.dropHandler) := by
  cases h : lead.display? with
  | some text => exact .inl ⟨text, rfl, by rw [configure, h]⟩
  | none => exact .inr ⟨rfl, by rw [configure, h]⟩

theorem sameHandlers_setLevel (v : Value) (s : Setup) : s.SameHandlers (s.setLevel v).2 := by
  rcases setLevel_cases v s with ⟨l, -, result⟩ | ⟨f, -, result⟩ <;>
    (rw [result]; exact ⟨rfl, rfl, rfl, rfl⟩)

theorem sameLevel_replaceHandler (format : String) (s : Setup) :
    s.SameLevel (s.replaceHandler format) := by
  rw [replaceHandler]
  cases s.own <;> exact ⟨rfl, rfl⟩

theorem sameLevel_dropHandler (s : Setup) : s.SameLevel s.dropHandler := by
  rw [dropHandler]
  cases s.own <;> exact ⟨rfl, rfl⟩

theorem handlers_replaceHandler (format : String) (s : Setup) :
    (s.replaceHandler format).handlers = s.foreign ++ [⟨s.nextObject, format⟩] := by
  rw [replaceHandler, foreign]
  cases s.own <;> rfl

theorem handlers_dropHandler (s : Setup) : s.dropHandler.handlers = s.foreign := by
  rw [dropHandler, foreign]
  cases s.own <;> rfl

/-- The handler that `configure` leaves on the channel. -/
def leftBy (lead : Value) (s : Setup) : Option Handler :=
  lead.display?.map fun text => ⟨s.nextObject, formatOf text⟩

/-- After `configure` the channel holds the handlers of others and the one that was put there. -/
theorem handlers_configure (level lead : Value) (s : Setup) :
    (s.configure level lead).2.handlers = s.foreign ++ (s.leftBy lead).toList := by
  rcases configure_cases level lead s with ⟨text, shown, result⟩ | ⟨hidden, result⟩
  · rw [result, (sameHandlers_setLevel level _).handlers, handlers_replaceHandler, leftBy, shown]
    rfl
  · rw [result, handlers_dropHandler, leftBy, hidden]
    exact (List.append_nil _).symm

/-- The handler that `configure` remembers has a new number. -/
theorem exists_own_configure (level lead : Value) (s : Setup) :
    ∃ h, (s.configure level lead).2.own = some h ∧ h.object = s.nextObject ∧
      (s.configure level lead).2.nextObject = s.nextObject + 1 := by
  rcases configure_cases level lead s with ⟨text, -, result⟩ | ⟨-, result⟩
  · have same := sameHandlers_setLevel level (s.replaceHandler (formatOf text))
    exact ⟨⟨s.nextObject, formatOf text⟩, by rw [result, same.own]; rfl, rfl,
      by rw [result, same.nextObject]; rfl⟩
  · exact ⟨⟨s.nextObject, ""⟩, by rw [result]; rfl, rfl, by rw [result]; rfl⟩

/-! ## Numbers -/

/-- The handlers have numbers below `n`, and no two of them the same. -/
structure Apart (n : Nat) (ks : List Handler) : Prop where
  below : ∀ k ∈ ks, k.object < n
  apart : ks.Pairwise fun h k => h.object ≠ k.object

namespace Apart

variable {n : Nat} {ks ks' : List Handler}

theorem sublist (h : Apart n ks) (sub : ks'.Sublist ks) : Apart n ks' :=
  ⟨fun k hk => h.below k (sub.subset hk), h.apart.sublist sub⟩

theorem succ (h : Apart n ks) : Apart (n + 1) ks :=
  ⟨fun k hk => Nat.lt_succ_of_lt (h.below k hk), h.apart⟩

/-- A handler with the next number is none of them. -/
theorem snoc (h : Apart n ks) (format : String) : Apart (n + 1) (ks ++ [⟨n, format⟩]) := by
  refine ⟨fun k hk => ?_, ?_⟩
  · rcases List.mem_append.1 hk with hk | hk
    · exact h.succ.below k hk
    · rw [List.mem_singleton.1 hk]
      exact Nat.lt_succ_self n
  · refine List.pairwise_append.2 ⟨h.apart, List.pairwise_singleton _ _, ?_⟩
    intro k hk l hl
    rw [List.mem_singleton.1 hl]
    exact Nat.ne_of_lt (h.below k hk)

theorem filter_next (h : Apart n ks) : ks.filter (·.object != n) = ks := by
  refine List.filter_eq_self.2 fun k hk => ?_
  have := h.below k hk
  exact bne_iff_ne.2 (by omega)

end Apart

/-- No number is given twice. -/
structure Numbered (s : Setup) : Prop where
  handlers : Apart s.nextObject s.handlers
  own : ∀ h, s.own = some h → h.object < s.nextObject

theorem foreign_sublist (s : Setup) : s.foreign.Sublist s.handlers := by
  rw [foreign]
  cases s.own with
  | none => exact List.Sublist.refl _
  | some h => exact List.filter_sublist

theorem Numbered.foreign (h : s.Numbered) : Apart s.nextObject s.foreign :=
  h.handlers.sublist (foreign_sublist s)

theorem numbered_start : start.Numbered :=
  ⟨⟨fun _ h => absurd h List.not_mem_nil, List.Pairwise.nil⟩, fun _ h => absurd h (by simp [start])⟩

/-- An event gives no number twice. -/
theorem numbered_on (h : s.Numbered) (e : Event) : (e.on s).2.Numbered := by
  cases e with
  | join format => exact ⟨h.handlers.snoc format, fun k hk => Nat.lt_succ_of_lt (h.own k hk)⟩
  | setLevel level =>
    have same := sameHandlers_setLevel level s
    show (s.setLevel level).2.Numbered
    refine ⟨?_, ?_⟩
    · rw [same.handlers, same.nextObject]
      exact h.handlers
    · rw [same.own, same.nextObject]
      exact h.own
  | configure level lead =>
    show (s.configure level lead).2.Numbered
    obtain ⟨k, own, number, next⟩ := exists_own_configure level lead s
    refine ⟨?_, ?_⟩
    · rw [handlers_configure level lead s, next]
      cases left : s.leftBy lead with
      | none =>
        rw [Option.toList_none, List.append_nil]
        exact h.foreign.succ
      | some j =>
        obtain ⟨text, -, rfl⟩ := Option.map_eq_some_iff.1 left
        exact h.foreign.snoc (formatOf text)
    · intro j hj
      obtain rfl : k = j := Option.some.inj (own.symm.trans hj)
      rw [number, next]
      exact Nat.lt_succ_self _

/-! ## The handlers of others -/

/-- Of the handlers of others none is lost by an event, and none is added but the one that comes
with it. -/
theorem foreign_on (h : s.Numbered) (e : Event) :
    (e.on s).2.foreign = s.foreign ++ e.arrival s := by
  cases e with
  | setLevel level =>
    have same := sameHandlers_setLevel level s
    show (s.setLevel level).2.foreign = s.foreign ++ []
    rw [foreign, same.own, same.handlers, List.append_nil]
    rfl
  | join format =>
    show (s.join format).foreign = s.foreign ++ [⟨s.nextObject, format⟩]
    cases own : s.own with
    | none => simp only [foreign, join, own]
    | some k =>
      have older := h.own k own
      have new : (s.nextObject != k.object) = true := bne_iff_ne.2 (by omega)
      simp only [foreign, join, own, List.filter_append, List.filter_cons, new, if_true,
        List.filter_nil]
  | configure level lead =>
    show (s.configure level lead).2.foreign = s.foreign ++ []
    obtain ⟨k, own, number, -⟩ := exists_own_configure level lead s
    have old := h.foreign.filter_next
    have gone : (s.leftBy lead).toList.filter (·.object != s.nextObject) = [] := by
      refine List.filter_eq_nil_iff.2 fun j hj => ?_
      obtain ⟨text, -, rfl⟩ := Option.map_eq_some_iff.1 (Option.mem_toList.1 hj)
      simp
    rw [foreign, own]
    simp only [number, handlers_configure, List.filter_append, old, gone]

/-! ## A row of events -/

theorem after_append (s : Setup) (es es' : List Event) :
    s.after (es ++ es') = (s.after es).after es' := List.foldl_append

theorem after_cons (s : Setup) (e : Event) (es : List Event) :
    s.after (e :: es) = (e.on s).2.after es := rfl

theorem numbered_after (h : s.Numbered) (es : List Event) : (s.after es).Numbered := by
  induction es generalizing s with
  | nil => exact h
  | cons e es ih => exact ih (numbered_on h e)

theorem foreign_after (h : s.Numbered) (es : List Event) :
    (s.after es).foreign = s.foreign ++ s.joined es := by
  induction es generalizing s with
  | nil => exact (List.append_nil _).symm
  | cons e es ih =>
    rw [after_cons, ih (numbered_on h e), foreign_on h e, joined, List.append_assoc]

/-- What is not from the library are the handlers that others put there. -/
theorem foreign_eq_joined (es : List Event) : (start.after es).foreign = start.joined es :=
  foreign_after numbered_start es

/-- As long as nobody calls `configure`, handlers are only added. -/
theorem handlers_after (s : Setup) {es : List Event} (quiet : ∀ e ∈ es, ¬ e.Configures) :
    (s.after es).handlers = s.handlers ++ s.joined es := by
  induction es generalizing s with
  | nil => exact (List.append_nil _).symm
  | cons e es ih =>
    have step : (e.on s).2.handlers = s.handlers ++ e.arrival s := by
      cases e with
      | configure level lead => exact absurd trivial (quiet _ List.mem_cons_self)
      | setLevel level =>
        exact (sameHandlers_setLevel level s).handlers.trans (List.append_nil _).symm
      | join format => rfl
    rw [after_cons, ih _ fun e' he' => quiet e' (List.mem_cons_of_mem _ he'), step, joined,
      List.append_assoc]

/-! ## The level -/

/-- Setting the level makes level and threshold agree if it succeeds, and keeps both if it fails. -/
theorem level_setLevel (v : Value) (s : Setup) :
    ((s.setLevel v).1 = .ok () ∧ (s.setLevel v).2.Agrees) ∨
      ∃ f, (s.setLevel v).1 = .error f ∧ s.SameLevel (s.setLevel v).2 := by
  rcases setLevel_cases v s with ⟨l, -, result⟩ | ⟨f, -, result⟩
  · exact .inl (by rw [result]; exact ⟨rfl, rfl⟩)
  · exact .inr ⟨f, by rw [result], by rw [result]; exact ⟨rfl, rfl⟩⟩

/-- Setting up does the same to them, though the handler may have been replaced. -/
theorem level_configure (level lead : Value) (s : Setup) :
    ((s.configure level lead).1 = .ok () ∧ (s.configure level lead).2.Agrees) ∨
      ∃ f, (s.configure level lead).1 = .error f ∧ s.SameLevel (s.configure level lead).2 := by
  rcases configure_cases level lead s with ⟨text, -, result⟩ | ⟨-, result⟩
  · have kept := sameLevel_replaceHandler (formatOf text) s
    rw [result]
    rcases level_setLevel level (s.replaceHandler (formatOf text)) with done | ⟨f, failed, same⟩
    · exact .inl done
    · exact .inr ⟨f, failed, same.level.trans kept.level, same.threshold.trans kept.threshold⟩
  · rw [result]
    exact .inr ⟨_, rfl, sameLevel_dropHandler s⟩

/-- A call that sets the level does so or fails. -/
theorem level_on (sets : e.Sets) (s : Setup) :
    ((e.on s).1 = .ok () ∧ (e.on s).2.Agrees) ∨
      ∃ f, (e.on s).1 = .error f ∧ s.SameLevel (e.on s).2 := by
  cases e with
  | join format => exact absurd sets id
  | setLevel level => exact level_setLevel level s
  | configure level lead => exact level_configure level lead s

/-- Once level and threshold agree they do so after every event. -/
theorem Agrees.on (h : s.Agrees) (e : Event) : (e.on s).2.Agrees := by
  by_cases sets : e.Sets
  · rcases level_on sets s with ⟨-, agrees⟩ | ⟨f, -, same⟩
    · exact agrees
    · rw [Agrees, same.level, same.threshold]
      exact h
  · cases e with
    | join format => exact h
    | configure level lead => exact absurd trivial sets
    | setLevel level => exact absurd trivial sets

theorem Agrees.after (h : s.Agrees) (es : List Event) : (s.after es).Agrees := by
  induction es generalizing s with
  | nil => exact h
  | cons e es ih => exact ih (h.on e)

/-! ## Whole histories -/

/-- However the log was set up, and whatever failed: no two handlers on the channel are the same
one; they are the handlers of others, in the order in which they came, and in between the one
handler of the latest `configure`; and from the first call on that succeeded the threshold is the
number of the level. -/
theorem single_handler :
    (∀ es, (start.after es).handlers.Pairwise fun h k => h.object ≠ k.object) ∧
    (∀ es, (∀ e ∈ es, ¬ e.Configures) → (start.after es).handlers = start.joined es) ∧
    (∀ before level lead es, (∀ e ∈ es, ¬ e.Configures) →
      (start.after (before ++ .configure level lead :: es)).handlers =
        start.joined before ++ ((start.after before).leftBy lead).toList ++
          ((start.after before).configure level lead).2.joined es) ∧
    ∀ before (e : Event) es, e.Sets → (e.on (start.after before)).1 = .ok () →
      (start.after (before ++ e :: es)).threshold =
        (start.after (before ++ e :: es)).level.threshold := by
  refine ⟨?_, ?_, ?_, ?_⟩
  · exact fun es => (numbered_after numbered_start es).handlers.apart
  · exact fun es quiet => handlers_after start quiet
  · intro before level lead es quiet
    rw [after_append, after_cons, handlers_after _ quiet]
    show ((start.after before).configure level lead).2.handlers ++ _ = _
    rw [handlers_configure, foreign_eq_joined]
    rfl
  · intro before e es sets succeeds
    rw [after_append, after_cons]
    rcases level_on sets (start.after before) with ⟨-, agrees⟩ | ⟨f, fails, -⟩
    · exact agrees.after es
    · rw [fails] at succeeds
      exact absurd succeeds (by simp)

/-- A handler of somebody else, a call that succeeds, one that fails, and another level. -/
theorem single_handler_again :
    (start.after ([.join "%(message)s", .configure (.text "warn") (.text "Old")] ++
        .configure (.text "loud") (.text "New") :: [.setLevel (.text "debug")])).handlers =
      [⟨0, "%(message)s"⟩, ⟨2, formatOf "New"⟩] ∧
    (start.after ([.join "%(message)s"] ++ .configure (.text "warn") (.text "Old") ::
        [.configure (.text "loud") (.text "New")])).threshold =
      (start.after ([.join "%(message)s"] ++ .configure (.text "warn") (.text "Old") ::
        [.configure (.text "loud") (.text "New")])).level.threshold := by
  refine ⟨?_, ?_⟩
  · have quiet : ∀ e ∈ [Event.setLevel (.text "debug")], ¬ e.Configures := by
      intro e he
      rw [List.mem_singleton.1 he]
      exact id
    exact (single_handler.2.2.1 _ _ _ _ quiet).trans (by decide +kernel)
  · have succeeds : ((Event.configure (.text "warn") (.text "Old")).on
        (start.after [.join "%(message)s"])).1 = .ok () := by decide +kernel
    exact single_handler.2.2.2 _ _ _ trivial succeeds

/-! ## Calls that fail -/

/-- All that a call may change is as it was. -/
structure Unchanged (s t : Setup) : Prop where
  handlers : t.handlers = s.handlers
  own : t.own = s.own
  goesOn : t.goesOn = s.goesOn
  threshold : t.threshold = s.threshold
  level : t.level = s.level

/-- What `configure` remembers is new. -/
theorem not_unchanged_configure (h : s.Numbered) (level lead : Value) :
    ¬ s.Unchanged (s.configure level lead).2 := by
  intro same
  obtain ⟨k, own, number, -⟩ := exists_own_configure level lead s
  have older := h.own k (same.own.symm.trans own)
  omega

/-- With a prefix that can be written the new handler is in place, and lines do not go on. -/
theorem own_configure {lead : Value} {text : String} (shown : lead.display? = some text)
    (level : Value) (s : Setup) :
    (s.configure level lead).2.own = s.leftBy lead ∧ (s.configure level lead).2.goesOn = false := by
  have same := sameHandlers_setLevel level (s.replaceHandler (formatOf text))
  rw [leftBy, configure, shown]
  exact ⟨same.own, same.goesOn⟩

/-- Whatever happened before, a call that fails leaves everything as it was exactly if it is no
`configure`.  The level and the threshold stay in any case.  A `configure` that fails has put its
handler in the place of the one before, and lines no longer go on. -/
theorem unchanged_iff_of_error (before : List Event) (e : Event) (f : Fault)
    (failed : (e.on (start.after before)).1 = .error f) :
    ((start.after before).Unchanged (e.on (start.after before)).2 ↔ ¬ e.Configures) ∧
    (start.after before).SameLevel (e.on (start.after before)).2 ∧
    ∀ level lead, e = .configure level lead →
      (e.on (start.after before)).2.handlers =
        start.joined before ++ ((start.after before).leftBy lead).toList ∧
      ∀ text, lead.display? = some text →
        (e.on (start.after before)).2.own = (start.after before).leftBy lead ∧
          (e.on (start.after before)).2.goesOn = false := by
  have numbered := numbered_after numbered_start before
  set s := start.after before with hs
  have sets : e.Sets := by
    cases e with
    | join format => exact absurd failed (by simp [Event.on])
    | configure level lead => trivial
    | setLevel level => trivial
  have level : s.SameLevel (e.on s).2 := by
    rcases level_on sets s with ⟨succeeded, -⟩ | ⟨f, -, same⟩
    · rw [succeeded] at failed
      exact absurd failed (by simp)
    · exact same
  refine ⟨?_, level, ?_⟩
  · cases e with
    | join format => exact absurd sets id
    | configure v lead =>
      exact iff_of_false (not_unchanged_configure numbered v lead) fun no => no trivial
    | setLevel v =>
      have same := sameHandlers_setLevel v s
      exact iff_of_true ⟨same.handlers, same.own, same.goesOn, level.threshold, level.level⟩ id
  · rintro v lead rfl
    refine ⟨?_, fun text shown => own_configure shown v s⟩
    rw [← foreign_eq_joined, ← hs]
    exact handlers_configure v lead s

/-- A second `configure` with a word that is no level. -/
theorem unchanged_iff_of_error_loud :
    ¬ (start.after [.configure (.text "info") (.text "Old")]).Unchanged
      ((Event.configure (.text "loud") (.text "New")).on
        (start.after [.configure (.text "info") (.text "Old")])).2 := by
  intro same
  have failed : ((Event.configure (.text "loud") (.text "New")).on
      (start.after [.configure (.text "info") (.text "Old")])).1 =
        .error (.unknownLevel "'loud'") := by decide +kernel
  exact (unchanged_iff_of_error _ _ _ failed).1.1 same trivial

/-- Not every call that fails leaves everything as it was. -/
theorem not_unchanged_of_error : ¬ ∀ (before : List Event) (e : Event) (f : Fault),
    (e.on (start.after before)).1 = .error f →
      (start.after before).Unchanged (e.on (start.after before)).2 := by
  intro atomic
  have failed : ((Event.configure (.text "loud") (.text "New")).on
      (start.after [.configure (.text "info") (.text "Old")])).1 =
        .error (.unknownLevel "'loud'") := by decide +kernel
  have same := (atomic _ _ _ failed).handlers
  exact absurd same (by decide +kernel)

end Setup
end Log
end HttpTap
