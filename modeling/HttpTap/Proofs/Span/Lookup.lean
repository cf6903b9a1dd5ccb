import HttpTap.Proofs.Capture.BufferFirst

/-!
# What a span has been told under a key

A span is read back by its keys: `Span.attribute?` is the latest value under a key.  A span that has
not ended and does not fail takes every attribute (`Span.Listens`), so after a list of them the
latest in the list counts, and under the other keys nothing has changed
(`Span.attribute?_putAll`).

The end of a span and the status of a response touch one key between them, that of the status
(`keeps_closeSpan_attribute`).
-/

namespace HttpTap

namespace Span

/-- The latest value that the span was told under the key. -/
def attribute? (x : Span) (key : String) : Option Value :=
  match x with
  | .probe p => p.values.lookup key
  | .live s => s.attributes.lookup key

/-- The span takes the attributes that it is told. -/
def Listens : Span → Prop
  | .probe p => SpanMethod.setAttribute ∉ p.failing
  | .live s => s.ended = false

/-- The span after attributes were put one after the other. -/
def putAll (x : Span) (attributes : List (String × Value)) : Span :=
  attributes.foldl (fun x a => x.put a.1 a.2) x

variable {x : Span} {key other : String}

theorem Listens.put (h : x.Listens) (key : String) (v : Value) : (x.put key v).Listens := by
  cases x with
  | probe p => exact h
  | live s =>
    show (s.setAttribute key v).ended = false
    have running : s.ended = false := h
    rw [LiveSpan.setAttribute, if_neg (by rw [running]; exact Bool.false_ne_true)]
    exact running

theorem attribute?_put_same (h : x.Listens) (key : String) (v : Value) :
    (x.put key v).attribute? key = some v := by
  cases x with
  | probe p => exact List.lookup_cons_self
  | live s =>
    have running : s.ended = false := h
    show (s.setAttribute key v).attributes.lookup key = some v
    rw [LiveSpan.setAttribute, if_neg (by rw [running]; exact Bool.false_ne_true)]
    exact lookup_putEntry_same _ _ _

/-- Whether or not the span takes the attribute, it keeps what it has under every other key. -/
theorem attribute?_put_other (apart : key ≠ other) (x : Span) (v : Value) :
    (x.put other v).attribute? key = x.attribute? key := by
  cases x with
  | probe p =>
    show ((other, v) :: p.values).lookup key = p.values.lookup key
    rw [List.lookup_cons, beq_eq_false_iff_ne.2 apart]
  | live s =>
    show (s.setAttribute other v).attributes.lookup key = s.attributes.lookup key
    rw [LiveSpan.setAttribute]
    split
    · rfl
    · exact lookup_putEntry_other apart _ _

/-- Of several values under one key the latest counts. -/
theorem attribute?_putAll (h : x.Listens) (attributes : List (String × Value)) (key : String) :
    (x.putAll attributes).attribute? key =
      (attributes.reverse.lookup key).or (x.attribute? key) := by
  induction attributes generalizing x with
  | nil => rfl
  | cons a as ih =>
    have step : (x.putAll (a :: as)).attribute? key =
        (as.reverse.lookup key).or ((x.put a.1 a.2).attribute? key) := ih (h.put a.1 a.2)
    have first : (x.put a.1 a.2).attribute? key = ([a].lookup key).or (x.attribute? key) := by
      by_cases same : key = a.1
      · subst same
        rw [attribute?_put_same h, List.lookup_cons_self]
        rfl
      · rw [attribute?_put_other same, List.lookup_cons, beq_eq_false_iff_ne.2 same]
        rfl
    rw [step, first, List.reverse_cons, List.lookup_append, Option.or_assoc]

end Span

namespace World

/-- What the span was told under the key is as it was. -/
def SameAttribute (r : Ref Span) (key : String) (w w' : World) : Prop :=
  (w'.spans.get r).attribute? key = (w.spans.get r).attribute? key

instance (r : Ref Span) (key : String) : IsPreorder World (SameAttribute r key) where
  refl _ := rfl
  trans _ _ _ h h' := Eq.trans h' h

end World

namespace Act

open World

variable {w : World} {r : Ref Span} {key other : String}

/-- A span that listens is told an attribute. -/
theorem go_setAttribute_of_listens (listens : (w.spans.get r).Listens) (key : String) (v : Value) :
    ∃ w', go (setAttribute r key v) w = (.ok (), w') ∧
      w'.spans.get r = (w.spans.get r).put key v := by
  have willing : SpanMethod.setAttribute ∉ (w.spans.get r).failing := by
    cases found : w.spans.get r with
    | probe p =>
      rw [found] at listens
      exact listens
    | live s => exact List.not_mem_nil
  obtain ⟨answer, put⟩ := go_setAttribute_span r key v w
  rw [SpanMethod.answer, if_neg willing] at answer
  exact ⟨_, Prod.ext answer rfl, put⟩

/-- A span that listens is told all attributes. -/
theorem go_putAttributes_of_listens (listens : (w.spans.get r).Listens)
    (attributes : List (String × Value)) :
    ∃ w', go (putAttributes (.span r) attributes) w = (.ok (), w') ∧
      w'.spans.get r = (w.spans.get r).putAll attributes := by
  induction attributes generalizing w with
  | nil => exact ⟨w, rfl, rfl⟩
  | cons a as ih =>
    obtain ⟨w₁, told, put⟩ := go_setAttribute_of_listens listens a.1 a.2
    obtain ⟨w', puts, rest⟩ := ih (w := w₁) (by rw [put]; exact listens.put a.1 a.2)
    have step : go (putAttributes (.span r) (a :: as)) w =
        go (setAttribute r a.1 a.2 >>= fun _ => putAttributes (.span r) as) w := rfl
    refine ⟨w', (step.trans (go_bind_of_ok told _)).trans puts, ?_⟩
    rw [rest, put]
    rfl

/-! ## The status and the end -/

theorem keeps_setAttribute_other (apart : key ≠ other) (v : Value) :
    Keeps (SameAttribute r key) (setAttribute r other v) := by
  intro w
  rw [SameAttribute, (go_setAttribute_span r other v w).2]
  exact Span.attribute?_put_other apart _ _

theorem keeps_callProbe_attribute (p : Probe) (c : SpanCall) :
    Keeps (SameAttribute r key) (callProbe p c) := by
  intro w
  rw [go_callProbe_eq]
  rfl

/-- The error status is no attribute. -/
theorem keeps_setError_attribute (description : String) :
    Keeps (SameAttribute r key) (setError r description) := by
  intro w
  rw [setError, go_bind, go_view]
  cases found : w.spans.get r with
  | probe p => exact keeps_callProbe_attribute p _ w
  | live s =>
    show ((w.spans.set r (.live (s.setError description))).get r).attribute? key =
      (w.spans.get r).attribute? key
    rw [Store.get_set_same, found, LiveSpan.setError]
    split <;> rfl

theorem keeps_finishSpan_attribute : Keeps (SameAttribute r key) (finishSpan r) := by
  intro w
  rw [finishSpan, go_bind, go_view]
  cases found : w.spans.get r with
  | probe p => exact keeps_callProbe_attribute p _ w
  | live s =>
    have ended : ((w.spans.set r (.live s.finish)).get r).attribute? key =
        (w.spans.get r).attribute? key := by
      rw [Store.get_set_same, found, LiveSpan.finish]
      split <;> rfl
    show ((go (if s.recording && !s.ended then _ else _)
      { w with spans := w.spans.set r (.live s.finish) }).2.spans.get r).attribute? key = _
    split <;> exact ended

/-- Closing a span sets one attribute, the status. -/
theorem keeps_closeSpan_attribute (apart : key ≠ statusKey) (m : Option (Ref Message)) :
    Keeps (SameAttribute r key) (closeSpan r m) := by
  have status : Keeps (SameAttribute r key) (tellStatus r m) := by
    cases m with
    | none => exact keeps_pure _
    | some m =>
      refine (keeps_messageStatus m).bind fun v => ?_
      dsimp only
      split
      · exact keeps_pure _
      · refine (keeps_setAttribute_other apart v).bind fun _ => ?_
        split
        · exact (keeps_lift _).bind fun _ => keeps_setError_attribute _
        · exact keeps_pure _
  have said (line : LogRecord) : Keeps (SameAttribute r key) (say line) := fun _ => rfl
  exact (status.attempt fun f => said _).ensuring keeps_finishSpan_attribute

/-- Another context is no telling. -/
theorem keeps_within_attribute {α : Type} {a : Act α} (c : Context)
    (ha : Keeps (SameAttribute r key) a) : Keeps (SameAttribute r key) (within c a) := by
  have moved (c : Context) : Keeps (SameAttribute r key) (change fun w => { w with context := c }) :=
    keeps_change fun _ => rfl
  exact (keeps_view _).bind fun present => (moved c).bind fun _ => ha.ensuring (moved present)

end Act
end HttpTap
