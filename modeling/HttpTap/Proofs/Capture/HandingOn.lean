import HttpTap.Proofs.Capture.Ordering
import HttpTap.Proofs.Exchange.Lifetime

/-!
# A response is handed on

Whatever a wrapped handler does to the span, the function that it wraps should not notice: it runs
once, on the same response, and what it comes to is what the wrapped handler comes to.
`World.HandsOn` says that.

Before the span ends, everything stands behind a guard (`Act.report`): a span that refuses an
attribute or the status costs a line in the log and no more.  The end itself stands behind none.
So a span that fails to end takes the place of the function, which is then never run, and apart
from interrupts that is the only way to lose it (`handleResponse_handsOn_iff`).

Neither the reports nor the end of the span have to do with the context, which is what
`World.SameContext` is for.
-/

namespace HttpTap

namespace Act

/-- What a wrapped handler does before it ends the span: the response is buffered, its body is
recorded, and its status is told. -/
def report (s : CaptureSettings) (span : Ref Span) (m : Option (Ref Message)) : Act Unit := do
  makeResponseRepeatable s m
  onEnd s (.span span) m
  attempt (tellStatus span m) fun f =>
    say (.contained handlerChannel "Failed to set span status from response" f)

end Act

namespace World

open Act

/-- Reading the response raises an interrupt, which no guard contains. -/
def Interrupted (w : World) (s : CaptureSettings) (span : Ref Span) (m : Option (Ref Message)) :
    Prop :=
  ∃ f w', go (report s span m) w = (.error f, w') ∧ f.interrupts = true

/-- To handle the response through the wrapper is to run the handler once on it, in a world in which
the handler has no part, under the given context or else the present one.  It comes to what this
run comes to, and afterwards the context is the present one if another one was given. -/
def HandsOn (w : World) (s : CaptureSettings) (span : Ref Span) (parent : Option Context)
    (m : Option (Ref Message)) : Prop :=
  ∃ w₁ : World, w₁.context = parent.getD w.context ∧
    ∀ (α : Type) (handler : Option (Ref Message) → Act α) (outcome : Except Fault α) (w₂ : World),
      go (handler m) w₁ = (outcome, w₂) →
        go (handleResponse s span parent m (handler m)) w =
          (outcome, parent.elim w₂ fun _ => { w₂ with context := w.context })

/-- The reports are made and the span ends, and the handler is run in the world that is left, under
the given context or else the present one. -/
def Hands (w : World) (s : CaptureSettings) (span : Ref Span) (parent : Option Context)
    (m : Option (Ref Message)) (w' : World) : Prop :=
  ∃ w₁ w₂, go (report s span m) w = (.ok (), w₁) ∧ go (finishSpan span) w₁ = (.ok (), w₂) ∧
    w' = parent.elim w₂ fun c => { w₂ with context := c }

/-- The context is the same. -/
def SameContext (w w' : World) : Prop := w'.context = w.context

variable {r : Ref Span} {failing : List SpanMethod}

/-! ## What reports leave alone -/

instance : IsPreorder World SameContext where
  refl _ := rfl
  trans _ _ _ h h' := Eq.trans h' h

instance : SwappingFrame SameContext where
  toReadingFrame := .of_consulted fun _ _ consulted => consulted.context
  setHeld _ _ _ _ _ := rfl
  setRequest _ _ _ := rfl
  setContent _ _ _ := rfl

instance : EndingFrame SameContext where
  setProbe _ _ _ _ _ _ := rfl
  setRunning _ _ _ _ _ _ := rfl
  setSink _ _ _ := rfl
  noted _ _ := rfl
  setLive _ _ _ _ _ := rfl
  finished _ _ := rfl

instance : SwappingFrame (Preserves fun w => (w.spans.get r).failing = failing) where
  toReadingFrame := .of_consulted fun _ _ consulted (sort : _ = failing) =>
    (congrArg (fun spans => (spans.get r).failing) consulted.spans).trans sort
  setHeld _ _ _ _ _ sort := sort
  setRequest _ _ _ sort := sort
  setContent _ _ _ sort := sort

instance : TellingFrame (Preserves fun w => (w.spans.get r).failing = failing) where
  setProbe w q p p' found same sort :=
    ((TellingFrame.setProbe w q p p' found same : w.Told _).failing r).trans sort
  setRunning w q s s' found goesOn sort :=
    ((TellingFrame.setRunning w q s s' found goesOn : w.Told _).failing r).trans sort
  setSink _ _ _ sort := sort
  noted _ _ sort := sort

end World

namespace Act

open World

variable {w w₁ : World} {s : CaptureSettings} {span : Ref Span} {parent : Option Context}
  {m : Option (Ref Message)} {f : Fault}

theorem keeps_report {R : World → World → Prop} [SwappingFrame R] [TellingFrame R]
    (s : CaptureSettings) (span : Ref Span) (m : Option (Ref Message)) :
    Keeps R (report s span m) :=
  (keeps_makeResponseRepeatable s m).bind fun _ => (keeps_onEnd s (.span span) m).bind fun _ =>
    (keeps_tellStatus span m).attempt fun _ => keeps_say _

/-- The reports do not change in which methods a span fails. -/
theorem failing_of_report {outcome : Except Fault Unit}
    (reported : go (report s span m) w = (outcome, w₁)) :
    (w₁.spans.get span).failing = (w.spans.get span).failing := by
  have kept := keeps_report (R := Preserves fun v =>
    (v.spans.get span).failing = (w.spans.get span).failing) s span m w rfl
  rw [reported] at kept
  exact kept

/-- Neither the reports nor the end of the span change the context. -/
theorem context_of_report {w₂ : World} (reported : go (report s span m) w = (.ok (), w₁))
    (finished : go (finishSpan span) w₁ = (.ok (), w₂)) : w₂.context = w.context :=
  ((keeps_finishSpan (R := SameContext) span).of_go finished).trans
    ((keeps_report (R := SameContext) s span m).of_go reported)

/-- Under another context an action is run as it is, and the present one is put back. -/
theorem go_within {α : Type} (c : Context) (a : Act α) (w : World) :
    go (within c a) w = ((go a { w with context := c }).1,
      { (go a { w with context := c }).2 with context := w.context }) := by
  show go (ensuring a (change fun v => { v with context := w.context })) { w with context := c } = _
  rw [go_ensuring]
  rfl

/-- A handler runs under the context that was given for it, or else under the present one. -/
theorem context_of_hands (hands : w.Hands s span parent m w₁) :
    w₁.context = parent.getD w.context := by
  obtain ⟨v, v', reported, finished, rfl⟩ := hands
  cases parent with
  | none => exact context_of_report reported finished
  | some c => rfl

/-- The reports end in no fault but an interrupt. -/
theorem interrupts_of_report (failed : go (report s span m) w = (.error f, w₁)) :
    f.interrupts = true := by
  rw [report, go_bind] at failed
  cases buffered : go (makeResponseRepeatable s m) w with
  | mk outcome v =>
    rw [buffered] at failed
    cases outcome with
    | error g =>
      obtain rfl := Except.error.inj (Prod.mk.inj failed).1
      exact interrupts_of_makeResponseRepeatable buffered
    | ok u =>
      dsimp only at failed
      rw [go_bind] at failed
      cases recorded : go (onEnd s (.span span) m) v with
      | mk outcome v' =>
        rw [recorded] at failed
        cases outcome with
        | error g =>
          obtain rfl := Except.error.inj (Prod.mk.inj failed).1
          exact interrupts_of_onEnd recorded
        | ok u => exact interrupts_of_attempt_say failed

/-- Where nothing raises an interrupt, the reports come to an end. -/
theorem succeeds_report (s : CaptureSettings) (span : Ref Span) (m : Option (Ref Message)) :
    Succeeds Calm (fun _ => True) (report s span m) :=
  (succeeds_makeResponseRepeatable s m).bind fun _ _ =>
    (succeeds_onEnd s (.span span) m).bind fun _ _ =>
      (safe_tellStatus_of_calm m).succeeds fun _ _ => succeeds_say _

theorem not_interrupted_of_calm (calm : w.Calm) : ¬ w.Interrupted s span m := by
  rintro ⟨f, w', failed, -⟩
  obtain ⟨_, w₁, reported, -, -⟩ := (succeeds_report s span m).go calm
  rw [reported] at failed
  exact absurd (Prod.mk.inj failed).1 (by simp)

/-- A span ends without a fault or with its own, as it was told to. -/
theorem fst_go_finishSpan (span : Ref Span) (w : World) :
    (go (finishSpan span) w).1 = SpanMethod.finish.answer (w.spans.get span).failing := by
  cases found : w.spans.get span with
  | probe p =>
    rw [finishSpan, go_bind, go_view, found]
    exact congrArg Prod.fst (go_callProbe_eq p .finish w)
  | live x =>
    obtain ⟨w', finished, -⟩ := go_finishSpan (w := w) (r := span)
      (by rw [found]; exact List.not_mem_nil)
    rw [finished]
    rfl

/-! ## The way to the handler -/

section Handler

variable {α : Type} {handler : Act α}

/-- After the reports the span ends, and the handler runs if that has not failed. -/
theorem go_handleResponse_of_report (reported : go (report s span m) w = (.ok (), w₁)) :
    go (handleResponse s span parent m handler) w =
      go (finishSpan span >>= fun _ => parent.elim handler fun c => within c handler) w₁ := by
  obtain ⟨_, v, buffered, reported⟩ := exists_of_go_bind reported
  obtain ⟨_, v', recorded, told⟩ := exists_of_go_bind reported
  have closing : go (closeSpan span m) v' = go (finishSpan span) w₁ := by
    rw [closeSpan, go_ensuring, told]
    cases go (finishSpan span) w₁ with
    | mk outcome v'' => cases outcome <;> rfl
  unfold handleResponse
  rw [go_bind_of_ok buffered, go_bind_of_ok recorded, go_bind, closing, go_bind]
  cases parent <;> rfl

/-- An interrupt among the reports ends the handling before the handler is reached. -/
theorem go_handleResponse_of_interrupt (failed : go (report s span m) w = (.error f, w₁))
    (parent : Option Context) :
    ∃ g w', (g = f ∨ g = SpanMethod.finish.failure ∧ .finish ∈ (w₁.spans.get span).failing) ∧
      ∀ (α : Type) (handler : Act α),
        go (handleResponse s span parent m handler) w = (.error g, w') := by
  cases buffered : go (makeResponseRepeatable s m) w with
  | mk outcome v =>
    cases outcome with
    | error g =>
      rw [report, go_bind_of_error buffered] at failed
      obtain ⟨same, -⟩ := Prod.mk.inj failed
      exact ⟨g, v, .inl (Except.error.inj same), fun _ _ => go_bind_of_error buffered _⟩
    | ok _ =>
      rw [report, go_bind_of_ok buffered] at failed
      cases recorded : go (onEnd s (.span span) m) v with
      | mk outcome v' =>
        cases outcome with
        | error g =>
          rw [go_bind_of_error recorded] at failed
          obtain ⟨same, -⟩ := Prod.mk.inj failed
          refine ⟨g, v', .inl (Except.error.inj same), fun _ _ => ?_⟩
          unfold handleResponse
          rw [go_bind_of_ok buffered, go_bind_of_error recorded]
        | ok _ =>
          rw [go_bind_of_ok recorded] at failed
          -- the span still ends, and its fault comes before the interrupt
          have finished : go (finishSpan span) w₁ =
              (SpanMethod.finish.answer (w₁.spans.get span).failing, (go (finishSpan span) w₁).2) :=
            Prod.ext (fst_go_finishSpan span w₁) rfl
          have closing : ∀ g w', go (closeSpan span m) v' = (.error g, w') →
              ∀ (α : Type) (handler : Act α),
                go (handleResponse s span parent m handler) w = (.error g, w') := by
            intro g w' closed α handler
            unfold handleResponse
            rw [go_bind_of_ok buffered, go_bind_of_ok recorded]
            exact go_bind_of_error closed _
          rw [SpanMethod.answer] at finished
          split at finished
          case isTrue fails =>
            exact ⟨_, _, .inr ⟨rfl, fails⟩,
              closing _ _ (by rw [closeSpan, go_ensuring, failed, finished])⟩
          case isFalse =>
            exact ⟨f, _, .inl rfl, closing _ _ (by rw [closeSpan, go_ensuring, failed, finished])⟩

end Handler

/-- A handler that is reached is run once, and afterwards the context is the present one if another
one was given for it. -/
theorem go_handleResponse_of_hands (hands : w.Hands s span parent m w₁) {α : Type}
    (handler : Act α) :
    go (handleResponse s span parent m handler) w =
      ((go handler w₁).1, parent.elim (go handler w₁).2 fun _ =>
        { (go handler w₁).2 with context := w.context }) := by
  obtain ⟨v, v', reported, finished, rfl⟩ := hands
  have context : v'.context = w.context := context_of_report reported finished
  rw [go_handleResponse_of_report reported, go_bind_of_ok finished]
  cases parent with
  | none => rfl
  | some c => exact (go_within c handler v').trans (by rw [context]; rfl)

theorem handsOn_of_hands (hands : w.Hands s span parent m w₁) : w.HandsOn s span parent m := by
  refine ⟨w₁, context_of_hands hands, fun α handler outcome w₂ ran => ?_⟩
  rw [go_handleResponse_of_hands hands, ran]

/-- If the handling fails whatever the handler is, the handler is not reached. -/
theorem not_handsOn_of_fault {w' : World}
    (failed : go (handleResponse s span parent m (pure ())) w = (.error f, w')) :
    ¬ w.HandsOn s span parent m := by
  rintro ⟨w₁, -, handsOn⟩
  have ran := handsOn Unit (fun _ => pure ()) (.ok ()) w₁ rfl
  rw [failed] at ran
  exact absurd (Prod.mk.inj ran).1 (by simp)

/-- A span that fails to end keeps the handler from running. -/
theorem go_handleResponse_of_failing (reported : go (report s span m) w = (.ok (), w₁))
    (fails : .finish ∈ (w.spans.get span).failing) (parent : Option Context) :
    ∃ w', ∀ (α : Type) (handler : Act α),
      go (handleResponse s span parent m handler) w =
        (.error SpanMethod.finish.failure, w') := by
  have ending := fst_go_finishSpan span w₁
  rw [SpanMethod.answer, failing_of_report reported, if_pos fails] at ending
  refine ⟨(go (finishSpan span) w₁).2, fun α handler => ?_⟩
  rw [go_handleResponse_of_report reported]
  exact go_bind_of_error (Prod.ext ending rfl) _

/-- Whatever the response, the settings and the contexts are, and in whichever methods the span
fails: the response is handed on exactly if ending the span does not fail and no interrupt comes
up, and none does where nothing raises one.  Otherwise the handling fails with the fault of the
span or with the interrupt, and the handler, whatever it is, is not run. -/
theorem handleResponse_handsOn_iff (w : World) (s : CaptureSettings) (span : Ref Span)
    (parent : Option Context) (m : Option (Ref Message)) :
    (w.HandsOn s span parent m ↔
      .finish ∉ (w.spans.get span).failing ∧ ¬ w.Interrupted s span m) ∧
    (w.Calm → ¬ w.Interrupted s span m) ∧
    (¬ w.HandsOn s span parent m → ∃ f w',
      (f = SpanMethod.finish.failure ∧ .finish ∈ (w.spans.get span).failing ∨
        f.interrupts = true ∧ w.Interrupted s span m) ∧
      ∀ (α : Type) (handler : Option (Ref Message) → Act α),
        go (handleResponse s span parent m (handler m)) w = (.error f, w')) := by
  cases reported : go (report s span m) w with
  | mk outcome w₁ =>
    cases outcome with
    | error f =>
      have interrupted : w.Interrupted s span m :=
        ⟨f, w₁, reported, interrupts_of_report reported⟩
      obtain ⟨g, w', cause, failed⟩ := go_handleResponse_of_interrupt reported parent
      have lost : ¬ w.HandsOn s span parent m := not_handsOn_of_fault (failed Unit (pure ()))
      refine ⟨iff_of_false lost fun both => both.2 interrupted, not_interrupted_of_calm,
        fun _ => ⟨g, w', ?_, fun α handler => failed α (handler m)⟩⟩
      rcases cause with rfl | ⟨rfl, fails⟩
      · exact .inr ⟨interrupts_of_report reported, interrupted⟩
      · rw [failing_of_report reported] at fails
        exact .inl ⟨rfl, fails⟩
    | ok _ =>
      have quiet : ¬ w.Interrupted s span m := by
        rintro ⟨f, w', failed, -⟩
        rw [reported] at failed
        exact absurd (Prod.mk.inj failed).1 (by simp)
      by_cases fails : .finish ∈ (w.spans.get span).failing
      · obtain ⟨w', failed⟩ := go_handleResponse_of_failing reported fails parent
        have lost : ¬ w.HandsOn s span parent m := not_handsOn_of_fault (failed Unit (pure ()))
        exact ⟨iff_of_false lost fun both => both.1 fails, not_interrupted_of_calm,
          fun _ => ⟨_, w', .inl ⟨rfl, fails⟩, fun α handler => failed α (handler m)⟩⟩
      · obtain ⟨w₂, finished, -⟩ := go_finishSpan (w := w₁) (r := span)
          (by rw [failing_of_report reported]; exact fails)
        have handed : w.HandsOn s span parent m :=
          handsOn_of_hands ⟨w₁, w₂, reported, finished, rfl⟩
        exact ⟨iff_of_true handed ⟨fails, quiet⟩, not_interrupted_of_calm,
          fun lost => absurd handed lost⟩

/-- A response with the status 200, and a span that fails in the given methods. -/
def answered (failing : List SpanMethod) : World := { World.empty with
  messages := Store.empty.set ⟨0⟩ (.plain none (some (.ok (.int 200))))
  spans := Store.empty.set ⟨0⟩ (.probe ⟨failing, []⟩) }

theorem calm_answered (failing : List SpanMethod) : (answered failing).Calm := by
  have message : (Message.plain none (some (.ok (.int 200)))).Calm := by
    rintro i ⟨⟩
    trivial
  exact (calm_empty.setMessage ⟨0⟩ message).of_same rfl rfl rfl rfl

/-- A span that refuses the attributes and the status costs the handler nothing. -/
theorem handleResponse_handsOn_iff_untold :
    (answered [.setAttribute, .setStatus]).HandsOn
      { CaptureSettings.standard with responses := .bool true } ⟨0⟩ none (some ⟨0⟩) :=
  have told := handleResponse_handsOn_iff (answered [.setAttribute, .setStatus])
    { CaptureSettings.standard with responses := .bool true } ⟨0⟩ none (some ⟨0⟩)
  told.1.2 ⟨by decide, told.2.1 (calm_answered _)⟩

/-- A span that fails to end costs the handler its run, though nothing else goes wrong. -/
theorem not_handsOn_unending :
    (answered [.finish]).Calm ∧ ¬ (answered [.finish]).HandsOn CaptureSettings.standard ⟨0⟩ none
      (some ⟨0⟩) := by
  obtain ⟨_, w₁, reported, -, -⟩ :=
    (succeeds_report CaptureSettings.standard ⟨0⟩ (some ⟨0⟩)).go (calm_answered [.finish])
  obtain ⟨w', failed⟩ := go_handleResponse_of_failing reported (by decide) none
  exact ⟨calm_answered [.finish], not_handsOn_of_fault (failed Unit (pure ()))⟩

end Act
end HttpTap
