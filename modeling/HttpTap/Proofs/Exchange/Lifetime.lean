import HttpTap.Proofs.Exchange.Transparency
import HttpTap.Proofs.Span.Ending

/-!
# How long the span of a request lives

A wrapper starts a span before the call and ends it after the call.  There are three ways to the
end: a span that does not record is ended as soon as the call is over, however it is over; a fault
is noted on the span, which then ends; and a response is recorded before the span ends.

On the last two ways an interrupt is let through before the end is reached, and it may come from
the reading of the body, from the call itself and from the reading of the response.  On the second
way the fault is also asked for its message, and if it has none the end is not reached either.
`tracedSend_closes_iff` says that this is all that goes wrong: the span is closed exactly if it
does not record, or if the outcome is no interrupt and the call has not come to a fault without a
message; and otherwise it is left open.

`Starts` counts the spans: a wrapper starts one more than the function that it wraps.
-/

namespace HttpTap

namespace World

variable {α : Type} {w w' : World} {r : Ref Span}

/-- The span has been closed, unless something has left it open. -/
def ClosedUnless (left : Prop) (r : Ref Span) (w : World) : Prop :=
  (¬ left ∧ w.Closed r) ∨ (left ∧ w.Open r)

namespace ClosedUnless

variable {left left' : Prop}

/-- Where the program finds itself has nothing to do with the span. -/
theorem of_spans (h : w.ClosedUnless left r) (same : w'.spans = w.spans) :
    w'.ClosedUnless left r := by
  rcases h with ⟨not, closed⟩ | ⟨left, running⟩
  · exact .inl ⟨not, closed.of_spans same⟩
  · exact .inr ⟨left, running.of_spans same⟩

theorem of_iff (h : w.ClosedUnless left r) (same : left ↔ left') : w.ClosedUnless left' r :=
  propext same ▸ h

theorem closed_iff (h : w.ClosedUnless left r) : w.Closed r ↔ ¬ left := by
  rcases h with ⟨not, closed⟩ | ⟨left, running⟩
  · exact iff_of_true closed not
  · exact iff_of_false running.not_closed fun not => not left

theorem open_iff (h : w.ClosedUnless left r) : w.Open r ↔ left := by
  rcases h with ⟨not, closed⟩ | ⟨left, running⟩
  · exact iff_of_false (fun running => running.not_closed closed) not
  · exact iff_of_true running left

theorem has (h : w.ClosedUnless left r) : w.spans.Has r := by
  rcases h with ⟨-, closed⟩ | ⟨-, running⟩
  · exact closed.has
  · exact running.has

end ClosedUnless

end World

namespace Act

open World

variable {σ κ α β : Type} {w w' : World} {r : Ref Span} {s : CaptureSettings} {f : Fault}

/-! ## Guards let nothing through but interrupts -/

theorem interrupts_of_attempt_say {a : Act Unit} {line : Fault → LogRecord}
    (failed : go (attempt a fun f => say (line f)) w = (.error f, w')) : f.interrupts = true := by
  rw [go_attempt] at failed
  cases ran : go a w with
  | mk x w₁ =>
    rw [ran] at failed
    cases x with
    | ok u => exact absurd (Prod.mk.inj failed).1 (by simp)
    | error g =>
      dsimp only at failed
      split at failed
      · rename_i interrupts
        obtain rfl := Except.error.inj (Prod.mk.inj failed).1
        exact interrupts
      · exact absurd (Prod.mk.inj failed).1 (by simp)

theorem interrupts_of_makeResponseRepeatable {m : Option (Ref Message)}
    (failed : go (makeResponseRepeatable s m) w = (.error f, w')) : f.interrupts = true := by
  cases m with
  | none => exact absurd (Prod.mk.inj failed).1 (by simp)
  | some m =>
    rw [makeResponseRepeatable] at failed
    split at failed
    · exact interrupts_of_attempt_say failed
    · exact absurd (Prod.mk.inj failed).1 (by simp)

theorem interrupts_of_onEnd {t : Target} {m : Option (Ref Message)}
    (failed : go (onEnd s t m) w = (.error f, w')) : f.interrupts = true := by
  cases m with
  | none => exact absurd (Prod.mk.inj failed).1 (by simp)
  | some m =>
    rw [onEnd] at failed
    split at failed
    · exact interrupts_of_attempt_say failed
    · exact absurd (Prod.mk.inj failed).1 (by simp)

theorem interrupts_of_announce {q : Ref Request}
    (failed : go (announce s r q) w = (.error f, w')) : f.interrupts = true := by
  have made : go (newMessage (.request (some q))) w = (.ok w.messages.next,
      { w with messages := (w.messages.alloc (.request (some q))).2 }) := rfl
  rw [announce, go_bind_of_ok made, onStart] at failed
  split at failed
  · exact interrupts_of_attempt_say failed
  · exact absurd (Prod.mk.inj failed).1 (by simp)

/-! ## The ways to the end -/

theorem interrupts_iff_not_contained :
    f.interrupts = true ↔ ¬ Contained (fun _ : α => True) (.error f) :=
  (Bool.not_eq_false _).symm.to_iff

/-- A fault of the call is noted on the span, which ends; an interrupt leaves it open, and so does
a fault without a message. -/
theorem go_orFail_of_open (running : w.Open r) (f : Fault) :
    ∃ g w', go (orFail r (.error f)) w = (.error g, w') ∧
      w'.ClosedUnless (g.interrupts = true ∨ ¬ HasMessage (α := Option (Ref Response)) (.error f)) r ∧
      (HasMessage (α := Option (Ref Response)) (.error f) → g = f) := by
  by_cases interrupts : f.interrupts = true
  · refine ⟨f, w, ?_, .inr ⟨.inl interrupts, running⟩, fun _ => rfl⟩
    rw [orFail, failSpan, if_pos interrupts]
    rfl
  · have contained : f.interrupts = false := Bool.eq_false_iff.2 interrupts
    obtain ⟨w₁, noted, -⟩ := go_noteFault r f w
    have running₁ : w₁.Open r :=
      (keeps_noteFault (R := Preserves fun w => w.Open r) r f).of_go noted running
    rw [orFail, failSpan, if_neg interrupts, go_bind, go_bind_of_ok noted]
    rw [hasMessage_error_iff contained]
    cases message : f.message with
    | error g =>
      have mute : ¬ ∃ text, (Except.error g : Except Fault String) = .ok text := by simp
      exact ⟨g, w₁, rfl, .inr ⟨.inr mute, running₁⟩, fun worded => absurd worded mute⟩
    | ok text =>
      obtain ⟨w₂, told, -⟩ := go_setError (w := w₁) (r := r)
        (by rw [running₁.failing]; exact List.not_mem_nil) text
      have running₂ : w₂.Open r :=
        (keeps_setError (R := Preserves fun w => w.Open r) r text).of_go told running₁
      obtain ⟨w₃, finished, closed⟩ := go_finishSpan_of_open running₂
      refine ⟨f, w₃, ?_, .inl ⟨?_, closed⟩, fun _ => rfl⟩
      · rw [go_bind, go_lift]
        dsimp only
        rw [go_bind_of_ok told, finished]
        rfl
      · rintro (interrupted | mute)
        · exact interrupts interrupted
        · exact mute ⟨text, rfl⟩

/-- Under a span the call is reached, and what it comes to cannot be told. -/
def MuteUnder (s : CaptureSettings) (r : Ref Span) (q : Ref Request)
    (call : Act (Option (Ref Response))) (w : World) : Prop :=
  ∃ w₀, go (announce s r q) (w.under r) = (.ok (), w₀) ∧ ¬ HasMessage (go call w₀).1

/-- Under an open span a call either gives a response and leaves the span open, or its fault closes
the span unless an interrupt comes out or the fault has no message. -/
theorem go_sendUnder_of_open (running : w.Open r) (q : Ref Request)
    {send : Act (Option (Ref Response))} (leaves : Keeps (Preserves fun w => w.Open r) send) :
    (∃ p w', go (sendUnder s r q send) w = (.ok p, w') ∧ w'.Open r ∧ ¬ MuteUnder s r q send w) ∨
      ∃ f w', go (sendUnder s r q send) w = (.error f, w') ∧
        w'.ClosedUnless (f.interrupts = true ∨ MuteUnder s r q send w) r := by
  have announcing : Keeps (Preserves fun w => w.Open r) (announce s r q) :=
    Keeps.bind (fun w running => running.of_spans rfl) fun m =>
      keeps_onStart s (.span r) (some m)
  have announced := announcing (w.under r) (running.of_spans rfl)
  cases ran : go (announce s r q) (w.under r) with
  | mk outcome w₀ =>
    rw [ran] at announced
    have muteUnder : MuteUnder s r q send w ↔ outcome = .ok () ∧ ¬ HasMessage (go send w₀).1 := by
      rw [MuteUnder, ran]
      constructor
      · rintro ⟨_, same, mute⟩
        obtain ⟨rfl, rfl⟩ := Prod.mk.inj same
        exact ⟨rfl, mute⟩
      · rintro ⟨rfl, mute⟩
        exact ⟨w₀, rfl, mute⟩
    cases outcome with
    | error f =>
      -- only an interrupt comes through the guard of the recording
      have interrupts := interrupts_of_announce ran
      rw [go_sendUnder, go_bind_of_error ran, go_ensuring, orFail, failSpan, if_pos interrupts]
      exact .inr ⟨f, _, rfl, .inr ⟨.inl interrupts, announced.of_spans rfl⟩⟩
    | ok _ =>
      rw [go_sendUnder_of_announce ran, go_ensuring]
      have called := leaves w₀ announced
      generalize go send w₀ = came at called muteUnder ⊢
      obtain ⟨outcome, w₁⟩ := came
      cases outcome with
      | ok p =>
        refine .inl ⟨p, _, rfl, called.of_spans rfl, fun mute => ?_⟩
        exact (muteUnder.1 mute).2 (hasMessage_ok p)
      | error f =>
        obtain ⟨g, w₂, failed, closed, -⟩ := go_orFail_of_open called f
        rw [failed]
        refine .inr ⟨g, _, rfl, (closed.of_iff (or_congr_right ?_)).of_spans rfl⟩
        rw [muteUnder]
        exact (and_iff_right rfl).symm

/-- A response is recorded and the span ends, unless recording the response is interrupted. -/
theorem closed_handleResponse {x : α} {m : Ref Message} {present : Context} (running : w.Open r)
    (response : w.IsResponse m) :
    (go (handleResponse s r (some present) (some m) (pure x)) w).2.ClosedUnless
      (¬ Contained (fun _ => True) (go (handleResponse s r (some present) (some m) (pure x)) w).1)
      r := by
  have ready : w.Ready m r := ⟨response, running.failing⟩
  unfold handleResponse
  rw [go_bind]
  have running₁ := keeps_makeResponseRepeatable (R := Preserves fun w => w.Open r) s (some m) w
    running
  have ready₁ := keeps_makeResponseRepeatable (R := Preserves fun w => w.Ready m r) s (some m) w
    ready
  cases buffered : go (makeResponseRepeatable s (some m)) w with
  | mk outcome w₁ =>
    rw [buffered] at running₁ ready₁
    cases outcome with
    | error f =>
      have interrupts := interrupts_of_makeResponseRepeatable buffered
      exact .inr ⟨interrupts_iff_not_contained.1 interrupts, running₁⟩
    | ok _ =>
      dsimp only
      rw [go_bind]
      have running₂ := keeps_onEnd (R := Preserves fun w => w.Open r) s (.span r) (some m) w₁ running₁
      have ready₂ := keeps_onEnd (R := Preserves fun w => w.Ready m r) s (.span r) (some m) w₁ ready₁
      cases recorded : go (onEnd s (.span r) (some m)) w₁ with
      | mk outcome w₂ =>
        rw [recorded] at running₂ ready₂
        cases outcome with
        | error f =>
          have interrupts := interrupts_of_onEnd recorded
          exact .inr ⟨interrupts_iff_not_contained.1 interrupts, running₂⟩
        | ok _ =>
          have closed := closed_closeSpan running₂ (some m)
          obtain ⟨w₃, ended, -⟩ := go_closeSpan (w := w₂) (r := r) ready₂.response
            (by rw [ready₂.sturdy]; exact List.not_mem_nil)
          rw [ended] at closed
          dsimp only
          rw [go_bind_of_ok ended]
          exact .inl ⟨fun interrupted => interrupted trivial, closed⟩

/-! ## How many spans are started -/

/-- The action starts at most so many spans. -/
def Starts (n : Nat) (a : Act α) : Prop := ∀ w, (go a w).2.spans.size ≤ w.spans.size + n

theorem starts_zero {a : Act α} (same : Keeps SameSpans a) : Starts 0 a :=
  fun w => Nat.le_of_eq (same w)

theorem Starts.of_le {k n : Nat} {a : Act α} (h : Starts k a) (below : k ≤ n) : Starts n a :=
  fun w => Nat.le_trans (h w) (Nat.add_le_add_left below _)

/-- What starts no span may come before. -/
theorem Starts.after {n : Nat} {a : Act β} {f : β → Act α} (same : Keeps SameSpans a)
    (starts : ∀ x, Starts n (f x)) : Starts n (a >>= f) := by
  intro w
  have kept := same w
  rw [go_bind]
  generalize go a w = ran at kept
  obtain ⟨_ | x, w₁⟩ := ran
  · exact Nat.le_trans (Nat.le_of_eq kept) (Nat.le_add_right _ n)
  · exact Nat.le_trans (starts x w₁) (Nat.le_of_eq (congrArg (· + n) kept))

/-- What starts no span may follow. -/
theorem Starts.bind {n : Nat} {a : Act β} {f : β → Act α} (starts : Starts n a)
    (same : ∀ x, Keeps SameSpans (f x)) : Starts n (a >>= f) := by
  intro w
  have bound := starts w
  rw [go_bind]
  generalize go a w = ran at bound
  obtain ⟨_ | x, w₁⟩ := ran
  · exact bound
  · exact Nat.le_trans (Nat.le_of_eq (same x w₁)) bound

theorem Starts.ensuring {n : Nat} {a : Act α} {cleanup : Act Unit} (starts : Starts n a)
    (same : Keeps SameSpans cleanup) : Starts n (ensuring a cleanup) := by
  intro w
  have both : (go cleanup (go a w).2).2.spans.size ≤ w.spans.size + n :=
    Nat.le_trans (Nat.le_of_eq (same _)) (starts w)
  rw [go_ensuring]
  generalize go cleanup (go a w).2 = ran at both
  obtain ⟨_ | _, w₁⟩ := ran <;> exact both

theorem sameSpans_context (c : World → Context) :
    Keeps SameSpans (change fun w => { w with context := c w }) :=
  keeps_change fun _ => rfl

theorem sameSpans_newMessage (m : Message) : Keeps SameSpans (newMessage m) := fun _ => rfl

theorem sameSpans_closeSpan (r : Ref Span) (m : Option (Ref Message)) :
    Keeps SameSpans (closeSpan r m) :=
  ((keeps_tellStatus r m).attempt fun _ => keeps_say _).ensuring (keeps_finishSpan r)

theorem sameSpans_handleResponse (r : Ref Span) (m : Option (Ref Message)) (c : Context) (x : α) :
    Keeps SameSpans (handleResponse s r (some c) m (pure x)) := by
  refine (keeps_makeResponseRepeatable s m).bind fun _ => (keeps_onEnd s (.span r) m).bind fun _ => ?_
  refine (sameSpans_closeSpan r m).bind fun _ => (keeps_view _).bind fun present => ?_
  exact (sameSpans_context fun _ => c).bind fun _ =>
    (keeps_pure x).ensuring (sameSpans_context fun _ => present)

theorem sameSpans_orFail (r : Ref Span) (outcome : Except Fault (Option (Ref Response))) :
    Keeps SameSpans (orFail r outcome) := by
  cases outcome with
  | ok p => exact keeps_pure p
  | error f =>
    refine Keeps.bind ?_ fun _ => keeps_throw f
    unfold failSpan
    split
    · exact keeps_pure _
    · exact (keeps_noteFault r f).bind fun _ => (keeps_lift _).bind fun _ =>
        (keeps_setError r _).bind fun _ => keeps_finishSpan r

/-- Under a span no more spans are started than by the call. -/
theorem starts_sendUnder {n : Nat} (r : Ref Span) (q : Ref Request)
    {send : Act (Option (Ref Response))} (starts : Starts n send) :
    Starts n (sendUnder s r q send) := by
  have announced : Keeps SameSpans (announce s r q) :=
    (sameSpans_newMessage _).bind fun m => keeps_onStart s (.span r) (some m)
  intro w
  rw [go_sendUnder]
  have called : (go (announce s r q >>= fun _ => send) (w.under r)).2.spans.size ≤ w.spans.size + n :=
    Starts.after announced (fun _ => starts) (w.under r)
  have settled := (sameSpans_orFail r (go (announce s r q >>= fun _ => send) (w.under r)).1).ensuring
    (sameSpans_context fun _ => w.context) (go (announce s r q >>= fun _ => send) (w.under r)).2
  exact Nat.le_trans (Nat.le_of_eq settled) called

/-! ## The span of a request -/

/-- What a wrapper does under a span that records. -/
def recorded (s : CaptureSettings) (q : Ref Request) (send : Act (Option (Ref Response)))
    (r : Ref Span) (present : Context) : Act (Option (Ref Response)) := do
  let p ← sendUnder s r q send
  let m ← newMessage (.response p)
  handleResponse s r (some present) (some m) (pure p)

theorem closed_recorded (running : w.Open r) (q : Ref Request)
    {send : Act (Option (Ref Response))} (leaves : Keeps (Preserves fun w => w.Open r) send)
    (present : Context) :
    (go (recorded s q send r present) w).2.ClosedUnless
      (¬ Contained (fun _ => True) (go (recorded s q send r present) w).1 ∨
        MuteUnder s r q send w) r := by
  rw [recorded]
  rcases go_sendUnder_of_open (s := s) running q leaves with
    ⟨p, w₁, sent, running₁, told⟩ | ⟨f, w₁, failed, closed⟩
  · rw [go_bind_of_ok sent]
    set w₂ : World := { w₁ with messages := (w₁.messages.alloc (.response p)).2 } with hw₂
    have made : go (newMessage (.response p)) w₁ = (.ok w₁.messages.next, w₂) := rfl
    rw [go_bind_of_ok made]
    have response : w₂.IsResponse w₁.messages.next := ⟨p, Store.get_alloc_same _ _⟩
    have running₂ : w₂.Open r := running₁.of_spans rfl
    exact (closed_handleResponse running₂ response).of_iff (or_iff_left told).symm
  · rw [go_bind_of_error failed]
    exact closed.of_iff (or_congr_left interrupts_iff_not_contained)

/-- A span that does not record is ended when the call is over, however it is over. -/
theorem closed_sampledOut (running : w.Open r) {send : Act (Option (Ref Response))}
    (leaves : Keeps (Preserves fun w => w.Open r) send) :
    (go (ensuring send (finishSpan r)) w).2.Closed r := by
  obtain ⟨w', finished, closed⟩ := go_finishSpan_of_open (leaves w running)
  rw [go_ensuring, finished]
  exact closed

/-- A span that has just been started is open. -/
theorem open_withSpan (w : World) {span : LiveSpan} (running : span.ended = false)
    (prompt : span.late = 0) : (w.withSpan span).Open w.spans.next :=
  ⟨Nat.lt_succ_self _, span, get_withSpan w span, running, prompt⟩

theorem starts_recorded {n : Nat} (q : Ref Request) {send : Act (Option (Ref Response))}
    (starts : Starts n send) (r : Ref Span) (present : Context) :
    Starts n (recorded s q send r present) :=
  (starts_sendUnder r q starts).bind fun p => (sameSpans_newMessage _).bind fun m =>
    sameSpans_handleResponse r (some m) present p

/-- A wrapper starts one span more than the function that it wraps. -/
theorem starts_tracedSend {n : Nat} (i : Instrument) {send : Sending σ κ} {session : σ}
    {q : Ref Request} {arguments : κ} (starts : Starts n (send session q arguments)) :
    Starts (n + 1) (tracedSend i send session q arguments) := by
  intro w
  by_cases enabled : i.settings.enabled.truthy = true
  · cases named : spanName (methodName (w.requests.get q)) ((w.requests.get q).url.getD "") with
    | error f =>
      rw [tracedSend_of_enabled enabled, starting, go_bind, go_view]
      dsimp only
      rw [go_bind, go_lift, named]
      exact Nat.le_add_right _ _
    | ok name =>
      rw [tracedSend_of_enabled enabled, go_starting_of_name named]
      set w₁ := w.withSpan (w.requestSpan i.provider q name) with hw₁
      have one : w₁.spans.size + n = w.spans.size + (n + 1) := by
        show w.spans.size + 1 + n = _
        omega
      split
      · exact Nat.le_trans (starts_recorded q starts w.spans.next w.context w₁) (Nat.le_of_eq one)
      · exact Nat.le_trans (starts.ensuring (keeps_finishSpan _) w₁) (Nat.le_of_eq one)
  · rw [tracedSend, if_neg enabled]
    exact Nat.le_trans (starts w) (Nat.le_succ _)

/-- A reference that is new after one span was started is the reference of that span. -/
theorem eq_next_of_size {r : Ref Span} (one : w'.spans.size ≤ w.spans.size + 1)
    (old : ¬ w.spans.Has r) (new : w'.spans.Has r) : r = w.spans.next := by
  obtain ⟨index⟩ := r
  have above : w.spans.size ≤ index := Nat.le_of_not_lt old
  have below : index < w.spans.size + 1 := Nat.lt_of_lt_of_le new one
  exact congrArg Ref.mk (Nat.le_antisymm (Nat.le_of_lt_succ below) above)

/-- The call is reached, and what it comes to cannot be told. -/
def Mute (i : Instrument) (q : Ref Request) (call : Act (Option (Ref Response))) (w : World) : Prop :=
  ∃ l w₀, go (lead i q) w = (.ok l, w₀) ∧ ¬ HasMessage (go call w₀).1

theorem muteUnder_iff {i : Instrument} {q : Ref Request} {name : String}
    (enabled : i.settings.enabled.truthy = true) (records : i.provider = .recording)
    (named : spanName (methodName (w.requests.get q)) ((w.requests.get q).url.getD "") = .ok name)
    (call : Act (Option (Ref Response))) :
    MuteUnder i.settings w.spans.next q call (w.withSpan (w.requestSpan i.provider q name)) ↔
      Mute i q call w := by
  have recording : (i.provider == .recording) = true := by rw [records]; rfl
  constructor
  · rintro ⟨w₀, announced, mute⟩
    exact ⟨_, w₀, go_lead_of_announce enabled recording named announced, mute⟩
  · rintro ⟨l, w₀, reached, mute⟩
    rcases lead_cases reached with
      ⟨-, disabled, -⟩ | ⟨-, name', named', ⟨-, sampled, -⟩ | ⟨-, -, announced⟩⟩
    · exact Bool.noConfusion (enabled.symm.trans disabled)
    · exact Bool.noConfusion (recording.symm.trans sampled)
    · obtain rfl := Except.ok.inj (named.symm.trans named')
      exact ⟨w₀, announced, mute⟩

/-- Whatever the request, the settings and the outcome are: if the wrapped function does not end
the span under which it is called, the wrapper closes its span exactly if the span does not record,
or the outcome is no interrupt and the call has not come to a fault without a message; otherwise it
leaves the span open.  And if the wrapped function starts no span, there is no other one. -/
theorem tracedSend_closes_iff {i : Instrument} {q : Ref Request}
    (enabled : i.settings.enabled.truthy = true) (send : Sending σ κ) (session : σ) (arguments : κ)
    (leaves : Keeps (Preserves fun v => v.Open w.spans.next) (send session q arguments)) :
    ∃ outcome w', go (tracedSend i send session q arguments) w = (outcome, w') ∧
      (∀ path, w.pathOf q = .ok path → w'.spans.Has w.spans.next) ∧
      (w'.spans.Has w.spans.next →
        (w'.Closed w.spans.next ↔ (i.provider = .recording →
          Contained (fun _ => True) outcome ∧ ¬ Mute i q (send session q arguments) w)) ∧
        (w'.Open w.spans.next ↔ i.provider = .recording ∧
          (¬ Contained (fun _ => True) outcome ∨ Mute i q (send session q arguments) w))) ∧
      ((∀ v, (go (send session q arguments) v).2.spans.size = v.spans.size) →
        ∀ r, ¬ w.spans.Has r → w'.spans.Has r → r = w.spans.next) := by
  cases named : spanName (methodName (w.requests.get q)) ((w.requests.get q).url.getD "") with
  | error f =>
    -- An address without a path ends the sending before a span is started.
    refine ⟨.error f, w, ?_, fun path found => ?_, fun has => absurd has (Store.not_has_next _),
      fun _ r old new => absurd new old⟩
    · rw [tracedSend_of_enabled enabled, starting, go_bind, go_view]
      dsimp only
      rw [go_bind, go_lift, named]
    · rw [pathOf] at found
      rw [spanName, found] at named
      exact absurd named (by simp [Except.map])
  | ok name =>
    rw [tracedSend_of_enabled enabled, go_starting_of_name named]
    set w₁ := w.withSpan (w.requestSpan i.provider q name) with hw₁
    have running : w₁.Open w.spans.next := open_withSpan w rfl rfl
    have one : ∀ {a : Act (Option (Ref Response))}, Starts 0 a → ∀ r, ¬ w.spans.Has r →
        (go a w₁).2.spans.Has r → r = w.spans.next :=
      fun none r old new => eq_next_of_size (none w₁) old new
    by_cases records : i.provider = .recording
    · rw [if_pos (by rw [records]; rfl)]
      have closed := closed_recorded (s := i.settings) running q leaves w.context
      rw [muteUnder_iff enabled records named] at closed
      set ran := go (recorded i.settings q (send session q arguments) w.spans.next w.context) w₁
        with hran
      refine ⟨ran.1, ran.2, rfl, fun _ _ => closed.has, fun _ => ⟨?_, ?_⟩,
        fun none => one (starts_recorded q (starts_zero none) _ _)⟩
      · rw [closed.closed_iff, imp_iff_right records, not_or, not_not]
      · exact closed.open_iff.trans (and_iff_right records).symm
    · rw [if_neg (by simpa using records)]
      have closed := closed_sampledOut running leaves
      refine ⟨_, _, rfl, fun _ _ => closed.has, fun _ => ⟨?_, ?_⟩, fun none =>
        one ((starts_zero none).ensuring (keeps_finishSpan _))⟩
      · exact iff_of_true closed fun recording => absurd recording records
      · exact iff_of_false (fun running => running.not_closed closed) fun both => records both.1

/-- Functions that fail when a request is sent. -/
def failingBy (kind : FaultKind) : Sending Unit Unit := fun _ _ _ => throw (.scripted kind "stop")

theorem hasMessage_failing (kind : FaultKind) :
    HasMessage (α := Option (Ref Response)) (.error (.scripted kind "stop")) := by
  rintro f ⟨⟩ -
  cases kind <;> exact ⟨_, rfl⟩

/-- The fault comes out, and has closed the span unless it is an interrupt. -/
theorem go_failing_addressed (kind : FaultKind) :
    ∃ w', go (tracedSend requestsOnly (failingBy kind) () ⟨0⟩ ()) (addressed "mock://h/p") =
        (.error (.scripted kind "stop"), w') ∧
      w'.ClosedUnless ((Fault.scripted kind "stop").interrupts = true) ⟨0⟩ := by
  set w := addressed "mock://h/p" with hw
  have named : spanName (methodName (w.requests.get ⟨0⟩)) "mock://h/p" = .ok "GET /p" := by
    decide +kernel
  set w₁ := w.withSpan (w.requestSpan .recording ⟨0⟩ "GET /p")
  obtain ⟨w₀, announced, spans⟩ : ∃ w₀, go (announce requestsOnly.settings ⟨0⟩ ⟨0⟩) (w₁.under ⟨0⟩) =
      (.ok (), w₀) ∧ w₀.spans = w₁.spans := ⟨_, rfl, rfl⟩
  have running : w₀.Open ⟨0⟩ := (open_withSpan w rfl rfl).of_spans spans
  obtain ⟨g, w₂, failed, closed, same⟩ := go_orFail_of_open running (.scripted kind "stop")
  have worded := hasMessage_failing kind
  obtain rfl := same worded
  refine ⟨{ w₂ with context := w₁.context }, ?_, ?_⟩
  · have ended : go (ensuring (orFail ⟨0⟩ (.error (.scripted kind "stop")))
        (change fun w' => { w' with context := w₁.context })) w₀ =
          (.error (.scripted kind "stop"), { w₂ with context := w₁.context }) := by
      rw [go_ensuring, failed]
      rfl
    rw [tracedSend_of_enabled rfl, go_starting_of_name (w := w) named,
      if_pos (show (requestsOnly.provider == .recording) = true from rfl)]
    exact go_bind_of_error
      ((go_sendUnder_of_announce announced (failingBy kind () ⟨0⟩ ())).trans ended) _
  · exact (closed.of_iff (or_iff_left (not_not_intro worded))).of_spans rfl

/-- A connection that is refused closes the span. -/
theorem tracedSend_closes_iff_refused :
    ∃ w', go (tracedSend requestsOnly (failingBy .connection) () ⟨0⟩ ()) (addressed "mock://h/p") =
        (.error (.scripted .connection "stop"), w') ∧ w'.Closed ⟨0⟩ := by
  obtain ⟨outcome, w', ran, started, closes, -⟩ := tracedSend_closes_iff (i := requestsOnly)
    (q := ⟨0⟩) (w := addressed "mock://h/p") rfl (failingBy .connection) () () (keeps_throw _)
  obtain ⟨w'', failed, -⟩ := go_failing_addressed .connection
  obtain ⟨rfl, rfl⟩ := Prod.mk.inj (ran.symm.trans failed)
  refine ⟨w', ran, (closes (started "/p" rfl)).1.2 fun _ => ⟨rfl, ?_⟩⟩
  rintro ⟨l, w₀, -, mute⟩
  exact mute (hasMessage_failing .connection)

/-- A user who stops the program during the call leaves the span open. -/
theorem leaves_open_interrupted :
    ∃ w', go (tracedSend requestsOnly (failingBy .interrupt) () ⟨0⟩ ()) (addressed "mock://h/p") =
        (.error (.scripted .interrupt "stop"), w') ∧ w'.spans.Has ⟨0⟩ ∧ ¬ w'.Closed ⟨0⟩ := by
  obtain ⟨w', interrupted, closed⟩ := go_failing_addressed .interrupt
  exact ⟨w', interrupted, closed.has, fun ended => closed.closed_iff.1 ended rfl⟩

end Act
end HttpTap
