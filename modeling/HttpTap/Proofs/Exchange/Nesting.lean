import HttpTap.Proofs.Capture.HandingOn
import HttpTap.Proofs.Exchange.ResponseContent

/-!
# Requests within requests

The function that a wrapper wraps is a program of its own, and so is a handler.  Either may send
further requests through wrappers, and so on to any depth; and whatever fails at one level may be
caught at another one, interrupts included.  A `Program` is written down with all of its levels, and
`Program.run` runs it.

## The scope

Written down like this, it is plain which context each part of a program should find.  The parts of
a sequence have that of the whole.  A wrapped function has that of its caller with the new span in
it, if there is one that records.  A handler has the context that was given for it; within a wrapper
this is the one from before the span.  `Reaches` says that one part of a program comes to run while
the whole does, in which world, and what its scope is.

What is current while a program runs, on the other hand, is set and put back on the way.
`context_eq_scope` is that both agree: wherever a part of a program comes to run, however deep it is
and whatever has failed before, the current context is its scope, and it is so again when the part
has ended in whatever way.  The induction is on the way to the part, and what it needs of the parts
that were run before is that each leaves the context as it was (`keeps_run`).
-/

namespace HttpTap

open World Act

/-! ## Programs -/

/-- What a program does, down to the steps in which no context is set. -/
inductive Program : Type → Type 1 where
  /-- A step of the program's own, which leaves the context as it was. -/
  | own {α : Type} (a : Act α) (still : Keeps SameContext a) : Program α
  | andThen {α β : Type} (p : Program α) (next : α → Program β) : Program β
  /-- Go on with the outcome, whatever it is. -/
  | observing {α : Type} (p : Program α) : Program (Except Fault α)
  | under {α : Type} (c : Context) (p : Program α) : Program α
  /-- Send a request through a wrapper. -/
  | sending {σ κ : Type} (i : Instrument)
      (original : σ → Ref Request → κ → Program (Option (Ref Response))) (session : σ)
      (q : Ref Request) (arguments : κ) : Program (Option (Ref Response))
  /-- Hand a response to a wrapped handler. -/
  | handling {α : Type} (s : CaptureSettings) (span : Ref Span) (parent : Option Context)
      (m : Option (Ref Message)) (handler : Program α) : Program α

/-- The scope of the function that is called, if that of the caller is `c`. -/
def Lead.scope (l : Lead) (c : Context) : Context :=
  match l with
  | .recording span _ => { c with span := some span }
  | .sampledOut _ | .plain => c

namespace World

/-- If a function is called under a span that records, the span was started for the call. -/
def Starts (w : World) (i : Instrument) (l : Lead) (w' : World) : Prop :=
  ∀ span present, l = .recording span present →
    i.provider = .recording ∧ ¬ w.spans.Has span ∧ w'.Open span

end World

namespace Program

variable {α β σ κ : Type} {w w' w₀ w₁ : World} {c c' : Context}

/-- Run a program. -/
def run {α : Type} : Program α → Act α
  | own a _ => a
  | andThen p next => p.run >>= fun x => (next x).run
  | observing p => observe p.run
  | under c p => within c p.run
  | sending i original session q arguments =>
    tracedSend i (fun session q arguments => (original session q arguments).run) session q arguments
  | handling s span parent m handler => handleResponse s span parent m handler.run

/-- The handler that hands a value back. -/
def handBack (x : α) : Program α := own (pure x) (keeps_pure x)

/-- Sending by a function that may have been wrapped several times. -/
def stacked (bare : σ → Ref Request → κ → Program (Option (Ref Response))) :
    Sender → σ → Ref Request → κ → Program (Option (Ref Response))
  | .bare => bare
  | .wrapped i inner => fun session q arguments =>
    andThen (own (view (·.instruments.get i)) (keeps_view _)) fun i =>
      sending i (stacked bare inner) session q arguments

/-- While a program runs, one part of it comes to run: from the program, the world in which it
starts and its scope to the part, the world in which that starts and the scope of that. -/
inductive Reaches : {α β : Type} →
    Program α → World → Context → Program β → World → Context → Prop
  | here {α : Type} {p : Program α} {w : World} {c : Context} : Reaches p w c p w c
  | first {α β γ : Type} {p : Program α} {next : α → Program β} {q : Program γ} {w w' : World}
      {c c' : Context} (way : Reaches p w c q w' c') : Reaches (andThen p next) w c q w' c'
  | next {α β γ : Type} {p : Program α} {x : α} {next : α → Program β} {q : Program γ}
      {w w₁ w' : World} {c c' : Context} (ran : go p.run w = (.ok x, w₁))
      (way : Reaches (next x) w₁ c q w' c') : Reaches (andThen p next) w c q w' c'
  | observed {α β : Type} {p : Program α} {q : Program β} {w w' : World} {c c' : Context}
      (way : Reaches p w c q w' c') : Reaches (observing p) w c q w' c'
  | under {α β : Type} {p : Program α} {q : Program β} {w w' : World} {c c' d : Context}
      (way : Reaches p { w with context := d } d q w' c') : Reaches (under d p) w c q w' c'
  /-- The wrapped function is called. -/
  | called {σ κ β : Type} {i : Instrument}
      {original : σ → Ref Request → κ → Program (Option (Ref Response))} {session : σ}
      {r : Ref Request} {arguments : κ} {l : Lead} {q : Program β} {w w₀ w' : World}
      {c c' : Context} (led : go (lead i r) w = (.ok l, w₀))
      (way : Reaches (original session r arguments) w₀ (l.scope c) q w' c') :
      Reaches (sending i original session r arguments) w c q w' c'
  /-- The wrapper hands its response to a handler of its own. -/
  | answered {σ κ β : Type} {i : Instrument}
      {original : σ → Ref Request → κ → Program (Option (Ref Response))} {session : σ}
      {r : Ref Request} {arguments : κ} {span : Ref Span} {present : Context}
      {p : Option (Ref Response)} {q : Program β} {w w₀ w₁ w₂ w' : World} {c c' : Context}
      (led : go (lead i r) w = (.ok (.recording span present), w₀))
      (sent : go (original session r arguments).run w₀ = (.ok p, w₁))
      (hands : (w₁.returned present p).Hands i.settings span (some present)
        (some w₁.messages.next) w₂)
      (way : Reaches (handBack p) w₂ c q w' c') :
      Reaches (sending i original session r arguments) w c q w' c'
  | handled {α β : Type} {s : CaptureSettings} {span : Ref Span} {parent : Option Context}
      {m : Option (Ref Message)} {handler : Program α} {q : Program β} {w w₁ w' : World}
      {c c' : Context} (hands : w.Hands s span parent m w₁)
      (way : Reaches handler w₁ (parent.getD c) q w' c') :
      Reaches (handling s span parent m handler) w c q w' c'

/-- What is built on a function or a handler runs that where `Reaches` says, once, and goes on with
what it comes to. -/
def GoesOn {α : Type} : Program α → World → Prop
  | sending i original session q arguments, w => ∀ l w₀, go (lead i q) w = (.ok l, w₀) →
      w.Starts i l w₀ ∧
      go (sending i original session q arguments).run w =
        go (settle i.settings (go (original session q arguments).run w₀).1 l)
          (go (original session q arguments).run w₀).2
  | handling s span parent m handler, w => ∀ w₀, w.Hands s span parent m w₀ →
      go (handling s span parent m handler).run w =
        ((go handler.run w₀).1,
          parent.elim (go handler.run w₀).2 fun _ =>
            { (go handler.run w₀).2 with context := w.context })
  | _, _ => True

end Program

namespace Act

variable {α σ κ : Type} {w w₀ : World} {i : Instrument} {q : Ref Request} {l : Lead}

/-! ## Whatever sets the context puts it back -/

theorem keeps_within (c : Context) (a : Act α) : Keeps SameContext (within c a) := by
  intro w
  rw [go_within]
  rfl

theorem keeps_startSpan (provider : Provider) (name : String) (isClient : Bool)
    (attributes : List (String × Value)) :
    Keeps SameContext (startSpan provider name isClient attributes) := by
  intro w
  rw [go_startSpan]
  rfl

theorem keeps_isRecording {R : World → World → Prop} [IsPreorder World R] (r : Ref Span) :
    Keeps R (isRecording r) := by
  refine (keeps_view _).bind fun span => ?_
  cases span with
  | live x => exact keeps_pure _
  | probe p => exact keeps_pure _

/-- Whatever is sent under a span. -/
theorem keeps_sendUnder (s : CaptureSettings) (span : Ref Span) (q : Ref Request)
    (send : Act (Option (Ref Response))) : Keeps SameContext (sendUnder s span q send) :=
  (keeps_view _).bind fun _ => keeps_within _ _

theorem keeps_handleResponse (s : CaptureSettings) (span : Ref Span) (parent : Option Context)
    (m : Option (Ref Message)) {handler : Act α}
    (kept : parent = none → Keeps SameContext handler) :
    Keeps SameContext (handleResponse s span parent m handler) := by
  unfold handleResponse
  refine (keeps_makeResponseRepeatable s m).bind fun _ =>
    (keeps_onEnd s (.span span) m).bind fun _ => ?_
  have closed : Keeps SameContext (closeSpan span m) :=
    ((keeps_tellStatus span m).attempt fun _ => keeps_say _).ensuring (keeps_finishSpan span)
  refine closed.bind fun _ => ?_
  cases parent with
  | none => exact kept rfl
  | some c => exact keeps_within c handler

/-- A wrapper leaves the context as it was, if the function that it wraps does. -/
theorem keeps_tracedSend (i : Instrument) {send : Sending σ κ} {session : σ} {q : Ref Request}
    {arguments : κ} (kept : Keeps SameContext (send session q arguments)) :
    Keeps SameContext (tracedSend i send session q arguments) := by
  unfold tracedSend
  split
  case isFalse => exact kept
  case isTrue =>
    refine (keeps_view _).bind fun request => (keeps_lift _).bind fun name =>
      (keeps_view _).bind fun present => (keeps_startSpan _ _ _ _).bind fun span =>
      (keeps_isRecording span).bind fun records => ?_
    cases records with
    | true =>
      exact (keeps_sendUnder _ _ _ _).bind fun p => Keeps.bind (fun _ => rfl) fun m =>
        keeps_handleResponse _ _ _ _ nofun
    | false => exact kept.ensuring (keeps_finishSpan span)

/-! ## How the wrapped function is called -/

/-- Announcing a request leaves alone what recording its body does. -/
theorem keeps_announce {R : World → World → Prop} [SwappingFrame R] [TellingFrame R]
    (made : ∀ m, Keeps R (newMessage m)) (s : CaptureSettings) (span : Ref Span) (q : Ref Request) :
    Keeps R (announce s span q) :=
  (made _).bind fun m => keeps_onStart s (.span span) (some m)

/-- The wrapped function is called under the context of the caller, with the new span in it if there
is one that records. -/
theorem context_of_lead (led : go (lead i q) w = (.ok l, w₀)) : w₀.context = l.scope w.context := by
  rcases lead_cases led with ⟨rfl, -, rfl⟩ | ⟨-, name, -, ⟨rfl, -, rfl⟩ | ⟨rfl, -, announced⟩⟩
  · rfl
  · rfl
  · have kept := keeps_announce (R := SameContext) (fun _ _ => rfl) i.settings w.spans.next q
    exact kept.of_go announced

/-- What is put back after the call is the context of the caller. -/
theorem present_of_lead {span : Ref Span} {present : Context}
    (led : go (lead i q) w = (.ok (.recording span present), w₀)) : present = w.context := by
  rcases lead_cases led with ⟨plain, -⟩ | ⟨-, name, -, ⟨sampled, -⟩ | ⟨recording, -⟩⟩
  · exact nomatch plain
  · exact nomatch sampled
  · exact (Lead.recording.inj recording).2

theorem starts_of_lead (led : go (lead i q) w = (.ok l, w₀)) : w.Starts i l w₀ := by
  rintro span present rfl
  rcases lead_cases led with
    ⟨plain, -⟩ | ⟨-, name, -, ⟨sampled, -⟩ | ⟨recording, records, announced⟩⟩
  · exact nomatch plain
  · exact nomatch sampled
  · obtain ⟨rfl, rfl⟩ := Lead.recording.inj recording
    have running : (w.withSpan (w.requestSpan i.provider q name)).Open w.spans.next :=
      open_withSpan w rfl rfl
    have kept := (keeps_announce (R := Preserves fun w' => w'.Open w.spans.next)
      (fun _ _ running => running.of_spans rfl) i.settings w.spans.next q).of_go announced
    exact ⟨eq_of_beq records, Store.not_has_next _, kept (running.of_spans rfl)⟩

end Act

namespace Program

variable {α β σ κ : Type} {w w' : World} {c c' : Context}

/-! ## Every part in its scope -/

/-- A program leaves the context as it was, however it ends. -/
theorem keeps_run (p : Program α) : Keeps SameContext p.run := by
  induction p with
  | own a still => exact still
  | andThen p next ihp ihnext => exact ihp.bind ihnext
  | observing p ih => exact ih.observe
  | under c p => exact keeps_within c p.run
  | sending i original session q arguments ih => exact keeps_tracedSend i (ih session q arguments)
  | handling s span parent m handler ih =>
    exact keeps_handleResponse s span parent m fun _ => ih

/-- Sending by a function that was wrapped several times is a program. -/
theorem run_stacked (bare : σ → Ref Request → κ → Program (Option (Ref Response))) (s : Sender)
    (session : σ) (q : Ref Request) (arguments : κ) :
    (stacked bare s session q arguments).run =
      sendBy (fun session q arguments => (bare session q arguments).run) s session q arguments := by
  induction s generalizing session q arguments with
  | bare => rfl
  | wrapped i inner ih =>
    have inside : (fun session q arguments => (stacked bare inner session q arguments).run) =
        sendBy (fun session q arguments => (bare session q arguments).run) inner :=
      funext fun session => funext fun q => funext fun arguments => ih session q arguments
    rw [sendBy, ← inside]
    rfl

theorem goesOn (p : Program α) (w : World) : p.GoesOn w := by
  cases p with
  | sending i original session q arguments =>
    exact fun l w₀ led => ⟨starts_of_lead led, go_tracedSend_of_lead led _ session arguments⟩
  | handling s span parent m handler => exact fun w₀ hands => go_handleResponse_of_hands hands _
  | _ => trivial

/-- On the way to a part, the current context is its scope. -/
theorem Reaches.context {p : Program α} {q : Program β} (way : Reaches p w c q w' c')
    (current : w.context = c) : w'.context = c' := by
  induction way with
  | here => exact current
  | first _ ih => exact ih current
  | next ran _ ih => exact ih (((keeps_run _).of_go ran).trans current)
  | observed _ ih => exact ih current
  | under _ ih => exact ih rfl
  | called led _ ih => exact ih ((context_of_lead led).trans (congrArg _ current))
  | answered led sent hands _ ih =>
    obtain rfl := present_of_lead led
    exact ih ((context_of_hands hands).trans current)
  | handled hands _ ih =>
    exact ih ((context_of_hands hands).trans (congrArg _ current))

/-- Wherever a part of a program comes to run, however many wrappers and handlers it is inside of
and whatever has failed before, interrupts included: the current context is the scope of the part,
and it is again when the part has ended in whatever way.  A span that is in the scope of a wrapped
function was started for the call. -/
theorem context_eq_scope {p : Program α} {q : Program β} (way : Reaches p w w.context q w' c') :
    w'.context = c' ∧ (go q.run w').2.context = c' ∧ q.GoesOn w' := by
  have current := way.context rfl
  exact ⟨current, (keeps_run q w').trans current, q.goesOn w'⟩

/-- A user who stops the program. -/
def stopped : Program (Option (Ref Response)) :=
  own (throw (.scripted .interrupt "stop")) (keeps_throw _)

/-- A request that is sent through two wrappers, the second one inside of the first. -/
def sentTwice : Program (Option (Ref Response)) :=
  sending responsesOnly (fun _ q _ => sending responsesOnly (fun _ _ _ => stopped) () q ())
    () ⟨0⟩ ()

theorem exists_lead_addressed (found : w.requests = (addressed "mock://h/p").requests) :
    ∃ w₀, go (lead responsesOnly ⟨0⟩) w = (.ok (.recording w.spans.next w.context), w₀) ∧
      w₀.requests = w.requests ∧ w₀.spans.size = w.spans.size + 1 := by
  have named : spanName (methodName (w.requests.get ⟨0⟩)) ((w.requests.get ⟨0⟩).url.getD "") =
      .ok "GET /p" := by
    rw [found]
    decide +kernel
  exact ⟨_, go_lead_of_announce rfl rfl named rfl, rfl, rfl⟩

/-- The innermost call is stopped under the second span, and the interrupt comes out of both
wrappers with no span around the caller. -/
theorem context_eq_scope_stopped :
    (∃ w', Reaches sentTwice (addressed "mock://h/p") ⟨none, none⟩ stopped w' ⟨none, some ⟨1⟩⟩ ∧
      w'.context = ⟨none, some ⟨1⟩⟩ ∧ (go stopped.run w').2.context = ⟨none, some ⟨1⟩⟩) ∧
    (go sentTwice.run (addressed "mock://h/p")).2.context = ⟨none, none⟩ := by
  refine ⟨?_, (context_eq_scope (.here (p := sentTwice) (w := addressed "mock://h/p"))).2.1⟩
  obtain ⟨w₀, led, same, size⟩ := exists_lead_addressed (w := addressed "mock://h/p") rfl
  obtain ⟨w₁, led', -⟩ := exists_lead_addressed same
  have second : w₀.spans.next = ⟨1⟩ := congrArg Ref.mk size
  rw [second] at led'
  have way : Reaches sentTwice (addressed "mock://h/p") ⟨none, none⟩ stopped w₁ ⟨none, some ⟨1⟩⟩ :=
    .called led (.called led' .here)
  exact ⟨w₁, way, (context_eq_scope way).1, (context_eq_scope way).2.1⟩

end Program
end HttpTap
