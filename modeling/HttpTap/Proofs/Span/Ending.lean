import HttpTap.Proofs.Capture.Swapping
import HttpTap.Proofs.Span.Telling

/-!
# The end of a span

A live span keeps what it is told until it ends, and counts the calls that come later.  So if it
has ended and counts none, it was ended once and nothing has been written to it since.  Such a
span is `World.Closed`; before its end it is `World.Open`.

Telling things to spans leaves a span open, whichever span is told, and so does recording.  Only
ending it closes it (`go_finishSpan_of_open`).
-/

namespace HttpTap
namespace World

/-- The span was started and has not ended. -/
structure Open (w : World) (r : Ref Span) : Prop where
  has : w.spans.Has r
  live : ∃ s, w.spans.get r = .live s ∧ s.ended = false ∧ s.late = 0

/-- The span has ended once, and nothing was written to it since. -/
structure Closed (w : World) (r : Ref Span) : Prop where
  has : w.spans.Has r
  live : ∃ s, w.spans.get r = .live s ∧ s.ended = true ∧ s.late = 0

/-- As many spans have been started as before. -/
def SameSpans (w w' : World) : Prop := w'.spans.size = w.spans.size

variable {w w' : World} {q r : Ref Span}

theorem Open.of_spans (h : w.Open r) (same : w'.spans = w.spans) : w'.Open r where
  has := same ▸ h.has
  live := same ▸ h.live

theorem Closed.of_spans (h : w.Closed r) (same : w'.spans = w.spans) : w'.Closed r where
  has := same ▸ h.has
  live := same ▸ h.live

theorem Open.not_closed (h : w.Open r) : ¬ w.Closed r := by
  rintro ⟨-, s', found', ended, -⟩
  obtain ⟨-, s, found, running, -⟩ := h
  obtain rfl := Span.live.inj (found.symm.trans found')
  rw [running] at ended
  exact Bool.noConfusion ended

theorem Open.of_get (h : w.Open r) {s : LiveSpan} (found : w.spans.get r = .live s) :
    s.ended = false ∧ s.late = 0 := by
  obtain ⟨-, s', found', running⟩ := h
  obtain rfl := Span.live.inj (found'.symm.trans found)
  exact running

theorem Open.failing (h : w.Open r) : (w.spans.get r).failing = [] := by
  obtain ⟨-, s, found, -⟩ := h
  rw [found]
  rfl

/-- An open span stays open if a span is put in the place of another one, or if what takes its own
place has not ended either. -/
theorem Open.set (h : w.Open r) {x : Span}
    (own : q = r → ∃ s, x = .live s ∧ s.ended = false ∧ s.late = 0) :
    ({ w with spans := w.spans.set q x } : World).Open r := by
  refine ⟨h.has, ?_⟩
  by_cases same : r = q
  · subst same
    obtain ⟨s, rfl, running⟩ := own rfl
    exact ⟨s, Store.get_set_same _ _ _, running⟩
  · obtain ⟨s, found, running⟩ := h.live
    exact ⟨s, (Store.get_set_other same x).trans found, running⟩

/-- A live span that goes on as it is takes the place of itself. -/
theorem Open.set_live (h : w.Open r) {s s' : LiveSpan} (found : w.spans.get q = .live s)
    (goesOn : s.ended = false → s'.ended = s.ended ∧ s'.late = s.late) :
    ({ w with spans := w.spans.set q (.live s') } : World).Open r := by
  refine h.set ?_
  rintro rfl
  obtain ⟨running, prompt⟩ := h.of_get found
  obtain ⟨ended, late⟩ := goesOn running
  exact ⟨s', rfl, ended.trans running, late.trans prompt⟩

theorem Open.set_probe (h : w.Open r) {p p' : Probe} (found : w.spans.get q = .probe p) :
    ({ w with spans := w.spans.set q (.probe p') } : World).Open r := by
  refine h.set ?_
  rintro rfl
  obtain ⟨-, s, live, -⟩ := h
  exact absurd (live.symm.trans found) (by simp)

end World

namespace Act

open World

variable {r : Ref Span}

/-! ## What leaves a span open -/

instance : SwappingFrame (Preserves fun w => w.Open r) where
  toReadingFrame := .of_consulted fun _ _ consulted running => running.of_spans consulted.spans
  setHeld _ _ _ _ _ running := running.of_spans rfl
  setRequest _ _ _ running := running.of_spans rfl
  setContent _ _ _ running := running.of_spans rfl

instance : TellingFrame (Preserves fun w => w.Open r) where
  setProbe _ _ _ _ found _ running := running.set_probe found
  setRunning _ _ _ _ found goesOn running := running.set_live found goesOn
  setSink _ _ _ running := running.of_spans rfl
  noted _ _ running := running.of_spans rfl

/-! ## Nothing is started -/

instance : IsPreorder World SameSpans where
  refl _ := rfl
  trans _ _ _ h h' := Eq.trans h' h

instance : SwappingFrame SameSpans where
  toReadingFrame := .of_consulted fun _ _ consulted => congrArg Store.size consulted.spans
  setHeld _ _ _ _ _ := rfl
  setRequest _ _ _ := rfl
  setContent _ _ _ := rfl

instance : EndingFrame SameSpans where
  setProbe _ _ _ _ _ _ := rfl
  setRunning _ _ _ _ _ _ := rfl
  setSink _ _ _ := rfl
  noted _ _ := rfl
  setLive _ _ _ _ _ := rfl
  finished _ _ := rfl

/-! ## The end -/

/-- An open span ends without a fault. -/
theorem go_finishSpan_of_open {w : World} (running : w.Open r) :
    ∃ w', go (finishSpan r) w = (.ok (), w') ∧ w'.Closed r := by
  obtain ⟨s, found, open_, prompt⟩ := running.live
  have finished : s.finish = { s with ended := true } := by
    rw [LiveSpan.finish, if_neg (by rw [open_]; exact Bool.false_ne_true)]
  set w₁ : World := { w with spans := w.spans.set r (.live s.finish) } with hw₁
  have closed : w₁.Closed r :=
    ⟨running.has, s.finish, Store.get_set_same _ _ _, by rw [finished], by rw [finished]; exact prompt⟩
  rw [finishSpan, go_bind, go_view, found]
  show ∃ w', go (if s.recording && !s.ended then
    change fun w => { w with finished := r :: w.finished } else pure ()) w₁ = _ ∧ _
  split
  · exact ⟨_, rfl, closed.of_spans rfl⟩
  · exact ⟨w₁, rfl, closed⟩

/-- Closing the span of a response ends it, whatever becomes of the status. -/
theorem closed_closeSpan {w : World} (running : w.Open r) (m : Option (Ref Message)) :
    (go (closeSpan r m) w).2.Closed r := by
  have still : (go (attempt (tellStatus r m) fun f =>
      say (.contained handlerChannel "Failed to set span status from response" f)) w).2.Open r :=
    (keeps_tellStatus (R := Preserves fun w => w.Open r) r m).attempt (fun f => keeps_say _) w running
  obtain ⟨w', finished, closed⟩ := go_finishSpan_of_open still
  rw [closeSpan, go_ensuring, finished]
  exact closed

end Act
end HttpTap
