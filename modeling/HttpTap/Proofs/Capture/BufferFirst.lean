import HttpTap.Proofs.Capture.Attributes
import HttpTap.Proofs.Span.Reporting

/-!
# Buffering first changes nothing that is recorded

A streamed response may be recorded as it is, or its content may be loaded first and recorded
afterwards.  The length comes about in different ways then.  On the wire it is the declared one, or
unknown if the content is packed, in which case the length that is observed while buffering steps
in.  Once loaded it is zero if there is nothing, the length of what was loaded if that is packed,
and otherwise the declared one, or what was loaded if none is declared.

`Response.recorded_loaded` says that the attributes are the same either way, whatever the headers
say, and `onEnd_bufferFirst` that a sink ends up with the same entries.  A sink may fail at any of
the attributes; the two runs then fail at the same one (`putAttributes_congr`).
-/

namespace HttpTap

/-- The response with its content loaded. -/
def Response.loaded (p : Response) (c : Bytes) : Response :=
  { p with content := .held (.bytes c), consumed := true }

/-! ## The two lengths -/

/-- A body of known bytes and length. -/
theorem capturedBody_int {limit d : Int} {read : BoundedRead} (filled : read.data ≠ [])
    (observed : Option Nat) :
    capturedBody limit (.int d) observed read =
      .ok (some ⟨capturedText read.data (read.more || decide (limit < d)),
        .int (if 0 ≤ d then d else observed.getD read.data.length),
        read.more || decide (limit < d)⟩) := by
  refine capturedBody_of_parts filled ?_ ?_
  · rw [Value.exceeds_of_integer? rfl]
    cases read.more <;> rfl
  · rw [bodySize, Value.reaches_of_integer? rfl]
    by_cases known : 0 ≤ d
    · rw [decide_eq_true known, if_pos known]
      rfl
    · rw [decide_eq_false known, if_neg known]
      rfl

theorem attributesFrom_nil (keys : BodyKeys) (limit : Int) (length : Except Fault Int)
    (observed : Option Nat) : attributesFrom keys limit length observed [] = [] := by
  unfold attributesFrom
  cases length with
  | error f => rfl
  | ok d =>
    dsimp only
    split
    · rfl
    · rw [show decide (limit.toNat < ([] : Bytes).length) = false from rfl, capturedBody_of_nil]
      rfl

/-- An unknown length is made up for by the observed one. -/
theorem attributesFrom_unknown {limit d : Int} {c : Bytes} (keys : BodyKeys) (pos : 0 < limit)
    (unknown : d < 0) (filled : c ≠ []) :
    attributesFrom keys limit (.ok d) (some c.length) c =
      attributesFrom keys limit (.ok c.length) none c := by
  have some_bytes : (c.length : Int) ≠ 0 := by
    have := List.length_pos_iff.2 filled
    omega
  have bytes := take_ne_nil pos filled
  have within : ¬ limit < d := by omega
  have cut : (decide (limit.toNat < c.length) || decide (limit < d)) =
      (decide (limit.toNat < c.length) || decide (limit < (c.length : Int))) := by
    rw [decide_eq_false within, Bool.or_false, Bool.eq_iff_iff, Bool.or_eq_true, decide_eq_true_iff,
      decide_eq_true_iff]
    omega
  rw [attributesFrom, attributesFrom, if_neg some_bytes, if_neg (by omega), capturedBody_int bytes,
    capturedBody_int bytes]
  dsimp only
  rw [cut, if_pos (Int.natCast_nonneg _), if_neg (by omega)]
  rfl

/-- A length that is declared leaves nothing to the observed one. -/
theorem attributesFrom_declared {limit d : Int} {c : Bytes} (keys : BodyKeys) (pos : 0 < limit)
    (known : 0 ≤ d) (filled : c ≠ []) (observed : Option Nat) :
    attributesFrom keys limit (.ok d) observed c = attributesFrom keys limit (.ok d) none c := by
  have bytes := take_ne_nil pos filled
  rw [attributesFrom, attributesFrom, capturedBody_int bytes, capturedBody_int bytes, if_pos known,
    if_pos known]

/-- The attributes of a response do not depend on whether its content was loaded before. -/
theorem Response.recorded_loaded {p : Response} {c : Bytes} {limit : Int} (pos : 0 < limit)
    (unread : p.content = .unread) : (p.loaded c).recorded limit c = p.recorded limit c := by
  have same : (p.loaded c).headers = p.headers := rfl
  rw [recorded, recorded, same, unread]
  cases headers : p.headers with
  | none => rfl
  | some h =>
    dsimp only
    by_cases filled : c = []
    · subst filled
      rw [attributesFrom_nil, attributesFrom_nil]
    have some_bytes : c.length ≠ 0 := fun none => filled (List.eq_nil_of_length_eq_zero none)
    rw [responseLength_held (.inl rfl), if_neg some_bytes, responseLength_unread unread, same]
    show attributesFrom _ _ _ none c = attributesFrom _ _ _ (some c.length) c
    cases isPacked (h.lookup encodingHeader) with
    | error f => rfl
    | ok packed =>
      cases packed with
      | true => exact (attributesFrom_unknown responseKeys pos (by decide) filled).symm
      | false =>
        have declares := declaredLength_contained p.headers
        cases declared : declaredLength p.headers with
        | error f => rfl
        | ok d =>
          rw [declared] at declares
          show attributesFrom _ _ (if d = unknownLength then _ else _ : Except Fault Int) none c =
            attributesFrom _ _ (.ok d) (some c.length) c
          by_cases unknown : d = unknownLength
          · rw [if_pos unknown, unknown]
            exact (attributesFrom_unknown responseKeys pos (by decide) filled).symm
          · rw [if_neg unknown]
            exact (attributesFrom_declared responseKeys pos (declares.resolve_left unknown) filled
              _).symm

/-! ## The two runs -/

/-- A sink that has taken one attribute more. -/
def Sink.put (s : Sink) (key : String) (v : Value) : Sink :=
  ⟨putEntry s.entries key v, s.remaining.map (· - 1)⟩

/-- A span that was told an attribute more. -/
def Span.put (s : Span) (key : String) (v : Value) : Span :=
  match s with
  | .probe p => .probe { p with values := (key, v) :: p.values }
  | .live x => .live (x.setAttribute key v)

/-- What a target has been told so far. -/
def Target.state (t : Target) (w : World) : Sink ⊕ Span :=
  match t with
  | .sink r => .inl (w.sinks.get r)
  | .span r => .inr (w.spans.get r)

namespace Act

open World

variable {w w' : World} {t t' : Target}

theorem state_of_untold (untold : w.Untold w') (t : Target) : t.state w' = t.state w := by
  cases t with
  | sink r => exact congrArg (fun sinks => Sum.inl (sinks.get r)) untold.sinks
  | span r => exact congrArg (fun spans => Sum.inr (spans.get r)) untold.spans

/-- A sink takes an attribute unless it has taken as many as it can. -/
theorem go_putAttribute_sink (r : Ref Sink) (key : String) (v : Value) (w : World) :
    go (putAttribute (.sink r) key v) w =
      if (w.sinks.get r).remaining = some 0 then (.error (.misuse .runtime "put failed"), w)
      else (.ok (), { w with sinks := w.sinks.set r ((w.sinks.get r).put key v) }) := by
  rw [putAttribute, go_bind, go_view]
  generalize w.sinks.get r = s
  obtain ⟨entries, remaining⟩ := s
  cases remaining with
  | none => rfl
  | some n => cases n <;> rfl

/-- What a span answers to an attribute, and what becomes of it, depends on the span alone. -/
theorem go_setAttribute_span (r : Ref Span) (key : String) (v : Value) (w : World) :
    (go (setAttribute r key v) w).1 = SpanMethod.setAttribute.answer (w.spans.get r).failing ∧
      (go (setAttribute r key v) w).2.spans.get r = (w.spans.get r).put key v := by
  rw [setAttribute, go_bind, go_view]
  dsimp only
  cases w.spans.get r with
  | live x => exact ⟨rfl, Store.get_set_same _ _ _⟩
  | probe p =>
    dsimp only
    rw [setSpan, go_bind, go_change]
    dsimp only
    rw [go_callProbe_eq]
    exact ⟨rfl, Store.get_set_same _ _ _⟩

/-- Targets that have been told the same go on alike. -/
theorem putAttribute_congr (same : t'.state w' = t.state w) (key : String) (v : Value) :
    (go (putAttribute t' key v) w').1 = (go (putAttribute t key v) w).1 ∧
      t'.state (go (putAttribute t' key v) w').2 = t.state (go (putAttribute t key v) w).2 := by
  cases t with
  | sink r =>
    cases t' with
    | span r' => exact nomatch same
    | sink r' =>
      have found : w'.sinks.get r' = w.sinks.get r := Sum.inl.inj same
      rw [go_putAttribute_sink, go_putAttribute_sink, found]
      by_cases full : (w.sinks.get r).remaining = some 0
      · rw [if_pos full, if_pos full]
        exact ⟨rfl, same⟩
      · rw [if_neg full, if_neg full]
        refine ⟨rfl, congrArg Sum.inl ?_⟩
        exact (Store.get_set_same _ _ _).trans (Store.get_set_same _ _ _).symm
  | span r =>
    cases t' with
    | sink r' => exact nomatch same
    | span r' =>
      have found : w'.spans.get r' = w.spans.get r := Sum.inr.inj same
      obtain ⟨outcome, put⟩ := go_setAttribute_span r key v w
      obtain ⟨outcome', put'⟩ := go_setAttribute_span r' key v w'
      rw [found] at outcome' put'
      exact ⟨outcome'.trans outcome.symm, congrArg Sum.inr (put'.trans put.symm)⟩

theorem putAttributes_congr (attributes : List (String × Value)) (same : t'.state w' = t.state w) :
    t'.state (go (putAttributes t' attributes) w').2 =
      t.state (go (putAttributes t attributes) w).2 := by
  induction attributes generalizing w w' with
  | nil => exact same
  | cons a as ih =>
    obtain ⟨outcome, state⟩ := putAttribute_congr same a.1 a.2
    show t'.state (go (putAttribute t' a.1 a.2 >>= fun _ => putAttributes t' as) w').2 =
      t.state (go (putAttribute t a.1 a.2 >>= fun _ => putAttributes t as) w).2
    rw [go_bind, go_bind]
    generalize go (putAttribute t' a.1 a.2) w' = x' at outcome state
    generalize go (putAttribute t a.1 a.2) w = x at outcome state
    obtain ⟨r', v'⟩ := x'
    obtain ⟨r, v⟩ := x
    obtain rfl : r' = r := outcome
    cases r' with
    | error f => exact state
    | ok _ => exact ih state

section Recorder

variable {s : CaptureSettings} {m : Ref Message} {p : Ref Response} {c : Bytes}

/-- Content on the wire is loaded, and nothing else about the response changes. -/
theorem exists_makeResponseRepeatable_loaded (records : s.recordsResponses = true)
    (message : w.messages.get m = .response (some p)) (streams : w.Streams p c) :
    ∃ w₁, go (makeResponseRepeatable s (some m)) w = (.ok (), w₁) ∧
      w₁.responses.get p = (w.responses.get p).loaded c ∧
      w₁.messages.get m = .response (some p) ∧ w.Untold w₁ ∧ w.Spares (.raw p) w₁ := by
  obtain ⟨w₁, buffered, loaded, messages, -, spares⟩ :=
    go_makeResponseRepeatable_of_streams records message streams
  have faces := (keeps_makeResponseRepeatable (R := SameFaces) s (some m)).of_go buffered
  have status := faces.status p
  have headers := faces.headers p
  have raw := faces.raw p
  refine ⟨w₁, buffered, ?_, by rw [messages]; exact message,
    (keeps_makeResponseRepeatable (R := Untold) s (some m)).of_go buffered, spares⟩
  have content := loaded.content
  have consumed := loaded.consumed
  generalize w₁.responses.get p = p' at status headers raw content consumed
  obtain ⟨_, _, _, _, _⟩ := p'
  obtain ⟨rfl, rfl, rfl, rfl, rfl⟩ : _ ∧ _ ∧ _ ∧ _ ∧ _ :=
    ⟨status, headers, content, consumed, raw⟩
  rfl

/-- Recording a response puts its attributes. -/
theorem exists_onEnd_state (t : Target) (records : s.recordsResponses = true)
    (message : w.messages.get m = .response (some p)) (carries : w.Carries p c) :
    ∃ v v', go (onEnd s t (some m)) w = (.ok (), v) ∧ t.state v' = t.state w ∧
      t.state v = t.state (go (putAttributes t ((w.responses.get p).recorded s.limit c)) v').2 ∧
      w.Spares (w.contentOrigin p) v := by
  obtain ⟨v', given, spares⟩ := go_attributesOf_response message carries s.limit_pos
  obtain ⟨v, recorded, told, untold⟩ := go_onEnd_of_attributes t records given
  exact ⟨v, v', recorded, state_of_untold ((untold_attributesOf m true s.limit responseKeys).of_go
    given) t, state_of_untold untold t, spares.trans (told.untouched.spares _)⟩

/-- Two responses have the same headers, and their raw streams deliver the same bytes.  If the
content of one is loaded first and then recorded, and the other is recorded as it is, then targets
that were alike before are alike afterwards: the same attributes are put. -/
theorem onEnd_bufferFirst {m' : Ref Message} {p' : Ref Response}
    (message : w.messages.get m = .response (some p)) (streams : w.Streams p c)
    (message' : w'.messages.get m' = .response (some p')) (streams' : w'.Streams p' c)
    (headers : (w'.responses.get p').headers = (w.responses.get p).headers)
    (alike : t'.state w' = t.state w) :
    ∃ v v', go (makeResponseRepeatable s (some m) >>= fun _ => onEnd s t (some m)) w = (.ok (), v) ∧
      go (onEnd s t' (some m')) w' = (.ok (), v') ∧ t'.state v' = t.state v := by
  by_cases records : s.recordsResponses = true
  · obtain ⟨w₁, buffered, loaded, message₁, untold, -⟩ :=
      exists_makeResponseRepeatable_loaded records message streams
    obtain ⟨v, u, ran, before, after, -⟩ := exists_onEnd_state t records message₁
      (.inl (by rw [loaded]; rfl))
    obtain ⟨v', u', ran', before', after', -⟩ := exists_onEnd_state t' records message'
      (.inr (.inr streams'))
    have attributes : (w'.responses.get p').recorded s.limit c =
        (w₁.responses.get p).recorded s.limit c := by
      rw [loaded, Response.recorded_loaded s.limit_pos streams.unread]
      exact Response.recorded_congr headers (by rw [streams.unread, streams'.unread])
        (.inr (.inr streams)) (.inr (.inr streams')) ⟨rfl, rfl⟩
    have start : t'.state u' = t.state u :=
      (before'.trans alike).trans ((before.trans (state_of_untold untold t)).symm)
    refine ⟨v, v', (go_bind_of_ok buffered _).trans ran, ran', ?_⟩
    rw [after', after, attributes]
    exact putAttributes_congr _ start
  · have off : ∀ (w : World) (t : Target) (m : Ref Message),
        go (onEnd s t (some m)) w = (.ok (), w) := by
      intro w t m
      rw [onEnd, if_neg records]
      rfl
    have unbuffered : go (makeResponseRepeatable s (some m)) w = (.ok (), w) := by
      rw [makeResponseRepeatable, if_neg records]
      rfl
    exact ⟨w, w', (go_bind_of_ok unbuffered _).trans (off w t m), off w' t' m', alike⟩

/-- Settings by which responses are recorded. -/
def responsesAlone : CaptureSettings := { CaptureSettings.standard with responses := .bool true }

/-- Three bytes, given so many at a time. -/
def inReadsOf (n : Nat) : Source :=
  .ofStandIn ⟨"raw", .data [104, 105, 33] (some n) none, false, none, true, []⟩

/-- Two packed responses with the same headers, which do not fit what the wire delivers. -/
def twins : World :=
  let response (source : Nat) : Response := ⟨.int 200, some ⟨[("Content-Length", .text "99"),
    ("Content-Encoding", .text "gzip")]⟩, .unread, false, some ⟨source⟩⟩
  { World.empty with
    sources := ((Store.empty.alloc (inReadsOf 1)).2.alloc (inReadsOf 2)).2
    responses := ((Store.empty.alloc (response 0)).2.alloc (response 1)).2
    messages := ((Store.empty.alloc (.response (some ⟨0⟩))).2.alloc (.response (some ⟨1⟩))).2 }

/-- A sink for each of them. -/
theorem onEnd_bufferFirst_twins :
    ∃ v v', go (makeResponseRepeatable responsesAlone (some ⟨0⟩) >>= fun _ =>
        onEnd responsesAlone (.sink ⟨0⟩) (some ⟨0⟩)) twins = (.ok (), v) ∧
      go (onEnd responsesAlone (.sink ⟨1⟩) (some ⟨1⟩)) twins = (.ok (), v') ∧
      v'.sinks.get ⟨1⟩ = v.sinks.get ⟨0⟩ := by
  have delivers (n : Nat) (some_bytes : 0 < n) : (Tower.reader (inReadsOf n).floors).Delivers
      streamChunkSize (inReadsOf n).state [104, 105, 33] :=
    (StandIn.delivers (d := ⟨"raw", .data [104, 105, 33] (some n) none, false, none, true, []⟩)
      rfl rfl (by simpa using Nat.ne_of_gt some_bytes) streamChunkSize).embed Ground.embeds_standIn
  have streams : twins.Streams ⟨0⟩ [104, 105, 33] := ⟨rfl, rfl, ⟨_, rfl⟩, delivers 1 (by decide)⟩
  have streams' : twins.Streams ⟨1⟩ [104, 105, 33] := ⟨rfl, rfl, ⟨_, rfl⟩, delivers 2 (by decide)⟩
  have start : (Target.sink ⟨1⟩).state twins = (Target.sink ⟨0⟩).state twins := rfl
  obtain ⟨v, v', first, direct, alike⟩ := onEnd_bufferFirst (s := responsesAlone)
    (show twins.messages.get ⟨0⟩ = .response (some ⟨0⟩) from rfl) streams
    (show twins.messages.get ⟨1⟩ = .response (some ⟨1⟩) from rfl) streams' rfl start
  exact ⟨v, v', first, direct, Sum.inl.inj alike⟩

end Recorder

end Act
end HttpTap
