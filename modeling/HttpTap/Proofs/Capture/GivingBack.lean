import HttpTap.Proofs.Capture.Attributes
import HttpTap.Proofs.Capture.Copies
import HttpTap.Proofs.Span.Reporting
import HttpTap.Proofs.World.Lending

/-!
# Captures give back what they borrow

A capture opens streams and owns them from then on: whatever the reads come to, an answer, a fault
that is contained or an interrupt, each stream is closed once, after its last read, and before the
capture returns or fails.  At most two streams are opened, one to buffer the entity and one to read
what was buffered, or what is left of the entity if buffering has failed.

`Act.Lends n e a w` says it of an action that is started in the world `w`: what happens to streams
is at most `n` loans of the entity `e` and of copies of it.  The lemmas follow the actions of a
capture.  A file that is the body of a request is never on loan itself, only a stream over it, so
recording the request leaves the file open (`streams_givenBack`).
-/

namespace HttpTap

theorem World.Copies.isCopy {w w' : World} {chunk : Int} {e e' : Ref Entity} {c : Bytes}
    (h : w.Copies chunk e w' e' c) : w'.IsCopy e' :=
  ⟨h.has, c, h.stores⟩

namespace Act

open World

variable {α β : Type} {w w' : World} {e e' : Ref Entity} {n m : Nat}

/-- Started in the world, the action does nothing to streams but at most `n` loans of the entity and
of copies. -/
def Lends (n : Nat) (e : Ref Entity) (a : Act α) (w : World) : Prop :=
  ∃ ls, Lending w ls (go a w).2 ∧ ls.length ≤ n ∧ ∀ l ∈ ls, l.Of e

/-! ## Actions one after the other -/

theorem lends_of_still {a : Act α} (h : w.Still (go a w).2) : Lends n e a w :=
  ⟨[], .still h (.done _), Nat.zero_le n, fun _ mem => absurd mem List.not_mem_nil⟩

theorem Lends.mono {a : Act α} (h : Lends n e a w) (le : n ≤ m) : Lends m e a w := by
  obtain ⟨ls, lending, few, of⟩ := h
  exact ⟨ls, lending, Nat.le_trans few le, of⟩

theorem Lends.bind {a : Act α} {f : α → Act β} (ha : Lends n e a w)
    (hf : ∀ x w', go a w = (.ok x, w') → Lends m e (f x) w') : Lends (n + m) e (a >>= f) w := by
  obtain ⟨ls, lending, few, of⟩ := ha
  rw [Lends, go_bind]
  cases ran : go a w with
  | mk outcome w₁ =>
    rw [ran] at lending
    cases outcome with
    | error f => exact ⟨ls, lending, Nat.le_add_right_of_le few, of⟩
    | ok x =>
      obtain ⟨ls', lending', few', of'⟩ := hf x w₁ ran
      refine ⟨ls ++ ls', lending.trans lending', ?_, fun l mem => ?_⟩
      · rw [List.length_append]
        exact Nat.add_le_add few few'
      · exact (List.mem_append.1 mem).elim (of l) (of' l)

/-- What happens to nothing at first lends what comes after it. -/
theorem Lends.of_still_bind {a : Act α} {f : α → Act β} (quiet : Keeps Still a)
    (hf : ∀ x w', go a w = (.ok x, w') → Lends n e (f x) w') : Lends n e (a >>= f) w :=
  ((lends_of_still (n := 0) (quiet w)).bind hf).mono (Nat.le_of_eq (Nat.zero_add n))

/-- A guard that only says something lends what the guarded action lends. -/
theorem Lends.attempt {a : Act α} {recover : Fault → Act α} (ha : Lends n e a w)
    (quiet : ∀ f, Keeps Still (recover f)) : Lends n e (attempt a recover) w := by
  obtain ⟨ls, lending, few, of⟩ := ha
  rw [Lends, go_attempt]
  cases ran : go a w with
  | mk outcome w₁ =>
    rw [ran] at lending
    cases outcome with
    | ok x => exact ⟨ls, lending, few, of⟩
    | error f =>
      dsimp only
      split
      · exact ⟨ls, lending, few, of⟩
      · have silent := Lending.still (quiet f w₁) (.done _)
        refine ⟨ls ++ [], lending.trans silent, ?_, ?_⟩
        · rwa [List.append_nil]
        · rwa [List.append_nil]

/-! ## Members -/

theorem still_contentLength (e : Ref Entity) : Keeps Still (contentLength e) :=
  fun w => (Look.length w).still

theorem still_repeatable (e : Ref Entity) : Keeps Still (repeatable e) :=
  fun w => (Look.repeatable w).still

theorem still_contentType (e : Ref Entity) : Keeps Still (contentType e) :=
  fun w => (Look.type w).still

theorem still_contentEncoding (e : Ref Entity) : Keeps Still (contentEncoding e) :=
  fun w => (Look.encoding w).still

theorem still_replaceEntity (e : Ref Entity) (data : Bytes) : Keeps Still (replaceEntity e data) :=
  (still_contentType e).bind fun _ => (still_contentEncoding e).bind fun _ =>
    (still_newEntity _).bind fun _ => (still_say _).bind fun _ => keeps_pure _

/-! ## One loan -/

/-- What is opened, read and closed, or refused, is one loan at most. -/
theorem lends_of_go {a : Act α} (of : e' = e ∨ w.IsCopy e')
    (refused : ∀ f w₁, go (openContent e') w = (.error f, w₁) → (go a w).2 = w₁)
    (opened : ∀ r w₁, go (openContent e') w = (.ok r, w₁) →
      ∃ w₂, ReadFrom r w₁ w₂ ∧ (go a w).2 = (go (closeStream r) w₂).2) : Lends 1 e a w := by
  cases ran : go (openContent e') w with
  | mk outcome w₁ =>
    cases outcome with
    | error f =>
      refine ⟨[], ?_, Nat.zero_le 1, fun _ mem => absurd mem List.not_mem_nil⟩
      rw [refused f w₁ ran]
      exact .refused ran (.done _)
    | ok r =>
      obtain ⟨w₂, reads, closed⟩ := opened r w₁ ran
      let l : Loan := ⟨e', r, w, w₁, w₂, ran, reads⟩
      have final : (go a w).2 = l.after := closed
      refine ⟨[l], ?_, Nat.le_refl 1, fun l' mem => ?_⟩
      · rw [final]
        exact .lent l (.done _)
      · rw [List.mem_singleton.1 mem]
        exact of

/-- Buffering borrows one stream of the entity. -/
theorem lends_bufferContent (e : Ref Entity) (chunk : Int) (w : World) :
    Lends 1 e (bufferContent e chunk) w := by
  refine lends_of_go (.inl rfl) (fun f w₁ failed => ?_) fun r w₁ opened => ?_
  · rw [bufferContent, go_bind, go_observe, failed]
    rfl
  · refine ⟨(go (drainStream r chunk) w₁).2, ⟨_, Reader.reads_drain _ chunk _, rfl⟩, ?_⟩
    rw [bufferContent, go_bind, go_observe, opened]
    dsimp only
    rw [go_bind, go_drainStream]
    dsimp only
    rw [go_bind, go_observe]
    dsimp only
    cases (go (closeStream r) _).1 <;> rfl

/-- Reading with a limit borrows one stream. -/
theorem lends_closing (of : e' = e ∨ w.IsCopy e') (limit chunk : Int) :
    Lends 1 e (closing (openContent e') fun r => readBounded r limit chunk) w := by
  refine lends_of_go of (fun f w₁ failed => ?_) fun r w₁ opened => ?_
  · rw [closing, go_bind_of_error failed]
  · refine ⟨(go (readBounded r limit chunk) w₁).2, ⟨_, Reader.reads_readBounded _ limit chunk _, rfl⟩,
      ?_⟩
    rw [closing, go_bind_of_ok opened, go_ensuring]
    cases go (closeStream r) (go (readBounded r limit chunk) w₁).2 with
    | mk outcome w₂ => cases outcome <;> rfl

/-! ## Capturing -/

theorem lends_makeRepeatable (e : Ref Entity) (chunk : Int) (w : World) :
    Lends 1 e (makeRepeatable e chunk) w := by
  refine .of_still_bind (still_repeatable e) fun flag w₁ _ => ?_
  split
  · exact lends_of_still (.refl w₁)
  · refine Lends.bind (m := 0) (lends_bufferContent e chunk w₁) fun buffered w₂ _ => ?_
    obtain ⟨data, fault⟩ := buffered
    cases fault with
    | none => exact lends_of_still (still_replaceEntity e data w₂)
    | some f =>
      dsimp only
      split
      · exact lends_of_still (.refl w₂)
      · exact lends_of_still (still_say _ w₂)

theorem lends_prepareEntity (e : Ref Entity) (chunk : Int) (w : World) :
    Lends 1 e (prepareEntity e chunk) w := by
  refine .of_still_bind (still_contentLength e) fun declared w₁ _ => ?_
  split
  · exact lends_of_still (.refl w₁)
  · refine .of_still_bind (still_repeatable e) fun flag w₂ _ => ?_
    split
    · exact lends_of_still (.refl w₂)
    · exact (lends_makeRepeatable e chunk w₂).bind (m := 0) fun result w₃ _ =>
        lends_of_still (.refl w₃)

theorem lends_readBody (limit : Int) {p : Prepared} (of : p.entity = e ∨ w.IsCopy p.entity) :
    Lends 1 e (readBody limit p) w := by
  refine Lends.attempt ?_ fun f => (still_say _).bind fun _ => keeps_pure _
  exact (lends_closing of limit readChunkSize).bind (m := 0) fun read w₁ _ =>
    lends_of_still (.refl w₁)

/-- A capture borrows at most two streams. -/
theorem lends_capture (limit chunk : Int) (e : Ref Entity) (w : World) :
    Lends 2 e (capture limit chunk (some e)) w := by
  have quiet (f : Fault) : Keeps Still (do
      say (.contained captureChannel "Failed to prepare entity for capture" f)
      return (none : Option Prepared)) := (still_say _).bind fun _ => keeps_pure _
  refine ((lends_prepareEntity e chunk w).attempt quiet).bind (m := 1) fun prepared w₁ ran => ?_
  cases prepared with
  | none => exact lends_of_still (.refl w₁)
  | some p =>
    have of := same_or_copies_of_prepareEntity (of_go_attempt ran fun f w₂ same =>
      nomatch Except.ok.inj (Prod.mk.inj same).1)
    exact (lends_readBody limit (of.imp And.left fun ⟨_, copies⟩ => copies.isCopy)).bind (m := 0)
      fun body w₂ _ => lends_of_still (.refl w₂)

/-! ## Recording a request over a file -/

variable {m : Ref Message} {q : Ref Request} {source : Ref Source}

theorem leavesOpen_say (line : LogRecord) : Keeps (LeavesOpen source) (say line) :=
  fun _ => ⟨rfl, rfl⟩

/-- Telling a span or a sink an attribute closes nothing. -/
theorem leavesOpen_putAttribute (t : Target) (key : String) (v : Value) :
    Keeps (LeavesOpen source) (putAttribute t key v) := by
  cases t with
  | span r =>
    refine (keeps_view _).bind fun span => ?_
    cases span with
    | probe p =>
      refine (keeps_change fun _ => ⟨rfl, rfl⟩).bind fun _ w => ?_
      rw [go_callProbe_eq]
      exact ⟨rfl, rfl⟩
    | live s => exact keeps_change fun _ => ⟨rfl, rfl⟩
  | sink r =>
    refine (keeps_view _).bind fun s => ?_
    split
    · exact keeps_throw _
    · exact keeps_change fun _ => ⟨rfl, rfl⟩

theorem leavesOpen_putAttributes (t : Target) (attributes : List (String × Value)) :
    Keeps (LeavesOpen source) (putAttributes t attributes) := by
  have put : ∀ a : String × Value, Keeps (LeavesOpen source) (putAttribute t a.1 a.2) :=
    fun a => leavesOpen_putAttribute t a.1 a.2
  exact Keeps.forM put attributes

/-- Capturing the entity of a request over a file leaves the file open. -/
theorem leavesOpen_capture (limit chunk : Int) {type encoding : Value} (has : w.entities.Has e)
    (hx : w.entities.get e = .requestBody q (.file source) type encoding)
    (there : w.sources.Has source) :
    w.LeavesOpen source (go (capture limit chunk (some e)) w).2 := by
  obtain ⟨ls, lending, -, of⟩ := lends_capture limit chunk e w
  exact lending.leavesFileOpen of has hx there

/-- After its capture the entity of a request may be replaced by a copy, and nothing is closed by
that. -/
theorem leavesOpen_attributesOf_of_capture {w₁ : World} {limit : Int} {h : Headers} (keys : BodyKeys)
    (entity : go (orNothing (messageEntity m) none) w = (.ok (some e), w₁))
    (message : w₁.messages.get m = .request (some q))
    (headers : (w₁.requests.get q).headers = some h)
    (leaves : w.LeavesOpen source (go (capture limit bufferChunkSize (some e)) w₁).2) :
    w.LeavesOpen source (go (attributesOf m (recordEntity true limit keys)) w).2 := by
  cases captured : go (capture limit bufferChunkSize (some e)) w₁ with
  | mk outcome w₂ =>
    rw [captured] at leaves
    cases outcome with
    | error f =>
      rw [attributesOf, go_bind_of_ok entity, recordEntity, if_pos rfl, bind_assoc,
        go_bind_of_error captured]
      exact leaves
    | ok result =>
      cases replaced : result.replaced with
      | false =>
        rw [go_attributesOf_of_capture entity captured (by rw [replaced]; rfl)]
        exact leaves
      | true =>
        obtain ⟨_, e', content, -, kept, copies⟩ := exists_copies_of_capture captured replaced
        have consulted : w₁.Consulted w₂ := (keeps_capture _ _ _).of_go captured
        have swapped := go_setMessageEntity_request (m := m) (q := q) (h := h)
          (by rw [consulted.messages]; exact message)
          (by rw [consulted.requests]; exact headers) copies.stores
        rw [go_attributesOf_of_capture entity captured (by rw [replaced, kept]; exact swapped)]
        exact ⟨leaves.closed, leaves.closings⟩

/-- Finding the attributes of a request over a file leaves the file open. -/
theorem leavesOpen_attributesOf (limit : Int) (keys : BodyKeys)
    (message : w.messages.get m = .request (some q))
    (file : (w.requests.get q).body = .file source) (has : w.sources.Has source) :
    w.LeavesOpen source (go (attributesOf m (recordEntity true limit keys)) w).2 := by
  have filled : (w.requests.get q).body ≠ .absent := by
    rw [file]
    exact Body.noConfusion
  cases headers : (w.requests.get q).headers with
  | none =>
    rw [go_attributesOf_of_none (go_orNothing_of_member
      (go_messageEntity_bare message headers filled))]
    exact .refl source w
  | some h =>
    have entity : go (orNothing (messageEntity m) none) w = _ :=
      go_orNothing_of_ok (go_messageEntity_request message headers filled)
    rw [file] at entity
    have captured := leavesOpen_capture limit bufferChunkSize (w := { w with
        entities := (w.entities.alloc (.requestBody q (.file source) (h.lookup typeHeader)
          (h.lookup encodingHeader))).2 })
      (Nat.lt_succ_self _) (Store.get_alloc_same _ _) has
    exact leavesOpen_attributesOf_of_capture keys entity message headers
      ⟨captured.closed, captured.closings⟩

/-- A request over a file is recorded without closing the file. -/
theorem leavesOpen_onStart (s : CaptureSettings) (t : Target)
    (message : w.messages.get m = .request (some q))
    (file : (w.requests.get q).body = .file source) (has : w.sources.Has source) :
    w.LeavesOpen source (go (onStart s t (some m)) w).2 := by
  show w.LeavesOpen source (go (if s.recordsRequests then
    recordMessage t m "request" (beforeSend s) else pure ()) w).2
  cases enabled : s.recordsRequests with
  | false => exact .refl source w
  | true =>
    have hook : beforeSend s = recordEntity true s.limit requestKeys := by
      funext e
      rw [beforeSend, enabled]
    have recorded : w.LeavesOpen source
        (go (attributesOf m (beforeSend s) >>= putAttributes t) w).2 := by
      have captured := leavesOpen_attributesOf s.limit requestKeys message file has
      rw [hook, go_bind]
      generalize go (attributesOf m _) w = ran at captured
      obtain ⟨f | attributes, w₁⟩ := ran
      · exact captured
      · exact trans_of _ captured (leavesOpen_putAttributes t attributes w₁)
    rw [if_pos rfl, recordMessage_eq, go_attempt]
    generalize go (attributesOf m (beforeSend s) >>= putAttributes t) w = ran at recorded
    obtain ⟨f | u, w₁⟩ := ran
    · dsimp only
      split
      · exact recorded
      · exact trans_of _ recorded (leavesOpen_say _ w₁)
    · exact recorded

/-- A capture gives back every stream that it borrows, and so does making an entity repeatable: each
is closed once, after its last read and before the outcome, whatever the outcome is.  Recording a
request leaves a file that is its body open. -/
theorem streams_givenBack :
    (∀ (limit chunk : Int) (e : Ref Entity) (w : World), w.Knows e →
      w.GivesBack 2 (go (capture limit chunk (some e)) w).2) ∧
    (∀ (chunk : Int) (e : Ref Entity) (w : World), w.Knows e →
      w.GivesBack 1 (go (makeRepeatable e chunk) w).2) ∧
    ∀ (s : CaptureSettings) (t : Target) (m : Ref Message) (q : Ref Request) (source : Ref Source)
      (w : World), w.messages.get m = .request (some q) → (w.requests.get q).body = .file source →
      w.sources.Has source → w.LeavesOpen source (go (onStart s t (some m)) w).2 := by
  refine ⟨fun limit chunk e w known => ?_, fun chunk e w known => ?_,
    fun s t m q source w message file has => leavesOpen_onStart s t message file has⟩
  · obtain ⟨ls, lending, few, of⟩ := lends_capture limit chunk e w
    exact lending.givesBack few of known
  · obtain ⟨ls, lending, few, of⟩ := lends_makeRepeatable e chunk w
    exact lending.givesBack few of known

/-- A stand-in that gives a byte at a time, three in all, and then an interrupt. -/
def interruptible (name : String) : StandIn :=
  ⟨name, .data [97, 98, 99] (some 1) (some (.scripted .interrupt "scripted")), false, none, true, []⟩

/-- A read-once entity over such a stand-in, and a request with another one as its body. -/
def interrupted : World :=
  { empty with
    sources := ((Store.empty.alloc (.ofStandIn (interruptible "body"))).2.alloc
      (.ofStandIn (interruptible "file"))).2
    streams := (Store.empty.alloc (.direct ⟨0⟩)).2
    entities := (Store.empty.alloc (.once ⟨0⟩ false .null .null .null)).2
    requests := (Store.empty.alloc ⟨some "POST", some "mock://h/p", some ⟨[]⟩, .file ⟨1⟩⟩).2
    messages := (Store.empty.alloc (.request (some ⟨0⟩))).2
    sinks := (Store.empty.alloc ⟨[], none⟩).2 }

/-- An interrupt ends the capture, after the stream was closed; the file of the request stays open
when an interrupt ends the recording. -/
theorem streams_givenBack_interrupted :
    (interrupted.GivesBack 2 (go (capture 2 bufferChunkSize (some ⟨0⟩)) interrupted).2 ∧
      (go (capture 2 bufferChunkSize (some ⟨0⟩)) interrupted).2.trace.map Event.text =
        ["body.close", "body.read(8192)!KeyboardInterrupt", "body.read(8192)=1",
          "body.read(8192)=1", "body.read(8192)=1"]) ∧
    interrupted.GivesBack 1 (go (makeRepeatable ⟨0⟩ 1) interrupted).2 ∧
    interrupted.LeavesOpen ⟨1⟩ (go (onStart { CaptureSettings.standard with requests := .bool true }
      (.sink ⟨0⟩) (some ⟨0⟩)) interrupted).2 ∧
    ((interrupted.sources.get ⟨1⟩).closed = false) := by
  have known : interrupted.Knows ⟨0⟩ := by
    refine ⟨Nat.zero_lt_one, fun r length type encoding once => ?_⟩
    obtain rfl : (⟨0⟩ : Ref Stream) = r := by injection once
    exact Nat.zero_lt_one
  obtain ⟨captures, makes, records⟩ := streams_givenBack
  exact ⟨⟨captures 2 bufferChunkSize ⟨0⟩ interrupted known, by decide +kernel⟩,
    makes 1 ⟨0⟩ interrupted known,
    records _ (.sink ⟨0⟩) ⟨0⟩ ⟨0⟩ ⟨1⟩ interrupted rfl rfl Nat.one_lt_two, rfl⟩

end Act
end HttpTap
