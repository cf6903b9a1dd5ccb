import HttpTap.Proofs.Capture.PartWay
import HttpTap.Proofs.Exchange.Aftermath
import HttpTap.Proofs.Exchange.ResponseContent

/-!
# A response that breaks off

A response whose raw stream fails before its end is read up to three times before the program gets
to read it.  The buffering ends in the fault and keeps nothing.  The recording buffers what comes
after the fault, and if this fails as well it reads on up to the limit.  `tracedSend_of_breaks`
follows the raw stream through all of this to the aftermath, and so tells whether the program can
take what is left for the whole.
-/

namespace HttpTap

/-! ## What the library does -/

namespace Act

open World

variable {w w₁ : World} {s : CaptureSettings} {m : Ref Message} {p : Ref Response} {h : Headers}
  {source : Ref Source} {n : Nat} {t : (Spring.raw p source n).State}

/-- The entity of a response is made, and draws from the raw stream. -/
theorem go_messageEntity_of_holds (message : w.messages.get m = .response (some p))
    (headers : (w.responses.get p).headers = some h) (holds : w.Holds (.raw p source n) t) :
    ∃ w₁ x, go (messageEntity m) w = (.ok (some w.entities.next), w₁) ∧ w.Consulted w₁ ∧
      (w.Calm → w₁.Calm) ∧ w₁.Holds (.raw p source n) t ∧ w₁.entities.get w.entities.next = x ∧
      x.DrawsFrom (.raw p source n) ∧ w₁.isRead x = (w.responses.get p).letsRead := by
  set x := Entity.responseBody p (h.lookup typeHeader) (h.lookup encodingHeader) with hx
  have entity := go_messageEntity_response message headers
  refine ⟨_, x, entity, (keeps_messageEntity m).of_go entity, fun calm => calm.newEntity trivial,
    holds.of_same rfl rfl rfl, Store.get_alloc_same _ _, .raw source n, ?_⟩
  rw [Response.letsRead, headers]
  exact isRead_of_lengthOf rfl

/-- A response that breaks off while it is buffered is left where the fault was. -/
theorem go_makeResponseRepeatable_of_holds (records : s.recordsResponses = true)
    (message : w.messages.get m = .response (some p))
    (headers : (w.responses.get p).headers = some h) (holds : w.Holds (.raw p source n) t)
    (more : ¬ (Spring.raw p source n).Ended t) (calm : w.Calm)
    (failed : ((Spring.raw p source n).drain t).fault ≠ none) :
    ∃ w', go (makeResponseRepeatable s (some m)) w = (.ok (), w') ∧ w.Consulted w' ∧ w'.Calm ∧
      w'.Holds (.raw p source n) ((Spring.raw p source n).drain t).rest := by
  obtain ⟨w₁, x, entity, made, calm₁, holds₁, hx, draws, -⟩ :=
    go_messageEntity_of_holds message headers holds
  have flagged := go_repeatable hx draws.own
  rw [isRepeatable_of_draws draws holds₁] at flagged
  obtain ⟨w', kept, calm', left, -⟩ := go_makeRepeatable_of_failing hx draws holds₁ more
    bufferChunkSize_within (calm₁ calm) failed
  refine ⟨w', ?_, made.trans ((keeps_makeRepeatable _ _).of_go kept), calm', left⟩
  rw [makeResponseRepeatable, if_pos records, go_attempt, go_bind_of_ok entity]
  dsimp only
  rw [go_bind_of_ok flagged, if_neg (by simp [Value.truthy]), go_bind_of_ok kept]
  rfl

/-- Recording a response whose content is on the wire has one of three results. -/
theorem go_onEnd_of_holds (target : Target) (records : s.recordsResponses = true)
    (message : w.messages.get m = .response (some p))
    (headers : (w.responses.get p).headers = some h) (holds : w.Holds (.raw p source n) t)
    (more : ¬ (Spring.raw p source n).Ended t) (calm : w.Calm) :
    ∃ w', go (onEnd s target (some m)) w = (.ok (), w') ∧
      w'.Bears p ((Spring.raw p source n).recorded s.limit (w.responses.get p).letsRead t) ∧
      w'.messages = w.messages ∧ ∀ r, (w'.spans.get r).failing = (w.spans.get r).failing := by
  obtain ⟨w₁, x, made, consulted, calm₁, holds₁, hx, draws, read⟩ :=
    go_messageEntity_of_holds message headers holds
  have entity : go (orNothing (messageEntity m) none) w = (.ok (some w.entities.next), w₁) :=
    go_orNothing_of_ok made
  have pos := s.limit_pos
  have within := bufferChunkSize_within
  cases letsRead : (w.responses.get p).letsRead with
  | false =>
    obtain ⟨lines, capture⟩ := go_capture_of_unread s.limit bufferChunkSize hx draws.own
      (calm₁ calm) (read.trans letsRead)
    obtain ⟨w', ended, told⟩ := go_onEnd_of_capture records entity capture rfl
    refine ⟨w', ended, ?_, told.messages.trans consulted.messages, fun r => ?_⟩
    · exact holds₁.of_same told.sources told.iterators told.responses
    · exact (told.failing r).trans (by rw [consulted.spans])
  | true =>
    by_cases whole : ((Spring.raw p source n).drain t).fault = none
    · obtain ⟨body, e', w₂, capture, copy⟩ := go_capture_of_whole hx draws holds₁ more pos within
        whole (read.trans letsRead)
      have all : w.Consulted w₂ := consulted.trans ((keeps_capture _ _ _).of_go capture)
      have swapped := go_setMessageEntity_response (m := m) (p := p)
        (by rw [all.messages]; exact message) copy.holds
      obtain ⟨w', ended, told⟩ := go_onEnd_of_capture records entity capture swapped
      rw [Spring.recorded_of_whole whole]
      refine ⟨w', ended, ⟨?_, ?_, h, ?_⟩, told.messages.trans all.messages, fun r => ?_⟩
      · rw [told.responses, Store.get_set_same]
      · rw [told.responses, Store.get_set_same]
      · rw [told.responses, Store.get_set_same]
        exact (all.responses p).headers.trans headers
      · exact (told.failing r).trans (by rw [all.spans])
    · obtain ⟨body, w₂, capture, -, left⟩ := go_capture_of_failing hx draws holds₁ more pos within
        (calm₁ calm) whole (read.trans letsRead)
      have all : w.Consulted w₂ := consulted.trans ((keeps_capture _ _ _).of_go capture)
      obtain ⟨w', ended, told⟩ := go_onEnd_of_capture records entity capture rfl
      rw [Spring.recorded_of_failing whole]
      refine ⟨w', ended, ?_, told.messages.trans all.messages, fun r => ?_⟩
      · exact left.of_same told.sources told.iterators told.responses
      · exact (told.failing r).trans (by rw [all.spans])

/-! ## The whole -/

/-- What happens after the call to a response that breaks off. -/
theorem go_settle_of_breaks {span : Ref Span} {present : Context} {t : Tower n}
    (records : s.recordsResponses = true) (calm : w.Calm) (breaks : w.Breaks p source n t)
    (willing : SpanMethod.finish ∉ (w.spans.get span).failing) :
    ∃ w', go (settle s (.ok (some p)) (.recording span present)) w = (.ok (some p), w') ∧
      w'.Bears p (w.aftermath p source t s.limit) := by
  obtain ⟨h, headers⟩ := breaks.headers
  have message := get_returned w present (some p)
  have calm' : (w.returned present (some p)).Calm :=
    (calm.newMessage (x := .response (some p)) trivial).of_same rfl rfl rfl rfl
  have holds : (w.returned present (some p)).Holds (.raw p source n)
      ⟨t, streamChunkSize, .live⟩ :=
    ⟨breaks.stands, rfl, breaks.raw, breaks.unread,
      iff_of_false (ne_true_of_eq_false breaks.fresh) Supply.noConfusion⟩
  have failed : ((Spring.raw p source n).drain ⟨t, streamChunkSize, .live⟩).fault ≠ none :=
    Feed.fault_gather_of_pieces breaks.failed
  obtain ⟨w₁, buffered, consulted, calm₁, left⟩ := go_makeResponseRepeatable_of_holds records
    message headers holds Supply.noConfusion calm' failed
  have marked : (w.responses.get p).Marked (w₁.responses.get p) := consulted.responses p
  obtain ⟨w₂, recorded, bears, messages, failing⟩ := go_onEnd_of_holds (.span span) records
    (by rw [consulted.messages]; exact message) (marked.headers.trans headers) left
    (Spring.not_ended_of_fault failed) calm₁
  have same : (w₁.responses.get p).letsRead = (w.responses.get p).letsRead :=
    Response.letsRead_of_marked marked
  rw [same] at bears
  obtain ⟨w₃, closed, told⟩ := go_closeSpan (w := w₂) (r := span) (m := w.messages.next)
    ⟨some p, by rw [messages, consulted.messages]; exact message⟩
    (by rw [failing, consulted.spans]; exact willing)
  refine ⟨w₃, ?_, (bears_after _ _).2 (bears.told told)⟩
  rw [go_settle_recording, go_handleResponse buffered recorded closed]
  exact go_within_pure _ _

/-- A response that breaks off comes back to the program, and what the program then reads misses the
bytes that are lost, unless none are or every reading fails. -/
theorem tracedSend_of_breaks {σ κ : Type} {w₀ : World} {t : Tower n} {i : Instrument}
    {q : Ref Request} {l : Lead} {send : Sending σ κ} {session : σ} {arguments : κ}
    (reached : go (lead i q) w = (.ok l, w₀))
    (sent : go (send session q arguments) w₀ = (.ok (some p), w₁)) (willing : w₁.Willing l)
    (recording : l.records = true) (records : i.settings.recordsResponses = true) (calm : w₁.Calm)
    (breaks : w₁.Breaks p source n t) :
    ∃ w', go (tracedSend i send session q arguments) w = (.ok (some p), w') ∧
      w'.Shows p (w₁.aftermath p source t i.settings.limit) ∧
      (w'.Whole p (w₁.aftermath p source t i.settings.limit).lost ↔
        (w₁.aftermath p source t i.settings.limit).lost = [] ∨
          (w₁.aftermath p source t i.settings.limit).Fails) := by
  cases l with
  | recording span present =>
    obtain ⟨w', settled, bears⟩ :=
      go_settle_of_breaks records calm breaks (willing span rfl)
    refine ⟨w', ?_, bears.shows, bears.whole_iff⟩
    rw [go_tracedSend_of_lead reached, sent]
    exact settled
  | _ => exact absurd recording Bool.noConfusion

/-! ## Raw streams that follow a script -/

/-- A raw stream that answers each read with the next item. -/
def scriptedRaw (items : List Item) (calls : List Call) : Tower 0 :=
  Ground.standIn ⟨"raw", .answers items, false, none, true, calls⟩

/-- The spring of such a stream. -/
def scriptedSpring : Spring := .raw ⟨0⟩ ⟨0⟩ 0

/-- The spring after these calls. -/
def scriptedState (items : List Item) (calls : List Call) (supply : Supply) :
    scriptedSpring.State := ⟨scriptedRaw items calls, streamChunkSize, supply⟩

/-- The fault of the scripts. -/
def lapse : Fault := .scripted .system "scripted"

/-- Three bytes and a fault, and what comes after it. -/
def torn (is : List Item) : List Item := .ok (.bytes [97, 98, 99]) :: .error lapse :: is

/-- A download whose raw stream is torn. -/
def tornDownload (is : List Item) : World :=
  { download with sources := (Store.empty.alloc ⟨0, scriptedRaw (torn is) []⟩).2 }

section Script

variable {is : List Item}

theorem calm_torn (calm : CalmItems is) : CalmItems (torn is) := by
  intro i mem
  rcases List.mem_cons.1 mem with rfl | mem
  · exact trivial
  · rcases List.mem_cons.1 mem with rfl | mem
    · rfl
    · exact calm i mem

theorem read_scriptedRaw (i : Item) (is : List Item) (calls : List Call) (size : Int) :
    ∃ later, (Tower.reader 0).read size (scriptedRaw (i :: is) calls) =
      (i, scriptedRaw is later) := ⟨_, rfl⟩

/-- A fault ends the reading. -/
theorem gather_scripted_of_fault {missing : Option Nat} (want : missing ≠ some 0)
    (is : List Item) (calls : List Call) :
    ∃ later, scriptedSpring.feed.gather missing (scriptedState (.error lapse :: is) calls .live) =
      ⟨[], some lapse, scriptedState is later .broken⟩ := by
  obtain ⟨later, fault⟩ := read_scriptedRaw (.error lapse) is calls streamChunkSize
  exact ⟨later, Feed.gather_of_fault want (Feed.pull_pieces_of_fault fault)⟩

/-- A piece is taken, and then what comes after it. -/
theorem gather_scripted_of_piece {missing : Option Nat} (want : missing ≠ some 0) {bs : Bytes}
    (some : bs ≠ []) (is : List Item) (calls : List Call) :
    ∃ later, scriptedSpring.feed.gather missing (scriptedState (.ok (.bytes bs) :: is) calls .live) =
      (scriptedSpring.feed.gather (missing.map (· - bs.length)) (scriptedState is later .live)).after
        bs := by
  obtain ⟨later, piece⟩ := read_scriptedRaw (.ok (.bytes bs)) is calls streamChunkSize
  have pull := Feed.pull_pieces piece
  rw [if_pos (Reader.truthy_of_ne_nil some)] at pull
  exact ⟨later, Feed.gather_of_chunk want pull⟩

theorem gather_scripted_of_end {missing : Option Nat} (want : missing ≠ some 0)
    (calls : List Call) :
    ∃ rest, scriptedSpring.feed.gather missing (scriptedState [] calls .live) =
      ⟨[], none, rest⟩ := by
  have nothing : (Tower.reader 0).read streamChunkSize (scriptedRaw [] calls) =
      (.ok (.bytes []), scriptedRaw [] (.read "raw" streamChunkSize (.length 0) :: calls)) := rfl
  have pull := Feed.pull_pieces nothing
  rw [if_neg (by simp [Value.truthy])] at pull
  exact ⟨_, Feed.gather_of_end want pull⟩

/-- A torn stream gives three bytes and a fault, and what comes after the fault is left. -/
theorem drain_torn (is : List Item) :
    ∃ calls, scriptedSpring.drain (scriptedState (torn is) [] .live) =
      ⟨[97, 98, 99], some lapse, scriptedState is calls .broken⟩ := by
  obtain ⟨first, piece⟩ := gather_scripted_of_piece (show none ≠ some 0 by simp)
    (show [97, 98, 99] ≠ [] by simp) (.error lapse :: is) []
  obtain ⟨later, fault⟩ := gather_scripted_of_fault (show none ≠ some 0 by simp) is first
  rw [Option.map_none, fault, Drained.after, List.append_nil] at piece
  exact ⟨later, piece⟩

/-- The response of such a download breaks off. -/
theorem breaks_tornDownload (sources : w.sources = (tornDownload is).sources)
    (responses : w.responses = download.responses) :
    w.Breaks ⟨0⟩ ⟨0⟩ 0 (scriptedRaw (torn is) []) := by
  refine ⟨by rw [responses]; rfl, by rw [responses]; rfl, by rw [responses]; exact ⟨_, rfl⟩,
    by rw [responses]; rfl, by rw [sources]; rfl, ?_⟩
  obtain ⟨first, piece⟩ :=
    read_scriptedRaw (.ok (.bytes [97, 98, 99])) (.error lapse :: is) [] streamChunkSize
  obtain ⟨later, fault⟩ := read_scriptedRaw (.error lapse) is first streamChunkSize
  rw [torn, Reader.pieces_of_value piece, if_pos (Reader.truthy_of_ne_nil (by simp)),
    Reader.pieces_of_fault fault]
  exact Option.some_ne_none lapse

/-- What becomes of it is settled by what comes after the fault. -/
theorem aftermath_tornDownload (is : List Item) (limit : Int)
    (responses : w.responses = download.responses) :
    ∃ calls, w.aftermath ⟨0⟩ ⟨0⟩ (scriptedRaw (torn is) []) limit =
      (scriptedSpring.recorded limit true (scriptedState is calls .broken)).after [97, 98, 99] := by
  obtain ⟨later, drained⟩ := drain_torn is
  have read : (w.responses.get ⟨0⟩).letsRead = true := by
    rw [responses]
    decide +kernel
  refine ⟨later, ?_⟩
  show scriptedSpring.aftermath limit (w.responses.get ⟨0⟩).letsRead _ = _
  rw [read]
  exact Spring.aftermath_of_drain drained limit true

end Script

/-- The first part of the wrapper leaves the response alone. -/
theorem go_lead_tornDownload {is : List Item} (calm : CalmItems is) :
    ∃ w₀, go (lead responsesOnly ⟨0⟩) (tornDownload is) =
        (.ok (.recording ⟨0⟩ ⟨none, none⟩), w₀) ∧ w₀.Calm ∧
      w₀.sources = (tornDownload is).sources ∧ w₀.responses = download.responses ∧
      w₀.Willing (.recording ⟨0⟩ ⟨none, none⟩) := by
  set w := tornDownload is
  have named : spanName (methodName (w.requests.get ⟨0⟩)) "mock://h/p" = .ok "GET /p" := by
    show spanName (methodName (download.requests.get ⟨0⟩)) "mock://h/p" = .ok "GET /p"
    decide +kernel
  set w₁ := w.withSpan (w.requestSpan .recording ⟨0⟩ "GET /p")
  obtain ⟨w₀, announced, sources, iterators, entities, messages, responses, spans⟩ : ∃ w₀,
      go (announce responsesOnly.settings ⟨0⟩ ⟨0⟩) (w₁.under ⟨0⟩) = (.ok (), w₀) ∧
        w₀.sources = w.sources ∧ w₀.iterators = World.empty.iterators ∧
        w₀.entities = World.empty.entities ∧
        w₀.messages = (World.empty.messages.alloc (.request (some ⟨0⟩))).2 ∧
        w₀.responses = download.responses ∧ w₀.spans = w₁.spans :=
    ⟨_, rfl, rfl, rfl, rfl, rfl, rfl, rfl⟩
  refine ⟨w₀, ?_, ?_, sources, responses, ?_⟩
  · have enabled : responsesOnly.settings.enabled.truthy = true := rfl
    rw [lead, if_pos enabled, go_starting_of_name (w := w) named]
    show go (announce responsesOnly.settings ⟨0⟩ ⟨0⟩ >>= fun _ => _) (w₁.under ⟨0⟩) = _
    rw [go_bind_of_ok announced]
    rfl
  · have source : (Source.mk 0 (scriptedRaw (torn is) [])).Calm :=
      Source.calm_ofStandIn ⟨calm_torn calm, fun f none => absurd none (by simp)⟩
    have filled := (calm_empty.newSource source).newMessage (x := .request (some ⟨0⟩)) trivial
    exact filled.of_same sources iterators entities messages
  · rintro r ⟨⟩
    rw [spans]
    exact List.not_mem_nil

/-- A download that fails at every later read meets the fault. -/
theorem tracedSend_of_breaks_again :
    ∃ w', go (tracedSend responsesOnly answering () ⟨0⟩ ())
        (tornDownload [.error lapse, .error lapse, .error lapse]) = (.ok (some ⟨0⟩), w') ∧
      w'.Whole ⟨0⟩ [97, 98, 99] := by
  have calm : CalmItems [.error lapse, .error lapse, .error lapse] := by
    simp [CalmItems, Contained, lapse, Fault.interrupts, Fault.kind]
  obtain ⟨w₀, reached, calm₀, sources, responses, willing⟩ := go_lead_tornDownload calm
  have sent : go (answering () ⟨0⟩ ()) w₀ = (.ok (some ⟨0⟩), w₀) := rfl
  obtain ⟨w', traced, -, whole⟩ := tracedSend_of_breaks reached sent willing rfl rfl calm₀
    (breaks_tornDownload sources responses)
  obtain ⟨first, after⟩ := aftermath_tornDownload [.error lapse, .error lapse, .error lapse]
    responsesOnly.settings.limit responses
  -- recording meets the second and the third fault, and the fourth is left
  obtain ⟨second, drained⟩ := gather_scripted_of_fault (show none ≠ some 0 by simp)
    [.error lapse, .error lapse] first
  obtain ⟨third, skimmed⟩ := gather_scripted_of_fault
    (show some (responsesOnly.settings.limit.toNat + 1) ≠ some 0 by simp) [.error lapse] second
  have recorded : scriptedSpring.recorded responsesOnly.settings.limit true
      (scriptedState [.error lapse, .error lapse, .error lapse] first .broken) =
        .left [] (scriptedState [.error lapse] third .broken) := by
    have next : scriptedSpring.drain
        (scriptedState [.error lapse, .error lapse, .error lapse] first .broken) =
          ⟨[], some lapse, scriptedState [.error lapse, .error lapse] second .broken⟩ := drained
    have last : scriptedSpring.skim responsesOnly.settings.limit
        (scriptedState [.error lapse, .error lapse] second .broken) =
          ⟨[], some lapse, scriptedState [.error lapse] third .broken⟩ := skimmed
    rw [Spring.recorded_of_failing (by rw [next]; exact Option.some_ne_none lapse), Spring.captured,
      next, last]
    rfl
  rw [after, recorded] at whole
  refine ⟨w', traced, whole.2 (.inr (.inr fun size _ => ?_))⟩
  obtain ⟨later, fault⟩ := read_scriptedRaw (.error lapse) [] third size
  show ((Tower.reader 0).pieces size (scriptedRaw [.error lapse] third)).2.1 ≠ none
  rw [Reader.pieces_of_fault fault]
  exact Option.some_ne_none lapse

/-- A download that fails once and then goes on is loaded without its beginning. -/
theorem loses_beginning :
    (tornDownload [.ok (.bytes [100, 101, 102])]).Breaks ⟨0⟩ ⟨0⟩ 0
        (scriptedRaw (torn [.ok (.bytes [100, 101, 102])]) []) ∧
      ∃ w', go (tracedSend responsesOnly answering () ⟨0⟩ ())
          (tornDownload [.ok (.bytes [100, 101, 102])]) = (.ok (some ⟨0⟩), w') ∧
        (go (loadContent ⟨0⟩) w').1 = .ok (.bytes [100, 101, 102]) ∧
        ¬ w'.Whole ⟨0⟩ [97, 98, 99] := by
  have calm : CalmItems [.ok (.bytes [100, 101, 102])] := by simp [CalmItems, Contained]
  obtain ⟨w₀, reached, calm₀, sources, responses, willing⟩ := go_lead_tornDownload calm
  obtain ⟨w', settled, bears⟩ := go_settle_of_breaks (s := responsesOnly.settings) rfl calm₀
    (breaks_tornDownload sources responses) (willing ⟨0⟩ rfl)
  obtain ⟨first, after⟩ := aftermath_tornDownload [.ok (.bytes [100, 101, 102])]
    responsesOnly.settings.limit responses
  obtain ⟨second, piece⟩ := gather_scripted_of_piece (show none ≠ some 0 by simp)
    (show [100, 101, 102] ≠ [] by simp) [] first
  obtain ⟨rest, ending⟩ := gather_scripted_of_end (show none ≠ some 0 by simp) second
  rw [Option.map_none, ending, Drained.after, List.append_nil] at piece
  have next : scriptedSpring.drain (scriptedState [.ok (.bytes [100, 101, 102])] first .broken) =
      ⟨[100, 101, 102], none, rest⟩ := piece
  rw [after, Spring.recorded_of_whole (by rw [next]), next] at bears
  have loaded : w'.Loaded ⟨0⟩ [100, 101, 102] := bears
  have content := loaded.yields.content
  refine ⟨breaks_tornDownload rfl rfl, w', ?_, content, fun whole => ?_⟩
  · rw [go_tracedSend_of_lead reached]
    exact settled
  · exact absurd (whole.content _ content) (by simp)

end Act
end HttpTap
