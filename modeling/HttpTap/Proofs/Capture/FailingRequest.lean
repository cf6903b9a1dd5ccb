import HttpTap.Proofs.Capture.PartWay
import HttpTap.Proofs.Capture.RequestBody

/-!
# A request whose body fails

A body that gives some pieces and then fails is still the body of the request after it was recorded,
since only a body that was read to its end is put back.  But the reading has moved its spring, and
whoever sends the request meets what is left there: of an iterator what a second reading has left of
the items behind the fault, which is nothing at all of a generator, and of a file what it gives
after it was read twice.  `onStart_of_failing` says which, for every such body.  The pieces and the
fault are met as they would have been only if the recorder reads nothing, which is so when the
length header says zero or cannot be understood (`Request.letsRead`).
-/

namespace HttpTap

theorem untilFault_of_error {is : List Item} {f : Fault} {vs : List Value}
    (h : untilFault is = (vs, some f)) : ∃ rest, is = vs.map .ok ++ .error f :: rest := by
  induction is generalizing vs with
  | nil => exact absurd (Prod.mk.inj h).2 (by simp)
  | cons i is ih =>
    cases i with
    | ok v =>
      obtain ⟨rfl, later⟩ := Prod.mk.inj h
      obtain ⟨rest, spelled⟩ := ih (Prod.ext rfl later)
      exact ⟨rest, congrArg (.ok v :: ·) spelled⟩
    | error g =>
      obtain ⟨rfl, same⟩ := Prod.mk.inj h
      obtain rfl := Option.some.inj same
      exact ⟨is, rfl⟩

/-- A generator that fails has given everything before. -/
theorem generated_of_error {is : List Item} {f : Fault} {vs : List Value}
    (h : untilFault (generated is) = (vs, some f)) : generated is = vs.map .ok ++ [.error f] := by
  induction is generalizing vs with
  | nil => exact absurd (Prod.mk.inj h).2 (by simp)
  | cons i is ih =>
    cases i with
    | ok v =>
      obtain ⟨rfl, later⟩ := Prod.mk.inj h
      exact congrArg (.ok v :: ·) (ih (Prod.ext rfl later))
    | error g =>
      obtain ⟨rfl, same⟩ := Prod.mk.inj h
      obtain rfl := Option.some.inj same
      rfl

namespace Spring

/-- Of an iterator that fails, a capture leaves what it leaves of the items behind the fault. -/
theorem captured_items (iterator : Ref (List Item)) (limit : Int) (ps : List Piece) (f : Fault)
    (is : List Item) :
    (items iterator).captured limit ((ps.map Piece.value).map .ok ++ .error f :: is) =
      ((items iterator).skim limit is).rest := by
  have drained : ((items iterator).drain ((ps.map Piece.value).map .ok ++ .error f :: is)).rest = is :=
    congrArg Drained.rest (Feed.gather_items (Piece.spelled ps) f is)
  rw [captured, drained]

/-- There is nothing to skim from an iterator at its end. -/
theorem skim_items_nil (iterator : Ref (List Item)) (limit : Int) :
    (items iterator).skim limit [] = ⟨[], none, []⟩ :=
  Feed.gather_of_end (by simp) rfl

end Spring

namespace World

/-- The spring of a body that can be read once, and where it stands. -/
def springOf (w : World) : Body → Option ((k : Spring) × k.State)
  | .file source => some ⟨.file source (w.sources.get source).floors,
      (w.sources.get source).state, streamChunkSize, .live⟩
  | .iterator items => some ⟨.items items, w.iterators.get items⟩
  | _ => none

/-- What is met by somebody who reads the body to its end, if it can be read once. -/
def meets (w : World) (size : Int) (body : Body) : Option (List Value × Option Fault) :=
  (w.springOf body).map fun x => x.1.meets size x.2

/-- What would be met after a capture. -/
def meetsCaptured (w : World) (limit size : Int) (body : Body) :
    Option (List Value × Option Fault) :=
  (w.springOf body).map fun x => x.1.meets size (x.1.captured limit x.2)

/-- The body gives these pieces and then fails. -/
def FailsAfter (w : World) (ps : List Piece) (f : Fault) (body : Body) : Prop :=
  w.meets streamChunkSize body = some (ps.map Piece.value, some f)

end World

/-- Does the recorder read a body of this request that can be read once? -/
def Request.letsRead (r : Request) : Bool :=
  r.headers.any fun h => isFilledLength (declaredLength (some h))

/-- The body draws from the spring, which stands here and has not ended. -/
structure World.Feeds (w : World) (body : Body) (k : Spring) (s : k.State) : Prop where
  spring : w.springOf body = some ⟨k, s⟩
  holds : w.Holds k s
  more : ¬ k.Ended s
  draws : ∀ q type encoding, (Entity.requestBody q body type encoding).DrawsFrom k

namespace World

variable {w w' : World} {body : Body} {k : Spring} {s s' : k.State} {ps : List Piece} {f : Fault}

/-- A body that draws from a spring is there. -/
theorem Feeds.filled (feeds : w.Feeds body k s) : body ≠ .absent := by
  rintro rfl
  exact absurd feeds.spring (by simp [springOf])

/-- A body that fails draws from a spring, and that spring fails. -/
theorem FailsAfter.feeds (fails : w.FailsAfter ps f body) :
    ∃ k s, w.Feeds body k s ∧ (k.drain s).fault = some f := by
  cases body with
  | file source =>
    refine ⟨.file source (w.sources.get source).floors, _, ⟨rfl, ⟨rfl, rfl⟩, id, fun _ _ _ => .file _⟩,
      ?_⟩
    have met := Option.some.inj fails
    set t := (w.sources.get source).state
    set r := Tower.reader (w.sources.get source).floors
    have pieces : r.pieces streamChunkSize t =
        (ps.map Piece.value, some f, (r.pieces streamChunkSize t).2.2) :=
      Prod.ext (Prod.mk.inj met).1 (Prod.ext (Prod.mk.inj met).2 rfl)
    exact congrArg Drained.fault (Feed.gather_pieces pieces (Piece.spelled ps))
  | iterator items =>
    refine ⟨.items items, _, ⟨rfl, rfl, id, fun _ _ _ => .items⟩, ?_⟩
    have met : untilFault (w.iterators.get items) = (ps.map Piece.value, some f) :=
      Option.some.inj fails
    obtain ⟨rest, left⟩ := untilFault_of_error met
    show (Feed.items.gather none (w.iterators.get items)).fault = _
    rw [left, Feed.gather_items (Piece.spelled ps)]
  | _ => exact absurd fails (by simp [FailsAfter, meets, springOf])

/-- Wherever the spring has been left, that is where the body goes on. -/
theorem Feeds.meets (feeds : w.Feeds body k s) (left : w'.Holds k s') (size : Int) :
    w'.meets size body = some (k.meets size s') := by
  cases body with
  | file source =>
    obtain ⟨rfl, rfl⟩ := Sigma.mk.inj (Option.some.inj feeds.spring)
    obtain ⟨sources, -⟩ := left
    rw [World.meets, springOf, sources]
    rfl
  | iterator items =>
    obtain ⟨rfl, -⟩ := Sigma.mk.inj (Option.some.inj feeds.spring)
    obtain rfl : w'.iterators.get items = s' := left
    rfl
  | _ => exact absurd feeds.spring (by simp [springOf])

/-- A body that can be read once is read as the request lets it. -/
theorem isRead_requestBody {q : Ref Request} {h : Headers} {type encoding : Value}
    (headers : (w.requests.get q).headers = some h) (feeds : w.Feeds body k s) :
    w.isRead (.requestBody q body type encoding) = (w.requests.get q).letsRead := by
  have unheld : body.byteLength? = none := by
    cases body with
    | bytes bs => exact absurd feeds.spring (by simp [springOf])
    | buffer bs => exact absurd feeds.spring (by simp [springOf])
    | _ => rfl
  have known : w.lengthOf (.requestBody q body type encoding) =
      (declaredLength (some h)).map .int := by
    rw [lengthOf, headers, Act.requestLength_of_unheld unheld]
  rw [isRead_of_lengthOf known, Request.letsRead, headers]
  rfl

end World

namespace Act

open World

variable {w w' : World} {m : Ref Message} {q : Ref Request} {h : Headers} {body : Body} {k : Spring}
  {st : k.State} {s : CaptureSettings} {t : Target}

/-- Recording a request whose body fails leaves the request alone, and its spring where the capture
has left it if there was one. -/
theorem go_onStart_of_feeds (calm : w.Calm) (message : w.messages.get m = .request (some q))
    (records : s.recordsRequests = true) (feeds : w.Feeds (w.requests.get q).body k st)
    (failed : (k.drain st).fault ≠ none) :
    ∃ w', go (onStart s t (some m)) w = (.ok (), w') ∧ w'.requests = w.requests ∧
      w'.Holds k (if (w.requests.get q).letsRead then k.captured s.limit st else st) := by
  cases headers : (w.requests.get q).headers with
  | none =>
    have unread : (w.requests.get q).letsRead = false := by rw [Request.letsRead, headers]; rfl
    have entity : go (orNothing (messageEntity m) none) w = (.ok none, w) :=
      go_orNothing_of_member (go_messageEntity_bare message headers feeds.filled)
    have capture : go (capture s.limit bufferChunkSize none) w = (.ok ⟨none, none, false⟩, w) := rfl
    obtain ⟨w', recorded, told⟩ := go_onStart_of_kept (t := t) records entity capture rfl
    refine ⟨w', recorded, told.requests, ?_⟩
    rw [unread]
    exact feeds.holds.of_same told.sources told.iterators told.responses
  | some h =>
    have entity := go_messageEntity_request message headers feeds.filled
    set x := Entity.requestBody q (w.requests.get q).body (h.lookup typeHeader)
      (h.lookup encodingHeader)
    have read : w.isRead x = (w.requests.get q).letsRead := isRead_requestBody headers feeds
    set w₁ : World := { w with entities := (w.entities.alloc x).2 }
    have got : w₁.entities.get w.entities.next = x := Store.get_alloc_same _ _
    have holds : w₁.Holds k st := feeds.holds.of_same rfl rfl rfl
    have calm₁ : w₁.Calm := calm.newEntity trivial
    have draws : x.DrawsFrom k := feeds.draws q _ _
    cases letsRead : (w.requests.get q).letsRead with
    | false =>
      obtain ⟨lines, capture⟩ := go_capture_of_unread s.limit bufferChunkSize got draws.own calm₁
        (read.trans letsRead)
      obtain ⟨w', recorded, told⟩ :=
        go_onStart_of_kept (t := t) records (go_orNothing_of_ok entity) capture rfl
      refine ⟨w', recorded, told.requests, ?_⟩
      exact holds.of_same told.sources told.iterators told.responses
    | true =>
      obtain ⟨captured, w₂, capture, -, left⟩ := go_capture_of_failing got draws holds feeds.more
        s.limit_pos bufferChunkSize_within calm₁ failed (read.trans letsRead)
      have consulted : w₁.Consulted w₂ :=
        (keeps_capture s.limit bufferChunkSize (some w.entities.next)).of_go capture
      obtain ⟨w', recorded, told⟩ :=
        go_onStart_of_kept (t := t) records (go_orNothing_of_ok entity) capture rfl
      refine ⟨w', recorded, told.requests.trans consulted.requests, ?_⟩
      exact left.of_same told.sources told.iterators told.responses

/-- When a request is recorded whose body fails, the request keeps its body, and whoever sends it
meets what a capture has left of that.  Of an iterator this comes after the fault, and of a
generator it is nothing, and no fault.  Only a body that the recorder does not read is met as it
was. -/
theorem onStart_of_failing {ps : List Piece} {f : Fault} (calm : w.Calm)
    (message : w.messages.get m = .request (some q)) (records : s.recordsRequests = true)
    (fails : w.FailsAfter ps f (w.requests.get q).body) :
    ∃ w', go (onStart s t (some m)) w = (.ok (), w') ∧ w'.requests = w.requests ∧
      (∀ size, w'.meets size (w.requests.get q).body =
        if (w.requests.get q).letsRead then w.meetsCaptured s.limit size (w.requests.get q).body
        else w.meets size (w.requests.get q).body) ∧
      (∀ items rest, (w.requests.get q).body = .iterator items →
        w.iterators.get items = (ps.map Piece.value).map .ok ++ .error f :: rest →
        ∀ size, w'.meets size (w.requests.get q).body =
          some (if (w.requests.get q).letsRead
            then untilFault ((Spring.items items).skim s.limit rest).rest
            else (ps.map Piece.value, some f))) ∧
      ∀ items is, (w.requests.get q).body = .iterator items →
        w.iterators.get items = generated is →
        ∀ size, w'.meets size (w.requests.get q).body =
          some (if (w.requests.get q).letsRead then ([], none) else (ps.map Piece.value, some f)) := by
  obtain ⟨k, st, feeds, fault⟩ := fails.feeds
  obtain ⟨w', started, same, left⟩ := go_onStart_of_feeds (s := s) (t := t) calm message records
    feeds (by rw [fault]; exact Option.some_ne_none f)
  have met := feeds.meets left
  have behind (items : Ref (List Item)) (rest : List Item)
      (body : (w.requests.get q).body = .iterator items)
      (given : w.iterators.get items = (ps.map Piece.value).map .ok ++ .error f :: rest) (size : Int) :
      w'.meets size (w.requests.get q).body = some (if (w.requests.get q).letsRead
        then untilFault ((Spring.items items).skim s.limit rest).rest
        else (ps.map Piece.value, some f)) := by
    rw [met]
    rw [body] at feeds fails
    obtain ⟨rfl, rfl⟩ := Sigma.mk.inj (Option.some.inj feeds.spring)
    cases (w.requests.get q).letsRead with
    | true =>
      have left : (Spring.items items).captured s.limit (w.iterators.get items) =
          ((Spring.items items).skim s.limit rest).rest := by
        rw [given]
        exact Spring.captured_items items s.limit ps f rest
      exact congrArg (fun is => some (untilFault is)) left
    | false => exact fails
  refine ⟨w', started, same, fun size => ?_, behind, fun items is body given size => ?_⟩
  · rw [met]
    cases (w.requests.get q).letsRead with
    | true => rw [meetsCaptured, feeds.spring]; rfl
    | false => rw [World.meets, feeds.spring]; rfl
  · rw [body] at fails
    have ends : untilFault (generated is) = (ps.map Piece.value, some f) :=
      (congrArg untilFault given).symm.trans (Option.some.inj fails)
    rw [behind items [] body (given.trans (generated_of_error ends)), Spring.skim_items_nil]
    rfl

/-- A request whose iterator fails after three bytes. -/
def faltering (h : Headers) : World := { World.empty with
  iterators := Store.empty.set ⟨0⟩ [.ok (.bytes [97, 98, 99]), .error (.scripted .value "scripted")]
  requests := Store.empty.set ⟨0⟩ ⟨some "POST", some "mock://h/p", some h, .iterator ⟨0⟩⟩
  messages := Store.empty.set ⟨0⟩ (.request (some ⟨0⟩)) }

theorem calm_faltering (h : Headers) : (faltering h).Calm := by
  have items : CalmItems [.ok (.bytes [97, 98, 99]), .error (.scripted .value "scripted")] := by
    intro i mem
    rcases List.mem_pair.1 mem with rfl | rfl
    · exact trivial
    · rfl
  have filled := (calm_empty.setIterator ⟨0⟩ items).setMessage ⟨0⟩ (x := .request (some ⟨0⟩)) trivial
  exact filled.of_same rfl rfl rfl rfl

/-- A request that is declared to be empty meets the bytes and the fault. -/
theorem onStart_of_failing_zero :
    ∃ w', go (onStart { CaptureSettings.standard with requests := .bool true } (.sink ⟨0⟩)
        (some ⟨0⟩)) (faltering ⟨[("Content-Length", .text "0")]⟩) = (.ok (), w') ∧
      ∀ size, w'.meets size (.iterator ⟨0⟩) =
        some ([.bytes [97, 98, 99]], some (.scripted .value "scripted")) := by
  have fails : (faltering ⟨[("Content-Length", .text "0")]⟩).FailsAfter [.bytes [97, 98, 99]]
      (.scripted .value "scripted") (.iterator ⟨0⟩) := rfl
  obtain ⟨w', started, -, -, -, met⟩ := onStart_of_failing (m := ⟨0⟩) (q := ⟨0⟩) (t := .sink ⟨0⟩)
    (s := { CaptureSettings.standard with requests := .bool true }) (calm_faltering _) rfl rfl fails
  have given : (faltering ⟨[("Content-Length", .text "0")]⟩).iterators.get ⟨0⟩ =
      generated [.ok (.bytes [97, 98, 99]), .error (.scripted .value "scripted")] := rfl
  have unread : (Request.mk (some "POST") (some "mock://h/p")
      (some ⟨[("Content-Length", .text "0")]⟩) (.iterator ⟨0⟩)).letsRead = false := by
    decide +kernel
  refine ⟨w', started, fun size => (met ⟨0⟩ _ rfl given size).trans ?_⟩
  exact congrArg some (if_neg (ne_true_of_eq_false unread))

/-- Without a length header the request is sent as if it had no body. -/
theorem masks_failing_iterator :
    (faltering ⟨[]⟩).FailsAfter [.bytes [97, 98, 99]] (.scripted .value "scripted")
        (.iterator ⟨0⟩) ∧
      ∃ w', go (onStart { CaptureSettings.standard with requests := .bool true } (.sink ⟨0⟩)
          (some ⟨0⟩)) (faltering ⟨[]⟩) = (.ok (), w') ∧
        (w'.requests.get ⟨0⟩).body = .iterator ⟨0⟩ ∧
        w'.meets 8192 (.iterator ⟨0⟩) = some ([], none) := by
  have feeds : (faltering ⟨[]⟩).Feeds (.iterator ⟨0⟩) (.items ⟨0⟩)
      [.ok (.bytes [97, 98, 99]), .error (.scripted .value "scripted")] :=
    ⟨rfl, rfl, id, fun _ _ _ => .items⟩
  have drained := Feed.gather_items (Piece.spelled [.bytes [97, 98, 99]])
    (.scripted .value "scripted") []
  have fault := congrArg Drained.fault drained
  obtain ⟨w', started, same, left⟩ := go_onStart_of_feeds (m := ⟨0⟩) (q := ⟨0⟩) (t := .sink ⟨0⟩)
    (s := { CaptureSettings.standard with requests := .bool true }) (calm_faltering ⟨[]⟩) rfl rfl
    feeds fun none => absurd (fault.symm.trans none) (by simp)
  have read : (Request.mk (some "POST") (some "mock://h/p") (some ⟨[]⟩) (.iterator ⟨0⟩)).letsRead =
      true := rfl
  have nothing : (Spring.items ⟨0⟩).captured CaptureSettings.standard.limit
      [.ok (.bytes [97, 98, 99]), .error (.scripted .value "scripted")] = [] :=
    (Spring.captured_items ⟨0⟩ _ [.bytes [97, 98, 99]] (.scripted .value "scripted") []).trans
      (congrArg Drained.rest (Spring.skim_items_nil ⟨0⟩ _))
  refine ⟨rfl, w', started, by rw [same]; rfl, (feeds.meets left 8192).trans ?_⟩
  exact congrArg (fun is => some (untilFault is)) ((if_pos read).trans nothing)

end Act
end HttpTap
