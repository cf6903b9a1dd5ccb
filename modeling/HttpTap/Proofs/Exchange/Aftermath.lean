import HttpTap.Proofs.Exchange.Loaded
import HttpTap.Proofs.Span.Telling
import HttpTap.Proofs.World.Spring

/-!
# After a response has broken off

A response whose raw stream has failed is in one of two states when the program gets to read it.
Either what came after the fault was loaded, or the raw stream stands somewhere behind the bytes
that were read.  `Aftermath` is the type of these states, each with the bytes that are lost, and
`Spring.aftermath` computes the one that buffering and recording a response lead to.

The response does not know about the lost bytes.  So whoever reads it meets an error, or content
that begins too late and ends as if nothing had happened.  `World.Whole` says that the second never
happens, and `Bears.whole_iff` when it does not.
-/

namespace HttpTap

/-- What becomes of a response that breaks off, and which bytes are lost. -/
inductive Aftermath (k : Spring) where
  /-- What came after the fault is the content. -/
  | loaded (lost content : Bytes)
  /-- The content is on the wire, from here on. -/
  | left (lost : Bytes) (rest : k.State)

namespace Aftermath

variable {k : Spring}

/-- The bytes that are lost. -/
def lost : Aftermath k → Bytes
  | loaded lost _ | left lost _ => lost

/-- The same, with some bytes that were lost before. -/
def after (bs : Bytes) : Aftermath k → Aftermath k
  | loaded lost content => loaded (bs ++ lost) content
  | left lost rest => left (bs ++ lost) rest

/-- Does every reading of the response fail? -/
def Fails : Aftermath k → Prop
  | loaded .. => False
  | left _ s => k.Ended s ∨ ∀ size ≥ 1, (k.meets size s).2 ≠ none

end Aftermath

namespace Spring

/-- What becomes of a response when it is recorded, with this limit.  Recording need not read the
content; if it does, it buffers the content, and if this fails it reads on up to the limit. -/
def recorded (k : Spring) (limit : Int) (read : Bool) (s : k.State) : Aftermath k :=
  if read then
    if (k.drain s).fault = none then .loaded [] (k.drain s).data
    else .left ((k.drain s).data ++ (k.skim limit (k.drain s).rest).data) (k.captured limit s)
  else .left [] s

variable {k : Spring} {limit : Int} {s : k.State}

theorem recorded_of_whole (whole : (k.drain s).fault = none) :
    k.recorded limit true s = .loaded [] (k.drain s).data := by
  rw [recorded, if_pos rfl, if_pos whole]

theorem recorded_of_failing (failed : (k.drain s).fault ≠ none) :
    k.recorded limit true s = .left ((k.drain s).data ++ (k.skim limit (k.drain s).rest).data)
      (k.captured limit s) := by
  rw [recorded, if_pos rfl, if_neg failed]

/-- What becomes of a response that breaks off while it is buffered, and is then recorded. -/
def aftermath (k : Spring) (limit : Int) (read : Bool) (s : k.State) : Aftermath k :=
  (k.recorded limit read (k.drain s).rest).after (k.drain s).data

theorem aftermath_of_drain {d : Drained k.State} (drained : k.drain s = d) (limit : Int)
    (read : Bool) : k.aftermath limit read s = (k.recorded limit read d.rest).after d.data := by
  rw [aftermath, drained]

/-- What a reading of the spring comes to: the values that are met, or the fault that ended them. -/
def outcome (k : Spring) (size : Int) (s : k.State) : Except Fault (List Value) :=
  match (k.meets size s).2 with
  | none => .ok (k.meets size s).1
  | some f => .error f

theorem outcome_of_none {size : Int} (h : (k.meets size s).2 = none) :
    k.outcome size s = .ok (k.meets size s).1 := by
  rw [outcome, h]

theorem outcome_of_some {size : Int} {f : Fault} (h : (k.meets size s).2 = some f) :
    k.outcome size s = .error f := by
  rw [outcome, h]

end Spring

/-- Does the recorder read a response whose content is on the wire? -/
def Response.letsRead (r : Response) : Bool :=
  r.headers.any fun h => isFilledLength (responseLength r (h.lookup encodingHeader))

/-- Whether a response was read to its end does not matter. -/
theorem Response.letsRead_of_marked {r r' : Response} (marked : r.Marked r') :
    r'.letsRead = r.letsRead := by
  have same : ∀ encoding, responseLength r' encoding = responseLength r encoding := by
    intro encoding
    rw [responseLength, responseLength, marked.content, marked.headers]
  simp only [letsRead, marked.headers, same]

namespace World

open Act

/-- The content of the response is on the wire, and the raw stream fails before its end. -/
structure Breaks (w : World) (p : Ref Response) (source : Ref Source) (n : Nat) (t : Tower n) :
    Prop where
  unread : (w.responses.get p).content = .unread
  fresh : (w.responses.get p).consumed = false
  headers : ∃ h, (w.responses.get p).headers = some h
  raw : (w.responses.get p).raw = some source
  stands : w.sources.get source = ⟨n, t⟩
  failed : ((Tower.reader n).pieces streamChunkSize t).2.1 ≠ none

/-- What becomes of a response that breaks off, if its raw stream is in this state. -/
def aftermath (w : World) (p : Ref Response) (source : Ref Source) {n : Nat} (t : Tower n)
    (limit : Int) : Aftermath (.raw p source n) :=
  (Spring.raw p source n).aftermath limit (w.responses.get p).letsRead ⟨t, streamChunkSize, .live⟩

/-- The response holds what was loaded, or its raw stream is where it was left. -/
def Bears (w : World) (p : Ref Response) {k : Spring} : Aftermath k → Prop
  | .loaded _ c => w.Loaded p c
  | .left _ s => w.Holds k s

/-- What the program reads of the response is what was loaded, or what the raw stream gives from
where it was left.  If this is the end, the content was consumed. -/
def Shows (w : World) (p : Ref Response) {k : Spring} : Aftermath k → Prop
  | .loaded _ c => w.YieldsAlways p c
  | .left _ s => ∀ size,
    (k.Ended s → (go (contentPieces p size) w).1 = .error (.misuse .streamConsumed "")) ∧
    (¬ k.Ended s → (go (contentPieces p size) w).1 = k.outcome size s)

/-- No reading of the response that ends as it should lacks these bytes. -/
structure Whole (w : World) (p : Ref Response) (lost : Bytes) : Prop where
  content : ∀ bs, (go (loadContent p) w).1 = .ok (.bytes bs) → lost = []
  pieces : ∀ size ≥ 1, ∀ vs, (go (contentPieces p size) w).1 = .ok vs → lost = []

variable {w w' : World} {p : Ref Response} {k : Spring} {a : Aftermath k}

theorem bears_after (bs : Bytes) (a : Aftermath k) : w.Bears p (a.after bs) ↔ w.Bears p a := by
  cases a <;> rfl

/-- Telling spans and sinks something leaves the response as it is. -/
theorem Bears.told (bears : w.Bears p a) (told : w.Told w') : w'.Bears p a := by
  cases a with
  | loaded lost c => exact Loaded.of_responses bears told.responses
  | left lost s => exact Holds.of_same bears told.sources told.iterators told.responses

end World

/-! ## Reading what is left -/

namespace Act

open World

variable {w : World} {p : Ref Response} {source : Ref Source} {n : Nat}
  {s : (Spring.raw p source n).State}

/-- A response that is not consumed reads on from where its raw stream is. -/
theorem go_rawPieces_of_holds (holds : w.Holds (.raw p source n) s) (size : Int) :
    (go (rawPieces p size) w).1 = (Spring.raw p source n).outcome size s := by
  obtain ⟨sources, -, raw, -, -⟩ := holds
  obtain ⟨w₁, used⟩ := onSource_of_get (x := (Spring.raw p source n).meets size s) sources
    (fun reader t =>
      (((reader.pieces size t).1, (reader.pieces size t).2.1), (reader.pieces size t).2.2)) rfl
  have read := congrArg (fun x : _ × World => (Except.ok (ε := Fault) x.1, x.2)) used
  rw [rawPieces, go_bind, go_view]
  dsimp only
  rw [raw]
  refine (congrArg Prod.fst (go_bind_of_ok read _)).trans ?_
  cases fault : ((Spring.raw p source n).meets size s).2 with
  | none =>
    rw [Spring.outcome_of_none fault]
    rfl
  | some f =>
    rw [Spring.outcome_of_some fault]
    rfl

theorem go_contentPieces_of_holds (holds : w.Holds (.raw p source n) s)
    (more : ¬ (Spring.raw p source n).Ended s) (size : Int) :
    (go (contentPieces p size) w).1 = (Spring.raw p source n).outcome size s := by
  have unmarked : (w.responses.get p).consumed = false :=
    Bool.eq_false_iff.2 fun consumed => more (holds.2.2.2.2.1 consumed)
  rw [← go_rawPieces_of_holds holds, contentPieces, go_bind, go_view]
  dsimp only
  rw [unmarked]
  rfl

/-- Nothing can be read of a response whose raw stream is at its end and whose content was not
loaded. -/
theorem go_readings_of_ended (holds : w.Holds (.raw p source n) s)
    (ended : (Spring.raw p source n).Ended s) :
    (∃ f, (go (loadContent p) w).1 = .error f) ∧
      ∀ size, (go (contentPieces p size) w).1 = .error (.misuse .streamConsumed "") := by
  obtain ⟨-, -, -, unread, mark⟩ := holds
  have consumed := mark.2 ended
  constructor
  · refine ⟨.misuse .runtime "The content for this response was already consumed", ?_⟩
    rw [loadContent, go_bind, go_view]
    dsimp only
    rw [unread, consumed]
    rfl
  · intro size
    rw [contentPieces, go_bind, go_view]
    dsimp only
    rw [unread, consumed]
    rfl

/-- Content that is loaded from the wire has been read to its end. -/
theorem meets_of_loadContent {bs : Bytes} (holds : w.Holds (.raw p source n) s)
    (loaded : (go (loadContent p) w).1 = .ok (.bytes bs)) :
    ((Spring.raw p source n).meets contentChunkSize s).2 = none := by
  have read := go_rawPieces_of_holds holds contentChunkSize
  obtain ⟨-, -, -, unread, -⟩ := holds
  rw [loadContent, go_bind, go_view] at loaded
  dsimp only at loaded
  rw [unread] at loaded
  dsimp only at loaded
  split at loaded
  · exact absurd loaded (by simp)
  · split at loaded
    · have null : Except.ok (ε := Fault) Value.null = .ok (.bytes bs) := loaded
      exact absurd null (by simp)
    · rw [go_bind] at loaded
      cases met : ((Spring.raw p source n).meets contentChunkSize s).2 with
      | none => rfl
      | some f =>
        have failed : (go (rawPieces p contentChunkSize) w).1 = .error f := by
          rw [read, Spring.outcome_of_some met]
        rw [show go (rawPieces p contentChunkSize) w = (.error f, _) from Prod.ext failed rfl]
          at loaded
        exact absurd loaded (by simp)

end Act

namespace World

open Act

variable {w : World} {p : Ref Response} {source : Ref Source} {n : Nat}
  {a : Aftermath (.raw p source n)}

theorem Bears.shows (bears : w.Bears p a) : w.Shows p a := by
  cases a with
  | loaded lost c => exact Loaded.yieldsAlways bears
  | left lost s => exact fun size => ⟨fun ended => (go_readings_of_ended bears ended).2 size,
      fun more => go_contentPieces_of_holds bears more size⟩

/-- The bytes that are lost are missed, unless there are none or every reading fails. -/
theorem Bears.whole_iff (bears : w.Bears p a) : w.Whole p a.lost ↔ a.lost = [] ∨ a.Fails := by
  cases a with
  | loaded lost c =>
    have loaded : (go (loadContent p) w).1 = .ok (.bytes c) := (Loaded.yields bears).content
    refine ⟨fun whole => .inl (whole.content c loaded), ?_⟩
    rintro (none | fails)
    · exact ⟨fun _ _ => none, fun _ _ _ _ => none⟩
    · exact fails.elim
  | left lost s =>
    have holds : w.Holds (.raw p source n) s := bears
    constructor
    · intro whole
      by_cases ended : (Spring.raw p source n).Ended s
      · exact .inr (.inl ended)
      · by_cases nothing : lost = []
        · exact .inl nothing
        · refine .inr (.inr fun size pos met => nothing ?_)
          refine whole.pieces size pos ((Spring.raw p source n).meets size s).1 ?_
          rw [go_contentPieces_of_holds holds ended, Spring.outcome_of_none met]
    · rintro (nothing | ended | fails)
      · exact ⟨fun _ _ => nothing, fun _ _ _ _ => nothing⟩
      · obtain ⟨⟨f, unloaded⟩, unread⟩ := go_readings_of_ended holds ended
        exact ⟨fun bs loaded => absurd (unloaded.symm.trans loaded) (by simp),
          fun size _ vs read => absurd ((unread size).symm.trans read) (by simp)⟩
      · refine ⟨fun bs loaded => ?_, fun size pos vs read => ?_⟩
        · exact absurd (meets_of_loadContent holds loaded) (fails contentChunkSize (by decide))
        · by_cases ended : (Spring.raw p source n).Ended s
          · exact absurd (((go_readings_of_ended holds ended).2 size).symm.trans read) (by simp)
          · obtain ⟨f, fault⟩ := Option.ne_none_iff_exists'.1 (fails size pos)
            rw [go_contentPieces_of_holds holds ended, Spring.outcome_of_some fault] at read
            exact absurd read (by simp)

end World

end HttpTap
