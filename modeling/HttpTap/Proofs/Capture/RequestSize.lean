import HttpTap.Proofs.Capture.DeclaredLength
import HttpTap.Proofs.Capture.Retry

/-!
# The size of a request without a declared length

Where no length is declared, the size of a body is found in one of three ways.  Bytes have a length
of their own.  A body that can be read once is buffered, and its bytes are counted on the way.  A
text has neither: it is not bytes yet, so that nothing says how many it will be, and it can be read
again, so that it is not buffered.  What is left is the number of bytes that were kept.

So the size of a text that is longer than the limit is the limit and not the size of the text.
`onStart_size_iff` says when the size of the whole body is recorded; besides short texts it asks for
headers, without which a request has no entity, and that looking for the length in them does not
fail.
-/

namespace HttpTap

namespace Target

/-- The latest value that a target was told under a key. -/
def attribute? (t : Target) (w : World) (key : String) : Option Value :=
  match t with
  | .sink r => (w.sinks.get r).entries.lookup key
  | .span r => (w.spans.get r).attribute? key

/-- The target takes the attributes that it is told. -/
def Listens (t : Target) (w : World) : Prop :=
  match t with
  | .sink r => (w.sinks.get r).remaining = none
  | .span r => (w.spans.get r).Listens

/-- What a target says depends on what it was told. -/
theorem attribute?_congr {t : Target} {w w' : World} (same : t.state w' = t.state w)
    (key : String) : t.attribute? w' key = t.attribute? w key := by
  cases t with
  | sink r => exact congrArg (fun s : Sink => s.entries.lookup key) (Sum.inl.inj same)
  | span r => exact congrArg (fun x : Span => x.attribute? key) (Sum.inr.inj same)

end Target

/-! ## The three ways -/

/-- The size that is recorded of a body for which no length is declared. -/
def BodyKind.sizeOf (kind : BodyKind) (limit : Int) (c : Bytes) : Int :=
  match kind with
  | .text => min (c.length : Int) limit
  | _ => c.length

/-- The request has headers, and there is no length in them. -/
def Request.Unsized (r : Request) : Prop :=
  ∃ h, r.headers = some h ∧ declaredLength (some h) = .ok unknownLength

/-- The request has no length header, or one that is no number. -/
def Request.Undeclared (r : Request) : Prop :=
  ∀ h v, r.headers = some h → h.get? lengthHeader = some v → ∃ f, v.toInteger = .error f

namespace Request

variable {w : World} {r : Request} {h : Headers} {c : Bytes} {limit : Int}

/-- The length that is declared is unknown, or looking for it fails. -/
theorem Undeclared.declaredLength (undeclared : r.Undeclared) (headers : r.headers = some h) :
    declaredLength (some h) = .ok unknownLength ∨ ∃ f, declaredLength (some h) = .error f := by
  rw [HttpTap.declaredLength, Option.bind_some]
  cases found : h.get? lengthHeader with
  | none => exact .inl rfl
  | some v =>
    obtain ⟨f, failed⟩ := undeclared h v headers found
    cases v with
    | null => exact .inl rfl
    | _ =>
      dsimp only
      rw [failed]
      dsimp only
      split
      · exact .inl rfl
      · exact .inr ⟨f, rfl⟩

/-- Without headers, or where looking for the length fails, nothing is recorded. -/
theorem recorded_of_not_unsized (undeclared : r.Undeclared) (reads : w.Reads c r.body)
    (filled : c ≠ []) (not : ¬ r.Unsized) : r.recorded limit c = [] := by
  cases headers : r.headers with
  | none => rw [recorded, headers]
  | some h =>
    obtain ⟨f, failed⟩ := (undeclared.declaredLength headers).resolve_left fun unknown =>
      not ⟨h, headers, unknown⟩
    have there : r.body ≠ .absent := by
      intro absent
      rw [absent] at reads
      exact filled reads
    have length : requestLength (some h) r.body = .error f := by
      rw [requestLength, failed]
      rfl
    rw [recorded_of_filled headers there, length]
    rfl

/-- Each kind of body has its way. -/
theorem lookup_size_recorded (reads : w.Reads c r.body) (filled : c ≠ []) (unsized : r.Unsized)
    (pos : 0 < limit) :
    (r.recorded limit c).lookup requestKeys.size = some (.int (r.body.kind.sizeOf limit c)) := by
  obtain ⟨h, headers, unknown⟩ := unsized
  have apart : requestKeys.size ≠ requestKeys.body := by decide
  have there : r.body ≠ .absent := by
    intro absent
    rw [absent] at reads
    exact filled reads
  have some_bytes : (c.length : Int) ≠ 0 := by
    have := List.length_pos_iff.2 filled
    omega
  rw [recorded_of_filled headers there, requestLength, unknown]
  cases body : r.body with
  | absent => exact absurd body there
  | bytes bs | buffer bs =>
    rw [body] at reads
    obtain rfl : c = bs := reads
    show (attributesFrom requestKeys limit (.ok c.length) none c).lookup requestKeys.size = _
    rw [lookup_size_attributesFrom apart pos filled, if_neg some_bytes,
      if_pos (Int.natCast_nonneg _)]
    rfl
  | text x =>
    show (attributesFrom requestKeys limit (.ok unknownLength) none c).lookup requestKeys.size = _
    rw [lookup_size_attributesFrom apart pos filled, if_neg (by decide), if_neg (by decide)]
    have kept : ((c.take limit.toNat).length : Int) = min (c.length : Int) limit := by
      rw [List.length_take]
      omega
    exact congrArg (fun n => some (Value.int n)) kept
  | file source | iterator items | value v =>
    show (attributesFrom requestKeys limit (.ok unknownLength) (some c.length) c).lookup
      requestKeys.size = _
    rw [lookup_size_attributesFrom apart pos filled, if_neg (by decide), if_neg (by decide)]
    rfl

end Request

namespace Act

open World

variable {w w' : World} {t : Target} {m : Ref Message} {q : Ref Request} {c : Bytes}
  {s : CaptureSettings} {attributes : List (String × Value)}

/-! ## What the target says afterwards -/

/-- A target that listens takes an attribute, and goes on listening. -/
theorem go_putAttribute_of_listens (listens : t.Listens w) (key : String) (v : Value) :
    ∃ w', go (putAttribute t key v) w = (.ok (), w') ∧ t.Listens w' ∧
      t.attribute? w' key = some v ∧
      ∀ other, other ≠ key → t.attribute? w' other = t.attribute? w other := by
  cases t with
  | sink r =>
    have willing : ¬ (w.sinks.get r).remaining = some 0 := by
      rw [show (w.sinks.get r).remaining = none from listens]
      exact nofun
    refine ⟨_, (go_putAttribute_sink r key v w).trans (if_neg willing), ?_, ?_, ?_⟩
    · show ((w.sinks.set r ((w.sinks.get r).put key v)).get r).remaining = none
      rw [Store.get_set_same, Sink.put, show (w.sinks.get r).remaining = none from listens]
      rfl
    · show ((w.sinks.set r ((w.sinks.get r).put key v)).get r).entries.lookup key = some v
      rw [Store.get_set_same]
      exact lookup_putEntry_same _ _ _
    · intro other apart
      show ((w.sinks.set r ((w.sinks.get r).put key v)).get r).entries.lookup other = _
      rw [Store.get_set_same]
      exact lookup_putEntry_other apart _ _
  | span r =>
    obtain ⟨w', told, put⟩ := go_setAttribute_of_listens (r := r) listens key v
    refine ⟨w', told, ?_, ?_, ?_⟩
    · show (w'.spans.get r).Listens
      rw [put]
      exact Span.Listens.put listens key v
    · show (w'.spans.get r).attribute? key = some v
      rw [put]
      exact Span.attribute?_put_same listens key v
    · intro other apart
      show (w'.spans.get r).attribute? other = _
      rw [put]
      exact Span.attribute?_put_other apart _ v

/-- Of the attributes that were put under a key the last one counts. -/
theorem attribute?_putAttributes (listens : t.Listens w) (attributes : List (String × Value))
    (key : String) :
    t.attribute? (go (putAttributes t attributes) w).2 key =
      (attributes.reverse.lookup key).or (t.attribute? w key) := by
  induction attributes generalizing w with
  | nil => rfl
  | cons a as ih =>
    obtain ⟨w₁, told, still, same, others⟩ := go_putAttribute_of_listens listens a.1 a.2
    have step : go (putAttributes t (a :: as)) w = go (putAttributes t as) w₁ :=
      go_bind_of_ok told _
    have first : t.attribute? w₁ key = ([a].lookup key).or (t.attribute? w key) := by
      by_cases this : key = a.1
      · subst this
        rw [same, List.lookup_cons_self]
        rfl
      · rw [others key this, List.lookup_cons, beq_eq_false_iff_ne.2 this]
        rfl
    rw [step, ih still, first, List.reverse_cons, List.lookup_append, Option.or_assoc]

/-- Recording a request tells the target its attributes. -/
theorem onStart_told (records : s.recordsRequests = true)
    (message : w.messages.get m = .request (some q)) (reads : w.Reads c (w.requests.get q).body)
    (listens : t.Listens w) :
    ∃ w', go (onStart s t (some m)) w = (.ok (), w') ∧
      ∀ key, t.attribute? w' key =
        (((w.requests.get q).recorded s.limit c).lookup key).or (t.attribute? w key) := by
  obtain ⟨w', recorded, puts⟩ := onStart_puts t records message reads
  refine ⟨w', recorded, fun key => ?_⟩
  rw [Target.attribute?_congr puts, attribute?_putAttributes listens]
  refine congrArg (Option.or · _) ?_
  unfold Request.recorded
  split
  · rfl
  · rfl
  · exact reverse_attributesFrom (by decide) _ key

/-! ## What it comes to -/

/-- A request that declares no length has a body that is not empty, and the target has not been told
a size before.  It is told the size of the whole body exactly if the request has headers, looking
for the length in them does not fail, and the body is no text above the limit.  Of such a text the
limit is told, and where the length cannot be looked for nothing is. -/
theorem onStart_size_iff (records : s.recordsRequests = true)
    (message : w.messages.get m = .request (some q)) (reads : w.Reads c (w.requests.get q).body)
    (filled : c ≠ []) (undeclared : (w.requests.get q).Undeclared) (listens : t.Listens w)
    (blank : t.attribute? w requestKeys.size = none) :
    ∃ w', go (onStart s t (some m)) w = (.ok (), w') ∧
      (t.attribute? w' requestKeys.size = some (.int c.length) ↔
        (w.requests.get q).Unsized ∧
          ((w.requests.get q).body.kind = .text → (c.length : Int) ≤ s.limit)) ∧
      ((w.requests.get q).Unsized → (w.requests.get q).body.kind = .text → s.limit < c.length →
        t.attribute? w' requestKeys.size = some (.int s.limit)) ∧
      (¬ (w.requests.get q).Unsized → t.attribute? w' requestKeys.size = none) := by
  obtain ⟨w', recorded, told⟩ := onStart_told records message reads listens
  generalize w.requests.get q = r at reads undeclared told
  have size := told requestKeys.size
  rw [blank, Option.or_none] at size
  have nothing (not : ¬ r.Unsized) : t.attribute? w' requestKeys.size = none := by
    rw [size, Request.recorded_of_not_unsized undeclared reads filled not]
    rfl
  have something (unsized : r.Unsized) :
      t.attribute? w' requestKeys.size = some (.int (r.body.kind.sizeOf s.limit c)) := by
    rw [size, Request.lookup_size_recorded reads filled unsized s.limit_pos]
  refine ⟨w', recorded, ⟨fun whole => ?_, fun ⟨unsized, short⟩ => ?_⟩,
    fun unsized text long => ?_, nothing⟩
  · have unsized : r.Unsized := by
      by_contra not
      exact nomatch (nothing not).symm.trans whole
    have same : r.body.kind.sizeOf s.limit c = c.length :=
      Value.int.inj (Option.some.inj ((something unsized).symm.trans whole))
    refine ⟨unsized, fun text => ?_⟩
    rw [text] at same
    have least : min (c.length : Int) s.limit = c.length := same
    omega
  · rw [something unsized]
    cases kind : r.body.kind with
    | text => exact congrArg (fun n => some (Value.int n)) (Int.min_eq_left (short kind))
    | _ => rfl
  · rw [something unsized, text]
    exact congrArg (fun n => some (Value.int n)) (Int.min_eq_right (Int.le_of_lt long))

/-- A request with a text of three bytes and no headers that say so, and a sink. -/
def textUpload : World := { World.empty with
  requests := Store.empty.set ⟨0⟩ ⟨some "POST", some "mock://h/", some ⟨[]⟩, .text "abc"⟩
  messages := Store.empty.set ⟨0⟩ (.request (some ⟨0⟩)) }

/-- Settings by which requests are recorded up to a limit. -/
def requestsUpTo (limit : Int) (pos : 0 < limit) : CaptureSettings :=
  { CaptureSettings.standard with requests := .bool true, limit := limit, limit_pos := pos }

theorem undeclared_textUpload : (textUpload.requests.get ⟨0⟩).Undeclared := by
  intro h v headers found
  obtain rfl := Option.some.inj headers
  exact nomatch found

theorem reads_textUpload : textUpload.Reads [97, 98, 99] (textUpload.requests.get ⟨0⟩).body := by
  show [97, 98, 99] = Text.Utf8.encode "abc"
  decide +kernel

/-- Below the limit the size of the text is recorded. -/
theorem onStart_size_iff_short :
    ∃ w', go (onStart (requestsUpTo 3 (by decide)) (.sink ⟨0⟩) (some ⟨0⟩)) textUpload =
        (.ok (), w') ∧
      (Target.sink ⟨0⟩).attribute? w' requestKeys.size = some (.int 3) := by
  obtain ⟨w', recorded, whole, -⟩ := onStart_size_iff (w := textUpload) (m := ⟨0⟩) (q := ⟨0⟩)
    (t := .sink ⟨0⟩) (s := requestsUpTo 3 (by decide)) rfl rfl reads_textUpload nofun
    undeclared_textUpload rfl rfl
  exact ⟨w', recorded, whole.2 ⟨⟨_, rfl, rfl⟩, fun _ => Int.le_refl 3⟩⟩

/-- Above it the limit is. -/
theorem onStart_size_of_text :
    ∃ w', go (onStart (requestsUpTo 2 (by decide)) (.sink ⟨0⟩) (some ⟨0⟩)) textUpload =
        (.ok (), w') ∧
      textUpload.Reads [97, 98, 99] (textUpload.requests.get ⟨0⟩).body ∧
      (textUpload.requests.get ⟨0⟩).Undeclared ∧
      (Target.sink ⟨0⟩).attribute? w' requestKeys.size = some (.int 2) := by
  obtain ⟨w', recorded, told⟩ := onStart_told (w := textUpload) (m := ⟨0⟩) (q := ⟨0⟩)
    (t := .sink ⟨0⟩) (s := requestsUpTo 2 (by decide)) rfl rfl reads_textUpload rfl
  have unsized : (textUpload.requests.get ⟨0⟩).Unsized := ⟨_, rfl, rfl⟩
  refine ⟨w', recorded, reads_textUpload, undeclared_textUpload, ?_⟩
  rw [told, Request.lookup_size_recorded reads_textUpload nofun unsized (by decide)]
  rfl

end Act
end HttpTap
