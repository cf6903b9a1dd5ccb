import HttpTap.Proofs.Entity.Offers

/-!
# When the length of a body can be told

A length is unknown or a natural number, whatever stands in the header that declares it: a value
that is no numeral counts as none, and so does a numeral below zero.  There is one exception.  An
infinite double is a number, so reading it is not malformed, and yet it is no integer; the fault
for that comes through (`declaredLength_of_endless`).

`contentLength_told_iff` is the whole of it, up to the members of entities.  The length of a request
can be told exactly if its headers are not `Endless`; that of a response, exactly if they are not or
if what they declare is not asked for.
-/

namespace HttpTap

/-- A length: unknown, or a natural number. -/
def IsLength (n : Int) : Prop := n = unknownLength ∨ 0 ≤ n

/-- What stands in the length header, if there is one. -/
def lengthValue? (headers : Option Headers) : Option Value :=
  headers.bind fun h => h.get? lengthHeader

theorem lengthValue?_insert (h : Headers) (v : Value) :
    lengthValue? (some (h.insert lengthHeader v)) = some v :=
  h.get?_insert_same lengthHeader v

/-- The length that is declared is an infinite double. -/
def Endless (headers : Option Headers) : Prop :=
  ∃ s, lengthValue? headers = some (.float (.infinite s))

/-- The fault for a double that is beyond every integer. -/
def endlessFault : Fault := .misuse .overflow "cannot convert float infinity to integer"

/-! ## What headers declare -/

section Declared

variable {headers : Option Headers} {v : Value} {n : Int} {f : Fault}

/-- A value that stands for no integer is malformed, or it is an infinite double. -/
theorem malformed_of_toInteger (failed : v.toInteger = .error f) :
    f.kind.isMalformed = true ∨ ∃ s, v = .float (.infinite s) := by
  cases v with
  | int n | bool b => exact nomatch failed
  | text s =>
    rw [Value.toInteger] at failed
    split at failed
    · exact nomatch failed
    · exact .inl (Except.error.inj failed ▸ rfl)
  | bytes bs =>
    rw [Value.toInteger] at failed
    split at failed
    · exact nomatch failed
    · exact .inl (Except.error.inj failed ▸ rfl)
  | float x =>
    cases x with
    | nan => exact .inl (Except.error.inj failed ▸ rfl)
    | infinite s => exact .inr ⟨s, rfl⟩
    | finite s m e => exact nomatch failed
  | null | list vs | tuple vs | set vs | dict es | moment t | cycle m =>
    exact .inl (Except.error.inj failed ▸ rfl)

theorem declaredLength_of_none (missing : lengthValue? headers = none) :
    declaredLength headers = .ok unknownLength := by
  rw [declaredLength, ← lengthValue?, missing]

/-- What stands in the length header is read as an integer, also if it is nothing at all. -/
theorem declaredLength_of_some (found : lengthValue? headers = some v) :
    declaredLength headers = match v.toInteger with
      | .ok n => .ok (if 0 ≤ n then n else unknownLength)
      | .error f => if f.kind.isMalformed then .ok unknownLength else .error f := by
  rw [declaredLength, ← lengthValue?, found]
  cases v <;> rfl

theorem declaredLength_of_endless (endless : Endless headers) :
    declaredLength headers = .error endlessFault := by
  obtain ⟨s, found⟩ := endless
  rw [declaredLength_of_some found]
  rfl

theorem exists_declaredLength (not : ¬ Endless headers) :
    ∃ n, declaredLength headers = .ok n ∧ IsLength n := by
  cases found : lengthValue? headers with
  | none => exact ⟨_, declaredLength_of_none found, .inl rfl⟩
  | some v =>
    rw [declaredLength_of_some found]
    cases read : v.toInteger with
    | ok n =>
      refine ⟨_, rfl, ?_⟩
      by_cases natural : 0 ≤ n
      · exact .inr (by rwa [if_pos natural])
      · exact .inl (if_neg natural)
    | error f =>
      have malformed : f.kind.isMalformed = true := by
        rcases malformed_of_toInteger read with malformed | ⟨s, rfl⟩
        · exact malformed
        · exact absurd ⟨s, found⟩ not
      exact ⟨_, if_pos malformed, .inl rfl⟩

/-- Headers declare a length unless they are endless. -/
theorem declaredLength_told_iff :
    (∃ n, declaredLength headers = .ok n ∧ IsLength n) ↔ ¬ Endless headers := by
  refine ⟨?_, exists_declaredLength⟩
  rintro ⟨n, told, -⟩ endless
  rw [declaredLength_of_endless endless] at told
  exact nomatch told

/-- A natural number is declared exactly by what reads as this number. -/
theorem declaredLength_eq_iff (natural : 0 ≤ n) :
    declaredLength headers = .ok n ↔ ∃ v, lengthValue? headers = some v ∧ v.toInteger = .ok n := by
  have known : unknownLength ≠ n := by
    rintro rfl
    exact absurd natural (by decide)
  constructor
  · intro declared
    cases found : lengthValue? headers with
    | none =>
      rw [declaredLength_of_none found] at declared
      exact absurd (Except.ok.inj declared) known
    | some v =>
      refine ⟨v, rfl, ?_⟩
      rw [declaredLength_of_some found] at declared
      cases read : v.toInteger with
      | ok m =>
        rw [read] at declared
        have value : (if 0 ≤ m then m else unknownLength) = n := Except.ok.inj declared
        split at value
        · rw [value]
        · exact absurd value known
      | error f =>
        rw [read] at declared
        dsimp only at declared
        split at declared
        · exact absurd (Except.ok.inj declared) known
        · exact nomatch declared
  · rintro ⟨v, found, read⟩
    rw [declaredLength_of_some found, read]
    exact congrArg Except.ok (if_pos natural)

end Declared

/-! ## Lengths of requests and responses -/

section Bodies

variable {headers : Option Headers} {p : Response} {encoding : Value} {n m : Int}

/-- A length that steps in for one that is unknown. -/
theorem IsLength.orElse (h : IsLength n) (h' : IsLength m) :
    ∃ k, (if n = unknownLength then .ok m else .ok n : Except Fault Int) = .ok k ∧ IsLength k := by
  by_cases unknown : n = unknownLength
  · exact ⟨m, if_pos unknown, h'⟩
  · exact ⟨n, if_neg unknown, h⟩

/-- Bytes have a length of their own, and are asked for it only if none is declared. -/
theorem requestLength_told_iff (body : Body) :
    (∃ n, requestLength headers body = .ok n ∧ IsLength n) ↔ ¬ Endless headers := by
  constructor
  · rintro ⟨n, told, -⟩ endless
    rw [requestLength, declaredLength_of_endless endless] at told
    exact nomatch told
  · intro not
    obtain ⟨n, declared, length⟩ := exists_declaredLength not
    rw [requestLength, declared]
    refine length.orElse ?_
    cases body.byteLength? with
    | none => exact .inl rfl
    | some k => exact .inr (Int.natCast_nonneg k)

/-- Content that is there and counts as true can be measured. -/
def Content.Sized (c : Content) : Prop :=
  ∀ v, c = .held v → v.truthy = true → v.length?.isSome = true

/-- The length of the response depends on what its headers declare: the content is not packed, and
it is still on the wire or not empty. -/
def Response.Asks (p : Response) (encoding : Value) : Prop :=
  isPacked encoding = .ok false ∧ ∀ v, p.content = .held v → v.truthy = true

/-- Whether content is packed can be told from a text, and where nothing is said. -/
theorem exists_isPacked (word : encoding = .null ∨ ∃ s, encoding = .text s) :
    ∃ packed, isPacked encoding = .ok packed := by
  rcases word with rfl | ⟨s, rfl⟩
  · exact ⟨false, rfl⟩
  · rw [isPacked]
    split
    · exact ⟨_, rfl⟩
    · exact ⟨_, rfl⟩

/-- Packed content has the length of what is there, if anything is. -/
theorem responseLength_of_packed (packed : isPacked encoding = .ok true)
    (sized : p.content.Sized) : ∃ n, responseLength p encoding = .ok n ∧ IsLength n := by
  cases content : p.content with
  | unread => exact ⟨_, by rw [responseLength, content, packed]; rfl, .inl rfl⟩
  | held v =>
    by_cases filled : v.truthy = true
    · obtain ⟨k, measured⟩ := Option.isSome_iff_exists.1 (sized v content filled)
      have length : requireLength v = .ok k := by rw [requireLength, measured]
      refine ⟨k, ?_, .inr (Int.natCast_nonneg k)⟩
      rw [responseLength, content]
      dsimp only
      rw [if_pos filled, packed, length]
      rfl
    · exact ⟨0, by rw [responseLength, content]; exact if_neg filled, .inr (Int.le_refl 0)⟩

/-- Content that is not packed has the declared length, or the length of what is there. -/
theorem responseLength_of_plain (plain : isPacked encoding = .ok false)
    (sized : p.content.Sized) (filled : ∀ v, p.content = .held v → v.truthy = true) :
    (∀ f, declaredLength p.headers = .error f → responseLength p encoding = .error f) ∧
      ∀ n, declaredLength p.headers = .ok n → IsLength n →
        ∃ m, responseLength p encoding = .ok m ∧ IsLength m := by
  cases content : p.content with
  | unread =>
    rw [responseLength, content, plain]
    exact ⟨fun f failed => failed, fun n declared length => ⟨n, declared, length⟩⟩
  | held v =>
    obtain ⟨k, measured⟩ := Option.isSome_iff_exists.1 (sized v content (filled v content))
    have there : requireLength v = .ok k := by rw [requireLength, measured]
    rw [responseLength, content]
    dsimp only
    rw [if_pos (filled v content), plain, there]
    constructor
    · intro f failed
      rw [failed]
      rfl
    · intro n declared length
      rw [declared]
      exact length.orElse (.inr (Int.natCast_nonneg k))

/-- The length of a response can be told unless it has to be asked for and is endless. -/
theorem responseLength_told_iff (word : encoding = .null ∨ ∃ s, encoding = .text s)
    (sized : p.content.Sized) :
    (∃ n, responseLength p encoding = .ok n ∧ IsLength n) ↔
      ¬ (p.Asks encoding ∧ Endless p.headers) := by
  obtain ⟨packed, told⟩ := exists_isPacked word
  cases packed with
  | true =>
    refine iff_of_true (responseLength_of_packed told sized) fun both => ?_
    exact Bool.noConfusion (Except.ok.inj (told.symm.trans both.1.1))
  | false =>
    by_cases filled : ∀ v, p.content = .held v → v.truthy = true
    · obtain ⟨fails, tells⟩ := responseLength_of_plain told sized filled
      constructor
      · rintro ⟨n, known, -⟩ ⟨-, endless⟩
        rw [fails _ (declaredLength_of_endless endless)] at known
        exact nomatch known
      · intro not
        obtain ⟨n, declared, length⟩ := exists_declaredLength fun endless =>
          not ⟨⟨told, filled⟩, endless⟩
        exact tells n declared length
    · obtain ⟨v, content, empty⟩ : ∃ v, p.content = .held v ∧ ¬ v.truthy = true := by
        simpa using filled
      refine iff_of_true ⟨0, ?_, .inr (Int.le_refl 0)⟩ fun both => filled both.1.2
      rw [responseLength, content]
      exact if_neg empty

end Bodies

/-! ## The lengths of entities -/

namespace Act

variable {w : World} {e : Ref Entity}

/-- Telling the length of an entity that is no stand-in changes nothing. -/
theorem contentLength_told_of_lengthOf {x : Entity} {r : Except Fault Int}
    (hx : w.entities.get e = x) (own : x.isScripted = false) (length : w.lengthOf x = r.map .int) :
    (∃ n, go (contentLength e) w = (.ok (.int n), w) ∧ IsLength n) ↔ ∃ n, r = .ok n ∧ IsLength n := by
  rw [go_contentLength hx own, length]
  cases r with
  | error f =>
    refine iff_of_false ?_ ?_
    · rintro ⟨n, told, -⟩
      exact nomatch (Prod.mk.inj told).1
    · rintro ⟨n, told, -⟩
      exact nomatch told
  | ok m =>
    have same (n : Int) : (Except.map Value.int (.ok m : Except Fault Int), w) =
        (.ok (.int n), w) ↔ (.ok m : Except Fault Int) = .ok n :=
      ⟨fun told => congrArg _ (Value.int.inj (Except.ok.inj (Prod.mk.inj told).1)),
        fun told => by rw [told]; rfl⟩
    simp only [same]

/-- Headers declare an unknown length or a natural number exactly if they are not endless, and the
fault of those that are comes through; a natural number is declared exactly by what reads as this
number.  The length of a request can be told under the same condition, and that of a response unless
it depends on endless headers. -/
theorem contentLength_told_iff (headers : Option Headers) (w : World) :
    ((∃ n, declaredLength headers = .ok n ∧ IsLength n) ↔ ¬ Endless headers) ∧
    (Endless headers → declaredLength headers = .error endlessFault) ∧
    (∀ n, 0 ≤ n → (declaredLength headers = .ok n ↔
      ∃ v, lengthValue? headers = some v ∧ v.toInteger = .ok n)) ∧
    (∀ e q body type encoding, w.entities.get e = .requestBody q body type encoding →
      ((∃ n, go (contentLength e) w = (.ok (.int n), w) ∧ IsLength n) ↔
        ¬ Endless (w.requests.get q).headers)) ∧
    ∀ e p type encoding, w.entities.get e = .responseBody p type encoding →
      (encoding = .null ∨ ∃ s, encoding = .text s) → (w.responses.get p).content.Sized →
      ((∃ n, go (contentLength e) w = (.ok (.int n), w) ∧ IsLength n) ↔
        ¬ ((w.responses.get p).Asks encoding ∧ Endless (w.responses.get p).headers)) := by
  refine ⟨declaredLength_told_iff, declaredLength_of_endless, fun _ => declaredLength_eq_iff,
    ?_, ?_⟩
  · intro e q body type encoding hx
    exact (contentLength_told_of_lengthOf hx rfl rfl).trans (requestLength_told_iff body)
  · intro e p type encoding hx word sized
    exact (contentLength_told_of_lengthOf hx rfl rfl).trans (responseLength_told_iff word sized)

/-- A length header with an infinite double. -/
def endlessHeaders : Headers := Headers.empty.insert lengthHeader (.float (.infinite false))

/-- Such a length for the bytes of a request, and for a packed content that is loaded. -/
def endlessWorld : World :=
  { World.empty with
    requests := Store.empty.set ⟨0⟩ ⟨none, none, some endlessHeaders, .bytes [97]⟩
    responses := Store.empty.set ⟨0⟩
      ⟨.int 200, some endlessHeaders, .held (.bytes [97, 98]), true, none⟩
    entities := (Store.empty.set ⟨0⟩ (.requestBody ⟨0⟩ (.bytes [97]) .null .null)).set ⟨1⟩
      (.responseBody ⟨0⟩ .null (.text "gzip")) }

/-- The header is looked at for the request, and not for the response. -/
theorem contentLength_told_iff_endless :
    declaredLength (some (Headers.empty.insert lengthHeader (.text " +1_0 "))) = .ok 10 ∧
      (¬ ∃ n, go (contentLength ⟨0⟩) endlessWorld = (.ok (.int n), endlessWorld) ∧ IsLength n) ∧
      ∃ n, go (contentLength ⟨1⟩) endlessWorld = (.ok (.int n), endlessWorld) ∧ IsLength n := by
  obtain ⟨-, -, numbers, requests, responses⟩ := contentLength_told_iff
    (some (Headers.empty.insert lengthHeader (.text " +1_0 "))) endlessWorld
  have endless : Endless (some endlessHeaders) := ⟨false, lengthValue?_insert _ _⟩
  have packed : isPacked (.text "gzip") = .ok true := by decide +kernel
  refine ⟨?_, fun told => ?_, ?_⟩
  · exact (numbers 10 (by decide)).2 ⟨_, lengthValue?_insert _ _, by decide +kernel⟩
  · exact (requests ⟨0⟩ ⟨0⟩ _ _ _ rfl).1 told endless
  · refine (responses ⟨1⟩ ⟨0⟩ _ _ rfl (.inr ⟨_, rfl⟩) ?_).2 fun both => ?_
    · intro v held filled
      obtain rfl : .bytes [97, 98] = v := Content.held.inj held
      rfl
    · exact Bool.noConfusion (Except.ok.inj (packed.symm.trans both.1.1))

/-- Not all headers declare something that is a length. -/
theorem not_told_of_infinite :
    ¬ ∃ n, declaredLength (some (.ofList [("Content-Length", .float (.infinite false))])) =
      .ok n := by
  rintro ⟨n, told⟩
  have endless : Endless (some (.ofList [("Content-Length", .float (.infinite false))])) :=
    ⟨false, lengthValue?_insert _ _⟩
  rw [declaredLength_of_endless endless] at told
  exact nomatch told

end Act
end HttpTap
