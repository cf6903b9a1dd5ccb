/-!
# UTF-8, whole and cut

A body is kept as bytes and shown as text.  The bytes need not be UTF-8, and when the body was
cut at a size limit the last character may be torn.  Two rules cover both cases.

* A maximal run of bytes that starts a character and cannot go on becomes one replacement
  character; a byte that starts nothing becomes one as well.
* At the end of *cut* data the bytes of a torn character are dropped.  At the end of *whole*
  data they become one replacement character.

## The decoder as a machine

The decoder reads one byte at a time.  Its state says what a byte must be to continue the
character in hand: the bits collected, how many bytes follow after the next one, and the range
of the next one (the first continuation byte has a narrower range after `E0`, `ED`, `F0` and
`F4`, which keeps out overlong forms, surrogates and code points above `10FFFF`).

Surrogates need a state of their own.  The bytes `ED A0` to `ED BF` start no character, so
they are two replacement characters as soon as another byte follows or the data is whole; as
the last two bytes of cut data they are dropped like a torn character.

`run` folds the machine over the data, and `decode` adds what the final state gives.
-/

namespace HttpTap

/-- A byte string. -/
abbrev Bytes := List UInt8

namespace Text
namespace Utf8

/-! ## Encoding -/

/-- The bytes of one character: one to four of them, the leading bits counting the bytes. -/
def encodeChar (c : Char) : Bytes :=
  let n := c.toNat
  if n < 0x80 then [UInt8.ofNat n]
  else if n < 0x800 then [UInt8.ofNat (0xC0 + n / 64), UInt8.ofNat (0x80 + n % 64)]
  else if n < 0x10000 then
    [UInt8.ofNat (0xE0 + n / 4096), UInt8.ofNat (0x80 + n / 64 % 64), UInt8.ofNat (0x80 + n % 64)]
  else
    [UInt8.ofNat (0xF0 + n / 262144), UInt8.ofNat (0x80 + n / 4096 % 64),
     UInt8.ofNat (0x80 + n / 64 % 64), UInt8.ofNat (0x80 + n % 64)]

/-- The bytes of a list of characters, one character after the other. -/
def encodeChars (cs : List Char) : Bytes := cs.flatMap encodeChar

/-- The bytes of a text. -/
def encode (s : String) : Bytes := encodeChars s.toList

@[simp] theorem encodeChars_nil : encodeChars [] = [] := rfl

@[simp] theorem encodeChars_cons (c : Char) (cs : List Char) :
    encodeChars (c :: cs) = encodeChar c ++ encodeChars cs := rfl

/-! ## Decoding -/

/-- What stands for bytes that are no character. -/
def replacement : Char := '\uFFFD'

/-- Where the decoder stands between two bytes. -/
inductive State where
  /-- No character is in hand. -/
  | ready
  /-- A character is in hand: its bits so far, how many bytes come after the next one, and the
  range of the next one. -/
  | partway (bits more low high : Nat)
  /-- The last two bytes were the first half of a surrogate. -/
  | surrogate
  deriving DecidableEq

/-- What a byte does when no character is in hand. -/
def begin (b : UInt8) : List Char × State :=
  let n := b.toNat
  if n < 0x80 then ([Char.ofNat n], .ready)
  else if n < 0xC2 then ([replacement], .ready)
  else if n < 0xE0 then ([], .partway (n - 0xC0) 0 0x80 0xBF)
  else if n < 0xF0 then
    ([], .partway (n - 0xE0) 1 (if n = 0xE0 then 0xA0 else 0x80) (if n = 0xED then 0x9F else 0xBF))
  else if n < 0xF5 then
    ([], .partway (n - 0xF0) 2 (if n = 0xF0 then 0x90 else 0x80) (if n = 0xF4 then 0x8F else 0xBF))
  else ([replacement], .ready)

/-- Give up on `count` bytes in hand and begin again with `b`. -/
def restart (count : Nat) (b : UInt8) : List Char × State :=
  let (out, next) := begin b
  (List.replicate count replacement ++ out, next)

/-- What a byte does: the characters that it completes and the state after it. -/
def step : State → UInt8 → List Char × State
  | .ready, b => begin b
  | .surrogate, b => restart 2 b
  | .partway bits more low high, b =>
    let n := b.toNat
    if low ≤ n ∧ n ≤ high then
      let bits := bits * 64 + (n - 0x80)
      match more with
      | 0 => ([Char.ofNat bits], .ready)
      | more + 1 => ([], .partway bits more 0x80 0xBF)
    else if high = 0x9F ∧ 0xA0 ≤ n ∧ n ≤ 0xBF then ([], .surrogate)
    else restart 1 b

/-- The machine over a byte string: the characters completed and the state at the end. -/
def run : State → Bytes → List Char × State
  | s, [] => ([], s)
  | s, b :: bs =>
    let (out, next) := step s b
    let (rest, last) := run next bs
    (out ++ rest, last)

/-- What the bytes still in hand become at the end of whole data. -/
def flush : State → List Char
  | .ready => []
  | .partway .. => [replacement]
  | .surrogate => [replacement, replacement]

/-- The characters of a byte string.  `cut` says that the data goes on beyond it, so that a torn
character at the end is no fault of the data. -/
def decode (bs : Bytes) (cut : Bool) : List Char :=
  let (out, last) := run .ready bs
  if cut then out else out ++ flush last

/-- The text of a byte string that is exactly UTF-8; `none` for every other. -/
def decodeExact? (bs : Bytes) : Option (List Char) :=
  let cs := decode bs false
  if encodeChars cs = bs then some cs else none

/-- The characters at the front of a text of which only some bytes have come in.  The bytes of a torn
character wait for the others; `none` if the bytes cannot go on to be UTF-8. -/
def decodeFront? (bs : Bytes) : Option (List Char) :=
  let cs := decode bs true
  if (encodeChars cs).isPrefixOf bs then some cs else none

/-! ## How the machine composes -/

@[simp] theorem run_nil (s : State) : run s [] = ([], s) := rfl

theorem run_cons (s : State) (b : UInt8) (bs : Bytes) :
    run s (b :: bs) = ((step s b).1 ++ (run (step s b).2 bs).1, (run (step s b).2 bs).2) := rfl

/-- Reading two byte strings in a row is reading the first and going on from its state. -/
theorem run_append (s : State) (as bs : Bytes) :
    run s (as ++ bs) = ((run s as).1 ++ (run (run s as).2 bs).1, (run (run s as).2 bs).2) := by
  induction as generalizing s with
  | nil => simp
  | cons a as ih => simp [run_cons, ih, List.append_assoc]

theorem decode_cut (bs : Bytes) : decode bs true = (run .ready bs).1 := rfl

theorem decode_whole (bs : Bytes) :
    decode bs false = (run .ready bs).1 ++ flush (run .ready bs).2 := rfl

/-- Whole data reads as cut data does, with the torn end made visible. -/
theorem decode_whole_eq (bs : Bytes) :
    decode bs false = decode bs true ++ flush (run .ready bs).2 := rfl

end Utf8
end Text
end HttpTap
