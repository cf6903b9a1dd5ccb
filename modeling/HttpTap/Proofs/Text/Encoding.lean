import HttpTap.Proofs.Text.Decoding

/-!
# Encoded text, whole and cut

A text that is written as bytes and read back is the same text, whether the end of the bytes is
taken for the end of the data or for a cut (`decode_encodeChars`).  When the bytes really are cut,
at any offset, what is read is the longest beginning of the text that the bytes left have room for
(`longestFit_decodeBody`): the characters before the cut are complete, and the one that the cut goes
through leaves no trace.

## Where the arithmetic is

Only `run_encodeChar` looks into bytes.  A character is written in one to four of them, and the
machine goes through as many states; each byte is in the range that the byte before has left open,
which is where the surrogates and the numbers beyond the last character would fall out, and the bits
add up to the number of the character.

That a torn character puts nothing out needs no second look.  If some of its bytes had already put
the character out, the bytes after them would put out nothing and leave nothing in hand, and no byte
is lost without a trace (`run_visible`).
-/

namespace HttpTap
namespace Text
namespace Utf8

/-! ## One character -/

/-- The first of two bytes. -/
theorem begin_two {q : Nat} (low : 2 ≤ q) (high : q < 32) :
    begin (UInt8.ofNat (0xC0 + q)) = ([], .partway q 0 0x80 0xBF) := by
  unfold begin
  rw [UInt8.toNat_ofNat_of_lt' (show _ < 256 by omega)]
  dsimp only
  rw [if_neg (by omega), if_neg (by omega), if_pos (by omega), Nat.add_sub_cancel_left]

/-- The first of three bytes.  Zero bits would be overlong, and thirteen may lead to a surrogate. -/
theorem begin_three {q : Nat} (high : q < 16) :
    begin (UInt8.ofNat (0xE0 + q)) = ([], .partway q 1 (if q = 0 then 0xA0 else 0x80)
      (if q = 13 then 0x9F else 0xBF)) := by
  unfold begin
  rw [UInt8.toNat_ofNat_of_lt' (show _ < 256 by omega)]
  dsimp only
  rw [if_neg (by omega), if_neg (by omega), if_neg (by omega), if_pos (by omega),
    Nat.add_sub_cancel_left]
  simp only [show 0xE0 + q = 0xE0 ↔ q = 0 by omega, show 0xE0 + q = 0xED ↔ q = 13 by omega]

/-- The first of four bytes.  Zero bits would be overlong, and four may lead too far. -/
theorem begin_four {q : Nat} (high : q < 5) :
    begin (UInt8.ofNat (0xF0 + q)) = ([], .partway q 2 (if q = 0 then 0x90 else 0x80)
      (if q = 4 then 0x8F else 0xBF)) := by
  unfold begin
  rw [UInt8.toNat_ofNat_of_lt' (show _ < 256 by omega)]
  dsimp only
  rw [if_neg (by omega), if_neg (by omega), if_neg (by omega), if_neg (by omega),
    if_pos (by omega), Nat.add_sub_cancel_left]
  simp only [show 0xF0 + q = 0xF0 ↔ q = 0 by omega, show 0xF0 + q = 0xF4 ↔ q = 4 by omega]

/-- A byte in its range goes on with the character in hand, and the last one completes it. -/
theorem step_tail {bits more low high r : Nat} (small : r < 64) (above : low ≤ 0x80 + r)
    (below : 0x80 + r ≤ high) :
    step (.partway bits more low high) (UInt8.ofNat (0x80 + r)) = match more with
      | 0 => ([Char.ofNat (bits * 64 + r)], .ready)
      | more + 1 => ([], .partway (bits * 64 + r) more 0x80 0xBF) := by
  have byte : (UInt8.ofNat (0x80 + r)).toNat = 0x80 + r :=
    UInt8.toNat_ofNat_of_lt' (show _ < 256 by omega)
  generalize UInt8.ofNat (0x80 + r) = b at byte ⊢
  cases more <;> simp [step, byte, above, below]

/-- The bytes of a character are read as that character. -/
theorem run_encodeChar (c : Char) : run .ready (encodeChar c) = ([c], .ready) := by
  have valid : c.toNat < 0xD800 ∨ 0xDFFF < c.toNat ∧ c.toNat < 0x110000 := c.valid
  have back : Char.ofNat c.toNat = c := Char.ofNat_toNat c
  unfold encodeChar
  generalize c.toNat = n at valid back ⊢
  subst back
  -- one case for each number of bytes
  dsimp only
  split
  · next one =>
    rw [run_cons, run_nil, step, begin, UInt8.toNat_ofNat_of_lt' (show _ < 256 by omega)]
    simp [one]
  split
  · next _ two =>
    have lead : step .ready (UInt8.ofNat (0xC0 + n / 64)) = _ := begin_two (by omega) (by omega)
    have bits : n / 64 * 64 + n % 64 = n := by omega
    rw [run_cons, run_cons, run_nil, lead]
    dsimp only
    rw [step_tail (by omega) (by omega) (by omega), bits]
    rfl
  split
  · next _ _ three =>
    have lead : step .ready (UInt8.ofNat (0xE0 + n / 4096)) = _ := begin_three (by omega)
    have bits : (n / 4096 * 64 + n / 64 % 64) * 64 + n % 64 = n := by omega
    rw [run_cons, run_cons, run_cons, run_nil, lead]
    dsimp only
    rw [step_tail (by omega) (by split <;> omega) (by split <;> omega)]
    dsimp only
    rw [step_tail (by omega) (by omega) (by omega), bits]
    rfl
  · next _ _ _ =>
    have lead : step .ready (UInt8.ofNat (0xF0 + n / 262144)) = _ := begin_four (by omega)
    have bits : ((n / 262144 * 64 + n / 4096 % 64) * 64 + n / 64 % 64) * 64 + n % 64 = n := by omega
    rw [run_cons, run_cons, run_cons, run_cons, run_nil, lead]
    dsimp only
    rw [step_tail (by omega) (by split <;> omega) (by split <;> omega)]
    dsimp only
    rw [step_tail (by omega) (by omega) (by omega)]
    dsimp only
    rw [step_tail (by omega) (by omega) (by omega), bits]
    rfl

/-- As long as a byte of a character is missing, nothing is put out. -/
theorem run_take_encodeChar (c : Char) {k : Nat} (torn : k < (encodeChar c).length) :
    (run .ready ((encodeChar c).take k)).1 = [] := by
  have whole := run_encodeChar c
  rw [← List.take_append_drop k (encodeChar c), run_append] at whole
  obtain ⟨out, last⟩ := Prod.mk.inj whole
  have left : (encodeChar c).drop k ≠ [] := by
    intro none
    have := List.drop_eq_nil_iff.1 none
    omega
  -- the bytes that are left leave a trace, and it is the character
  have visible := run_visible (s := (run .ready ((encodeChar c).take k)).2) _ (Or.inl left)
  rw [last, flush, List.append_nil] at visible
  rcases List.append_eq_singleton_iff.1 out with ⟨none, -⟩ | ⟨-, none⟩
  · exact none
  · exact absurd none visible

/-! ## Texts -/

/-- The bytes of a text are read as that text, and nothing is in hand afterwards. -/
theorem run_encodeChars (cs : List Char) : run .ready (encodeChars cs) = (cs, .ready) := by
  induction cs with
  | nil => rfl
  | cons c cs ih => rw [encodeChars_cons, run_append, run_encodeChar, ih, List.singleton_append]

theorem decode_encodeChars (cs : List Char) (cut : Bool) : decode (encodeChars cs) cut = cs := by
  rw [decode, run_encodeChars]
  cases cut <;> simp [flush]

/-- The characters of a text from the first one on, as long as there is room for their bytes. -/
def fit : Nat → List Char → List Char
  | _, [] => []
  | k, c :: cs =>
    if (encodeChar c).length ≤ k then c :: fit (k - (encodeChar c).length) cs else []

theorem front_fit (k : Nat) (cs : List Char) : fit k cs <+: cs := by
  induction cs generalizing k with
  | nil => exact List.prefix_refl _
  | cons c cs ih =>
    rw [fit]
    split
    · exact (List.prefix_cons_inj c).2 (ih _)
    · exact List.nil_prefix

theorem length_encodeChars_fit_le (k : Nat) (cs : List Char) :
    (encodeChars (fit k cs)).length ≤ k := by
  induction cs generalizing k with
  | nil => simp [fit]
  | cons c cs ih =>
    rw [fit]
    split
    · next room =>
      have rest := ih (k - (encodeChar c).length)
      rw [encodeChars_cons, List.length_append]
      omega
    · simp

/-- Every beginning of the text that there is room for is a beginning of the one that fits. -/
theorem prefix_fit {k : Nat} {cs ds : List Char} (front : ds <+: cs)
    (room : (encodeChars ds).length ≤ k) : ds <+: fit k cs := by
  induction cs generalizing k ds with
  | nil => exact List.prefix_nil.1 front ▸ List.nil_prefix
  | cons c cs ih =>
    cases ds with
    | nil => exact List.nil_prefix
    | cons d ds =>
      obtain ⟨rfl, later⟩ := List.cons_prefix_cons.1 front
      rw [encodeChars_cons, List.length_append] at room
      rw [fit, if_pos (by omega)]
      exact (List.prefix_cons_inj d).2 (ih later (by omega))

/-- Cut at `k` bytes, a text is read as the characters that fit into them. -/
theorem decode_take_encodeChars (k : Nat) (cs : List Char) :
    decode ((encodeChars cs).take k) true = fit k cs := by
  rw [decode_cut]
  induction cs generalizing k with
  | nil => rw [encodeChars_nil, List.take_nil, run_nil, fit]
  | cons c cs ih =>
    rw [encodeChars_cons, List.take_append, fit]
    by_cases room : (encodeChar c).length ≤ k
    · rw [if_pos room, List.take_of_length_le room, run_append, run_encodeChar, ih,
        List.singleton_append]
    · have none : k - (encodeChar c).length = 0 := by omega
      rw [if_neg room, none, List.take_zero, List.append_nil]
      exact run_take_encodeChar c (by omega)

end Utf8

/-- The text `p` is the longest beginning of the text `s` that takes no more than `k` bytes. -/
structure LongestFit (k : Nat) (s p : String) : Prop where
  front : p.toList <+: s.toList
  fits : (Utf8.encode p).length ≤ k
  longest : ∀ q : String,
    q.toList <+: s.toList → (Utf8.encode q).length ≤ k → q.toList <+: p.toList

theorem LongestFit.unique {k : Nat} {s p q : String} (hp : LongestFit k s p)
    (hq : LongestFit k s q) : p = q := by
  have there := hq.longest p hp.front hp.fits
  have back := hp.longest q hq.front hq.fits
  exact String.toList_injective (there.eq_of_length_le back.length_le)

end Text

open Text

theorem toList_decodeBody (bs : Bytes) (cut : Bool) :
    (decodeBody bs cut).toList = Utf8.decode bs cut := String.toList_ofList

/-- A text that is read back is the same text. -/
theorem decodeBody_encode (s : String) (cut : Bool) : decodeBody (Utf8.encode s) cut = s := by
  rw [decodeBody, Utf8.encode, Utf8.decode_encodeChars, String.ofList_toList]

/-- A text that was cut is read as the longest beginning of it that fits. -/
theorem longestFit_decodeBody (k : Nat) (s : String) :
    LongestFit k s (decodeBody ((Utf8.encode s).take k) true) := by
  have read : (decodeBody ((Utf8.encode s).take k) true).toList = Utf8.fit k s.toList := by
    rw [toList_decodeBody, Utf8.encode, Utf8.decode_take_encodeChars]
  refine ⟨?_, ?_, fun q front room => ?_⟩
  · rw [read]
    exact Utf8.front_fit k _
  · rw [Utf8.encode, read]
    exact Utf8.length_encodeChars_fit_le k _
  · rw [read]
    exact Utf8.prefix_fit front room

end HttpTap
