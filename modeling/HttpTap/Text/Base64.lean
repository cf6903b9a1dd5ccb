import HttpTap.Text.Utf8

/-!
# Bytes in base 64

Three bytes are written as four characters of an alphabet of sixty-four.  Reading is lenient:
characters outside the alphabet are passed over, and padding ends the text only where it
completes a group of four.  What remains is refused: a group that is broken off.
-/

namespace HttpTap
namespace Text
namespace Base64

/-- The value of a character of the alphabet. -/
def digit? (c : Char) : Option Nat :=
  let n := c.toNat
  if 0x41 ≤ n && n ≤ 0x5A then some (n - 0x41)
  else if 0x61 ≤ n && n ≤ 0x7A then some (n - 0x61 + 26)
  else if 0x30 ≤ n && n ≤ 0x39 then some (n - 0x30 + 52)
  else if c == '+' then some 62
  else if c == '/' then some 63
  else none

/-- Read on inside a group: the digits of the group so far, last one first, and the number of
padding characters since the last digit. -/
def groups : List Nat → Nat → List Char → Option Bytes
  | [], _, [] => some []
  | _, _, [] => none
  | ds, pads, c :: cs =>
    if c == '=' then
      if 2 ≤ ds.length && 4 ≤ ds.length + pads + 1 then some []
      else groups ds (if 2 ≤ ds.length then pads + 1 else pads) cs
    else
      match digit? c, ds with
      | none, ds => groups ds pads cs
      | some d, [] => groups [d] 0 cs
      | some d, [a] => (groups [d, a] 0 cs).map (UInt8.ofNat (4 * a + d / 16) :: ·)
      | some d, b :: a :: [] =>
        (groups [d, b, a] 0 cs).map (UInt8.ofNat (b % 16 * 16 + d / 4) :: ·)
      | some d, c :: _ => (groups [] 0 cs).map (UInt8.ofNat (c % 4 * 64 + d) :: ·)

/-- The bytes that a text spells. -/
def decode? (cs : List Char) : Option Bytes := groups [] 0 cs

example : decode? "aGVs\nbG8=".toList = some "hello".toUTF8.toList := by decide +kernel

end Base64
end Text
end HttpTap
