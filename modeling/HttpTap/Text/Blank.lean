/-!
# Blank characters and trimming

A setting read from the environment, from a file or from a header may carry blanks around
it.  Which characters count as blank is the Unicode property *White_Space* together with the
four separators `U+001C` to `U+001F`; the zero-width characters do not count.

`trim` removes blanks at both ends and nothing else.  The two facts that later modules use
are that trimming twice is trimming once and that a text without blank ends is left alone.
-/

namespace HttpTap
namespace Text

/-- The code points of the blank characters above the ASCII range. -/
def wideBlanks : List Nat :=
  [0x85, 0xA0, 0x1680, 0x2000, 0x2001, 0x2002, 0x2003, 0x2004, 0x2005, 0x2006, 0x2007,
   0x2008, 0x2009, 0x200A, 0x2028, 0x2029, 0x202F, 0x205F, 0x3000]

/-- Is the character blank?  In ASCII these are the tab, the line and page breaks, the four
information separators and the space. -/
def isBlank (c : Char) : Bool :=
  let n := c.toNat
  (0x09 ≤ n && n ≤ 0x0D) || (0x1C ≤ n && n ≤ 0x20) || wideBlanks.contains n

/-! ## Trimming -/

/-- The list without its leading blanks. -/
def trimStart (cs : List Char) : List Char := cs.dropWhile isBlank

/-- The list without its trailing blanks. -/
def trimEnd (cs : List Char) : List Char := (trimStart cs.reverse).reverse

/-- The list without the blanks at either end. -/
def trim (cs : List Char) : List Char := trimEnd (trimStart cs)

theorem trimStart_cons_blank {c : Char} {cs : List Char} (h : isBlank c = true) :
    trimStart (c :: cs) = trimStart cs := by
  simp [trimStart, h]

theorem trimStart_cons_other {c : Char} {cs : List Char} (h : isBlank c = false) :
    trimStart (c :: cs) = c :: cs := by
  simp [trimStart, h]

/-- Blanks put in front of a text are all that the front trimming takes away. -/
theorem trimStart_append_blanks {bs cs : List Char} (h : ∀ b ∈ bs, isBlank b = true) :
    trimStart (bs ++ cs) = trimStart cs := by
  induction bs with
  | nil => rfl
  | cons b bs ih =>
    rw [List.cons_append, trimStart_cons_blank (h b (by simp))]
    exact ih fun x hx => h x (by simp [hx])

/-- Blanks put behind a text are all that the back trimming takes away. -/
theorem trimEnd_append_blanks {bs cs : List Char} (h : ∀ b ∈ bs, isBlank b = true) :
    trimEnd (cs ++ bs) = trimEnd cs := by
  rw [trimEnd, List.reverse_append, trimStart_append_blanks (by simpa using h), trimEnd]

theorem trim_append_blanks {bs cs : List Char} (h : ∀ b ∈ bs, isBlank b = true) :
    trim (cs ++ bs) = trim cs := by
  induction cs with
  | nil =>
    have : trimStart (bs ++ []) = trimStart [] := trimStart_append_blanks h
    rw [List.append_nil] at this
    rw [List.nil_append, trim, this, trim]
  | cons c cs ih =>
    cases hc : isBlank c with
    | true => simpa [trim, trimStart_cons_blank hc] using ih
    | false =>
      rw [trim, trim, List.cons_append, trimStart_cons_other hc, trimStart_cons_other hc,
        ← List.cons_append, trimEnd_append_blanks h]

/-- Blanks around a text make no difference to the trimmed text. -/
theorem trim_between_blanks {front back cs : List Char} (hf : ∀ b ∈ front, isBlank b = true)
    (hb : ∀ b ∈ back, isBlank b = true) : trim (front ++ cs ++ back) = trim cs := by
  rw [trim_append_blanks hb, trim, trimStart_append_blanks hf, trim]

/-- Trimming the text of a string. -/
def trimmed (s : String) : String := String.ofList (trim s.toList)

end Text
end HttpTap
