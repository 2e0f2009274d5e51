/-
White space.

The code points with the Unicode property White_Space, as a table, and the
trimming of a text by it.  Every rule of the service that speaks of blank or
trimmed text means this set.
-/

namespace Roster.Text

/-- The twenty-five code points with the Unicode property White_Space. -/
def blanks : List Char :=
  ['\t', '\n', '\x0b', '\x0c', '\r', ' ', '\u0085', '\u00a0', '\u1680',
   '\u2000', '\u2001', '\u2002', '\u2003', '\u2004', '\u2005', '\u2006',
   '\u2007', '\u2008', '\u2009', '\u200a', '\u2028', '\u2029', '\u202f',
   '\u205f', '\u3000']

/-- White space in the sense of Unicode. -/
def isBlank (c : Char) : Bool := blanks.contains c

/-- What is left when the longest end made of `p`-characters is cut off. -/
def cutEnd (p : Char → Bool) (cs : List Char) : List Char :=
  (cs.reverse.dropWhile p).reverse

/-- A text without the white space at its two ends, as characters. -/
def trimChars (cs : List Char) : List Char :=
  cutEnd isBlank (cs.dropWhile isBlank)

/-- A text without the white space at its two ends. -/
def trim (s : String) : String := String.ofList (trimChars s.toList)

@[simp] theorem cutEnd_nil (p : Char → Bool) : cutEnd p [] = [] := rfl

/-- Cutting the end leaves a beginning of the text. -/
theorem cutEnd_isPrefixOf (p : Char → Bool) (cs : List Char) : cutEnd p cs <+: cs := by
  have h := List.dropWhile_suffix (l := cs.reverse) p
  simpa [cutEnd] using List.reverse_prefix.2 h

/-- The last character that stays is not one of those cut. -/
theorem getLast?_cutEnd {p : Char → Bool} {cs : List Char} {c : Char}
    (h : (cutEnd p cs).getLast? = some c) : p c = false := by
  rw [cutEnd, List.getLast?_reverse] at h
  have := List.head?_dropWhile_not p cs.reverse
  simpa [h] using this

end Roster.Text
