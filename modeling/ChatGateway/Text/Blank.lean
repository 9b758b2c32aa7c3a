import ChatGateway.Text.Ranges

/-!
# Blank characters

The characters with the `White_Space` property, and what it means for a text to be blank.
Every character that ASCII calls white space is blank (`isBlank_of_isWhitespace`).
-/

namespace ChatGateway.Text

/-- The characters with the `White_Space` property. -/
def blankRanges : Ranges :=
  [(0x9, 0xD), (0x20, 0x20), (0x85, 0x85), (0xA0, 0xA0), (0x1680, 0x1680), (0x2000, 0x200A),
    (0x2028, 0x2029), (0x202F, 0x202F), (0x205F, 0x205F), (0x3000, 0x3000)]

/-- Whether `c` is white space. -/
def isBlank (c : Char) : Bool := blankRanges.covers c

/-- Whether nothing is left of `s` once white space is cut from both ends. -/
def isBlankText (s : String) : Bool := s.toList.all isBlank

theorem isBlank_of_isWhitespace {c : Char} (h : c.isWhitespace = true) : isBlank c = true := by
  simp only [Char.isWhitespace, Bool.or_eq_true, decide_eq_true_eq] at h
  rcases h with ((rfl | rfl) | rfl) | rfl <;> decide

end ChatGateway.Text
