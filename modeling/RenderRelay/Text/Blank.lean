import RenderRelay.Text.Ranges

/-! # Blank characters and trimming

Two classes of blanks are in use.

* `isBlank` is the wide class: white space of every script, and the four separators
  U+001C to U+001F.
* `isWhiteSpace` is the Unicode property of that name, which leaves those four out.  The
  checks of request bodies and of settings trim by it, and so do the readers of numbers.

`trimBy` drops a class from both ends; `trim` and `trimWhiteSpace` are its two uses. -/

namespace RenderRelay.Text

/-- White space of every script, the separators U+001C to U+001F included. -/
def isBlank (c : Char) : Bool :=
  inRanges [(0x09, 0x0D), (0x1C, 0x20), (0x85, 0x85), (0xA0, 0xA0), (0x1680, 0x1680),
    (0x2000, 0x200A), (0x2028, 0x2029), (0x202F, 0x202F), (0x205F, 0x205F),
    (0x3000, 0x3000)] c.toNat

/-- The Unicode property `White_Space`. -/
def isWhiteSpace (c : Char) : Bool :=
  inRanges [(0x09, 0x0D), (0x20, 0x20), (0x85, 0x85), (0xA0, 0xA0), (0x1680, 0x1680),
    (0x2000, 0x200A), (0x2028, 0x2029), (0x202F, 0x202F), (0x205F, 0x205F),
    (0x3000, 0x3000)] c.toNat

/-- `cs` without the characters of class `p` at its end. -/
def dropEndWhile (p : Char → Bool) (cs : List Char) : List Char :=
  (cs.reverse.dropWhile p).reverse

/-- `cs` without the characters of class `p` at its two ends. -/
def trimBy (p : Char → Bool) (cs : List Char) : List Char :=
  dropEndWhile p (cs.dropWhile p)

/-- A text without the blanks at its two ends. -/
def trim (s : String) : String := String.ofList (trimBy isBlank s.toList)

/-- A text without the white space at its two ends. -/
def trimWhiteSpace (s : String) : String := String.ofList (trimBy isWhiteSpace s.toList)

@[simp] theorem trimBy_nil (p : Char → Bool) : trimBy p [] = [] := rfl

@[simp] theorem toList_trim (s : String) : (trim s).toList = trimBy isBlank s.toList := by
  simp [trim]

end RenderRelay.Text
