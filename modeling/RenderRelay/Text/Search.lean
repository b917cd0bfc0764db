/-! # Searching, replacing and splitting text

Plain functions on lists of characters, and their wrappers for `String`.

* `hasInfix` looks for one text inside another.
* `without` drops the characters of a class wherever they stand.
* `splitOnce` cuts at the first occurrence of a separator, `split` at every one of a character. -/

namespace RenderRelay.Text

/-- Does `needle` stand somewhere in the text? -/
def hasInfixChars (needle : List Char) : List Char → Bool
  | [] => needle.isEmpty
  | c :: cs => needle.isPrefixOf (c :: cs) || hasInfixChars needle cs

/-- Does `needle` stand somewhere in `text`? -/
def hasInfix (text needle : String) : Bool := hasInfixChars needle.toList text.toList

/-- `text` without any of the characters of class `p`. -/
def without (p : Char → Bool) (text : String) : String :=
  String.ofList (text.toList.filter fun c => !p c)

/-- What stands before and after the first `separator`, if there is one. -/
def splitOnceChars (separator : List Char) : List Char → Option (List Char × List Char)
  | [] => if separator.isEmpty then some ([], []) else none
  | c :: cs =>
      if separator.isPrefixOf (c :: cs) then some ([], (c :: cs).drop separator.length)
      else (splitOnceChars separator cs).map fun (before, after) => (c :: before, after)

/-- What stands before and after the first `separator`, if there is one. -/
def splitOnce (text separator : String) : Option (String × String) :=
  (splitOnceChars separator.toList text.toList).map fun (before, after) =>
    (String.ofList before, String.ofList after)

/-- The pieces between the occurrences of a character; a text without it is one piece. -/
def splitChar (separator : Char) : List Char → List (List Char)
  | [] => [[]]
  | c :: cs =>
      if c = separator then [] :: splitChar separator cs
      else match splitChar separator cs with
        | [] => [[c]]
        | piece :: rest => (c :: piece) :: rest

theorem splitChar_ne_nil (separator : Char) (cs : List Char) : splitChar separator cs ≠ [] := by
  cases cs with
  | nil => simp [splitChar]
  | cons c cs =>
      by_cases h : c = separator
      · simp [splitChar, h]
      · simp only [splitChar, h, if_false]
        split <;> simp

/-- The pieces between the occurrences of a character. -/
def split (text : String) (separator : Char) : List String :=
  (splitChar separator text.toList).map String.ofList

/-- The first `n` characters of a text. -/
def take (text : String) (n : Nat) : String := String.ofList (text.toList.take n)

/-- Texts with `separator` between neighbours. -/
def join (separator : String) (texts : List String) : String :=
  String.ofList (separator.toList.intercalate (texts.map String.toList))

end RenderRelay.Text
