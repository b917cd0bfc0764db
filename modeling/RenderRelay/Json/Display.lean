import RenderRelay.Json.Basic
import RenderRelay.Number.Shortest
import RenderRelay.Text.Quoted

/-! # Values in messages

How a value is shown inside a message.

* `Json.quoted` shows the value with its texts in quotes: `None`, `True`, `False`,
  `[1, 'a']`, a mapping as its fields `'k': 1.0` between braces.
* `Json.display` is the same, but a text at the top shows itself.
* `Json.kindName` names the kind of a value. -/

namespace RenderRelay.Json

open Number Text

/-- Numbers in messages: written out from 0.0001 to below 10^16. -/
def messageNumbers : DecimalStyle where
  lowest := -4
  beyond := 16
  exponentDigits := 2
  infinity := "inf"
  notANumber := "nan"

/-- The decimal text of an integer. -/
def intChars (n : Int) : List Char :=
  if n < 0 then '-' :: natDigits n.natAbs else natDigits n.natAbs

/-- The decimal text of an integer. -/
def intText (n : Int) : String := String.ofList (intChars n)

mutual

/-- The value with its texts in quotes. -/
def quotedChars : Json → List Char
  | .null => "None".toList
  | .bool true => "True".toList
  | .bool false => "False".toList
  | .int n => intChars n
  | .float x => x.textChars messageNumbers
  | .str s => (Text.quoted s).toList
  | .arr items => '[' :: quotedItems items ++ [']']
  | .obj fields => Char.ofNat 0x7B :: quotedFields fields ++ [Char.ofNat 0x7D]

/-- Items with a comma and a space between neighbours. -/
def quotedItems : List Json → List Char
  | [] => []
  | item :: rest => quotedChars item ++ quotedMoreItems rest

/-- Items that follow another. -/
def quotedMoreItems : List Json → List Char
  | [] => []
  | item :: rest => ',' :: ' ' :: quotedChars item ++ quotedMoreItems rest

/-- Fields with a comma and a space between neighbours. -/
def quotedFields : List (String × Json) → List Char
  | [] => []
  | (key, value) :: rest =>
      (Text.quoted key).toList ++ ':' :: ' ' :: quotedChars value ++ quotedMoreFields rest

/-- Fields that follow another. -/
def quotedMoreFields : List (String × Json) → List Char
  | [] => []
  | (key, value) :: rest =>
      ',' :: ' ' :: (Text.quoted key).toList ++ ':' :: ' ' :: quotedChars value ++
        quotedMoreFields rest

end

/-- The value with its texts in quotes. -/
def quoted (value : Json) : String := String.ofList value.quotedChars

/-- The value as a message shows it: a text is itself, any other value is `quoted`. -/
def display : Json → String
  | .str s => s
  | value => value.quoted

/-- The name of the kind of a value. -/
def kindName : Json → String
  | .null => "NoneType"
  | .bool _ => "bool"
  | .int _ => "int"
  | .float _ => "float"
  | .str _ => "str"
  | .arr _ => "list"
  | .obj _ => "dict"

@[simp] theorem display_str (s : String) : display (.str s) = s := rfl

end RenderRelay.Json
