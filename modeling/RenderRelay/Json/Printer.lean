import RenderRelay.Json.Display

/-! # Writing JSON

One printer in three layouts.

* `Layout.compact`: no blanks, keys in the order of their code points; the form that is
  hashed.
* `Layout.spaced`: on one line, a space after each comma and colon, keys in their order; the
  form of a log line.
* `Layout.indented`: two spaces per level, keys in their order; the form of a stored file.

All three write characters outside printable ASCII as `\uXXXX`, a character above U+FFFF as
its two surrogates. -/

namespace RenderRelay.Json

open Number Text

/-- Numbers in JSON. -/
def jsonNumbers : DecimalStyle where
  lowest := -4
  beyond := 16
  exponentDigits := 2
  infinity := "Infinity"
  notANumber := "NaN"

/-- One UTF-16 unit, escaped. -/
def escapeUnit (unit : Nat) : List Char := '\\' :: 'u' :: hexDigits 4 unit

/-- One character of a text. -/
def escapeChar (c : Char) : List Char :=
  if c = '"' then ['\\', '"']
  else if c = '\\' then ['\\', '\\']
  else if c = '\n' then ['\\', 'n']
  else if c = '\r' then ['\\', 'r']
  else if c = '\t' then ['\\', 't']
  else if c = '\x0C' then ['\\', 'f']
  else if c = '\x08' then ['\\', 'b']
  else if 0x20 ≤ c.toNat ∧ c.toNat < 0x7F then [c]
  else if c.toNat < 0x10000 then escapeUnit c.toNat
  else
    let above := c.toNat - 0x10000
    escapeUnit (0xD800 + above / 0x400) ++ escapeUnit (0xDC00 + above % 0x400)

/-- A text in double quotes. -/
def stringChars (s : String) : List Char := '"' :: s.toList.flatMap escapeChar ++ ['"']

/-- What a layout decides. -/
structure Layout where
  sortKeys : Bool
  afterComma : List Char
  afterColon : List Char
  indent : Option Nat

namespace Layout

/-- No blanks, keys sorted. -/
def compact : Layout := ⟨true, [], [], none⟩

/-- On one line, a space after each comma and colon. -/
def spaced : Layout := ⟨false, [' '], [' '], none⟩

/-- Two spaces per level, each item and field on its own line. -/
def indented : Layout := ⟨false, [], [' '], some 2⟩

/-- A line break and the indentation of a level, if the layout has lines. -/
def lineBreak (layout : Layout) (depth : Nat) : List Char :=
  match layout.indent with
  | some width => '\n' :: List.replicate (width * depth) ' '
  | none => []

/-- The pieces of a list or object between its brackets; an empty one has no lines. -/
def bracket (layout : Layout) (depth : Nat) (opening closing : Char) (pieces : List (List Char)) :
    List Char :=
  match pieces with
  | [] => [opening, closing]
  | first :: rest =>
      opening :: layout.lineBreak (depth + 1) ++ first ++
        rest.flatMap (fun piece =>
          ',' :: layout.afterComma ++ layout.lineBreak (depth + 1) ++ piece) ++
        layout.lineBreak depth ++ [closing]

/-- Fields in the order in which the layout writes them. -/
def arrange (layout : Layout) (fields : List (String × List Char)) :
    List (String × List Char) :=
  if layout.sortKeys then fields.mergeSort fun a b => decide (a.1 ≤ b.1) else fields

/-- One written field. -/
def field (layout : Layout) (key : String) (value : List Char) : List Char :=
  stringChars key ++ ':' :: layout.afterColon ++ value

end Layout

mutual

/-- A value in a layout, inside `depth` lists and objects. -/
def writeChars (layout : Layout) (depth : Nat) : Json → List Char
  | .null => "null".toList
  | .bool true => "true".toList
  | .bool false => "false".toList
  | .int n => intChars n
  | .float x => x.textChars jsonNumbers
  | .str s => stringChars s
  | .arr items => layout.bracket depth '[' ']' (writeItems layout (depth + 1) items)
  | .obj fields =>
      layout.bracket depth (Char.ofNat 0x7B) (Char.ofNat 0x7D)
        ((layout.arrange (writeFields layout (depth + 1) fields)).map fun (key, value) =>
          layout.field key value)

/-- Each item written. -/
def writeItems (layout : Layout) (depth : Nat) : List Json → List (List Char)
  | [] => []
  | item :: rest => writeChars layout depth item :: writeItems layout depth rest

/-- Each field with its value written. -/
def writeFields (layout : Layout) (depth : Nat) :
    List (String × Json) → List (String × List Char)
  | [] => []
  | (key, value) :: rest =>
      (key, writeChars layout depth value) :: writeFields layout depth rest

end

/-- A value in a layout. -/
def write (layout : Layout) (value : Json) : String := String.ofList (value.writeChars layout 0)

theorem writeItems_eq_map (layout : Layout) (depth : Nat) (items : List Json) :
    writeItems layout depth items = items.map (writeChars layout depth) := by
  induction items with
  | nil => rfl
  | cons item rest ih => simp [writeItems, ih]

theorem writeFields_eq_map (layout : Layout) (depth : Nat) (fields : Fields) :
    writeFields layout depth fields =
      fields.map fun field => (field.1, writeChars layout depth field.2) := by
  induction fields with
  | nil => rfl
  | cons field rest ih => simp [writeFields, ih]

end RenderRelay.Json
