import Teleop.Text.Utf8
import Teleop.Uuid

/-!
# JSON values and their text

A JSON value keeps the literal of a number and the order of the members of an object. How a string
is escaped differs between the places that write JSON; a `Style` holds those decisions.
-/

namespace Teleop

/-- A JSON value. -/
inductive Json where
  | null
  | bool (value : Bool)
  /-- A number, as the characters that denote it. -/
  | number (literal : Text)
  | string (value : Text)
  | array (items : List Json)
  | object (members : List (Text × Json))
  deriving Repr

namespace Json

/-- The number that an integer denotes. -/
def ofInt (n : Int) : Json :=
  number (decimal n)

def ofNat (n : Nat) : Json :=
  number (decimal n)

/-- The decisions that writers of JSON strings differ in. -/
structure Style where
  /-- `<`, `>` and `&` are escaped. -/
  markup : Bool
  /-- The line and paragraph separators U+2028 and U+2029 are escaped. -/
  separators : Bool
  /-- The delete character U+007F is escaped. -/
  delete : Bool
  /-- What stands for a byte that is not part of well-formed UTF-8. -/
  stray : Text

/-- `\u` and four hexadecimal digits. -/
def unicodeEscape (code : Nat) : Text :=
  utf8 "\\u" ++ hexByte (UInt8.ofNat (code / 256)) ++ hexByte (UInt8.ofNat (code % 256))

/-- One rune inside a string. -/
def escapeRune (style : Style) : Rune → Text
  | .stray _ => style.stray
  | .scalar code bytes =>
    match code with
    | 34 => utf8 "\\\""
    | 92 => utf8 "\\\\"
    | 8 => utf8 "\\b"
    | 12 => utf8 "\\f"
    | 10 => utf8 "\\n"
    | 13 => utf8 "\\r"
    | 9 => utf8 "\\t"
    | _ =>
      let escaped := code < 32 || (style.delete && code == 127) ||
        (style.markup && (code == 60 || code == 62 || code == 38)) ||
        (style.separators && (code == 0x2028 || code == 0x2029))
      if escaped then unicodeEscape code else bytes

/-- A string in quotes. -/
def quote (style : Style) (t : Text) : Text :=
  [34] ++ (Utf8.runes t).flatMap (escapeRune style) ++ [34]

/-- How documents served to other programs escape strings. -/
def documentStyle : Style :=
  { markup := true, separators := true, delete := false, stray := [0xEF, 0xBF, 0xBD] }

/-- `documentStyle` with markup characters left as they are. -/
def plainStyle : Style :=
  { documentStyle with markup := false }

mutual

/-- The text of a value without any blanks. -/
def render (style : Style) : Json → Text
  | null => utf8 "null"
  | bool true => utf8 "true"
  | bool false => utf8 "false"
  | number literal => literal
  | string t => quote style t
  | array items => [91] ++ renderItems style items ++ [93]
  | object members => [123] ++ renderMembers style members ++ [125]

/-- Items separated by commas. -/
def renderItems (style : Style) : List Json → Text
  | [] => []
  | [item] => render style item
  | item :: rest => render style item ++ [44] ++ renderItems style rest

/-- Members separated by commas. -/
def renderMembers (style : Style) : List (Text × Json) → Text
  | [] => []
  | [(name, value)] => quote style name ++ [58] ++ render style value
  | (name, value) :: rest =>
    quote style name ++ [58] ++ render style value ++ [44] ++ renderMembers style rest

end

/-! ## Order -/

/-- Of neighbours with one name the last is kept. -/
def keepLast {α : Type} : List (Text × α) → List (Text × α)
  | a :: b :: rest => if a.1 = b.1 then keepLast (b :: rest) else a :: keepLast (b :: rest)
  | entries => entries

/-- Entries in the order of their names; of several with one name the last counts. -/
def sortByName {α : Type} (entries : List (Text × α)) : List (Text × α) :=
  keepLast (entries.mergeSort fun a b => decide (¬ b.1 < a.1))

mutual

/-- The value with the members of all its objects in the order of their names. -/
def sorted : Json → Json
  | array items => array (sortedItems items)
  | object members => object (sortByName (sortedMembers members))
  | value => value

@[inherit_doc sorted]
def sortedItems : List Json → List Json
  | [] => []
  | item :: rest => item.sorted :: sortedItems rest

@[inherit_doc sorted]
def sortedMembers : List (Text × Json) → List (Text × Json)
  | [] => []
  | (name, value) :: rest => (name, value.sorted) :: sortedMembers rest

end

/-- The last member of an object with this name. -/
def get? (value : Json) (name : Text) : Option Json :=
  match value with
  | object members => (members.reverse.find? (·.1 == name)).map (·.2)
  | _ => none

end Json

end Teleop
