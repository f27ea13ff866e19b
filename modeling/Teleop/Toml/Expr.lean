import Teleop.Bytes

/-!
# TOML expressions

What stands on the right of an equals sign, as it is written, and the statements of a document. A
key is a path of one or more parts.
-/

namespace Teleop

namespace Toml

/-- A key: one or more parts, separated by points in the text. -/
abbrev Path := List Text

/-- A value as it is written. -/
inductive Expr where
  | string (t : Text)
  | integer (n : Int)
  /-- A floating-point number, as the characters that denote it. -/
  | float (literal : Text)
  | bool (b : Bool)
  /-- A date, a time or both, as the characters that denote it. -/
  | moment (literal : Text)
  | array (items : List Expr)
  | inlineTable (pairs : List (Path × Expr))
  deriving Repr

/-- A line or more of a document. -/
inductive Statement where
  /-- `[path]`: the pairs that follow belong to this table. -/
  | table (path : Path)
  /-- `[[path]]`: the pairs that follow belong to a new table of this array. -/
  | element (path : Path)
  /-- `path = value` -/
  | pair (path : Path) (value : Expr)
  deriving Repr

end Toml

end Teleop
