/-
**Values shown with the names of their parts.**

A shown value is an atom, a list in brackets, a name applied to parts in parentheses, or a name with
named fields in braces. One function writes all four, everything on one line.
-/

namespace X509.Text

/-- A value laid out for showing. -/
inductive Shown where
  | atom (text : String)
  | list (items : List Shown)
  | applied (name : String) (parts : List Shown)
  | record (name : String) (fields : List (String × Shown))
deriving Inhabited

namespace Shown

/-- A natural number as an atom. -/
def nat (value : Nat) : Shown :=
  .atom (toString value)

/-- A truth value as an atom. -/
def bool (value : Bool) : Shown :=
  .atom (if value then "true" else "false")

mutual

/-- The text of a shown value. -/
def render : Shown → String
  | .atom text => text
  | .list items => "[" ++ String.intercalate ", " (renderEach items) ++ "]"
  | .applied name parts => name ++ "(" ++ String.intercalate ", " (renderEach parts) ++ ")"
  | .record name fields =>
    name ++ " \x7b " ++ String.intercalate ", " (renderFields fields) ++ " \x7d"

/-- The texts of some shown values. -/
def renderEach : List Shown → List String
  | [] => []
  | item :: items => render item :: renderEach items

/-- The texts of some named fields. -/
def renderFields : List (String × Shown) → List String
  | [] => []
  | (name, value) :: fields => (name ++ ": " ++ render value) :: renderFields fields

end

end Shown

end X509.Text
