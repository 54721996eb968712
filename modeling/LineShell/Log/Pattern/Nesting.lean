/-!
# How deep parts lie in each other

A part of a pattern that holds no other part has the nesting 0. Several parts one behind the other,
several choices and several members of a class are one part around them; a single one is just
itself (`together`). A group, a class and a repetition are each a part around another.
-/

namespace LineShell.Log.Pattern

/-- How deep the parts of a pattern may lie in each other. -/
def nestingLimit : Nat := 250

/-- The nesting of parts that stand together. -/
def together : List Nat → Nat
  | [] => 0
  | [part] => part
  | part :: parts => parts.foldl max part + 1

end LineShell.Log.Pattern
