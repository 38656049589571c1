import MatlabTidy.Config.Moment
import MatlabTidy.Number.Decimal
import MatlabTidy.Text.Digit
import MatlabTidy.Text.Quoted

/-!
# Values of settings

A settings file holds values of a few kinds. `Value.literalWithin` writes a value in a message, which
is possible unless there is an integer of too many digits in it or its values stand too deep inside of
each other. `Value.isEmpty` tells the values that stand for nothing, and `Value.kind` names the kind.
-/

namespace MatlabTidy

/-- A value of a settings file. The entries of a table are in the order of their appearance. -/
inductive Value where
  | null
  | bool (b : Bool)
  | int (n : Int)
  | float (x : Binary64)
  | text (s : String)
  | moment (m : Moment)
  | list (items : List Value)
  | table (entries : List (String × Value))
  deriving Repr, Inhabited

/-- The entries of a table, in the order of their appearance. -/
abbrev Table := List (String × Value)

namespace Table

/-- Sets an entry; an entry that exists keeps its position. -/
def put (t : Table) (key : String) (value : Value) : Table :=
  if (t.lookup key).isSome then
    t.map fun entry => if entry.1 = key then (key, value) else entry
  else
    t ++ [(key, value)]

/-- Removes an entry. -/
def erase (t : Table) (key : String) : Table := t.filter fun entry => entry.1 ≠ key

end Table

/-- Why a value cannot be written. -/
inductive LiteralFault where
  | numberTooLong
  | tooDeep
  deriving DecidableEq, Repr

namespace Value

mutual

/-- The value in a message, when so many levels are left. -/
def literalWithin (levels : Nat) : Value → Except LiteralFault String
  | .null => .ok "None"
  | .bool b => .ok (if b then "True" else "False")
  | .int n => if Text.isWritable n then .ok (toString n) else .error .numberTooLong
  | .float x => .ok x.shortText
  | .text s => .ok (Text.quoted s)
  | .moment m => .ok m.literal
  | .list items => do
    let texts ← literalsWithin levels items
    return "[" ++ ", ".intercalate texts ++ "]"
  | .table entries => do
    let texts ← entriesWithin levels entries
    return "\x7b" ++ ", ".intercalate texts ++ "\x7d"

/-- The values of a list in a message. -/
def literalsWithin (levels : Nat) : List Value → Except LiteralFault (List String)
  | [] => .ok []
  | value :: rest => do
    if levels = 0 then throw .tooDeep
    let text ← value.literalWithin (levels - 1)
    let texts ← literalsWithin levels rest
    return text :: texts

/-- The entries of a table in a message. -/
def entriesWithin (levels : Nat) : List (String × Value) → Except LiteralFault (List String)
  | [] => .ok []
  | (key, value) :: rest => do
    if levels = 0 then throw .tooDeep
    let text ← value.literalWithin (levels - 1)
    let texts ← entriesWithin levels rest
    return (Text.quoted key ++ ": " ++ text) :: texts

end

/-- The text that the value is, if it is one. -/
def text? : Value → Option String
  | .text s => some s
  | _ => none

/-- Whether the value stands for nothing: no value, false, zero, or nothing in it. -/
def isEmpty : Value → Bool
  | .null => true
  | .bool b => !b
  | .int n => n = 0
  | .float x => x.isZero
  | .text s => s.isEmpty
  | .moment _ => false
  | .list items => items.isEmpty
  | .table entries => entries.isEmpty

/-- The kind of the value in messages. -/
def kind : Value → String
  | .null => "NoneType"
  | .bool _ => "bool"
  | .int _ => "int"
  | .float _ => "float"
  | .text _ => "str"
  | .moment m => m.kind
  | .list _ => "list"
  | .table _ => "dict"

end Value

end MatlabTidy
