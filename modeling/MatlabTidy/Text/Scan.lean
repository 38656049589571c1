/-!
# Reading a text from the left

Two steps of a hand-written reader: a fixed text, and a run of characters of one class. Each gives
the rest of the text, and fails when what it looks for is not there.
-/

namespace MatlabTidy.Text

/-- The rest of a text behind a fixed beginning. -/
def skip? (beginning : String) (text : List Char) : Option (List Char) :=
  if beginning.toList.isPrefixOf text then some (text.drop beginning.toList.length) else none

/-- The run of characters of a class at the start of a text, if there is one, and the rest. -/
def span? (test : Char → Bool) (text : List Char) : Option (List Char × List Char) :=
  match text.takeWhile test with
  | [] => none
  | run => some (run, text.dropWhile test)

/-- The text behind the first occurrence of a separator. -/
def after? (separator : String) : List Char → Option (List Char)
  | [] => skip? separator []
  | c :: rest =>
    match skip? separator (c :: rest) with
    | some found => some found
    | none => after? separator rest

end MatlabTidy.Text
