/-!
# Lines and their endings

A source line is a text and the terminator that ends it. `rawLines` cuts a text after every line
feed, carriage return, or carriage return and line feed taken together, and nowhere else, so the
raw lines joined again are the text (`flatten_rawLines`). `Line.ofRaw` separates the terminator
from the text of a raw line, and `Line.raw` puts it back (`raw_ofRaw`).

`brokenLines` is the coarser cut of program output, which knows more separators and drops them.
-/

namespace MatlabTidy.Text

/-- What ends a line; the last line of a file may have no terminator. -/
inductive Ending where
  | none
  | lineFeed
  | carriageReturn
  | both
  deriving DecidableEq, Repr

/-- The characters of a terminator. -/
def Ending.chars : Ending → List Char
  | .none => []
  | .lineFeed => ['\n']
  | .carriageReturn => ['\r']
  | .both => ['\r', '\n']

/-- A text and the terminator that follows it. -/
structure Line where
  text : List Char
  ending : Ending
  deriving DecidableEq, Repr

namespace Line

/-- The line as it stands in a file. -/
def raw (line : Line) : List Char := line.text ++ line.ending.chars

/-- Splits a raw line into its text and its terminator. -/
def ofRaw (raw : List Char) : Line :=
  match raw.reverse with
  | '\n' :: '\r' :: rest => ⟨rest.reverse, .both⟩
  | '\n' :: rest => ⟨rest.reverse, .lineFeed⟩
  | '\r' :: rest => ⟨rest.reverse, .carriageReturn⟩
  | _ => ⟨raw, .none⟩

/-- Nothing of a raw line is lost. -/
@[simp] theorem raw_ofRaw (chars : List Char) : (ofRaw chars).raw = chars := by
  unfold ofRaw
  split
  all_goals
    rename_i h
    simp only [raw, Ending.chars, List.append_nil]
  all_goals
    rw [← List.reverse_reverse chars, h]
    simp

end Line

/-- Puts a character in front of the first line of a list of lines. -/
def prependChar (c : Char) : List (List Char) → List (List Char)
  | [] => [[c]]
  | line :: lines => (c :: line) :: lines

/-- The parts of a text between the occurrences of a separator. -/
def cutAt (separator : Char) : List Char → List (List Char)
  | [] => [[]]
  | c :: rest =>
    if c = separator then [] :: cutAt separator rest else prependChar c (cutAt separator rest)

/-- The lines of a text, each with its terminator. -/
def rawLines : List Char → List (List Char)
  | [] => []
  | '\r' :: '\n' :: rest => ['\r', '\n'] :: rawLines rest
  | c :: rest => if c = '\n' || c = '\r' then [c] :: rawLines rest else prependChar c (rawLines rest)

@[simp] theorem flatten_prependChar (c : Char) (lines : List (List Char)) :
    (prependChar c lines).flatten = c :: lines.flatten := by
  cases lines <;> simp [prependChar]

/-- Cutting a text into lines loses nothing. -/
@[simp] theorem flatten_rawLines (text : List Char) : (rawLines text).flatten = text := by
  fun_induction rawLines text <;> simp_all

/-- Whether a raw line ends in a terminator. -/
def isTerminated (raw : List Char) : Bool :=
  match raw.getLast? with
  | some c => c = '\n' || c = '\r'
  | none => false

/-- The characters at which program output is broken into lines. -/
def isBreak (c : Char) : Bool :=
  let n := c.toNat
  (0xa ≤ n && n ≤ 0xd) || (0x1c ≤ n && n ≤ 0x1e) || n = 0x85 || n = 0x2028 || n = 0x2029

/-- The lines of program output, without their terminators. -/
def brokenLines : List Char → List (List Char)
  | [] => []
  | '\r' :: '\n' :: rest => [] :: brokenLines rest
  | c :: rest => if isBreak c then [] :: brokenLines rest else prependChar c (brokenLines rest)

end MatlabTidy.Text
