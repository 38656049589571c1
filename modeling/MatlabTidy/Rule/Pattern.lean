/-!
# Runs of characters in context

A `Pattern` describes a run of characters of one class by the character before it and the
characters after it. `Pattern.pieces` cuts a line, from left to right, into the runs that match
and the single characters between them. Both the columns of the matches and the repaired line are
read off the pieces, so they cannot disagree about where the matches are.
-/

namespace MatlabTidy

/-- A run of characters of one class, judged by what stands around it. -/
structure Pattern where
  /-- The test of the character before the run, which must exist; `none` asks for nothing. -/
  behind : Option (Char → Bool)
  /-- The characters of the run. -/
  body : Char → Bool
  /-- The least length of the run. -/
  least : Nat
  /-- The greatest length of the run; `none` takes the run whole. -/
  most : Option Nat
  /-- The characters that must follow the run, one test for each. -/
  ahead : List (Char → Bool)

/-- A part of a line: a character that belongs to no match, or a run that matches. -/
inductive Piece where
  | plain (c : Char)
  | hit (run : List Char)
  deriving DecidableEq, Repr

namespace Piece

/-- The part of the line that the piece is. -/
def chars : Piece → List Char
  | .plain c => [c]
  | .hit run => run

/-- The columns of the matches, for pieces that start at column `start`. -/
def columns (start : Nat) : List Piece → List Nat
  | [] => []
  | .plain _ :: rest => columns (start + 1) rest
  | .hit run :: rest => start :: columns (start + run.length) rest

/-- The line with every match replaced. -/
def replace (repair : List Char → List Char) (pieces : List Piece) : List Char :=
  pieces.flatMap fun
    | .plain c => [c]
    | .hit run => repair run

end Piece

namespace Pattern

/-- Whether the text starts with characters that pass the tests, one after the other. -/
def startsWith : List (Char → Bool) → List Char → Bool
  | [], _ => true
  | test :: tests, c :: rest => test c && startsWith tests rest
  | _ :: _, [] => false

/-- Whether the character before a run, if any, is as the pattern asks. -/
def allowsBefore (p : Pattern) (before : Option Char) : Bool :=
  match p.behind with
  | none => true
  | some test => before.any test

/-- The run at the start of a text. -/
def run (p : Pattern) (text : List Char) : List Char :=
  match p.most with
  | none => text.takeWhile p.body
  | some most => (text.take most).takeWhile p.body

/-- The match at the start of a text that stands behind the character `before`. -/
def matchAt (p : Pattern) (before : Option Char) (text : List Char) : Option (List Char) :=
  if p.allowsBefore before then
    let run := p.run text
    if p.least ≤ run.length ∧ startsWith p.ahead (text.drop run.length) then some run else none
  else
    none

/-- The pieces of a text that stands behind the character `before`. -/
def piecesAfter (p : Pattern) (before : Option Char) : List Char → List Piece
  | [] => []
  | c :: rest =>
    match p.matchAt before (c :: rest) with
    | some (d :: run) => .hit (d :: run) :: p.piecesAfter (d :: run).getLast? (rest.drop run.length)
    | _ => .plain c :: p.piecesAfter (some c) rest
termination_by text => text.length
decreasing_by
  · simp only [List.length_drop, List.length_cons]
    omega
  · simp

/-- The pieces of a line. -/
def pieces (p : Pattern) (line : List Char) : List Piece := p.piecesAfter none line

/-- The columns at which the pattern matches, in ascending order. -/
def columns (p : Pattern) (line : List Char) : List Nat := Piece.columns 1 (p.pieces line)

end Pattern

end MatlabTidy
