/-!
# The stack

Values, documents, links and folders may stand inside of each other, and a program that descends into
them needs its stack to do so. How far it gets is decided by the interpreter that runs it, and not by
the program: a `Stack` says so, and what descends takes its bound from there. `Stack.standard` is that
of an interpreter with a thousand frames, of which the way to each descent has taken some.
-/

namespace MatlabTidy

/-- How deep things may stand inside of each other until the stack is full. -/
structure Stack where
  /-- The levels of a value that is written. -/
  literal : Nat
  /-- The levels of a document that is read. -/
  document : Nat
  /-- The links that are followed when a path is made real. -/
  links : Nat
  /-- The folders that a walk is in. -/
  folders : Nat
  deriving DecidableEq, Repr

/-- The stack of an interpreter with a thousand frames. -/
def Stack.standard : Stack := ⟨980, 989, 988, 960⟩

end MatlabTidy
