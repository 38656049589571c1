import MatlabTidy.Text.Scan

/-!
# Escape sequences

A terminal takes an escape sequence as an order and not as text: an escape character, an opening
bracket, parameters, and a final character that names the order. Output that does not go to a
terminal is written without them.
-/

namespace MatlabTidy.Console

/-- Characters of the parameters of an escape sequence. -/
def isParameter (c : Char) : Bool := '0' ≤ c && c ≤ '?'

/-- Characters between the parameters and the final character. -/
def isIntermediate (c : Char) : Bool := ' ' ≤ c && c ≤ '/'

/-- Characters that end an escape sequence. -/
def isFinal (c : Char) : Bool := '@' ≤ c && c ≤ '~'

/-- The text behind the escape sequence at its start, if there is one. -/
def afterEscape? (text : List Char) : Option (List Char) := do
  let rest ← Text.skip? "\x1b[" text
  match (rest.dropWhile isParameter).dropWhile isIntermediate with
  | c :: rest => if isFinal c then some rest else none
  | [] => none

theorem length_afterEscape?_lt {text rest : List Char} (h : afterEscape? text = some rest) :
    rest.length < text.length := by
  unfold afterEscape? at h
  simp only [Text.skip?, Option.bind_eq_bind, Option.bind_eq_some_iff, Option.ite_none_right_eq_some,
    Option.some.injEq] at h
  obtain ⟨behind, ⟨_, rfl⟩, h⟩ := h
  split at h
  · rename_i c final hdrop
    split at h
    · simp only [Option.some.injEq] at h
      subst h
      have h1 := (List.dropWhile_sublist (l := (text.drop "\x1b[".toList.length).dropWhile isParameter)
        isIntermediate).length_le
      have h2 := (List.dropWhile_sublist (l := text.drop "\x1b[".toList.length) isParameter).length_le
      rw [hdrop] at h1
      simp only [List.length_cons, List.length_drop] at h1 h2
      omega
    · simp at h
  · simp at h

/-- The text without its escape sequences. -/
def withoutEscapes (text : List Char) : List Char :=
  match text with
  | [] => []
  | c :: rest =>
    match _h : afterEscape? (c :: rest) with
    | some behind => withoutEscapes behind
    | none => c :: withoutEscapes rest
termination_by text.length
decreasing_by
  · exact length_afterEscape?_lt ‹_›
  · simp

end MatlabTidy.Console
