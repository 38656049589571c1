import MatlabTidy.Config.Value
import MatlabTidy.Text.Digit
import MatlabTidy.Text.Scan

/-!
# Scalars of a TOML document

Strings, numbers, dates and times, and the blanks and comments between them. A reader takes a text
and gives what it read and the rest of the text. A number, a date or a time is as long as it can
be; what follows it is for the reader of the line to judge.
-/

namespace MatlabTidy.Toml

/-- Why a document cannot be read. -/
inductive Error where
  | malformed
  /-- An integer of more digits than are converted. -/
  | numberTooLong (digits : Nat)
  /-- Arrays and inline tables that stand too deep inside of each other. -/
  | tooDeep
  deriving DecidableEq, Repr

/-- What a reader gives: a value and the rest of the text. -/
abbrev Read (α : Type) := Except Error (α × List Char)

/-- A blank within a line. -/
def isSpace (c : Char) : Bool := c = ' ' || c = '\t'

/-- A blank or the end of a line. -/
def isSpaceOrBreak (c : Char) : Bool := isSpace c || c = '\n'

/-- A control character other than the tab. -/
def isControl (c : Char) : Bool := (c.toNat < 32 && c ≠ '\t') || c.toNat = 127

/-- The text without the blanks at its start. -/
def skipSpace (text : List Char) : List Char := text.dropWhile isSpace

/-- The text behind a comment, if it starts with one. -/
def skipComment (text : List Char) : Except Error (List Char) :=
  match text with
  | '#' :: rest =>
    if (rest.takeWhile (· ≠ '\n')).any isControl then .error .malformed
    else .ok (rest.dropWhile (· ≠ '\n'))
  | _ => .ok text

/-! ## Strings -/

/-- The value of hexadecimal digits. -/
def hexValue? (digits : List Char) : Option Nat :=
  digits.foldl (fun value c => value.bind fun value =>
    if '0' ≤ c ∧ c ≤ '9' then some (16 * value + (c.toNat - 48))
    else if 'a' ≤ c ∧ c ≤ 'f' then some (16 * value + (c.toNat - 87))
    else if 'A' ≤ c ∧ c ≤ 'F' then some (16 * value + (c.toNat - 55))
    else none) (some 0)

/-- The character whose code point is written in exactly `size` digits at the start of the text. -/
def hexChar (size : Nat) (text : List Char) : Read Char :=
  match hexValue? (text.take size) with
  | some n =>
    if text.length < size ∨ ¬ n.isValidChar then .error .malformed
    else .ok (Char.ofNat n, text.drop size)
  | none => .error .malformed

/-- The character of a one-letter escape. -/
def escaped? (c : Char) : Option Char :=
  match c with
  | 'b' => some (Char.ofNat 8)
  | 't' => some '\t'
  | 'n' => some '\n'
  | 'f' => some (Char.ofNat 12)
  | 'r' => some '\r'
  | '"' => some '"'
  | '\\' => some '\\'
  | _ => none

/-- The text behind a backslash at the end of a line: blanks, a line feed and all blanks and line
feeds after it are skipped. -/
def skipLineEnd (text : List Char) : Except Error (List Char) :=
  match skipSpace text with
  | '\n' :: rest => .ok (rest.dropWhile isSpaceOrBreak)
  | _ => .error .malformed

/-- Reads a character behind a backslash; a backslash that ends a line gives none. -/
def readEscape (multiline : Bool) (text : List Char) : Read (Option Char) :=
  match text with
  | 'u' :: rest => (hexChar 4 rest).map fun (c, rest) => (some c, rest)
  | 'U' :: rest => (hexChar 8 rest).map fun (c, rest) => (some c, rest)
  | c :: rest =>
    if multiline && isSpaceOrBreak c then (skipLineEnd (c :: rest)).map fun rest => (none, rest)
    else
      match escaped? c with
      | some e => .ok (some e, rest)
      | none => .error .malformed
  | [] => .error .malformed

/-- Reads a string with escapes up to its closing quotes. Each character takes one step, so the
length of the text bounds the steps. -/
def basicString (multiline : Bool) :
    (steps : Nat) → List Char → Except Error (List Char × List Char)
  | 0, _ => .error .malformed
  | steps + 1, text =>
    match text with
    | [] => .error .malformed
    | '\\' :: rest => do
      let (c, rest) ← readEscape multiline rest
      let (chars, rest) ← basicString multiline steps rest
      return (c.toList ++ chars, rest)
    | c :: rest =>
      if c = '"' && !multiline then .ok ([], rest)
      else if c = '"' && ['"', '"'].isPrefixOf rest then .ok ([], rest.drop 2)
      else if isControl c && !(multiline && c = '\n') then .error .malformed
      else do
        let (chars, rest) ← basicString multiline steps rest
        return (c :: chars, rest)

/-- Reads a string without escapes up to its closing quote. -/
def literalString (text : List Char) : Read (List Char) :=
  let body := text.takeWhile (· ≠ '\'')
  match text.drop body.length with
  | [] => .error .malformed
  | _ :: rest => if body.any isControl then .error .malformed else .ok (body, rest)

/-- Reads a string of several lines without escapes up to its three closing quotes. -/
def literalLines : List Char → Except Error (List Char × List Char)
  | [] => .error .malformed
  | c :: rest =>
    if c = '\'' && ['\'', '\''].isPrefixOf rest then .ok ([], rest.drop 2)
    else if isControl c && c ≠ '\n' then .error .malformed
    else do
      let (chars, rest) ← literalLines rest
      return (c :: chars, rest)

/-- Up to two more quotes may stand before the closing ones of a string of several lines. -/
def moreQuotes (quote : Char) (chars text : List Char) : List Char × List Char :=
  let more := (text.take 2).takeWhile (· = quote)
  (chars ++ more, text.drop more.length)

/-- The text without a line feed at its start. -/
def dropFirstBreak : List Char → List Char
  | '\n' :: rest => rest
  | text => text

/-- Reads a quoted string of one line. -/
def lineString? (text : List Char) : Option (Read String) :=
  let packed (read : Read (List Char)) : Read String :=
    read.map fun (chars, rest) => (String.ofList chars, rest)
  match text with
  | '"' :: rest => some (packed (basicString false (rest.length + 1) rest))
  | '\'' :: rest => some (packed (literalString rest))
  | _ => none

/-- Reads a quoted string. -/
def string? (text : List Char) : Option (Read String) :=
  let packed (quote : Char) (read : Read (List Char)) : Read String :=
    read.map fun (chars, rest) =>
      let (chars, rest) := moreQuotes quote chars rest
      (String.ofList chars, rest)
  match text with
  | '"' :: '"' :: '"' :: rest =>
    some (packed '"' (basicString true (rest.length + 1) (dropFirstBreak rest)))
  | '\'' :: '\'' :: '\'' :: rest => some (packed '\'' (literalLines (dropFirstBreak rest)))
  | _ => lineString? text

/-! ## Numbers -/

/-- Decimal digits. -/
def isDecimal (c : Char) : Bool := '0' ≤ c && c ≤ '9'

/-- Hexadecimal digits. -/
def isHex (c : Char) : Bool := isDecimal c || ('a' ≤ c && c ≤ 'f') || ('A' ≤ c && c ≤ 'F')

/-- Octal digits. -/
def isOctal (c : Char) : Bool := '0' ≤ c && c ≤ '7'

/-- Binary digits. -/
def isBinary (c : Char) : Bool := c = '0' || c = '1'

/-- Digits with single underscores between them, behind a first digit. -/
def moreDigits (test : Char → Bool) : List Char → List Char × List Char
  | '_' :: c :: rest =>
    if test c then
      let (digits, rest) := moreDigits test rest
      (c :: digits, rest)
    else ([], '_' :: c :: rest)
  | c :: rest =>
    if test c then
      let (digits, rest) := moreDigits test rest
      (c :: digits, rest)
    else ([], c :: rest)
  | [] => ([], [])

/-- Digits with single underscores between them. -/
def digits? (test : Char → Bool) (text : List Char) : Option (List Char × List Char) :=
  match text with
  | c :: rest =>
    if test c then
      let (digits, rest) := moreDigits test rest
      some (c :: digits, rest)
    else none
  | [] => none

/-- The value of digits in a base. -/
def valueIn (base : Nat) (digits : List Char) : Nat :=
  digits.foldl (fun value c => base * value + (hexValue? [c]).getD 0) 0

/-- A number with the mark of its base. -/
def basedNumber? (text : List Char) : Option (Value × List Char) :=
  let read (base : Nat) (test : Char → Bool) (rest : List Char) : Option (Value × List Char) :=
    (digits? test rest).map fun (digits, rest) => (.int (valueIn base digits), rest)
  match text with
  | '0' :: 'x' :: rest => read 16 isHex rest
  | '0' :: 'o' :: rest => read 8 isOctal rest
  | '0' :: 'b' :: rest => read 2 isBinary rest
  | _ => none

/-- The sign in front of a number, and the rest. -/
def sign (text : List Char) : Bool × List Char :=
  match text with
  | '-' :: rest => (true, rest)
  | '+' :: rest => (false, rest)
  | _ => (false, text)

/-- The digits before the point: a zero alone, or digits that do not start with one. -/
def wholePart? (text : List Char) : Option (List Char × List Char) :=
  match text with
  | '0' :: rest => some (['0'], rest)
  | _ => digits? isDecimal text

/-- The digits behind a point. -/
def fraction? (text : List Char) : Option (List Char × List Char) :=
  match text with
  | '.' :: rest => digits? isDecimal rest
  | _ => none

/-- The exponent behind its mark. -/
def exponent? (text : List Char) : Option (Int × List Char) :=
  let read (rest : List Char) : Option (Int × List Char) :=
    let (negative, rest) := sign rest
    (digits? isDecimal rest).map fun (digits, rest) =>
      let value : Int := valueIn 10 digits
      (if negative then -value else value, rest)
  match text with
  | 'e' :: rest | 'E' :: rest => read rest
  | _ => none

/-- Reads a decimal number. -/
def decimalNumber? (text : List Char) : Option (Read Value) := do
  let (negative, rest) := sign text
  let (whole, rest) ← wholePart? rest
  let fraction := fraction? rest
  let rest := (fraction.map Prod.snd).getD rest
  let exponent := exponent? rest
  let rest := (exponent.map Prod.snd).getD rest
  if fraction.isNone ∧ exponent.isNone then
    if Text.mostDigits < whole.length then
      return .error (.numberTooLong whole.length)
    else
      let value : Int := valueIn 10 whole
      return .ok (.int (if negative then -value else value), rest)
  else
    let places := (fraction.map Prod.fst).getD []
    let power := (exponent.map Prod.fst).getD 0
    return .ok (.float (.ofDecimal negative (valueIn 10 (whole ++ places)) (power - places.length)),
      rest)

/-- Reads a special number. -/
def specialNumber? (text : List Char) : Option (Value × List Char) :=
  let (negative, rest) := sign text
  match Text.skip? "inf" rest, Text.skip? "nan" rest with
  | some rest, _ => some (.float (.infinite negative), rest)
  | _, some rest => some (.float (.nan negative), rest)
  | _, _ => none

/-- Reads a number. -/
def number? (text : List Char) : Option (Read Value) :=
  match basedNumber? text with
  | some read => some (.ok read)
  | none => (decimalNumber? text).or ((specialNumber? text).map .ok)

/-! ## Dates and times -/

/-- A number of exactly `count` digits, between two bounds. -/
def figure? (count low high : Nat) (text : List Char) : Option (Nat × List Char) :=
  let digits := text.take count
  let value := valueIn 10 digits
  if digits.length = count ∧ digits.all isDecimal ∧ low ≤ value ∧ value ≤ high then
    some (value, text.drop count)
  else
    none

/-- The parts of a second behind a point, to the millionth; more digits are dropped. -/
def micros (text : List Char) : Nat × List Char :=
  match text with
  | '.' :: rest =>
    match rest.takeWhile isDecimal with
    | [] => (0, text)
    | digits =>
      let kept := digits.take 6
      (valueIn 10 kept * Nat.pow 10 (6 - kept.length), rest.dropWhile isDecimal)
  | _ => (0, text)

/-- Reads a time of day. -/
def time? (text : List Char) : Option (TimeOfDay × List Char) := do
  let (hour, rest) ← figure? 2 0 23 text
  let rest ← Text.skip? ":" rest
  let (minute, rest) ← figure? 2 0 59 rest
  let rest ← Text.skip? ":" rest
  let (second, rest) ← figure? 2 0 59 rest
  let (micros, rest) := micros rest
  return (⟨hour, minute, second, micros⟩, rest)

/-- Reads an offset from universal time, in minutes. -/
def offset? (text : List Char) : Option (Int × List Char) :=
  match text with
  | 'Z' :: rest | 'z' :: rest => some (0, rest)
  | c :: rest =>
    if c = '+' || c = '-' then do
      let (hours, rest) ← figure? 2 0 23 rest
      let rest ← Text.skip? ":" rest
      let (minutes, rest) ← figure? 2 0 59 rest
      let offset : Int := 60 * hours + minutes
      return (if c = '-' then -offset else offset, rest)
    else none
  | [] => none

/-- Reads a date, or a date and a time. -/
def dateTime? (text : List Char) : Option (Moment × List Char) := do
  let (year, rest) ← figure? 4 0 9999 text
  let rest ← Text.skip? "-" rest
  let (month, rest) ← figure? 2 1 12 rest
  let rest ← Text.skip? "-" rest
  let (day, rest) ← figure? 2 1 31 rest
  let date : Date := ⟨year, month, day⟩
  let clock : Option (TimeOfDay × List Char) :=
    match rest with
    | c :: more => if c = 'T' || c = 't' || c = ' ' then time? more else none
    | [] => none
  match clock with
  | none => return (.date date, rest)
  | some (time, rest) =>
    match offset? rest with
    | some (offset, rest) => return (.dateTime date time (some offset), rest)
    | none => return (.dateTime date time none, rest)

/-- Whether the calendar has the moment. -/
def isOnCalendar : Moment → Bool
  | .date d => d.isValid
  | .dateTime d _ _ => d.isValid
  | .time _ => true

/-- Reads a date or a time. -/
def moment? (text : List Char) : Option (Read Value) :=
  match dateTime? text with
  | some (m, rest) => some (if isOnCalendar m then .ok (.moment m, rest) else .error .malformed)
  | none => (time? text).map fun (t, rest) => .ok (.moment (.time t), rest)

end MatlabTidy.Toml
