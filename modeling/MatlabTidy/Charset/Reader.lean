import MatlabTidy.Charset.Basic
import MatlabTidy.Text.Lines

/-!
# Reading lines

A file is read in chunks of `chunkSize` bytes and a chunk is decoded before any of its lines is
delivered. A chunk that cannot be decoded ends the delivery: the lines that were complete before it
have been delivered by then, and no other. A carriage return at the end of the text decoded so far
does not complete a line yet, because a line feed may follow it.
-/

namespace MatlabTidy

/-- The number of bytes that are read at once. -/
def chunkSize : Nat := 8192

/-- Cuts a byte sequence into chunks, the last of which may be short. -/
def chunks (bytes : List UInt8) : List (List UInt8) :=
  match bytes with
  | [] => []
  | b :: rest => (b :: rest).take chunkSize :: chunks ((b :: rest).drop chunkSize)
termination_by bytes.length
decreasing_by
  simp only [List.length_drop, List.length_cons, chunkSize]
  omega

/-- The lines that a file delivers, and the error that ends the delivery early. -/
structure Delivery where
  lines : List (List Char)
  failure : Option DecodeError
  deriving DecidableEq, Repr

/-- The text without a carriage return at its end. -/
def withoutFinalReturn (text : List Char) : List Char :=
  if text.getLast? = some '\r' then text.dropLast else text

/-- The lines that are complete when more text may follow. -/
def completeLines (text : List Char) : List (List Char) :=
  (Text.rawLines (withoutFinalReturn text)).takeWhile Text.isTerminated

namespace Decoder

/-- The lines of the chunks that follow the text decoded so far. -/
def deliver (d : Decoder) (text : List Char) : List (List UInt8) → Delivery
  | [] =>
    match d.feed [] true with
    | .ok (chars, _) => ⟨Text.rawLines (text ++ chars), none⟩
    | .error e => ⟨completeLines text, some e⟩
  | chunk :: rest =>
    match d.feed chunk false with
    | .ok (chars, d) => d.deliver (text ++ chars) rest
    | .error e => ⟨completeLines text, some e⟩

end Decoder

/-- The lines of a file. -/
def Charset.read (charset : Charset) (bytes : List UInt8) : Delivery :=
  (Decoder.start charset).deliver [] (chunks bytes)

end MatlabTidy
