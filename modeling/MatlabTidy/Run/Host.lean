import MatlabTidy.Charset.Reader
import MatlabTidy.Run.Failure

/-!
# The host

What the system around a run decides, and the volume does not: which encodings there are besides those
of `Charset`, which files may not be read, and which reports the console does not take. A `Codec` is such an
encoding, given by what it does. A file is written text by text, and each text is encoded behind the texts
that were written before it; what can encode so is an `Encoder`. `Host.bare` has no other encodings, lets
every file be read and takes every report.
-/

namespace MatlabTidy

/-- Why a file cannot be read to its end in an encoding. -/
inductive CodecFault where
  | undecodable (error : DecodeError)
  /-- The encoding fails in a way of its own, in its words. -/
  | failed (message : String)

/-- The failure to read a file. -/
def CodecFault.failure : CodecFault → Failure
  | .undecodable error => .decode error
  | .failed message => .charset (.failed message)

/-- An encoding, given by what it does. -/
structure Codec where
  /-- The lines that a file delivers, and what ends the delivery early. -/
  read : List UInt8 → List (List Char) × Option CodecFault
  /-- The bytes of a text behind the texts that were written before it, or why it cannot be encoded. -/
  encode : (written : List (List Char)) → List Char → Except String (List UInt8)

/-- What turns the texts of a file into bytes, one after the other. -/
class Encoder (E : Type) where
  /-- The bytes of the text of the line with the given number, and the encoder behind it. -/
  write : E → (number : Nat) → List Char → Except Failure (List UInt8 × E)

instance : Encoder Charset where
  write charset number text :=
    ((charset.encode (number == 1) text).mapError .encode).map fun bytes => (bytes, charset)

/-- An encoding at work, with the texts written so far. -/
structure Codec.Writer where
  codec : Codec
  written : List (List Char)

instance : Encoder Codec.Writer where
  write writer _ text :=
    ((writer.codec.encode writer.written text).mapError fun message => .charset (.failed message)).map
      fun bytes => (bytes, ⟨writer.codec, writer.written ++ [text]⟩)

/-- An encoding of one byte to a character, in which every byte stands for a character. -/
def Codec.ofTable (table : UInt8 → Char) : Codec where
  read bytes := (Text.rawLines (bytes.map table), none)
  encode _ text := text.mapM fun c =>
    match ((List.range 256).map Nat.toUInt8).find? fun b => table b = c with
    | some b => .ok b
    | none => .error "character maps to <undefined>"

/-- Why the console does not take a report. -/
inductive ConsoleFault where
  /-- The system refuses, with its explanation. -/
  | refused (explanation : String)
  /-- A character cannot be encoded. -/
  | unencodable (error : EncodeError)

/-- The failure to write a report. -/
def ConsoleFault.failure : ConsoleFault → Failure
  | .refused explanation => .access ⟨.refused explanation, ""⟩
  | .unencodable error => .encode error

/-- What the system around a run decides. -/
structure Host where
  /-- The encodings besides those of `Charset`, by name. -/
  codec? : String → Option Codec
  /-- The system's explanation why a file may not be read, if it may not. -/
  refusal? : (path : String) → Option String
  /-- Why the console does not take the report of a file, if it does not. -/
  consoleFault? : FileReport → (fix verbose : Bool) → Option ConsoleFault

namespace Host

/-- No other encodings; every file may be read, and every report is taken. -/
def bare : Host := ⟨fun _ => none, fun _ => none, fun _ _ _ => none⟩

/-- The encoding of a name. -/
def encoding (host : Host) (name : String) : Except CharsetError (Charset ⊕ Codec) :=
  match Charset.ofName name, host.codec? name with
  | .ok charset, _ => .ok (.inl charset)
  | .error (.unknown _), some codec => .ok (.inr codec)
  | .error error, _ => .error error

end Host

end MatlabTidy
