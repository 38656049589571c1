import MatlabTidy.Charset.Utf8
import MatlabTidy.Text.Quoted

/-!
# Character sets

The encodings in which sources are read and written. `Charset.ofName` finds one by any of its
names. A `Decoder` turns bytes into text chunk by chunk and keeps the bytes of a character that a
chunk border cuts; `Charset.decode` is the decoder fed everything at once. Wrong bytes are reported
with their position in the data at hand, which is the chunk behind the bytes kept before it.
-/

namespace MatlabTidy

/-- An encoding of text. -/
inductive Charset where
  | utf8
  /-- UTF-8 behind a byte order mark, which is dropped on reading and written on writing. -/
  | utf8Marked
  | ascii
  | latin1
  deriving DecidableEq, Repr

/-- A name that names no text encoding, or an encoding that fails. -/
inductive CharsetError where
  | unknown (name : String)
  | notText (name : String)
  /-- A name with a null character in it. -/
  | embeddedNull
  /-- An encoding that fails in a way of its own, in its words. -/
  | failed (message : String)
  deriving DecidableEq, Repr

/-- The error in words. -/
def CharsetError.message : CharsetError → String
  | .unknown name => "unknown encoding: " ++ name
  | .notText name =>
    "'" ++ name ++ "' is not a text encoding; use codecs.open() to handle arbitrary codecs"
  | .embeddedNull => "embedded null character"
  | .failed message => message

/-- Why bytes cannot be decoded. -/
inductive DecodeCause where
  | invalidStart
  | invalidContinuation
  | unexpectedEnd
  | outOfRange
  /-- A cause in the words of the encoding. -/
  | other (reason : String)
  deriving DecidableEq, Repr

/-- The cause in words. -/
def DecodeCause.text : DecodeCause → String
  | .invalidStart => "invalid start byte"
  | .invalidContinuation => "invalid continuation byte"
  | .unexpectedEnd => "unexpected end of data"
  | .outOfRange => "ordinal not in range(128)"
  | .other reason => reason

/-- Bytes that cannot be decoded, and where they stand. -/
structure DecodeError where
  /-- The name of the encoding in messages. -/
  codec : String
  position : Nat
  bytes : List UInt8
  cause : DecodeCause
  deriving DecidableEq, Repr

/-- Characters that cannot be encoded, and where they stand. -/
structure EncodeError where
  charset : Charset
  position : Nat
  chars : List Char
  deriving DecidableEq, Repr

namespace Charset

/-- The name of an encoding in messages. -/
def label : Charset → String
  | .utf8 | .utf8Marked => "utf-8"
  | .ascii => "ascii"
  | .latin1 => "latin-1"

/-- The number of characters that an encoding of one byte to a character has. -/
def size : Charset → Nat
  | .utf8 | .utf8Marked => 0x110000
  | .ascii => 128
  | .latin1 => 256

/-- The name without regard to case, with each stretch of other signs as one underscore. -/
def plainName (name : String) : String :=
  let step (state : List Char × Bool) (c : Char) : List Char × Bool :=
    if c.isAlphanum || c = '.' then
      ((if state.2 && !state.1.isEmpty then [c.toLower, '_'] else [c.toLower]) ++ state.1, false)
    else
      (state.1, true)
  String.ofList (name.toList.foldl step ([], false)).1.reverse

/-- The proper names of the encodings, in plain form. -/
def properNames : List (String × Charset) :=
  [("utf_8", .utf8), ("utf_8_sig", .utf8Marked), ("ascii", .ascii), ("latin_1", .latin1)]

/-- Other names of UTF-8, in plain form. -/
def utf8Aliases : List String := ["u8", "utf", "utf8", "utf8_ucs2", "utf8_ucs4", "cp65001"]

/-- Other names of ASCII, in plain form. -/
def asciiAliases : List String :=
  ["646", "ansi_x3.4_1968", "ansi_x3_4_1968", "ansi_x3.4_1986", "cp367", "csascii", "ibm367",
   "iso646_us", "iso_646.irv_1991", "iso_ir_6", "us", "us_ascii"]

/-- Other names of Latin-1, in plain form. -/
def latin1Aliases : List String :=
  ["8859", "cp819", "csisolatin1", "ibm819", "iso8859", "iso8859_1", "iso_8859_1",
   "iso_8859_1_1987", "iso_ir_100", "l1", "latin", "latin1"]

/-- The proper names of encodings of bytes as bytes, which are refused for text. -/
def byteCodecNames : List String :=
  ["hex_codec", "base64_codec", "bz2_codec", "zlib_codec", "uu_codec", "quopri_codec", "rot_13"]

/-- Other names of encodings of bytes as bytes. -/
def byteCodecAliases : List String :=
  ["hex", "base64", "base_64", "bz2", "zip", "zlib", "uu", "quopri", "quoted_printable",
   "quotedprintable", "rot13"]

/-- The encoding that an alias in plain form stands for. -/
def ofAlias? (plain : String) : Option Charset :=
  if utf8Aliases.contains plain then some .utf8
  else if asciiAliases.contains plain then some .ascii
  else if latin1Aliases.contains plain then some .latin1
  else none

/-- Refuses names that cannot be looked up at all. -/
def checkName (name : String) : Except CharsetError Unit :=
  if name.toList.contains (Char.ofNat 0) then .error .embeddedNull else .ok ()

/-- The name of the encoding of the surroundings, which is UTF-8; it has no other spelling. -/
def localName : String := "locale"

/-- The encoding that a name in plain form stands for. In an alias, but not in a proper name, a dot
may stand for an underscore. -/
def ofPlainName? (plain undotted : String) : Option Charset :=
  (properNames.lookup plain).or ((ofAlias? plain).or (ofAlias? undotted))

/-- The encoding of a name. -/
def ofName (name : String) : Except CharsetError Charset := do
  checkName name
  let plain := plainName name
  let undotted := plain.map fun c => if c = '.' then '_' else c
  match if name = localName then some .utf8 else ofPlainName? plain undotted with
  | some charset => .ok charset
  | none =>
    if byteCodecNames.contains plain || byteCodecAliases.contains undotted then .error (.notText name)
    else .error (.unknown name)

/-- An encoding that is known has a name that can be looked up. -/
theorem checkName_of_ofName {name : String} {charset : Charset} (known : ofName name = .ok charset) :
    checkName name = .ok () := by
  unfold ofName at known
  cases named : checkName name with
  | error e =>
    rw [named] at known
    cases known
  | ok _ => rfl

end Charset

/-- Two hexadecimal digits of a byte. -/
def hexByte (b : UInt8) : String := String.ofList (Text.hexDigits 2 b.toNat)

/-- The error in words: a single byte is shown, a longer stretch is given by its ends. -/
def DecodeError.message (e : DecodeError) : String :=
  let place :=
    match e.bytes with
    | [b] => s!"byte 0x{hexByte b} in position {e.position}"
    | bytes => s!"bytes in position {e.position}-{e.position + bytes.length - 1}"
  "'" ++ e.codec ++ "' codec can't decode " ++ place ++ ": " ++ e.cause.text

/-- The error in words: a single character is shown, a longer stretch is given by its ends. -/
def EncodeError.message (e : EncodeError) : String :=
  let place :=
    match e.chars with
    | [c] => "character '" ++ String.ofList (Text.codeEscape c) ++ s!"' in position {e.position}"
    | chars => s!"characters in position {e.position}-{e.position + chars.length - 1}"
  "'" ++ e.charset.label ++ "' codec can't encode " ++ place
    ++ s!": ordinal not in range({e.charset.size})"

/-- The byte order mark. -/
def byteOrderMark : Char := Char.ofNat 0xfeff

/-- The bytes of the byte order mark. -/
def markBytes : List UInt8 := [0xef, 0xbb, 0xbf]

/-- What a decoder knows between two chunks. -/
structure Decoder where
  charset : Charset
  /-- The bytes of a character whose end has not come yet. -/
  pending : List UInt8
  /-- No byte has been decoded yet, so that a byte order mark may come. -/
  fresh : Bool
  deriving DecidableEq, Repr

namespace Decoder

/-- The decoder before the first chunk. -/
def start (charset : Charset) : Decoder := ⟨charset, [], true⟩

/-- Decodes UTF-8; a cut character, or a cut surrogate, is kept for later, unless the data is
final. -/
def feedUtf8 (d : Decoder) (data : List UInt8) (final : Bool) :
    Except DecodeError (List Char × Decoder) :=
  let (chars, stop) := Utf8.decodeFront 0 data
  let rest := data.drop stop.position
  let refuse (size : Nat) (cause : DecodeCause) : Except DecodeError (List Char × Decoder) :=
    .error ⟨d.charset.label, stop.position, rest.take size, cause⟩
  match stop.front with
  | .badStart => refuse 1 .invalidStart
  | .badContinuation size =>
    if !final && Utf8.isCutSurrogate rest then .ok (chars, ⟨d.charset, rest, false⟩)
    else refuse size .invalidContinuation
  | .cut size =>
    if final then refuse size .unexpectedEnd else .ok (chars, ⟨d.charset, rest, false⟩)
  | _ => .ok (chars, ⟨d.charset, [], false⟩)

/-- Decodes one more chunk of bytes; `final` says that no other follows. -/
def feed (d : Decoder) (chunk : List UInt8) (final : Bool) :
    Except DecodeError (List Char × Decoder) :=
  let data := d.pending ++ chunk
  match d.charset with
  | .utf8 => d.feedUtf8 data final
  | .utf8Marked =>
    if d.fresh && decide (data.length < 3) && data.isPrefixOf markBytes then
      .ok ([], ⟨d.charset, data, true⟩)
    else if d.fresh && markBytes.isPrefixOf data then
      d.feedUtf8 (data.drop 3) final
    else
      d.feedUtf8 data final
  | .ascii =>
    let ok := chunk.takeWhile (· < 0x80)
    match chunk.drop ok.length with
    | [] => .ok (ok.map fun b => Char.ofNat b.toNat, d)
    | b :: _ => .error ⟨d.charset.label, ok.length, [b], .outOfRange⟩
  | .latin1 => .ok (chunk.map fun b => Char.ofNat b.toNat, d)

end Decoder

namespace Charset

/-- The text of a byte sequence. -/
def decode (charset : Charset) (bytes : List UInt8) : Except DecodeError (List Char) :=
  ((Decoder.start charset).feed bytes true).map Prod.fst

/-- The bytes of a text in an encoding of one byte to a character. -/
def encodeBytes (charset : Charset) (text : List Char) : Except EncodeError (List UInt8) :=
  let known (c : Char) : Bool := c.toNat < charset.size
  let ok := text.takeWhile known
  match text.drop ok.length with
  | [] => .ok (ok.map fun c => c.toNat.toUInt8)
  | rest => .error ⟨charset, ok.length, rest.takeWhile fun c => !known c⟩

/-- The bytes of a text; `first` says that nothing has been written before it. -/
def encode (charset : Charset) (first : Bool) (text : List Char) :
    Except EncodeError (List UInt8) :=
  match charset with
  | .utf8 => .ok (Utf8.encode text)
  | .utf8Marked => .ok ((if first then markBytes else []) ++ Utf8.encode text)
  | .ascii | .latin1 => encodeBytes charset text

/-- The bytes of a sequence of texts, written one after the other. -/
def encodeAll (charset : Charset) (first : Bool) : List (List Char) → Except EncodeError (List UInt8)
  | [] => .ok []
  | text :: rest => do
    let bytes ← charset.encode first text
    let others ← charset.encodeAll false rest
    return bytes ++ others

end Charset

end MatlabTidy
