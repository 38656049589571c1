/-!
# UTF-8

`Utf8.next` reads one character off the front of a byte sequence. When it cannot, the reason is
either that the bytes are wrong, and then it says how many of them form the wrong sequence (the
longest part that a valid sequence could start with), or that the sequence is cut short.
`Utf8.decodeFront` reads as many characters as it can.
-/

namespace MatlabTidy.Utf8

/-- What stands at the front of a byte sequence. -/
inductive Front where
  /-- Nothing. -/
  | done
  /-- A character, written in `size` bytes. -/
  | char (c : Char) (size : Nat)
  /-- A byte that starts no sequence. -/
  | badStart
  /-- The first `size` bytes start a sequence that the next byte does not continue. -/
  | badContinuation (size : Nat)
  /-- All `size` bytes are the start of a sequence that is not complete. -/
  | cut (size : Nat)
  deriving DecidableEq, Repr

/-- A byte that continues a sequence. -/
def isContinuation (b : UInt8) : Bool := 0x80 ≤ b && b ≤ 0xbf

/-- The number of bytes of the sequence that a byte starts, if it starts one. -/
def sequenceSize? (b : UInt8) : Option Nat :=
  if b < 0x80 then some 1
  else if 0xc2 ≤ b && b ≤ 0xdf then some 2
  else if 0xe0 ≤ b && b ≤ 0xef then some 3
  else if 0xf0 ≤ b && b ≤ 0xf4 then some 4
  else none

/-- Whether the second byte of a sequence may follow its first. The rule excludes longer forms
than needed, surrogates and numbers above the last code point. -/
def allowsSecond (first second : UInt8) : Bool :=
  isContinuation second &&
    (if first = 0xe0 then 0xa0 ≤ second
     else if first = 0xed then second ≤ 0x9f
     else if first = 0xf0 then 0x90 ≤ second
     else if first = 0xf4 then second ≤ 0x8f
     else true)

/-- The bits of a byte that continues a sequence. -/
def tailBits (b : UInt8) : Nat := b.toNat - 0x80

/-- What stands at the front of a byte sequence. -/
def next (bytes : List UInt8) : Front :=
  match bytes with
  | [] => .done
  | a :: rest =>
    match sequenceSize? a with
    | none => .badStart
    | some 1 => .char (Char.ofNat a.toNat) 1
    | some size =>
      match rest with
      | [] => .cut 1
      | b :: rest =>
        if !allowsSecond a b then .badContinuation 1
        else if size = 2 then .char (Char.ofNat ((a.toNat - 0xc0) * 64 + tailBits b)) 2
        else
          match rest with
          | [] => .cut 2
          | c :: rest =>
            if !isContinuation c then .badContinuation 2
            else if size = 3 then
              .char (Char.ofNat (((a.toNat - 0xe0) * 64 + tailBits b) * 64 + tailBits c)) 3
            else
              match rest with
              | [] => .cut 3
              | d :: _ =>
                if !isContinuation d then .badContinuation 3
                else
                  .char (Char.ofNat
                    ((((a.toNat - 0xf0) * 64 + tailBits b) * 64 + tailBits c) * 64 + tailBits d)) 4

/-- Whether the bytes are the first two of a sequence that would write a surrogate. No sequence may,
but only the third byte shows that the sequence was meant as one. -/
def isCutSurrogate : List UInt8 → Bool
  | [a, b] => a = 0xed && 0xa0 ≤ b && b ≤ 0xbf
  | _ => false

/-- Why decoding stopped: what stands at the front of the rest, and how many bytes precede it. -/
structure Stop where
  front : Front
  position : Nat
  deriving DecidableEq, Repr

/-- The characters at the front of a byte sequence that starts at `position`, and why there are
no more. -/
def decodeFront (position : Nat) (bytes : List UInt8) : List Char × Stop :=
  match bytes with
  | [] => ([], ⟨.done, position⟩)
  | a :: rest =>
    match next (a :: rest) with
    | .char c (size + 1) =>
      let (chars, stop) := decodeFront (position + size + 1) (rest.drop size)
      (c :: chars, stop)
    | front => ([], ⟨front, position⟩)
termination_by bytes.length
decreasing_by
  simp only [List.length_drop, List.length_cons]
  omega

/-- The bytes of a character. -/
def encodeChar (c : Char) : List UInt8 :=
  let n := c.toNat
  if n < 0x80 then [n.toUInt8]
  else if n < 0x800 then [(0xc0 + n / 64).toUInt8, (0x80 + n % 64).toUInt8]
  else if n < 0x10000 then
    [(0xe0 + n / 4096).toUInt8, (0x80 + n / 64 % 64).toUInt8, (0x80 + n % 64).toUInt8]
  else
    [(0xf0 + n / 262144).toUInt8, (0x80 + n / 4096 % 64).toUInt8, (0x80 + n / 64 % 64).toUInt8,
     (0x80 + n % 64).toUInt8]

/-- The bytes of a text. -/
def encode (text : List Char) : List UInt8 := text.flatMap encodeChar

end MatlabTidy.Utf8
