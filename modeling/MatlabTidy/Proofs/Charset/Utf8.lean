import MatlabTidy.Charset.Utf8
import Mathlib.Tactic.Common

/-!
# UTF-8 is read as it is written

`Sequence` is the grammar of the bytes of one character. The writer writes such a sequence
(`sequence_encodeChar`) and the reader takes one (`sequence_of_next`), and a sequence is the bytes of
its character (`Sequence.eq_encodeChar`). So the bytes of a text are decoded to the text
(`decodeFront_encode_append`), and what is decoded are the bytes of the text
(`eq_encode_append_of_decodeFront`). A cut through the bytes of a text is a cut of the text, with
perhaps a character that is recognised as cut between (`exists_cut_of_append_eq_encode`).
-/

namespace MatlabTidy.Utf8

theorem isContinuation_iff {b : UInt8} : isContinuation b = true ↔ 0x80 ≤ b.toNat ∧ b.toNat ≤ 0xbf := by
  simp [isContinuation, UInt8.le_iff_toNat_le]

theorem allowsSecond_iff {a b : UInt8} :
    allowsSecond a b = true ↔
      (0x80 ≤ b.toNat ∧ b.toNat ≤ 0xbf) ∧ (a.toNat = 0xe0 → 0xa0 ≤ b.toNat) ∧
        (a.toNat = 0xed → b.toNat ≤ 0x9f) ∧ (a.toNat = 0xf0 → 0x90 ≤ b.toNat) ∧
        (a.toNat = 0xf4 → b.toNat ≤ 0x8f) := by
  have same : ∀ n : UInt8, a = n ↔ a.toNat = n.toNat := fun n => UInt8.toNat_inj.symm
  simp only [allowsSecond, Bool.and_eq_true, isContinuation_iff, same]
  refine and_congr_right fun _ => ?_
  simp only [show (0xe0 : UInt8).toNat = 0xe0 from rfl, show (0xed : UInt8).toNat = 0xed from rfl,
    show (0xf0 : UInt8).toNat = 0xf0 from rfl, show (0xf4 : UInt8).toNat = 0xf4 from rfl]
  split
  · simp [UInt8.le_iff_toNat_le]; omega
  · split
    · simp [UInt8.le_iff_toNat_le]; omega
    · split
      · simp [UInt8.le_iff_toNat_le]; omega
      · split
        · simp [UInt8.le_iff_toNat_le]; omega
        · simp; omega

/-- The first byte of a sequence tells its length. -/
theorem sequenceSize?_eq (a : UInt8) :
    sequenceSize? a =
      if a.toNat < 0x80 then some 1
      else if 0xc2 ≤ a.toNat ∧ a.toNat ≤ 0xdf then some 2
      else if 0xe0 ≤ a.toNat ∧ a.toNat ≤ 0xef then some 3
      else if 0xf0 ≤ a.toNat ∧ a.toNat ≤ 0xf4 then some 4
      else none := by
  simp [sequenceSize?, UInt8.lt_iff_toNat_lt, UInt8.le_iff_toNat_le]

theorem sequenceSize?_one {a : UInt8} (h : a.toNat < 0x80) : sequenceSize? a = some 1 := by
  rw [sequenceSize?_eq, if_pos h]

theorem sequenceSize?_two {a : UInt8} (low : 0xc2 ≤ a.toNat) (high : a.toNat ≤ 0xdf) :
    sequenceSize? a = some 2 := by
  rw [sequenceSize?_eq, if_neg (by omega), if_pos ⟨low, high⟩]

theorem sequenceSize?_three {a : UInt8} (low : 0xe0 ≤ a.toNat) (high : a.toNat ≤ 0xef) :
    sequenceSize? a = some 3 := by
  rw [sequenceSize?_eq, if_neg (by omega), if_neg (by omega), if_pos ⟨low, high⟩]

theorem sequenceSize?_four {a : UInt8} (low : 0xf0 ≤ a.toNat) (high : a.toNat ≤ 0xf4) :
    sequenceSize? a = some 4 := by
  rw [sequenceSize?_eq, if_neg (by omega), if_neg (by omega), if_neg (by omega), if_pos ⟨low, high⟩]

/-- A byte sequence of a character, with the number of the character. -/
inductive Sequence : List UInt8 → Nat → Prop where
  | one {a : UInt8} (first : a.toNat < 0x80) : Sequence [a] a.toNat
  | two {a b : UInt8} (low : 0xc2 ≤ a.toNat) (high : a.toNat ≤ 0xdf)
      (second : allowsSecond a b = true) : Sequence [a, b] ((a.toNat - 0xc0) * 64 + tailBits b)
  | three {a b c : UInt8} (low : 0xe0 ≤ a.toNat) (high : a.toNat ≤ 0xef)
      (second : allowsSecond a b = true) (third : isContinuation c = true) :
      Sequence [a, b, c] (((a.toNat - 0xe0) * 64 + tailBits b) * 64 + tailBits c)
  | four {a b c d : UInt8} (low : 0xf0 ≤ a.toNat) (high : a.toNat ≤ 0xf4)
      (second : allowsSecond a b = true) (third : isContinuation c = true)
      (fourth : isContinuation d = true) :
      Sequence [a, b, c, d]
        ((((a.toNat - 0xf0) * 64 + tailBits b) * 64 + tailBits c) * 64 + tailBits d)

namespace Sequence

variable {bytes : List UInt8} {n : Nat}

theorem ne_nil (h : Sequence bytes n) : bytes ≠ [] := by
  cases h <;> exact List.cons_ne_nil _ _

/-- A sequence is read whole. -/
theorem next_append (h : Sequence bytes n) (rest : List UInt8) :
    next (bytes ++ rest) = .char (Char.ofNat n) bytes.length := by
  cases h with
  | one first => simp [next, sequenceSize?_one first]
  | two low high second => simp [next, sequenceSize?_two low high, second]
  | three low high second third => simp [next, sequenceSize?_three low high, second, third]
  | four low high second third fourth =>
    simp [next, sequenceSize?_four low high, second, third, fourth]

/-- The start of a sequence is recognised as cut. -/
theorem next_cut (h : Sequence bytes n) {front back : List UInt8} (cut : bytes = front ++ back)
    (hf : front ≠ []) (hb : back ≠ []) : next front = .cut front.length := by
  obtain ⟨x, front, rfl⟩ := List.exists_cons_of_ne_nil hf
  obtain ⟨y, back, rfl⟩ := List.exists_cons_of_ne_nil hb
  cases h with
  | one first => simp at cut
  | two low high second =>
    rcases front with _ | ⟨b, front⟩
    · simp only [List.cons_append, List.cons.injEq] at cut
      obtain ⟨rfl, -⟩ := cut
      simp [next, sequenceSize?_two low high]
    · simp at cut
  | three low high second third =>
    rcases front with _ | ⟨b, _ | ⟨c, front⟩⟩
    · simp only [List.cons_append, List.cons.injEq] at cut
      obtain ⟨rfl, -⟩ := cut
      simp [next, sequenceSize?_three low high]
    · simp only [List.cons_append, List.cons.injEq] at cut
      obtain ⟨rfl, rfl, -⟩ := cut
      simp [next, sequenceSize?_three low high, second]
    · simp at cut
  | four low high second third fourth =>
    rcases front with _ | ⟨b, _ | ⟨c, _ | ⟨d, front⟩⟩⟩
    · simp only [List.cons_append, List.cons.injEq] at cut
      obtain ⟨rfl, -⟩ := cut
      simp [next, sequenceSize?_four low high]
    · simp only [List.cons_append, List.cons.injEq] at cut
      obtain ⟨rfl, rfl, -⟩ := cut
      simp [next, sequenceSize?_four low high, second]
    · simp only [List.cons_append, List.cons.injEq] at cut
      obtain ⟨rfl, rfl, rfl, -⟩ := cut
      simp [next, sequenceSize?_four low high, second, third]
    · simp at cut

end Sequence

/-- Characters are numbers below the last code point, surrogates excluded. -/
theorem toNat_lt (c : Char) : c.toNat < 0xd800 ∨ 0xdfff < c.toNat ∧ c.toNat < 0x110000 := c.valid

theorem toNat_ofNat {n : Nat} (h : n < 0xd800 ∨ 0xdfff < n ∧ n < 0x110000) : (Char.ofNat n).toNat = n := by
  have valid : n.isValidChar := h
  rw [Char.ofNat, dif_pos valid]
  rfl

theorem toNat_toUInt8 {n : Nat} (h : n < 256) : n.toUInt8.toNat = n := by
  simp only [Nat.toUInt8_eq, UInt8.toNat_ofNat']
  omega

/-- The bytes of a character are a sequence of its number. -/
theorem sequence_encodeChar (c : Char) : Sequence (encodeChar c) c.toNat := by
  have bound := toNat_lt c
  unfold encodeChar
  generalize c.toNat = n at bound
  dsimp only
  split
  · have first : n.toUInt8.toNat = n := toNat_toUInt8 (by omega)
    have whole : Sequence [n.toUInt8] n.toUInt8.toNat := .one (by omega)
    rwa [first] at whole
  · split
    · have first : (0xc0 + n / 64).toUInt8.toNat = 0xc0 + n / 64 := toNat_toUInt8 (by omega)
      have second : (0x80 + n % 64).toUInt8.toNat = 0x80 + n % 64 := toNat_toUInt8 (by omega)
      have whole := Sequence.two (a := (0xc0 + n / 64).toUInt8) (b := (0x80 + n % 64).toUInt8)
        (by omega) (by omega) (allowsSecond_iff.2 (by omega))
      have number : ((0xc0 + n / 64).toUInt8.toNat - 0xc0) * 64 + tailBits (0x80 + n % 64).toUInt8 = n := by
        unfold tailBits
        omega
      rwa [number] at whole
    · split
      · have first : (0xe0 + n / 4096).toUInt8.toNat = 0xe0 + n / 4096 := toNat_toUInt8 (by omega)
        have second : (0x80 + n / 64 % 64).toUInt8.toNat = 0x80 + n / 64 % 64 := toNat_toUInt8 (by omega)
        have third : (0x80 + n % 64).toUInt8.toNat = 0x80 + n % 64 := toNat_toUInt8 (by omega)
        have whole := Sequence.three (a := (0xe0 + n / 4096).toUInt8)
          (b := (0x80 + n / 64 % 64).toUInt8) (c := (0x80 + n % 64).toUInt8)
          (by omega) (by omega) (allowsSecond_iff.2 (by omega)) (isContinuation_iff.2 (by omega))
        have number : (((0xe0 + n / 4096).toUInt8.toNat - 0xe0) * 64 +
            tailBits (0x80 + n / 64 % 64).toUInt8) * 64 + tailBits (0x80 + n % 64).toUInt8 = n := by
          unfold tailBits
          omega
        rwa [number] at whole
      · have first : (0xf0 + n / 262144).toUInt8.toNat = 0xf0 + n / 262144 := toNat_toUInt8 (by omega)
        have second : (0x80 + n / 4096 % 64).toUInt8.toNat = 0x80 + n / 4096 % 64 :=
          toNat_toUInt8 (by omega)
        have third : (0x80 + n / 64 % 64).toUInt8.toNat = 0x80 + n / 64 % 64 := toNat_toUInt8 (by omega)
        have fourth : (0x80 + n % 64).toUInt8.toNat = 0x80 + n % 64 := toNat_toUInt8 (by omega)
        have whole := Sequence.four (a := (0xf0 + n / 262144).toUInt8)
          (b := (0x80 + n / 4096 % 64).toUInt8) (c := (0x80 + n / 64 % 64).toUInt8)
          (d := (0x80 + n % 64).toUInt8) (by omega) (by omega) (allowsSecond_iff.2 (by omega))
          (isContinuation_iff.2 (by omega)) (isContinuation_iff.2 (by omega))
        have number : ((((0xf0 + n / 262144).toUInt8.toNat - 0xf0) * 64 +
            tailBits (0x80 + n / 4096 % 64).toUInt8) * 64 + tailBits (0x80 + n / 64 % 64).toUInt8) * 64 +
            tailBits (0x80 + n % 64).toUInt8 = n := by
          unfold tailBits
          omega
        rwa [number] at whole

theorem eq_toUInt8 {a : UInt8} {n : Nat} (h : a.toNat = n) : a = n.toUInt8 := by
  subst h
  exact UInt8.toNat_inj.1 (toNat_toUInt8 a.toNat_lt).symm

/-- A sequence is the bytes of the character with its number. -/
theorem Sequence.eq_encodeChar {bytes : List UInt8} {n : Nat} (h : Sequence bytes n) :
    bytes = encodeChar (Char.ofNat n) := by
  have written : ∀ m : Nat, (m < 0xd800 ∨ 0xdfff < m ∧ m < 0x110000) → encodeChar (Char.ofNat m) =
      if m < 0x80 then [m.toUInt8]
      else if m < 0x800 then [(0xc0 + m / 64).toUInt8, (0x80 + m % 64).toUInt8]
      else if m < 0x10000 then
        [(0xe0 + m / 4096).toUInt8, (0x80 + m / 64 % 64).toUInt8, (0x80 + m % 64).toUInt8]
      else
        [(0xf0 + m / 262144).toUInt8, (0x80 + m / 4096 % 64).toUInt8, (0x80 + m / 64 % 64).toUInt8,
         (0x80 + m % 64).toUInt8] := by
    intro m valid
    rw [encodeChar, toNat_ofNat valid]
  cases h with
  | @one a first =>
    rw [written _ (by omega), if_pos first, ← eq_toUInt8 rfl]
  | @two a b low high second =>
    have range := allowsSecond_iff.1 second
    generalize hn : (a.toNat - 0xc0) * 64 + tailBits b = n
    unfold tailBits at hn
    have ha : a.toNat = 0xc0 + n / 64 := by omega
    have hb : b.toNat = 0x80 + n % 64 := by omega
    rw [written n (by omega), if_neg (by omega), if_pos (by omega), ← eq_toUInt8 ha, ← eq_toUInt8 hb]
  | @three a b c low high second third =>
    have range := allowsSecond_iff.1 second
    have range' := isContinuation_iff.1 third
    generalize hn : ((a.toNat - 0xe0) * 64 + tailBits b) * 64 + tailBits c = n
    unfold tailBits at hn
    have ha : a.toNat = 0xe0 + n / 4096 := by omega
    have hb : b.toNat = 0x80 + n / 64 % 64 := by omega
    have hc : c.toNat = 0x80 + n % 64 := by omega
    rw [written n (by omega), if_neg (by omega), if_neg (by omega), if_pos (by omega),
      ← eq_toUInt8 ha, ← eq_toUInt8 hb, ← eq_toUInt8 hc]
  | @four a b c d low high second third fourth =>
    have range := allowsSecond_iff.1 second
    have range' := isContinuation_iff.1 third
    have range'' := isContinuation_iff.1 fourth
    generalize hn : (((a.toNat - 0xf0) * 64 + tailBits b) * 64 + tailBits c) * 64 + tailBits d = n
    unfold tailBits at hn
    have ha : a.toNat = 0xf0 + n / 262144 := by omega
    have hb : b.toNat = 0x80 + n / 4096 % 64 := by omega
    have hc : c.toNat = 0x80 + n / 64 % 64 := by omega
    have hd : d.toNat = 0x80 + n % 64 := by omega
    rw [written n (by omega), if_neg (by omega), if_neg (by omega), if_neg (by omega),
      ← eq_toUInt8 ha, ← eq_toUInt8 hb, ← eq_toUInt8 hc, ← eq_toUInt8 hd]

section Read

variable {a : UInt8} {rest : List UInt8} {c : Char} {size : Nat} (h : next (a :: rest) = .char c size)
include h

/-- The character stands at the front of the bytes, as a sequence. -/
theorem sequence_of_next_two (low : 0xc2 ≤ a.toNat) (high : a.toNat ≤ 0xdf) :
    ∃ front tail n, a :: rest = front ++ tail ∧ Sequence front n ∧ c = Char.ofNat n ∧ size = front.length := by
  rw [next, sequenceSize?_two low high] at h
  rcases rest with _ | ⟨b, rest⟩
  · cases h
  by_cases second : allowsSecond a b = true
  · simp only [second, Bool.not_true, Bool.false_eq_true, if_false, if_true, Front.char.injEq] at h
    obtain ⟨rfl, rfl⟩ := h
    exact ⟨[a, b], rest, _, rfl, .two low high second, rfl, rfl⟩
  · simp [second] at h

theorem sequence_of_next_three (low : 0xe0 ≤ a.toNat) (high : a.toNat ≤ 0xef) :
    ∃ front tail n, a :: rest = front ++ tail ∧ Sequence front n ∧ c = Char.ofNat n ∧ size = front.length := by
  rw [next, sequenceSize?_three low high] at h
  rcases rest with _ | ⟨b, rest⟩
  · cases h
  by_cases second : allowsSecond a b = true
  · rcases rest with _ | ⟨d, rest⟩
    · simp [second] at h
    by_cases third : isContinuation d = true
    · simp only [second, third, Bool.not_true, Bool.false_eq_true, if_false, if_true, Nat.reduceEqDiff,
        Front.char.injEq] at h
      obtain ⟨rfl, rfl⟩ := h
      exact ⟨[a, b, d], rest, _, rfl, .three low high second third, rfl, rfl⟩
    · simp [second, third] at h
  · simp [second] at h

theorem sequence_of_next_four (low : 0xf0 ≤ a.toNat) (high : a.toNat ≤ 0xf4) :
    ∃ front tail n, a :: rest = front ++ tail ∧ Sequence front n ∧ c = Char.ofNat n ∧ size = front.length := by
  rw [next, sequenceSize?_four low high] at h
  rcases rest with _ | ⟨b, rest⟩
  · cases h
  by_cases second : allowsSecond a b = true
  · rcases rest with _ | ⟨d, rest⟩
    · simp [second] at h
    by_cases third : isContinuation d = true
    · rcases rest with _ | ⟨e, rest⟩
      · simp [second, third] at h
      by_cases fourth : isContinuation e = true
      · simp only [second, third, fourth, Bool.not_true, Bool.false_eq_true, if_false, Nat.reduceEqDiff,
          Front.char.injEq] at h
        obtain ⟨rfl, rfl⟩ := h
        exact ⟨[a, b, d, e], rest, _, rfl, .four low high second third fourth, rfl, rfl⟩
      · simp [second, third, fourth] at h
    · simp [second, third] at h
  · simp [second] at h

end Read

/-- A character that is read stands there as a sequence. -/
theorem sequence_of_next {bytes : List UInt8} {c : Char} {size : Nat} (h : next bytes = .char c size) :
    ∃ front rest n, bytes = front ++ rest ∧ Sequence front n ∧ c = Char.ofNat n ∧ size = front.length := by
  cases bytes with
  | nil => cases h
  | cons a rest =>
    by_cases one : a.toNat < 0x80
    · rw [next, sequenceSize?_one one] at h
      cases h
      exact ⟨[a], rest, _, rfl, .one one, rfl, rfl⟩
    by_cases two : 0xc2 ≤ a.toNat ∧ a.toNat ≤ 0xdf
    · exact sequence_of_next_two h two.1 two.2
    by_cases three : 0xe0 ≤ a.toNat ∧ a.toNat ≤ 0xef
    · exact sequence_of_next_three h three.1 three.2
    by_cases four : 0xf0 ≤ a.toNat ∧ a.toNat ≤ 0xf4
    · exact sequence_of_next_four h four.1 four.2
    -- No other byte starts a sequence.
    rw [next, sequenceSize?_eq, if_neg one, if_neg two, if_neg three, if_neg four] at h
    cases h

@[simp] theorem encode_nil : encode [] = [] := rfl

@[simp] theorem encode_cons (c : Char) (text : List Char) :
    encode (c :: text) = encodeChar c ++ encode text := rfl

@[simp] theorem encode_append (text more : List Char) :
    encode (text ++ more) = encode text ++ encode more :=
  List.flatMap_append

theorem next_encodeChar_append (c : Char) (tail : List UInt8) :
    next (encodeChar c ++ tail) = .char c (encodeChar c).length := by
  rw [(sequence_encodeChar c).next_append, Char.ofNat_toNat]

theorem encodeChar_ne_nil (c : Char) : encodeChar c ≠ [] := (sequence_encodeChar c).ne_nil

theorem eq_nil_of_next {bytes : List UInt8} (h : next bytes = .done) : bytes = [] := by
  cases bytes with
  | nil => rfl
  | cons a rest =>
    unfold next at h
    dsimp only at h
    repeat' split at h
    all_goals cases h

/-- A character that is read is the first of the text. -/
theorem decodeFront_encodeChar_append (position : Nat) (c : Char) (tail : List UInt8) :
    decodeFront position (encodeChar c ++ tail) =
      (c :: (decodeFront (position + (encodeChar c).length) tail).1,
        (decodeFront (position + (encodeChar c).length) tail).2) := by
  have first := next_encodeChar_append c tail
  obtain ⟨a, rest, shape⟩ := List.exists_cons_of_ne_nil (encodeChar_ne_nil c)
  rw [shape] at first ⊢
  rw [List.cons_append] at first ⊢
  rw [decodeFront, first]
  simp [Nat.add_assoc]

/-- The bytes of a text are decoded to the text, whatever follows them. -/
theorem decodeFront_encode_append (position : Nat) (text : List Char) (tail : List UInt8) :
    decodeFront position (encode text ++ tail) =
      (text ++ (decodeFront (position + (encode text).length) tail).1,
        (decodeFront (position + (encode text).length) tail).2) := by
  induction text generalizing position with
  | nil => simp
  | cons c text ih =>
    rw [encode_cons, List.append_assoc, decodeFront_encodeChar_append, ih]
    simp [Nat.add_assoc]

/-- What is decoded are the bytes of the text, up to where decoding stops. -/
theorem eq_encode_append_of_decodeFront {position : Nat} {bytes : List UInt8} {text : List Char}
    {stop : Stop} (h : decodeFront position bytes = (text, stop)) :
    ∃ rest, bytes = encode text ++ rest ∧ stop = ⟨next rest, position + (encode text).length⟩ ∧
      ∀ c size, next rest ≠ .char c size := by
  fun_induction decodeFront position bytes generalizing text stop with
  | case1 position =>
    cases h
    exact ⟨[], rfl, rfl, nofun⟩
  | case2 position a rest c size read chars stop' decoded ih =>
    cases h
    obtain ⟨front, back, n, shape, whole, rfl, length⟩ := sequence_of_next read
    rw [Nat.succ_eq_add_one] at length
    have tail : rest.drop size = back := by
      have dropped : (a :: rest).drop (size + 1) = back := by rw [shape, length, List.drop_left]
      exact dropped
    obtain ⟨rest', eq, rfl, ends⟩ := ih decoded
    refine ⟨rest', ?_, ?_, ends⟩
    · rw [shape, encode_cons, ← whole.eq_encodeChar, ← tail, eq, List.append_assoc]
    · rw [encode_cons, ← whole.eq_encodeChar, List.length_append, ← length]
      simp only [Nat.add_assoc]
  | case3 position a rest unread =>
    cases h
    refine ⟨a :: rest, rfl, rfl, fun c size read => ?_⟩
    obtain ⟨front, back, n, -, whole, -, length⟩ := sequence_of_next read
    cases size with
    | zero => exact absurd (List.eq_nil_of_length_eq_zero length.symm) whole.ne_nil
    | succ size => exact unread c size read

/-- A cut of the bytes of a text is a cut of the text, with perhaps a cut character between. -/
theorem exists_cut_of_append_eq_encode {front back : List UInt8} {text : List Char}
    (h : front ++ back = encode text) :
    ∃ done rest pending, text = done ++ rest ∧ front = encode done ++ pending ∧
      pending ++ back = encode rest ∧ (pending = [] ∨ next pending = .cut pending.length) := by
  induction text generalizing front with
  | nil =>
    obtain ⟨rfl, rfl⟩ := List.append_eq_nil_iff.1 h
    exact ⟨[], [], [], rfl, rfl, rfl, .inl rfl⟩
  | cons c text ih =>
    rw [encode_cons, List.append_eq_append_iff] at h
    rcases h with ⟨back', whole, rfl⟩ | ⟨front', rfl, rest⟩
    · by_cases empty : back' = []
      · subst empty
        rw [List.append_nil] at whole
        exact ⟨[c], text, [], rfl, by simp [whole], rfl, .inl rfl⟩
      · refine ⟨[], c :: text, front, rfl, rfl, by simp [whole], ?_⟩
        by_cases start : front = []
        · exact .inl start
        · exact .inr ((sequence_encodeChar c).next_cut whole start empty)
    · obtain ⟨done, rest', pending, rfl, rfl, eq, cut⟩ := ih rest.symm
      exact ⟨c :: done, rest', pending, rfl, by simp, eq, cut⟩

/-- Characters are told apart by the start of what is written. -/
theorem isPrefix_of_encode {text more : List Char} (h : encode text <+: encode more) : text <+: more := by
  induction text generalizing more with
  | nil => exact List.nil_prefix
  | cons c text ih =>
    obtain ⟨back, whole⟩ := h
    rw [encode_cons, List.append_assoc] at whole
    cases more with
    | nil => exact absurd (List.append_eq_nil_iff.1 whole).1 (encodeChar_ne_nil c)
    | cons d more =>
      have front := (sequence_encodeChar c).next_append (encode text ++ back)
      rw [whole, encode_cons, (sequence_encodeChar d).next_append, Char.ofNat_toNat, Char.ofNat_toNat] at front
      obtain ⟨rfl, -⟩ := Front.char.inj front
      rw [encode_cons] at whole
      exact List.cons_prefix_cons.2 ⟨rfl, ih ⟨back, List.append_cancel_left whole⟩⟩

end MatlabTidy.Utf8
