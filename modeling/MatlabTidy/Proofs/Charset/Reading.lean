import MatlabTidy.Charset.Reader
import MatlabTidy.Proofs.Charset.Utf8
import MatlabTidy.Proofs.Text.Lines
import Mathlib.Data.List.TakeWhile

/-!
# What is written is read again

`Charset.Writes` relates a text to its bytes, the byte order mark aside, and `Decoder.Reads` says what
a decoder has still to read. One more chunk brings a decoder on (`Decoder.Reads.feed`), so a file is
delivered as the lines of its text wherever the chunks cut it (`Decoder.Reads.read`). A file that was
written is such a file (`Charset.reads_of_encodeAll`), and so is one that can be decoded in an encoding
without a mark of its own (`Charset.writes_of_decode`).
-/

namespace MatlabTidy

namespace Charset

/-- The character of a byte in an encoding of one byte to a character. -/
def charOf (b : UInt8) : Char := Char.ofNat b.toNat

/-- The bytes stand for the text, without a mark in front. -/
def Writes (charset : Charset) (bytes : List UInt8) (text : List Char) : Prop :=
  match charset with
  | .utf8 | .utf8Marked => bytes = Utf8.encode text
  | .ascii | .latin1 => text = bytes.map charOf ∧ ∀ b ∈ bytes, b.toNat < charset.size

variable {charset : Charset} {bytes more : List UInt8} {text others : List Char}

theorem toNat_charOf (b : UInt8) : (charOf b).toNat = b.toNat :=
  Utf8.toNat_ofNat (.inl (Nat.lt_trans b.toNat_lt (by decide)))

theorem charOf_toUInt8 {c : Char} (h : c.toNat < 256) : charOf c.toNat.toUInt8 = c := by
  rw [charOf, Utf8.toNat_toUInt8 h, Char.ofNat_toNat]

theorem toUInt8_charOf (b : UInt8) : (charOf b).toNat.toUInt8 = b :=
  (Utf8.eq_toUInt8 (toNat_charOf b).symm).symm

theorem writes_nil (charset : Charset) : charset.Writes [] [] := by
  cases charset <;> simp [Writes]

/-- One byte stands for one character. -/
theorem writes_single_iff (kind : charset = .ascii ∨ charset = .latin1) :
    charset.Writes bytes text ↔ text = bytes.map charOf ∧ ∀ b ∈ bytes, b.toNat < charset.size := by
  rcases kind with rfl | rfl
  · exact Iff.rfl
  · exact Iff.rfl

theorem Writes.append (h : charset.Writes bytes text) (h' : charset.Writes more others) :
    charset.Writes (bytes ++ more) (text ++ others) := by
  cases charset with
  | utf8 | utf8Marked =>
    rw [Writes] at *
    rw [h, h', Utf8.encode_append]
  | ascii | latin1 =>
    obtain ⟨rfl, range⟩ := h
    obtain ⟨rfl, range'⟩ := h'
    refine ⟨(List.map_append).symm, fun b hb => ?_⟩
    rcases List.mem_append.1 hb with hb | hb
    · exact range b hb
    · exact range' b hb

/-- A text has one sequence of bytes. -/
theorem Writes.unique (h : charset.Writes bytes text) (h' : charset.Writes more text) : bytes = more := by
  cases charset with
  | utf8 | utf8Marked => exact Eq.trans h (Eq.symm h')
  | ascii | latin1 =>
    have back : ∀ bytes : List UInt8, (bytes.map charOf).map (fun c => c.toNat.toUInt8) = bytes := by
      intro bytes
      rw [List.map_map]
      exact (List.map_congr_left fun b _ => toUInt8_charOf b).trans (List.map_id _)
    rw [← back bytes, ← back more, ← h.1, ← h'.1]

/-- A list behind whose front of good elements nothing is left has only good elements. -/
theorem takeWhile_eq_self_of_drop {α : Type} {good : α → Bool} {xs : List α}
    (h : xs.drop (xs.takeWhile good).length = []) : xs.takeWhile good = xs := by
  have joined := List.take_append_drop (xs.takeWhile good).length xs
  rwa [h, List.append_nil, ← List.prefix_iff_eq_take.1 ( List.takeWhile_prefix good)] at joined

/-- A text of characters of one byte each is written byte by byte. -/
theorem writes_of_encodeBytes (small : charset.size ≤ 256) (h : charset.encodeBytes text = .ok bytes) :
    text = bytes.map charOf ∧ ∀ b ∈ bytes, b.toNat < charset.size := by
  unfold encodeBytes at h
  dsimp only at h
  split at h
  · rename_i all
    cases h
    have whole := takeWhile_eq_self_of_drop all
    have range := List.takeWhile_eq_self_iff.1 whole
    rw [whole, List.map_map]
    constructor
    · have same : ∀ c ∈ text, (charOf ∘ fun c : Char => c.toNat.toUInt8) c = c := by
        intro c hc
        have hc := of_decide_eq_true (range c hc)
        exact charOf_toUInt8 (by omega)
      exact ((List.map_congr_left same).trans (List.map_id' _)).symm
    · intro b hb
      obtain ⟨c, hc, rfl⟩ := List.mem_map.1 hb
      have hc := of_decide_eq_true (range c hc)
      rwa [Utf8.toNat_toUInt8 (by omega)]
  · cases h

/-- What is written behind other texts stands for the text. -/
theorem writes_of_encode (h : charset.encode false text = .ok bytes) : charset.Writes bytes text := by
  cases charset with
  | utf8 =>
    cases h
    rfl
  | utf8Marked =>
    cases h
    rfl
  | ascii => exact writes_of_encodeBytes (by decide) h
  | latin1 => exact writes_of_encodeBytes (by decide) h

/-- The texts that are written one after the other are one text. -/
theorem writes_of_encodeAll {texts : List (List Char)} (h : charset.encodeAll false texts = .ok bytes) :
    charset.Writes bytes texts.flatten := by
  induction texts generalizing bytes with
  | nil =>
    cases h
    exact writes_nil charset
  | cons text texts ih =>
    rw [encodeAll] at h
    cases first : charset.encode false text with
    | error e =>
      rw [first] at h
      cases h
    | ok bytes₁ =>
      cases rest : charset.encodeAll false texts with
      | error e =>
        rw [first, rest] at h
        cases h
      | ok bytes₂ =>
        rw [first, rest] at h
        cases h
        exact (writes_of_encode first).append (ih rest)

end Charset

namespace Decoder

/-- The decoder has the bytes still to come, and they make the text for it. -/
inductive Reads : Decoder → List UInt8 → List Char → Prop where
  /-- UTF-8 behind the mark, or without one, with the start of a character read before. -/
  | inside {charset : Charset} {pending bytes : List UInt8} {fresh : Bool} {text : List Char}
      (kind : charset = .utf8 ∨ charset = .utf8Marked ∧ fresh = false)
      (coded : pending ++ bytes = Utf8.encode text) : Reads ⟨charset, pending, fresh⟩ bytes text
  /-- UTF-8 with the mark still to come, at least the end of it. -/
  | marked {pending bytes : List UInt8} {text : List Char}
      (coded : pending ++ bytes = markBytes ++ Utf8.encode text) :
      Reads ⟨.utf8Marked, pending, true⟩ bytes text
  /-- Nothing, not even a mark. -/
  | empty : Reads ⟨.utf8Marked, [], true⟩ [] []
  /-- An encoding of one byte to a character. -/
  | single {charset : Charset} {bytes : List UInt8} {fresh : Bool} {text : List Char}
      (kind : charset = .ascii ∨ charset = .latin1) (coded : charset.Writes bytes text) :
      Reads ⟨charset, [], fresh⟩ bytes text

/-- A chunk of UTF-8 is decoded up to a character that it cuts. -/
theorem feedUtf8_of_append (d : Decoder) {data rest : List UInt8} {text : List Char}
    (h : data ++ rest = Utf8.encode text) :
    ∃ chars others pending, d.feedUtf8 data false = .ok (chars, ⟨d.charset, pending, false⟩) ∧
      text = chars ++ others ∧ pending ++ rest = Utf8.encode others := by
  obtain ⟨chars, others, pending, rfl, rfl, coded, cut⟩ := Utf8.exists_cut_of_append_eq_encode h
  refine ⟨chars, others, pending, ?_, rfl, coded⟩
  rw [feedUtf8, Utf8.decodeFront_encode_append]
  rcases cut with rfl | cut
  · simp [Utf8.decodeFront]
  · obtain ⟨b, pending, rfl⟩ := List.exists_cons_of_ne_nil
      (show pending ≠ [] by rintro rfl; cases cut)
    rw [Utf8.decodeFront, cut]
    simp

/-- The last chunk of UTF-8 is decoded as a whole. -/
theorem feedUtf8_final (d : Decoder) (text : List Char) :
    d.feedUtf8 (Utf8.encode text) true = .ok (text, ⟨d.charset, [], false⟩) := by
  have whole := Utf8.decodeFront_encode_append 0 text []
  rw [List.append_nil] at whole
  rw [feedUtf8, whole]
  simp [Utf8.decodeFront]

/-- An encoding of one byte to a character is decoded byte by byte. -/
theorem feed_single {charset : Charset} (kind : charset = .ascii ∨ charset = .latin1) (fresh final : Bool)
    {chunk : List UInt8} (range : ∀ b ∈ chunk, b.toNat < charset.size) :
    (⟨charset, [], fresh⟩ : Decoder).feed chunk final =
      .ok (chunk.map Charset.charOf, ⟨charset, [], fresh⟩) := by
  rcases kind with rfl | rfl
  · have all : chunk.takeWhile (fun b => decide (b < 0x80)) = chunk := by
      refine List.takeWhile_eq_self_iff.2 fun b hb => ?_
      exact decide_eq_true (UInt8.lt_iff_toNat_lt.2 (range b hb))
    simp only [feed]
    rw [all, List.drop_length]
    rfl
  · rfl

namespace Reads

variable {d : Decoder} {chunk rest : List UInt8} {text : List Char}

/-- A chunk ends within the mark or behind it. -/
theorem feed_marked {pending : List UInt8} (coded : pending ++ chunk ++ rest = markBytes ++ Utf8.encode text) :
    ∃ chars d' others, (⟨.utf8Marked, pending, true⟩ : Decoder).feed chunk false = .ok (chars, d') ∧
      text = chars ++ others ∧ d'.Reads rest others := by
  have whole : pending ++ chunk <+: markBytes ++ Utf8.encode text := ⟨rest, coded⟩
  by_cases short : (pending ++ chunk).length < 3
  · -- What there is of the mark is kept.
    have start : (pending ++ chunk).isPrefixOf markBytes = true := by
      rw [List.isPrefixOf_iff_prefix]
      exact List.prefix_of_prefix_length_le whole ( List.prefix_append _ _) (Nat.le_of_lt short)
    refine ⟨[], ⟨.utf8Marked, pending ++ chunk, true⟩, text, ?_, rfl, .marked coded⟩
    simp only [Decoder.feed, short, start, decide_true, Bool.and_self, if_true]
  · obtain ⟨data, shape⟩ : markBytes <+: pending ++ chunk :=
      List.prefix_of_prefix_length_le ( List.prefix_append _ _) whole (Nat.not_lt.1 short)
    have body : data ++ rest = Utf8.encode text := by
      rw [← shape, List.append_assoc] at coded
      exact List.append_cancel_left coded
    have dropped : (pending ++ chunk).drop 3 = data := by
      rw [← shape]
      rfl
    have front : markBytes.isPrefixOf (pending ++ chunk) = true := by
      rw [List.isPrefixOf_iff_prefix]
      exact ⟨data, shape⟩
    obtain ⟨chars, others, pending', fed, rfl, coded'⟩ :=
      feedUtf8_of_append ⟨.utf8Marked, pending, true⟩ body
    refine ⟨chars, _, others, ?_, rfl, .inside (.inr ⟨rfl, rfl⟩) coded'⟩
    simp only [Decoder.feed, short, front, decide_false, Bool.and_false, Bool.false_and, Bool.and_self,
      Bool.false_eq_true, if_false, if_true, dropped]
    exact fed

/-- One more chunk brings the decoder on. -/
theorem feed (h : d.Reads (chunk ++ rest) text) :
    ∃ chars d' others, d.feed chunk false = .ok (chars, d') ∧ text = chars ++ others ∧
      d'.Reads rest others := by
  generalize hbytes : chunk ++ rest = bytes at h
  cases h with
  | @inside charset pending _ fresh _ kind coded =>
    subst hbytes
    rw [← List.append_assoc] at coded
    obtain ⟨chars, others, pending', fed, rfl, coded'⟩ :=
      feedUtf8_of_append ⟨charset, pending, fresh⟩ coded
    refine ⟨chars, _, others, ?_, rfl, .inside (kind.imp id fun h => ⟨h.1, rfl⟩) coded'⟩
    rcases kind with rfl | ⟨rfl, rfl⟩
    · exact fed
    · exact fed
  | @marked pending _ _ coded =>
    subst hbytes
    rw [← List.append_assoc] at coded
    exact feed_marked coded
  | empty =>
    obtain ⟨rfl, rfl⟩ := List.append_eq_nil_iff.1 hbytes
    exact ⟨[], ⟨.utf8Marked, [], true⟩, [], rfl, rfl, .empty⟩
  | @single charset _ fresh _ kind coded =>
    subst hbytes
    obtain ⟨rfl, range⟩ := (Charset.writes_single_iff kind).1 coded
    have left := fun b hb => range b (List.mem_append_left _ hb)
    have right := fun b hb => range b (List.mem_append_right _ hb)
    refine ⟨_, _, rest.map Charset.charOf, feed_single kind fresh false left, List.map_append, ?_⟩
    exact .single kind ((Charset.writes_single_iff kind).2 ⟨rfl, right⟩)

/-- The last chunk brings the decoder to the end of the text. -/
theorem feed_final (h : d.Reads chunk text) : ∃ d', d.feed chunk true = .ok (text, d') := by
  cases h with
  | @inside charset pending _ fresh _ kind coded =>
    refine ⟨⟨charset, [], false⟩, ?_⟩
    rcases kind with rfl | ⟨rfl, rfl⟩
    · simp only [Decoder.feed, coded]
      exact feedUtf8_final _ text
    · simp only [Decoder.feed, coded, Bool.false_and, Bool.false_eq_true, if_false]
      exact feedUtf8_final _ text
  | @marked pending _ _ coded =>
    refine ⟨⟨.utf8Marked, [], false⟩, ?_⟩
    have long : ¬ (markBytes ++ Utf8.encode text).length < 3 := by
      rw [List.length_append]
      exact Nat.not_lt.2 (Nat.le_add_right 3 _)
    have front : markBytes.isPrefixOf (markBytes ++ Utf8.encode text) = true := by
      rw [List.isPrefixOf_iff_prefix]
      exact List.prefix_append _ _
    have dropped : (markBytes ++ Utf8.encode text).drop 3 = Utf8.encode text := rfl
    simp only [Decoder.feed, coded, long, front, decide_false, Bool.and_false, Bool.false_and,
      Bool.and_self, Bool.false_eq_true, if_false, if_true, dropped]
    exact feedUtf8_final _ text
  | empty => exact ⟨_, rfl⟩
  | @single charset _ fresh _ kind coded =>
    obtain ⟨rfl, range⟩ := (Charset.writes_single_iff kind).1 coded
    exact ⟨_, feed_single kind fresh true range⟩

/-- Chunk by chunk, all lines of the text are delivered. -/
theorem deliver {chunks : List (List UInt8)} (h : d.Reads chunks.flatten text) (front : List Char) :
    d.deliver front chunks = ⟨Text.rawLines (front ++ text), none⟩ := by
  induction chunks generalizing d text front with
  | nil =>
    obtain ⟨d', fed⟩ := h.feed_final
    rw [Decoder.deliver, List.flatten_nil] at *
    rw [fed]
  | cons chunk chunks ih =>
    rw [List.flatten_cons] at h
    obtain ⟨chars, d', others, fed, rfl, h'⟩ := h.feed
    rw [Decoder.deliver, fed]
    simp only [ih h', List.append_assoc]

end Reads

end Decoder

/-- The chunks of a file make up the file. -/
@[simp] theorem flatten_chunks (bytes : List UInt8) : (chunks bytes).flatten = bytes := by
  fun_induction chunks bytes with
  | case1 => rfl
  | case2 b rest ih => rw [List.flatten_cons, ih, List.take_append_drop]

namespace Decoder

variable {charset : Charset} {bytes : List UInt8} {text : List Char}

/-- A file is delivered as the lines of its text. -/
theorem Reads.read (h : (start charset).Reads bytes text) :
    charset.read bytes = ⟨Text.rawLines text, none⟩ := by
  rw [← flatten_chunks bytes] at h
  exact h.deliver []

theorem Reads.decode (h : (start charset).Reads bytes text) : charset.decode bytes = .ok text := by
  obtain ⟨d, fed⟩ := h.feed_final
  rw [Charset.decode, fed]
  rfl

/-- What a decoder delivers to the end are the lines of a text. -/
theorem exists_text_of_deliver {d : Decoder} {front : List Char} {chunks : List (List UInt8)}
    (h : (d.deliver front chunks).failure = none) :
    ∃ text, (d.deliver front chunks).lines = Text.rawLines text := by
  induction chunks generalizing d front with
  | nil =>
    rw [deliver] at h ⊢
    split at h
    · exact ⟨_, rfl⟩
    · cases h
  | cons chunk chunks ih =>
    rw [deliver] at h ⊢
    split at h
    · exact ih h
    · cases h

end Decoder

namespace Charset

variable {charset : Charset} {bytes : List UInt8} {text : List Char}

/-- A file that delivers all of its lines delivers those of a text. -/
theorem exists_lines_of_read (h : (charset.read bytes).failure = none) :
    ∃ lines, Text.WellCut lines ∧ (charset.read bytes).lines = lines.map Text.Line.raw := by
  obtain ⟨text, delivered⟩ := Decoder.exists_text_of_deliver h
  obtain ⟨lines, cut, eq⟩ := Text.exists_wellCut text
  exact ⟨lines, cut, delivered.trans eq⟩

theorem reads_of_writes (plain : charset ≠ .utf8Marked) (h : charset.Writes bytes text) :
    (Decoder.start charset).Reads bytes text := by
  cases charset with
  | utf8 => exact .inside (.inl rfl) h
  | utf8Marked => exact absurd rfl plain
  | ascii => exact .single (.inl rfl) h
  | latin1 => exact .single (.inr rfl) h

/-- In an encoding without a mark of its own it does not matter what was written before. -/
theorem encodeAll_plain (plain : charset ≠ .utf8Marked) (texts : List (List Char)) :
    charset.encodeAll true texts = charset.encodeAll false texts := by
  have same : ∀ text, charset.encode true text = charset.encode false text := by
    intro text
    cases charset with
    | utf8Marked => exact absurd rfl plain
    | utf8 | ascii | latin1 => rfl
  cases texts with
  | nil => rfl
  | cons text texts => rw [encodeAll, encodeAll, same]

/-- A file that was written is read again. -/
theorem reads_of_encodeAll {texts : List (List Char)} (h : charset.encodeAll true texts = .ok bytes) :
    (Decoder.start charset).Reads bytes texts.flatten := by
  by_cases plain : charset = .utf8Marked
  · subst plain
    cases texts with
    | nil =>
      cases h
      exact .empty
    | cons text texts =>
      rw [encodeAll] at h
      cases rest : Charset.utf8Marked.encodeAll false texts with
      | error e =>
        rw [rest] at h
        cases h
      | ok more =>
        rw [rest] at h
        cases h
        have others : more = Utf8.encode texts.flatten := writes_of_encodeAll rest
        refine .marked ?_
        rw [List.flatten_cons, Utf8.encode_append, others]
        simp
  · rw [encodeAll_plain plain] at h
    exact reads_of_writes plain (writes_of_encodeAll h)

/-- Lines that were written are delivered again. -/
theorem read_of_encodeAll {lines : List Text.Line} (cut : Text.WellCut lines)
    (h : charset.encodeAll true (lines.map Text.Line.raw) = .ok bytes) :
    charset.read bytes = ⟨lines.map Text.Line.raw, none⟩ := by
  rw [(reads_of_encodeAll h).read, Text.rawLines_flatten cut]

/-- UTF-8 that is decoded to its end is the bytes of the text. -/
theorem eq_encode_of_feedUtf8 {d d' : Decoder} (h : d.feedUtf8 bytes true = .ok (text, d')) :
    bytes = Utf8.encode text := by
  unfold Decoder.feedUtf8 at h
  obtain ⟨⟨chars, stop⟩, decoded⟩ : ∃ result, Utf8.decodeFront 0 bytes = result := ⟨_, rfl⟩
  obtain ⟨rest, shape, rfl, unread⟩ := Utf8.eq_encode_append_of_decodeFront decoded
  rw [decoded] at h
  dsimp only at h
  generalize hfront : Utf8.next rest = front at h
  cases front with
  | done =>
    cases h
    rw [shape, Utf8.eq_nil_of_next hfront, List.append_nil]
  | char c size => exact absurd hfront (unread c size)
  | badStart => cases h
  | badContinuation size => cases h
  | cut size => cases h

/-- What one byte to a character decodes stands for the bytes, and nothing is kept for later. -/
theorem writes_of_feed {pending chunk : List UInt8} {chars : List Char} {d : Decoder} {fresh final : Bool}
    (kind : charset = .ascii ∨ charset = .latin1)
    (fed : (⟨charset, pending, fresh⟩ : Decoder).feed chunk final = .ok (chars, d)) :
    charset.Writes chunk chars ∧ d = ⟨charset, pending, fresh⟩ := by
  rcases kind with rfl | rfl
  · simp only [Decoder.feed] at fed
    split at fed
    · rename_i all
      cases fed
      have whole := takeWhile_eq_self_of_drop all
      have range := List.takeWhile_eq_self_iff.1 whole
      rw [whole]
      exact ⟨⟨rfl, fun b mem => UInt8.lt_iff_toNat_lt.1 (of_decide_eq_true (range b mem))⟩, rfl⟩
    · cases fed
  · cases fed
    exact ⟨⟨rfl, fun b _ => b.toNat_lt⟩, rfl⟩

/-- A file that can be decoded holds the bytes of its text. -/
theorem writes_of_decode (plain : charset ≠ .utf8Marked) (h : charset.decode bytes = .ok text) :
    charset.Writes bytes text := by
  rw [decode] at h
  cases fed : (Decoder.start charset).feed bytes true with
  | error e =>
    rw [fed] at h
    cases h
  | ok result =>
    obtain ⟨chars, d⟩ := result
    rw [fed] at h
    cases h
    cases charset with
    | utf8Marked => exact absurd rfl plain
    | utf8 => exact eq_encode_of_feedUtf8 fed
    | ascii => exact (writes_of_feed (.inl rfl) fed).1
    | latin1 => exact (writes_of_feed (.inr rfl) fed).1

end Charset

end MatlabTidy
