import MatlabTidy.Proofs.Charset.Marked
import Mathlib.Data.List.Induction

/-!
# Reading is lossless

`Charset.Decodes` relates the bytes of a file to its text, a mark at the start left out, and a file has a longest
part, from its start, that decodes (`Charset.LongestDecodable`). `Decoder.Holds` says what a decoder has made of
the bytes so far; each chunk keeps it (`Decoder.Holds.feed`), so it tells how the file is delivered, wherever the
chunks end (`Charset.Delivers`). The lines that are complete at some point stay as they are whatever follows
(`completeLines_isPrefix`). So no line of a file that decodes is lost or cut, and of another file the first lines
are delivered, and an error (`Charset.read_lossless`).
-/

namespace MatlabTidy

/-- The lines that are complete stay as they are whatever follows. -/
theorem completeLines_isPrefix (text more : List Char) : completeLines text <+: Text.rawLines (text ++ more) := by
  unfold completeLines withoutFinalReturn
  split
  · rename_i last
    obtain ⟨front, rfl⟩ := List.getLast?_eq_some_iff.1 last
    rw [List.dropLast_concat, List.append_assoc]
    exact Text.takeWhile_rawLines_isPrefix fun _ => by simp
  · rename_i last
    exact Text.takeWhile_rawLines_isPrefix fun ret => absurd ret last

namespace Charset

variable {charset : Charset} {bytes front : List UInt8} {text more : List Char}

/-- The bytes are those of the text. In UTF-8 with a mark, a mark at the start is not part of the text. -/
inductive Decodes : Charset → List UInt8 → List Char → Prop where
  | plain {charset : Charset} {bytes : List UInt8} {text : List Char} (plain : charset ≠ .utf8Marked)
      (coded : charset.Writes bytes text) : Decodes charset bytes text
  | marked (text : List Char) : Decodes .utf8Marked (markBytes ++ Utf8.encode text) text
  | unmarked {text : List Char} (none : ¬ markBytes <+: Utf8.encode text) :
      Decodes .utf8Marked (Utf8.encode text) text

theorem ne_marked_of_single (kind : charset = .ascii ∨ charset = .latin1) : charset ≠ .utf8Marked := by
  rcases kind with rfl | rfl
  · exact nofun
  · exact nofun

theorem markBytes_eq : markBytes = Utf8.encode [byteOrderMark] := by decide

/-- No text but the empty one is written as a part of a mark. -/
theorem eq_nil_of_isPrefix_mark (start : Utf8.encode text <+: markBytes) (none : ¬ markBytes <+: Utf8.encode text) :
    text = [] := by
  rw [markBytes_eq] at start
  rcases List.prefix_concat_iff.1 (Utf8.isPrefix_of_encode start : text <+: [] ++ [byteOrderMark]) with
    rfl | empty
  · exact absurd (markBytes_eq ▸ List.prefix_rfl) none
  · exact List.prefix_nil.1 empty

theorem decodes_nil (charset : Charset) : charset.Decodes [] [] := by
  by_cases plain : charset = .utf8Marked
  · subst plain
    exact @Decodes.unmarked [] (by decide)
  · exact .plain plain (writes_nil charset)

/-- The start of a file is the start of its text. -/
theorem Decodes.isPrefix (h : charset.Decodes front text) (h' : charset.Decodes bytes more) (start : front <+: bytes) :
    text <+: more := by
  cases h with
  | plain plain coded =>
    cases h' with
    | plain _ coded' =>
      cases charset with
      | utf8Marked => exact absurd rfl plain
      | utf8 =>
        cases coded
        cases coded'
        exact Utf8.isPrefix_of_encode start
      | ascii | latin1 =>
        obtain ⟨rfl, -⟩ := coded
        obtain ⟨rfl, -⟩ := coded'
        exact start.map _
    | marked => exact absurd rfl plain
    | unmarked => exact absurd rfl plain
  | marked =>
    cases h' with
    | plain plain _ => exact absurd rfl plain
    | marked => exact Utf8.isPrefix_of_encode ((List.prefix_append_right_inj _).1 start)
    | unmarked none => exact absurd ((List.prefix_append _ _).trans start) none
  | unmarked none =>
    cases h' with
    | plain plain _ => exact absurd rfl plain
    | marked =>
      rcases List.prefix_or_prefix_of_prefix start (List.prefix_append _ _) with short | long
      · rw [eq_nil_of_isPrefix_mark short none]
        exact List.nil_prefix
      · exact absurd long none
    | unmarked => exact Utf8.isPrefix_of_encode start

/-- The start of a mark is not the bytes of a text. -/
theorem not_decodes_of_isCutMark (cut : IsCutMark bytes) (ne : bytes ≠ []) :
    ¬ Charset.utf8Marked.Decodes bytes text := by
  intro decodes
  cases decodes with
  | plain plain _ => exact absurd rfl plain
  | marked => exact not_isCutMark_mark _ cut
  | unmarked none =>
    rw [eq_nil_of_isPrefix_mark cut.2 none] at ne
    exact ne rfl

/-- A file that decodes is delivered as the lines of its text. -/
theorem Decodes.read (h : charset.Decodes bytes text) : charset.read bytes = ⟨Text.rawLines text, none⟩ := by
  cases h with
  | plain plain coded => exact (reads_of_writes plain coded).read
  | marked => exact ReadsMarked.read (.marked rfl)
  | unmarked none =>
    by_cases cut : IsCutMark (Utf8.encode text)
    · rw [eq_nil_of_isPrefix_mark cut.2 none]
      exact ReadsMarked.read (.cut ⟨by decide, List.nil_prefix⟩)
    · exact ReadsMarked.read (.unmarked rfl cut none)

end Charset

namespace Decoder

open Charset (Decodes IsCutMark)

variable {charset : Charset} {pending data read chunk : List UInt8} {text chars : List Char} {d d' : Decoder}

/-- Where no mark can come any more, everything is UTF-8. -/
theorem feed_inside (final : Bool) :
    (⟨.utf8Marked, pending, false⟩ : Decoder).feed chunk final =
      feedUtf8 ⟨.utf8Marked, pending, false⟩ (pending ++ chunk) final := by
  simp only [feed, Bool.false_and, Bool.false_eq_true, if_false]

/-- No mark comes once the bytes are neither a mark nor the start of one. -/
theorem no_mark_append (uncut : ¬ IsCutMark data) (none : ¬ markBytes <+: data) (more : List UInt8) :
    ¬ markBytes <+: data ++ more := by
  intro mark
  rcases List.prefix_or_prefix_of_prefix mark (List.prefix_append data more) with whole | start
  · exact none whole
  · by_cases short : data.length < 3
    · exact uncut ⟨short, start⟩
    · exact none (start.eq_of_length_le (Nat.not_lt.1 short) ▸ List.prefix_rfl)

/-- What UTF-8 leaves for later stands behind the bytes of what it has decoded. -/
theorem exists_pending_of_feedUtf8 (fed : d.feedUtf8 data false = .ok (chars, d')) :
    ∃ pending, data = Utf8.encode chars ++ pending ∧ d' = ⟨d.charset, pending, false⟩ := by
  unfold feedUtf8 at fed
  obtain ⟨⟨front, stop⟩, decoded⟩ : ∃ result, Utf8.decodeFront 0 data = result := ⟨_, rfl⟩
  obtain ⟨rest, shape, rfl, unread⟩ := Utf8.eq_encode_append_of_decodeFront decoded
  have behind : data.drop (0 + (Utf8.encode front).length) = rest := by
    rw [Nat.zero_add, shape, List.drop_left]
  rw [decoded] at fed
  dsimp only at fed
  rw [behind] at fed
  cases ended : Utf8.next rest with
  | done =>
    rw [ended] at fed
    cases fed
    exact ⟨[], by rw [shape, Utf8.eq_nil_of_next ended], rfl⟩
  | char c size => exact absurd ended (unread c size)
  | badStart =>
    rw [ended] at fed
    cases fed
  | badContinuation size =>
    rw [ended] at fed
    dsimp only at fed
    split at fed
    · cases fed
      exact ⟨rest, shape, rfl⟩
    · cases fed
  | cut size =>
    rw [ended] at fed
    cases fed
    exact ⟨rest, shape, rfl⟩

/-- What a decoder has made of the bytes that it has read: their text, up to the bytes that are pending. -/
inductive Holds (read : List UInt8) : List Char → Decoder → Prop where
  /-- Before anything but the start of a mark. -/
  | waiting (cut : IsCutMark read) : Holds read [] ⟨.utf8Marked, read, true⟩
  | marked {text : List Char} {pending : List UInt8} (shape : read = markBytes ++ (Utf8.encode text ++ pending)) :
      Holds read text ⟨.utf8Marked, pending, false⟩
  | unmarked {text : List Char} {pending : List UInt8} (shape : read = Utf8.encode text ++ pending)
      (none : ∀ more, ¬ markBytes <+: read ++ more) : Holds read text ⟨.utf8Marked, pending, false⟩
  | utf8 {text : List Char} {pending : List UInt8} {fresh : Bool} (shape : read = Utf8.encode text ++ pending) :
      Holds read text ⟨.utf8, pending, fresh⟩
  | single {charset : Charset} {text : List Char} {fresh : Bool} (kind : charset = .ascii ∨ charset = .latin1)
      (coded : charset.Writes read text) : Holds read text ⟨charset, [], fresh⟩

namespace Holds

theorem start (charset : Charset) : Holds [] [] (start charset) := by
  cases charset with
  | utf8 => exact .utf8 rfl
  | utf8Marked => exact .waiting ⟨by decide, List.nil_prefix⟩
  | ascii => exact .single (.inl rfl) (Charset.writes_nil _)
  | latin1 => exact .single (.inr rfl) (Charset.writes_nil _)

/-- One more chunk brings the text on. -/
theorem feed (h : Holds read text d) (fed : d.feed chunk false = .ok (chars, d')) :
    d'.charset = d.charset ∧ Holds (read ++ chunk) (text ++ chars) d' := by
  cases h with
  | waiting cut =>
    by_cases cut' : IsCutMark (read ++ chunk)
    · rw [feed_cut cut'] at fed
      cases fed
      exact ⟨rfl, .waiting cut'⟩
    by_cases mark : markBytes <+: read ++ chunk
    · obtain ⟨rest, shape⟩ := mark
      rw [feed_mark shape.symm] at fed
      obtain ⟨pending, rfl, rfl⟩ := exists_pending_of_feedUtf8 fed
      exact ⟨rfl, .marked shape.symm⟩
    · rw [feed_unmarked cut' mark] at fed
      obtain ⟨pending, shape, rfl⟩ := exists_pending_of_feedUtf8 fed
      exact ⟨rfl, .unmarked shape (no_mark_append cut' mark)⟩
  | marked shape =>
    rw [feed_inside] at fed
    obtain ⟨pending, more, rfl⟩ := exists_pending_of_feedUtf8 fed
    refine ⟨rfl, .marked ?_⟩
    rw [shape, Utf8.encode_append, List.append_assoc, List.append_assoc, List.append_assoc, more]
  | unmarked shape none =>
    rw [feed_inside] at fed
    obtain ⟨pending, more, rfl⟩ := exists_pending_of_feedUtf8 fed
    refine ⟨rfl, .unmarked ?_ fun rest => ?_⟩
    · rw [shape, Utf8.encode_append, List.append_assoc, List.append_assoc, more]
    · rw [List.append_assoc]
      exact none _
  | utf8 shape =>
    obtain ⟨pending, more, rfl⟩ := exists_pending_of_feedUtf8 fed
    refine ⟨rfl, .utf8 ?_⟩
    rw [shape, Utf8.encode_append, List.append_assoc, List.append_assoc, more]
  | single kind coded =>
    obtain ⟨coded', rfl⟩ := Charset.writes_of_feed kind fed
    exact ⟨rfl, .single kind (coded.append coded')⟩

/-- At the end of a file nothing is pending, but the start of a mark with nothing behind it. -/
theorem feed_final (h : Holds read text d) (fed : d.feed [] true = .ok (chars, d')) :
    d.charset.Decodes read (text ++ chars) ∨ d.charset = .utf8Marked ∧ IsCutMark read ∧ text ++ chars = [] := by
  cases h with
  | waiting cut =>
    rw [feed_cut (by rwa [List.append_nil])] at fed
    cases fed
    exact .inr ⟨rfl, cut, rfl⟩
  | marked shape =>
    rw [feed_inside, List.append_nil] at fed
    rw [shape, Charset.eq_encode_of_feedUtf8 fed, ← Utf8.encode_append]
    exact .inl (.marked _)
  | unmarked shape none =>
    rw [feed_inside, List.append_nil] at fed
    rw [Charset.eq_encode_of_feedUtf8 fed, ← Utf8.encode_append] at shape
    subst shape
    exact .inl (.unmarked fun mark => none [] (by rwa [List.append_nil]))
  | @utf8 _ pending _ shape =>
    have rest : pending = Utf8.encode chars := by
      rw [← List.append_nil pending]
      exact Charset.eq_encode_of_feedUtf8 fed
    rw [rest, ← Utf8.encode_append] at shape
    exact .inl (.plain nofun shape)
  | single kind coded =>
    obtain ⟨coded', -⟩ := Charset.writes_of_feed kind fed
    exact .inl (.plain (Charset.ne_marked_of_single kind) (by simpa using coded.append coded'))

/-- The text so far is that of a part of the file. -/
theorem exists_decodes (h : Holds read text d) : ∃ front, front <+: read ∧ d.charset.Decodes front text := by
  cases h with
  | waiting => exact ⟨[], List.nil_prefix, Charset.decodes_nil _⟩
  | marked shape =>
    exact ⟨_, ⟨_, (List.append_assoc ..).trans shape.symm⟩, .marked text⟩
  | unmarked shape none =>
    refine ⟨_, ⟨_, shape.symm⟩, .unmarked fun mark => none [] ?_⟩
    rw [List.append_nil, shape]
    exact mark.trans (List.prefix_append _ _)
  | utf8 shape => exact ⟨_, ⟨_, shape.symm⟩, .plain nofun rfl⟩
  | single kind coded => exact ⟨read, List.prefix_rfl, .plain (Charset.ne_marked_of_single kind) coded⟩

end Holds

end Decoder

namespace Charset

/-- The ways in which a file is delivered. -/
inductive Delivers (charset : Charset) (bytes : List UInt8) : Delivery → Prop where
  | whole {text : List Char} (decodes : charset.Decodes bytes text) :
      Delivers charset bytes ⟨Text.rawLines text, none⟩
  /-- The start of a mark with nothing behind it is not missed. -/
  | cut (marked : charset = .utf8Marked) (cut : IsCutMark bytes) : Delivers charset bytes ⟨[], none⟩
  | broken {front : List UInt8} {text : List Char} (start : front <+: bytes) (decodes : charset.Decodes front text)
      (e : DecodeError) : Delivers charset bytes ⟨completeLines text, some e⟩

end Charset

/-- The delivery goes on from what the decoder holds. -/
theorem Decoder.Holds.delivers {charset : Charset} {read : List UInt8} {text : List Char} {d : Decoder}
    (h : Holds read text d) (same : d.charset = charset) (chunks : List (List UInt8)) :
    charset.Delivers (read ++ chunks.flatten) (d.deliver text chunks) := by
  subst same
  induction chunks generalizing read text d with
  | nil =>
    rw [deliver, List.flatten_nil, List.append_nil]
    split
    · rename_i chars d' fed
      rcases h.feed_final fed with decodes | ⟨marked, cut, none⟩
      · exact .whole decodes
      · rw [none]
        exact .cut marked cut
    · obtain ⟨front, start, decodes⟩ := h.exists_decodes
      exact .broken start decodes _
  | cons chunk chunks ih =>
    rw [deliver, List.flatten_cons, ← List.append_assoc]
    split
    · rename_i chars d' fed
      obtain ⟨same, h'⟩ := h.feed fed
      exact same ▸ ih h'
    · obtain ⟨front, start, decodes⟩ := h.exists_decodes
      refine .broken (start.trans ?_) decodes _
      rw [List.append_assoc]
      exact List.prefix_append _ _

namespace Charset

variable {charset : Charset} {bytes : List UInt8}

theorem delivers_read (charset : Charset) (bytes : List UInt8) : charset.Delivers bytes (charset.read bytes) := by
  have whole := (Decoder.Holds.start charset).delivers rfl (chunks bytes)
  rwa [List.nil_append, flatten_chunks] at whole

/-- The longest part of a file, from its start, that decodes. -/
structure LongestDecodable (charset : Charset) (bytes front : List UInt8) (text : List Char) : Prop where
  start : front <+: bytes
  decodes : charset.Decodes front text
  longest : ∀ {front' : List UInt8} {text' : List Char}, front' <+: bytes → charset.Decodes front' text' →
    front'.length ≤ front.length

theorem exists_longestDecodable (charset : Charset) (bytes : List UInt8) :
    ∃ front text, charset.LongestDecodable bytes front text := by
  induction bytes using List.reverseRecOn with
  | nil =>
    exact ⟨[], [], List.prefix_rfl, decodes_nil charset, fun start _ => start.length_le⟩
  | append_singleton bytes b ih =>
    by_cases whole : ∃ text, charset.Decodes (bytes ++ [b]) text
    · obtain ⟨text, decodes⟩ := whole
      exact ⟨_, text, List.prefix_rfl, decodes, fun start _ => start.length_le⟩
    · obtain ⟨front, text, start, decodes, longest⟩ := ih
      refine ⟨front, text, start.trans (List.prefix_append _ _), decodes, fun start' decodes' => ?_⟩
      rcases List.prefix_concat_iff.1 start' with rfl | start'
      · exact absurd ⟨_, decodes'⟩ whole
      · exact longest start' decodes'

/-- Reading loses nothing wherever the chunks of a file end. A file that decodes is delivered as the lines of its
text, each of them up to its terminator and no further. A file that does not decode is not delivered to its
end: what comes before the error are the first lines of its longest part that decodes. Only the start of a mark
with nothing behind it is taken for no text at all where it does not decode. -/
theorem read_lossless (charset : Charset) (bytes : List UInt8) :
    (∀ text, charset.Decodes bytes text →
      ∃ lines : List Text.Line, Text.WellCut lines ∧ (lines.map Text.Line.raw).flatten = text ∧
        charset.read bytes = ⟨lines.map Text.Line.raw, none⟩) ∧
    ((∀ text, ¬ charset.Decodes bytes text) → ¬ (charset = .utf8Marked ∧ IsCutMark bytes) →
      ∃ e front text, charset.LongestDecodable bytes front text ∧ (charset.read bytes).failure = some e ∧
        (charset.read bytes).lines <+: Text.rawLines text) ∧
    (charset = .utf8Marked → IsCutMark bytes → charset.read bytes = ⟨[], none⟩) := by
  refine ⟨fun text decodes => ?_, fun undecoded uncut => ?_, fun marked cut => ?_⟩
  · obtain ⟨lines, cut, same⟩ := Text.exists_wellCut text
    exact ⟨lines, cut, by rw [← same, Text.flatten_rawLines], by rw [decodes.read, same]⟩
  · obtain ⟨front, text, longest⟩ := exists_longestDecodable charset bytes
    have delivers := delivers_read charset bytes
    generalize charset.read bytes = delivery at delivers
    cases delivers with
    | whole decodes => exact absurd decodes (undecoded _)
    | cut marked cut => exact absurd ⟨marked, cut⟩ uncut
    | broken start decodes e =>
      obtain ⟨more, rfl⟩ := decodes.isPrefix longest.decodes
        (List.prefix_of_prefix_length_le start longest.start (longest.longest start decodes))
      exact ⟨e, front, _, longest, rfl, completeLines_isPrefix _ more⟩
  · subst marked
    exact ReadsMarked.read (.cut cut)

/-- A file that is text in one encoding and ends in a wrong byte in another, and half a mark. -/
theorem read_lossless_samples :
    (Charset.latin1.Decodes [0x61, 0x0d, 0x0a, 0xff] "a\r\nÿ".toList ∧
      ∃ lines : List Text.Line, Text.WellCut lines ∧ (lines.map Text.Line.raw).flatten = "a\r\nÿ".toList ∧
        Charset.latin1.read [0x61, 0x0d, 0x0a, 0xff] = ⟨lines.map Text.Line.raw, none⟩) ∧
    ((∀ text, ¬ Charset.utf8.Decodes [0x61, 0x0d, 0x0a, 0xff] text) ∧
      ∃ e front text, Charset.utf8.LongestDecodable [0x61, 0x0d, 0x0a, 0xff] front text ∧
        (Charset.utf8.read [0x61, 0x0d, 0x0a, 0xff]).failure = some e ∧
        (Charset.utf8.read [0x61, 0x0d, 0x0a, 0xff]).lines <+: Text.rawLines text) ∧
    IsCutMark [0xef, 0xbb] ∧ Charset.utf8Marked.read [0xef, 0xbb] = ⟨[], none⟩ := by
  have latin : Charset.latin1.Decodes [0x61, 0x0d, 0x0a, 0xff] "a\r\nÿ".toList :=
    .plain nofun ⟨by decide, fun b _ => b.toNat_lt⟩
  have broken : (Charset.utf8.read [0x61, 0x0d, 0x0a, 0xff]).failure ≠ none := by decide +kernel
  have undecoded : ∀ text, ¬ Charset.utf8.Decodes [0x61, 0x0d, 0x0a, 0xff] text := by
    intro text decodes
    rw [decodes.read] at broken
    exact broken rfl
  have half : IsCutMark [0xef, 0xbb] := ⟨by decide, by decide⟩
  exact ⟨⟨latin, (read_lossless .latin1 _).1 _ latin⟩,
    ⟨undecoded, (read_lossless .utf8 _).2.1 undecoded nofun⟩, half, (read_lossless .utf8Marked _).2.2 rfl half⟩

/-- Half a mark is not the bytes of a text, and is read without an error. -/
theorem half_mark_delivered :
    (∀ text, ¬ Charset.utf8Marked.Decodes [0xef, 0xbb] text) ∧
      Charset.utf8Marked.read [0xef, 0xbb] = ⟨[], none⟩ := by
  have half : IsCutMark [0xef, 0xbb] := ⟨by decide, by decide⟩
  exact ⟨fun _ => not_decodes_of_isCutMark half (List.cons_ne_nil _ _), by decide +kernel⟩

end Charset

end MatlabTidy
