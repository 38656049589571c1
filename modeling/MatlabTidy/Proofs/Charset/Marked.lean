import MatlabTidy.Proofs.Charset.Reading

/-!
# UTF-8 with a mark

In this encoding a mark at the start is not read as text, and the start of a mark with nothing behind it is read
as no text (`Charset.ReadsMarked`). What is written begins with a mark, but for the empty text
(`Charset.marked`). So a text is written as it was read if there was a mark with something behind it, or nothing
at all (`Charset.marked_eq_iff`).
-/

namespace MatlabTidy

variable {bytes pending : List UInt8} {text : List Char} {chunks : List (List UInt8)}

namespace Charset

/-- The bytes of a text: a mark and the text, or nothing. -/
def marked (text : List Char) : List UInt8 := if text = [] then [] else markBytes ++ Utf8.encode text

/-- The bytes are the start of a mark, and no more. -/
def IsCutMark (bytes : List UInt8) : Prop := bytes.length < 3 ∧ bytes <+: markBytes

/-- How the bytes of a text may begin. -/
inductive ReadsMarked (bytes : List UInt8) : List Char → Prop where
  | cut (short : IsCutMark bytes) : ReadsMarked bytes []
  | marked {text : List Char} (coded : bytes = markBytes ++ Utf8.encode text) : ReadsMarked bytes text
  | unmarked {text : List Char} (coded : bytes = Utf8.encode text) (uncut : ¬ IsCutMark bytes)
      (none : ¬ markBytes <+: bytes) : ReadsMarked bytes text

theorem isCutMark_iff :
    (decide (bytes.length < 3) && bytes.isPrefixOf markBytes) = true ↔ IsCutMark bytes := by
  rw [Bool.and_eq_true, decide_eq_true_eq, List.isPrefixOf_iff_prefix, IsCutMark]

theorem isCutMark_of_append {more : List UInt8} (h : IsCutMark (bytes ++ more)) : IsCutMark bytes := by
  obtain ⟨short, start⟩ := h
  rw [List.length_append] at short
  exact ⟨by omega, (List.prefix_append bytes more).trans start⟩

/-- A whole mark is not the start of one. -/
theorem not_isCutMark_mark (rest : List UInt8) : ¬ IsCutMark (markBytes ++ rest) := by
  rintro ⟨short, -⟩
  rw [List.length_append] at short
  exact absurd short (Nat.not_lt.2 (Nat.le_add_right 3 _))

end Charset

open Charset (IsCutMark ReadsMarked isCutMark_iff)

namespace Decoder

/-! What a decoder does with data at the start of a file. -/

theorem feed_cut {chunk : List UInt8} (cut : IsCutMark (pending ++ chunk)) (final : Bool) :
    (⟨.utf8Marked, pending, true⟩ : Decoder).feed chunk final = .ok ([], ⟨.utf8Marked, pending ++ chunk, true⟩) := by
  have test := isCutMark_iff.2 cut
  simp only [feed, Bool.true_and, test, if_true]

/-- Behind a mark at the start of a file comes UTF-8. -/
theorem feed_mark {chunk rest : List UInt8} (shape : pending ++ chunk = markBytes ++ rest) (final : Bool) :
    (⟨.utf8Marked, pending, true⟩ : Decoder).feed chunk final = feedUtf8 ⟨.utf8Marked, pending, true⟩ rest final := by
  simp only [feed]
  rw [shape]
  rfl

theorem feed_unmarked {chunk : List UInt8} (uncut : ¬ IsCutMark (pending ++ chunk))
    (none : ¬ markBytes <+: pending ++ chunk) (final : Bool) :
    (⟨.utf8Marked, pending, true⟩ : Decoder).feed chunk final =
      feedUtf8 ⟨.utf8Marked, pending, true⟩ (pending ++ chunk) final := by
  have test : ¬ (decide ((pending ++ chunk).length < 3) && (pending ++ chunk).isPrefixOf markBytes) = true :=
    fun h => uncut (isCutMark_iff.1 h)
  have test' : ¬ markBytes.isPrefixOf (pending ++ chunk) = true := fun h => none (List.isPrefixOf_iff_prefix.1 h)
  simp only [feed, Bool.true_and, test, test', Bool.false_eq_true, if_false]

/-- The start of a mark is kept up to the end. -/
theorem deliver_cut (cut : IsCutMark (pending ++ chunks.flatten)) :
    (⟨.utf8Marked, pending, true⟩ : Decoder).deliver [] chunks = ⟨[], none⟩ := by
  induction chunks generalizing pending with
  | nil =>
    rw [List.flatten_nil] at cut
    rw [deliver, feed_cut cut]
    rfl
  | cons chunk chunks ih =>
    rw [List.flatten_cons, ← List.append_assoc] at cut
    rw [deliver, feed_cut (Charset.isCutMark_of_append cut)]
    exact ih cut

/-- Without a mark, all lines of the text are delivered. -/
theorem deliver_unmarked (coded : pending ++ chunks.flatten = Utf8.encode text)
    (uncut : ¬ IsCutMark (pending ++ chunks.flatten)) (none : ¬ markBytes <+: pending ++ chunks.flatten) :
    (⟨.utf8Marked, pending, true⟩ : Decoder).deliver [] chunks = ⟨Text.rawLines text, .none⟩ := by
  induction chunks generalizing pending with
  | nil =>
    rw [List.flatten_nil] at coded uncut none
    rw [deliver, feed_unmarked uncut none, coded, feedUtf8_final]
    rfl
  | cons chunk chunks ih =>
    rw [List.flatten_cons, ← List.append_assoc] at coded uncut none
    rw [deliver]
    by_cases cut : IsCutMark (pending ++ chunk)
    · rw [feed_cut cut]
      exact ih coded uncut none
    · -- From here on the decoder does not look for a mark.
      have none' : ¬ markBytes <+: pending ++ chunk := fun mark => none (mark.trans (List.prefix_append _ _))
      obtain ⟨chars, others, pending', fed, rfl, coded'⟩ := feedUtf8_of_append ⟨.utf8Marked, pending, true⟩ coded
      rw [feed_unmarked cut none', fed]
      exact Reads.deliver (.inside (.inr ⟨rfl, rfl⟩) coded') chars

end Decoder

namespace Charset

theorem readsMarked_of_decode (h : Charset.utf8Marked.decode bytes = .ok text) : ReadsMarked bytes text := by
  rw [decode, Decoder.start] at h
  have whole : [] ++ bytes = bytes := List.nil_append bytes
  by_cases cut : IsCutMark bytes
  · rw [Decoder.feed_cut (whole ▸ cut)] at h
    cases h
    exact .cut cut
  by_cases mark : markBytes <+: bytes
  · obtain ⟨rest, rfl⟩ := mark
    rw [Decoder.feed_mark (List.nil_append _)] at h
    cases ended : Decoder.feedUtf8 ⟨.utf8Marked, [], true⟩ rest true with
    | error e =>
      rw [ended] at h
      cases h
    | ok result =>
      rw [ended] at h
      cases h
      rw [eq_encode_of_feedUtf8 ended]
      exact .marked rfl
  · rw [Decoder.feed_unmarked (whole ▸ cut) (whole ▸ mark), whole] at h
    cases ended : Decoder.feedUtf8 ⟨.utf8Marked, [], true⟩ bytes true with
    | error e =>
      rw [ended] at h
      cases h
    | ok result =>
      rw [ended] at h
      cases h
      exact .unmarked (eq_encode_of_feedUtf8 ended) cut mark

/-- Wherever the chunks cut it, the file is delivered as the lines of its text. -/
theorem ReadsMarked.read (h : ReadsMarked bytes text) :
    Charset.utf8Marked.read bytes = ⟨Text.rawLines text, none⟩ := by
  have whole : [] ++ (chunks bytes).flatten = bytes := flatten_chunks bytes
  cases h with
  | cut short => exact Decoder.deliver_cut (by rwa [whole])
  | marked coded => exact Decoder.Reads.read (.marked coded)
  | unmarked coded uncut none =>
    exact Decoder.deliver_unmarked (whole.trans coded) (by rwa [whole]) (by rwa [whole])

/-- The lines of a text are written behind a mark, if there are any. -/
theorem eq_marked_of_encodeAll (h : Charset.utf8Marked.encodeAll true (Text.rawLines text) = .ok bytes) :
    bytes = marked text := by
  have together := Text.flatten_rawLines text
  cases lines : Text.rawLines text with
  | nil =>
    rw [lines] at h together
    cases h
    rw [← together]
    rfl
  | cons line others =>
    have ne : text ≠ [] := by
      rintro rfl
      cases lines
    rw [lines] at h together
    rw [encodeAll] at h
    cases rest : Charset.utf8Marked.encodeAll false others with
    | error e =>
      rw [rest] at h
      cases h
    | ok more =>
      rw [rest] at h
      cases h
      have behind : more = Utf8.encode others.flatten := writes_of_encodeAll rest
      rw [marked, if_neg ne, ← together, List.flatten_cons, Utf8.encode_append, behind]
      simp

/-- The bytes that are written for a text are those that it was read from exactly if there was a mark with
something behind it, or nothing. -/
theorem marked_eq_iff (h : ReadsMarked bytes text) :
    marked text = bytes ↔ bytes = [] ∨ ∃ rest, rest ≠ [] ∧ bytes = markBytes ++ rest := by
  cases h with
  | cut short =>
    constructor
    · intro empty
      exact .inl empty.symm
    · rintro (rfl | ⟨rest, -, rfl⟩)
      · rfl
      · exact absurd short (not_isCutMark_mark rest)
  | marked coded =>
    subst coded
    by_cases empty : text = []
    · subst empty
      refine iff_of_false nofun ?_
      rintro (none | ⟨rest, ne, same⟩)
      · cases none
      · exact ne (List.append_cancel_left same).symm
    · refine iff_of_true (if_neg empty) (.inr ⟨_, fun none => empty ?_, rfl⟩)
      cases text with
      | nil => rfl
      | cons c text =>
        rw [Utf8.encode_cons] at none
        exact absurd (List.append_eq_nil_iff.1 none).1 (Utf8.encodeChar_ne_nil c)
  | unmarked coded uncut none =>
    have some : bytes ≠ [] := by
      rintro rfl
      exact uncut ⟨by decide, List.nil_prefix⟩
    refine iff_of_false (fun same => ?_) ?_
    · rw [marked] at same
      split at same
      · exact some same.symm
      · exact none ⟨_, same⟩
    · rintro (empty | ⟨rest, -, mark⟩)
      · exact some empty
      · exact none ⟨rest, mark.symm⟩

end Charset

end MatlabTidy
