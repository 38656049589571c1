import MatlabTidy.Proofs.Charset.Reading

/-!
# Texts that can be written

A text can be written in an encoding if the encoding has its characters (`Charset.exists_encode_iff`), wherever
in the file it stands. Every encoding has the blank, so texts stay writable when blanks are put into them. What a
file delivers can be written in the encoding in which it was read, even if it does not deliver all of its lines
(`Charset.has_of_mem_read`).
-/

namespace MatlabTidy.Charset

variable {charset : Charset} {text : List Char}

/-- Whether the encoding has a character. -/
def has (charset : Charset) (c : Char) : Bool := c.toNat < charset.size

theorem has_blank (charset : Charset) : charset.has ' ' = true := by
  cases charset <;> decide

/-- The encodings of Unicode have all characters. -/
theorem has_of_unicode (unicode : charset = .utf8 ∨ charset = .utf8Marked) (c : Char) : charset.has c = true := by
  have bound := Utf8.toNat_lt c
  rcases unicode with rfl | rfl
  · exact decide_eq_true (by simp only [size]; omega)
  · exact decide_eq_true (by simp only [size]; omega)

theorem exists_encodeBytes_iff :
    (∃ bytes, charset.encodeBytes text = .ok bytes) ↔ ∀ c ∈ text, charset.has c = true := by
  have front : (∀ c ∈ text, charset.has c = true) ↔ text.takeWhile charset.has = text :=
    List.takeWhile_eq_self_iff.symm
  rw [front]
  unfold encodeBytes
  dsimp only
  constructor
  · rintro ⟨bytes, h⟩
    split at h
    · rename_i all
      exact takeWhile_eq_self_of_drop all
    · cases h
  · intro whole
    have all : text.drop (text.takeWhile fun c => decide (c.toNat < charset.size)).length = [] := by
      rw [show (text.takeWhile fun c => decide (c.toNat < charset.size)) = text from whole]
      exact List.drop_length
    rw [all]
    exact ⟨_, rfl⟩

theorem exists_encode_iff (first : Bool) :
    (∃ bytes, charset.encode first text = .ok bytes) ↔ ∀ c ∈ text, charset.has c = true := by
  cases charset with
  | utf8 => exact ⟨fun _ c _ => has_of_unicode (.inl rfl) c, fun _ => ⟨_, rfl⟩⟩
  | utf8Marked => exact ⟨fun _ c _ => has_of_unicode (.inr rfl) c, fun _ => ⟨_, rfl⟩⟩
  | ascii => exact exists_encodeBytes_iff
  | latin1 => exact exists_encodeBytes_iff

/-- Texts can be written one after the other if each of them can be. -/
theorem exists_encodeAll_iff {texts : List (List Char)} (first : Bool) :
    (∃ bytes, charset.encodeAll first texts = .ok bytes) ↔ ∀ text ∈ texts, ∀ c ∈ text, charset.has c = true := by
  induction texts generalizing first with
  | nil => exact ⟨fun _ => nofun, fun _ => ⟨[], rfl⟩⟩
  | cons text texts ih =>
    rw [List.forall_mem_cons, ← exists_encode_iff first, ← ih false, encodeAll]
    cases charset.encode first text with
    | error e =>
      constructor
      · rintro ⟨bytes, h⟩
        cases h
      · rintro ⟨⟨bytes, h⟩, -⟩
        cases h
    | ok bytes =>
      cases charset.encodeAll false texts with
      | error e =>
        constructor
        · rintro ⟨bytes, h⟩
          cases h
        · rintro ⟨-, bytes, h⟩
          cases h
      | ok others => exact ⟨fun _ => ⟨⟨bytes, rfl⟩, others, rfl⟩, fun _ => ⟨bytes ++ others, rfl⟩⟩

/-- One byte to a character: what is decoded can be encoded, and nothing is kept for later. -/
theorem has_of_feed {d d' : Decoder} {chunk : List UInt8} {final : Bool}
    (single : d.charset = .ascii ∨ d.charset = .latin1) (fed : d.feed chunk final = .ok (text, d')) :
    d' = d ∧ ∀ c ∈ text, d.charset.has c = true := by
  obtain ⟨charset, pending, fresh⟩ := d
  obtain ⟨coded, same⟩ := writes_of_feed single fed
  obtain ⟨rfl, range⟩ := (writes_single_iff single).1 coded
  refine ⟨same, fun c mem => ?_⟩
  obtain ⟨b, within, rfl⟩ := List.mem_map.1 mem
  exact decide_eq_true ((toNat_charOf b).trans_lt (range b within))

theorem mem_of_mem_completeLines {raw : List Char} {c : Char} (mem : raw ∈ completeLines text) (h : c ∈ raw) :
    c ∈ text := by
  have inside : c ∈ (Text.rawLines (withoutFinalReturn text)).flatten :=
    List.mem_flatten.2 ⟨raw, (List.takeWhile_sublist _).mem mem, h⟩
  rw [Text.flatten_rawLines, withoutFinalReturn] at inside
  split at inside
  · exact List.dropLast_subset _ inside
  · exact inside

theorem has_of_mem_deliver {d : Decoder} (single : d.charset = .ascii ∨ d.charset = .latin1) {front : List Char}
    (known : ∀ c ∈ front, d.charset.has c = true) (chunks : List (List UInt8)) :
    ∀ raw ∈ (d.deliver front chunks).lines, ∀ c ∈ raw, d.charset.has c = true := by
  have broken : ∀ raw ∈ completeLines front, ∀ c ∈ raw, d.charset.has c = true := fun raw mem c h =>
    known c (mem_of_mem_completeLines mem h)
  induction chunks generalizing front with
  | nil =>
    rw [Decoder.deliver]
    split
    · rename_i chars _ fed
      obtain ⟨-, known'⟩ := has_of_feed single fed
      intro raw mem c h
      have inside : c ∈ (Text.rawLines (front ++ chars)).flatten := List.mem_flatten.2 ⟨raw, mem, h⟩
      rw [Text.flatten_rawLines] at inside
      exact (List.mem_append.1 inside).elim (known c) (known' c)
    · exact broken
  | cons chunk chunks ih =>
    rw [Decoder.deliver]
    split
    · rename_i chars _ fed
      obtain ⟨same, known'⟩ := has_of_feed single fed
      rw [same]
      have both : ∀ c ∈ front ++ chars, d.charset.has c = true := fun c mem =>
        (List.mem_append.1 mem).elim (known c) (known' c)
      exact ih both fun raw mem c h => both c (mem_of_mem_completeLines mem h)
    · exact broken

/-- The lines that a file delivers can be written in its encoding. -/
theorem has_of_mem_read {bytes : List UInt8} {raw : List Char} (mem : raw ∈ (charset.read bytes).lines) :
    ∀ c ∈ raw, charset.has c = true := by
  cases charset with
  | utf8 => exact fun c _ => has_of_unicode (.inl rfl) c
  | utf8Marked => exact fun c _ => has_of_unicode (.inr rfl) c
  | ascii => exact has_of_mem_deliver (.inl rfl) (fun _ none => absurd none List.not_mem_nil) _ raw mem
  | latin1 => exact has_of_mem_deliver (.inr rfl) (fun _ none => absurd none List.not_mem_nil) _ raw mem

end MatlabTidy.Charset
