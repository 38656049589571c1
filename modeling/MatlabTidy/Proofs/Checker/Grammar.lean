import MatlabTidy.Checker.Advisory
import MatlabTidy.Proofs.Rule.Classes
import MatlabTidy.Proofs.Text.Output

/-!
# How advisories are written

`Advisory.Written` says how a line with an advisory is written, and `Advisory.Tells` what its message is, given what
stands behind its columns. Both leave no choice (`heading?_eq_some_iff`, `tells_iff`), although a message may hold
colons of its own and a word in front of one is a label only if a blank follows. `Advisory.ofOutput_exact` says that the
advisories of an output are read from the lines that are written so, and from no others.
-/

namespace MatlabTidy

open Text (isBlank isDigit isWord span? skip? IsRun)

/-- No blank is a digit. -/
theorem Text.isDigit_of_isBlank {c : Char} (h : isBlank c = true) : isDigit c = false := by
  have points : ∀ n ∈ blankPoints, digitRanges.contains n = false := by decide +kernel
  exact points c.toNat (mem_blankPoints h)

namespace Advisory

variable {text number columns rest message : List Char}

/-- How a line with an advisory is written: a number, columns, and what stands behind them. -/
inductive Written : (text number columns rest : List Char) → Prop
  | intro {gap number gap' gap'' columns rest : List Char} (blank : IsRun isBlank gap) (digits : IsRun isDigit number)
      (blank' : IsRun isBlank gap') (blank'' : IsRun isBlank gap'') (range : IsRun isColumnChar columns) :
      Written ("L".toList ++ gap ++ number ++ gap' ++ "(C".toList ++ gap'' ++ columns ++ "):".toList ++ rest)
        number columns rest

/-- A text that begins with a label: a word, a colon and blanks. -/
inductive Labelled : (text message : List Char) → Prop
  | intro {word gap message : List Char} (named : IsRun isWord word) (blank : IsRun isBlank gap) :
      Labelled (word ++ ':' :: (gap ++ message)) message

/-- What an advisory tells, given what stands behind its columns: blanks are passed over, and then a label. -/
inductive Tells : (rest message : List Char) → Prop
  | labelled {gap text message : List Char} (blank : ∀ c ∈ gap, isBlank c = true) (label : Labelled text message)
      (begins : message.head?.any isBlank = false) : Tells (gap ++ text) message
  | plain {gap message : List Char} (blank : ∀ c ∈ gap, isBlank c = true)
      (unlabelled : ∀ others, ¬ Labelled message others) (begins : message.head?.any isBlank = false) :
      Tells (gap ++ message) message

/-! ## The heading of an advisory -/

/-- Reads the number and the columns of an advisory, up to the colon. -/
def heading? (text : List Char) : Option (List Char × List Char × List Char) := do
  let rest ← skip? "L" text
  let (_, rest) ← span? isBlank rest
  let (number, rest) ← span? isDigit rest
  let (_, rest) ← span? isBlank rest
  let rest ← skip? "(C" rest
  let (_, rest) ← span? isBlank rest
  let (columns, rest) ← span? isColumnChar rest
  let rest ← skip? "):" rest
  return (number, columns, rest)

/-- An advisory is read from its heading and what stands behind it. -/
theorem parse?_eq (text : List Char) : parse? text =
    (heading? text).map fun (number, columns, rest) => ⟨number, columns, withoutLabel (Text.trimLeft rest)⟩ := by
  simp only [parse?, heading?, Option.bind_eq_bind, Option.map_bind, Function.comp_def]
  rfl

theorem heading?_eq_some_iff :
    heading? text = some (number, columns, rest) ↔ Written text number columns rest := by
  constructor
  · intro h
    simp only [heading?, Option.bind_eq_bind, Option.bind_eq_some_iff, Option.pure_def, Option.some.injEq,
      Prod.mk.injEq] at h
    obtain ⟨_, letter, ⟨gap, _⟩, blank, ⟨number, _⟩, digits, ⟨gap', _⟩, blank', _, opening, ⟨gap'', _⟩, blank'',
      ⟨columns, _⟩, range, rest, closing, rfl, rfl, rfl⟩ := h
    obtain rfl := Text.skip?_eq_some.1 letter
    obtain ⟨rfl, ne₁, all₁, -⟩ := Text.span?_eq_some.1 blank
    obtain ⟨rfl, ne₂, all₂, -⟩ := Text.span?_eq_some.1 digits
    obtain ⟨rfl, ne₃, all₃, -⟩ := Text.span?_eq_some.1 blank'
    obtain rfl := Text.skip?_eq_some.1 opening
    obtain ⟨rfl, ne₄, all₄, -⟩ := Text.span?_eq_some.1 blank''
    obtain ⟨rfl, ne₅, all₅, -⟩ := Text.span?_eq_some.1 range
    obtain rfl := Text.skip?_eq_some.1 closing
    have written : Written
        ("L".toList ++ gap ++ number ++ gap' ++ "(C".toList ++ gap'' ++ columns ++ "):".toList ++ rest)
        number columns rest := .intro ⟨ne₁, all₁⟩ ⟨ne₂, all₂⟩ ⟨ne₃, all₃⟩ ⟨ne₄, all₄⟩ ⟨ne₅, all₅⟩
    simpa only [List.append_assoc] using written
  · rintro ⟨blank, digits, blank', blank'', range⟩
    rename_i gap gap' gap''
    have digit (c : Char) (h : isDigit c = true) : isBlank c = false := by
      by_contra spaced
      rw [Text.isDigit_of_isBlank (by simpa using spaced)] at h
      cases h
    have column (c : Char) (h : isColumnChar c = true) : isBlank c = false := by
      rw [isColumnChar, Bool.or_eq_true, decide_eq_true_eq] at h
      rcases h with h | rfl
      · exact digit c h
      · decide
    have first := Text.span?_append_isRun blank digits digit
    have second := Text.span?_append_isRun digits blank' fun c => Text.isDigit_of_isBlank
    have third := Text.span?_append_isRun blank'' range column
    simp only [List.append_assoc, heading?, Option.bind_eq_bind, Option.bind_eq_some_iff, Option.pure_def,
      Option.some.injEq, Prod.mk.injEq]
    exact ⟨_, Text.skip?_eq_some.2 rfl, (gap, _), first _, (number, _), second _, (gap', _),
      Text.span?_append blank' rfl, _, Text.skip?_eq_some.2 rfl, (gap'', _), third _, (columns, _),
      Text.span?_append range rfl, rest, Text.skip?_eq_some.2 rfl, rfl, rfl, rfl⟩

/-! ## The message of an advisory -/

/-- A label begins with a word, not with a blank. -/
theorem Labelled.head? (label : Labelled text message) : text.head?.any isBlank = false := by
  obtain ⟨named, -⟩ := label
  obtain ⟨c, cs, rfl, first⟩ := named.exists_cons
  by_contra spaced
  rw [Text.isWord_of_isBlank (by simpa using spaced)] at first
  cases first

/-- A label takes all blanks behind its colon. -/
theorem Labelled.trimLeft (label : Labelled text message) : Labelled text (Text.trimLeft message) := by
  obtain ⟨named, blank⟩ := label
  rename_i word gap
  have longer : IsRun isBlank (gap ++ message.takeWhile isBlank) :=
    ⟨List.append_ne_nil_of_left_ne_nil blank.ne _,
      fun c mem => (List.mem_append.1 mem).elim (blank.all c) List.mem_takeWhile_imp⟩
  have whole : Labelled (word ++ ':' :: (gap ++ message.takeWhile isBlank ++ Text.trimLeft message))
      (Text.trimLeft message) := .intro named longer
  rwa [List.append_assoc, Text.trimLeft, List.takeWhile_append_dropWhile] at whole

theorem withoutLabel_of_labelled (label : Labelled text message) (begins : message.head?.any isBlank = false) :
    withoutLabel text = message := by
  obtain ⟨named, blank⟩ := label
  rename_i word gap
  have first : span? isWord (word ++ ':' :: (gap ++ message)) = some (word, ':' :: (gap ++ message)) :=
    Text.span?_append named (by simp only [List.head?_cons, Option.any_some]; decide)
  rw [withoutLabel, first]
  simp only [Text.span?_append blank begins]

/-- Without a label the text is kept. -/
theorem withoutLabel_eq_self (unlabelled : ∀ others, ¬ Labelled text others) : withoutLabel text = text := by
  unfold withoutLabel
  split
  · rename_i word behind named
    split
    · rename_i gap message blank
      obtain ⟨rfl, ne, all, -⟩ := Text.span?_eq_some.1 named
      obtain ⟨rfl, ne', all', -⟩ := Text.span?_eq_some.1 blank
      exact absurd (.intro ⟨ne, all⟩ ⟨ne', all'⟩) (unlabelled message)
    · rfl
  · rfl

/-- What stands behind the columns tells one thing. -/
theorem tells_iff : Tells rest message ↔ withoutLabel (Text.trimLeft rest) = message := by
  constructor
  · rintro (⟨blank, label, begins⟩ | ⟨blank, unlabelled, begins⟩)
    · rw [Text.trimLeft, Text.dropWhile_append_of_stop blank label.head?, withoutLabel_of_labelled label begins]
    · rw [Text.trimLeft, Text.dropWhile_append_of_stop blank begins, withoutLabel_eq_self unlabelled]
  · rintro rfl
    have blank : ∀ c ∈ rest.takeWhile isBlank, isBlank c = true := fun c => List.mem_takeWhile_imp
    have whole : rest.takeWhile isBlank ++ Text.trimLeft rest = rest := List.takeWhile_append_dropWhile
    have begins := Text.head?_trimLeft rest
    by_cases label : ∃ others, Labelled (Text.trimLeft rest) others
    · obtain ⟨others, label⟩ := label
      have stops := Text.head?_trimLeft others
      have told := Tells.labelled blank label.trimLeft stops
      rwa [whole, ← withoutLabel_of_labelled label.trimLeft stops] at told
    · have unlabelled : ∀ others, ¬ Labelled (Text.trimLeft rest) others := not_exists.1 label
      have told := Tells.plain blank unlabelled begins
      rwa [whole, ← withoutLabel_eq_self unlabelled] at told

/-- No message begins with a blank. -/
theorem Tells.head? (told : Tells rest message) : message.head?.any isBlank = false := by
  cases told with
  | labelled _ _ begins => exact begins
  | plain _ _ begins => exact begins

/-! ## The advisories of an output -/

/-- The texts of the advisories in lines of output: one for each line that is written as an advisory. -/
inductive Listed : (lines texts : List (List Char)) → Prop
  | nil : Listed [] []
  | other {line text : List Char} {lines texts : List (List Char)} (trimmed : Text.Trimmed line text)
      (unwritten : ∀ number columns rest, ¬ Written text number columns rest) (others : Listed lines texts) :
      Listed (line :: lines) texts
  | advisory {line text number columns rest message : List Char} {lines texts : List (List Char)}
      (trimmed : Text.Trimmed line text) (written : Written text number columns rest) (told : Tells rest message)
      (others : Listed lines texts) :
      Listed (line :: lines)
        (("L ".toList ++ number ++ " (C ".toList ++ columns ++ "): ".toList ++ message) :: texts)

theorem parse?_eq_some_iff {a : Advisory} :
    parse? text = some a ↔ ∃ rest, Written text a.line a.columns rest ∧ Tells rest a.message := by
  rw [parse?_eq, Option.map_eq_some_iff]
  constructor
  · rintro ⟨⟨number, columns, rest⟩, found, rfl⟩
    exact ⟨rest, heading?_eq_some_iff.1 found, tells_iff.2 rfl⟩
  · rintro ⟨rest, written, told⟩
    refine ⟨(a.line, a.columns, rest), heading?_eq_some_iff.2 written, ?_⟩
    simp only [tells_iff.1 told]

theorem parse?_eq_none_iff : parse? text = none ↔ ∀ number columns rest, ¬ Written text number columns rest := by
  rw [parse?_eq, Option.map_eq_none_iff, Option.eq_none_iff_forall_ne_some]
  simp only [Prod.forall, ne_eq, heading?_eq_some_iff]

theorem listed_iff_filterMap {lines texts : List (List Char)} :
    Listed lines texts ↔ (lines.filterMap fun line => parse? (Text.trim line)).map Advisory.text = texts := by
  constructor
  · intro listed
    induction listed with
    | nil => rfl
    | other trimmed unwritten others ih =>
      rw [List.filterMap_cons, Text.trimmed_iff.1 trimmed, parse?_eq_none_iff.2 unwritten]
      exact ih
    | @advisory line text number columns rest message lines texts trimmed written told others ih =>
      have parsed : parse? text = some ⟨number, columns, message⟩ := parse?_eq_some_iff.2 ⟨rest, written, told⟩
      rw [List.filterMap_cons, Text.trimmed_iff.1 trimmed, parsed]
      dsimp only
      rw [List.map_cons, ih]
      rfl
  · rintro rfl
    induction lines with
    | nil => exact .nil
    | cons line lines ih =>
      have trimmed := Text.trimmed_trim line
      rw [List.filterMap_cons]
      cases parsed : parse? (Text.trim line) with
      | none => exact .other trimmed (parse?_eq_none_iff.1 parsed) ih
      | some a =>
        obtain ⟨rest, written, told⟩ := parse?_eq_some_iff.1 parsed
        exact .advisory trimmed written told ih

/-- The advisories of an output are those of the lines that are written as advisories, in order. The number, the
columns and the rest of such a line are determined by the line, and no message begins with a blank. -/
theorem ofOutput_exact (output : List Char) :
    (∀ texts, (∃ lines, Text.Broken output lines ∧ Listed lines texts) ↔ (ofOutput output).map Advisory.text = texts) ∧
    (∀ line number columns rest number' columns' rest', Written line number columns rest →
      Written line number' columns' rest' → number = number' ∧ columns = columns' ∧ rest = rest') ∧
    (∀ rest, ∃! message, Tells rest message) ∧
    ∀ a ∈ ofOutput output, a.message.head?.any isBlank = false := by
  refine ⟨fun texts => ?_, ?_, fun rest => ?_, fun a mem => ?_⟩
  · constructor
    · rintro ⟨lines, broken, listed⟩
      rw [ofOutput, Text.broken_iff.1 broken]
      exact listed_iff_filterMap.1 listed
    · rintro rfl
      exact ⟨_, Text.broken_brokenLines output, listed_iff_filterMap.2 rfl⟩
  · intro line number columns rest number' columns' rest' written written'
    have same := (heading?_eq_some_iff.2 written).symm.trans (heading?_eq_some_iff.2 written')
    simpa using same
  · exact ⟨_, tells_iff.2 rfl, fun message told => (tells_iff.1 told).symm⟩
  · obtain ⟨line, -, parsed⟩ := List.mem_filterMap.1 mem
    obtain ⟨rest, -, told⟩ := parse?_eq_some_iff.1 parsed
    exact told.head?

/-- A label is dropped only where a blank follows, and a message keeps its colons. -/
theorem ofOutput_exact_labels :
    (∃ lines, Text.Broken "= a.m =\r\nL 7 (C 3-5): ABC:  to: do\x0b L 9 (C 1):ABC:".toList lines ∧
      Listed lines ["L 7 (C 3-5): to: do".toList, "L 9 (C 1): ABC:".toList]) ∧
    ∀ number columns rest, Written "L 9 (C 1):ABC:".toList number columns rest →
      number = "9".toList ∧ columns = "1".toList ∧ rest = "ABC:".toList := by
  refine ⟨((ofOutput_exact _).1 _).2 (by decide +kernel), fun number columns rest written => ?_⟩
  have read : Written "L 9 (C 1):ABC:".toList "9".toList "1".toList "ABC:".toList :=
    heading?_eq_some_iff.1 (by decide +kernel)
  exact (ofOutput_exact []).2.1 _ _ _ _ _ _ _ written read

end Advisory

end MatlabTidy
