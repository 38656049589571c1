import MatlabTidy.Proofs.Run.Tidy

/-!
# The scan of the lines of a file

The lines of a file are scanned one after the other and, when fixing, written one after the other
(`Scan.run_scanLines_cons_eq_ok`). `Scan.ScannedFrom` relates the lines of a file to those that are
written for them, whatever the operator answers (`Scan.scannedFrom_of_run`). When nobody is asked, the
lines that are written are `Scan.tidiedFrom` and the counts are `Scan.totalsFrom`, and the scan ends well
exactly if the lines can be encoded (`Scan.run_scanLines_eq_ok`).
-/

namespace MatlabTidy

namespace Count

variable {a b : List Count}

@[simp] theorem length_addAll : (addAll a b).length = min a.length b.length := List.length_zipWith

/-- A sum of counts without fixes is a sum of counts without fixes. -/
theorem forall_fixes_of_addAll (same : a.length = b.length) (h : ∀ count ∈ addAll a b, count.fixes = 0) :
    (∀ count ∈ a, count.fixes = 0) ∧ ∀ count ∈ b, count.fixes = 0 := by
  induction a generalizing b with
  | nil =>
    obtain rfl : b = [] := List.eq_nil_of_length_eq_zero same.symm
    exact ⟨nofun, nofun⟩
  | cons x a ih =>
    cases b with
    | nil => cases same
    | cons y b =>
      have here := h (x.add y) List.mem_cons_self
      obtain ⟨left, right⟩ := ih (Nat.succ.inj same) fun count mem => h count (List.mem_cons_of_mem _ mem)
      rw [add] at here
      have zero : x.fixes = 0 ∧ y.fixes = 0 := by
        dsimp only at here
        omega
      exact ⟨List.forall_mem_cons.2 ⟨zero.1, left⟩, List.forall_mem_cons.2 ⟨zero.2, right⟩⟩

end Count

namespace Scan

open Rule (table)

variable {charset : Charset} {options : Options} {number : Nat} {w w' : World}
variable {lines lines' : List Text.Line} {bytes : List UInt8} {counts : List Count}

/-- The bytes are those of the lines, if they are to be written at all. -/
def Written (charset : Charset) (fix first : Bool) (lines : List Text.Line) (bytes : List UInt8) : Prop :=
  if fix then charset.encodeAll first (lines.map Text.Line.raw) = .ok bytes else bytes = []

/-- The first line is scanned and written in whatever encoding, and then the others. -/
theorem exists_of_run_scanLines_cons {R E : Type} [Criterion R] [Encoder E] {encoder : E} {rules : List R}
    {raw : List Char} {raws : List (List Char)}
    (h : (scanLines encoder rules options number (raw :: raws)).run w = .ok (bytes, counts) w') :
    ∃ raw' own w₁ front encoder' back others,
      (Line.scan rules options number raw).run w = .ok (raw', own) w₁ ∧
      (if options.fix then Encoder.write encoder number raw' = .ok (front, encoder') else front = [] ∧ encoder' = encoder) ∧
      (scanLines encoder' rules options (number + 1) raws).run w₁ = .ok (back, others) w' ∧
      bytes = front ++ back ∧ counts = Count.addAll own others := by
  rw [scanLines, Job.run_bind_eq_ok] at h
  obtain ⟨⟨raw', own⟩, w₁, scanned, h⟩ := h
  dsimp only at h
  by_cases fix : options.fix = true
  · rw [if_pos fix] at h
    obtain ⟨⟨front, encoder'⟩, w₂, encoded, behind⟩ := Job.run_bind_eq_ok.1 h
    obtain ⟨encoded, rfl⟩ := Job.run_ofExcept_eq_ok.1 encoded
    obtain ⟨⟨back, others⟩, w₃, rest, last⟩ := Job.run_bind_eq_ok.1 behind
    cases last
    exact ⟨raw', own, _, front, encoder', back, others, scanned, by rwa [if_pos fix], rest, rfl, rfl⟩
  · rw [if_neg fix, pure_bind] at h
    obtain ⟨⟨back, others⟩, w₃, rest, last⟩ := Job.run_bind_eq_ok.1 h
    cases last
    exact ⟨raw', own, _, [], encoder, back, others, scanned, by simp [fix], rest, rfl, rfl⟩

/-- The scan of lines that are written in one of the four encodings. -/
theorem scanLines_cons {R : Type} [Criterion R] (charset : Charset) (rules : List R) (options : Options)
    (number : Nat) (raw : List Char) (raws : List (List Char)) :
    scanLines charset rules options number (raw :: raws) = (do
      let (text, counts) ← Line.scan rules options number raw
      let bytes ←
        if options.fix then Job.ofExcept .encode (charset.encode (number == 1) text) else pure []
      let (others, otherCounts) ← scanLines charset rules options (number + 1) raws
      return (bytes ++ others, Count.addAll counts otherCounts)) := by
  rw [scanLines]
  refine bind_congr fun found => ?_
  by_cases fix : options.fix = true
  · simp only [fix, if_true]
    have same : (Job.ofExcept id (Encoder.write charset number found.1) : Job (List UInt8 × Charset)) =
        Job.ofExcept .encode (charset.encode (number == 1) found.1) >>= fun bytes => pure (bytes, charset) := by
      change Job.ofExcept id (((charset.encode (number == 1) found.1).mapError Failure.encode).map _) = _
      cases charset.encode (number == 1) found.1 with
      | ok bytes => rfl
      | error e => rfl
    rw [same, bind_assoc]
    rfl
  · simp [fix]

/-- The scan of what is read in one of the four encodings. -/
theorem scanDelivery_eq {R : Type} [Criterion R] (charset : Charset) (rules : List R) (options : Options)
    (delivery : Delivery) :
    scanDelivery charset rules options delivery = (do
      let result ← scanLines charset rules options 1 delivery.lines
      match delivery.failure with
      | some e => throw (.decode e)
      | none => return result) := by
  unfold scanDelivery scanFeed
  cases delivery.failure with
  | none => rfl
  | some e => rfl

/-- The first line is scanned and written, and then the others. -/
theorem run_scanLines_cons_eq_ok {rules : List Rule} {raw : List Char} {raws : List (List Char)} :
    (scanLines charset rules options number (raw :: raws)).run w = .ok (bytes, counts) w' ↔
      ∃ raw' own w₁ front back others,
        (Line.scan rules options number raw).run w = .ok (raw', own) w₁ ∧
        (if options.fix then charset.encode (number == 1) raw' = .ok front else front = []) ∧
        (scanLines charset rules options (number + 1) raws).run w₁ = .ok (back, others) w' ∧
        bytes = front ++ back ∧ counts = Count.addAll own others := by
  rw [scanLines_cons, Job.run_bind_eq_ok]
  constructor
  · rintro ⟨⟨raw', own⟩, w₁, scanned, h⟩
    dsimp only at h
    by_cases fix : options.fix = true
    · rw [if_pos fix] at h
      obtain ⟨front, w₂, encoded, behind⟩ := Job.run_bind_eq_ok.1 h
      obtain ⟨encoded, rfl⟩ := Job.run_ofExcept_eq_ok.1 encoded
      obtain ⟨⟨back, others⟩, w₃, rest, last⟩ := Job.run_bind_eq_ok.1 behind
      cases last
      exact ⟨raw', own, _, front, back, others, scanned, by rwa [if_pos fix], rest, rfl, rfl⟩
    · rw [if_neg fix] at h
      obtain ⟨front, w₂, nothing, behind⟩ := Job.run_bind_eq_ok.1 h
      cases nothing
      obtain ⟨⟨back, others⟩, w₃, rest, last⟩ := Job.run_bind_eq_ok.1 behind
      cases last
      exact ⟨raw', own, _, [], back, others, scanned, by rw [if_neg fix], rest, rfl, rfl⟩
  · rintro ⟨raw', own, w₁, front, back, others, scanned, encoded, rest, rfl, rfl⟩
    refine ⟨(raw', own), w₁, scanned, ?_⟩
    dsimp only
    by_cases fix : options.fix = true
    · rw [if_pos fix] at encoded ⊢
      refine Job.run_bind_eq_ok.2 ⟨front, w₁, Job.run_ofExcept_eq_ok.2 ⟨encoded, rfl⟩, ?_⟩
      exact Job.run_bind_eq_ok.2 ⟨(back, others), w', rest, rfl⟩
    · rw [if_neg fix] at encoded ⊢
      rw [encoded]
      refine Job.run_bind_eq_ok.2 ⟨[], w₁, rfl, ?_⟩
      exact Job.run_bind_eq_ok.2 ⟨(back, others), w', rest, rfl⟩

/-- Lines are written if the first is and the others are. -/
theorem written_cons_iff {fix first : Bool} {line : Text.Line} :
    Written charset fix first (line :: lines) bytes ↔
      ∃ front back, (if fix then charset.encode first line.raw = .ok front else front = []) ∧
        Written charset fix false lines back ∧ bytes = front ++ back := by
  unfold Written
  cases fix with
  | false =>
    simp only [Bool.false_eq_true, if_false]
    constructor
    · rintro rfl
      exact ⟨[], [], rfl, rfl, rfl⟩
    · rintro ⟨_, _, rfl, rfl, rfl⟩
      rfl
  | true =>
    simp only [if_true, List.map_cons, Charset.encodeAll]
    cases charset.encode first line.raw with
    | error e =>
      constructor
      · intro h
        cases h
      · rintro ⟨_, _, h, -, -⟩
        cases h
    | ok front =>
      cases charset.encodeAll false (lines.map Text.Line.raw) with
      | error e =>
        constructor
        · intro h
          cases h
        · rintro ⟨_, _, -, h, -⟩
          cases h
      | ok back =>
        constructor
        · intro h
          cases h
          exact ⟨front, back, rfl, rfl, rfl⟩
        · rintro ⟨_, _, h, h', rfl⟩
          cases h
          cases h'
          rfl

/-- Repaired lines are cut like the lines. -/
theorem wellCut_of_tidied (cut : Text.WellCut lines)
    (h : List.Forall₂ (fun line line' => ∃ on number, line' = Line.tidied on number line) lines lines') :
    Text.WellCut lines' := by
  refine cut.of_forall₂ ?_
  have unbroken := cut.unbroken
  clear cut
  induction h with
  | nil => exact .nil
  | @cons line line' rest rest' first behind ih =>
    obtain ⟨on, number, rfl⟩ := first
    refine .cons ⟨rfl, ?_, Line.text_tidied_eq_nil on number line⟩ (ih fun l mem => ?_)
    · exact Line.unbroken_tidied on number line (unbroken line List.mem_cons_self)
    · exact unbroken l (List.mem_cons_of_mem _ mem)

/-- Lines, from the given number on, that are written for the lines of a file, and the counts. -/
inductive ScannedFrom (options : Options) (w : World) :
    Nat → List Text.Line → List Text.Line → List Count → Prop where
  | nil (number : Nat) : ScannedFrom options w number [] [] (table.map fun _ => .zero)
  | cons {number : Nat} {line line' : Text.Line} {rest rest' : List Text.Line} {own others : List Count}
      (first : Line.Scanned options w number line line' own)
      (behind : ScannedFrom options w (number + 1) rest rest' others) :
      ScannedFrom options w number (line :: rest) (line' :: rest') (Count.addAll own others)

namespace ScannedFrom

theorem length_counts (h : ScannedFrom options w number lines lines' counts) :
    counts.length = table.length := by
  induction h with
  | nil => exact List.length_map _
  | cons first behind ih => rw [Count.length_addAll, first.length, ih, Nat.min_self]

theorem length_eq (h : ScannedFrom options w number lines lines' counts) : lines'.length = lines.length := by
  induction h with
  | nil => rfl
  | cons first behind ih => rw [List.length_cons, List.length_cons, ih]

/-- Each line is repaired by some of the rules. -/
theorem getElem? (h : ScannedFrom options w number lines lines' counts) {i : Nat} {line : Text.Line}
    (at_i : lines[i]? = some line) : ∃ on, lines'[i]? = some (Line.tidied on (number + i) line) := by
  induction h generalizing i with
  | nil => cases at_i
  | cons first behind ih =>
    cases i with
    | zero =>
      obtain rfl := Option.some.inj at_i
      obtain ⟨on, rfl⟩ := first.tidied
      exact ⟨on, rfl⟩
    | succ i =>
      obtain ⟨on, h⟩ := ih at_i
      exact ⟨on, by rw [List.getElem?_cons_succ, h, Nat.add_right_comm, Nat.add_assoc]⟩

/-- The lines that are written are cut like those that were read. -/
theorem wellCut (h : ScannedFrom options w number lines lines' counts) (cut : Text.WellCut lines) :
    Text.WellCut lines' := by
  refine wellCut_of_tidied cut ?_
  clear cut
  induction h with
  | nil => exact .nil
  | cons first behind ih =>
    obtain ⟨on, tidied⟩ := first.tidied
    exact .cons ⟨on, _, tidied⟩ ih

/-- Without fixes the lines stay as they are. -/
theorem eq_of_fixes (h : ScannedFrom options w number lines lines' counts)
    (none : ∀ count ∈ counts, count.fixes = 0) : lines' = lines := by
  induction h with
  | nil => rfl
  | @cons number line line' rest rest' own others first behind ih =>
    obtain ⟨here, there⟩ :=
      Count.forall_fixes_of_addAll (first.length.trans behind.length_counts.symm) none
    have same : line' = line := by
      by_contra changed
      obtain ⟨-, count, mem, fixed⟩ := first.counted changed
      exact fixed (here count mem)
    rw [same, ih there]

/-- If no fix is allowed the lines stay as they are. -/
theorem eq_of_not_allowed (h : ScannedFrom options w number lines lines' counts)
    (denied : ¬ Line.Allowed options w) : lines' = lines := by
  induction h with
  | nil => rfl
  | @cons number line line' rest rest' own others first behind ih =>
    have same : line' = line := by
      by_contra changed
      exact denied (first.counted changed).1
    rw [same, ih]

theorem mono {w₁ : World} (kept : Line.Keeps w w₁) (h : ScannedFrom options w₁ number lines lines' counts) :
    ScannedFrom options w number lines lines' counts := by
  induction h with
  | nil number => exact .nil number
  | cons first behind ih =>
    refine .cons ⟨first.tidied, fun changed => ?_, first.length⟩ ih
    exact (first.counted changed).imp (Line.Allowed.mono kept) id

end ScannedFrom

/-- Whatever the operator answers, each line that is written is a line repaired by some of the rules. -/
theorem scannedFrom_of_run (positive : 0 < number) (unbroken : ∀ line ∈ lines, Text.Unbroken line.text)
    (h : (scanLines charset table options number (lines.map Text.Line.raw)).run w =
      .ok (bytes, counts) w') :
    ∃ lines', ScannedFrom options w number lines lines' counts ∧
      Written charset options.fix (number == 1) lines' bytes ∧ Line.Keeps w w' := by
  induction lines generalizing number w bytes counts with
  | nil =>
    cases h
    refine ⟨[], .nil number, ?_, .refl _⟩
    unfold Written
    split <;> rfl
  | cons line lines ih =>
    obtain ⟨raw', own, w₁, front, back, others, scanned, encoded, rest, rfl, rfl⟩ :=
      run_scanLines_cons_eq_ok.1 h
    obtain ⟨line', rfl, first, kept⟩ :=
      Line.scanned_of_run (unbroken line List.mem_cons_self) scanned
    obtain ⟨lines', behind, written, kept'⟩ :=
      ih (Nat.succ_pos number) (fun l mem => unbroken l (List.mem_cons_of_mem _ mem)) rest
    have later : (number + 1 == 1) = false := by
      rw [beq_eq_false_iff_ne]
      omega
    rw [later] at written
    exact ⟨line' :: lines', .cons first (behind.mono kept),
      written_cons_iff.2 ⟨front, back, encoded, written, rfl⟩, kept.trans kept'⟩

/-- The lines that the rules of a set have repaired, from the given number on. -/
def tidiedFrom (on : Spacing → Bool) : Nat → List Text.Line → List Text.Line
  | _, [] => []
  | number, line :: rest => Line.tidied on number line :: tidiedFrom on (number + 1) rest

/-- What is counted for a rule on the lines from the given number on when nobody is asked about
fixes. -/
def totalFrom (fix : Bool) (rule : Rule) : Nat → List Text.Line → Count
  | _, [] => .zero
  | number, line :: rest => (Line.countOf fix number line rule).add (totalFrom fix rule (number + 1) rest)

/-- What is counted for all rules. -/
def totalsFrom (fix : Bool) (number : Nat) (lines : List Text.Line) : List Count :=
  table.map fun rule => totalFrom fix rule number lines

/-- Nobody has to be asked about the lines from the given number on. -/
def SmoothFrom (options : Options) : Nat → List Text.Line → Prop
  | _, [] => True
  | number, line :: rest => Line.Smooth options number line ∧ SmoothFrom options (number + 1) rest

theorem smoothFrom_of_silent (silent : options.verbose = false) (number : Nat) (lines : List Text.Line) :
    SmoothFrom options number lines := by
  induction lines generalizing number with
  | nil => trivial
  | cons line lines ih => exact ⟨Line.smooth_of_silent silent number line, ih (number + 1)⟩

theorem wellCut_tidiedFrom (cut : Text.WellCut lines) (on : Spacing → Bool) (number : Nat) :
    Text.WellCut (tidiedFrom on number lines) := by
  refine wellCut_of_tidied cut ?_
  clear cut
  induction lines generalizing number with
  | nil => exact .nil
  | cons line lines ih => exact .cons ⟨on, number, rfl⟩ (ih (number + 1))

theorem smoothFrom_tidiedFrom (options : Options) (number : Nat) (lines : List Text.Line) :
    SmoothFrom options number (tidiedFrom (fun _ => true) number lines) := by
  induction lines generalizing number with
  | nil => trivial
  | cons line lines ih => exact ⟨Line.smooth_tidied options number line, ih (number + 1)⟩

/-- Repairing the lines again changes nothing. -/
theorem tidiedFrom_tidiedFrom (number : Nat) (lines : List Text.Line) :
    tidiedFrom (fun _ => true) number (tidiedFrom (fun _ => true) number lines) =
      tidiedFrom (fun _ => true) number lines := by
  induction lines generalizing number with
  | nil => rfl
  | cons line lines ih =>
    rw [tidiedFrom, tidiedFrom, Line.tidied_tidied, ih]
    rfl

/-- The scan of lines about which nobody has to be asked ends well if the lines can be written. -/
theorem run_scanLines_eq_ok (positive : 0 < number) (whole : ∀ line ∈ lines, Text.Line.ofRaw line.raw = line)
    (smooth : SmoothFrom options number lines) :
    (∃ w', (scanLines charset table options number (lines.map Text.Line.raw)).run w =
        .ok (bytes, counts) w') ↔
      Written charset options.fix (number == 1)
          (if options.fix then tidiedFrom (fun _ => true) number lines else lines) bytes ∧
        counts = totalsFrom options.fix number lines := by
  induction lines generalizing number w bytes counts with
  | nil =>
    have nothing : Written charset options.fix (number == 1)
        (if options.fix then tidiedFrom (fun _ => true) number [] else []) bytes ↔ bytes = [] := by
      unfold Written
      split
      · rw [tidiedFrom, List.map_nil, Charset.encodeAll, Except.ok.injEq, eq_comm]
      · rfl
    rw [nothing]
    constructor
    · rintro ⟨w', h⟩
      cases h
      exact ⟨rfl, rfl⟩
    · rintro ⟨rfl, rfl⟩
      exact ⟨w, rfl⟩
  | cons line lines ih =>
    obtain ⟨here, there⟩ := smooth
    obtain ⟨first, whole'⟩ := List.forall_mem_cons.1 whole
    have later : (number + 1 == 1) = false := by
      rw [beq_eq_false_iff_ne]
      omega
    have split : (if options.fix then tidiedFrom (fun _ => true) number (line :: lines) else line :: lines) =
        (if options.fix then Line.tidied (fun _ => true) number line else line) ::
          if options.fix then tidiedFrom (fun _ => true) (number + 1) lines else lines := by
      cases options.fix <;> rfl
    obtain ⟨events, run⟩ := Line.run_scan w first here
    rw [split, written_cons_iff]
    constructor
    · rintro ⟨w', h⟩
      obtain ⟨raw', own, w₁, front, back, others, scanned, encoded, behind, rfl, rfl⟩ :=
        run_scanLines_cons_eq_ok.1 h
      rw [run] at scanned
      cases scanned
      obtain ⟨written, rfl⟩ := (ih (Nat.succ_pos number) whole' there).1 ⟨w', behind⟩
      rw [later] at written
      exact ⟨⟨front, back, encoded, written, rfl⟩, rfl⟩
    · rintro ⟨⟨front, back, encoded, written, rfl⟩, rfl⟩
      rw [← later] at written
      obtain ⟨w', behind⟩ :=
        (ih (w := w.saying events) (Nat.succ_pos number) whole' there).2 ⟨written, rfl⟩
      exact ⟨w', run_scanLines_cons_eq_ok.2 ⟨_, _, _, front, back, _, run, encoded, behind, rfl, rfl⟩⟩

end Scan

end MatlabTidy
