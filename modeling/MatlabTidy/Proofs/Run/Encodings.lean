import MatlabTidy.Config.Settings
import MatlabTidy.Proofs.Charset.Writing
import MatlabTidy.Proofs.Rule.Bounds
import MatlabTidy.Proofs.Run.Findings
import MatlabTidy.Proofs.Run.Isolation

/-!
# What stops a walk

A walk goes on after most failures of a file. In one of the four encodings, a file that can be read delivers lines
that can be written again, so that nothing but a source beyond all bounds stops the walk, or a report that the
console cannot encode; any other encoding of the host may besides fail in ways of its own (`Scan.Unscannable`),
though one that is a table of characters does not (`Scan.Unscannable.beyond_ofTable`). An encoding that is not known
is no trouble of one file: the first source that is opened stops the walk (`Scan.Stumbles`). `Walk.walk_ends` says
how a walk ends that asks nobody.
-/

namespace MatlabTidy

open Rule (table)

theorem AccessError.isLocal {error : AccessError} (h : error.cause ≠ .embeddedNull) :
    (Failure.access error).IsLocal := .inl (decide_eq_true h)

/-- Without its fixes a report has no more to write. -/
theorem FileReport.unwritable_of_withoutFixes {report : FileReport} {fix : Bool}
    (h : report.withoutFixes.isTallyWritable fix = false) : report.isTallyWritable fix = false := by
  have errors : report.withoutFixes.totalErrors = report.totalErrors := rfl
  have fixes : report.withoutFixes.totalFixes = 0 := by
    unfold totalFixes withoutFixes
    dsimp only
    induction report.fixes with
    | nil => rfl
    | cons n fixes ih => rw [List.map_cons, List.foldr_cons, ih, Int.add_zero]
  have zero : Text.isWritable 0 = true := by decide +kernel
  rw [isTallyWritable, errors, fixes, zero, Bool.or_true, Bool.and_true] at h
  rw [isTallyWritable, h, Bool.false_and]

/-- A text whose characters all stand in the table can be written. -/
theorem Codec.exists_encode_ofTable {table : UInt8 → Char} {text : List Char} (has : ∀ c ∈ text, ∃ b, table b = c)
    (written : List (List Char)) : ∃ bytes, (Codec.ofTable table).encode written text = .ok bytes := by
  have found : ∀ c, (∃ b, table b = c) → ∃ b, ((List.range 256).map Nat.toUInt8).find? (table · = c) = some b := by
    rintro c ⟨b, here⟩
    refine Option.isSome_iff_exists.1 (List.find?_isSome.2 ⟨b, List.mem_map.2 ⟨b.toNat, ?_, ?_⟩, decide_eq_true here⟩)
    · exact List.mem_range.2 b.toNat_lt
    · exact UInt8.ofNat_toNat
  induction text with
  | nil => exact ⟨[], rfl⟩
  | cons c text ih =>
    obtain ⟨first, rest⟩ := List.forall_mem_cons.1 has
    obtain ⟨b, found⟩ := found c first
    obtain ⟨bytes, encodes⟩ := ih rest
    refine ⟨b :: bytes, ?_⟩
    unfold Codec.ofTable at encodes ⊢
    dsimp only at encodes ⊢
    rw [List.mapM_cons, found, encodes]
    rfl

namespace Line

variable {rules : List Rule} {options : Options} {number : Nat} {raw raw' : List Char} {failure : Failure}
variable {counts : List Count} {w w' : World}

/-- A line is put together anew from its characters and blanks. -/
theorem mem_of_scan (h : (scan rules options number raw).run w = .ok (raw', counts) w') :
    ∀ c ∈ raw', c ∈ raw ∨ c = ' ' := by
  have whole := mark_append_body_append number raw
  unfold scan at h
  dsimp only at h
  split at h
  · obtain ⟨⟨text, others⟩, w₁, checked, h⟩ := Job.run_bind_eq_ok.1 h
    obtain ⟨found, w₂, -, turned⟩ := Job.run_bind_eq_ok.1 checked
    cases h
    refine mem_of_forall_body number (checkMatches_keeps
      (P := fun line => ∀ c ∈ line, c ∈ body number (.ofRaw raw) ∨ c = ' ') ?_ (fun c mem => .inl mem) turned)
    intro rule line kept c mem
    exact (rule.mem_fix mem).elim (kept c) .inr
  · cases h
    exact fun c mem => .inl (whole ▸ mem)

/-- A line that cannot be scanned has more characters than a ruler has room for. -/
theorem long_of_scan (known : ∀ rule ∈ rules, rule ∈ table) (quiet : options.interactive = false)
    (h : (scan rules options number raw).run w = .error failure w') :
    Columns.mostCells ≤ (raw.length : Int) ∧ ∃ error, failure = .ruler error := by
  have inside := length_body_le number raw
  unfold scan at h
  dsimp only at h
  rw [← body] at h
  split at h
  · rcases Job.run_bind_eq_error.1 h with h | ⟨_, w₁, -, h⟩
    · rw [check, Rule.evaluate_eq_pure known, pure_bind] at h
      rcases undrawn_of_checkMatches (fun _ => quiet) h with
        ⟨shown, matched, mem, -, error, undrawn, rfl⟩ | ⟨-, matched, -, repairs, raises⟩
      · obtain ⟨rule, present, rfl⟩ := List.mem_map.1 mem
        refine ⟨?_, error, rfl⟩
        by_contra short
        have small : ((body number (.ofRaw raw)).length : Int) < Columns.mostCells := by omega
        obtain ⟨ruler, drawn⟩ := drawable_of_length_lt options (known rule present) small shown
        rw [undrawn] at drawn
        cases drawn
      · exact absurd raises (Rule.not_raises_of_repair? repairs failure)
    · cases h
  · cases h

end Line

namespace Scan

variable {host : Host} {setup : Setup} {rules : List Rule} {options : Options} {path name : String}
variable {assessment : Assessment} {encoding : Charset ⊕ Codec} {bytes : List UInt8} {number : Nat}
variable {raws : List (List Char)} {failure : Failure} {w w' : World}

/-- Why a source that was opened cannot be scanned: it is beyond all bounds, its encoding fails in a way of its own,
or the console cannot encode the report on it. -/
inductive Unscannable (host : Host) (encoding : Charset ⊕ Codec) (rules : List Rule) (fix : Bool) (bytes : List UInt8) :
    Failure → Prop where
  /-- No ruler can be drawn under a line. -/
  | line {raw : List Char} {error : RulerError} (mem : raw ∈ deliveredIn encoding bytes)
      (long : Columns.mostCells ≤ (raw.length : Int)) : Unscannable host encoding rules fix bytes (.ruler error)
  /-- There are more offences than can be told. -/
  | tally (countless : Countless rules (deliveredIn encoding bytes)) :
      Unscannable host encoding rules fix bytes .numberUnwritable
  | untold {report : FileReport} {verbose : Bool} {error : EncodeError} (fair : report.Fair rules)
      (fault : host.consoleFault? report fix verbose = some (.unencodable error)) :
      Unscannable host encoding rules fix bytes (.encode error)
  | reading {codec : Codec} {message : String} (other : encoding = .inr codec)
      (fails : (codec.read bytes).2 = some (.failed message)) :
      Unscannable host encoding rules fix bytes (.charset (.failed message))
  /-- A text cannot be written, though there is nothing in it but what was read, and blanks. -/
  | writing {codec : Codec} {message : String} {written : List (List Char)} {text : List Char}
      (other : encoding = .inr codec) (on : fix = true)
      (made : ∀ c ∈ text, (∃ raw ∈ deliveredIn encoding bytes, c ∈ raw) ∨ c = ' ')
      (fails : codec.encode written text = .error message) :
      Unscannable host encoding rules fix bytes (.charset (.failed message))

/-- In an encoding of one byte to a character that has the blank, what was read can be written again: a source that
cannot be scanned is beyond all bounds, or the console cannot encode the report on it. -/
theorem Unscannable.beyond_ofTable {table : UInt8 → Char} {fix : Bool} (blank : ∃ b, table b = ' ')
    (h : Unscannable host (.inr (Codec.ofTable table)) rules fix bytes failure) :
    (∃ raw ∈ Text.rawLines (bytes.map table), Columns.mostCells ≤ (raw.length : Int)) ∨
      Countless rules (Text.rawLines (bytes.map table)) ∨ ∃ error, failure = .encode error := by
  cases h with
  | line mem long => exact .inl ⟨_, mem, long⟩
  | tally countless => exact .inr (.inl countless)
  | untold => exact .inr (.inr ⟨_, rfl⟩)
  | reading other fails =>
    cases other
    cases fails
  | @writing _ _ _ text other on made fails =>
    cases other
    have has : ∀ c ∈ text, ∃ b, table b = c := by
      intro c mem
      rcases made c mem with ⟨raw, delivered, inside⟩ | rfl
      · have read : c ∈ (Text.rawLines (bytes.map table)).flatten := List.mem_flatten.2 ⟨raw, delivered, inside⟩
        rw [Text.flatten_rawLines] at read
        obtain ⟨b, -, same⟩ := List.mem_map.1 read
        exact ⟨b, same⟩
      · exact blank
    obtain ⟨coded, encodes⟩ := Codec.exists_encode_ofTable has _
    rw [encodes] at fails
    cases fails

section Quiet

variable (known : ∀ rule ∈ rules, rule ∈ table) (quiet : options.interactive = false)

include known quiet

/-- Lines cannot be scanned because one of them is too long, or because a line cannot be written. What is true of an
encoder stays so if it is kept by what the encoder writes. -/
theorem failure_of_scanLines {E : Type} [Encoder E] {P : E → Prop} {encoder : E}
    (keeps : ∀ {encoder number text bytes next}, P encoder → Encoder.write encoder number text = .ok (bytes, next) →
      P next) (own : P encoder) (h : (scanLines encoder rules options number raws).run w = .error failure w') :
    (∃ raw ∈ raws, Columns.mostCells ≤ (raw.length : Int) ∧ ∃ error, failure = .ruler error) ∨
      options.fix = true ∧ ∃ encoder' number' text, P encoder' ∧ (∀ c ∈ text, (∃ raw ∈ raws, c ∈ raw) ∨ c = ' ') ∧
        Encoder.write encoder' number' text = .error failure := by
  induction raws generalizing number encoder w with
  | nil => cases h
  | cons raw raws ih =>
    -- What is found behind the first line is found in the whole.
    have behind : ∀ {next : E} {w₁ : World}, P next →
        (scanLines next rules options (number + 1) raws).run w₁ = .error failure w' →
        (∃ other ∈ raw :: raws, Columns.mostCells ≤ (other.length : Int) ∧ ∃ error, failure = .ruler error) ∨
          options.fix = true ∧ ∃ encoder' number' text, P encoder' ∧
            (∀ c ∈ text, (∃ other ∈ raw :: raws, c ∈ other) ∨ c = ' ') ∧
            Encoder.write encoder' number' text = .error failure := by
      intro next w₁ kept h
      rcases ih kept h with ⟨other, mem, long⟩ | ⟨fix, encoder', number', text, kept', made, fails⟩
      · exact .inl ⟨other, List.mem_cons_of_mem _ mem, long⟩
      · refine .inr ⟨fix, encoder', number', text, kept', fun c mem => ?_, fails⟩
        exact (made c mem).imp_left fun ⟨other, mem, inside⟩ => ⟨other, List.mem_cons_of_mem _ mem, inside⟩
    rw [scanLines] at h
    rcases Job.run_bind_eq_error.1 h with h | ⟨⟨raw', counts⟩, w₁, scanned, h⟩
    · exact .inl ⟨raw, List.mem_cons_self, Line.long_of_scan known quiet h⟩
    by_cases fix : options.fix = true
    · simp only [fix, if_true] at h
      rcases Job.run_bind_eq_error.1 h with h | ⟨⟨front, next⟩, w₂, wrote, h⟩
      · obtain ⟨e, fails, rfl, -⟩ := Job.run_ofExcept_eq_error.1 h
        refine .inr ⟨fix, encoder, number, raw', own, fun c mem => ?_, fails⟩
        exact (Line.mem_of_scan scanned c mem).imp_left fun inside => ⟨raw, List.mem_cons_self, inside⟩
      · obtain ⟨written, -⟩ := Job.run_ofExcept_eq_ok.1 wrote
        rcases Job.run_bind_eq_error.1 h with h | ⟨_, w₃, -, h⟩
        · exact behind (keeps own written) h
        · cases h
    · simp only [fix, Bool.false_eq_true, if_false, pure_bind] at h
      rcases Job.run_bind_eq_error.1 h with h | ⟨_, w₂, -, h⟩
      · exact behind own h
      · cases h

/-- In one of the four encodings, what was read can be written again: a repair adds blanks only. -/
theorem long_of_scanLines {charset : Charset} (writable : ∀ raw ∈ raws, ∀ c ∈ raw, charset.has c = true)
    (h : (scanLines charset rules options number raws).run w = .error failure w') :
    ∃ raw ∈ raws, Columns.mostCells ≤ (raw.length : Int) ∧ ∃ error, failure = .ruler error := by
  have keeps : ∀ {encoder : Charset} {number text bytes} {next : Charset}, encoder = charset →
      Encoder.write encoder number text = .ok (bytes, next) → next = charset := by
    rintro encoder number text bytes next rfl written
    exact (Charset.write_eq_ok.1 written).2
  rcases failure_of_scanLines known quiet (P := (· = charset)) keeps rfl h with
    long | ⟨-, encoder, number', text, rfl, made, fails⟩
  · exact long
  · have has : ∀ c ∈ text, encoder.has c = true := by
      intro c mem
      rcases made c mem with ⟨raw, present, inside⟩ | rfl
      · exact writable raw present c inside
      · exact encoder.has_blank
    obtain ⟨coded, encodes⟩ := (Charset.exists_encode_iff (number' == 1)).2 has
    obtain ⟨e, refused, -⟩ := Charset.write_eq_error.1 fails
    rw [encodes] at refused
    cases refused

theorem failure_of_scanBytes (h : (scanBytes encoding rules options bytes).run w = .error failure w') :
    failure.IsLocal ∨ Unscannable host encoding rules options.fix bytes failure := by
  cases encoding with
  | inl charset =>
    rcases Job.run_bind_eq_error.1 h with h | ⟨_, w₁, -, h⟩
    · obtain ⟨raw, mem, long, error, rfl⟩ := long_of_scanLines known quiet (fun _ => Charset.has_of_mem_read) h
      exact .inr (.line mem long)
    · split at h
      · rename_i broken
        obtain ⟨error, -, rfl⟩ := Option.map_eq_some_iff.1 broken
        cases h
        exact .inl (.inl rfl)
      · cases h
  | inr codec =>
    rcases Job.run_bind_eq_error.1 h with h | ⟨_, w₁, -, h⟩
    · have keeps : ∀ {encoder : Codec.Writer} {number text bytes} {next : Codec.Writer}, encoder.codec = codec →
          Encoder.write encoder number text = .ok (bytes, next) → next.codec = codec := by
        rintro encoder number text bytes next rfl written
        rw [(Codec.Writer.write_eq_ok.1 written).2]
      rcases failure_of_scanLines known quiet (P := (·.codec = codec)) keeps rfl h with
        ⟨raw, mem, long, error, rfl⟩ | ⟨fix, encoder, number', text, rfl, made, fails⟩
      · exact .inr (.line mem long)
      · obtain ⟨message, refused, rfl⟩ := Codec.Writer.write_eq_error.1 fails
        exact .inr (.writing rfl fix made refused)
    · split at h
      · rename_i broken
        obtain ⟨fault, found, rfl⟩ := Option.map_eq_some_iff.1 broken
        cases h
        cases fault with
        | undecodable error => exact .inl (.inl rfl)
        | failed message => exact .inr (.reading rfl found)
      · cases h

omit known quiet in
/-- A report that cannot be told is one of too many offences, or one that the console does not take, whether or not
the fixes are kept. -/
theorem failure_of_finishOn {file : FileReport} {counts : List Count} {fix verbose : Bool}
    (fair : List.Forall₂ (Rule.Fair (deliveredIn encoding bytes).flatten.length) rules counts)
    (same : file = report name rules counts assessment ∨ file = (report name rules counts assessment).withoutFixes)
    (h : (finishOn host file fix verbose).run w = .error failure w') :
    failure.IsLocal ∨ Unscannable host encoding rules fix bytes failure := by
  have whole : (report name rules counts assessment).Fair rules := fair_report name assessment fair
  rcases run_finishOn_eq_error h with ⟨rfl, unwritable⟩ | ⟨fault, refuses, rfl⟩
  · rcases same with rfl | rfl
    · exact .inr (.tally (countless_of_unwritable fair unwritable))
    · exact .inr (.tally (countless_of_unwritable fair (FileReport.unwritable_of_withoutFixes unwritable)))
  · cases fault with
    | refused explanation => exact .inl (AccessError.isLocal nofun)
    | unencodable error =>
      rcases same with rfl | rfl
      · exact .inr (.untold whole refuses)
      · exact .inr (.untold whole.withoutFixes refuses)

/-- A source that was opened is scanned and written again, unless there is trouble with it, or it cannot be scanned. -/
theorem failure_of_scanOpened (clean : w.volume.Clean path)
    (h : ((partsOn host setup rules options).scanOpened options path name assessment
      (scanBytes encoding rules options bytes)).run w = .error failure w') :
    failure.IsLocal ∨ Unscannable host encoding rules options.fix bytes failure := by
  cases fix : options.fix with
  | true =>
    rw [Parts.scanOpened, if_pos fix] at h
    rw [← fix]
    have ends := (partsOn host setup rules options).run_replaceFile options path name assessment
      (scanBytes encoding rules options bytes) w
    generalize ((partsOn host setup rules options).replaceFile options path name assessment
      (scanBytes encoding rules options bytes)).run w = ended at h ends
    cases ends with
    | unmade makes =>
      cases h
      exact .inl (AccessError.isLocal (clean.makeTemporary makes))
    | unscanned makes scans =>
      cases h
      exact failure_of_scanBytes known quiet scans
    | heldBack makes scans held =>
      rw [Parts.run_giveUp_eq_error, partsOn_finish] at h
      rcases h with unfinished | ⟨-, rfl⟩
      · rw [fix]
        exact failure_of_finishOn (fair_of_scanBytes scans) (.inr rfl) unfinished
      · exact .inl (.inr ⟨_, rfl⟩)
    | moved makes scans unlocked moves =>
      rw [Parts.run_conclude_eq_error, partsOn_finish] at h
      exact failure_of_finishOn (fair_of_scanBytes scans) (.inl rfl) h
  | false =>
    rw [Parts.scanOpened, if_neg (by simp [fix])] at h
    rw [← fix]
    rcases Job.run_bind_eq_error.1 h with h | ⟨⟨_, counts⟩, w₁, scans, h⟩
    · exact failure_of_scanBytes known quiet h
    · dsimp only at h
      rw [Parts.run_conclude_eq_error, partsOn_finish] at h
      exact failure_of_finishOn (fair_of_scanBytes scans) (.inl rfl) h

end Quiet

/-- The encoding is refused when the file is opened: at once if its name cannot be looked up at all, and else
when the file could be opened. -/
structure Stumbles (host : Host) (v : Volume) (encoding path : String) (error : CharsetError) : Prop where
  unknown : host.encoding encoding = .error error
  reached : Charset.checkName encoding = .ok () → host.refusal? path = none ∧ ∃ bytes, v.read path = .ok bytes

/-- A name that cannot be looked up names no encoding. -/
theorem encoding_of_checkName {encoding : String} {error : CharsetError}
    (named : Charset.checkName encoding = .error error) : host.encoding encoding = .error error := by
  have unknown : Charset.ofName encoding = .error error := by
    rw [Charset.ofName, named]
    rfl
  have null : error = .embeddedNull := by
    unfold Charset.checkName at named
    split at named
    · exact (Except.error.inj named).symm
    · cases named
  unfold Host.encoding
  rw [unknown, null]

/-- Where the encoding is refused, no source is opened. -/
theorem run_openLines_of_stumbles {error : CharsetError} (h : Stumbles host w.volume setup.encoding path error) :
    (openLines host setup rules options path).run w = .error (.charset error) w := by
  rw [openLines]
  cases named : Charset.checkName setup.encoding with
  | error e =>
    have other := h.unknown
    rw [encoding_of_checkName named] at other
    cases other
    rfl
  | ok _ =>
    obtain ⟨free, bytes, read⟩ := h.reached named
    rw [Job.run_bind_of_ok (Job.run_ofExcept_ok _ _), Job.run_bind_of_ok (Job.run_ask_eq_ok.2 ⟨read, rfl⟩), free,
      h.unknown]
    rfl

/-- A source is not opened where the encoding is refused, or because it cannot be read. -/
theorem run_openLines_eq_error (h : (openLines host setup rules options path).run w = .error failure w') :
    (∃ error, failure = .charset error ∧ Stumbles host w.volume setup.encoding path error) ∨
      ∃ error, failure = .access error ∧
        (w.volume.read path = .error error ∨ ∃ explanation, error = ⟨.refused explanation, path⟩) := by
  rw [openLines] at h
  cases named : Charset.checkName setup.encoding with
  | error e =>
    rw [named] at h
    cases h
    exact .inl ⟨e, rfl, encoding_of_checkName named, fun named' => by rw [named] at named'; cases named'⟩
  | ok _ =>
    rw [named, Job.run_bind_of_ok (Job.run_ofExcept_ok _ _)] at h
    cases read : w.volume.read path with
    | error e =>
      rcases Job.run_bind_eq_error.1 h with h | ⟨_, w₁, asked, -⟩
      · rw [Job.run_ask_of_error read] at h
        cases h
        exact .inr ⟨e, rfl, .inl rfl⟩
      · rw [Job.run_ask_of_error read] at asked
        cases asked
    | ok bytes =>
      rw [Job.run_bind_of_ok (Job.run_ask_eq_ok.2 ⟨read, rfl⟩)] at h
      cases free : host.refusal? path with
      | some explanation =>
        rw [free] at h
        cases h
        exact .inr ⟨_, rfl, .inr ⟨explanation, rfl⟩⟩
      | none =>
        rw [free] at h
        dsimp only at h
        cases unknown : host.encoding setup.encoding with
        | error e =>
          rw [unknown] at h
          cases h
          exact .inl ⟨e, rfl, unknown, fun _ => ⟨free, bytes, read⟩⟩
        | ok encoding =>
          rw [unknown] at h
          cases h

section Assessed

variable {opened : World} {shownAs : Option String} (source : isSource path = true)
variable (assessed : (assess setup path).run w = .ok assessment opened)

include source assessed

/-- A scan stops where the encoding is refused. -/
theorem run_partsOn_of_stumbles {error : CharsetError} (h : Stumbles host w.volume setup.encoding path error) :
    ((partsOn host setup rules options).run options path shownAs).run w = .error (.charset error) opened := by
  rw [← (assess_again assessed).1] at h
  exact Parts.run_of_unopened source assessed (run_openLines_of_stumbles h)

/-- A scan that asks nobody fails where the encoding is refused, or for the trouble of one file, or because the source
cannot be scanned. -/
theorem failure_of_partsOn (known : ∀ rule ∈ rules, rule ∈ table) (quiet : options.interactive = false)
    (clean : w.volume.Clean path)
    (h : ((partsOn host setup rules options).run options path shownAs).run w = .error failure w') :
    (∃ error, failure = .charset error ∧ Stumbles host w.volume setup.encoding path error) ∨ failure.IsLocal ∨
      ∃ encoding bytes, host.encoding setup.encoding = .ok encoding ∧ w.volume.read path = .ok bytes ∧
        Unscannable host encoding rules options.fix bytes failure := by
  have same := (assess_again assessed).1
  have ends := (partsOn host setup rules options).run_run options path shownAs w
  generalize ((partsOn host setup rules options).run options path shownAs).run w = ended at h ends
  cases ends with
  | other other =>
    rw [source] at other
    cases other
  | unassessed _ fails => cases assessed.symm.trans fails
  | unopened _ assessed' fails =>
    cases assessed.symm.trans assessed'
    cases h
    rw [← same] at clean ⊢
    rcases run_openLines_eq_error fails with stumbles | ⟨error, rfl, unread | ⟨explanation, rfl⟩⟩
    · exact .inl stumbles
    · exact .inr (.inl (AccessError.isLocal (clean.read unread)))
    · exact .inr (.inl (AccessError.isLocal nofun))
  | opened o =>
    obtain ⟨calm, bytes, encoding, read, -, named, lines⟩ := o.onHost
    rw [lines] at h
    rw [← calm.volume] at clean
    rcases failure_of_scanOpened known quiet clean h with here | unscannable
    · exact .inr (.inl here)
    · exact .inr (.inr ⟨encoding, bytes, named, read, unscannable⟩)

end Assessed

end Scan

namespace Walk

/-- The code checker gives a result for the file. -/
def Assesses (setup : Setup) (path : String) : Prop :=
  ∀ w, ∃ assessment opened, (Scan.assess setup path).run w = .ok assessment opened

/-- The plan of a walk on a host. -/
abbrev planOn (host : Host) (setup : Setup) (rules : List Rule) (options : Options) (path : String)
    (root : Option String) : Plan := planWith (scanOn host setup rules options) path root

section Visits

variable {host : Host} {setup : Setup} {rules : List Rule} {options : Options} {target path : String}
variable {root : Option String} {outcome : Outcome} {visits : List (String × Outcome)} {failure : Failure}
variable {error : CharsetError} {w w' : World}

/-- What the scan of a file comes to is what its parts come to. -/
theorem attempt_planOn (path : String) (w : World) : (planOn host setup rules options target root).attempt path w =
    ((Scan.partsOn host setup rules options).run options path
        (some ((planOn host setup rules options target root).shown w path))).run
      (w.saying [.notice .info s!"Evaluating: {(planOn host setup rules options target root).shown w path}"]) := by
  unfold Plan.attempt
  dsimp only
  rw [scanOn]

theorem dependable_planOn (quiet : options.interactive = false) :
    Dependable (planOn host setup rules options target root).scan := by
  dsimp only
  exact dependable_scanOn host setup rules quiet

/-- No visit ends where the encoding is refused. -/
theorem Visit.not_stumbles (visit : Visit (planOn host setup rules options target root) path w outcome w')
    (source : isSource path = true) (assesses : Assesses setup path) :
    ¬ Scan.Stumbles host w.volume setup.encoding path error := by
  intro stumbles
  obtain ⟨assessment, opened, assessed⟩ := assesses
    (w.saying [.notice .info s!"Evaluating: {(planOn host setup rules options target root).shown w path}"])
  have run : (planOn host setup rules options target root).attempt path w = .error (.charset error) opened := by
    rw [attempt_planOn]
    exact Scan.run_partsOn_of_stumbles source assessed stumbles
  exact visit.not_halt ⟨run, rfl, rfl⟩

/-- In an encoding that is not known no source is opened, so a visit leaves the volume as it was. -/
theorem Visit.volume_of_unknown (visit : Visit (planOn host setup rules options target root) path w outcome w')
    (unknown : host.encoding setup.encoding = .error error) : w'.volume = w.volume := by
  have unopened : ∀ {w : World}, (Scan.partsOn host setup rules options).Opening path w → False := by
    intro w o
    obtain ⟨-, -, encoding, -, -, known, -⟩ := o.onHost
    cases unknown.symm.trans known
  have fails : ∀ {failure w₁}, (planOn host setup rules options target root).attempt path w = .error failure w₁ →
      w₁.volume = w.volume := by
    intro failure w₁ run
    rw [attempt_planOn] at run
    rcases Scan.partsOn_run_eq_error run with ⟨calm, -⟩ | ⟨-, o, -⟩
    · exact calm.volume
    · exact (unopened o).elim
  cases visit with
  | scanned run =>
    rw [attempt_planOn] at run
    obtain ⟨o, -⟩ := Scan.Parts.run_run_eq_ok.1 run
    exact (unopened o).elim
  | unreplaced run =>
    have same := fails run
    exact same
  | unreadable run =>
    have same := fails run
    exact same

theorem Trip.volume_of_unknown (trip : Trip (planOn host setup rules options target root) w visits w')
    (unknown : host.encoding setup.encoding = .error error) : w'.volume = w.volume := by
  induction trip with
  | done w => rfl
  | say _ _ ih => exact ih
  | visit here _ ih => exact ih.trans (here.volume_of_unknown unknown)

/-- A trip does not go elsewhere. -/
theorem Trip.here {plan : Plan} (dependable : Dependable plan.scan) (trip : Trip plan w visits w') :
    w'.volume.here = w.volume.here := by
  induction trip with
  | done w => rfl
  | say _ _ ih => exact ih
  | visit here _ ih => exact ih.trans (here.here dependable)

/-- Where a file may stop a walk: its encoding is refused, or it cannot be scanned. -/
inductive Stops (host : Host) (setup : Setup) (rules : List Rule) (fix : Bool) (v : Volume) (path : String) :
    Failure → Prop where
  | stumbled {error : CharsetError} (stumbles : Scan.Stumbles host v setup.encoding path error) :
      Stops host setup rules fix v path (.charset error)
  | unscannable {encoding : Charset ⊕ Codec} {bytes : List UInt8} {failure : Failure}
      (known : host.encoding setup.encoding = .ok encoding) (read : v.read path = .ok bytes)
      (unscannable : Scan.Unscannable host encoding rules fix bytes failure) : Stops host setup rules fix v path failure

theorem Halt.stops (halt : Halt (planOn host setup rules options target root) path w failure w')
    (known : ∀ rule ∈ rules, rule ∈ Rule.table) (quiet : options.interactive = false) (source : isSource path = true)
    (clean : w.volume.Clean path) (assesses : Assesses setup path) :
    Stops host setup rules options.fix w.volume path failure := by
  obtain ⟨assessment, opened, assessed⟩ := assesses
    (w.saying [.notice .info s!"Evaluating: {(planOn host setup rules options target root).shown w path}"])
  have run := halt.run
  rw [attempt_planOn] at run
  rcases Scan.failure_of_partsOn source assessed known quiet clean run with
    ⟨error, rfl, stumbles⟩ | (trouble | ⟨report, carries⟩) | ⟨encoding, bytes, named, read, unscannable⟩
  · exact .stumbled stumbles
  · rw [halt.grave] at trouble
    cases trouble
  · rw [halt.bare] at carries
    cases carries
  · exact .unscannable named read unscannable

/-- How a walk that asks nobody ends: it gives an account of every file; or it has visited some of the files when
it came to one where the encoding is refused, or that cannot be scanned; or to an entry that cannot be looked up, or
to folders that nest too deep. -/
inductive Ends (host : Host) (setup : Setup) (rules : List Rule) (fix : Bool) (plan : Plan) (w : World)
    (steps : List Step) : EStateM.Result Failure World Aggregate → Prop where
  | returned {visits : List (String × Outcome)} {a : Aggregate} {w' : World}
      (fine : Step.failures steps = []) (paths : visits.map Prod.fst = Step.scanned steps)
      (accounts : Accounts plan w visits a w')
      (spared : ∀ path ∈ Step.scanned steps, ∀ error, ¬ Scan.Stumbles host w.volume setup.encoding path error) :
      Ends host setup rules fix plan w steps (.ok a w')
  | stumbled {path : String} {error : CharsetError} {w' : World} (mem : path ∈ Step.scanned steps)
      (stumbles : Scan.Stumbles host w.volume setup.encoding path error) :
      Ends host setup rules fix plan w steps (.error (.charset error) w')
  | unscannable {visits : List (String × Outcome)} {path : String} {w₁ w' : World} {encoding : Charset ⊕ Codec}
      {bytes : List UInt8} {failure : Failure} (trip : Trip plan w visits w₁) (mem : path ∈ Step.scanned steps)
      (known : host.encoding setup.encoding = .ok encoding) (read : w₁.volume.read path = .ok bytes)
      (unscannable : Scan.Unscannable host encoding rules fix bytes failure) :
      Ends host setup rules fix plan w steps (.error failure w')
  | lost {failure : Failure} {w' : World} (mem : failure ∈ Step.failures steps) :
      Ends host setup rules fix plan w steps (.error failure w')

/-- A walk that has ended well has not met a file where the encoding is refused. -/
theorem Done.spared {steps : List Step} {a a' : Aggregate}
    (done : Done (planOn host setup rules options target root) steps a w visits a' w')
    (sources : ∀ path ∈ Step.scanned steps, isSource path = true ∧ Assesses setup path) :
    ∀ path ∈ Step.scanned steps, ∀ error, ¬ Scan.Stumbles host w.volume setup.encoding path error := by
  intro path mem error stumbles
  obtain ⟨source, assesses⟩ := sources path mem
  rw [← done.paths] at mem
  obtain ⟨visit, present, rfl⟩ := List.mem_map.1 mem
  obtain ⟨front, behind, rfl⟩ := List.append_of_mem present
  -- no visit before this one has changed anything, so that its file stumbles when it is visited
  obtain ⟨w₁, before, after⟩ := done.trip.cut
  obtain ⟨w₂, w₃, speaking, here, -⟩ := after.first
  have still := (before.append speaking).volume_of_unknown stumbles.unknown
  rw [← still] at stumbles
  exact here.not_stumbles source assesses stumbles

/-- A walk that asks nobody ends in one of these ways, on every host and for the name of any encoding, if the code
checker gives results. With an encoding that is known nothing stumbles, so that the walk gives an account of every
file, unless a source cannot be scanned, an entry cannot be looked up or folders nest too deep. With one that is not
known, a walk that ends well has opened no source. -/
theorem walk_ends (limit : Nat) (host : Host) {top : Place} (known : ∀ rule ∈ rules, rule ∈ Rule.table)
    (quiet : options.interactive = false) (proper : w.volume.Proper) (leads : w.volume.resolve path = .ok top)
    (isFolder : w.volume.node? top = some .folder)
    (assesses : ∀ file ∈ Step.scanned (Step.itinerary limit w.volume options.recursive path), Assesses setup file) :
    Ends host setup rules options.fix (planOn host setup rules options path root) w
      (Step.itinerary limit w.volume options.recursive path)
      ((walkWith limit (scanOn host setup rules options) options.recursive path root).run w) := by
  have dependable : Dependable (planOn host setup rules options path root).scan := dependable_planOn quiet
  have sources : ∀ file ∈ Step.scanned (Step.itinerary limit w.volume options.recursive path),
      isSource file = true ∧ w.volume.Clean file := fun file mem => Step.clean_of_mem_scanned proper mem
  rw [run_walkWith (Volume.isFolder_of_resolve leads isFolder), stepsFrom, if_pos rfl]
  cases run : (runSteps (planWith (scanOn host setup rules options) path root)
      (.empty ((planWith (scanOn host setup rules options) path root).shown w path))
      (Step.itinerary limit w.volume options.recursive path)).run w with
  | ok a w' =>
    obtain ⟨visits, done⟩ := trip_of_runSteps _ _ run
    have files : a.files = reportsOf visits := by
      rw [done.files, Aggregate.files_empty, List.nil_append]
    exact .returned done.fails done.paths (done.trip.accounts dependable files)
      (done.spared fun file mem => ⟨(sources file mem).1, assesses file mem⟩)
  | error failure w' =>
    obtain ⟨visits, w₁, rest, trip, paths, cause⟩ := stopped_of_runSteps _ _ run
    rcases cause with ⟨next, first, halt⟩ | ⟨mem, -⟩
    · obtain ⟨others, rfl⟩ := List.head?_eq_some_iff.1 first
      have mem : next ∈ Step.scanned (Step.itinerary limit w.volume options.recursive path) := by
        refine paths ▸ List.mem_append_right _ List.mem_cons_self
      obtain ⟨source, clean⟩ := sources next mem
      have clean' := clean.elsewhere (trip.here dependable)
      cases halt.stops known quiet source clean' (assesses next mem) with
      | stumbled stumbles =>
        -- nothing was rewritten on the way, so the file was there from the start
        have still := trip.volume_of_unknown stumbles.unknown
        rw [still] at stumbles
        exact .stumbled mem stumbles
      | unscannable known' read unscannable => exact .unscannable trip mem known' read unscannable
    · exact .lost mem

end Visits

section Unknown

open Scan (oneLine)

/-- A run without a code checker, for sources in an encoding that nobody knows. -/
def unknownSetup : Setup := { Scan.plainSetup with encoding := "bogus" }

theorem unknown_bogus : Charset.ofName "bogus" = .error (.unknown "bogus") := by
  have named : Charset.checkName "bogus" = .ok () := rfl
  have plain : Charset.plainName "bogus" = "bogus" := by decide
  have undotted : ("bogus".map fun c => if c = '.' then '_' else c) = "bogus" := by
    rw [← String.toList_inj, String.toList_map]
    decide
  rw [Charset.ofName, named]
  dsimp only [bind, Except.bind]
  rw [plain, undotted]
  rfl

/-- The source in the current folder. -/
theorem holds_here : Volume.Holds oneLine.volume (Path.entry "." "a.m") [120, 61, 49, 10] 0o644 := by
  have good : Volume.IsName "a.m" := ⟨by decide, by decide, by decide, by decide⟩
  have file : oneLine.volume.node? ["a.m"] = some (.file [120, 61, 49, 10] 0o644) := rfl
  exact Volume.holds_dot rfl good (by decide)
    (.node rfl (by decide) (by decide) (by decide) file nofun (.done _ _)) file

theorem itinerary_oneLine (limit : Nat) :
    Step.itinerary (limit + 1) oneLine.volume false "." = [.scan (Path.entry "." "a.m")] := by
  have names : oneLine.volume.namesIn [] = ["a.m"] := rfl
  rw [itinerary_dot rfl, names]
  · rfl
  · rw [names]
    exact List.forall_mem_singleton.2 ⟨Volume.not_isFolder_of_holds holds_here (by decide), by decide⟩

theorem proper_oneLine : oneLine.volume.Proper where
  names := by
    intro entry mem name inside
    rw [List.mem_singleton.1 mem] at inside
    rw [List.mem_singleton.1 inside]
    exact ⟨by decide, by decide, by decide, by decide⟩
  places := List.nodup_singleton _
  order := .nil

theorem stumbles_unknown :
    Scan.Stumbles .bare oneLine.volume unknownSetup.encoding (Path.entry "." "a.m") (.unknown "bogus") where
  unknown := by
    show Host.bare.encoding "bogus" = _
    rw [Host.encoding, unknown_bogus]
    rfl
  reached _ := ⟨rfl, _, holds_here.read⟩

theorem assesses_unknown (file : String) : Assesses unknownSetup file := fun w => ⟨.none, w, rfl⟩

theorem mem_scanned_oneLine (limit : Nat) :
    Path.entry "." "a.m" ∈ Step.scanned (Step.itinerary (limit + 1) oneLine.volume false ".") := by
  rw [itinerary_oneLine]
  exact List.mem_cons_self

/-- The walk stops at the source, although every entry can be looked up. -/
theorem walk_ends_unknown :
    ∃ w', (walk unknownSetup Rule.table ⟨false, false, true⟩ "." none).run oneLine =
      .error (.charset (.unknown "bogus")) w' := by
  have quiet : Options.interactive ⟨false, false, true⟩ = false := rfl
  have ends : Ends .bare unknownSetup Rule.table true (planOn .bare unknownSetup Rule.table ⟨false, false, true⟩ "." none)
      oneLine (Step.itinerary (959 + 1) oneLine.volume false ".")
      ((walk unknownSetup Rule.table ⟨false, false, true⟩ "." none).run oneLine) :=
    walk_ends (959 + 1) .bare (fun _ mem => mem) quiet proper_oneLine (Volume.resolve_dot rfl) rfl
      fun file _ => assesses_unknown file
  generalize (walk unknownSetup Rule.table ⟨false, false, true⟩ "." none).run oneLine = ended at ends ⊢
  cases ends with
  | returned fine paths accounts spared => exact absurd stumbles_unknown (spared _ (mem_scanned_oneLine 959) _)
  | stumbled mem stumbles =>
    cases stumbles.unknown.symm.trans stumbles_unknown.unknown
    exact ⟨_, rfl⟩
  | unscannable trip mem known => cases known.symm.trans stumbles_unknown.unknown
  | lost mem =>
    rw [itinerary_oneLine] at mem
    cases mem

/-- The settings take any text for an encoding, but a walk stops where nobody knows it. -/
theorem unknown_encoding_stops :
    ∃ settings, Settings.ofTable [("encoding", .text "bogus")] = (settings, []) ∧
      ∀ a w', (walk { Scan.plainSetup with encoding := settings.encoding } Rule.table ⟨false, false, true⟩ "."
        none).run oneLine ≠ .ok a w' := by
  refine ⟨_, rfl, fun a w' run => ?_⟩
  obtain ⟨isFolder, visits, answer, done⟩ := done_of_walk run
  obtain rfl : true = isFolder := by
    have folder := Volume.isFolder_of_resolve (v := oneLine.volume) (Volume.resolve_dot rfl) rfl
    exact Except.ok.inj (folder.symm.trans answer)
  have sources : ∀ path ∈ Step.scanned (Step.itinerary (959 + 1) oneLine.volume false "."),
      isSource path = true ∧ Assesses unknownSetup path :=
    fun path mem => ⟨(Step.clean_of_mem_scanned proper_oneLine mem).1, assesses_unknown path⟩
  exact done.spared sources _ (mem_scanned_oneLine 959) _ stumbles_unknown

end Unknown

end Walk

end MatlabTidy
