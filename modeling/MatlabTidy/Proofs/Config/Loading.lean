import MatlabTidy.Config.Discovery
import MatlabTidy.Proofs.Charset.Reading
import MatlabTidy.Proofs.Volume.RealPath

/-!
# Loading the settings

A search for the settings file starts at a path and goes outward (`Discovery.Reaches`); it finds the nearest file
(`Discovery.Nearest`) or is stopped (`Discovery.Astray`). What reading a file comes to depends on its text
(`Discovery.answer`): the section of the settings is taken from it if it has one (`Discovery.HasSection`), and some
contents are refused (`Discovery.Unusable`). `Discovery.load_outcome` puts both together: it says what loading gives,
and what stops it.
-/

namespace MatlabTidy

open Job (run_bind_of_ok run_bind_eq_error run_ask_eq_ok run_ask_of_error run_ofExcept_ok)

namespace Discovery

variable {stack : Stack} {v : Volume} {w : World} {start : Option String} {here : Path} {file : String} {text : List Char}
variable {failure : Failure} {settings : Table}

/-! ### The search -/

/-- The path at which a search starts: that of the current folder, or the real path of a text. -/
inductive Origin (stack : Stack) (v : Volume) : Option String → Path → Prop where
  | current : Origin stack v none (Path.ofPlace v.here)
  | given {text : String} {here : Path} (real : v.realPath stack.links text = .ok here) : Origin stack v (some text) here

/-- A search comes to a file if there is none where it has looked before. -/
def Reaches (stack : Stack) (v : Volume) (start : Option String) (file : String) : Prop :=
  ∃ here inner outer, Origin stack v start here ∧ v.resolve here.text ≠ .error .tooManyLinks ∧
    v.resolve here.text ≠ .error .embeddedNull ∧ (outward here).map fileIn = inner ++ file :: outer ∧
    ∀ other ∈ inner, v.isFile other = .ok false

/-- The file is the nearest settings file. -/
def Nearest (stack : Stack) (v : Volume) (start : Option String) (file : String) : Prop :=
  Reaches stack v start file ∧ v.isFile file = .ok true

/-- What stops a search. -/
inductive Astray (stack : Stack) (v : Volume) (start : Option String) : Failure → Prop where
  /-- The start has no real path. -/
  | lost {text : String} {fault : JourneyFault} (given : start = some text)
      (fails : v.realPath stack.links text = .error fault) :
      Astray stack v start (lost text fault)
  | looped {here : Path} (origin : Origin stack v start here) (loop : v.resolve here.text = .error .tooManyLinks) :
      Astray stack v start (.linkLoop here.text)
  | unnamed {here : Path} (origin : Origin stack v start here) (null : v.resolve here.text = .error .embeddedNull) :
      Astray stack v start (.access ⟨.embeddedNull, here.text⟩)
  /-- What the search comes to cannot be asked about. -/
  | unasked {file : String} {e : AccessError} (reaches : Reaches stack v start file) (fails : v.isFile file = .error e) :
      Astray stack v start (.access e)

/-- The search from a path, once that is known. -/
def seek (v : Volume) (here : Path) : Job (Option String) :=
  match v.resolve here.text with
  | .error .tooManyLinks => throw (.linkLoop here.text)
  | .error .embeddedNull => throw (.access ⟨.embeddedNull, here.text⟩)
  | _ => ((outward here).map fileIn).findM? fun file => Job.ask (·.isFile file)

theorem run_find (origin : Origin stack w.volume start here) :
    (findWith stack start).run w = (seek w.volume here).run w := by
  rw [findWith, run_bind_of_ok (EStateM.run_get _)]
  cases origin with
  | current =>
    dsimp only
    rw [pure_bind]
    rfl
  | given real =>
    dsimp only
    rw [real, run_bind_of_ok (run_ofExcept_ok _ _)]
    rfl

theorem seek_eq (loop : v.resolve here.text ≠ .error .tooManyLinks)
    (null : v.resolve here.text ≠ .error .embeddedNull) :
    seek v here = ((outward here).map fileIn).findM? fun file => Job.ask (·.isFile file) := by
  unfold seek
  split
  · rename_i h
    exact absurd h loop
  · rename_i h
    exact absurd h null
  · rfl

/-- Where the search has found nothing it goes on. -/
theorem run_findM?_append {inner : List String} (passed : ∀ other ∈ inner, w.volume.isFile other = .ok false)
    (outer : List String) :
    ((inner ++ outer).findM? fun file => Job.ask (·.isFile file)).run w =
      (outer.findM? fun file => Job.ask (·.isFile file)).run w := by
  induction inner with
  | nil => rfl
  | cons other inner ih =>
    obtain ⟨first, others⟩ := List.forall_mem_cons.1 passed
    rw [List.cons_append, List.findM?, run_bind_of_ok (run_ask_eq_ok.2 ⟨first, rfl⟩)]
    exact ih others

/-- The search goes to the end, or stops at a file that is there or that cannot be asked about. -/
theorem passed_or_stops (v : Volume) (files : List String) :
    (∀ file ∈ files, v.isFile file = .ok false) ∨
      ∃ inner file outer, files = inner ++ file :: outer ∧ (∀ other ∈ inner, v.isFile other = .ok false) ∧
        v.isFile file ≠ .ok false := by
  induction files with
  | nil => exact .inl (List.forall_mem_nil _)
  | cons file files ih =>
    by_cases here : v.isFile file = .ok false
    · rcases ih with all | ⟨inner, next, outer, rfl, passed, stops⟩
      · exact .inl (List.forall_mem_cons.2 ⟨here, all⟩)
      · exact .inr ⟨file :: inner, next, outer, rfl, List.forall_mem_cons.2 ⟨here, passed⟩, stops⟩
    · exact .inr ⟨[], file, files, rfl, List.forall_mem_nil _, here⟩

/-- A search asks about a file when it comes to it. -/
theorem Reaches.run_find (reaches : Reaches stack w.volume start file) :
    ∃ outer, (findWith stack start).run w = ((file :: outer).findM? fun file => Job.ask (·.isFile file)).run w := by
  obtain ⟨here, inner, outer, origin, loop, null, files, passed⟩ := reaches
  exact ⟨outer, by rw [Discovery.run_find origin, seek_eq loop null, files, run_findM?_append passed]⟩

theorem Nearest.run_find (nearest : Nearest stack w.volume start file) :
    (findWith stack start).run w = .ok (some file) w := by
  obtain ⟨outer, search⟩ := nearest.1.run_find
  rw [search, List.findM?, run_bind_of_ok (run_ask_eq_ok.2 ⟨nearest.2, rfl⟩)]
  rfl

theorem Astray.run_find (astray : Astray stack w.volume start failure) :
    (findWith stack start).run w = .error failure w := by
  cases astray with
  | @lost text fault given fails =>
    subst given
    have stops : (Job.ofExcept (Discovery.lost text) (w.volume.realPath stack.links text)).run w =
        .error (Discovery.lost text fault) w := by
      rw [fails]
      rfl
    rw [findWith, run_bind_of_ok (EStateM.run_get _)]
    exact run_bind_eq_error.2 (.inl stops)
  | looped origin loop =>
    rw [Discovery.run_find origin, seek, loop]
    rfl
  | unnamed origin null =>
    rw [Discovery.run_find origin, seek, null]
    rfl
  | unasked reaches fails =>
    obtain ⟨outer, search⟩ := reaches.run_find
    rw [search, List.findM?]
    exact run_bind_eq_error.2 (.inl (run_ask_of_error fails))

/-- What a search comes to. -/
theorem find_cases (stack : Stack) (start : Option String) (w : World) :
    (∃ failure, Astray stack w.volume start failure) ∨ (∃ file, Nearest stack w.volume start file) ∨
      (findWith stack start).run w = .ok none w := by
  have origin : (∃ text fault, start = some text ∧ w.volume.realPath stack.links text = .error fault) ∨
      ∃ here, Origin stack w.volume start here := by
    cases start with
    | none => exact .inr ⟨_, .current⟩
    | some text =>
      cases real : w.volume.realPath stack.links text with
      | error fault => exact .inl ⟨text, fault, rfl, real⟩
      | ok here => exact .inr ⟨here, .given real⟩
  rcases origin with ⟨text, fault, given, fails⟩ | ⟨here, origin⟩
  · exact .inl ⟨_, .lost given fails⟩
  by_cases loop : w.volume.resolve here.text = .error .tooManyLinks
  · exact .inl ⟨_, .looped origin loop⟩
  by_cases null : w.volume.resolve here.text = .error .embeddedNull
  · exact .inl ⟨_, .unnamed origin null⟩
  rcases passed_or_stops w.volume ((outward here).map fileIn) with all | ⟨inner, file, outer, files, passed, stops⟩
  · have whole := run_findM?_append all []
    rw [List.append_nil] at whole
    rw [run_find origin, seek_eq loop null]
    exact .inr (.inr whole)
  · have reaches : Reaches stack w.volume start file := ⟨here, inner, outer, origin, loop, null, files, passed⟩
    cases asked : w.volume.isFile file with
    | error e => exact .inl ⟨_, .unasked reaches asked⟩
    | ok found =>
      cases found with
      | false => exact absurd asked stops
      | true => exact .inr (.inl ⟨file, reaches, asked⟩)

/-! ### The file -/

/-- The text of a file, if it is UTF-8. -/
def Holds (v : Volume) (file : String) (text : List Char) : Prop :=
  ∃ bytes, v.read file = .ok bytes ∧ Charset.utf8.Writes bytes text

/-- The file has the section of the settings, and it is a table. -/
def HasSection (stack : Stack) (v : Volume) (file : String) (settings : Table) : Prop :=
  ∃ text document tool, Holds v file text ∧ Toml.parse stack.document text = .ok document ∧
    document.lookup "tool" = some (.table tool) ∧ tool.lookup sectionName = some (.table settings)

/-- What stops a settings file from being read. -/
inductive Unusable (stack : Stack) (v : Volume) (file : String) : Failure → Prop where
  | undecoded {bytes : List UInt8} {e : DecodeError} (read : v.read file = .ok bytes)
      (fails : Charset.utf8.decode bytes = .error e) : Unusable stack v file (.decode e)
  | numberTooLong {text : List Char} {digits : Nat} (holds : Holds v file text)
      (fails : Toml.parse stack.document text = .error (.numberTooLong digits)) :
      Unusable stack v file (.numberTooLong digits)
  | tooDeep {text : List Char} (holds : Holds v file text) (fails : Toml.parse stack.document text = .error .tooDeep) :
      Unusable stack v file .tooDeep
  /-- What should hold the section is no table, and does not count as nothing. -/
  | misplaced {text : List Char} {document : Table} {value : Value} (holds : Holds v file text)
      (parsed : Toml.parse stack.document text = .ok document) (entry : document.lookup "tool" = some value)
      (filled : value.isEmpty = false) (other : ∀ tool, value ≠ .table tool) :
      Unusable stack v file (.notSettings value.kind)

/-- What a document comes to, and what the fault of one comes to. -/
def answer : Except Toml.Error Table → Except Failure Table
  | .error .malformed => .ok []
  | .error (.numberTooLong digits) => .error (.numberTooLong digits)
  | .error .tooDeep => .error .tooDeep
  | .ok document =>
    match filled? document "tool" with
    | none => .ok []
    | some (.table tool) =>
      match filled? tool sectionName with
      | some (.table settings) => .ok settings
      | _ => .ok []
    | some value => .error (.notSettings value.kind)

/-- What the bytes of a file come to. A file that cannot be read counts as empty. -/
def answerTo (stack : Stack) : Except AccessError (List UInt8) → Except Failure Table
  | .error _ => .ok []
  | .ok bytes =>
    match Charset.utf8.decode bytes with
    | .error e => .error (.decode e)
    | .ok text => answer (Toml.parse stack.document text)

theorem outcome_readFile (stack : Stack) (file : String) (w : World) :
    (readFile stack file).outcome w = answerTo stack (w.volume.read file) := by
  rw [readFile, Job.outcome_bind (EStateM.run_get _)]
  dsimp only
  cases w.volume.read file with
  | error e => rfl
  | ok bytes =>
    rw [answerTo]
    dsimp only
    cases Charset.utf8.decode bytes with
    | error e => rfl
    | ok text =>
      rw [Job.outcome_bind (run_ofExcept_ok _ _)]
      dsimp only
      cases Toml.parse stack.document text with
      | error e => cases e <;> rfl
      | ok document =>
        rw [answer]
        dsimp only
        cases filled : filled? document "tool" with
        | none => rw [sectionOf, filled]; rfl
        | some value =>
          cases value with
          | table tool =>
            rw [sectionOf, filled]
            dsimp only
            cases filled? tool sectionName with
            | none => rfl
            | some value => cases value <;> rfl
          | _ => rw [sectionOf, filled]; rfl

theorem Holds.outcome_readFile (holds : Holds w.volume file text) :
    (readFile stack file).outcome w = answer (Toml.parse stack.document text) := by
  obtain ⟨bytes, read, coded⟩ := holds
  have decoded : Charset.utf8.decode bytes = .ok text :=
    (Charset.reads_of_writes Charset.noConfusion coded).decode
  rw [Discovery.outcome_readFile, read, answerTo, decoded]

theorem filled?_eq_some {t : Table} {key : String} {value : Value} :
    filled? t key = some value ↔ t.lookup key = some value ∧ value.isEmpty = false := by
  rw [filled?, Option.filter_eq_some_iff, Bool.not_eq_true']

/-- A table that is not filled is an empty one, if it is there. -/
theorem filled?_table {t inner : Table} {key : String} (entry : t.lookup key = some (.table inner)) :
    filled? t key = some (.table inner) ∨ inner = [] ∧ filled? t key = none := by
  cases inner with
  | nil => exact .inr ⟨rfl, by rw [filled?, entry]; rfl⟩
  | cons entry' inner => exact .inl (filled?_eq_some.2 ⟨entry, rfl⟩)

theorem HasSection.outcome_readFile (h : HasSection stack w.volume file settings) :
    (readFile stack file).outcome w = .ok settings := by
  obtain ⟨text, document, tool, holds, parsed, entry, sect⟩ := h
  rw [holds.outcome_readFile, parsed, answer]
  rcases filled?_table entry with filled | ⟨rfl, -⟩
  · rw [filled]
    dsimp only
    rcases filled?_table sect with filled' | ⟨rfl, unfilled⟩
    · rw [filled']
    · rw [unfilled]
  · cases sect

theorem Unusable.outcome_readFile (h : Unusable stack w.volume file failure) :
    (readFile stack file).outcome w = .error failure := by
  cases h with
  | undecoded read fails => rw [Discovery.outcome_readFile, read, answerTo, fails]
  | numberTooLong holds fails => rw [holds.outcome_readFile, fails, answer]
  | tooDeep holds fails => rw [holds.outcome_readFile, fails, answer]
  | misplaced holds parsed entry filled other =>
    rw [holds.outcome_readFile, parsed, answer, filled?_eq_some.2 ⟨entry, filled⟩]
    split
    · rename_i none
      cases none
    · rename_i tool table
      cases table
      exact absurd rfl (other tool)
    · rename_i same
      cases same
      rfl

/-- What reading a settings file comes to. -/
theorem readFile_cases (stack : Stack) (file : String) (w : World) :
    (∃ failure, Unusable stack w.volume file failure) ∨ (∃ settings, HasSection stack w.volume file settings) ∨
      (readFile stack file).outcome w = .ok [] := by
  cases read : w.volume.read file with
  | error e =>
    right; right
    rw [outcome_readFile, read, answerTo]
  | ok bytes =>
    cases decoded : Charset.utf8.decode bytes with
    | error e => exact .inl ⟨_, .undecoded read decoded⟩
    | ok text =>
      have holds : Holds w.volume file text := ⟨bytes, read, Charset.writes_of_decode nofun decoded⟩
      rw [holds.outcome_readFile]
      cases parsed : Toml.parse stack.document text with
      | error e =>
        cases e with
        | malformed => exact .inr (.inr rfl)
        | numberTooLong digits => exact .inl ⟨_, .numberTooLong holds parsed⟩
        | tooDeep => exact .inl ⟨_, .tooDeep holds parsed⟩
      | ok document =>
        rw [answer]
        cases filled : filled? document "tool" with
        | none => exact .inr (.inr rfl)
        | some value =>
          obtain ⟨entry, some⟩ := filled?_eq_some.1 filled
          cases value with
          | table tool =>
            dsimp only
            cases filled' : filled? tool sectionName with
            | none => exact .inr (.inr rfl)
            | some value =>
              obtain ⟨entry', -⟩ := filled?_eq_some.1 filled'
              cases value with
              | table settings => exact .inr (.inl ⟨settings, text, document, tool, holds, parsed, entry, entry'⟩)
              | _ => exact .inr (.inr rfl)
          | _ => exact .inl ⟨_, .misplaced holds parsed entry some nofun⟩

/-! ### Both -/

/-- What stops the settings from being loaded. -/
inductive Crashes (stack : Stack) (v : Volume) (start : Option String) : Failure → Prop where
  | astray {failure : Failure} (astray : Astray stack v start failure) : Crashes stack v start failure
  | unusable {file : String} {failure : Failure} (nearest : Nearest stack v start file)
      (unusable : Unusable stack v file failure) :
      Crashes stack v start failure

/-- The nearest settings file has the section of the settings. -/
def Provides (stack : Stack) (v : Volume) (start : Option String) (settings : Table) : Prop :=
  ∃ file, Nearest stack v start file ∧ HasSection stack v file settings

theorem Nearest.outcome_load (nearest : Nearest stack w.volume start file) :
    (loadWith stack start).outcome w = (readFile stack file).outcome w := by
  rw [loadWith, Job.outcome_bind nearest.run_find]

theorem Crashes.outcome_load (h : Crashes stack w.volume start failure) :
    (loadWith stack start).outcome w = .error failure := by
  cases h with
  | astray astray => exact Job.outcome_of_error (run_bind_eq_error.2 (.inl astray.run_find))
  | unusable nearest unusable => rw [nearest.outcome_load, unusable.outcome_readFile]

theorem Provides.outcome_load (h : Provides stack w.volume start settings) :
    (loadWith stack start).outcome w = .ok settings := by
  obtain ⟨file, nearest, has⟩ := h
  rw [nearest.outcome_load, has.outcome_readFile]

/-- What loading comes to. -/
theorem load_cases (stack : Stack) (start : Option String) (w : World) :
    (∃ failure, Crashes stack w.volume start failure) ∨ (∃ settings, Provides stack w.volume start settings) ∨
      (loadWith stack start).outcome w = .ok [] := by
  rcases find_cases stack start w with ⟨failure, astray⟩ | ⟨file, nearest⟩ | none
  · exact .inl ⟨failure, .astray astray⟩
  · rcases readFile_cases stack file w with ⟨failure, unusable⟩ | ⟨settings, has⟩ | empty
    · exact .inl ⟨failure, .unusable nearest unusable⟩
    · exact .inr (.inl ⟨settings, file, nearest, has⟩)
    · exact .inr (.inr (nearest.outcome_load.trans empty))
  · right; right
    rw [loadWith, Job.outcome_bind none]
    rfl

/-- A search starts in a folder of a volume: in the current one, or in one that is given by its path. -/
structure StartsIn (v : Volume) (start : Option String) (folder : Place) : Prop where
  start : start = none ∧ folder = v.here ∨ start = some (Path.ofPlace folder).text
  rooted : v.Rooted
  names : Volume.HasNames folder
  folder : v.node? folder = some .folder

namespace StartsIn

variable {folder : Place} (h : StartsIn v start folder)
include h

theorem eq_ofPlace (origin : Origin stack v start here) : here = Path.ofPlace folder := by
  have real := Volume.realPath_ofPlace stack.links h.rooted h.names h.folder
  rcases h.start with ⟨rfl, rfl⟩ | rfl
  · cases origin
    rfl
  · cases origin with
    | given real' => exact Except.ok.inj (real'.symm.trans real)

/-- The path of the folder leads to it without links. -/
theorem resolve_ne : v.resolve (Path.ofPlace folder).text ≠ .error .tooManyLinks ∧
    v.resolve (Path.ofPlace folder).text ≠ .error .embeddedNull := by
  rcases Volume.resolve_ofPlace h.rooted h.names h.folder with resolved | resolved
  · rw [resolved]
    exact ⟨nofun, nofun⟩
  · rw [resolved]
    exact ⟨nofun, nofun⟩

/-- From a folder, a search is stopped only by a path that is too long. -/
theorem of_astray (astray : Astray stack v start failure) : ∃ path, failure = .access ⟨.nameTooLong, path⟩ := by
  cases astray with
  | lost given fails =>
    subst given
    rcases h.start with ⟨none, -⟩ | same
    · cases none
    · cases same
      cases fails.symm.trans (Volume.realPath_ofPlace stack.links h.rooted h.names h.folder)
  | looped origin loop =>
    rw [h.eq_ofPlace origin] at loop
    exact absurd loop h.resolve_ne.1
  | unnamed origin null =>
    rw [h.eq_ofPlace origin] at null
    exact absurd null h.resolve_ne.2
  | unasked reaches fails =>
    obtain ⟨path, rfl⟩ := Volume.eq_nameTooLong_of_asks fails
    exact ⟨path, rfl⟩

end StartsIn

/-- Loading fails exactly where something stops it, and from a folder that is a path that is too long or what stands
in the nearest settings file. Else loading gives the section of the settings in that file if there is one, and an
empty table if there is none. -/
theorem load_outcome (stack : Stack) (start : Option String) (w : World) :
    (∀ failure, (loadWith stack start).outcome w = .error failure ↔ Crashes stack w.volume start failure) ∧
    (∀ table, (loadWith stack start).outcome w = .ok table ↔
      (∀ failure, ¬ Crashes stack w.volume start failure) ∧
        (Provides stack w.volume start table ∨ (∀ settings, ¬ Provides stack w.volume start settings) ∧ table = [])) ∧
    ∀ folder, StartsIn w.volume start folder → ∀ failure, Crashes stack w.volume start failure →
      (∃ path, failure = .access ⟨.nameTooLong, path⟩) ∨
        ∃ file, Nearest stack w.volume start file ∧ Unusable stack w.volume file failure := by
  refine ⟨fun failure => ⟨fun h => ?_, Crashes.outcome_load⟩,
    fun table => ⟨fun h => ⟨fun failure crash => ?_, ?_⟩, ?_⟩, fun folder starts failure crash => ?_⟩
  · rcases load_cases stack start w with ⟨failure', crash⟩ | ⟨settings, provides⟩ | empty
    · cases crash.outcome_load.symm.trans h
      exact crash
    · cases provides.outcome_load.symm.trans h
    · cases empty.symm.trans h
  · cases crash.outcome_load.symm.trans h
  · by_cases some : ∃ settings, Provides stack w.volume start settings
    · obtain ⟨settings, provides⟩ := some
      cases provides.outcome_load.symm.trans h
      exact .inl provides
    · have none : ∀ settings, ¬ Provides stack w.volume start settings := not_exists.1 some
      rcases load_cases stack start w with ⟨failure, crash⟩ | ⟨settings, provides⟩ | empty
      · cases crash.outcome_load.symm.trans h
      · exact absurd provides (none settings)
      · cases empty.symm.trans h
        exact .inr ⟨none, rfl⟩
  · rintro ⟨sound, provides | ⟨none, rfl⟩⟩
    · exact provides.outcome_load
    · rcases load_cases stack start w with ⟨failure, crash⟩ | ⟨settings, provides⟩ | empty
      · exact absurd crash (sound failure)
      · exact absurd provides (none settings)
      · exact empty
  · cases crash with
    | astray astray => exact .inl (starts.of_astray astray)
    | unusable nearest unusable => exact .inr ⟨_, nearest, unusable⟩

section Contents

/-- A world whose current folder, the top, holds a settings file. -/
def withSettings (bytes : List UInt8) : World :=
  ⟨⟨[([fileName], .file bytes 0o644)], [[fileName]], []⟩, none, false, #[]⟩

variable (bytes : List UInt8)

theorem isFile_withSettings :
    (withSettings bytes).volume.isFile "/pyproject.toml" = .ok true ∧
      (withSettings bytes).volume.read "/pyproject.toml" = .ok bytes := by
  have names : Volume.steps "/pyproject.toml" = [fileName] := by decide
  have short : (Path.ofString "/pyproject.toml").text = "/pyproject.toml" := by decide
  have solid : ∀ target, Node.file bytes 0o644 ≠ .link target := nofun
  have leads : (withSettings bytes).volume.resolve "/pyproject.toml" = .ok [fileName] := by
    refine Volume.resolve_eq_ok.2 ⟨rfl, Volume.mostLinks, ?_⟩
    rw [names]
    exact .node rfl (by decide) (by decide) (by decide) rfl solid (.done _ _)
  constructor
  · rw [Volume.isFile, Volume.asks_of_resolve (by rw [short, leads])]
    rfl
  · exact Volume.read_eq_ok.2 ⟨_, _, leads, rfl⟩

/-- The top is a folder, and nothing stands below the settings file. -/
theorem startsIn_withSettings : StartsIn (withSettings bytes).volume none [] where
  start := .inl ⟨rfl, rfl⟩
  rooted := by
    intro place taken
    by_cases top : place = []
    · subst top
      rfl
    · have mem := Volume.mem_of_node? top taken
      obtain rfl : place = [fileName] := by simpa [withSettings] using mem
      rfl
  names := List.forall_mem_nil _
  folder := rfl

theorem nearest_withSettings : Nearest .standard (withSettings bytes).volume none "/pyproject.toml" := by
  have files : (outward (Path.ofPlace [])).map fileIn = ["/pyproject.toml"] := by decide
  obtain ⟨loop, null⟩ := (startsIn_withSettings bytes).resolve_ne
  exact ⟨⟨_, [], [], .current, loop, null, files, List.forall_mem_nil _⟩, (isFile_withSettings bytes).1⟩

/-- The entry that should be a table is a number. -/
theorem parse_number : ∃ document value, Toml.parse Stack.standard.document "tool = 1\n".toList = .ok document ∧
    document.lookup "tool" = some value ∧ value.kind = "int" ∧ value.isEmpty = false := by
  have read : ((Toml.parse Stack.standard.document "tool = 1\n".toList).toOption.bind (·.lookup "tool")).map
      (fun value => (value.kind, value.isEmpty)) = some ("int", false) := by decide +kernel
  obtain ⟨value, found, told⟩ := Option.map_eq_some_iff.1 read
  obtain ⟨document, parsed, entry⟩ := Option.bind_eq_some_iff.1 found
  obtain ⟨kind, filled⟩ := Prod.mk.inj told
  cases result : Toml.parse Stack.standard.document "tool = 1\n".toList with
  | error e =>
    rw [result] at parsed
    cases parsed
  | ok document' =>
    rw [result] at parsed
    cases parsed
    exact ⟨document, value, rfl, entry, kind, filled⟩

theorem crashes_number :
    Crashes .standard (withSettings (Utf8.encode "tool = 1\n".toList)).volume none (.notSettings "int") := by
  obtain ⟨document, value, parsed, entry, kind, filled⟩ := parse_number
  have other : ∀ tool, value ≠ .table tool := by
    rintro tool rfl
    have table : (Value.table tool).kind = "dict" := rfl
    rw [table] at kind
    exact absurd kind (by decide)
  rw [← kind]
  exact .unusable (nearest_withSettings _) (.misplaced ⟨_, (isFile_withSettings _).2, rfl⟩ parsed entry filled other)

/-- The search starts in a folder and comes to its settings file, so the contents of the file stop the loading. -/
theorem load_outcome_number :
    StartsIn (withSettings (Utf8.encode "tool = 1\n".toList)).volume none [] ∧
      ∃ file, Nearest .standard (withSettings (Utf8.encode "tool = 1\n".toList)).volume none file ∧
        Unusable .standard (withSettings (Utf8.encode "tool = 1\n".toList)).volume file (.notSettings "int") := by
  have starts := startsIn_withSettings (Utf8.encode "tool = 1\n".toList)
  obtain ⟨stops, -, within⟩ := load_outcome .standard none (withSettings (Utf8.encode "tool = 1\n".toList))
  refine ⟨starts, (within [] starts _ ((stops _).1 crashes_number.outcome_load)).resolve_left ?_⟩
  rintro ⟨path, same⟩
  cases same

/-- A settings file that is not UTF-8 stops the loading, and so does one in which a number stands where the section
should be. -/
theorem contents_stop_loading :
    (∃ e, (load none).outcome (withSettings [0xff]) = .error (.decode e)) ∧
      (load none).outcome (withSettings (Utf8.encode "tool = 1\n".toList)) = .error (.notSettings "int") := by
  constructor
  · have undecoded : (Charset.utf8.decode [0xff]).isOk = false := by decide +kernel
    cases decoded : Charset.utf8.decode [0xff] with
    | ok text =>
      rw [decoded] at undecoded
      cases undecoded
    | error e =>
      have unusable : Unusable .standard (withSettings [0xff]).volume "/pyproject.toml" (.decode e) :=
        .undecoded (isFile_withSettings [0xff]).2 decoded
      exact ⟨e, (Crashes.unusable (nearest_withSettings _) unusable).outcome_load⟩
  · exact crashes_number.outcome_load

end Contents

end Discovery

end MatlabTidy
