import Mathlib.Data.List.Nodup
import MatlabTidy.Command.Program
import MatlabTidy.Proofs.Config.Literal
import MatlabTidy.Proofs.Run.Job

/-!
# Validated settings

`Settings.WellTyped` tells which values a known key may have. Loading a table (`Settings.Validated`) drops the entries
with other values, one warning each, and keeps the rest, so that nothing is left to drop the second time; what is
read from the settings (`Settings.Reads`) is the value that was written or the default. There is one obstacle: the
warning about a flag shows its value, and not every value can be written. Some logs get over that (`Log.Bears`), at
the cost of the record. `Settings.loadSettings_exact` says that loading fails exactly where the log does not.
-/

namespace MatlabTidy

namespace Table

variable {t : Table} {key other : String} {value : Value}

/-- No key has two entries. -/
def Distinct (t : Table) : Prop := (t.map Prod.fst).Nodup

theorem Distinct.filter (distinct : t.Distinct) (keep : String × Value → Bool) : Distinct (t.filter keep) :=
  List.Nodup.sublist (List.filter_sublist.map Prod.fst) distinct

theorem Distinct.erase (distinct : t.Distinct) (key : String) : Distinct (t.erase key) := distinct.filter _

theorem lookup_eq_some_iff_mem (distinct : t.Distinct) : t.lookup key = some value ↔ (key, value) ∈ t := by
  induction t with
  | nil => simp
  | cons entry t ih =>
    obtain ⟨key', value'⟩ := entry
    obtain ⟨fresh, distinct⟩ := List.nodup_cons.1 distinct
    rw [List.lookup_cons, List.mem_cons, Prod.mk.injEq]
    by_cases same : key = key'
    · subst same
      have absent : (key, value) ∉ t := fun mem => fresh (List.mem_map.2 ⟨_, mem, rfl⟩)
      simp [absent, eq_comm]
    · rw [beq_eq_false_iff_ne.2 same, ih distinct]
      simp [same]

theorem lookup_erase_of_ne (distinct : t.Distinct) (ne : other ≠ key) : (t.erase key).lookup other = t.lookup other := by
  refine Option.ext fun value => ?_
  rw [lookup_eq_some_iff_mem (distinct.erase key), lookup_eq_some_iff_mem distinct, erase, List.mem_filter]
  simp [ne]

end Table

namespace Log

variable {log : Log} {levels : Nat} {value : Value}

/-- The log gets over a value: it can be written, or what keeps it from being written is a number of too many digits
and the log goes to a stream. -/
def Bears (log : Log) (levels : Nat) (value : Value) : Prop :=
  match log with
  | .stream => value.literalWithin levels ≠ .error .tooDeep
  | .collected => value.Fits levels

theorem bears_iff : log.Bears levels value ↔
    ∀ e, value.literalWithin levels = .error e → log = .stream ∧ e = .numberTooLong := by
  cases log with
  | stream =>
    constructor
    · intro shallow e unwritten
      cases e with
      | numberTooLong => exact ⟨rfl, rfl⟩
      | tooDeep => exact absurd unwritten shallow
    · intro bears deep
      cases (bears _ deep).2
  | collected =>
    rw [Bears, ← Value.literalWithin_ok_iff]
    cases value.literalWithin levels with
    | ok text => exact iff_of_true ⟨text, rfl⟩ nofun
    | error e => exact iff_of_false nofun fun bears => nomatch (bears e rfl).1

end Log

namespace Settings

/-! ### Values of known keys -/

/-- The values that a known key may have. -/
inductive WellTyped : String → Value → Prop where
  | flag {key : String} (known : key ∈ flagKeys) (b : Bool) : WellTyped key (.bool b)
  | noCommand : WellTyped commandKey .null
  | command {words : List String} (filled : words ≠ []) : WellTyped commandKey (.list (words.map .text))
  | noEncoding : WellTyped encodingKey .null
  | encoding (name : String) : WellTyped encodingKey (.text name)

/-- A known key has a value that it may not have. -/
def IllTyped (key : String) (value : Value) : Prop := key ∈ knownKeys ∧ ¬ WellTyped key value

section Keys

variable {key : String} {value : Value}

theorem wellTyped_flag_iff (known : key ∈ flagKeys) : WellTyped key value ↔ isFlag value = true := by
  constructor
  · intro typed
    cases typed with
    | flag _ b => rfl
    | noCommand | command | noEncoding | encoding => exact absurd known (by decide)
  · intro suits
    cases value with
    | bool b => exact .flag known b
    | null | int | float | text | moment | list | table => cases suits

theorem texts_of_all {items : List Value} (all : (items.all fun item => item.text?.isSome) = true) :
    ∃ words : List String, items = words.map .text := by
  induction items with
  | nil => exact ⟨[], rfl⟩
  | cons item items ih =>
    rw [List.all_cons, Bool.and_eq_true] at all
    obtain ⟨words, rfl⟩ := ih all.2
    cases item with
    | text word => exact ⟨word :: words, rfl⟩
    | null | bool | int | float | moment | list | table => cases all.1

theorem isCommand_iff : isCommand value = true ↔
    value = .null ∨ ∃ words : List String, words ≠ [] ∧ value = .list (words.map .text) := by
  constructor
  · intro suits
    cases value with
    | null => exact .inl rfl
    | list items =>
      rw [isCommand, Bool.and_eq_true] at suits
      obtain ⟨words, rfl⟩ := texts_of_all suits.2
      refine .inr ⟨words, fun none => ?_, rfl⟩
      rw [none] at suits
      cases suits.1
    | bool | int | float | text | moment | table => cases suits
  · rintro (rfl | ⟨words, filled, rfl⟩)
    · rfl
    · obtain ⟨word, words, rfl⟩ := List.exists_cons_of_ne_nil filled
      simp [isCommand, Value.text?]

theorem wellTyped_command_iff : WellTyped commandKey value ↔ isCommand value = true := by
  constructor
  · intro typed
    generalize same : commandKey = key at typed
    cases typed with
    | flag known b => exact absurd (same ▸ known) (by decide)
    | noCommand | noEncoding => rfl
    | command filled => exact isCommand_iff.2 (.inr ⟨_, filled, rfl⟩)
    | encoding name => exact absurd same (by decide)
  · intro suits
    obtain rfl | ⟨words, filled, rfl⟩ := isCommand_iff.1 suits
    · exact .noCommand
    · exact .command filled

theorem wellTyped_encoding_iff : WellTyped encodingKey value ↔ isEncoding value = true := by
  constructor
  · intro typed
    generalize same : encodingKey = key at typed
    cases typed with
    | flag known b => exact absurd (same ▸ known) (by decide)
    | noCommand | noEncoding => rfl
    | command filled => exact absurd same (by decide)
    | encoding name => rfl
  · intro suits
    cases value with
    | null => exact .noEncoding
    | text name => exact .encoding name
    | bool | int | float | moment | list | table => cases suits

theorem suits_eq_false_iff : suits key value = false ↔ IllTyped key value := by
  unfold suits IllTyped
  split
  next known =>
    have known : key ∈ flagKeys := List.contains_iff_mem.1 known
    simp [wellTyped_flag_iff known, knownKeys, known]
  next unflagged =>
    split
    next same => simp [same, wellTyped_command_iff, knownKeys]
    next other =>
      split
      next same => simp [same, wellTyped_encoding_iff, knownKeys]
      next unknown =>
        have : key ∉ knownKeys := by simp_all [knownKeys]
        simp [this]

instance (key : String) (value : Value) : Decidable (IllTyped key value) :=
  decidable_of_iff (suits key value = false) suits_eq_false_iff

theorem suits_eq_not : suits key value = !decide (IllTyped key value) := by
  by_cases ill : IllTyped key value
  · rw [suits_eq_false_iff.2 ill, decide_eq_true ill, Bool.not_true]
  · rw [eq_true_of_ne_false (mt suits_eq_false_iff.1 ill), decide_eq_false ill, Bool.not_false]

end Keys

/-! ### Dropping -/

section Dropping

variable {t : Table} {key : String} {keys : List String} {fault : Fault}

/-- The entry that a fault is about. -/
def Fault.entry (fault : Fault) : String × Value := (fault.key, fault.value)

/-- The fault of a table at a key. -/
def faultAt (t : Table) (key : String) : Option Fault :=
  (t.lookup key).bind fun value => if suits key value then none else some ⟨key, value⟩

theorem faultAt_eq_some_iff :
    faultAt t key = some fault ↔ fault.key = key ∧ t.lookup key = some fault.value ∧ suits key fault.value = false := by
  rw [faultAt, Option.bind_eq_some_iff]
  constructor
  · rintro ⟨value, found, h⟩
    split at h
    · cases h
    next unsuited =>
      cases h
      exact ⟨rfl, found, eq_false_of_ne_true unsuited⟩
  · rintro ⟨rfl, found, unsuited⟩
    exact ⟨fault.value, found, if_neg (by rw [unsuited]; decide)⟩

theorem validate_cons_of_none (sound : faultAt t key = none) : validate (key :: keys) t = validate keys t := by
  rw [validate]
  split
  next value found =>
    rw [faultAt, found, Option.bind_some] at sound
    split at sound
    next suited => rw [if_pos suited]
    next => cases sound
  next => rfl

theorem validate_cons_of_some (faulty : faultAt t key = some fault) :
    validate (key :: keys) t = ((validate keys (t.erase key)).1, fault :: (validate keys (t.erase key)).2) := by
  obtain ⟨rfl, found, unsuited⟩ := faultAt_eq_some_iff.1 faulty
  rw [validate, found]
  simp [unsuited]

/-- An entry of a table is at fault if its value does not suit. -/
theorem isSome_faultAt_of_mem (distinct : t.Distinct) {value : Value} (mem : (key, value) ∈ t) :
    (faultAt t key).isSome = !suits key value := by
  rw [faultAt, (Table.lookup_eq_some_iff_mem distinct).2 mem, Option.bind_some]
  cases suits key value <;> rfl

theorem faultAt_erase_of_ne (distinct : t.Distinct) {other : String} (ne : other ≠ key) :
    faultAt (t.erase key) other = faultAt t other := by
  rw [faultAt, Table.lookup_erase_of_ne distinct ne, faultAt]

/-- What is kept: the entries of other keys, and those that suit. -/
theorem validate_fst (distinct : t.Distinct) (keys : List String) :
    (validate keys t).1 = t.filter fun entry => !(keys.contains entry.1 && !suits entry.1 entry.2) := by
  induction keys generalizing t with
  | nil => simp [validate]
  | cons key keys ih =>
    cases faulty : faultAt t key with
    | none =>
      rw [validate_cons_of_none faulty, ih distinct]
      refine List.filter_congr fun entry mem => ?_
      obtain ⟨other, value⟩ := entry
      by_cases same : other = key
      · subst same
        have suited : suits other value = true := by simpa [faulty] using isSome_faultAt_of_mem distinct mem
        simp [suited]
      · simp [same]
    | some fault =>
      rw [validate_cons_of_some faulty]
      dsimp only
      rw [ih (distinct.erase key), Table.erase, List.filter_filter]
      refine List.filter_congr fun entry mem => ?_
      obtain ⟨other, value⟩ := entry
      by_cases same : other = key
      · subst same
        have unsuited : suits other value = false := by simpa [faulty] using isSome_faultAt_of_mem distinct mem
        simp [unsuited]
      · simp [same]

/-- What is dropped: the faults at the keys. -/
theorem validate_snd (distinct : t.Distinct) (once : keys.Nodup) : (validate keys t).2 = keys.filterMap (faultAt t) := by
  induction keys generalizing t with
  | nil => rfl
  | cons key keys ih =>
    obtain ⟨fresh, once⟩ := List.nodup_cons.1 once
    cases faulty : faultAt t key with
    | none => rw [validate_cons_of_none faulty, ih distinct once, List.filterMap_cons_none faulty]
    | some fault =>
      rw [validate_cons_of_some faulty, List.filterMap_cons_some faulty]
      dsimp only
      rw [ih (distinct.erase key) once]
      refine congrArg (fault :: ·) (List.filterMap_congr fun other mem => faultAt_erase_of_ne distinct ?_)
      rintro rfl
      exact fresh mem

theorem entries_ofTable (distinct : t.Distinct) :
    (ofTable t).1.entries = t.filter fun entry => ¬ IllTyped entry.1 entry.2 := by
  change (validate knownKeys t).1 = _
  rw [validate_fst distinct]
  refine List.filter_congr fun entry _ => ?_
  rw [suits_eq_not]
  by_cases ill : IllTyped entry.1 entry.2
  · simp [ill, ill.1]
  · simp [ill]

/-- There is one fault for each entry that is dropped. -/
theorem faults_perm (distinct : t.Distinct) :
    ((ofTable t).2.map Fault.entry).Perm (t.filter fun entry => IllTyped entry.1 entry.2) := by
  change ((validate knownKeys t).2.map Fault.entry).Perm _
  rw [validate_snd distinct (by decide)]
  have once : (knownKeys.filterMap (faultAt t)).Nodup := by
    refine List.Nodup.filterMap (fun key key' fault here there => ?_) (by decide)
    exact (faultAt_eq_some_iff.1 here).1.symm.trans (faultAt_eq_some_iff.1 there).1
  have injective : Function.Injective Fault.entry := by
    rintro ⟨key, value⟩ ⟨key', value'⟩ same
    cases same
    rfl
  refine (List.perm_ext_iff_of_nodup (once.map injective) (distinct.of_map.filter _)).2 fun entry => ?_
  obtain ⟨key, value⟩ := entry
  rw [List.mem_map, List.mem_filter, ← Table.lookup_eq_some_iff_mem distinct, decide_eq_true_iff]
  constructor
  · rintro ⟨fault, mem, same⟩
    cases same
    obtain ⟨known, here, faulty⟩ := List.mem_filterMap.1 mem
    obtain ⟨rfl, found, unsuited⟩ := faultAt_eq_some_iff.1 faulty
    exact ⟨found, suits_eq_false_iff.1 unsuited⟩
  · rintro ⟨found, ill⟩
    exact ⟨⟨key, value⟩, List.mem_filterMap.2 ⟨key, ill.1,
      faultAt_eq_some_iff.2 ⟨rfl, found, suits_eq_false_iff.2 ill⟩⟩, rfl⟩

/-- A known entry that is kept has a value that its key may have. -/
theorem lookup_entries_eq_some_iff (distinct : t.Distinct) (known : key ∈ knownKeys) {value : Value} :
    (ofTable t).1.entries.lookup key = some value ↔ t.lookup key = some value ∧ WellTyped key value := by
  rw [entries_ofTable distinct, Table.lookup_eq_some_iff_mem (distinct.filter _), List.mem_filter,
    Table.lookup_eq_some_iff_mem distinct, decide_eq_true_iff, IllTyped, not_and, not_not]
  exact and_congr_right fun _ => forall_prop_of_true known

/-- Nothing is dropped twice. -/
theorem ofTable_entries (distinct : t.Distinct) : ofTable (ofTable t).1.entries = ((ofTable t).1, []) := by
  have kept := distinct.filter fun entry => ¬ IllTyped entry.1 entry.2
  rw [← entries_ofTable distinct] at kept
  have clean : ∀ entry ∈ (ofTable t).1.entries, ¬ IllTyped entry.1 entry.2 := by
    rw [entries_ofTable distinct]
    intro entry mem
    exact of_decide_eq_true (List.mem_filter.1 mem).2
  have same : (ofTable (ofTable t).1.entries).1.entries = (ofTable t).1.entries := by
    rw [entries_ofTable kept]
    exact List.filter_eq_self.2 fun entry mem => decide_eq_true (clean entry mem)
  have none : (ofTable (ofTable t).1.entries).2 = [] := by
    have perm := faults_perm kept
    rw [List.filter_eq_nil_iff.2 fun entry mem => by simpa using clean entry mem] at perm
    exact List.map_eq_nil_iff.1 perm.eq_nil
  exact Prod.ext (congrArg Settings.mk same) none

end Dropping

/-! ### Reading -/

section Reading

variable {α : Type} {t : Table} {key : String}

/-- What is read at a key: the value that was written if it is one that the key may have, and the default if there is
no such value. Null stands for no value. -/
inductive Reads (t : Table) (key : String) (written : α → Value) (default : α) : α → Prop where
  | written {x : α} (found : t.lookup key = some (written x)) (typed : WellTyped key (written x)) :
      Reads t key written default x
  | default (unset : ∀ value, t.lookup key = some value → IllTyped key value ∨ value = .null) :
      Reads t key written default default

/-- The default is read if nothing is kept that could be read. -/
theorem Reads.of_unread {written : α → Value} (default : α) (distinct : t.Distinct) (known : key ∈ knownKeys)
    (kinds : ∀ value, WellTyped key value → value = .null ∨ ∃ x, value = written x)
    (unread : ∀ x, (ofTable t).1.entries.lookup key ≠ some (written x)) : Reads t key written default default := by
  refine .default fun value found => ?_
  by_cases typed : WellTyped key value
  · obtain null | ⟨x, rfl⟩ := kinds value typed
    · exact .inr null
    · exact absurd ((lookup_entries_eq_some_iff distinct known).2 ⟨found, typed⟩) (unread x)
  · exact .inl ⟨known, typed⟩

theorem reads_flag (distinct : t.Distinct) (flagged : key ∈ flagKeys) (default : Bool) :
    Reads t key .bool default ((ofTable t).1.flag key default) := by
  have known : key ∈ knownKeys := List.mem_append_left _ flagged
  unfold flag
  split
  next b found =>
    obtain ⟨here, typed⟩ := (lookup_entries_eq_some_iff distinct known).1 found
    exact .written here typed
  next unread =>
    refine .of_unread default distinct known (fun value typed => ?_) unread
    cases value with
    | bool b => exact .inr ⟨b, rfl⟩
    | null | int | float | text | moment | list | table => cases (wellTyped_flag_iff flagged).1 typed

theorem reads_checkerCommand (distinct : t.Distinct) :
    Reads t commandKey (fun words => .list (words.map .text)) Checker.defaultCommand (ofTable t).1.checkerCommand := by
  have known : commandKey ∈ knownKeys := by decide
  unfold checkerCommand
  split
  next items found =>
    obtain ⟨here, typed⟩ := (lookup_entries_eq_some_iff distinct known).1 found
    obtain null | ⟨words, -, same⟩ := isCommand_iff.1 (wellTyped_command_iff.1 typed)
    · cases null
    · cases same
      have read : (words.map Value.text).filterMap Value.text? = words := by
        simp [List.filterMap_map, Function.comp_def, Value.text?]
      rw [read]
      exact .written here typed
  next unread =>
    refine .of_unread _ distinct known (fun value typed => ?_) fun words => unread _
    exact (isCommand_iff.1 (wellTyped_command_iff.1 typed)).imp_right fun ⟨words, _, same⟩ => ⟨words, same⟩

theorem reads_encoding (distinct : t.Distinct) :
    Reads t encodingKey .text defaultEncoding (ofTable t).1.encoding := by
  have known : encodingKey ∈ knownKeys := by decide
  unfold encoding
  split
  next name found =>
    obtain ⟨here, typed⟩ := (lookup_entries_eq_some_iff distinct known).1 found
    exact .written here typed
  next unread =>
    refine .of_unread _ distinct known (fun value typed => ?_) unread
    cases value with
    | null => exact .inl rfl
    | text name => exact .inr ⟨name, rfl⟩
    | bool | int | float | moment | list | table => cases wellTyped_encoding_iff.1 typed

end Reading

/-! ### Loading -/

section Loading

variable {stack : Stack} {log : Log} {table : Table} {fault : Fault} {e : LiteralFault}

/-- What the warning about a fault shows of the value: that of a flag as it is written, and nothing of the others. -/
def Fault.shownWithin (levels : Nat) (fault : Fault) : Except LiteralFault String :=
  if fault.key ∈ flagKeys then fault.value.literalWithin levels else .ok ""

theorem Fault.warning_eq_map (levels : Nat) (fault : Fault) : ∃ message : String → String,
    fault.warningWithin levels = (fault.shownWithin levels).map fun shown => ⟨.warning, .root, message shown⟩ := by
  unfold Fault.warningWithin Fault.shownWithin
  by_cases flagged : fault.key ∈ flagKeys
  · rw [if_pos (List.contains_iff_mem.2 flagged), if_pos flagged]
    exact ⟨_, rfl⟩
  · rw [if_neg (by simpa using flagged), if_neg flagged]
    split <;> exact ⟨fun _ => _, rfl⟩

/-- The warning about a flag needs its value to be written, and no other warning needs anything. -/
theorem Fault.warning_cases (levels : Nat) (fault : Fault) :
    (∃ message, fault.warningWithin levels = .ok ⟨.warning, .root, message⟩ ∧
      (fault.key ∈ flagKeys → ∃ text, fault.value.literalWithin levels = .ok text)) ∨
    ∃ e, fault.warningWithin levels = .error e ∧ fault.key ∈ flagKeys ∧ fault.value.literalWithin levels = .error e := by
  obtain ⟨message, warns⟩ := fault.warning_eq_map levels
  rw [warns, Fault.shownWithin]
  by_cases flagged : fault.key ∈ flagKeys
  · rw [if_pos flagged]
    cases fault.value.literalWithin levels with
    | ok shown => exact .inl ⟨message shown, rfl, fun _ => ⟨shown, rfl⟩⟩
    | error e => exact .inr ⟨e, rfl, flagged, rfl⟩
  · rw [if_neg flagged]
    exact .inl ⟨message "", rfl, fun here => absurd here flagged⟩

/-- What a fault leaves in the log. -/
inductive Told (stack : Stack) (log : Log) (fault : Fault) : Event → Prop where
  | warned {record : LogRecord} (written : fault.warningWithin stack.literal = .ok record)
      (level : record.level = .warning) : Told stack log fault (.logged record)
  /-- The record of the warning is lost, as the value of the flag holds a number of too many digits. -/
  | lost (stream : log = .stream) (flagged : fault.key ∈ flagKeys)
      (unwritten : fault.value.literalWithin stack.literal = .error .numberTooLong) : Told stack log fault .recordLost

/-- Why a fault stops the loading. -/
structure Unsaid (stack : Stack) (log : Log) (entry : String × Value) (e : LiteralFault) : Prop where
  flagged : entry.1 ∈ flagKeys
  unwritten : entry.2.literalWithin stack.literal = .error e
  passed : log = .stream → e = .tooDeep

theorem Told.bears {event : Event} (told : Told stack log fault event) (flagged : fault.key ∈ flagKeys) :
    log.Bears stack.literal fault.value := by
  rw [Log.bears_iff]
  intro e unwritten
  cases told with
  | warned written =>
    obtain ⟨message, -, shows⟩ | ⟨e', untold, -⟩ := fault.warning_cases stack.literal
    · obtain ⟨text, shown⟩ := shows flagged
      rw [unwritten] at shown
      cases shown
    · rw [written] at untold
      cases untold
  | lost stream _ long =>
    rw [unwritten] at long
    cases long
    exact ⟨stream, rfl⟩

theorem Unsaid.not_bears {entry : String × Value} (h : Unsaid stack log entry e) :
    ¬ log.Bears stack.literal entry.2 := by
  rw [Log.bears_iff]
  intro bears
  obtain ⟨stream, rfl⟩ := bears e h.unwritten
  cases h.passed stream

/-- A fault is told, or stops the loading. -/
theorem run_warn (stack : Stack) (log : Log) (fault : Fault) (w : World) :
    (∃ event, Told stack log fault event ∧ (Command.warn stack log fault).run w = .ok () (w.saying [event])) ∨
    ∃ e, Unsaid stack log fault.entry e ∧ (Command.warn stack log fault).run w = .error (.ofLiteral e) w := by
  unfold Command.warn
  obtain ⟨message, warns, -⟩ | ⟨e, fails, flagged, unwritten⟩ := fault.warning_cases stack.literal
  · rw [warns]
    exact .inl ⟨_, .warned warns rfl, Job.run_emit _⟩
  · rw [fails]
    cases log with
    | collected => exact .inr ⟨e, ⟨flagged, unwritten, nofun⟩, by cases e <;> rfl⟩
    | stream =>
      cases e with
      | numberTooLong => exact .inl ⟨_, .lost rfl flagged unwritten, Job.run_emit _⟩
      | tooDeep => exact .inr ⟨_, ⟨flagged, unwritten, fun _ => rfl⟩, rfl⟩

/-- The faults are told one after the other, up to the first that stops the loading. -/
theorem run_warnings (stack : Stack) (log : Log) (faults : List Fault) (w : World) :
    (∃ events, List.Forall₂ (Told stack log) faults events ∧
      (faults.forM (Command.warn stack log)).run w = .ok () (w.saying events)) ∨
    ∃ fault ∈ faults, ∃ e w', Unsaid stack log fault.entry e ∧
      (faults.forM (Command.warn stack log)).run w = .error (.ofLiteral e) w' := by
  induction faults generalizing w with
  | nil => exact .inl ⟨[], .nil, by simp⟩
  | cons fault faults ih =>
    rw [List.forM]
    obtain ⟨event, told, run⟩ | ⟨e, unsaid, run⟩ := run_warn stack log fault w
    · rw [Job.run_bind_of_ok run]
      obtain ⟨events, all, rest⟩ | ⟨other, mem, e, w', unsaid, rest⟩ := ih (w.saying [event])
      · refine .inl ⟨event :: events, .cons told all, ?_⟩
        rw [rest, World.saying_saying]
        rfl
      · exact .inr ⟨other, List.mem_cons_of_mem _ mem, e, w', unsaid, rest⟩
    · exact .inr ⟨fault, List.mem_cons_self, e, w, unsaid, Job.run_bind_eq_error.2 (.inl run)⟩

/-- What loading a table leaves. -/
structure Validated (stack : Stack) (log : Log) (table : Table) (s : Settings) (w w' : World) : Prop where
  /-- The entries that are not ill typed are kept as they are. -/
  kept : s.entries = table.filter fun entry => ¬ IllTyped entry.1 entry.2
  /-- Every other entry leaves one event in the log, and nothing else happens. -/
  warned : ∃ faults events, (faults.map Fault.entry).Perm (table.filter fun entry => IllTyped entry.1 entry.2) ∧
    List.Forall₂ (Told stack log) faults events ∧ w' = w.saying events
  /-- Loading what is kept gives the same without a warning. -/
  settled : ∀ w₁, (Command.loadSettingsWith stack log s.entries).run w₁ = .ok s w₁
  recursive : Reads table "recursive" .bool false s.recursive
  verbose : Reads table "verbose" .bool false s.verbose
  fix : Reads table "fix" .bool false s.fix
  checkerEnabled : Reads table "checker_enabled" .bool true s.checkerEnabled
  checkerCommand : Reads table commandKey (fun words => .list (words.map .text)) Checker.defaultCommand s.checkerCommand
  encoding : Reads table encodingKey .text defaultEncoding s.encoding

theorem run_loadSettings (stack : Stack) (log : Log) (table : Table) (w : World) :
    (Command.loadSettingsWith stack log table).run w =
      (do (ofTable table).2.forM (Command.warn stack log); return (ofTable table).1 : Job Settings).run w := rfl

theorem validated_of_told {events : List Event} (distinct : table.Distinct)
    (all : List.Forall₂ (Told stack log) (ofTable table).2 events) (w : World) :
    Validated stack log table (ofTable table).1 w (w.saying events) where
  kept := entries_ofTable distinct
  warned := ⟨_, events, faults_perm distinct, all, rfl⟩
  settled w₁ := by rw [run_loadSettings, ofTable_entries distinct]; rfl
  recursive := reads_flag distinct (by decide) false
  verbose := reads_flag distinct (by decide) false
  fix := reads_flag distinct (by decide) false
  checkerEnabled := reads_flag distinct (by decide) true
  checkerCommand := reads_checkerCommand distinct
  encoding := reads_encoding distinct

theorem mem_of_fault (distinct : table.Distinct) (mem : fault ∈ (ofTable table).2) :
    fault.entry ∈ table ∧ IllTyped fault.key fault.value := by
  obtain ⟨here, ill⟩ := List.mem_filter.1 ((faults_perm distinct).subset (List.mem_map_of_mem mem))
  exact ⟨here, of_decide_eq_true ill⟩

theorem exists_fault (distinct : table.Distinct) {entry : String × Value} (mem : entry ∈ table)
    (ill : IllTyped entry.1 entry.2) : ∃ fault ∈ (ofTable table).2, fault.entry = entry :=
  List.mem_map.1 ((faults_perm distinct).symm.subset (List.mem_filter.2 ⟨mem, decide_eq_true ill⟩))

/-- On every stack, loading succeeds exactly if the log gets over the values of all ill-typed flags, and then leaves
the validated settings. Otherwise it fails because one of these values cannot be written: in a log that goes to a
stream because it is too deep, and in one that is collected also because it holds a number of too many digits. -/
theorem loadSettings_exact (stack : Stack) (log : Log) (distinct : table.Distinct) (w : World) :
    ((∃ s w', (Command.loadSettingsWith stack log table).run w = .ok s w') ↔
      ∀ entry ∈ table, entry.1 ∈ flagKeys → IllTyped entry.1 entry.2 → log.Bears stack.literal entry.2) ∧
    (∀ s w', (Command.loadSettingsWith stack log table).run w = .ok s w' → Validated stack log table s w w') ∧
    ∀ failure w', (Command.loadSettingsWith stack log table).run w = .error failure w' →
      ∃ entry ∈ table, IllTyped entry.1 entry.2 ∧ ∃ e, Unsaid stack log entry e ∧ failure = .ofLiteral e := by
  rw [run_loadSettings]
  obtain ⟨events, all, told⟩ | ⟨fault, mem, e, w₁, unsaid, told⟩ := run_warnings stack log (ofTable table).2 w
  · rw [Job.run_bind_of_ok told]
    refine ⟨iff_of_true ⟨_, _, rfl⟩ fun entry mem flagged ill => ?_, ?_, ?_⟩
    · obtain ⟨fault, dropped, rfl⟩ := exists_fault distinct mem ill
      have borne : ∀ fault ∈ (ofTable table).2, fault.key ∈ flagKeys → log.Bears stack.literal fault.value :=
        ((List.forall₂_and_left _ _).1 (all.imp fun _ _ said => ⟨said.bears, said⟩)).1
      exact borne fault dropped flagged
    · intro s w' run
      cases run
      exact validated_of_told distinct all w
    · intro failure w' run
      cases run
  · rw [Job.run_bind_eq_error.2 (.inl told)]
    obtain ⟨here, ill⟩ := mem_of_fault distinct mem
    refine ⟨iff_of_false ?_ fun bears => ?_, ?_, ?_⟩
    · rintro ⟨s, w', run⟩
      cases run
    · exact unsaid.not_bears (bears _ here unsaid.flagged ill)
    · intro s w' run
      cases run
    · intro failure w' run
      cases run
      exact ⟨fault.entry, here, ill, e, unsaid, rfl⟩

/-- The least number that has too many digits. -/
@[irreducible] def overlongNumber : Int := ((Nat.pow 10 Text.mostDigits : Nat) : Int)

theorem literalWithin_overlong (levels : Nat) :
    Value.literalWithin levels (.int overlongNumber) = .error .numberTooLong := by
  have long : Text.isWritable overlongNumber = false := by
    rw [overlongNumber, Text.isWritable, Int.natAbs_natCast]
    exact decide_eq_false (Nat.lt_irrefl _)
  rw [Value.literalWithin, long]
  rfl

/-- A table with an entry of each sort: three that are dropped, of which one is a number with too many digits, a null,
a value that is read and one that is not known. -/
def mixedTable : Table :=
  [("fix", .text "yes"), ("x", .list []), ("encoding", .null), ("checker_command", .list []), ("verbose", .bool true),
    ("recursive", .int overlongNumber)]

/-- A run drops three entries and reads what is left, with a record that is lost for the number. -/
theorem loadSettings_exact_mixed :
    mixedTable.Distinct ∧ ∃ s w', (Command.loadSettings mixedTable).run ⟨⟨[], [], []⟩, none, false, #[]⟩ = .ok s w' ∧
      s.entries = [("x", .list []), ("encoding", .null), ("verbose", .bool true)] ∧
      Validated .standard .stream mixedTable s ⟨⟨[], [], []⟩, none, false, #[]⟩ w' := by
  have distinct : mixedTable.Distinct := by
    change List.Nodup _
    decide
  obtain ⟨loads, validated, -⟩ := loadSettings_exact .standard .stream distinct ⟨⟨[], [], []⟩, none, false, #[]⟩
  have bears : ∀ entry ∈ mixedTable, Log.stream.Bears Stack.standard.literal entry.2 := by
    intro entry mem
    simp only [mixedTable, List.mem_cons, List.not_mem_nil, or_false] at mem
    obtain rfl | rfl | rfl | rfl | rfl | rfl := mem
    case inr.inr.inr.inr.inr =>
      rw [Log.Bears, literalWithin_overlong]
      exact nofun
    all_goals exact nofun
  obtain ⟨s, w', run⟩ := loads.2 fun entry mem _ _ => bears entry mem
  exact ⟨distinct, s, w', run, (validated s w' run).kept, validated s w' run⟩

/-- A flag whose value stands too deep has a warning that cannot be written, wherever the log goes. -/
theorem outcome_loadSettings_nested {n : Nat} (deep : stack.literal < n) (w : World) :
    (Command.loadSettingsWith stack log [("fix", .nested n)]).outcome w = .error .literalTooDeep := by
  have faults : (ofTable [("fix", .nested n)]).2 = [⟨"fix", .nested n⟩] := by
    obtain _ | n := n <;> rfl
  have unwritten := Value.literalWithin_nested deep
  have stops : (Command.warn stack log ⟨"fix", .nested n⟩).run w = .error .literalTooDeep w := by
    obtain ⟨event, told, -⟩ | ⟨e, unsaid, run⟩ := run_warn stack log ⟨"fix", .nested n⟩ w
    · have flagged : "fix" ∈ flagKeys := by decide
      cases (Log.bears_iff.1 (told.bears flagged) _ unwritten).2
    · have same : LiteralFault.tooDeep = e := Except.error.inj (unwritten.symm.trans unsaid.unwritten)
      rw [run, ← same]
      rfl
  have run : (Command.loadSettingsWith stack log [("fix", .nested n)]).run w = .error .literalTooDeep w := by
    rw [run_loadSettings, faults, List.forM]
    exact Job.run_bind_eq_error.2 (.inl (Job.run_bind_eq_error.2 (.inl stops)))
  exact Job.outcome_of_error run

/-- A flag whose value is 2000 tables inside of each other is ill typed, and there are no settings without it. -/
theorem nested_flag_stops_loading : IllTyped "fix" (.nested 2000) ∧
    (Command.loadSettings [("fix", .nested 2000)]).outcome ⟨⟨[], [], []⟩, none, false, #[]⟩ =
      .error .literalTooDeep := by
  refine ⟨⟨by decide, fun typed => ?_⟩, outcome_loadSettings_nested (by decide) _⟩
  cases (wellTyped_flag_iff (by decide)).1 typed

end Loading

end Settings

end MatlabTidy
