import MatlabTidy.Proofs.Run.Turn

/-!
# What jobs leave alone

`Job.Respects R P` says that a job, however it ends, leaves a world that stands in the relation `R` to
the one it started in, and that it fails in ways of the kind `P` only. Relations that are reflexive and
transitive are respected by a sequence of jobs if each of them respects them, and by a job with a handler.

A job is `Job.Calm` if it leaves the volume as it was, gives no alarm, that is no notice of an error, and
does not fail with the report of a file. Everything that a scan does but for the writing of the file is
of this kind (`Scan.scanBytes_calm`, `Scan.assess_calm`, `Scan.openLines_calm`, `Scan.finishOn_calm`), whatever the
operator answers. A free rule may fail in any way (`Criterion.Raises`), but does no more than that
(`Scan.scanBytes_respects`).
-/

namespace MatlabTidy

/-- Whether an event is a notice of an error. -/
def Event.isAlarm : Event → Bool
  | .notice .error _ => true
  | _ => false

/-- The report that a failure carries, which is that of a file that could not be replaced. -/
def Failure.report? : Failure → Option FileReport
  | .replaceFailed _ report _ => some report
  | _ => none

namespace World

/-- The trace has grown, and not by an alarm. -/
def Speaks (w w' : World) : Prop :=
  ∃ events : List Event, w'.events = w.events ++ events.toArray ∧ ∀ event ∈ events, event.isAlarm = false

/-- What was said stays in the trace. -/
def Recalls (w w' : World) : Prop := ∀ event ∈ w.events, event ∈ w'.events

/-- The volume is as it was, and no alarm was given. -/
structure Calm (w w' : World) : Prop where
  volume : w'.volume = w.volume
  speaks : Speaks w w'

instance : Std.Refl Speaks := ⟨fun w => ⟨[], by simp, nofun⟩⟩

instance : Trans Speaks Speaks Speaks where
  trans := by
    rintro w w₁ w₂ ⟨events, grown, quiet⟩ ⟨events', grown', quiet'⟩
    refine ⟨events ++ events', ?_, ?_⟩
    · rw [grown', grown]
      simp
    · intro event mem
      rcases List.mem_append.1 mem with mem | mem
      · exact quiet event mem
      · exact quiet' event mem

instance : Std.Refl Recalls := ⟨fun _ _ said => said⟩

instance : Trans Recalls Recalls Recalls := ⟨fun h h' event said => h' event (h event said)⟩

instance : Std.Refl Calm := ⟨fun w => ⟨rfl, Std.Refl.refl w⟩⟩

instance : Trans Calm Calm Calm where
  trans := fun h h' => ⟨h'.volume.trans h.volume, Trans.trans h.speaks h'.speaks⟩

variable {w w' : World}

theorem Speaks.recalls (h : Speaks w w') : Recalls w w' := by
  intro event said
  obtain ⟨events, grown, -⟩ := h
  rw [grown]
  exact Array.mem_append_left _ said

theorem recalls_saying (w : World) (events : List Event) : Recalls w (w.saying events) :=
  fun _ said => Array.mem_append_left _ said

/-- An alarm in the trace was there before. -/
theorem Speaks.alarm_mem {message : String} (h : Speaks w w')
    (said : Event.notice .error message ∈ w'.events) : Event.notice .error message ∈ w.events := by
  obtain ⟨events, grown, quiet⟩ := h
  rw [grown] at said
  rcases Array.mem_append.1 said with said | said
  · exact said
  · have loud := quiet _ (List.mem_toArray.1 said)
    cases loud

theorem speaks_saying {events : List Event} (w : World) (quiet : ∀ event ∈ events, event.isAlarm = false) :
    Speaks w (w.saying events) := ⟨events, rfl, quiet⟩

end World

namespace Job

variable {α β ε : Type} {R : World → World → Prop} {P : Failure → Prop} {w w' : World} {failure : Failure}

/-- The world that a job leaves, however it ends. -/
def after (job : Job α) (w : World) : World :=
  match job.run w with
  | .ok _ w' => w'
  | .error _ w' => w'

theorem after_of_ok {job : Job α} {a : α} (h : job.run w = .ok a w') : job.after w = w' := by
  rw [after, h]

theorem after_of_error {job : Job α} (h : job.run w = .error failure w') : job.after w = w' := by
  rw [after, h]

/-- However it ends, the job leaves a world that the relation allows; if it fails, then in a way of the
given kind. -/
structure Respects (R : World → World → Prop) (P : Failure → Prop) (job : Job α) : Prop where
  world : ∀ w, R w (job.after w)
  failure : ∀ {w failure w'}, job.run w = .error failure w' → P failure

namespace Respects

theorem of_ok {job : Job α} {a : α} (h : Respects R P job) (run : job.run w = .ok a w') : R w w' :=
  after_of_ok run ▸ h.world w

theorem of_error {job : Job α} (h : Respects R P job) (run : job.run w = .error failure w') : R w w' :=
  after_of_error run ▸ h.world w

theorem mono {S : World → World → Prop} {Q : Failure → Prop} {job : Job α} (h : Respects R P job)
    (weaker : ∀ w w', R w w' → S w w') (more : ∀ failure, P failure → Q failure) : Respects S Q job :=
  ⟨fun w => weaker w _ (h.world w), fun run => more _ (h.failure run)⟩

theorem modify {f : World → World} (h : ∀ w, R w (f w)) : Respects R P (modify f : Job Unit) :=
  ⟨h, nofun⟩

section Refl

variable [Std.Refl R]

theorem pure (a : α) : Respects R P (pure a : Job α) := ⟨fun w => Std.Refl.refl w, nofun⟩

theorem throw (h : P failure) : Respects R P (throw failure : Job α) where
  world w := Std.Refl.refl w
  failure run := by
    cases run
    exact h

theorem get : Respects R P (get : Job World) := ⟨fun w => Std.Refl.refl w, nofun⟩

theorem ofExcept {failure : ε → Failure} (h : ∀ e, P (failure e)) (x : Except ε α) :
    Respects R P (ofExcept failure x) := by
  cases x with
  | ok a => exact pure a
  | error e => exact throw (h e)

end Refl

section Trans

variable [Trans R R R]

theorem bind {x : Job α} {f : α → Job β} (first : Respects R P x) (then_ : ∀ a, Respects R P (f a)) :
    Respects R P (x >>= f) where
  world w := by
    have here := first.world w
    unfold after at here ⊢
    rw [EStateM.run_bind]
    cases run : x.run w with
    | ok a w₁ =>
      rw [run] at here
      exact Trans.trans here ((then_ a).world w₁)
    | error failure w₁ =>
      rw [run] at here
      exact here
  failure run := by
    rcases run_bind_eq_error.1 run with failed | ⟨a, w₁, -, failed⟩
    · exact first.failure failed
    · exact (then_ a).failure failed

/-- A handler works on the world that the failed job has left. -/
theorem tryCatch {x : Job α} {handler : Failure → Job α} (first : Respects R P x)
    (then_ : ∀ failure, Respects R P (handler failure)) : Respects R P (tryCatch x handler) where
  world w := by
    have here := first.world w
    unfold after at here ⊢
    rw [run_tryCatch]
    cases run : x.run w with
    | ok a w₁ =>
      rw [run] at here
      exact here
    | error failure w₁ =>
      rw [run] at here
      exact Trans.trans here ((then_ failure).world w₁)
  failure {w} failure w' run := by
    rw [run_tryCatch] at run
    cases first : x.run w with
    | ok a w₁ =>
      rw [first] at run
      cases run
    | error failure' w₁ =>
      rw [first] at run
      exact (then_ failure').failure run

end Trans

end Respects

/-- The job only looks at the volume and speaks, and does not fail with a report. -/
abbrev Calm (job : Job α) : Prop := Respects World.Calm (fun failure => failure.report? = none) job

/-- However it ends, the job takes nothing back of what was said, and gives no alarm. -/
abbrev Speaks (job : Job α) : Prop := Respects World.Speaks (fun _ => True) job

theorem Respects.speaks {job : Job α} (h : Respects World.Calm P job) : Speaks job :=
  h.mono (fun _ _ calm => calm.speaks) fun _ _ => trivial

theorem modifyVolume_speaks (change : Volume → Volume) : Speaks (modifyVolume change) :=
  .modify fun _ => ⟨[], by simp, nofun⟩

theorem emit_calm {event : Event} (quiet : event.isAlarm = false) : Calm (emit event) := by
  refine ⟨fun w => ?_, nofun⟩
  rw [after_of_ok (run_emit event)]
  exact ⟨rfl, [event], rfl, by simpa using quiet⟩

theorem ofExcept_calm {failure : ε → Failure} (x : Except ε α)
    (plain : ∀ e, (failure e).report? = none := by exact fun _ => rfl) : Calm (ofExcept failure x) :=
  .ofExcept plain x

theorem ask_calm (question : Volume → Except AccessError α) : Calm (ask question) :=
  .bind .get fun _ => ofExcept_calm _

theorem log_calm (level : Level) (source : Source) (message : String) :
    Calm (log level source message) := emit_calm rfl

/-- A question to the operator uses a key up. -/
theorem confirm_calm (prompt : FixPrompt) : Calm (confirm prompt) := by
  refine .bind (emit_calm rfl) fun _ => ⟨fun w => ?_, fun {w failure w'} run => ?_⟩
  · obtain ⟨volume, keys, missingReported, events⟩ := w
    cases keys with
    | none => exact Std.Refl.refl _
    | some keys =>
      cases keys with
      | nil => exact Std.Refl.refl _
      | cons key rest =>
        refine ⟨rfl, [.answer key], ?_, by simp [Event.isAlarm]⟩
        change events.push (.answer key) = _
        simp
  · obtain ⟨volume, keys, missingReported, events⟩ := w
    cases keys with
    | none =>
      cases run
      rfl
    | some keys =>
      cases keys with
      | nil =>
        cases run
        rfl
      | cons key rest => cases run

end Job

/-- The failures of a rule: its search may fail on a line, and its repair. -/
inductive Criterion.Raises {R : Type} [Criterion R] (rule : R) : Failure → Prop where
  | search {line : List Char} {failure : Failure} (fails : Criterion.columns rule line = .error failure) :
      Raises rule failure
  | repair {fix : List Char → Except Failure (List Char)} {line : List Char} {failure : Failure}
      (repairs : Criterion.repair? rule = some fix) (fails : fix line = .error failure) : Raises rule failure

/-- No rule of the table's kinds fails with a report. -/
theorem Rule.report?_of_raises (rule : Rule) (failure : Failure) (h : Criterion.Raises rule failure) :
    failure.report? = none := by
  cases rule with
  | spacing rule =>
    cases h with
    | search fails => cases fails
    | repair repairs fails =>
      cases repairs
      cases fails
  | line rule =>
    cases h with
    | search fails => cases fails
    | repair repairs _ => cases repairs
  | other kind reason =>
    cases h with
    | search fails =>
      cases fails
      rfl
    | repair repairs _ => cases repairs

/-- A rule with a repair, which is one for spacing, does not fail. -/
theorem Rule.not_raises_of_repair? {rule : Rule} (repairs : (Criterion.repair? rule).isSome = true)
    (failure : Failure) : ¬ Criterion.Raises rule failure := by
  intro h
  cases rule with
  | spacing rule =>
    cases h with
    | search fails => cases fails
    | repair repairs fails =>
      cases repairs
      cases fails
  | line rule => cases repairs
  | other kind reason => cases repairs

/-! What an encoder writes, and how it fails. -/

section Write

variable {number : Nat} {text : List Char} {bytes : List UInt8} {failure : Failure}

theorem Charset.write_eq_ok {charset next : Charset} :
    Encoder.write charset number text = .ok (bytes, next) ↔
      charset.encode (number == 1) text = .ok bytes ∧ next = charset := by
  change ((charset.encode (number == 1) text).mapError Failure.encode).map _ = _ ↔ _
  cases charset.encode (number == 1) text with
  | ok coded =>
    constructor
    · rintro ⟨⟩
      exact ⟨rfl, rfl⟩
    · rintro ⟨⟨⟩, rfl⟩
      rfl
  | error e =>
    constructor
    · rintro ⟨⟩
    · rintro ⟨⟨⟩, -⟩

theorem Charset.write_eq_error {charset : Charset} :
    Encoder.write charset number text = .error failure ↔
      ∃ e, charset.encode (number == 1) text = .error e ∧ failure = .encode e := by
  change ((charset.encode (number == 1) text).mapError Failure.encode).map _ = _ ↔ _
  cases charset.encode (number == 1) text with
  | ok coded =>
    constructor
    · rintro ⟨⟩
    · rintro ⟨_, ⟨⟩, -⟩
  | error e =>
    constructor
    · rintro ⟨⟩
      exact ⟨e, rfl, rfl⟩
    · rintro ⟨_, ⟨⟩, rfl⟩
      rfl

theorem Codec.Writer.write_eq_ok {writer next : Codec.Writer} :
    Encoder.write writer number text = .ok (bytes, next) ↔
      writer.codec.encode writer.written text = .ok bytes ∧ next = ⟨writer.codec, writer.written ++ [text]⟩ := by
  change ((writer.codec.encode writer.written text).mapError _).map _ = _ ↔ _
  cases writer.codec.encode writer.written text with
  | ok coded =>
    constructor
    · rintro ⟨⟩
      exact ⟨rfl, rfl⟩
    · rintro ⟨⟨⟩, rfl⟩
      rfl
  | error message =>
    constructor
    · rintro ⟨⟩
    · rintro ⟨⟨⟩, -⟩

theorem Codec.Writer.write_eq_error {writer : Codec.Writer} :
    Encoder.write writer number text = .error failure ↔
      ∃ message, writer.codec.encode writer.written text = .error message ∧ failure = .charset (.failed message) := by
  change ((writer.codec.encode writer.written text).mapError _).map _ = _ ↔ _
  cases writer.codec.encode writer.written text with
  | ok coded =>
    constructor
    · rintro ⟨⟩
    · rintro ⟨_, ⟨⟩, -⟩
  | error message =>
    constructor
    · rintro ⟨⟩
      exact ⟨message, rfl, rfl⟩
    · rintro ⟨_, ⟨⟩, rfl⟩
      rfl

end Write

theorem Charset.report?_of_write (charset : Charset) (number : Nat) (text : List Char) (failure : Failure)
    (h : Encoder.write charset number text = .error failure) : failure.report? = none := by
  obtain ⟨e, -, rfl⟩ := Charset.write_eq_error.1 h
  rfl

/-- No encoding fails with a report. -/
theorem CodecFault.report?_failure (fault : CodecFault) : fault.failure.report? = none := by
  cases fault <;> rfl

theorem Codec.report?_of_write (writer : Codec.Writer) (number : Nat) (text : List Char) (failure : Failure)
    (h : Encoder.write writer number text = .error failure) : failure.report? = none := by
  obtain ⟨message, -, rfl⟩ := Codec.Writer.write_eq_error.1 h
  rfl

open Job (Calm)

namespace Line

variable (options : Options) (number : Nat)

theorem report_calm (v : Violation) : Calm (report v) := by
  refine .bind (Job.emit_calm rfl) fun _ => ?_
  split
  · exact .bind (Job.ofExcept_calm _) fun _ => .pure _
  · exact .pure _

section Rules

variable {R : Type} [Criterion R] {P : Failure → Prop} (plain : ∀ failure, failure.report? = none → P failure)
variable (raised : ∀ (rule : R) failure, Criterion.Raises rule failure → P failure)

include plain raised

theorem applyFix_respects (line : List Char) (rule : R) (columns : Columns) (interactive : Bool)
    (number : Int) : Job.Respects World.Calm P (applyFix line rule columns interactive number) := by
  have calm : ∀ {α : Type} {job : Job α}, Calm job → Job.Respects World.Calm P job := fun h =>
    h.mono (fun _ _ => id) plain
  unfold applyFix
  cases repairs : Criterion.repair? rule with
  | none => exact .throw (plain _ rfl)
  | some repair =>
    dsimp only
    split
    · exact .pure _
    have candidate : Job.Respects World.Calm P (Job.ofExcept id (repair line)) := by
      cases made : repair line with
      | ok line' => exact .pure _
      | error failure => exact .throw (raised rule failure (.repair repairs made))
    refine candidate.bind fun candidate => ?_
    split
    · exact .pure _
    · split
      · exact .pure _
      · refine .bind .get fun w => ?_
        split
        · exact calm (.bind (.throw rfl) fun _ => .bind (Job.ofExcept_calm _) fun _ =>
            .bind (Job.confirm_calm _) fun _ => .pure _)
        · exact calm (.bind (Job.ofExcept_calm _) fun _ => .bind (Job.confirm_calm _) fun _ => .pure _)

omit plain in
theorem search_respects (rule : R) (line : List Char) :
    Job.Respects World.Calm P (Criterion.search rule line) := by
  unfold Criterion.search
  cases searched : Criterion.columns rule line with
  | ok columns => exact .pure _
  | error failure => exact .throw (raised rule failure (.search searched))

theorem turn_respects (asRead : List Char) (rule : R) (columns : Columns) (current : List Char) :
    Job.Respects World.Calm P (turn options number asRead rule columns current) := by
  unfold turn
  split
  · exact .pure _
  · refine .bind ((report_calm _).mono (fun _ _ => id) plain) fun _ => ?_
    split
    · exact .bind (search_respects raised _ _) fun _ =>
        .bind (applyFix_respects plain raised _ _ _ _ _) fun _ => .pure _
    · exact .pure _

theorem checkMatches_respects (asRead : List Char) (found : List (R × Columns)) (current : List Char) :
    Job.Respects World.Calm P (checkMatches options number asRead found current) := by
  induction found generalizing current with
  | nil => exact .pure _
  | cons first rest ih =>
    obtain ⟨rule, columns⟩ := first
    rw [checkMatches_cons]
    exact .bind (turn_respects options number plain raised asRead rule columns current) fun _ =>
      .bind (ih _) fun _ => .pure _

omit plain in
theorem evaluate_respects (line : List Char) (rules : List R) :
    Job.Respects World.Calm P (Rule.evaluate line rules) := by
  induction rules with
  | nil => exact .pure _
  | cons rule rules ih =>
    exact .bind (search_respects raised rule line) fun _ => .bind ih fun _ => .pure _

/-- However the scan of a line ends, the volume stays as it was, and nothing worse happens than what the
rules do. -/
theorem scan_respects (rules : List R) (raw : List Char) :
    Job.Respects World.Calm P (scan rules options number raw) := by
  unfold scan check
  dsimp only
  split
  · exact .bind (.bind (evaluate_respects raised _ rules) fun found =>
      checkMatches_respects options number plain raised _ found _) fun _ => .pure _
  · exact .pure _

end Rules

end Line

namespace Scan

section Feed

variable {R E : Type} [Criterion R] [Encoder E] {P : Failure → Prop}
variable (plain : ∀ failure, failure.report? = none → P failure)
variable (raised : ∀ (rule : R) failure, Criterion.Raises rule failure → P failure)
variable (coded : ∀ (encoder : E) number text failure, Encoder.write encoder number text = .error failure → P failure)

include plain raised coded

theorem scanLines_respects (encoder : E) (rules : List R) (options : Options) (number : Nat)
    (raws : List (List Char)) : Job.Respects World.Calm P (scanLines encoder rules options number raws) := by
  induction raws generalizing number encoder with
  | nil => exact .pure _
  | cons raw raws ih =>
    refine .bind (Line.scan_respects options number plain raised rules raw) fun found => ?_
    have written : Job.Respects World.Calm P (Job.ofExcept id (Encoder.write encoder number found.1)) := by
      cases written : Encoder.write encoder number found.1 with
      | ok result => exact .pure _
      | error failure => exact .throw (coded encoder number found.1 failure written)
    dsimp only
    split
    · exact .bind written fun _ => .bind (ih _ _) fun _ => .pure _
    · exact .bind (.pure _) fun _ => .bind (ih _ _) fun _ => .pure _

/-- However the scan of the lines of a file ends, the volume stays as it was. -/
theorem scanFeed_respects (encoder : E) (rules : List R) (options : Options) (lines : List (List Char))
    {broken : Option Failure} (ended : ∀ failure, broken = some failure → P failure) :
    Job.Respects World.Calm P (scanFeed encoder rules options lines broken) := by
  refine .bind (scanLines_respects plain raised coded encoder rules options 1 lines) fun _ => ?_
  split
  · exact .throw (ended _ rfl)
  · exact .pure _

end Feed

theorem scanLines_calm (charset : Charset) (rules : List Rule) (options : Options) (number : Nat)
    (raws : List (List Char)) : Calm (scanLines charset rules options number raws) :=
  scanLines_respects (fun _ => id) Rule.report?_of_raises Charset.report?_of_write charset rules options number raws

/-- However the scan of the lines of a file ends, the volume stays as it was, and nothing worse happens than what
the rules do. -/
theorem scanBytes_respects {R : Type} [Criterion R] {P : Failure → Prop}
    (plain : ∀ failure, failure.report? = none → P failure)
    (raised : ∀ (rule : R) failure, Criterion.Raises rule failure → P failure) (encoding : Charset ⊕ Codec)
    (rules : List R) (options : Options) (bytes : List UInt8) :
    Job.Respects World.Calm P (scanBytes encoding rules options bytes) := by
  cases encoding with
  | inl charset =>
    refine scanFeed_respects plain raised (fun charset number text failure failed =>
      plain failure (Charset.report?_of_write charset number text failure failed)) charset rules options _ ?_
    intro failure broken
    obtain ⟨e, -, rfl⟩ := Option.map_eq_some_iff.1 broken
    exact plain _ rfl
  | inr codec =>
    refine scanFeed_respects plain raised (fun writer number text failure failed =>
      plain failure (Codec.report?_of_write writer number text failure failed)) _ rules options _ ?_
    intro failure broken
    obtain ⟨fault, -, rfl⟩ := Option.map_eq_some_iff.1 broken
    exact plain _ fault.report?_failure

theorem scanBytes_calm (encoding : Charset ⊕ Codec) (rules : List Rule) (options : Options) (bytes : List UInt8) :
    Calm (scanBytes encoding rules options bytes) :=
  scanBytes_respects (fun _ => id) Rule.report?_of_raises encoding rules options bytes

theorem scanDelivery_calm (charset : Charset) (rules : List Rule) (options : Options)
    (delivery : Delivery) : Calm (scanDelivery charset rules options delivery) := by
  refine scanFeed_respects (fun _ => id) Rule.report?_of_raises Charset.report?_of_write charset rules options _ ?_
  intro failure broken
  obtain ⟨e, -, rfl⟩ := Option.map_eq_some_iff.1 broken
  rfl

theorem warn_calm (checker : Checker) (message : String) : Calm (checker.warn message) := by
  unfold Checker.warn
  split
  · exact Job.emit_calm rfl
  · exact Job.log_calm _ _ _

theorem assess_calm (setup : Setup) (path : String) : Calm (assess setup path) := by
  unfold assess
  split
  · exact .pure _
  · unfold Checker.check
    split
    · refine .bind .get fun w => ?_
      split
      · exact .bind (warn_calm _ _) fun _ => .bind (.modify fun _ => ⟨rfl, [], by simp, nofun⟩) fun _ =>
          .pure _
      · exact .pure _
    · exact .bind (warn_calm _ _) fun _ => .pure _
    · exact .bind (warn_calm _ _) fun _ => .pure _
    · exact .bind (Job.log_calm _ _ _) fun _ => Job.ofExcept_calm _

theorem openLines_calm {R : Type} [Criterion R] (host : Host) (setup : Setup) (rules : List R) (options : Options)
    (path : String) : Calm (openLines host setup rules options path) := by
  refine .bind (Job.ofExcept_calm _) fun _ => .bind (Job.ask_calm _) fun _ => ?_
  split
  · exact .throw rfl
  · exact .bind (Job.ofExcept_calm _) fun _ => .pure _

/-- The console does not take a report for reasons of its own, not because of a file that was not replaced. -/
theorem report?_consoleFault (fault : ConsoleFault) : fault.failure.report? = none := by
  cases fault with
  | refused explanation => rfl
  | unencodable error => rfl

theorem tell_calm (host : Host) (report : FileReport) (fix verbose : Bool) : Calm (tell host report fix verbose) := by
  unfold tell
  cases host.consoleFault? report fix verbose with
  | some fault => exact .throw (report?_consoleFault fault)
  | none => exact Job.emit_calm rfl

theorem finishOn_calm (host : Host) (report : FileReport) (fix verbose : Bool) :
    Calm (finishOn host report fix verbose) := by
  unfold finishOn
  split
  · exact .bind (.throw rfl) fun _ => tell_calm host report fix verbose
  · exact tell_calm host report fix verbose

theorem guarding_speaks {α : Type} {job : Job α} (temp : Place) (h : Job.Speaks job) :
    Job.Speaks (guarding temp job) :=
  .tryCatch h fun _ => .bind (Job.modifyVolume_speaks _) fun _ => .throw trivial

theorem moveInPlace_speaks (locked : String → Option String) (temp : Place) (path : String) :
    Job.Speaks (moveInPlace locked temp path) := by
  unfold moveInPlace
  split
  · exact .pure _
  · refine ⟨fun w => ?_, fun _ => trivial⟩
    unfold Job.after
    rw [Job.run_bind_of_ok (EStateM.run_get w)]
    cases w.volume.replace temp path with
    | error e => exact Std.Refl.refl w
    | ok volume => exact ⟨[], (Array.append_empty).symm, nofun⟩

namespace Parts

variable {R : Type} [Criterion R] {parts : Parts R}

theorem replaceFile_speaks (finish : ∀ report fix verbose, Job.Speaks (parts.finish report fix verbose))
    (options : Options) (path name : String) (assessment : Assessment) {lines : Job (List UInt8 × List Count)}
    (scans : Job.Speaks lines) : Job.Speaks (parts.replaceFile options path name assessment lines) := by
  refine .bind (Job.ask_calm _).speaks fun made => ?_
  refine .bind (Job.modifyVolume_speaks _) fun _ => ?_
  refine .bind (guarding_speaks _ scans) fun scanned => ?_
  refine .bind (Job.modifyVolume_speaks _) fun _ => ?_
  refine .bind (moveInPlace_speaks _ _ _) fun moved => ?_
  split
  · exact .bind (Job.modifyVolume_speaks _) fun _ => .bind (finish _ _ _) fun _ => .throw trivial
  · exact .bind (Job.log_calm _ _ _).speaks fun _ => .bind (finish _ _ _) fun _ => .pure _

end Parts

end Scan

end MatlabTidy
