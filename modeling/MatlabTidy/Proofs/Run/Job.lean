import MatlabTidy.Run.Scan

/-!
# Runs of jobs

What it means that a job ends well, step by step: `Job.run_bind_eq_ok` takes a sequence of two jobs
apart and `Job.run_bind_of_ok` puts it together, and each primitive job has an equation of its own.
`World.saying` is the world after some more events; a job that only speaks leaves such a world.
`Job.outcome` is what a job comes to, whatever world it leaves.
-/

namespace MatlabTidy

namespace World

/-- The world with more events in its trace. -/
def saying (w : World) (events : List Event) : World := { w with events := w.events ++ events.toArray }

variable (w : World) (events more : List Event)

@[simp] theorem saying_nil : w.saying [] = w := by
  simp [saying]

@[simp] theorem saying_saying : (w.saying events).saying more = w.saying (events ++ more) := by
  simp [saying, Array.append_assoc]

end World

namespace Job

variable {α β ε : Type} {w w' : World}

/-- A sequence of two jobs ends well if both do. -/
theorem run_bind_eq_ok {x : Job α} {f : α → Job β} {b : β} :
    (x >>= f).run w = .ok b w' ↔ ∃ a w₁, x.run w = .ok a w₁ ∧ (f a).run w₁ = .ok b w' := by
  rw [EStateM.run_bind]
  cases x.run w with
  | ok a w₁ =>
    constructor
    · intro h
      exact ⟨a, w₁, rfl, h⟩
    · rintro ⟨_, _, first, h⟩
      cases first
      exact h
  | error e w₁ =>
    constructor
    · intro h
      cases h
    · rintro ⟨_, _, first, -⟩
      cases first

/-- A sequence of two jobs fails if the first fails, or the second after it. -/
theorem run_bind_eq_error {x : Job α} {f : α → Job β} {failure : Failure} :
    (x >>= f).run w = .error failure w' ↔
      x.run w = .error failure w' ∨ ∃ a w₁, x.run w = .ok a w₁ ∧ (f a).run w₁ = .error failure w' := by
  rw [EStateM.run_bind]
  cases x.run w with
  | ok a w₁ =>
    constructor
    · intro h
      exact .inr ⟨a, w₁, rfl, h⟩
    · rintro (first | ⟨_, _, first, h⟩)
      · cases first
      · cases first
        exact h
  | error e w₁ =>
    constructor
    · intro h
      cases h
      exact .inl rfl
    · rintro (first | ⟨_, _, first, -⟩)
      · cases first
        rfl
      · cases first

theorem run_bind_of_ok {x : Job α} {f : α → Job β} {a : α} (h : x.run w = .ok a w') :
    (x >>= f).run w = (f a).run w' := by
  rw [EStateM.run_bind, h]

@[simp] theorem run_emit (event : Event) : (emit event).run w = .ok () (w.saying [event]) := by
  simp [emit, World.saying]

@[simp] theorem run_log (level : Level) (source : Source) (message : String) :
    (log level source message).run w = .ok () (w.saying [.logged ⟨level, source, message⟩]) :=
  run_emit _

@[simp] theorem run_modifyVolume (change : Volume → Volume) :
    (modifyVolume change).run w = .ok () { w with volume := change w.volume } := rfl

@[simp] theorem run_ofExcept_ok (failure : ε → Failure) (a : α) :
    (ofExcept failure (.ok a : Except ε α)).run w = .ok a w := rfl

theorem run_ofExcept_eq_ok {failure : ε → Failure} {x : Except ε α} {a : α} :
    (ofExcept failure x).run w = .ok a w' ↔ x = .ok a ∧ w' = w := by
  cases x with
  | ok b =>
    rw [run_ofExcept_ok]
    constructor
    · intro h
      cases h
      exact ⟨rfl, rfl⟩
    · rintro ⟨h, rfl⟩
      cases h
      rfl
  | error e =>
    constructor
    · intro h
      cases h
    · rintro ⟨h, -⟩
      cases h

theorem run_ofExcept_eq_error {wrap : ε → Failure} {x : Except ε α} {failure : Failure} :
    (ofExcept wrap x).run w = .error failure w' ↔ ∃ e, x = .error e ∧ failure = wrap e ∧ w' = w := by
  cases x with
  | ok a =>
    constructor
    · intro h
      cases h
    · rintro ⟨_, h, -⟩
      cases h
  | error e =>
    constructor
    · intro h
      cases h
      exact ⟨e, rfl, rfl, rfl⟩
    · rintro ⟨_, h, rfl, rfl⟩
      cases h
      rfl

/-- A question to the volume ends well if the volume answers it. -/
theorem run_ask_eq_ok {question : Volume → Except AccessError α} {a : α} :
    (ask question).run w = .ok a w' ↔ question w.volume = .ok a ∧ w' = w :=
  run_ofExcept_eq_ok

theorem run_ask_of_error {question : Volume → Except AccessError α} {error : AccessError}
    (h : question w.volume = .error error) : (ask question).run w = .error (.access error) w := by
  change (ofExcept .access (question w.volume)).run w = _
  rw [h]
  rfl

/-- A job with a handler: the handler works on the world that the failed job has left. -/
theorem run_tryCatch (x : Job α) (handler : Failure → Job α) :
    (tryCatch x handler).run w = match x.run w with
      | .ok a w₁ => .ok a w₁
      | .error failure w₁ => (handler failure).run w₁ := by
  change EStateM.tryCatch x handler w = _
  unfold EStateM.tryCatch EStateM.run
  cases x w with
  | ok a w₁ => rfl
  | error failure w₁ => rfl

theorem not_run_throw_eq_ok {failure : Failure} {a : α} :
    ¬ (throw failure : Job α).run w = .ok a w' := by
  intro h
  cases h

/-- What a job comes to: its value, or its failure. -/
def outcome (job : Job α) (w : World) : Except Failure α :=
  match job.run w with
  | .ok a _ => .ok a
  | .error failure _ => .error failure

theorem outcome_of_ok {job : Job α} {a : α} (h : job.run w = .ok a w') : job.outcome w = .ok a := by
  rw [outcome, h]

theorem outcome_of_error {job : Job α} {failure : Failure} (h : job.run w = .error failure w') :
    job.outcome w = .error failure := by
  rw [outcome, h]

theorem outcome_bind {x : Job α} {f : α → Job β} {a : α} (h : x.run w = .ok a w') :
    (x >>= f).outcome w = (f a).outcome w' := by
  rw [outcome, run_bind_of_ok h, outcome]

end Job

end MatlabTidy
