import MatlabTidy.Proofs.Run.Effects

/-!
# What jobs tell

`World.Tells f w w' told` says that between two worlds the trace has grown, and that what was said in
between is `told` if one listens through `f`: to the violations, to the prompts or to the alarms only. What
two jobs tell one after the other adds up (`Tells.trans`).

`Job.Mirrors R own x y` compares two jobs that start in any two worlds: they report the same violations and
end the same way, with values in the relation `R` or with the same failure. Only where the first job fails in
a way of its own may the second go on, and then it reports no less. Jobs in a sequence mirror each other if
they do so one by one (`Mirrors.bind`).
-/

namespace MatlabTidy

namespace Event

/-- The violation that an event reports. -/
def violation? : Event → Option Violation
  | .violation v => some v
  | _ => none

/-- The place in the source and the reason of a fix that the operator is asked about. -/
def asked? : Event → Option (Int × String)
  | .prompt p => some (p.lineNumber, p.reason)
  | _ => none

/-- The message of an alarm. -/
def alarm? : Event → Option String
  | .notice .error message => some message
  | _ => none

theorem alarm?_of_quiet {event : Event} (quiet : event.isAlarm = false) : event.alarm? = none := by
  unfold alarm?
  split
  · cases quiet
  · rfl

end Event

namespace World

variable {β : Type} {f : Event → Option β} {w w₁ w' : World} {told more : List β}

/-- The trace has grown, and what can be heard through `f` was told in between. -/
def Tells (f : Event → Option β) (w w' : World) (told : List β) : Prop :=
  ∃ events : List Event, w'.events = w.events ++ events.toArray ∧ events.filterMap f = told

namespace Tells

theorem nil (f : Event → Option β) (w : World) : Tells f w w [] := ⟨[], by simp, rfl⟩

theorem trans (h : Tells f w w₁ told) (h' : Tells f w₁ w' more) : Tells f w w' (told ++ more) := by
  obtain ⟨events, grown, rfl⟩ := h
  obtain ⟨others, grown', rfl⟩ := h'
  refine ⟨events ++ others, ?_, List.filterMap_append⟩
  rw [grown', grown]
  simp

/-- What was told is read off the two traces. -/
theorem unique (h : Tells f w w' told) (h' : Tells f w w' more) : told = more := by
  obtain ⟨events, grown, rfl⟩ := h
  obtain ⟨others, grown', rfl⟩ := h'
  rw [grown, Array.append_right_inj, ← Array.toList_inj] at grown'
  exact congrArg (List.filterMap f) grown'

end Tells

theorem tells_saying (f : Event → Option β) (w : World) (events : List Event) :
    Tells f w (w.saying events) (events.filterMap f) := ⟨events, rfl, rfl⟩

/-- One more event that cannot be heard. -/
theorem tells_unheard {event : Event} (w : World) (unheard : f event = none) : Tells f w (w.saying [event]) [] :=
  ⟨[event], rfl, by simp [unheard]⟩

/-- Of a trace that has grown, something was told. -/
theorem Speaks.tells (h : Speaks w w') (f : Event → Option β) : ∃ told, Tells f w w' told := by
  obtain ⟨events, grown, -⟩ := h
  exact ⟨events.filterMap f, events, grown, rfl⟩

/-- Who gives no alarm is not heard to give one. -/
theorem Speaks.tells_alarm (h : Speaks w w') : Tells Event.alarm? w w' [] := by
  obtain ⟨events, grown, quiet⟩ := h
  refine ⟨events, grown, List.filterMap_eq_nil_iff.2 fun event mem => ?_⟩
  exact Event.alarm?_of_quiet (quiet event mem)

end World

namespace Job

open World (Tells)

variable {α α' β β' ε : Type} {R : α → β → Prop} {S : α' → β' → Prop} {own : Failure → Prop}

/-- How two jobs end that start in two worlds and report the same. -/
inductive Mirrored (R : α → β → Prop) (own : Failure → Prop) (x : Job α) (y : Job β) (w w₂ : World) : Prop where
  | ok {a : α} {b : β} {w' w₂' : World} {told : List Violation} (run : x.run w = .ok a w')
      (run₂ : y.run w₂ = .ok b w₂') (related : R a b) (tells : Tells Event.violation? w w' told)
      (tells₂ : Tells Event.violation? w₂ w₂' told)
  | error {failure : Failure} {w' w₂' : World} {told : List Violation} (run : x.run w = .error failure w')
      (run₂ : y.run w₂ = .error failure w₂') (tells : Tells Event.violation? w w' told)
      (tells₂ : Tells Event.violation? w₂ w₂' told)
  /-- The first job fails in a way of its own, and has reported a part of what the second reports. -/
  | own {failure : Failure} {w' : World} {told : List Violation} (run : x.run w = .error failure w')
      (reason : own failure) (tells : Tells Event.violation? w w' told)
      (tells₂ : ∃ more, Tells Event.violation? w₂ (y.after w₂) (told ++ more))

/-- From whatever worlds they start, the jobs report the same and end the same way. -/
def Mirrors (R : α → β → Prop) (own : Failure → Prop) (x : Job α) (y : Job β) : Prop :=
  ∀ w w₂, Mirrored R own x y w w₂

namespace Mirrors

theorem pure {a : α} {b : β} (related : R a b) : Mirrors R own (pure a) (pure b) :=
  fun w w₂ => .ok rfl rfl related (.nil _ w) (.nil _ w₂)

theorem throw (R : α → β → Prop) (failure : Failure) :
    Mirrors R own (throw failure : Job α) (throw failure : Job β) :=
  fun w w₂ => .error rfl rfl (.nil _ w) (.nil _ w₂)

/-- The same value or failure, which depends on nothing. -/
theorem ofExcept {Q : α → α → Prop} (failure : ε → Failure) (x : Except ε α) (related : ∀ a, x = .ok a → Q a a) :
    Mirrors Q own (ofExcept failure x) (ofExcept failure x) := by
  cases x with
  | ok a => exact pure (related a rfl)
  | error e => exact throw Q (failure e)

theorem mono {R' : α → β → Prop} {own' : Failure → Prop} {x : Job α} {y : Job β} (h : Mirrors R own x y)
    (looser : ∀ a b, R a b → R' a b) (wider : ∀ failure, own failure → own' failure) : Mirrors R' own' x y := by
  intro w w₂
  cases h w w₂ with
  | ok run run₂ related tells tells₂ => exact .ok run run₂ (looser _ _ related) tells tells₂
  | error run run₂ tells tells₂ => exact .error run run₂ tells tells₂
  | own run reason tells tells₂ => exact .own run (wider _ reason) tells tells₂

/-- A job that can only fail, and in a way of its own, in place of one that does nothing. -/
theorem ofExcept_own (x : Except Failure α) (reason : ∀ failure, x = .error failure → own failure) :
    Mirrors (fun a _ => x = .ok a) own (Job.ofExcept id x) (Pure.pure ()) := by
  cases x with
  | ok a => exact pure rfl
  | error failure => exact fun w w₂ => .own rfl (reason failure rfl) (.nil _ w) ⟨[], .nil _ w₂⟩

/-- Jobs in a sequence, of which the second takes nothing back. -/
theorem bind {x : Job α} {y : Job β} {f : α → Job α'} {g : β → Job β'} (first : Mirrors R own x y)
    (then_ : ∀ a b, R a b → Mirrors S own (f a) (g b)) (speaks : ∀ b, Speaks (g b)) :
    Mirrors S own (x >>= f) (y >>= g) := by
  intro w w₂
  cases first w w₂ with
  | @ok a b w₁ w₂₁ told run run₂ related tells tells₂ =>
    have after : (y >>= g).after w₂ = (g b).after w₂₁ := by
      unfold Job.after
      rw [run_bind_of_ok run₂]
    cases then_ a b related w₁ w₂₁ with
    | ok run' run₂' related' tells' tells₂' =>
      exact .ok ((run_bind_of_ok run).trans run') ((run_bind_of_ok run₂).trans run₂') related'
        (tells.trans tells') (tells₂.trans tells₂')
    | error run' run₂' tells' tells₂' =>
      exact .error ((run_bind_of_ok run).trans run') ((run_bind_of_ok run₂).trans run₂')
        (tells.trans tells') (tells₂.trans tells₂')
    | own run' reason tells' tells₂' =>
      obtain ⟨more, tells₂'⟩ := tells₂'
      refine .own ((run_bind_of_ok run).trans run') reason (tells.trans tells') ⟨more, ?_⟩
      rw [after, List.append_assoc]
      exact tells₂.trans tells₂'
  | error run run₂ tells tells₂ =>
    exact .error (run_bind_eq_error.2 (.inl run)) (run_bind_eq_error.2 (.inl run₂)) tells tells₂
  | own run reason tells tells₂ =>
    obtain ⟨more, tells₂⟩ := tells₂
    -- The second job goes on alone, and adds to what it has reported.
    cases ran : y.run w₂ with
    | ok b w₂₁ =>
      have after : (y >>= g).after w₂ = (g b).after w₂₁ := by
        unfold Job.after
        rw [run_bind_of_ok ran]
      obtain ⟨further, tells₂'⟩ := ((speaks b).world w₂₁).tells Event.violation?
      rw [after_of_ok ran] at tells₂
      refine .own (run_bind_eq_error.2 (.inl run)) reason tells ⟨more ++ further, ?_⟩
      rw [after, ← List.append_assoc]
      exact tells₂.trans tells₂'
    | error failure₂ w₂₁ =>
      rw [after_of_error ran] at tells₂
      refine .own (run_bind_eq_error.2 (.inl run)) reason tells ⟨more, ?_⟩
      rw [after_of_error (run_bind_eq_error.2 (.inl ran))]
      exact tells₂

/-- A job of which nothing is reported stands before the first job alone. -/
theorem bind_left {x : Job α} {b : β} {f : α → Job α'} {y : Job β'} (first : Mirrors R own x (Pure.pure b))
    (then_ : ∀ a, R a b → Mirrors S own (f a) y) (speaks : Speaks y) : Mirrors S own (x >>= f) y := by
  have only : Mirrors (fun a c => R a c ∧ c = b) own x (Pure.pure b) := by
    intro w w₂
    cases first w w₂ with
    | ok run run₂ related tells tells₂ =>
      cases run₂
      exact .ok run rfl ⟨related, rfl⟩ tells tells₂
    | error run run₂ tells tells₂ => cases run₂
    | own run reason tells tells₂ => exact .own run reason tells tells₂
  have whole := bind only (g := fun _ => y) (fun a c related => then_ a (related.2 ▸ related.1)) fun _ => speaks
  rwa [pure_bind] at whole

end Mirrors

end Job

end MatlabTidy
