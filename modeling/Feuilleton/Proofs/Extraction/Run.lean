import Feuilleton.Extraction.Step
import Feuilleton.Proofs.Success

/-!
# Runs and reachable states

A run reads its events from left to right and stops at the first one that fails. What every step
keeps, every run keeps.
-/

namespace Feuilleton.State

variable {g : Grammar} {p : Policy} {s t : State}

/-! ## Runs -/

@[simp] theorem run_nil : s.run g p [] = .ok s := rfl

theorem run_cons (event : Event) (events : List Event) :
    s.run g p (event :: events) = s.step g p event >>= fun t => t.run g p events := rfl

theorem run_append (first rest : List Event) :
    s.run g p (first ++ rest) = s.run g p first >>= fun t => t.run g p rest := by
  induction first generalizing s with
  | nil => rfl
  | cons event first ih =>
      rw [List.cons_append, run_cons, run_cons]
      cases s.step g p event with
      | error e => rfl
      | ok t => exact ih

theorem run_cons_of_step {event : Event} (events : List Event)
    (h : s.step g p event = .ok t) : s.run g p (event :: events) = t.run g p events := by
  rw [run_cons, h]
  rfl

theorem run_append_of_run {first : List Event} (rest : List Event)
    (h : s.run g p first = .ok t) : s.run g p (first ++ rest) = t.run g p rest := by
  rw [run_append, h]
  rfl

theorem run_cons_eq_ok {event : Event} {events : List Event}
    (h : s.run g p (event :: events) = .ok t) :
    ∃ m, s.step g p event = .ok m ∧ m.run g p events = .ok t :=
  exists_of_bind_eq_ok h

theorem run_append_eq_ok {first rest : List Event} (h : s.run g p (first ++ rest) = .ok t) :
    ∃ m, s.run g p first = .ok m ∧ m.run g p rest = .ok t := by
  rw [run_append] at h
  exact exists_of_bind_eq_ok h

theorem run_invariant {Inv : State → Prop}
    (hstep : ∀ {s t event}, Inv s → s.step g p event = .ok t → Inv t)
    {events : List Event} (hs : Inv s) (h : s.run g p events = .ok t) : Inv t := by
  induction events generalizing s with
  | nil =>
      cases h
      exact hs
  | cons event events ih =>
      obtain ⟨m, hm, hrest⟩ := run_cons_eq_ok h
      exact ih (hstep hs hm) hrest

/-- A run fails at the first event that fails, and as that event does. -/
theorem run_eq_error_iff {events : List Event} {tooLong : Text.NumeralTooLong} :
    s.run g p events = .error tooLong ↔ ∃ before event after t, events = before ++ event :: after ∧
      s.run g p before = .ok t ∧ t.step g p event = .error tooLong := by
  constructor
  · intro h
    induction events generalizing s with
    | nil => cases h
    | cons event events ih =>
        rw [run_cons] at h
        cases hstep : s.step g p event with
        | error e =>
            rw [hstep] at h
            cases h
            exact ⟨[], event, events, s, rfl, rfl, hstep⟩
        | ok m =>
            rw [hstep] at h
            obtain ⟨before, failing, after, t, rfl, hbefore, hfails⟩ := ih h
            exact ⟨event :: before, failing, after, t, rfl,
              (run_cons_of_step before hstep).trans hbefore, hfails⟩
  · rintro ⟨before, event, after, t, rfl, hbefore, hfails⟩
    rw [run_append_of_run _ hbefore, run_cons, hfails]
    rfl

/-! ## Two runs -/

/-- Both computations fail for one reason, or both succeed with related states. -/
inductive Alike (R : State → State → Prop) :
    Except Text.NumeralTooLong State → Except Text.NumeralTooLong State → Prop
  | error (tooLong : Text.NumeralTooLong) : Alike R (.error tooLong) (.error tooLong)
  | ok {s t : State} : R s t → Alike R (.ok s) (.ok t)

theorem Alike.run {R : State → State → Prop} {q : Policy}
    (hstep : ∀ {s t} event, R s t → Alike R (s.step g p event) (t.step g q event))
    (events : List Event) (h : R s t) : Alike R (s.run g p events) (t.run g q events) := by
  induction events generalizing s t with
  | nil => exact .ok h
  | cons event events ih =>
      have hfirst := hstep event h
      rw [run_cons, run_cons]
      generalize s.step g p event = first at hfirst
      generalize t.step g q event = second at hfirst
      cases hfirst with
      | error tooLong => exact .error tooLong
      | ok hnext => exact ih hnext

/-! ## Reachable states -/

/-- What some page leads to from a fresh state. -/
inductive Reachable (g : Grammar) (p : Policy) : State → Prop
  | initial (path : String) : Reachable g p (.initial path)
  | step {s t : State} {event : Event} :
      Reachable g p s → s.step g p event = .ok t → Reachable g p t

theorem Reachable.run {events : List Event} (hs : Reachable g p s)
    (h : s.run g p events = .ok t) : Reachable g p t :=
  run_invariant Reachable.step hs h

theorem Reachable.of_run {path : String} {events : List Event}
    (h : (State.initial path).run g p events = .ok t) : Reachable g p t :=
  (Reachable.initial path).run h

end Feuilleton.State
