import Mathlib.Logic.Relation

/-!
# Runs of a transition function

A system is a function `step` from a state and an event to the next state, and
`allowed` says which events may happen in a state.  `Reaches step allowed s t`
says that a run from `s` gets to `t` by allowed events.

A property of the states of all runs is proved by `Reaches.invariant`.  A
given run is one for `reaches_foldl`, which takes the list of its events.
-/

namespace OneInfra.Lib

variable {σ ε : Type} {step : σ → ε → σ} {allowed : σ → ε → Prop} {s t : σ}

/-- A run of allowed events leads from `s` to `t`. -/
def Reaches (step : σ → ε → σ) (allowed : σ → ε → Prop) (s t : σ) : Prop :=
  Relation.ReflTransGen (fun s t => ∃ event, allowed s event ∧ step s event = t) s t

/-- What holds at the start and is kept by every allowed event holds in every
state reached. -/
theorem Reaches.invariant {P : σ → Prop} (h : Reaches step allowed s t)
    (hstep : ∀ s event, P s → allowed s event → P (step s event)) (hstart : P s) : P t := by
  induction h with
  | refl => exact hstart
  | tail _ hlast ih =>
    obtain ⟨event, hallowed, rfl⟩ := hlast
    exact hstep _ event ih hallowed

/-- Every event of the list is allowed in the state that the events before it
lead to. -/
def AllowedRun (step : σ → ε → σ) (allowed : σ → ε → Prop) : σ → List ε → Prop
  | _, [] => True
  | s, event :: events => allowed s event ∧ AllowedRun step allowed (step s event) events

instance AllowedRun.decidable [h : ∀ s event, Decidable (allowed s event)] :
    ∀ (s : σ) (events : List ε), Decidable (AllowedRun step allowed s events)
  | _, [] => isTrue trivial
  | s, event :: events =>
    haveI := AllowedRun.decidable (step s event) events
    inferInstanceAs (Decidable (_ ∧ _))

/-- Two conditions that agree on the steps of a run hold of it together. -/
theorem AllowedRun.congr {P Q : σ → ε → Prop} {events : List ε}
    (h : AllowedRun step allowed s events)
    (hiff : ∀ s event, allowed s event → (P s event ↔ Q s event)) :
    AllowedRun step P s events ↔ AllowedRun step Q s events := by
  induction events generalizing s with
  | nil => exact .rfl
  | cons event events ih => exact and_congr (hiff s event h.1) (ih h.2)

theorem reaches_foldl {events : List ε} (h : AllowedRun step allowed s events) :
    Reaches step allowed s (events.foldl step s) := by
  induction events generalizing s with
  | nil => exact .refl
  | cons event events ih => exact .head ⟨event, h.1, rfl⟩ (ih h.2)

end OneInfra.Lib
