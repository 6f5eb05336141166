import Mathlib.Logic.Basic

/-!
# Plans that are the same after each step

A controller computes a list of calls from the state and makes them one by one.  If the state
after the first call has the rest of the list as its own list of calls, then a run that was
cut short is continued by the next run: it computes what was left.
-/

namespace OneInfra.Lib

variable {S C E : Type}

/-- Each call of a plan is accepted, and the state after it has the rest as its plan.  The
states of `Inv` stay in it. -/
structure Replans (apply : S → C → Except E S) (plan : S → List C) (Inv : S → Prop) : Prop where
  step : ∀ s call rest, Inv s → plan s = call :: rest →
    ∃ s', apply s call = .ok s' ∧ plan s' = rest ∧ Inv s'

variable {apply : S → C → Except E S} {plan : S → List C} {Inv : S → Prop}

/-- The state after the first calls of a plan has the other ones as its plan. -/
theorem Replans.foldlM (h : Replans apply plan Inv) {s : S} {made rest : List C} (hinv : Inv s)
    (hplan : plan s = made ++ rest) :
    ∃ s', made.foldlM apply s = .ok s' ∧ plan s' = rest ∧ Inv s' := by
  induction made generalizing s with
  | nil => exact ⟨s, rfl, hplan, hinv⟩
  | cons call made ih =>
    obtain ⟨next, hcall, hnext, hinv'⟩ := h.step s call (made ++ rest) hinv hplan
    obtain ⟨s', hmade, hrest⟩ := ih hinv' hnext
    refine ⟨s', ?_, hrest⟩
    rw [List.foldlM_cons, hcall]
    exact hmade

end OneInfra.Lib
