import OneInfra.Lib.Prog

/-!
# Triples with two postconditions

A program can return a value, return an error, or not return at all.  `Triple P x Q E` says
that from a state with `P`, the program `x` ends with `Q` of the value and the state if it
returns a value, and with `E` of the state if it returns an error.  It says nothing of a program
that does not return.

There is a rule for each way in which programs are built.  The rules for loops take an invariant
of the state, and of the value that is carried along.
-/

namespace OneInfra.Lib

variable {σ α β : Type}

/-- A value comes with `Q` and an error with `E`, from a state with `P`. -/
def Triple (P : σ → Prop) (x : EStateM Fault σ α) (Q : α → σ → Prop) (E : σ → Prop) : Prop :=
  ∀ s, P s → (∀ a s', x.run s = .ok a s' → Q a s') ∧
    ∀ message s', x.run s = .error (.error message) s' → E s'

namespace Triple

variable {P P' : σ → Prop} {Q Q' : α → σ → Prop} {R : β → σ → Prop} {E E' : σ → Prop}

theorem mono {x : EStateM Fault σ α} (h : Triple P x Q E) (hP : ∀ s, P' s → P s)
    (hQ : ∀ a s, Q a s → Q' a s) (hE : ∀ s, E s → E' s) : Triple P' x Q' E' := by
  intro s hs
  obtain ⟨hok, herr⟩ := h s (hP s hs)
  constructor
  · intro a s' hrun
    exact hQ a s' (hok a s' hrun)
  · intro message s' hrun
    exact hE s' (herr message s' hrun)

theorem of_pure {a : α} (h : ∀ s, P s → Q a s) : Triple P (pure a) Q E := by
  intro s hs
  constructor
  · intro a' s' hrun
    cases hrun
    exact h s hs
  · intro message s' hrun
    cases hrun

theorem of_get {Q : σ → σ → Prop} (h : ∀ s, P s → Q s s) : Triple P get Q E := by
  intro s hs
  constructor
  · intro a s' hrun
    cases hrun
    exact h s hs
  · intro message s' hrun
    cases hrun

theorem of_modify {f : σ → σ} (h : ∀ s, P s → P' (f s)) :
    Triple P (modify f) (fun _ => P') E := by
  intro s hs
  constructor
  · intro a s' hrun
    cases hrun
    exact h s hs
  · intro message s' hrun
    cases hrun

/-- Nothing is said of any program. -/
theorem trivial (x : EStateM Fault σ α) : Triple P x (fun _ _ => True) fun _ => True :=
  fun _ _ => ⟨fun _ _ _ => True.intro, fun _ _ _ => True.intro⟩

/-- A panic meets every triple. -/
theorem of_panic (message : String) : Triple P (throw (.panic message)) Q E := by
  intro s _
  constructor
  · intro a s' hrun
    cases hrun
  · intro message' s' hrun
    cases hrun

theorem bind {x : EStateM Fault σ α} {f : α → EStateM Fault σ β} (hx : Triple P x Q E)
    (hf : ∀ a, Triple (Q a) (f a) R E) : Triple P (x >>= f) R E := by
  intro s hs
  obtain ⟨hok, herr⟩ := hx s hs
  cases hrun : x.run s with
  | ok a s₁ =>
    rw [run_bind_of_ok hrun]
    exact hf a s₁ (hok a s₁ hrun)
  | error fault s₁ =>
    rw [run_bind_of_error hrun]
    constructor
    · intro b s' h
      cases h
    · intro message s' h
      cases h
      exact herr message _ hrun

/-- An error that is caught is a value. -/
theorem of_attempt {x : EStateM Fault σ α} (h : Triple P x Q E) {R : Except String α → σ → Prop}
    (hok : ∀ a s, Q a s → R (.ok a) s) (herr : ∀ message s, E s → R (.error message) s) :
    Triple P (attempt x) R E' := by
  intro s hs
  obtain ⟨hvalue, hcaught⟩ := h s hs
  constructor
  · intro result s' hrun
    change attempt x s = _ at hrun
    unfold attempt at hrun
    split at hrun
    next a s₁ hx =>
      cases hrun
      exact hok a s' (hvalue a s' hx)
    next message s₁ hx =>
      cases hrun
      exact herr message s' (hcaught message s' hx)
    next => cases hrun
  · intro message s' hrun
    obtain ⟨-, _, hpanic⟩ := run_attempt_eq_error.mp hrun
    cases hpanic

theorem forM {f : β → EStateM Fault σ Unit} {l : List β}
    (hf : ∀ b ∈ l, Triple P (f b) (fun _ => P) E) : Triple P (l.forM f) (fun _ => P) E := by
  induction l with
  | nil => exact of_pure fun _ hs => hs
  | cons b l ih =>
    rw [forM_cons_eq]
    exact bind (hf b List.mem_cons_self) fun _ =>
      ih fun b' hb' => hf b' (List.mem_cons_of_mem _ hb')

/-- The loop with an accumulator, for an invariant of the accumulator and the state. -/
theorem foldlM {J : β → σ → Prop} {f : β → α → EStateM Fault σ β} {l : List α}
    (hf : ∀ acc, ∀ a ∈ l, Triple (J acc) (f acc a) J E) (acc : β) :
    Triple (J acc) (l.foldlM f acc) J E := by
  induction l generalizing acc with
  | nil => exact of_pure fun _ hs => hs
  | cons a l ih =>
    rw [List.foldlM_cons]
    exact bind (hf acc a List.mem_cons_self) fun acc' =>
      ih (fun acc a' ha' => hf acc a' (List.mem_cons_of_mem _ ha')) acc'

end Triple

end OneInfra.Lib
