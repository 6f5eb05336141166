import Mathlib.Logic.Basic

/-!
# Programs that fail and keep their changes

`EStateM ε σ α` is a program over a state `σ` that returns a value or an error.
An error keeps the state that the steps before it left, which is how a program
behaves that returns its errors as values.  This file adds what such programs
need beyond `bind`: the state at the end of a run whatever its outcome, and the
call whose error is dropped.

`Fault` tells the two ways apart in which a call ends early.  An error is a
value that the caller tests, and a panic is not.

A program is taken apart by `run_bind_eq_ok` when it returns a value, and by
`Guarantees` when only its effect on the state matters: a relation between the
states before and after that holds of the parts holds of their sequence.
-/

namespace OneInfra.Lib

variable {ε σ α : Type}

/-- The state at the end of a run. -/
def finalState : EStateM.Result ε σ α → σ
  | .ok _ s => s
  | .error _ s => s

@[simp] theorem finalState_ok (a : α) (s : σ) :
    finalState (.ok a s : EStateM.Result ε σ α) = s := rfl

@[simp] theorem finalState_error (e : ε) (s : σ) :
    finalState (.error e s : EStateM.Result ε σ α) = s := rfl

/-- Run `x` and go on, whatever it returns. -/
def ignoreError (x : EStateM ε σ Unit) : EStateM ε σ Unit := fun s =>
  .ok () (finalState (x s))

@[simp] theorem ignoreError_run (x : EStateM ε σ Unit) (s : σ) :
    (ignoreError x).run s = .ok () (finalState (x.run s)) := rfl

/-! ## Taking programs apart -/

theorem run_ofExcept_eq_ok {x : Except ε α} {s s' : σ} {a : α} :
    (ofExcept x : EStateM ε σ α).run s = .ok a s' ↔ x = .ok a ∧ s' = s := by
  cases x with
  | ok value => simp [ofExcept, eq_comm]
  | error e => exact iff_of_false (fun h => by cases h) (fun h => by cases h.1)

theorem run_bind_eq_ok {β : Type} {x : EStateM ε σ α} {f : α → EStateM ε σ β} {s s'' : σ} {b : β} :
    (x >>= f).run s = .ok b s'' ↔ ∃ a s', x.run s = .ok a s' ∧ (f a).run s' = .ok b s'' := by
  rw [EStateM.run_bind]
  cases x.run s with
  | ok a s' => simp [and_assoc]
  | error e s' => simp

theorem run_bind_of_ok {β : Type} {x : EStateM ε σ α} {f : α → EStateM ε σ β} {s s' : σ} {a : α}
    (hx : x.run s = .ok a s') : (x >>= f).run s = (f a).run s' := by
  rw [EStateM.run_bind, hx]

theorem run_bind_of_error {β : Type} {x : EStateM ε σ α} {f : α → EStateM ε σ β} {s s' : σ} {e : ε}
    (hx : x.run s = .error e s') : (x >>= f).run s = .error e s' := by
  rw [EStateM.run_bind, hx]

theorem forM_cons_eq {β : Type} (f : β → EStateM ε σ Unit) (b : β) (l : List β) :
    (b :: l).forM f = (f b >>= fun _ => l.forM f) := rfl

theorem run_forM_append {β : Type} {f : β → EStateM ε σ Unit} {l l' : List β} {s s' : σ}
    (hl : (l.forM f).run s = .ok () s') : ((l ++ l').forM f).run s = (l'.forM f).run s' := by
  induction l generalizing s with
  | nil =>
    cases hl
    rfl
  | cons b l ih =>
    rw [forM_cons_eq] at hl
    obtain ⟨_, s₁, hb, hl⟩ := run_bind_eq_ok.mp hl
    rw [List.cons_append, forM_cons_eq, run_bind_of_ok hb]
    exact ih hl

/-- A loop that returns is taken apart at one of its elements. -/
theorem run_forM_append_cons_eq_ok {β : Type} {f : β → EStateM ε σ Unit} {l l' : List β} {b : β}
    {s s' : σ} : ((l ++ b :: l').forM f).run s = .ok () s' ↔ ∃ s₁ s₂,
      (l.forM f).run s = .ok () s₁ ∧ (f b).run s₁ = .ok () s₂ ∧ (l'.forM f).run s₂ = .ok () s' := by
  constructor
  · intro h
    induction l generalizing s with
    | nil =>
      obtain ⟨_, s₂, hb, hrest⟩ := run_bind_eq_ok.mp h
      exact ⟨s, s₂, rfl, hb, hrest⟩
    | cons first l ih =>
      obtain ⟨_, s₀, hfirst, hl⟩ := run_bind_eq_ok.mp h
      obtain ⟨s₁, s₂, hbef, hb, hrest⟩ := ih hl
      exact ⟨s₁, s₂, (run_bind_of_ok hfirst).trans hbef, hb, hrest⟩
  · rintro ⟨s₁, s₂, hbef, hb, hrest⟩
    rw [run_forM_append hbef, forM_cons_eq, run_bind_of_ok hb, hrest]

theorem finalState_forM_singleton {β : Type} (f : β → EStateM ε σ Unit) (b : β) (s : σ) :
    finalState (([b].forM f).run s) = finalState ((f b).run s) := by
  rw [forM_cons_eq, EStateM.run_bind]
  cases (f b).run s <;> rfl

theorem except_bind_eq_ok {β : Type} {x : Except ε α} {f : α → Except ε β} {b : β} :
    (x >>= f) = .ok b ↔ ∃ a, x = .ok a ∧ f a = .ok b := by
  cases x with
  | ok a => simp [bind, Except.bind]
  | error e => simp [bind, Except.bind]

/-- The run of `x` from `s` returns a value. -/
def Returns (x : EStateM ε σ α) (s : σ) : Prop :=
  ∃ a s', x.run s = .ok a s'

instance (x : EStateM ε σ α) (s : σ) : Decidable (Returns x s) :=
  match h : x.run s with
  | .ok a s' => .isTrue ⟨a, s', h⟩
  | .error e s' => .isFalse fun ⟨_, _, hok⟩ => by
    rw [h] at hok
    cases hok

theorem Returns.of_pure (a : α) (s : σ) : Returns (pure a : EStateM ε σ α) s := ⟨a, s, rfl⟩

/-- A sequence returns a value if its first part does and the second does after
it. -/
theorem Returns.bind {β : Type} {x : EStateM ε σ α} {f : α → EStateM ε σ β} {s s' : σ} {a : α}
    (hx : x.run s = .ok a s') (hf : Returns (f a) s') : Returns (x >>= f) s := by
  obtain ⟨b, s'', hf⟩ := hf
  exact ⟨b, s'', run_bind_eq_ok.mpr ⟨a, s', hx, hf⟩⟩

/-- However a run of `x` ends, `R` relates the states before and after. -/
def Guarantees (R : σ → σ → Prop) (x : EStateM ε σ α) : Prop :=
  ∀ s, R s (finalState (x.run s))

namespace Guarantees

variable {R : σ → σ → Prop}

theorem of_pure (hrefl : ∀ s, R s s) (a : α) : Guarantees R (pure a : EStateM ε σ α) :=
  fun s => hrefl s

theorem of_get (hrefl : ∀ s, R s s) : Guarantees R (get : EStateM ε σ σ) :=
  hrefl

theorem of_ofExcept (hrefl : ∀ s, R s s) (x : Except ε α) :
    Guarantees R (ofExcept x : EStateM ε σ α) := by
  intro s
  cases x <;> exact hrefl s

theorem bind_of_run {β : Type} {x : EStateM ε σ α} {f : α → EStateM ε σ β}
    (htrans : ∀ s t u, R s t → R t u → R s u) (hx : Guarantees R x)
    (hf : ∀ a s s', x.run s = .ok a s' → Guarantees R (f a)) : Guarantees R (x >>= f) := by
  intro s
  have hfirst := hx s
  rw [EStateM.run_bind]
  cases hrun : x.run s with
  | ok a s' =>
    rw [hrun] at hfirst
    exact htrans _ _ _ hfirst (hf a s s' hrun s')
  | error e s' =>
    rw [hrun] at hfirst
    exact hfirst

theorem bind {β : Type} {x : EStateM ε σ α} {f : α → EStateM ε σ β}
    (htrans : ∀ s t u, R s t → R t u → R s u) (hx : Guarantees R x)
    (hf : ∀ a, Guarantees R (f a)) : Guarantees R (x >>= f) :=
  bind_of_run htrans hx fun a _ _ _ => hf a

theorem forM {β : Type} {f : β → EStateM ε σ Unit} {l : List β} (hrefl : ∀ s, R s s)
    (htrans : ∀ s t u, R s t → R t u → R s u) (hf : ∀ b ∈ l, Guarantees R (f b)) :
    Guarantees R (l.forM f) := by
  induction l with
  | nil => exact of_pure hrefl ()
  | cons b l ih =>
    obtain ⟨hb, hl⟩ := List.forall_mem_cons.mp hf
    exact bind htrans hb fun _ => ih hl

theorem mono {R' : σ → σ → Prop} {x : EStateM ε σ α} (hR : ∀ s t, R s t → R' s t)
    (hx : Guarantees R x) : Guarantees R' x :=
  fun s => hR _ _ (hx s)

/-- What is guaranteed of a run that returns a value. -/
theorem of_run {x : EStateM ε σ α} {s s' : σ} {a : α} (hx : Guarantees R x)
    (hrun : x.run s = .ok a s') : R s s' := by
  have h := hx s
  rwa [hrun] at h

end Guarantees

/-- However a run of `x` ends, it keeps `P`. -/
def Preserves (P : σ → Prop) (x : EStateM ε σ α) : Prop :=
  Guarantees (fun s t => P s → P t) x

namespace Preserves

variable {P : σ → Prop}

theorem of_pure (a : α) : Preserves P (pure a : EStateM ε σ α) :=
  Guarantees.of_pure (fun _ h => h) a

theorem of_get : Preserves P (get : EStateM ε σ σ) :=
  Guarantees.of_get fun _ h => h

theorem of_throw (e : ε) : Preserves P (throw e : EStateM ε σ α) :=
  fun _ h => h

theorem of_ofExcept (x : Except ε α) : Preserves P (ofExcept x : EStateM ε σ α) :=
  Guarantees.of_ofExcept (fun _ h => h) x

theorem bind {β : Type} {x : EStateM ε σ α} {f : α → EStateM ε σ β} (hx : Preserves P x)
    (hf : ∀ a, Preserves P (f a)) : Preserves P (x >>= f) :=
  Guarantees.bind (fun _ _ _ h h' hs => h' (h hs)) hx hf

theorem forM {β : Type} {f : β → EStateM ε σ Unit} {l : List β}
    (hf : ∀ b ∈ l, Preserves P (f b)) : Preserves P (l.forM f) :=
  Guarantees.forM (fun _ h => h) (fun _ _ _ h h' hs => h' (h hs)) hf

theorem foldlM {β : Type} {f : β → α → EStateM ε σ β} {l : List α} (hf : ∀ b a, Preserves P (f b a))
    (b : β) : Preserves P (l.foldlM f b) := by
  induction l generalizing b with
  | nil => exact of_pure b
  | cons a l ih =>
    rw [List.foldlM_cons]
    exact bind (hf b a) ih

end Preserves

/-! ## Two runs -/

/-- Two runs end with related values in related states, or with one error in
related states. -/
def EndAlike {β : Type} (R : σ → σ → Prop) (V : α → β → Prop) :
    EStateM.Result ε σ α → EStateM.Result ε σ β → Prop
  | .ok a s, .ok b t => V a b ∧ R s t
  | .error e s, .error e' t => e = e' ∧ R s t
  | _, _ => False

theorem EndAlike.mono {β : Type} {R R' : σ → σ → Prop} {V V' : α → β → Prop}
    {p : EStateM.Result ε σ α} {q : EStateM.Result ε σ β} (hR : ∀ s t, R s t → R' s t)
    (hV : ∀ a b, V a b → V' a b) (h : EndAlike R V p q) : EndAlike R' V' p q := by
  cases p with
  | ok a s =>
    cases q with
    | ok b t => exact ⟨hV _ _ h.1, hR _ _ h.2⟩
    | error e t => exact h
  | error e s =>
    cases q with
    | ok b t => exact h
    | error e' t => exact ⟨h.1, hR _ _ h.2⟩

/-- Runs from related states end alike. -/
def Coupled {β : Type} (R : σ → σ → Prop) (V : α → β → Prop) (x : EStateM ε σ α)
    (y : EStateM ε σ β) : Prop :=
  ∀ s t, R s t → EndAlike R V (x.run s) (y.run t)

namespace Coupled

variable {β γ δ : Type} {R : σ → σ → Prop} {V : α → β → Prop} {W : γ → δ → Prop}

theorem of_pure {a : α} {b : β} (h : V a b) :
    Coupled R V (pure a : EStateM ε σ α) (pure b) :=
  fun _ _ hR => ⟨h, hR⟩

theorem of_get : Coupled R R (get : EStateM ε σ σ) get :=
  fun _ _ hR => ⟨hR, hR⟩

theorem of_ofExcept (x : Except ε α) : Coupled R Eq (ofExcept x : EStateM ε σ α) (ofExcept x) := by
  intro s t hR
  cases x with
  | ok a => exact ⟨rfl, hR⟩
  | error e => exact ⟨rfl, hR⟩

theorem bind {x : EStateM ε σ α} {y : EStateM ε σ β} {f : α → EStateM ε σ γ}
    {g : β → EStateM ε σ δ} (hx : Coupled R V x y) (hf : ∀ a b, V a b → Coupled R W (f a) (g b)) :
    Coupled R W (x >>= f) (y >>= g) := by
  intro s t hR
  have hfirst := hx s t hR
  rw [EStateM.run_bind, EStateM.run_bind]
  cases hxs : x.run s with
  | ok a s' =>
    cases hyt : y.run t with
    | ok b t' =>
      rw [hxs, hyt] at hfirst
      exact hf a b hfirst.1 s' t' hfirst.2
    | error e t' =>
      rw [hxs, hyt] at hfirst
      exact hfirst.elim
  | error e s' =>
    cases hyt : y.run t with
    | ok b t' =>
      rw [hxs, hyt] at hfirst
      exact hfirst.elim
    | error e' t' =>
      rw [hxs, hyt] at hfirst
      exact hfirst

/-- The rest of two runs depends on equal values of their first parts. -/
theorem bind_eq {x y : EStateM ε σ α} {f : α → EStateM ε σ γ} {g : α → EStateM ε σ δ}
    (hx : Coupled R Eq x y) (hf : ∀ a, Coupled R W (f a) (g a)) :
    Coupled R W (x >>= f) (y >>= g) := by
  refine .bind hx fun a b hab => ?_
  subst hab
  exact hf a

/-- What holds of the values of the first program may be used of them. -/
theorem and_of_run {x : EStateM ε σ α} {y : EStateM ε σ β} {P : α → Prop} (h : Coupled R V x y)
    (hP : ∀ s s' a, x.run s = .ok a s' → P a) : Coupled R (fun a b => V a b ∧ P a) x y := by
  intro s t hR
  have hend := h s t hR
  cases hxs : x.run s with
  | ok a s' =>
    rw [hxs] at hend
    cases hyt : y.run t with
    | ok b t' =>
      rw [hyt] at hend
      exact ⟨⟨hend.1, hP s s' a hxs⟩, hend.2⟩
    | error e t' =>
      rw [hyt] at hend
      exact hend
  | error e s' =>
    rw [hxs] at hend
    cases hyt : y.run t with
    | ok b t' =>
      rw [hyt] at hend
      exact hend
    | error e' t' =>
      rw [hyt] at hend
      exact hend

/-- A run that is coupled to one with a value has a value too. -/
theorem exists_run_eq_ok {x : EStateM ε σ α} {y : EStateM ε σ β} (h : Coupled R V x y) {s t s' : σ}
    {a : α} (hR : R s t) (hrun : x.run s = .ok a s') :
    ∃ b t', y.run t = .ok b t' ∧ V a b ∧ R s' t' := by
  have hend := h s t hR
  rw [hrun] at hend
  cases hyt : y.run t with
  | ok b t' =>
    rw [hyt] at hend
    exact ⟨b, t', rfl, hend⟩
  | error e t' =>
    rw [hyt] at hend
    exact hend.elim

end Coupled

/-! ## Errors and panics -/

/-- How a call ends early. -/
inductive Fault
  | error (message : String)
  | panic (message : String)
deriving DecidableEq, Repr

/-- Run `x` and return its error as a value.  A panic is not one. -/
def attempt (x : EStateM Fault σ α) : EStateM Fault σ (Except String α) := fun s =>
  match x s with
  | .ok a s' => .ok (.ok a) s'
  | .error (.error message) s' => .ok (.error message) s'
  | .error (.panic message) s' => .error (.panic message) s'

/-- Only a panic ends a call whose error is a value. -/
theorem run_attempt_eq_error {x : EStateM Fault σ α} {s s' : σ} {fault : Fault} :
    (attempt x).run s = .error fault s' ↔
      x.run s = .error fault s' ∧ ∃ message, fault = .panic message := by
  show attempt x s = _ ↔ x s = _ ∧ _
  unfold attempt
  rcases x s with ⟨a, s''⟩ | ⟨message | message, s''⟩
  · exact iff_of_false (fun h => by cases h) fun h => by cases h.1
  · refine iff_of_false (fun h => by cases h) ?_
    rintro ⟨h, message', rfl⟩
    cases h
  · constructor
    · intro h
      cases h
      exact ⟨rfl, message, rfl⟩
    · rintro ⟨h, -⟩
      cases h
      rfl

theorem run_attempt_of_ok {x : EStateM Fault σ α} {s s' : σ} {a : α} (h : x.run s = .ok a s') :
    (attempt x).run s = .ok (.ok a) s' := by
  change x s = _ at h
  simp only [EStateM.run, attempt, h]

theorem run_attempt_of_error {x : EStateM Fault σ α} {s s' : σ} {message : String}
    (h : x.run s = .error (.error message) s') : (attempt x).run s = .ok (.error message) s' := by
  change x s = _ at h
  simp only [EStateM.run, attempt, h]

theorem finalState_attempt (x : EStateM Fault σ α) (s : σ) :
    finalState ((attempt x).run s) = finalState (x.run s) := by
  show finalState (attempt x s) = finalState (x s)
  unfold attempt
  rcases x s with ⟨a, s'⟩ | ⟨fault, s'⟩
  · rfl
  · cases fault <;> rfl

theorem Guarantees.of_attempt {R : σ → σ → Prop} {x : EStateM Fault σ α} (hx : Guarantees R x) :
    Guarantees R (attempt x) := by
  intro s
  rw [finalState_attempt]
  exact hx s

theorem Preserves.of_attempt {P : σ → Prop} {x : EStateM Fault σ α} (hx : Preserves P x) :
    Preserves P (attempt x) :=
  Guarantees.of_attempt hx

/-- The outcome is a panic. -/
def Panics (r : EStateM.Result Fault σ α) : Prop :=
  ∃ message s, r = .error (.panic message) s

/-- The outcome of a call without state is a panic. -/
def ExceptPanics (r : Except Fault α) : Prop :=
  ∃ message, r = .error (.panic message)

/-- A pass over a list fails as it does at the first element without a value. -/
theorem mapM_eq_error_iff {β : Type} {f : β → Except ε α} {l : List β} {e : ε} :
    l.mapM f = .error e ↔ ∃ before b after, l = before ++ b :: after ∧
      (∀ a ∈ before, ∃ value, f a = .ok value) ∧ f b = .error e := by
  induction l with
  | nil =>
    refine iff_of_false (fun h => by cases h) ?_
    rintro ⟨before, b, after, h, -⟩
    simp at h
  | cons b l ih =>
    rw [List.mapM_cons]
    cases hb : f b with
    | error e' =>
      constructor
      · intro h
        cases h
        exact ⟨[], b, l, rfl, by simp, hb⟩
      · rintro ⟨before, b', after, h, hvalues, herr⟩
        cases before with
        | nil =>
          cases h
          rw [hb] at herr
          cases herr
          rfl
        | cons first before =>
          cases h
          obtain ⟨value, hvalue⟩ := hvalues b List.mem_cons_self
          rw [hb] at hvalue
          cases hvalue
    | ok value =>
      have hhead : (.ok value >>= fun a => l.mapM f >>= fun as => pure (a :: as)) = .error e ↔
          l.mapM f = .error e := by
        cases l.mapM f with
        | ok values => simp [bind, Except.bind, pure, Except.pure]
        | error e' => simp [bind, Except.bind]
      rw [hhead, ih]
      constructor
      · rintro ⟨before, b', after, rfl, hvalues, herr⟩
        exact ⟨b :: before, b', after, rfl,
          List.forall_mem_cons.mpr ⟨⟨value, hb⟩, hvalues⟩, herr⟩
      · rintro ⟨before, b', after, h, hvalues, herr⟩
        cases before with
        | nil =>
          cases h
          rw [hb] at herr
          cases herr
        | cons first before =>
          cases h
          exact ⟨before, b', after, rfl, (List.forall_mem_cons.mp hvalues).2, herr⟩

/-- A pass over a list panics at the first element without a value. -/
theorem exceptPanics_mapM_iff {β : Type} {f : β → Except Fault α} {l : List β} :
    ExceptPanics (l.mapM f) ↔ ∃ before b after, l = before ++ b :: after ∧
      (∀ a ∈ before, ∃ value, f a = .ok value) ∧ ExceptPanics (f b) := by
  constructor
  · rintro ⟨message, h⟩
    obtain ⟨before, b, after, hl, hvalues, herr⟩ := mapM_eq_error_iff.mp h
    exact ⟨before, b, after, hl, hvalues, message, herr⟩
  · rintro ⟨before, b, after, hl, hvalues, message, herr⟩
    exact ⟨message, mapM_eq_error_iff.mpr ⟨before, b, after, hl, hvalues, herr⟩⟩

/-- A pass over a list has a value if it has one at every element. -/
theorem exists_mapM_eq_ok_iff {β : Type} {f : β → Except ε α} {l : List β} :
    (∃ values, l.mapM f = .ok values) ↔ ∀ b ∈ l, ∃ value, f b = .ok value := by
  induction l with
  | nil => exact iff_of_true ⟨[], rfl⟩ (by simp)
  | cons b l ih =>
    rw [List.forall_mem_cons, ← ih, List.mapM_cons]
    constructor
    · rintro ⟨values, h⟩
      obtain ⟨value, hb, h⟩ := except_bind_eq_ok.mp h
      obtain ⟨rest, hrest, -⟩ := except_bind_eq_ok.mp h
      exact ⟨⟨value, hb⟩, rest, hrest⟩
    · rintro ⟨⟨value, hb⟩, rest, hrest⟩
      exact ⟨value :: rest, by rw [hb, hrest]; rfl⟩

/-- The values of a pass over a list are those of its elements. -/
theorem mem_iff_of_mapM_eq_ok {β : Type} {f : β → Except ε α} {l : List β} {values : List α}
    (h : l.mapM f = .ok values) (value : α) : value ∈ values ↔ ∃ b ∈ l, f b = .ok value := by
  induction l generalizing values with
  | nil =>
    cases h
    simp
  | cons b l ih =>
    rw [List.mapM_cons] at h
    obtain ⟨first, hb, h⟩ := except_bind_eq_ok.mp h
    obtain ⟨rest, hrest, h⟩ := except_bind_eq_ok.mp h
    cases h
    simp [ih hrest, hb, eq_comm]

theorem not_panics_ok (a : α) (s : σ) : ¬ Panics (.ok a s) := by
  rintro ⟨message, s', h⟩
  cases h

theorem not_panics_error (message : String) (s : σ) :
    ¬ Panics (.error (.error message) s : EStateM.Result Fault σ α) := by
  rintro ⟨message, s', h⟩
  cases h

/-- A loop panics at the first element that does. -/
theorem panics_forM_iff {β : Type} {f : β → EStateM Fault σ Unit} {l : List β} {s : σ} :
    Panics ((l.forM f).run s) ↔ ∃ before b after s', l = before ++ b :: after ∧
      (before.forM f).run s = .ok () s' ∧ Panics ((f b).run s') := by
  constructor
  · intro h
    induction l generalizing s with
    | nil => exact absurd h (not_panics_ok _ _)
    | cons b l ih =>
      rw [forM_cons_eq] at h
      cases hb : (f b).run s with
      | error e s₁ =>
        rw [run_bind_of_error hb] at h
        exact ⟨[], b, l, s, rfl, rfl, hb ▸ h⟩
      | ok u s₁ =>
        rw [run_bind_of_ok hb] at h
        obtain ⟨before, b', after, s', rfl, hbef, hpanics⟩ := ih h
        exact ⟨b :: before, b', after, s', rfl, (run_bind_of_ok hb).trans hbef, hpanics⟩
  · rintro ⟨before, b, after, s', rfl, hbef, message, s'', hpanics⟩
    refine ⟨message, s'', ?_⟩
    rw [run_forM_append hbef, forM_cons_eq, run_bind_of_error hpanics]

/-- A loop whose elements return or panic returns if it does not panic. -/
theorem exists_run_forM {β : Type} {f : β → EStateM Fault σ Unit} {l : List β} {s : σ}
    (hf : ∀ b s, ¬ Panics ((f b).run s) → ∃ s', (f b).run s = .ok () s')
    (hpanics : ¬ Panics ((l.forM f).run s)) : ∃ s', (l.forM f).run s = .ok () s' := by
  induction l generalizing s with
  | nil => exact ⟨s, rfl⟩
  | cons b l ih =>
    rw [forM_cons_eq] at hpanics ⊢
    obtain ⟨s₁, hrun⟩ := hf b s fun hpanic => by
      obtain ⟨message, s', hrun⟩ := hpanic
      exact hpanics ⟨message, s', run_bind_of_error hrun⟩
    rw [run_bind_of_ok hrun] at hpanics ⊢
    exact ih hpanics

/-- A sequence does not panic if neither part does. -/
theorem not_panics_bind {β : Type} {x : EStateM Fault σ α} {f : α → EStateM Fault σ β} {s : σ}
    (hx : ¬ Panics (x.run s)) (hf : ∀ a s', x.run s = .ok a s' → ¬ Panics ((f a).run s')) :
    ¬ Panics ((x >>= f).run s) := by
  rw [EStateM.run_bind]
  cases hrun : x.run s with
  | ok a s' => exact hf a s' hrun
  | error fault s' =>
    rintro ⟨message, s'', h⟩
    cases h
    exact hx ⟨message, s', hrun⟩

end OneInfra.Lib
