import OneInfra.Infra.Ports

/-!
# Room for ports

Whether a hypervisor can give ports under several keys is decided before the first
request: a key that has a port gets it again, the freed ports go to the first of the
others, and each of the rest takes the port after the last one.
-/

namespace OneInfra.Infra.Hypervisor

/-- `RequestPort` under a key. -/
def requestKey (hypervisor : Hypervisor) (key : PortKey) : Except String Int64 × Hypervisor :=
  hypervisor.requestPort key.1 key.2.1 key.2.2

/-- The key has no port. -/
def isNew (hypervisor : Hypervisor) (key : PortKey) : Bool :=
  (hypervisor.hasPort key.1 key.2.1 key.2.2).isNone

/-- The port with the number passes the test of `RequestPort`. -/
def Fits (hypervisor : Hypervisor) (i : Nat) : Prop :=
  hypervisor.portAt i ≤ hypervisor.portRangeHigh ∧ i < 2 ^ 64

/-- There is room for so many new keys. -/
def HasRoom (hypervisor : Hypervisor) (n : Nat) : Prop :=
  ∀ j, hypervisor.freedPorts.length ≤ j → j < n →
    hypervisor.Fits (hypervisor.allocatedPorts.length + j)

/-- The hypervisor gives a port under each key, one after the other. -/
def Serves : Hypervisor → List PortKey → Prop
  | _, [] => True
  | hypervisor, key :: keys => ∃ port hypervisor',
    hypervisor.requestKey key = (.ok port, hypervisor') ∧ Serves hypervisor' keys

variable {hypervisor : Hypervisor} {key : PortKey} {n : Nat}

theorem requestKey_of_not_isNew (h : hypervisor.isNew key = false) :
    ∃ port, hypervisor.requestKey key = (.ok port, hypervisor) := by
  rcases hypervisor.requestPort_cases key.1 key.2.1 key.2.2 with
    ⟨port, -, heq⟩ | ⟨hnone, -⟩ | ⟨hnone, -⟩
  · exact ⟨port, heq⟩
  · exact absurd h (by simp [isNew, hnone])
  · exact absurd h (by simp [isNew, hnone])

/-- The places of the rest are numbered from the next one on. -/
theorem hasRoom_succ_iff (freedPorts : List Int64) (allocation : HypervisorPortAllocation)
    (hfreed : freedPorts.length = hypervisor.freedPorts.length - 1) :
    hypervisor.HasRoom (n + 1) ↔
      (hypervisor.freedPorts = [] → hypervisor.Fits hypervisor.allocatedPorts.length) ∧
        HasRoom { hypervisor with
          freedPorts := freedPorts
          allocatedPorts := hypervisor.allocatedPorts ++ [allocation] } n := by
  have hnext (j : Nat) : (hypervisor.allocatedPorts ++ [allocation]).length + j =
      hypervisor.allocatedPorts.length + (j + 1) := by
    rw [List.length_append, List.length_singleton]
    omega
  unfold HasRoom
  simp only [hnext]
  constructor
  · intro hroom
    refine ⟨fun hnil => hroom 0 (by simp [hnil]) (by omega), fun j hj hn => ?_⟩
    exact hroom (j + 1) (by omega) (by omega)
  · rintro ⟨hfirst, hrest⟩ j hj hn
    cases j with
    | zero => exact hfirst (List.length_eq_zero_iff.mp (by omega))
    | succ i => exact hrest i (by omega) (by omega)

/-- A new key takes one place. -/
theorem hasRoom_succ (h : hypervisor.isNew key = true) :
    hypervisor.HasRoom (n + 1) ↔ ∃ port hyp',
      hypervisor.requestKey key = (.ok port, hyp') ∧ hyp'.HasRoom n := by
  have hnew : hypervisor.hasPort key.1 key.2.1 key.2.2 = none := Option.isNone_iff_eq_none.mp h
  cases hfreed : hypervisor.freedPorts with
  | cons p freed =>
    rw [requestKey, requestPort_of_freed hnew hfreed,
      hasRoom_succ_iff freed _ (by rw [hfreed]; rfl)]
    constructor
    · exact fun hroom => ⟨p, _, rfl, hroom.2⟩
    · rintro ⟨_, _, heq, hroom⟩
      cases heq
      exact ⟨fun hnil => absurd (hfreed.symm.trans hnil) (List.cons_ne_nil _ _), hroom⟩
  | nil =>
    rw [requestKey, requestPort_of_nil hnew hfreed,
      hasRoom_succ_iff hypervisor.freedPorts _ (by rw [hfreed]; rfl)]
    dsimp only
    by_cases hfits : hypervisor.Fits hypervisor.allocatedPorts.length
    · rw [if_neg (by rw [Fits] at hfits; simpa using hfits)]
      constructor
      · exact fun hroom => ⟨_, _, rfl, hroom.2⟩
      · rintro ⟨_, _, heq, hroom⟩
        cases heq
        exact ⟨fun _ => hfits, hroom⟩
    · rw [if_pos (by rw [Fits, not_and_or] at hfits; simpa using hfits)]
      constructor
      · exact fun hroom => absurd (hroom.1 hfreed) hfits
      · rintro ⟨_, _, heq, -⟩
        cases heq

/-- Another key stays new. -/
theorem isNew_of_requestKey {port : Int64} {hyp' : Hypervisor}
    (h : hypervisor.requestKey key = (.ok port, hyp')) {other : PortKey}
    (hother : other ≠ key) : hyp'.isNew other = hypervisor.isNew other := by
  rcases hypervisor.requestPort_cases key.1 key.2.1 key.2.2 with
    ⟨p, -, heq⟩ | ⟨-, p, heq⟩ | ⟨-, message, heq⟩
  · rw [requestKey, heq] at h
    cases h
    rfl
  · rw [requestKey, heq] at h
    cases h
    have hdiff : ¬ (key.1 = other.1 ∧ key.2.1 = other.2.1 ∧ key.2.2 = other.2.2) :=
      fun hsame => hother (Prod.ext hsame.1.symm (Prod.ext hsame.2.1.symm hsame.2.2.symm))
    simp only [isNew, hasPort, List.find?_append, List.find?_singleton, hdiff,
      decide_false, Bool.false_eq_true, if_false, Option.or_none]
  · rw [requestKey, heq] at h
    cases h

/-- Only the number of the new keys matters. -/
theorem serves_iff {keys : List PortKey} (hnd : keys.Nodup) :
    hypervisor.Serves keys ↔ hypervisor.HasRoom (keys.countP hypervisor.isNew) := by
  induction keys generalizing hypervisor with
  | nil => simp [Serves, HasRoom]
  | cons key keys ih =>
    obtain ⟨hnotMem, hnd⟩ := List.nodup_cons.mp hnd
    rw [Serves]
    cases hnew : hypervisor.isNew key with
    | false =>
      obtain ⟨port, hreq⟩ := requestKey_of_not_isNew hnew
      rw [List.countP_cons_of_neg (by simp [hnew]), ← ih hnd, hreq]
      constructor
      · rintro ⟨_, _, heq, hserves⟩
        cases heq
        exact hserves
      · exact fun hserves => ⟨_, _, rfl, hserves⟩
    | true =>
      rw [List.countP_cons_of_pos hnew, hasRoom_succ hnew]
      refine exists_congr fun port => exists_congr fun hyp' => and_congr_right fun h => ?_
      have hcount : keys.countP hyp'.isNew = keys.countP hypervisor.isNew :=
        List.countP_congr fun other hmem => by
          rw [isNew_of_requestKey h fun heq => hnotMem (heq ▸ hmem)]
      rw [ih hnd, hcount]

end OneInfra.Infra.Hypervisor
