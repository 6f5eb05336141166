import OneInfra.Cluster.Cluster
import OneInfra.Lib.Keyed

/-!
# The join tokens of a managed cluster

`Cluster.ReconcileJoinTokens` of `internal/pkg/cluster/join_tokens.go` brings
the bootstrap token secrets of the managed cluster in line with
`DesiredJoinTokens`.  Tokens are compared as whole texts `id.secret`, and the
secrets are created and deleted under a name that holds the id only.

`SecretStore` is the part of the managed cluster's API that the function
calls: the secrets of the namespace `kube-system` under pairwise distinct
names.  A creation under a taken name answers `alreadyExists`.  `ApiFaults`
says which other calls fail.

The two loops have one membership lemma each, `mem_createTokens` and
`mem_removeTokens`.  The result is `reconcileJoinTokens_converges_iff`: the
tokens end up as desired exactly when no desired token shares its id with a
stored token of another secret.  Such a token is not created, since the name
is taken, and the stored one is then deleted.
-/

namespace OneInfra.Cluster

open OneInfra.Lib

/-! ## Tokens

The functions of `k8s.io/cluster-bootstrap` that the source calls. -/

/-- The class `[a-z0-9]`. -/
def isTokenChar (c : Char) : Bool :=
  ('a' ≤ c && c ≤ 'z') || ('0' ≤ c && c ≤ '9')

/-- `n` characters of the class `[a-z0-9]`. -/
def isTokenText (n : Nat) (chars : List Char) : Bool :=
  chars.length = n && chars.all isTokenChar

/-- `ParseToken`: the two groups of the expression
`\A([a-z0-9]{6})\.([a-z0-9]{16})\z`.  The callers drop the text of the
error. -/
def parseToken (s : String) : Option (String × String) :=
  let chars := s.toList
  if isTokenText 6 (chars.take 6) && chars[6]? = some '.' &&
      isTokenText 16 (chars.drop 7) then
    some (String.ofList (chars.take 6), String.ofList (chars.drop 7))
  else none

/-- `TokenFromIDAndSecret`. -/
def tokenFromIDAndSecret (id secret : String) : String :=
  id ++ "." ++ secret

/-- `BootstrapTokenSecretName`. -/
def bootstrapTokenSecretName (tokenID : String) : String :=
  "bootstrap-token-" ++ tokenID

theorem bootstrapTokenSecretName_inj {a b : String} :
    bootstrapTokenSecretName a = bootstrapTokenSecretName b ↔ a = b :=
  String.append_right_inj _

/-- A text parses as the token of its own id and secret and of no other. -/
theorem parseToken_eq_some_iff {t id secret : String} :
    parseToken t = some (id, secret) ↔
      isTokenText 6 id.toList ∧ isTokenText 16 secret.toList ∧
        t = tokenFromIDAndSecret id secret := by
  constructor
  · intro h
    simp only [parseToken, Option.ite_none_right_eq_some, Option.some.injEq,
      Prod.mk.injEq, Bool.and_eq_true, decide_eq_true_eq] at h
    obtain ⟨⟨⟨hid, hdot⟩, hsecret⟩, rfl, rfl⟩ := h
    refine ⟨by rwa [String.toList_ofList], by rwa [String.toList_ofList], ?_⟩
    obtain ⟨hlt, hdot⟩ := List.getElem?_eq_some_iff.mp hdot
    rw [tokenFromIDAndSecret, ← String.toList_inj]
    calc t.toList
        = t.toList.take 6 ++ t.toList.drop 6 := (List.take_append_drop 6 _).symm
      _ = t.toList.take 6 ++ '.' :: t.toList.drop 7 := by
          rw [List.drop_eq_getElem_cons hlt, hdot]
      _ = _ := by simp
  · rintro ⟨hid, hsecret, rfl⟩
    have hlen : id.toList.length = 6 := by
      simp only [isTokenText, Bool.and_eq_true, decide_eq_true_eq] at hid
      exact hid.1
    have hchars : (tokenFromIDAndSecret id secret).toList =
        id.toList ++ '.' :: secret.toList := by
      simp [tokenFromIDAndSecret]
    have htake : (id.toList ++ '.' :: secret.toList).take 6 = id.toList :=
      List.take_left' hlen
    have hdrop : (id.toList ++ '.' :: secret.toList).drop 7 = secret.toList := by
      rw [List.drop_append, hlen, List.drop_eq_nil_of_le (by omega)]
      simp
    have hget : (id.toList ++ '.' :: secret.toList)[6]? = some '.' := by
      rw [List.getElem?_append_right (by omega), hlen]
      simp
    simp only [parseToken, hchars, htake, hdrop, hget, hid, hsecret, String.ofList_toList]
    simp

/-- The id under which a token is created and deleted. -/
def tokenID (t : String) : String :=
  ((parseToken t).map Prod.fst).getD ""

/-! ## The secrets of the managed cluster -/

/-- A secret of the namespace `kube-system`. -/
structure Secret where
  name : String
  type : String
  data : GoMap String String

/-- The secrets of the namespace, in the order in which they are listed. -/
structure SecretStore where
  items : List Secret
  /-- A name is that of one secret at most. -/
  names_nodup : (items.map Secret.name).Nodup

/-- The errors of the API that the source tells apart. -/
inductive ApiError
  | alreadyExists
  | other (message : String)
deriving DecidableEq, Repr

/-- The calls that fail, each with its error.  The calls on a secret are
told apart by its name. -/
structure ApiFaults where
  client : Option String := none
  list : Option String := none
  create : String → Option String := fun _ => none
  delete : String → Option String := fun _ => none

namespace SecretStore

/-- `List` with the field selector `type=secretType`. -/
def list (faults : ApiFaults) (store : SecretStore) (secretType : String) :
    Except String (List Secret) :=
  match faults.list with
  | some message => .error message
  | none => .ok (store.items.filter fun secret => secret.type = secretType)

/-- `Create`. -/
def create (faults : ApiFaults) (store : SecretStore) (secret : Secret) :
    Except ApiError SecretStore :=
  match faults.create secret.name with
  | some message => .error (.other message)
  | none =>
    if h : secret.name ∈ store.items.map Secret.name then .error .alreadyExists
    else .ok {
      items := store.items ++ [secret]
      names_nodup := nodup_map_concat store.names_nodup h }

theorem create_of_taken (faults : ApiFaults) (store : SecretStore) (secret : Secret)
    (hfault : faults.create secret.name = none)
    (htaken : secret.name ∈ store.items.map Secret.name) :
    store.create faults secret = .error .alreadyExists := by
  rw [create, hfault]
  exact dif_pos htaken

theorem create_of_free (faults : ApiFaults) (store : SecretStore) (secret : Secret)
    (hfault : faults.create secret.name = none)
    (hfree : secret.name ∉ store.items.map Secret.name) :
    ∃ store', store.create faults secret = .ok store' ∧
      store'.items = store.items ++ [secret] := by
  rw [create, hfault]
  exact ⟨_, dif_neg hfree, rfl⟩

/-- `Delete`.  Deleting an absent secret is a success: every name that the
source deletes was listed in the same run. -/
def delete (faults : ApiFaults) (store : SecretStore) (name : String) :
    Except ApiError SecretStore :=
  match faults.delete name with
  | some message => .error (.other message)
  | none => .ok {
      items := store.items.filter fun secret => secret.name ≠ name
      names_nodup := store.names_nodup.sublist (List.filter_sublist.map _) }

end SecretStore

/-! ## The operations of the source -/

/-- `tokenapi.SecretTypeBootstrapToken`. -/
def secretTypeBootstrapToken : String := "bootstrap.kubernetes.io/token"

/-- `utilsecrets.GetData`. -/
def getData (secret : Secret) (key : String) : String :=
  (secret.data.lookup key).getD ""

/-- `tokenFromSecret`. -/
def tokenFromSecret (secret : Secret) : String :=
  tokenFromIDAndSecret (getData secret "token-id") (getData secret "token-secret")

/-- `substractTokens`. -/
def substractTokens (list listToSubstract : List String) : List String :=
  list.filter fun token => token ∉ listToSubstract

/-- `newTokens`. -/
def newTokens (cluster : Cluster) : List String :=
  substractTokens cluster.desiredJoinTokens cluster.currentJoinTokens

/-- `excessTokens`. -/
def excessTokens (cluster : Cluster) : List String :=
  substractTokens cluster.currentJoinTokens cluster.desiredJoinTokens

/-- The secret that `createNewTokens` sends. -/
def tokenSecretObject (tokenID tokenSecret : String) : Secret where
  name := bootstrapTokenSecretName tokenID
  type := secretTypeBootstrapToken
  data := [("description", "oneinfra node join token"), ("token-id", tokenID),
    ("token-secret", tokenSecret), ("usage-bootstrap-authentication", "true"),
    ("auth-extra-groups", "system:bootstrappers:oneinfra")].foldl
      (fun data entry => data.insert entry.1 entry.2) ∅

@[simp] theorem tokenSecretObject_name (tokenID tokenSecret : String) :
    (tokenSecretObject tokenID tokenSecret).name = bootstrapTokenSecretName tokenID := rfl

theorem tokenFromSecret_tokenSecretObject (tokenID tokenSecret : String) :
    tokenFromSecret (tokenSecretObject tokenID tokenSecret) =
      tokenFromIDAndSecret tokenID tokenSecret := by
  simp [tokenFromSecret, getData, tokenSecretObject]

/-- The body of the loop of `createNewTokens`, on `allSucceeded` and the
store.  A taken name is a success. -/
def createToken (faults : ApiFaults) (acc : Bool × SecretStore) (newToken : String) :
    Bool × SecretStore :=
  match parseToken newToken with
  | none => (false, acc.2)
  | some (tokenID, tokenSecret) =>
    match acc.2.create faults (tokenSecretObject tokenID tokenSecret) with
    | .ok store => (acc.1, store)
    | .error .alreadyExists => acc
    | .error (.other _) => (false, acc.2)

/-- `createNewTokens`: whether it returned nil, and the store after it. -/
def createNewTokens (faults : ApiFaults) (cluster : Cluster) (store : SecretStore) :
    Bool × SecretStore :=
  cluster.newTokens.foldl (createToken faults) (true, store)

/-- The body of the loop of `removeExcessTokens`. -/
def removeToken (faults : ApiFaults) (acc : Bool × SecretStore) (excessToken : String) :
    Bool × SecretStore :=
  match parseToken excessToken with
  | none => (false, acc.2)
  | some (tokenID, _) =>
    match acc.2.delete faults (bootstrapTokenSecretName tokenID) with
    | .ok store => (acc.1, store)
    | .error _ => (false, acc.2)

/-- `removeExcessTokens`: whether it returned nil, and the store after it. -/
def removeExcessTokens (faults : ApiFaults) (cluster : Cluster) (store : SecretStore) :
    Bool × SecretStore :=
  cluster.excessTokens.foldl (removeToken faults) (true, store)

/-- `ReconcileJoinTokens`: its error, the cluster and the store after it.
The failed calls before the loops return early. -/
def reconcileJoinTokens (faults : ApiFaults) (cluster : Cluster) (store : SecretStore) :
    Option String × Cluster × SecretStore :=
  match faults.client with
  | some message => (some message, cluster, store)
  | none =>
    match store.list faults secretTypeBootstrapToken with
    | .error message => (some message, { cluster with currentJoinTokens := [] }, store)
    | .ok secretList =>
      let cluster := { cluster with currentJoinTokens := secretList.map tokenFromSecret }
      let (created, store) := cluster.createNewTokens faults store
      let (removed, store) := cluster.removeExcessTokens faults store
      if created && removed then
        (none, { cluster with currentJoinTokens := cluster.desiredJoinTokens }, store)
      else
        (some "some join tokens could not be successfully reconciled", cluster, store)

/-! ## What one loop does to the store -/

/-- A creation that counts as a success: the token parses, and its secret is
added unless the name is taken. -/
theorem createToken_cases {faults : ApiFaults} {acc : Bool × SecretStore} {t : String}
    (hok : (createToken faults acc t).1 = true) :
    acc.1 = true ∧ ∃ id secret, parseToken t = some (id, secret) ∧
      (createToken faults acc t).2.items =
        if bootstrapTokenSecretName id ∈ acc.2.items.map Secret.name then acc.2.items
        else acc.2.items ++ [tokenSecretObject id secret] := by
  cases hparse : parseToken t with
  | none => simp [createToken, hparse] at hok
  | some parsed =>
    obtain ⟨id, secret⟩ := parsed
    cases hfault : faults.create (bootstrapTokenSecretName id) with
    | some message => simp [createToken, hparse, SecretStore.create, hfault] at hok
    | none =>
      by_cases htaken : bootstrapTokenSecretName id ∈ acc.2.items.map Secret.name
      · have hcreate := acc.2.create_of_taken faults (tokenSecretObject id secret) hfault htaken
        simp only [createToken, hparse, hcreate] at hok ⊢
        exact ⟨hok, id, secret, rfl, (if_pos htaken).symm⟩
      · obtain ⟨store, hcreate, hitems⟩ :=
          acc.2.create_of_free faults (tokenSecretObject id secret) hfault htaken
        simp only [createToken, hparse, hcreate] at hok ⊢
        exact ⟨hok, id, secret, rfl, by rw [if_neg htaken, hitems]⟩

/-- A deletion that counts as a success. -/
theorem removeToken_cases {faults : ApiFaults} {acc : Bool × SecretStore} {t : String}
    (hok : (removeToken faults acc t).1 = true) :
    acc.1 = true ∧ ∃ id secret, parseToken t = some (id, secret) ∧
      (removeToken faults acc t).2.items =
        acc.2.items.filter fun s => s.name ≠ bootstrapTokenSecretName id := by
  cases hparse : parseToken t with
  | none => simp [removeToken, hparse] at hok
  | some parsed =>
    obtain ⟨id, secret⟩ := parsed
    cases hfault : faults.delete (bootstrapTokenSecretName id) with
    | some message => simp [removeToken, hparse, SecretStore.delete, hfault] at hok
    | none =>
      simp only [removeToken, hparse, SecretStore.delete, hfault] at hok ⊢
      exact ⟨hok, id, secret, rfl, rfl⟩

/-- The flag of a loop never comes back: it is set before the loop if it is
set after it. -/
private theorem foldl_flag {α : Type} {f : Bool × SecretStore → α → Bool × SecretStore}
    (hf : ∀ acc x, (f acc x).1 = true → acc.1 = true) {xs : List α}
    {acc : Bool × SecretStore} (hok : (xs.foldl f acc).1 = true) : acc.1 = true := by
  induction xs generalizing acc with
  | nil => exact hok
  | cons x xs ih => exact hf acc x (ih hok)

/-- The secrets after a run of the first loop.  With pairwise distinct ids no
creation of the loop takes the name of a later one. -/
theorem mem_createTokens {faults : ApiFaults} {ts : List String} {acc : Bool × SecretStore}
    (hids : (ts.map tokenID).Nodup)
    (hok : (ts.foldl (createToken faults) acc).1 = true) (s : Secret) :
    s ∈ (ts.foldl (createToken faults) acc).2.items ↔
      s ∈ acc.2.items ∨ ∃ t ∈ ts, ∃ id secret, parseToken t = some (id, secret) ∧
        s = tokenSecretObject id secret ∧
        bootstrapTokenSecretName id ∉ acc.2.items.map Secret.name := by
  induction ts generalizing acc with
  | nil => simp
  | cons t ts ih =>
    rw [List.map_cons, List.nodup_cons] at hids
    rw [List.foldl_cons] at hok ⊢
    have hrest := ih hids.2 hok
    obtain ⟨-, id, secret, hparse, hitems⟩ :=
      createToken_cases (foldl_flag (fun _ _ h => (createToken_cases h).1) hok)
    -- a later token has another id, so its name is taken after the step
    -- exactly when it was taken before
    have hlater : ∀ t' ∈ ts, ∀ id' secret', parseToken t' = some (id', secret') →
        (bootstrapTokenSecretName id' ∈ (createToken faults acc t).2.items.map Secret.name ↔
          bootstrapTokenSecretName id' ∈ acc.2.items.map Secret.name) := by
      intro t' ht' id' secret' hparse'
      have hne : id' ≠ id := by
        rintro rfl
        refine hids.1 ?_
        have hid : tokenID t' = tokenID t := by simp [tokenID, hparse, hparse']
        exact hid ▸ List.mem_map_of_mem ht'
      have hname : bootstrapTokenSecretName id' ≠ bootstrapTokenSecretName id :=
        mt bootstrapTokenSecretName_inj.mp hne
      rw [hitems]
      split_ifs with htaken
      · exact Iff.rfl
      · rw [List.map_append, List.mem_append, List.map_cons, List.map_nil,
          List.mem_singleton, tokenSecretObject_name]
        exact or_iff_left hname
    have hstep : s ∈ (createToken faults acc t).2.items ↔ s ∈ acc.2.items ∨
        s = tokenSecretObject id secret ∧
          bootstrapTokenSecretName id ∉ acc.2.items.map Secret.name := by
      rw [hitems]
      split_ifs with htaken <;> simp [htaken]
    rw [hrest, hstep]
    constructor
    · rintro ((h | ⟨hs, hfree⟩) | ⟨t', ht', id', secret', hparse', hs, hfree⟩)
      · exact Or.inl h
      · exact Or.inr ⟨t, List.mem_cons_self, id, secret, hparse, hs, hfree⟩
      · rw [hlater t' ht' id' secret' hparse'] at hfree
        exact Or.inr ⟨t', List.mem_cons_of_mem _ ht', id', secret', hparse', hs, hfree⟩
    · rintro (h | ⟨t', ht', id', secret', hparse', hs, hfree⟩)
      · exact Or.inl (Or.inl h)
      · rcases List.mem_cons.mp ht' with rfl | ht'
        · rw [hparse, Option.some.injEq, Prod.mk.injEq] at hparse'
          obtain ⟨rfl, rfl⟩ := hparse'
          exact Or.inl (Or.inr ⟨hs, hfree⟩)
        · rw [← hlater t' ht' id' secret' hparse'] at hfree
          exact Or.inr ⟨t', ht', id', secret', hparse', hs, hfree⟩

/-- The secrets after a run of the second loop. -/
theorem mem_removeTokens {faults : ApiFaults} {ts : List String} {acc : Bool × SecretStore}
    (hok : (ts.foldl (removeToken faults) acc).1 = true) (s : Secret) :
    s ∈ (ts.foldl (removeToken faults) acc).2.items ↔
      s ∈ acc.2.items ∧ ∀ t ∈ ts, ∀ id secret, parseToken t = some (id, secret) →
        s.name ≠ bootstrapTokenSecretName id := by
  induction ts generalizing acc with
  | nil => simp
  | cons t ts ih =>
    rw [List.foldl_cons] at hok ⊢
    obtain ⟨-, id, secret, hparse, hitems⟩ :=
      removeToken_cases (foldl_flag (fun _ _ h => (removeToken_cases h).1) hok)
    rw [ih hok, hitems, List.mem_filter, decide_eq_true_eq, List.forall_mem_cons, hparse,
      and_assoc]
    refine and_congr_right fun _ => and_congr_left fun _ => ?_
    constructor
    · rintro hne id' secret' h
      cases h
      exact hne
    · intro h
      exact h id secret rfl

/-! ## Convergence -/

/-- A bootstrap token secret as the API stores it: its name holds its id, and
the id and the secret are of the token alphabet. -/
structure Secret.WellFormed (secret : Secret) : Prop where
  type_eq : secret.type = secretTypeBootstrapToken
  name_eq : secret.name = bootstrapTokenSecretName (getData secret "token-id")
  id_text : isTokenText 6 (getData secret "token-id").toList
  secret_text : isTokenText 16 (getData secret "token-secret").toList

theorem Secret.WellFormed.parseToken_eq {s : Secret} (h : s.WellFormed) :
    parseToken (tokenFromSecret s) = some (getData s "token-id", getData s "token-secret") :=
  parseToken_eq_some_iff.mpr ⟨h.id_text, h.secret_text, rfl⟩

theorem Secret.WellFormed.name_eq_of_parse {s : Secret} (h : s.WellFormed) {id secret : String}
    (hparse : parseToken (tokenFromSecret s) = some (id, secret)) :
    s.name = bootstrapTokenSecretName id := by
  rw [h.parseToken_eq] at hparse
  cases hparse
  exact h.name_eq

/-- The tokens present in the managed cluster. -/
def SecretStore.tokens (store : SecretStore) : List String :=
  store.items.map tokenFromSecret

/-- The store holds the desired tokens and no others, and the cluster
reports them. -/
def Converged (desired : List String) (cluster : Cluster) (store : SecretStore) : Prop :=
  (∀ t, t ∈ store.tokens ↔ t ∈ desired) ∧ cluster.currentJoinTokens = desired

/-- No desired token shares its id with a stored token of another secret. -/
def NoSharedID (desired : List String) (store : SecretStore) : Prop :=
  ∀ t ∈ desired, ∀ s ∈ store.items, tokenID t = tokenID (tokenFromSecret s) →
    t = tokenFromSecret s

section Converge

variable {faults : ApiFaults} {cluster : Cluster} {store : SecretStore}

/-- Once the secrets are listed, a run goes through both loops, whatever the
first one returned. -/
theorem reconcileJoinTokens_eq (hstore : ∀ s ∈ store.items, s.WellFormed)
    (hclient : faults.client = none) (hlist : faults.list = none) :
    let created := (substractTokens cluster.desiredJoinTokens store.tokens).foldl
      (createToken faults) (true, store)
    let removed := (substractTokens store.tokens cluster.desiredJoinTokens).foldl
      (removeToken faults) (true, created.2)
    reconcileJoinTokens faults cluster store =
      if created.1 && removed.1 then
        (none, { cluster with currentJoinTokens := cluster.desiredJoinTokens }, removed.2)
      else
        (some "some join tokens could not be successfully reconciled",
          { cluster with currentJoinTokens := store.tokens }, removed.2) := by
  have hlisted : (store.items.filter fun s => s.type = secretTypeBootstrapToken) =
      store.items := by
    rw [List.filter_eq_self]
    intro s hs
    exact decide_eq_true (hstore s hs).type_eq
  simp only [reconcileJoinTokens, hclient, SecretStore.list, hlist, hlisted]
  rfl

/-- What a run that returns nil has done: every step of both loops
succeeded. -/
theorem reconcileJoinTokens_nil (hstore : ∀ s ∈ store.items, s.WellFormed)
    (hnil : (reconcileJoinTokens faults cluster store).1 = none) :
    let created := (substractTokens cluster.desiredJoinTokens store.tokens).foldl
      (createToken faults) (true, store)
    let removed := (substractTokens store.tokens cluster.desiredJoinTokens).foldl
      (removeToken faults) (true, created.2)
    created.1 = true ∧ removed.1 = true ∧
      reconcileJoinTokens faults cluster store =
        (none, { cluster with currentJoinTokens := cluster.desiredJoinTokens }, removed.2) := by
  cases hclient : faults.client with
  | some message => simp [reconcileJoinTokens, hclient] at hnil
  | none =>
    cases hlist : faults.list with
    | some message => simp [reconcileJoinTokens, hclient, SecretStore.list, hlist] at hnil
    | none =>
      rw [reconcileJoinTokens_eq hstore hclient hlist] at hnil ⊢
      split_ifs at hnil ⊢ with hflags
      rw [Bool.and_eq_true] at hflags
      exact ⟨hflags.1, hflags.2, rfl⟩

theorem mem_substractTokens {list listToSubstract : List String} {t : String} :
    t ∈ substractTokens list listToSubstract ↔ t ∈ list ∧ t ∉ listToSubstract := by
  simp [substractTokens]

/-- The secrets after a run that returns nil: those stored before and those
of the new tokens with a free name, without those named by an excess
token. -/
theorem mem_reconcileJoinTokens (hstore : ∀ s ∈ store.items, s.WellFormed)
    (hids : (cluster.desiredJoinTokens.map tokenID).Nodup)
    (hnil : (reconcileJoinTokens faults cluster store).1 = none) (s : Secret) :
    s ∈ (reconcileJoinTokens faults cluster store).2.2.items ↔
      (s ∈ store.items ∨
        ∃ t ∈ cluster.desiredJoinTokens, t ∉ store.tokens ∧
          ∃ id secret, parseToken t = some (id, secret) ∧
            s = tokenSecretObject id secret ∧
            bootstrapTokenSecretName id ∉ store.items.map Secret.name) ∧
      ∀ t ∈ store.tokens, t ∉ cluster.desiredJoinTokens →
        ∀ id secret, parseToken t = some (id, secret) →
          s.name ≠ bootstrapTokenSecretName id := by
  obtain ⟨hnew, hremoved, hrun⟩ := reconcileJoinTokens_nil hstore hnil
  have hnewids : ((substractTokens cluster.desiredJoinTokens store.tokens).map
      tokenID).Nodup := hids.sublist (List.filter_sublist.map _)
  rw [hrun, mem_removeTokens hremoved, mem_createTokens hnewids hnew]
  simp only [mem_substractTokens, and_imp, and_assoc]

/-- A run that returns nil converges exactly when no desired token shares
its id with a stored token of another secret. -/
theorem converged_iff_of_nil (hstore : ∀ s ∈ store.items, s.WellFormed)
    (hdesired : ∀ t ∈ cluster.desiredJoinTokens, (parseToken t).isSome)
    (hids : (cluster.desiredJoinTokens.map tokenID).Nodup)
    (hnil : (reconcileJoinTokens faults cluster store).1 = none) :
    Converged cluster.desiredJoinTokens (reconcileJoinTokens faults cluster store).2.1
        (reconcileJoinTokens faults cluster store).2.2 ↔
      NoSharedID cluster.desiredJoinTokens store := by
  have hmem := mem_reconcileJoinTokens hstore hids hnil
  have hparsed : ∀ t ∈ cluster.desiredJoinTokens, ∃ id secret,
      parseToken t = some (id, secret) := by
    intro t ht
    obtain ⟨⟨id, secret⟩, hparse⟩ := Option.isSome_iff_exists.mp (hdesired t ht)
    exact ⟨id, secret, hparse⟩
  constructor
  · -- a stored secret under the id of a desired token is an excess one unless
    -- it is that token, and then no secret of that name is left
    rintro ⟨htokens, -⟩ t ht s hs hid
    obtain ⟨id, secret, hparse⟩ := hparsed t ht
    have hsparse := (hstore s hs).parseToken_eq
    have hideq : id = getData s "token-id" := by
      simpa [tokenID, hparse, hsparse] using hid
    by_contra hne
    have hexcess : tokenFromSecret s ∉ cluster.desiredJoinTokens := by
      intro hs'
      exact hne (List.inj_on_of_nodup_map hids ht hs' hid)
    obtain ⟨s', hs', hts'⟩ := List.mem_map.mp ((htokens t).mpr ht)
    obtain ⟨hfrom, hkept⟩ := (hmem s').mp hs'
    refine hkept _ (List.mem_map_of_mem hs) hexcess _ _ hsparse ?_
    rcases hfrom with hold | ⟨t', -, -, id', secret', hparse', rfl, -⟩
    · rw [(hstore s' hold).name_eq_of_parse (hts'.symm ▸ hparse), hideq]
    · rw [tokenFromSecret_tokenSecretObject,
        ← (parseToken_eq_some_iff.mp hparse').2.2] at hts'
      rw [hts', hparse, Option.some.injEq, Prod.mk.injEq] at hparse'
      rw [tokenSecretObject_name, ← hparse'.1, hideq]
  · intro hshared
    obtain ⟨-, -, hrun⟩ := reconcileJoinTokens_nil hstore hnil
    refine ⟨fun t => ⟨?_, ?_⟩, by rw [hrun]⟩
    · intro ht
      obtain ⟨s, hs, rfl⟩ := List.mem_map.mp ht
      obtain ⟨hfrom, hkept⟩ := (hmem s).mp hs
      rcases hfrom with hold | ⟨t', ht', -, id, secret, hparse, rfl, -⟩
      · by_contra hexcess
        have hsparse := (hstore s hold).parseToken_eq
        exact hkept _ (List.mem_map_of_mem hold) hexcess _ _ hsparse (hstore s hold).name_eq
      · rw [tokenFromSecret_tokenSecretObject, ← (parseToken_eq_some_iff.mp hparse).2.2]
        exact ht'
    · intro ht
      obtain ⟨id, secret, hparse⟩ := hparsed t ht
      -- no excess token has the id of a desired one
      have hkept : ∀ e ∈ store.tokens, e ∉ cluster.desiredJoinTokens →
          ∀ id' secret', parseToken e = some (id', secret') →
            bootstrapTokenSecretName id ≠ bootstrapTokenSecretName id' := by
        intro e he hexcess id' secret' hparse' hname
        rw [bootstrapTokenSecretName_inj] at hname
        obtain ⟨s, hs, rfl⟩ := List.mem_map.mp he
        have hte := hshared t ht s hs (by simp [tokenID, hparse, hparse', hname])
        exact hexcess (hte ▸ ht)
      by_cases hcur : t ∈ store.tokens
      · obtain ⟨s, hs, rfl⟩ := List.mem_map.mp hcur
        refine List.mem_map_of_mem ((hmem s).mpr ⟨Or.inl hs, ?_⟩)
        rw [(hstore s hs).name_eq_of_parse hparse]
        exact hkept
      · refine List.mem_map.mpr ⟨tokenSecretObject id secret, (hmem _).mpr ⟨?_, hkept⟩, ?_⟩
        · refine Or.inr ⟨t, ht, hcur, id, secret, hparse, rfl, ?_⟩
          intro htaken
          obtain ⟨s, hs, hname⟩ := List.mem_map.mp htaken
          rw [(hstore s hs).name_eq, bootstrapTokenSecretName_inj] at hname
          have hts := hshared t ht s hs (by
            simp [tokenID, hparse, (hstore s hs).parseToken_eq, hname])
          exact hcur (hts ▸ List.mem_map_of_mem hs)
        · rw [tokenFromSecret_tokenSecretObject, ← (parseToken_eq_some_iff.mp hparse).2.2]

/-- Without faults a loop over tokens that parse keeps its flag. -/
theorem createTokens_ok {ts : List String} (hparse : ∀ t ∈ ts, (parseToken t).isSome)
    (store : SecretStore) : (ts.foldl (createToken {}) (true, store)).1 = true := by
  induction ts generalizing store with
  | nil => rfl
  | cons t ts ih =>
    obtain ⟨ht, hts⟩ := List.forall_mem_cons.mp hparse
    obtain ⟨⟨id, secret⟩, ht⟩ := Option.isSome_iff_exists.mp ht
    rw [List.foldl_cons]
    by_cases htaken : bootstrapTokenSecretName id ∈ store.items.map Secret.name
    · have hcreate := store.create_of_taken {} (tokenSecretObject id secret) rfl htaken
      simp only [createToken, ht, hcreate]
      exact ih hts store
    · obtain ⟨store', hcreate, -⟩ := store.create_of_free {} (tokenSecretObject id secret) rfl
        htaken
      simp only [createToken, ht, hcreate]
      exact ih hts store'

theorem removeTokens_ok {ts : List String} (hparse : ∀ t ∈ ts, (parseToken t).isSome)
    (store : SecretStore) : (ts.foldl (removeToken {}) (true, store)).1 = true := by
  induction ts generalizing store with
  | nil => rfl
  | cons t ts ih =>
    obtain ⟨ht, hts⟩ := List.forall_mem_cons.mp hparse
    obtain ⟨⟨id, secret⟩, ht⟩ := Option.isSome_iff_exists.mp ht
    simp only [List.foldl_cons, removeToken, ht, SecretStore.delete]
    exact ih hts _

/-- Without faults `ReconcileJoinTokens` returns nil on well-formed tokens. -/
theorem reconcileJoinTokens_eq_none (hstore : ∀ s ∈ store.items, s.WellFormed)
    (hdesired : ∀ t ∈ cluster.desiredJoinTokens, (parseToken t).isSome) :
    (reconcileJoinTokens {} cluster store).1 = none := by
  have hlisted : ∀ t ∈ store.tokens, (parseToken t).isSome := by
    intro t ht
    obtain ⟨s, hs, rfl⟩ := List.mem_map.mp ht
    rw [(hstore s hs).parseToken_eq]
    rfl
  have hnew : ∀ t ∈ substractTokens cluster.desiredJoinTokens store.tokens,
      (parseToken t).isSome := fun t ht => hdesired t (mem_substractTokens.mp ht).1
  have hexcess : ∀ t ∈ substractTokens store.tokens cluster.desiredJoinTokens,
      (parseToken t).isSome := fun t ht => hlisted t (mem_substractTokens.mp ht).1
  rw [reconcileJoinTokens_eq hstore rfl rfl, createTokens_ok hnew, removeTokens_ok hexcess]
  rfl

/-- **Join tokens.**  On well-formed tokens with pairwise distinct ids,
a run of `ReconcileJoinTokens` that returns nil leaves exactly the desired
tokens if and only if no desired token shares its id with a stored token of
another secret. -/
theorem reconcileJoinTokens_converges_iff (hstore : ∀ s ∈ store.items, s.WellFormed)
    (hdesired : ∀ t ∈ cluster.desiredJoinTokens, (parseToken t).isSome)
    (hids : (cluster.desiredJoinTokens.map tokenID).Nodup) :
    ((reconcileJoinTokens {} cluster store).1 = none →
      Converged cluster.desiredJoinTokens (reconcileJoinTokens {} cluster store).2.1
        (reconcileJoinTokens {} cluster store).2.2) ↔
      NoSharedID cluster.desiredJoinTokens store := by
  have hnil := reconcileJoinTokens_eq_none hstore hdesired
  rw [← converged_iff_of_nil hstore hdesired hids hnil]
  exact ⟨fun h => h hnil, fun h _ => h⟩

end Converge

/-- A cluster that desires the tokens `desired`. -/
private def desiring (desired : List String) : Cluster :=
  { name := "c", «namespace» := "ns", desiredJoinTokens := desired }

/-- A store with the secret of one token. -/
private def storeOf (tokenID tokenSecret : String) : SecretStore where
  items := [tokenSecretObject tokenID tokenSecret]
  names_nodup := List.nodup_singleton _

theorem reconcileJoinTokens_converges_disjoint :
    NoSharedID ["abcdef.0123456789abcdef"] (storeOf "uvwxyz" "0123456789abcdef") ∧
    Converged ["abcdef.0123456789abcdef"]
      (reconcileJoinTokens {} (desiring ["abcdef.0123456789abcdef"])
        (storeOf "uvwxyz" "0123456789abcdef")).2.1
      (reconcileJoinTokens {} (desiring ["abcdef.0123456789abcdef"])
        (storeOf "uvwxyz" "0123456789abcdef")).2.2 := by
  have hshared : NoSharedID ["abcdef.0123456789abcdef"]
      (storeOf "uvwxyz" "0123456789abcdef") := by
    intro t ht s hs
    rw [List.mem_singleton.mp ht, List.mem_singleton.mp hs]
    decide
  refine ⟨hshared, (reconcileJoinTokens_converges_iff ?_ ?_ ?_).mpr hshared ?_⟩
  · intro s hs
    rw [List.mem_singleton.mp hs]
    exact ⟨rfl, by decide, by decide, by decide⟩
  · decide
  · decide
  · decide

/-- A desired token with the id of the stored one and another secret: the run
returns nil, reports the desired token, and leaves no token at all. -/
theorem reconcileJoinTokens_loses_token :
    let run := reconcileJoinTokens {} (desiring ["abcdef.bbbbbbbbbbbbbbbb"])
      (storeOf "abcdef" "aaaaaaaaaaaaaaaa")
    run.1 = none ∧ run.2.1.currentJoinTokens = ["abcdef.bbbbbbbbbbbbbbbb"] ∧
      run.2.2.tokens = [] ∧
      ¬ Converged ["abcdef.bbbbbbbbbbbbbbbb"] run.2.1 run.2.2 := by
  intro run
  have htokens : run.2.2.tokens = [] := by decide
  refine ⟨by decide, by decide, htokens, ?_⟩
  rintro ⟨hmem, -⟩
  have hlost := (hmem "abcdef.bbbbbbbbbbbbbbbb").mpr List.mem_cons_self
  rw [htokens] at hlost
  exact List.not_mem_nil hlost

end OneInfra.Cluster
