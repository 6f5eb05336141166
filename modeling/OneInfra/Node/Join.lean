import OneInfra.Cluster.SymmetricKey

/-!
# A node that joins

`internal/pkg/node/join.go`, up to the request: the node hides its symmetric key
with the public half of the join key, encrypts what it sends with the symmetric
key, and creates the request under its own name.  It has a decryptor of its own
for the answer.
-/

namespace OneInfra.Node

open Lib SymmetricKey

/-- The arguments of `Join` that the request is made of. -/
structure JoinArguments where
  nodename : String
  apiServerEndpoint : String
  containerRuntimeEndpoint : String
  imageServiceEndpoint : String
  extraSANs : List String

/-- What the node reads at random: the bytes for the key, and a nonce for every
text that it encrypts. -/
structure JoinRandom where
  symmetricKey : String
  apiServerEndpoint : Except String String
  containerRuntimeEndpoint : Except String String
  imageServiceEndpoint : Except String String
  extraSAN : Nat → Except String String

variable (prims : CryptoPrimitives) (random : JoinRandom)

/-- The loop of `createJoinRequest` over the SANs. -/
def encryptExtraSANs (symmetricKey : String) (extraSANs : List String) :
    Except String (List String) :=
  extraSANs.zipIdx.mapM fun (extraSAN, index) =>
    SymmetricKey.encrypt prims symmetricKey (random.extraSAN index) extraSAN

/-- `createJoinRequest`, up to the request that it creates. -/
def createJoinRequest (args : JoinArguments) (cryptedSymmetricKey symmetricKey : String) :
    Except String V1alpha1.NodeJoinRequest := do
  let cryptedAPIServerEndpoint ← SymmetricKey.encrypt prims symmetricKey
    random.apiServerEndpoint args.apiServerEndpoint
  let cryptedContainerRuntimeEndpoint ← SymmetricKey.encrypt prims symmetricKey
    random.containerRuntimeEndpoint args.containerRuntimeEndpoint
  let cryptedImageServiceEndpoint ← SymmetricKey.encrypt prims symmetricKey
    random.imageServiceEndpoint args.imageServiceEndpoint
  let cryptedExtraSANs ← encryptExtraSANs prims random symmetricKey args.extraSANs
  pure
    { name := args.nodename
      spec :=
        { symmetricKey := cryptedSymmetricKey
          apiServerEndpoint := cryptedAPIServerEndpoint
          containerRuntimeEndpoint := cryptedContainerRuntimeEndpoint
          imageServiceEndpoint := cryptedImageServiceEndpoint
          extraSANs := cryptedExtraSANs } }

/-- `createAndWaitForJoinRequest`, up to the request that it creates. -/
def createAndWaitForJoinRequest (args : JoinArguments) (joinPublicKey symmetricKey : String) :
    Except String V1alpha1.NodeJoinRequest := do
  let cryptedSymmetricKey ← prims.encryptKey joinPublicKey random.symmetricKey symmetricKey
  createJoinRequest prims random args cryptedSymmetricKey symmetricKey

/-- `decrypt`.  Unlike `SymmetricKey.Decrypt` it looks at the key before the
text. -/
def decrypt (symmetricKey base64Data : String) : Except Fault String := do
  (newCipher symmetricKey).mapError Fault.error
  let data ← (prims.decodeString base64Data).mapError Fault.error
  let (nonce, ciphertext) ← splitNonce data
  (prims.gcmOpen symmetricKey nonce ciphertext).mapError Fault.error

variable {prims random} {symmetricKey : String}

/-- The two decryptors only differ in which of two errors they return. -/
theorem decrypt_eq (hkey : ValidSize symmetricKey) :
    decrypt prims symmetricKey = SymmetricKey.decrypt prims symmetricKey := by
  funext base64Data
  rw [decrypt, SymmetricKey.decrypt, newCipher_of_validSize hkey]
  cases prims.decodeString base64Data <;> rfl

/-- The encrypted SANs decrypt to the SANs. -/
theorem mapM_decrypt_of_encryptExtraSANs {extraSANs texts : List String}
    (h : encryptExtraSANs prims random symmetricKey extraSANs = .ok texts) :
    texts.mapM (SymmetricKey.decrypt prims symmetricKey) = .ok extraSANs := by
  unfold encryptExtraSANs at h
  -- the index of the first SAN is not fixed in the induction
  generalize 0 = start at h
  induction extraSANs generalizing start texts with
  | nil =>
    cases h
    rfl
  | cons extraSAN extraSANs ih =>
    rw [List.zipIdx_cons, List.mapM_cons] at h
    cases hfirst : SymmetricKey.encrypt prims symmetricKey (random.extraSAN start) extraSAN with
    | error message => simp [hfirst, bind, Except.bind] at h
    | ok text =>
      cases hrest : (extraSANs.zipIdx (start + 1)).mapM fun (extraSAN, index) =>
          SymmetricKey.encrypt prims symmetricKey (random.extraSAN index) extraSAN with
      | error message => simp [hfirst, hrest, bind, Except.bind] at h
      | ok rest =>
        simp only [hfirst, hrest, bind, Except.bind, pure, Except.pure, Except.ok.injEq] at h
        rw [← h, List.mapM_cons, decrypt_of_encrypt_eq_ok hfirst, ih _ hrest]
        rfl

/-- What the texts of a request decrypt to. -/
structure Sent (prims : CryptoPrimitives) (args : JoinArguments) (symmetricKey : String)
    (spec : V1alpha1.NodeJoinRequestSpec) : Prop where
  endpoint_ne : spec.apiServerEndpoint ≠ ""
  apiServerEndpoint :
    SymmetricKey.decrypt prims symmetricKey spec.apiServerEndpoint = .ok args.apiServerEndpoint
  containerRuntimeEndpoint : SymmetricKey.decrypt prims symmetricKey
    spec.containerRuntimeEndpoint = .ok args.containerRuntimeEndpoint
  imageServiceEndpoint : SymmetricKey.decrypt prims symmetricKey
    spec.imageServiceEndpoint = .ok args.imageServiceEndpoint
  extraSANs :
    spec.extraSANs.mapM (SymmetricKey.decrypt prims symmetricKey) = .ok args.extraSANs

/-- The request carries the arguments, and the key under the join key. -/
theorem sent_of_createAndWaitForJoinRequest {args : JoinArguments} {joinPublicKey : String}
    {request : V1alpha1.NodeJoinRequest}
    (h : createAndWaitForJoinRequest prims random args joinPublicKey symmetricKey = .ok request) :
    request.name = args.nodename ∧ request.status = {} ∧
      prims.encryptKey joinPublicKey random.symmetricKey symmetricKey =
        .ok request.spec.symmetricKey ∧
      Sent prims args symmetricKey request.spec := by
  simp only [createAndWaitForJoinRequest, createJoinRequest, except_bind_eq_ok] at h
  obtain ⟨cryptedKey, hkey, endpoint, hep, runtime, hrt, image, himg, extraSANs,
    hextraSANs, h⟩ := h
  cases h
  exact ⟨rfl, rfl, hkey, ne_empty_of_encrypt_eq_ok hep, decrypt_of_encrypt_eq_ok hep,
    decrypt_of_encrypt_eq_ok hrt, decrypt_of_encrypt_eq_ok himg,
    mapM_decrypt_of_encryptExtraSANs hextraSANs⟩

end OneInfra.Node
