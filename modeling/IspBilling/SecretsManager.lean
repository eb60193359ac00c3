import IspBilling.ConfigurationStore

/-! # Encrypted dictionaries

`SecretsManager` (`app/core/secrets.py`) encrypts and decrypts single texts with Fernet, and with
`encrypt_dict` and `decrypt_dict` the texts of a dictionary, at any depth, whose own key contains
one of the words of `sensitive_keys`.

The two functions walk over the dictionary and ask each key anew, so their agreement is a matter of
one induction over the dictionary.  `Encrypted` is the frame: which entries an encryption may touch,
and which of them it must.  The randomness of the cipher is drawn once for each call, so
`encryptDict` threads the number of calls that have been made.

`str.lower` is a parameter (`lower`), and so is the set of valid tokens. -/

namespace IspBilling

/-! ### The manager -/

/-- What `encrypt` and `decrypt` raise. -/
inductive ConfigurationError
  /-- `Decryption failed: ...`, for an invalid token and for a plain text that is no UTF-8. -/
  | decryptionFailed
deriving DecidableEq, Repr

/-- `SecretsManager`.  A path through `__init__` sets `_fernet` or raises. -/
structure SecretsManager where
  fernet : Fernet

namespace SecretsManager

variable (m : SecretsManager)

/-- `encrypt`. -/
def encrypt (nonce : ℕ) (plaintext : String) : String := m.fernet.encrypt nonce plaintext

/-- `decrypt`. -/
def decrypt (ciphertext : String) : Except ConfigurationError String :=
  match m.fernet.decrypt ciphertext with
  | some plaintext => .ok plaintext
  | none => .error .decryptionFailed

theorem decrypt_eq_ok {m : SecretsManager} {ciphertext plaintext : String}
    (h : m.fernet.decrypt ciphertext = some plaintext) : m.decrypt ciphertext = .ok plaintext := by
  rw [decrypt, h]

theorem decrypt_eq_error {m : SecretsManager} {ciphertext : String}
    (h : m.fernet.decrypt ciphertext = none) :
    m.decrypt ciphertext = .error .decryptionFailed := by
  rw [decrypt, h]

end SecretsManager

/-! ### Dictionaries -/

/-- A dictionary, by its items in order; its keys are distinct, so an assignment to a new result
appends.  Values that are neither texts nor dictionaries are passed on as they are. -/
inductive Dict (α : Type)
  | nil
  | text (key value : String) (rest : Dict α)
  | dict (key : String) (value : Dict α) (rest : Dict α)
  | other (key : String) (value : α) (rest : Dict α)
deriving DecidableEq, Repr

/-- `sensitive_keys`. -/
def sensitiveKeys : List String := ["password", "secret", "key", "token", "credential"]

/-- `any(s in k.lower() for s in sensitive_keys)`. -/
def isSensitive (lower : String → String) (key : String) : Bool :=
  sensitiveKeys.any fun s => decide (s.toList <:+: (lower key).toList)

theorem isSensitive_iff {lower : String → String} {key : String} :
    isSensitive lower key = true ↔ ∃ s ∈ sensitiveKeys, s.toList <:+: (lower key).toList := by
  simp only [isSensitive, List.any_eq_true, decide_eq_true_eq]

/-- Where `lower` goes character by character, a sensitive key is one with a part that is a
sensitive word in some letter case. -/
theorem isSensitive_iff_exists_part {lower : String → String} {lowerChar : Char → Char}
    (hlower : ∀ s, (lower s).toList = s.toList.map lowerChar) {key : String} :
    isSensitive lower key = true ↔
      ∃ s ∈ sensitiveKeys, ∃ part, part <:+: key.toList ∧ s.toList = part.map lowerChar := by
  simp only [isSensitive_iff, hlower, List.infix_map_iff]

variable {α : Type} (lower : String → String)

namespace Dict

def secrets : Dict α → List String
  | nil => []
  | text key value rest =>
      if isSensitive lower key then value :: secrets rest else secrets rest
  | dict _ value rest => secrets value ++ secrets rest
  | other _ _ rest => secrets rest

/-- The second dictionary has the keys and the nesting of the first one and differs from it in the
texts under sensitive keys, in each of them. -/
inductive Encrypted : Dict α → Dict α → Prop
  | nil : Encrypted nil nil
  | secret {key value value' : String} {rest rest' : Dict α} (hkey : isSensitive lower key = true)
      (hvalue : value' ≠ value) (hrest : Encrypted rest rest') :
      Encrypted (text key value rest) (text key value' rest')
  | text {key value : String} {rest rest' : Dict α} (hkey : isSensitive lower key = false)
      (hrest : Encrypted rest rest') : Encrypted (text key value rest) (text key value rest')
  | dict {key : String} {value value' rest rest' : Dict α} (hvalue : Encrypted value value')
      (hrest : Encrypted rest rest') : Encrypted (dict key value rest) (dict key value' rest')
  | other {key : String} {value : α} {rest rest' : Dict α} (hrest : Encrypted rest rest') :
      Encrypted (other key value rest) (other key value rest')

end Dict

namespace SecretsManager

/-- `encrypt_dict`, after `calls` calls of the cipher, whose randomness is `draw`. -/
def encryptDict (m : SecretsManager) (draw : ℕ → ℕ) : Dict α → ℕ → Dict α × ℕ
  | .nil, calls => (.nil, calls)
  | .text key value rest, calls =>
      if isSensitive lower key then
        (encryptDict m draw rest (calls + 1)).map (.text key (m.encrypt (draw calls) value)) id
      else (encryptDict m draw rest calls).map (.text key value) id
  | .dict key value rest, calls =>
      let inner := encryptDict m draw value calls
      (encryptDict m draw rest inner.2).map (.dict key inner.1) id
  | .other key value rest, calls => (encryptDict m draw rest calls).map (.other key value) id

/-- `decrypt_dict`. -/
def decryptDict (m : SecretsManager) : Dict α → Dict α
  | .nil => .nil
  | .text key value rest =>
      if isSensitive lower key then
        match m.decrypt value with
        | .ok plaintext => .text key plaintext (decryptDict m rest)
        -- the value might not be encrypted
        | .error _ => .text key value (decryptDict m rest)
      else .text key value (decryptDict m rest)
  | .dict key value rest => .dict key (decryptDict m value) (decryptDict m rest)
  | .other key value rest => .other key value (decryptDict m rest)

variable {m : SecretsManager} {lower}

/-- Decryption finds the texts that encryption has changed, under the same keys. -/
theorem decryptDict_encryptDict
    (hinverts : ∀ nonce text, m.fernet.decrypt (m.fernet.encrypt nonce text) = some text)
    (draw : ℕ → ℕ) (d : Dict α) (calls : ℕ) :
    m.decryptDict lower (m.encryptDict lower draw d calls).1 = d := by
  induction d generalizing calls with
  | nil => rfl
  | text key value rest ih =>
      by_cases hkey : isSensitive lower key = true
      · have hvalue : m.decrypt (m.encrypt (draw calls) value) = .ok value :=
          decrypt_eq_ok (hinverts (draw calls) value)
        simp only [encryptDict, if_pos hkey, Prod.map_fst, decryptDict, hvalue, ih]
      · simp only [encryptDict, if_neg hkey, Prod.map_fst, decryptDict, ih]
  | dict key value rest ihvalue ihrest =>
      simp only [encryptDict, Prod.map_fst, decryptDict, ihvalue, ihrest]
  | other key value rest ih => simp only [encryptDict, Prod.map_fst, decryptDict, ih]

theorem encrypted_encryptDict
    (hfresh : ∀ nonce text, m.fernet.encrypt nonce text ≠ text) (draw : ℕ → ℕ) (d : Dict α)
    (calls : ℕ) : d.Encrypted lower (m.encryptDict lower draw d calls).1 := by
  induction d generalizing calls with
  | nil => exact .nil
  | text key value rest ih =>
      by_cases hkey : isSensitive lower key = true
      · simp only [encryptDict, if_pos hkey, Prod.map_fst]
        exact .secret hkey (hfresh (draw calls) value) (ih (calls + 1))
      · simp only [encryptDict, if_neg hkey, Prod.map_fst]
        exact .text (Bool.eq_false_iff.mpr hkey) (ih calls)
  | dict key value rest ihvalue ihrest =>
      simp only [encryptDict, Prod.map_fst]
      exact .dict (ihvalue calls) (ihrest _)
  | other key value rest ih =>
      simp only [encryptDict, Prod.map_fst]
      exact .other (ih calls)

theorem decryptDict_eq_self {d : Dict α}
    (h : ∀ value ∈ d.secrets lower, m.fernet.decrypt value = none) : m.decryptDict lower d = d := by
  induction d with
  | nil => rfl
  | text key value rest ih =>
      by_cases hkey : isSensitive lower key = true
      · simp only [Dict.secrets, if_pos hkey, List.forall_mem_cons] at h
        simp only [decryptDict, if_pos hkey, decrypt_eq_error h.1, ih h.2]
      · simp only [Dict.secrets, if_neg hkey] at h
        simp only [decryptDict, if_neg hkey, ih h]
  | dict key value rest ihvalue ihrest =>
      simp only [Dict.secrets, List.forall_mem_append] at h
      simp only [decryptDict, ihvalue h.1, ihrest h.2]
  | other key value rest ih =>
      simp only [Dict.secrets] at h
      simp only [decryptDict, ih h]

/-- **The encryption of a dictionary**: `decrypt_dict` undoes `encrypt_dict`, which changes every
text under a sensitive key and nothing else, and leaves a dictionary without tokens as it is. -/
theorem dictionary_round_trip {Token : String → Prop} (lower : String → String)
    (hinverts : ∀ nonce text, m.fernet.decrypt (m.fernet.encrypt nonce text) = some text)
    (hrejects : ∀ text, ¬ Token text → m.fernet.decrypt text = none)
    (hfresh : ∀ nonce text, m.fernet.encrypt nonce text ≠ text) :
    (∀ draw (d : Dict α) calls,
        m.decryptDict lower (m.encryptDict lower draw d calls).1 = d) ∧
      (∀ draw (d : Dict α) calls, d.Encrypted lower (m.encryptDict lower draw d calls).1) ∧
      ∀ d : Dict α, (∀ value ∈ d.secrets lower, ¬ Token value) → m.decryptDict lower d = d := by
  refine ⟨decryptDict_encryptDict hinverts, encrypted_encryptDict hfresh, ?_⟩
  intro d hd
  exact decryptDict_eq_self fun value hvalue => hrejects value (hd value hvalue)

/-- The settings of a gateway, with a secret in an inner dictionary and a sensitive key that holds a
dictionary. -/
def gatewaySettings : Dict ℕ :=
  .text "host" "10.0.0.1" <|
    .dict "credentials" (.text "user" "api" <| .text "API_Password" "s3cret" .nil) <|
      .other "token_ttl" 3600 .nil

/-- `str.lower` of a text of ASCII characters. -/
def asciiLower (s : String) : String := String.ofList (s.toList.map Char.toLower)

/-- A manager with the stand-in for the cipher. -/
def markManager : SecretsManager := ⟨ConfigSession.markCipher⟩

/-- The settings come back, from their encryption and from themselves. -/
theorem dictionary_round_trip_settings :
    markManager.decryptDict asciiLower (markManager.encryptDict asciiLower id gatewaySettings 0).1 =
        gatewaySettings ∧
      gatewaySettings.Encrypted asciiLower
        (markManager.encryptDict asciiLower id gatewaySettings 0).1 ∧
      markManager.decryptDict asciiLower gatewaySettings = gatewaySettings := by
  have hrejects : ∀ text : String, ¬ text.toList.take 5 = "gAAAA".toList →
      markManager.fernet.decrypt text = none := by
    intro text htoken
    exact if_neg htoken
  have hfresh : ∀ nonce text, markManager.fernet.encrypt nonce text ≠ text := by
    intro nonce text h
    have hlen := congrArg String.length h
    simp [markManager, ConfigSession.markCipher] at hlen
  obtain ⟨hback, hframe, hsame⟩ := dictionary_round_trip asciiLower
    (fun nonce text => (ConfigSession.markCipher_correct nonce text).1) hrejects hfresh
  exact ⟨hback id gatewaySettings 0, hframe id gatewaySettings 0, hsame gatewaySettings (by decide)⟩

example : (markManager.encryptDict asciiLower id gatewaySettings 0).1 =
    (.text "host" "10.0.0.1" <|
      .dict "credentials" (.text "user" "api" <| .text "API_Password" "gAAAAs3cret" .nil) <|
        .other "token_ttl" 3600 .nil) := by
  decide

end SecretsManager

end IspBilling
