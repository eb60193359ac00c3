import IspBilling.Base64
import IspBilling.PythonText
import IspBilling.SecretsManager

/-! # Bootstrap payloads

`generate_encrypted_payload` and `decrypt_payload` (`app/api/v1/provisioning/bootstrap.py`) carry a
dictionary in a URL: its JSON is encrypted, and the token loses its padding on the way out and gets
it back, in the other alphabet, on the way in.

`restore_body` says that what comes back is the token respelled character by character: the padding
follows from the length (`Base64.encode_eq_body_append`).  A decoder of both alphabets reads such a
respelling as it reads the token (`Base64.decode_map`).

Fernet and `json` are parameters.  `Fernet.ReadsBase64` is what the payload relies on besides
decryption undoing encryption. -/

namespace IspBilling

open PythonText

/-- Tokens are padded base64 in the URL-safe alphabet, and `decrypt` looks at nothing but the bytes
that its decoder finds. -/
structure Fernet.ReadsBase64 (f : Fernet) : Prop where
  token : ∀ nonce text, ∃ raw, (f.encrypt nonce text).toList = Base64.encode raw
  reads : ∀ token token' : String,
    Base64.decode token.toList = Base64.decode token'.toList → f.decrypt token = f.decrypt token'

/-- What `decrypt_payload` raises. -/
inductive PayloadError
  | configuration (e : ConfigurationError)
  /-- `json.JSONDecodeError`. -/
  | json
deriving DecidableEq, Repr

namespace BootstrapPayload

/-- `encrypted.replace('+', '-').replace('/', '_').replace('=', '')`. -/
def strip (encrypted : List Char) : List Char :=
  replace '=' [] (replace '/' ['_'] (replace '+' ['-'] encrypted))

/-- `encrypted.replace('-', '+').replace('_', '/')`, with the padding added. -/
def restore (encrypted : List Char) : List Char :=
  let restored := replace '_' ['/'] (replace '-' ['+'] encrypted)
  let padding := 4 - restored.length % 4
  if padding ≠ 4 then restored ++ List.replicate padding '=' else restored

variable {D : Type} (m : SecretsManager)

/-- `generate_encrypted_payload`. -/
def generateEncryptedPayload (dumps : D → String) (nonce : ℕ) (data : D) : String :=
  String.ofList (strip (m.encrypt nonce (dumps data)).toList)

/-- `decrypt_payload`. -/
def decryptPayload (loads : String → Option D) (encrypted : String) : Except PayloadError D :=
  match m.decrypt (String.ofList (restore encrypted.toList)) with
  | .error e => .error (.configuration e)
  | .ok decrypted =>
      match loads decrypted with
      | some data => .ok data
      | none => .error .json

/-! ### Out and in -/

/-- The way out: only the padding goes, since a token has neither `+` nor `/`. -/
theorem strip_encode (raw : List UInt8) : strip (Base64.encode raw) = Base64.body raw := by
  have hplus : '+' ∉ Base64.encode raw := fun h => absurd (Base64.mem_encode h) (by decide)
  have hslash : '/' ∉ Base64.encode raw := fun h => absurd (Base64.mem_encode h) (by decide)
  rw [strip, replace_of_notMem hplus, replace_of_notMem hslash, Base64.encode, replace_append,
    replace_of_notMem (Base64.pad_notMem_body raw), replace_nil_replicate, List.append_nil]

/-- A character in the standard alphabet. -/
def respell (c : Char) : Char := if c = '-' then '+' else if c = '_' then '/' else c

theorem respell_cases (c : Char) :
    (c = '-' ∧ respell c = '+') ∨ (c = '_' ∧ respell c = '/') ∨ respell c = c := by
  by_cases hminus : c = '-'
  · exact .inl ⟨hminus, by rw [respell, if_pos hminus]⟩
  · by_cases hlow : c = '_'
    · exact .inr (.inl ⟨hlow, by rw [respell, if_neg hminus, if_pos hlow]⟩)
    · exact .inr (.inr (by rw [respell, if_neg hminus, if_neg hlow]))

theorem digit?_respell (c : Char) : Base64.digit? (respell c) = Base64.digit? c := by
  rcases respell_cases c with ⟨rfl, h⟩ | ⟨rfl, h⟩ | h
  · rw [h]; decide
  · rw [h]; decide
  · rw [h]

theorem respell_eq_pad_iff (c : Char) : respell c = '=' ↔ c = '=' := by
  rcases respell_cases c with ⟨rfl, h⟩ | ⟨rfl, h⟩ | h
  · rw [h]; decide
  · rw [h]; decide
  · rw [h]

theorem replace_eq_respell (cs : List Char) :
    replace '_' ['/'] (replace '-' ['+'] cs) = cs.map respell := by
  rw [replace_singleton, replace_singleton, List.map_map]
  apply List.map_congr_left
  intro c _
  by_cases hminus : c = '-'
  · simp [respell, hminus]
  · simp [respell, hminus]

/-- **The way in gives the token back**, respelled: the padding is what the length lacks of a
multiple of four. -/
theorem restore_body (raw : List UInt8) :
    restore (Base64.body raw) = (Base64.encode raw).map respell := by
  have hlen : ((Base64.body raw).map respell).length = (Base64.body raw).length :=
    List.length_map respell
  rw [Base64.encode_eq_body_append, List.map_append, List.map_replicate,
    (respell_eq_pad_iff '=').mpr rfl]
  simp only [restore, replace_eq_respell, hlen]
  by_cases hfull : (Base64.body raw).length % 4 = 0
  · rw [if_neg (by omega), hfull]
    simp
  · have hpad : (4 - (Base64.body raw).length % 4) % 4 = 4 - (Base64.body raw).length % 4 := by
      omega
    rw [if_pos (by omega), hpad]

theorem decrypt_restore_strip {m : SecretsManager} (hbase64 : m.fernet.ReadsBase64) (nonce : ℕ)
    (text : String) :
    m.fernet.decrypt (String.ofList (restore (strip (m.encrypt nonce text).toList))) =
      m.fernet.decrypt (m.fernet.encrypt nonce text) := by
  obtain ⟨raw, hraw⟩ := hbase64.token nonce text
  apply hbase64.reads
  rw [String.toList_ofList, SecretsManager.encrypt, hraw, strip_encode, restore_body,
    Base64.decode_map digit?_respell respell_eq_pad_iff]

/-- **The round trip of a payload**, whose characters are letters, digits, `-` and `_`. -/
theorem payload_round_trip {m : SecretsManager} {dumps : D → String} {loads : String → Option D}
    (hinverts : ∀ nonce text, m.fernet.decrypt (m.fernet.encrypt nonce text) = some text)
    (hbase64 : m.fernet.ReadsBase64) (hjson : ∀ data, loads (dumps data) = some data) (nonce : ℕ)
    (data : D) :
    decryptPayload m loads (generateEncryptedPayload m dumps nonce data) = .ok data ∧
      ∀ c ∈ (generateEncryptedPayload m dumps nonce data).toList,
        c.isAlphanum = true ∨ c = '-' ∨ c = '_' := by
  constructor
  · have hdecrypt : m.decrypt (String.ofList
        (restore (strip (m.encrypt nonce (dumps data)).toList))) = .ok (dumps data) :=
      SecretsManager.decrypt_eq_ok
        ((decrypt_restore_strip hbase64 nonce (dumps data)).trans (hinverts nonce (dumps data)))
    unfold decryptPayload generateEncryptedPayload
    rw [String.toList_ofList, hdecrypt]
    simp only [hjson]
  · intro c hc
    obtain ⟨raw, hraw⟩ := hbase64.token nonce (dumps data)
    rw [generateEncryptedPayload, String.toList_ofList, SecretsManager.encrypt, hraw,
      strip_encode] at hc
    exact Base64.urlSafe_of_mem_body hc

/-- A stand-in for the cipher: version byte, nonce and the bytes of the text, in base64. -/
def plainCipher : Fernet where
  encrypt nonce text :=
    String.ofList (Base64.encode (0x80 :: UInt8.ofNat nonce :: text.toByteArray.data.toList))
  decrypt token :=
    match Base64.decode token.toList with
    | some (0x80 :: _ :: bytes) => String.fromUTF8? bytes.toByteArray
    | _ => none

theorem plainCipher_inverts (nonce : ℕ) (text : String) :
    plainCipher.decrypt (plainCipher.encrypt nonce text) = some text := by
  have hbytes : text.toByteArray.data.toList.toByteArray = text.toByteArray := by
    apply ByteArray.ext
    simp
  simp only [plainCipher, String.toList_ofList, Base64.decode_encode, hbytes]
  exact dif_pos text.isValidUTF8

theorem plainCipher_readsBase64 : plainCipher.ReadsBase64 where
  token _ _ := ⟨_, String.toList_ofList⟩
  reads token token' h := by simp only [plainCipher, h]

/-- The JSON text of a dictionary with the key `api_port`, up to its value. -/
def portKey : List Char := "\x7b\"api_port\": ".toList

/-- `json.dumps` of such a dictionary. -/
def dumpsPort (port : ℕ) : String := String.ofList (portKey ++ (Nat.toDigits 10 port ++ ['\x7d']))

/-- `json.loads` of its text. -/
def loadsPort (text : String) : Option ℕ :=
  if text.toList.take portKey.length = portKey then
    some (Nat.ofDigitChars 10 (text.toList.drop portKey.length).dropLast 0)
  else none

theorem loadsPort_dumpsPort (port : ℕ) : loadsPort (dumpsPort port) = some port := by
  unfold loadsPort dumpsPort
  rw [String.toList_ofList, List.take_left, List.drop_left, if_pos rfl, List.dropLast_concat,
    Nat.ofDigitChars_ten_toDigits]

/-- The port of the API, in a token whose length is no multiple of four. -/
theorem payload_round_trip_port :
    decryptPayload ⟨plainCipher⟩ loadsPort (generateEncryptedPayload ⟨plainCipher⟩ dumpsPort 7 8728) =
        .ok 8728 ∧
      ∀ c ∈ (generateEncryptedPayload ⟨plainCipher⟩ dumpsPort 7 8728).toList,
        c.isAlphanum = true ∨ c = '-' ∨ c = '_' :=
  payload_round_trip (m := ⟨plainCipher⟩) plainCipher_inverts plainCipher_readsBase64
    loadsPort_dumpsPort 7 8728

end BootstrapPayload

end IspBilling
