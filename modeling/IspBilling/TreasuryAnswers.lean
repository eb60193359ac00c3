import IspBilling.Fulfilment
import IspBilling.PppoeRenewal

/-! # Reading the treasury's answer

Both products poll the treasury for a payment intent and classify its status as success, failure or
neither.  The PPPoE portal reads the key `status` (`get_intent_status` in
`app/services/treasury_topup.py`, then `verify_pppoe_payment`); the hotspot poll
(`get_payment_status` in `app/api/v1/portal/hotspot.py`) reads `status` and, when that is absent or
empty, `Status`, the key under which the treasury really answers this request.

`treasury_answers_agree_iff` says for which answers the two come to the same result. -/

namespace IspBilling

/-- The values of JSON that are not compound. -/
inductive JsonValue where
  | null
  | bool (b : Bool)
  | int (n : ℤ)
  | str (s : String)
deriving DecidableEq, Repr

namespace JsonValue

/-- Python's `str(value)`. -/
def text : JsonValue → String
  | .null => "None"
  | .bool true => "True"
  | .bool false => "False"
  | .int n => toString n
  | .str s => s

/-- Python's `bool(value)`. -/
def truthy : JsonValue → Bool
  | .null => false
  | .bool b => b
  | .int n => decide (n ≠ 0)
  | .str s => decide (s ≠ "")

end JsonValue

/-- An intent as the treasury returns it, with the two keys that its readers look at. -/
structure TreasuryIntent where
  /-- The value of the key `status`. -/
  status : Option JsonValue
  /-- The value of the key `Status`. -/
  capitalStatus : Option JsonValue
deriving DecidableEq, Repr

namespace TreasuryIntent

/-- `str.lower`.  Beyond ASCII it changes more letters, none of them into one of the statuses. -/
def lower (s : String) : String := String.ofList (s.toList.map Char.toLower)

/-- Python's `value or otherwise`, for a key that may be absent. -/
def orElse (value : Option JsonValue) (otherwise : JsonValue) : JsonValue :=
  match value with
  | some v => if v.truthy then v else otherwise
  | none => otherwise

/-- `get_intent_status`. -/
def getIntentStatus (i : TreasuryIntent) : String := lower (i.status.getD (.str "")).text

/-- The classification of `verify_pppoe_payment`: failures first. -/
def pppoeAnswer (i : TreasuryIntent) : TreasuryAnswer :=
  let treasuryStatus := i.getIntentStatus
  if treasuryStatus ∈ failureStatuses then .failed
  else if treasuryStatus ∉ successStatuses then .other
  else .succeeded

/-- The `treasury_status` of `get_payment_status`. -/
def hotspotStatus (i : TreasuryIntent) : String :=
  lower (orElse i.status (orElse i.capitalStatus (.str ""))).text

/-- The classification of `get_payment_status`: successes first. -/
def hotspotAnswer (i : TreasuryIntent) : TreasuryAnswer :=
  let treasuryStatus := i.hotspotStatus
  if treasuryStatus ∈ ["succeeded", "success", "completed", "paid"] then .succeeded
  else if treasuryStatus ∈ ["failed", "cancelled", "canceled", "expired"] then .failed
  else .other

/-- The text decides a payment. -/
def Decides (s : String) : Prop :=
  lower s ∈ successStatuses ∨ lower s ∈ failureStatuses

instance : DecidablePred Decides := fun s => inferInstanceAs
  (Decidable (lower s ∈ successStatuses ∨ lower s ∈ failureStatuses))

/-- The answers are read alike. -/
def ReadAlike (i : TreasuryIntent) : Prop := i.pppoeAnswer = i.hotspotAnswer

instance : DecidablePred ReadAlike :=
  fun i => inferInstanceAs (Decidable (i.pppoeAnswer = i.hotspotAnswer))

/-! ### One status, two readers -/

/-- The classification of a status text. -/
def classify (treasuryStatus : String) : TreasuryAnswer :=
  if treasuryStatus ∈ successStatuses then .succeeded
  else if treasuryStatus ∈ failureStatuses then .failed
  else .other

theorem hotspotAnswer_eq (i : TreasuryIntent) : i.hotspotAnswer = classify i.hotspotStatus := rfl

/-- The order of the tests makes no difference, as no status is in both lists. -/
theorem pppoeAnswer_eq (i : TreasuryIntent) : i.pppoeAnswer = classify i.getIntentStatus := by
  unfold pppoeAnswer classify
  by_cases hs : i.getIntentStatus ∈ successStatuses
  · simp [hs, PppoePortal.not_mem_failureStatuses hs]
  · simp [hs]

theorem classify_eq_other_iff {s : String} : classify (lower s) = .other ↔ ¬ Decides s := by
  unfold classify Decides
  by_cases hs : lower s ∈ successStatuses
  · simp [hs]
  · by_cases hf : lower s ∈ failureStatuses
    · simp [hs, hf]
    · simp [hs, hf]

theorem conclude_of_pppoeAnswer (s : PppoePortal) (p : PppoePayment) (i : TreasuryIntent) (now : ℤ) :
    (i.pppoeAnswer = .failed → (s.conclude p (some i.getIntentStatus) now).2 =
        some ⟨false, i.getIntentStatus, "Payment " ++ i.getIntentStatus, none⟩) ∧
      (i.pppoeAnswer = .other → s.conclude p (some i.getIntentStatus) now =
        (s, some ⟨false, "pending", "Payment is still pending", none⟩)) := by
  unfold pppoeAnswer PppoePortal.conclude
  by_cases hf : i.getIntentStatus ∈ failureStatuses
  · simp [hf]
  · by_cases hs : i.getIntentStatus ∈ successStatuses
    · simp [hf, hs]
    · simp [hf, hs]

theorem not_decides_of_falsy {v : JsonValue} (h : v.truthy = false) : ¬ Decides v.text := by
  cases v with
  | null => decide
  | bool b =>
      cases b with
      | false => decide
      | true => cases h
  | int n =>
      obtain rfl : n = 0 := by simpa [JsonValue.truthy] using h
      decide
  | str s =>
      obtain rfl : s = "" := by simpa [JsonValue.truthy] using h
      decide

/-- **When the answers are read alike**: exactly when there is a value under `status` that Python
takes for true, or no deciding text under `Status`. -/
theorem treasury_answers_agree_iff (i : TreasuryIntent) :
    i.ReadAlike ↔
      (∃ v ∈ i.status, v.truthy = true) ∨ ∀ v ∈ i.capitalStatus, ¬ Decides v.text := by
  rw [ReadAlike, pppoeAnswer_eq, hotspotAnswer_eq]
  by_cases hstatus : ∃ v ∈ i.status, v.truthy = true
  · -- both readers take the value under `status`
    obtain ⟨v, hv, htrue⟩ := hstatus
    have hsame : i.getIntentStatus = i.hotspotStatus := by
      rw [Option.mem_def] at hv
      simp [getIntentStatus, hotspotStatus, orElse, hv, htrue]
    rw [hsame]
    exact iff_of_true rfl (Or.inl ⟨v, hv, htrue⟩)
  · rw [or_iff_right hstatus]
    -- the PPPoE portal reads a text that decides nothing, the hotspot poll the other key
    have hfalsy : ∀ v ∈ i.status, v.truthy = false := by
      intro v hv
      by_contra htrue
      exact hstatus ⟨v, hv, by simpa using htrue⟩
    have hpppoe : classify i.getIntentStatus = .other := by
      refine classify_eq_other_iff.mpr (not_decides_of_falsy ?_)
      cases hv : i.status with
      | none => rfl
      | some v => exact hfalsy v hv
    have hhotspot : i.hotspotStatus = lower (orElse i.capitalStatus (.str "")).text := by
      rw [hotspotStatus]
      cases hv : i.status with
      | none => rfl
      | some v => simp [orElse, hfalsy v hv]
    rw [hpppoe, hhotspot, eq_comm, classify_eq_other_iff]
    cases hc : i.capitalStatus with
    | none =>
        simp only [orElse, Option.mem_def, reduceCtorEq, false_implies, implies_true, iff_true]
        exact not_decides_of_falsy rfl
    | some v =>
        simp only [orElse, Option.mem_def, Option.some.injEq, forall_eq']
        by_cases htrue : v.truthy = true
        · rw [if_pos htrue]
        · rw [if_neg htrue]
          exact iff_of_true (not_decides_of_falsy rfl) (not_decides_of_falsy (by simpa using htrue))

/-- An intent that has succeeded, under the key of the treasury's GET request: the PPPoE portal keeps
waiting. -/
theorem capital_status_unseen :
    ¬ ReadAlike ⟨none, some (.str "SUCCEEDED")⟩ ∧
      pppoeAnswer ⟨none, some (.str "SUCCEEDED")⟩ = .other ∧
      hotspotAnswer ⟨none, some (.str "SUCCEEDED")⟩ = .succeeded := by
  decide

end TreasuryIntent

end IspBilling
