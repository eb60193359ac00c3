import IspBilling.Plan
import IspBilling.RouterOsRates

/-! # Two formatters of a plan's rate limit

The bandwidth of a plan reaches a router as a `rate-limit`.  `_build_rate_limit`
(`app/api/v1/portal/hotspot.py`) writes it in Mbps, download first, with the burst settings of the plan
when the burst is enabled.  `format_rate_limit` (`app/modules/subscriptions/bandwidth_manager.py`), as
`_sync_hotspot_profile` calls it, writes kbps, upload first, with a burst whenever both burst rates are
there, a threshold of 75 percent and ten seconds.

Both texts are read by the grammar of the router (`RouterOsRates.read`).  `rate_limits_agree_iff` lists
the plans for which they mean the same. -/

namespace IspBilling

open RouterOsRates

/-- `format_rate_limit`. -/
def formatRateLimit (downloadKbps uploadKbps : ℤ) (burstDownloadKbps burstUploadKbps : Option ℤ)
    (burstThresholdPercent burstTimeSeconds : ℤ) : String :=
  let download := toString downloadKbps ++ "k"
  let upload := toString uploadKbps ++ "k"
  let burstDown := burstDownloadKbps.getD 0
  let burstUp := burstUploadKbps.getD 0
  if burstDown ≠ 0 ∧ burstUp ≠ 0 then
    let burstDownload := toString burstDown ++ "k"
    let burstUpload := toString burstUp ++ "k"
    let thresholdDownload := toString ((downloadKbps * burstThresholdPercent).tdiv 100) ++ "k"
    let thresholdUpload := toString ((uploadKbps * burstThresholdPercent).tdiv 100) ++ "k"
    let burstTime := toString burstTimeSeconds ++ "s"
    upload ++ "/" ++ download ++ " " ++ burstUpload ++ "/" ++ burstDownload ++ " " ++
      thresholdUpload ++ "/" ++ thresholdDownload ++ " " ++ burstTime ++ "/" ++ burstTime
  else upload ++ "/" ++ download

namespace ServicePlan

variable (p : ServicePlan)

/-- The `rate-limit` of `_sync_hotspot_profile`; threshold and time are the defaults of
`format_rate_limit`. -/
def profileRateLimit : String :=
  formatRateLimit (p.downloadSpeed * 1000) (p.uploadSpeed * 1000)
    ((p.burstDownload.filter (fun b => b ≠ 0)).map (fun b => b * 1000))
    ((p.burstUpload.filter (fun b => b ≠ 0)).map (fun b => b * 1000)) 75 10

/-- The burst settings are such as the schema admits (`ServicePlanBase`). -/
structure BurstAdmitted : Prop where
  download : ∀ b ∈ p.burstDownload, 0 ≤ b
  upload : ∀ b ∈ p.burstUpload, 0 ≤ b
  threshold : ∀ b ∈ p.burstThreshold, 0 ≤ b ∧ b ≤ 100
  time : ∀ b ∈ p.burstTime, 0 ≤ b

/-- Both texts are rate limits, of the same value. -/
def RateLimitsAgree : Prop :=
  ∃ r, read p.profileRateLimit.toList = some r ∧ read p.buildRateLimit.toList = some r

/-- Neither formatter writes a burst. -/
def Plain : Prop :=
  (p.burstDownload.getD 0 = 0 ∨ p.burstUpload.getD 0 = 0) ∧
    (p.enableBurst = false ∨ p.burstDownload.getD 0 = 0 ∧ p.burstUpload.getD 0 = 0)

/-- The percentage of the speed rounds to three quarters of it. -/
def ThreeQuarters (speed percent : ℤ) : Prop :=
  4 ∣ speed ∧ (|speed * (percent - 75)| < 50 ∨ |speed * (percent - 75)| = 50 ∧ 8 ∣ speed)

/-- The burst that `_sync_hotspot_profile` writes for every plan is the one of this plan. -/
structure DefaultBurst : Prop where
  enabled : p.enableBurst = true
  rates : p.burstDownload.getD 0 = p.burstUpload.getD 0
  present : p.burstDownload.getD 0 ≠ 0
  threshold : ThreeQuarters p.downloadSpeed (p.burstThreshold.getD 0)
  time : p.burstTime.getD 0 = 10

/-! ### The texts -/

/-- The values of the two directions, as the router counts them. -/
def directions (rx tx : ℤ) : Directions := ⟨rx.toNat, tx.toNat⟩

theorem toList_repr {n : ℤ} (h : 0 ≤ n) : n.repr.toList = Nat.toDigits 10 n.toNat := by
  obtain ⟨m, rfl⟩ := Int.eq_ofNat_of_zero_le h
  exact Nat.toList_repr

theorem toList_pair {rx tx : ℤ} (hrx : 0 ≤ rx) (htx : 0 ≤ tx) (suffix : String) :
    (toString rx ++ suffix ++ "/" ++ (toString tx ++ suffix)).toList =
      pair (directions rx tx) suffix.toList := by
  simp [pair, quantity, directions, toList_repr hrx, toList_repr htx]

theorem isSuffix_k : IsSuffix "k".toList :=
  IsSuffix.singleton (by decide) (by decide) (by decide)

theorem isSuffix_M : IsSuffix "M".toList :=
  IsSuffix.singleton (by decide) (by decide) (by decide)

theorem isSuffix_s : IsSuffix "s".toList :=
  IsSuffix.singleton (by decide) (by decide) (by decide)

theorem isSuffix_empty : IsSuffix "".toList := IsSuffix.nil

theorem getD_burstKbps (b : Option ℤ) :
    ((b.filter (fun b => b ≠ 0)).map (fun b => b * 1000)).getD 0 = b.getD 0 * 1000 := by
  cases b with
  | none => rfl
  | some n =>
      by_cases hn : n = 0
      · simp [Option.filter_some, hn]
      · simp [Option.filter_some, hn]

theorem getD_nonneg {b : Option ℤ} (h : ∀ n ∈ b, 0 ≤ n) : 0 ≤ b.getD 0 := by
  cases b with
  | none => exact le_rfl
  | some n => exact h n rfl

theorem read_formatRateLimit {down up burstDown burstUp pct time : ℤ} (hdown : 0 ≤ down)
    (hup : 0 ≤ up) (hbd : 0 ≤ burstDown) (hbu : 0 ≤ burstUp) (hpct : 0 ≤ pct) (htime : 0 ≤ time)
    {bd bu : Option ℤ} (hd : bd.getD 0 = burstDown) (hu : bu.getD 0 = burstUp) :
    read (formatRateLimit down up bd bu pct time).toList =
      some ⟨(directions up down).scale 1000,
        if burstDown ≠ 0 ∧ burstUp ≠ 0 then
          some ⟨(directions burstUp burstDown).scale 1000,
            (directions ((up * pct).tdiv 100) ((down * pct).tdiv 100)).scale 1000,
            (directions time time).scale 1⟩
        else none⟩ := by
  have hthrDown : 0 ≤ (down * pct).tdiv 100 := Int.tdiv_nonneg (mul_nonneg hdown hpct) (by decide)
  have hthrUp : 0 ≤ (up * pct).tdiv 100 := Int.tdiv_nonneg (mul_nonneg hup hpct) (by decide)
  unfold formatRateLimit
  simp only [hd, hu]
  by_cases hburst : burstDown ≠ 0 ∧ burstUp ≠ 0
  · rw [if_pos hburst, if_pos hburst, ← read_burst isSuffix_k isSuffix_s rfl rfl,
      ← toList_pair hup hdown, ← toList_pair hbu hbd, ← toList_pair hthrUp hthrDown,
      ← toList_pair htime htime]
    simp
  · rw [if_neg hburst, if_neg hburst, ← read_plain isSuffix_k rfl, ← toList_pair hup hdown]

theorem read_profileRateLimit (hp : p.BurstAdmitted) (hdown : 0 < p.downloadSpeed)
    (hup : 0 < p.uploadSpeed) :
    read p.profileRateLimit.toList =
      some ⟨(directions (p.uploadSpeed * 1000) (p.downloadSpeed * 1000)).scale 1000,
        if p.burstDownload.getD 0 ≠ 0 ∧ p.burstUpload.getD 0 ≠ 0 then
          some ⟨(directions (p.burstUpload.getD 0 * 1000) (p.burstDownload.getD 0 * 1000)).scale 1000,
            (directions ((p.uploadSpeed * 1000 * 75).tdiv 100)
              ((p.downloadSpeed * 1000 * 75).tdiv 100)).scale 1000,
            (directions 10 10).scale 1⟩
        else none⟩ := by
  have hbd := getD_nonneg hp.download
  have hbu := getD_nonneg hp.upload
  have hburst : p.burstDownload.getD 0 * 1000 ≠ 0 ∧ p.burstUpload.getD 0 * 1000 ≠ 0 ↔
      p.burstDownload.getD 0 ≠ 0 ∧ p.burstUpload.getD 0 ≠ 0 := by omega
  have hread := read_formatRateLimit (by omega : 0 ≤ p.downloadSpeed * 1000)
    (by omega : 0 ≤ p.uploadSpeed * 1000) (by omega : 0 ≤ p.burstDownload.getD 0 * 1000)
    (by omega : 0 ≤ p.burstUpload.getD 0 * 1000) (by decide : (0 : ℤ) ≤ 75)
    (by decide : (0 : ℤ) ≤ 10) (getD_burstKbps p.burstDownload) (getD_burstKbps p.burstUpload)
  simpa only [profileRateLimit, hburst] using hread

/-- The threshold that `_build_rate_limit` writes for a speed. -/
def thresholdOf (speed : ℤ) : ℤ :=
  if 0 < p.burstThreshold.getD 0 then max 1 (roundDiv (speed * p.burstThreshold.getD 0) 100)
  else max 1 speed

theorem thresholdOf_pos (speed : ℤ) : 0 < p.thresholdOf speed := by
  unfold thresholdOf
  split <;> omega

theorem read_buildRateLimit (hp : p.BurstAdmitted) (hdown : 0 < p.downloadSpeed)
    (hup : 0 < p.uploadSpeed) :
    read p.buildRateLimit.toList =
      some ⟨(directions p.downloadSpeed p.uploadSpeed).scale 1000000,
        if p.enableBurst = false ∨ p.burstDownload.getD 0 = 0 ∧ p.burstUpload.getD 0 = 0 then none
        else some ⟨(directions (p.burstDownload.getD 0) (p.burstUpload.getD 0)).scale 1000000,
          (directions (p.thresholdOf p.downloadSpeed) (p.thresholdOf p.uploadSpeed)).scale 1000000,
          (directions (p.burstTime.getD 0) (p.burstTime.getD 0)).scale 1⟩⟩ := by
  have hbd := getD_nonneg hp.download
  have hbu := getD_nonneg hp.upload
  have htime := getD_nonneg hp.time
  have hthrDown := (p.thresholdOf_pos p.downloadSpeed).le
  have hthrUp := (p.thresholdOf_pos p.uploadSpeed).le
  have hspeed : ¬ (p.downloadSpeed = 0 ∧ p.uploadSpeed = 0) := by omega
  have hplain : read (toString p.downloadSpeed ++ "M/" ++ toString p.uploadSpeed ++ "M").toList =
      some ⟨(directions p.downloadSpeed p.uploadSpeed).scale 1000000, none⟩ := by
    rw [← read_plain isSuffix_M rfl, ← toList_pair hdown.le hup.le]
    simp
  unfold buildRateLimit
  simp only [hspeed, ite_false]
  by_cases henable : p.enableBurst = false
  · rw [if_pos henable, if_pos (Or.inl henable)]
    exact hplain
  · rw [if_neg henable]
    by_cases hnone : p.burstDownload.getD 0 = 0 ∧ p.burstUpload.getD 0 = 0
    · rw [if_pos hnone, if_pos (Or.inr hnone)]
      exact hplain
    · rw [if_neg hnone, if_neg (not_or.mpr ⟨henable, hnone⟩),
        ← read_burst isSuffix_M isSuffix_empty rfl rfl, ← toList_pair hdown.le hup.le,
        ← toList_pair hbd hbu, ← toList_pair hthrDown hthrUp, ← toList_pair htime htime]
      simp [thresholdOf]

/-! ### When the values are the same -/

theorem exists_some_eq_iff {α : Type} {a b : α} : (∃ r, some a = some r ∧ some b = some r) ↔ a = b := by
  constructor
  · rintro ⟨r, ha, hb⟩
    exact (Option.some.inj ha).trans (Option.some.inj hb).symm
  · rintro rfl
    exact ⟨a, rfl, rfl⟩

theorem directions_scale_eq_iff {a b c d : ℤ} (ha : 0 ≤ a) (hb : 0 ≤ b) (hc : 0 ≤ c) (hd : 0 ≤ d) :
    (directions (a * 1000) (b * 1000)).scale 1000 = (directions c d).scale 1000000 ↔
      a = c ∧ b = d := by
  simp only [directions, Directions.scale, Directions.mk.injEq]
  omega

/-- Three quarters in kbps are the threshold in Mbps when the percentage rounds to them. -/
theorem threshold_eq_iff (hp : p.BurstAdmitted) {speed : ℤ} (hs : 0 < speed) :
    3 * speed = 4 * p.thresholdOf speed ↔ ThreeQuarters speed (p.burstThreshold.getD 0) := by
  have hpct : 0 ≤ p.burstThreshold.getD 0 := getD_nonneg (fun n hn => (hp.threshold n hn).1)
  unfold ThreeQuarters thresholdOf
  set pct := p.burstThreshold.getD 0 with hpctDef
  have hdiff : speed * (pct - 75) = speed * pct - 75 * speed := by ring
  rw [hdiff, abs_lt, abs_eq (by decide)]
  by_cases hpos : 0 < pct
  · rw [if_pos hpos]
    -- the product is an unknown of its own from here on
    generalize speed * pct = x
    unfold roundDiv
    simp only
    split
    · omega
    · split
      · omega
      · split <;> omega
  · have hzero : pct = 0 := by omega
    rw [if_neg hpos, hzero]
    omega

theorem burst_eq_iff (hp : p.BurstAdmitted) {speed : ℤ} (hs : 0 < speed) {bd bu time : ℤ}
    (hbd : 0 ≤ bd) (hbu : 0 ≤ bu) :
    (⟨(directions (bu * 1000) (bd * 1000)).scale 1000,
        (directions ((speed * 1000 * 75).tdiv 100) ((speed * 1000 * 75).tdiv 100)).scale 1000,
        (directions 10 10).scale 1⟩ : Burst) =
      ⟨(directions bd bu).scale 1000000,
        (directions (p.thresholdOf speed) (p.thresholdOf speed)).scale 1000000,
        (directions time time).scale 1⟩ ↔
      bd = bu ∧ ThreeQuarters speed (p.burstThreshold.getD 0) ∧ time = 10 := by
  have hthr := p.thresholdOf_pos speed
  have hkbps : (speed * 1000 * 75).tdiv 100 = speed * 750 := by
    have hmul : speed * 1000 * 75 = speed * 750 * 100 := by ring
    rw [hmul, Int.mul_tdiv_cancel _ (by decide)]
  rw [hkbps, Burst.mk.injEq, directions_scale_eq_iff hbu hbd hbd hbu, ← p.threshold_eq_iff hp hs]
  simp only [directions, Directions.scale, Directions.mk.injEq]
  omega

/-- **When the two rate limits agree**: for every plan with positive speeds and admitted burst
settings, the texts of the two formatters are rate limits of the same value exactly when the plan is
symmetric and either neither formatter writes a burst, or the plan asks for the burst that the profile
sync writes for every plan. -/
theorem rate_limits_agree_iff (hp : p.BurstAdmitted) (hdown : 0 < p.downloadSpeed)
    (hup : 0 < p.uploadSpeed) :
    p.RateLimitsAgree ↔
      p.downloadSpeed = p.uploadSpeed ∧ (p.Plain ∨ p.DefaultBurst) := by
  have hbd := getD_nonneg hp.download
  have hbu := getD_nonneg hp.upload
  unfold RateLimitsAgree
  rw [p.read_profileRateLimit hp hdown hup, p.read_buildRateLimit hp hdown hup]
  rw [exists_some_eq_iff, RateLimit.mk.injEq,
    directions_scale_eq_iff hup.le hdown.le hdown.le hup.le]
  constructor
  · rintro ⟨⟨hspeed, -⟩, hburst⟩
    refine ⟨hspeed.symm, ?_⟩
    rw [hspeed] at hburst
    by_cases hboth : p.burstDownload.getD 0 ≠ 0 ∧ p.burstUpload.getD 0 ≠ 0
    · rw [if_pos hboth] at hburst
      by_cases hskip : p.enableBurst = false ∨
          p.burstDownload.getD 0 = 0 ∧ p.burstUpload.getD 0 = 0
      · rw [if_pos hskip] at hburst
        cases hburst
      · rw [if_neg hskip] at hburst
        obtain ⟨hrates, hthr, htime⟩ :=
          (p.burst_eq_iff hp hdown hbd hbu).mp (Option.some.inj hburst)
        exact Or.inr ⟨by simpa using (not_or.mp hskip).1, hrates, hboth.1, hthr, htime⟩
    · rw [if_neg hboth] at hburst
      by_cases hskip : p.enableBurst = false ∨
          p.burstDownload.getD 0 = 0 ∧ p.burstUpload.getD 0 = 0
      · exact Or.inl ⟨by omega, hskip⟩
      · rw [if_neg hskip] at hburst
        cases hburst
  · rintro ⟨hspeed, hplain | hdefault⟩
    · obtain ⟨hone, hskip⟩ := hplain
      refine ⟨⟨hspeed.symm, hspeed⟩, ?_⟩
      rw [if_pos hskip, if_neg (by omega)]
    · obtain ⟨henable, hrates, hpresent, hthr, htime⟩ := hdefault
      refine ⟨⟨hspeed.symm, hspeed⟩, ?_⟩
      have hskip : ¬ (p.enableBurst = false ∨
          p.burstDownload.getD 0 = 0 ∧ p.burstUpload.getD 0 = 0) := by
        rintro (h | h)
        · rw [henable] at h
          cases h
        · exact hpresent h.1
      rw [if_neg hskip, if_pos ⟨hpresent, hrates ▸ hpresent⟩, ← hspeed]
      exact congrArg some ((p.burst_eq_iff hp hdown hbd hbu).mpr ⟨hrates, hthr, htime⟩)

/-- A package with 10 Mbps down and 2 Mbps up. -/
def asymmetric : ServicePlan :=
  ⟨4, "10/2", 10, 2, -1, -1, 30, none, false, none, none, none, none⟩

/-- A package with 8 Mbps in both directions and the burst of the profile sync. -/
def symmetricBurst : ServicePlan :=
  ⟨5, "8/8", 8, 8, -1, -1, 30, none, true, some 16, some 16, some 75, some 10⟩

/-- The two formatters exchange download and upload. -/
theorem rate_limits_exchange_directions :
    asymmetric.profileRateLimit = "2000k/10000k" ∧ asymmetric.buildRateLimit = "10M/2M" ∧
      ¬ asymmetric.RateLimitsAgree := by
  have hprofile : asymmetric.profileRateLimit = "2000k/10000k" := by decide
  have hbuild : asymmetric.buildRateLimit = "10M/2M" := by decide
  refine ⟨hprofile, hbuild, ?_⟩
  rintro ⟨r, hr, hr'⟩
  rw [hprofile] at hr
  rw [hbuild] at hr'
  have hvalues : read "2000k/10000k".toList = read "10M/2M".toList := hr.trans hr'.symm
  revert hvalues
  decide

theorem symmetricBurst_admitted : symmetricBurst.BurstAdmitted :=
  ⟨by decide, by decide, by decide, by decide⟩

/-- A plan for which both formatters mean the same. -/
theorem rate_limits_agree_symmetric :
    symmetricBurst.BurstAdmitted ∧ symmetricBurst.RateLimitsAgree := by
  refine ⟨symmetricBurst_admitted, ?_⟩
  refine (rate_limits_agree_iff symmetricBurst symmetricBurst_admitted (by decide)
    (by decide)).mpr ⟨rfl, Or.inr ⟨rfl, rfl, by decide, ?_, rfl⟩⟩
  exact ⟨by decide, Or.inl (by decide)⟩

end ServicePlan

end IspBilling
