import IspBilling.ProvisioningCallbacks
import IspBilling.UnitNotation

/-! # Uptimes

RouterOS prints an uptime with letters, as `1w2d3h4m5s`, or with a clock behind the weeks and days,
as `1w2d03:04:05`.  Two functions read it: `RouterAgentService._parse_uptime`
(`app/services/router_agent.py`) scans the characters, with a branch for texts with colons, and
`MikroTikClient._parse_uptime` (`app/integrations/mikrotik/client.py`) searches for each unit.
`format_uptime_mikrotik` (`app/schemas/router.py`) prints with letters, without weeks.

Both read the letters (`uptime_round_trip`).  The clock is another matter: the client does not know
it, and the agent's branch takes all that stands before the `d` for the days, weeks included.
`uptimes_read_iff` says which uptimes both read. -/

namespace IspBilling

open Numeral PythonText UnitNotation

/-! ### The functions -/

/-- An uptime in the telemetry. -/
inductive ReportedUptime
  | number (n : ℤ)
  | text (s : String)
deriving DecidableEq, Repr

namespace RouterAgentService

/-- The seconds of a time like `02:03:04`; a part that is no number makes it nothing. -/
def clockSeconds (timePart : List Char) : ℤ :=
  match (split ':' (String.ofList timePart)).mapM parseInt with
  | some [hours, minutes, seconds] => hours * 3600 + minutes * 60 + seconds
  | some [minutes, seconds] => minutes * 60 + seconds
  | some [seconds] => seconds
  | _ => 0

def parseColons (s : List Char) : ℤ :=
  match splitFirst 'd' s with
  | (_, none) => clockSeconds s
  | (dayPart, some timePart) =>
      (parseInt (String.ofList (strip dayPart))).getD 0 * 86400 + clockSeconds (strip timePart)

/-- The units of the letter format. -/
def letterSeconds : Char → Option ℕ
  | 'w' => some 604800
  | 'd' => some 86400
  | 'h' => some 3600
  | 'm' => some 60
  | 's' => some 1
  | _ => none

/-- `_parse_uptime`. -/
def parseUptime : ReportedUptime → ℤ
  | .number n => n
  | .text uptimeStr =>
      let s := strip uptimeStr.toList
      if s = [] then 0
      else if ':' ∈ s then parseColons s
      else scan letterSeconds 0 [] uptimeStr.toList

end RouterAgentService

namespace MikroTikClient

/-- The units that are searched for. -/
def uptimePatterns : List (Char × ℕ) :=
  [('w', 7 * 24 * 60 * 60), ('d', 24 * 60 * 60), ('h', 60 * 60), ('m', 60), ('s', 1)]

/-- `_parse_uptime`. -/
def parseUptime (uptimeStr : String) : ℕ :=
  uptimePatterns.foldl
    (fun totalSeconds p =>
      match search p.1 uptimeStr.toList with
      | some n => totalSeconds + n * p.2
      | none => totalSeconds) 0

end MikroTikClient

/-- `format_uptime_mikrotik`. -/
def formatUptimeMikrotik (seconds : Option ℤ) : Option String :=
  seconds.map fun seconds =>
    let days := seconds / 86400
    let hours := seconds % 86400 / 3600
    let minutes := seconds % 3600 / 60
    let secs := seconds % 60
    let parts := (if 0 < days then [toString days ++ "d"] else []) ++
      (if 0 < hours then [toString hours ++ "h"] else []) ++
      (if 0 < minutes then [toString minutes ++ "m"] else [])
    String.join (if 0 < secs ∨ parts = [] then parts ++ [toString secs ++ "s"] else parts)

/-! ### What RouterOS prints -/

/-- An uptime by its parts. -/
structure Uptime where
  weeks : ℕ
  days : ℕ
  hours : ℕ
  minutes : ℕ
  seconds : ℕ
deriving DecidableEq, Repr

/-- With letters; or with a clock, and a blank or none in front of it. -/
inductive UptimeForm
  | letters
  | colons (blank : Bool)
deriving DecidableEq, Repr

namespace Uptime

variable (u : Uptime)

def inSeconds : ℕ :=
  u.weeks * 604800 + u.days * 86400 + u.hours * 3600 + u.minutes * 60 + u.seconds

def parts : List (ℕ × Char) :=
  [(u.weeks, 'w'), (u.days, 'd'), (u.hours, 'h'), (u.minutes, 'm'), (u.seconds, 's')]

/-- The weeks and the days, as far as there are any. -/
def dateParts : List (ℕ × Char) :=
  [(u.weeks, 'w'), (u.days, 'd')].filter fun p => decide (0 < p.1)

/-- `hh:mm:ss`. -/
def clock : List Char :=
  padded 2 u.hours ++ ':' :: (padded 2 u.minutes ++ ':' :: padded 2 u.seconds)

/-- The blank in front of the clock. -/
def gap (blank : Bool) : List Char := if u.dateParts ≠ [] ∧ blank = true then [' '] else []

def text : UptimeForm → String
  | .letters => String.ofList (written (dropZeros 's' u.parts))
  | .colons blank => String.ofList (written u.dateParts ++ (u.gap blank ++ u.clock))

end Uptime

/-! ### The letters -/

/-- The units of an uptime. -/
def uptimeUnits : List Char := ['w', 'd', 'h', 'm', 's']

namespace Uptime

variable (u : Uptime)

theorem unit_of_mem_letters {p : ℕ × Char} (h : p ∈ dropZeros 's' u.parts) : p.2 ∈ uptimeUnits := by
  rcases unit_of_mem_dropZeros h with hlast | hmem
  · rw [hlast]
    decide
  · simp only [parts, List.mem_cons, List.not_mem_nil, or_false] at hmem
    rcases hmem with rfl | rfl | rfl | rfl | rfl <;> simp [uptimeUnits]

theorem unit_of_mem_dateParts {p : ℕ × Char} (h : p ∈ u.dateParts) : p.2 ∈ uptimeUnits := by
  have hmem := List.mem_of_mem_filter h
  simp only [List.mem_cons, List.not_mem_nil, or_false] at hmem
  rcases hmem with rfl | rfl <;> simp [uptimeUnits]

end Uptime

theorem isDigit_of_mem_uptimeUnits : ∀ c ∈ uptimeUnits, c.isDigit = false := by
  simp [uptimeUnits]

theorem isSpace_of_mem_uptimeUnits : ∀ c ∈ uptimeUnits, isSpace c = false := by
  simp [uptimeUnits, isSpace]

theorem RouterAgentService.letterSeconds_isSome :
    ∀ c ∈ uptimeUnits, (letterSeconds c).isSome := by
  simp [uptimeUnits, letterSeconds]

theorem RouterAgentService.parseUptime_letters (u : Uptime) :
    parseUptime (.text (u.text .letters)) = u.inSeconds := by
  have hchars : ∀ c ∈ written (dropZeros 's' u.parts), c.isDigit = true ∨ c ∈ uptimeUnits := by
    intro c hc
    rcases of_mem_written hc with hdigit | ⟨p, hp, rfl⟩
    · exact .inl hdigit
    · exact .inr (u.unit_of_mem_letters hp)
  have hblank : ∀ c ∈ written (dropZeros 's' u.parts), isSpace c = false := by
    intro c hc
    rcases hchars c hc with hdigit | hunit
    · exact isSpace_of_isDigit hdigit
    · exact isSpace_of_mem_uptimeUnits c hunit
  have hcolon : ':' ∉ written (dropZeros 's' u.parts) := by
    intro hmem
    rcases hchars ':' hmem with hdigit | hunit
    · exact absurd hdigit (by decide)
    · exact absurd hunit (by decide)
  have hunits : ∀ p ∈ dropZeros 's' u.parts,
      p.2.isDigit = false ∧ (letterSeconds p.2).isSome := by
    intro p hp
    have hunit := u.unit_of_mem_letters hp
    exact ⟨isDigit_of_mem_uptimeUnits _ hunit, letterSeconds_isSome _ hunit⟩
  have hsum : total (fun unit => (letterSeconds unit).getD 0) u.parts = u.inSeconds := by
    simp only [total, Uptime.parts, letterSeconds, Option.getD_some, Uptime.inSeconds]
    omega
  simp only [parseUptime, Uptime.text, String.toList_ofList, strip_of_noSpace hblank]
  rw [if_neg (written_ne_nil (dropZeros_ne_nil 's' u.parts)), if_neg hcolon, scan_written hunits,
    total_dropZeros, hsum, Nat.zero_add]

/-- The client finds the units of the parts in front of a text that has none of its own. -/
theorem MikroTikClient.parseUptime_written {parts : List (ℕ × Char)} {rest : List Char}
    (hunits : ∀ p ∈ parts, p.2 ∈ uptimeUnits) (hrest : ∀ c ∈ uptimeUnits, c ∉ rest) :
    parseUptime (String.ofList (written parts ++ rest)) =
      valueOf 'w' parts * 604800 + valueOf 'd' parts * 86400 + valueOf 'h' parts * 3600 +
        valueOf 'm' parts * 60 + valueOf 's' parts := by
  have hfound : ∀ unit ∈ uptimeUnits, ∀ sum seconds : ℕ,
      (match search unit (written parts ++ rest) with
        | some n => sum + n * seconds
        | none => sum) = sum + valueOf unit parts * seconds := by
    intro unit hunit sum seconds
    rw [← search_written (isDigit_of_mem_uptimeUnits unit hunit)
      (fun p hp => isDigit_of_mem_uptimeUnits p.2 (hunits p hp)) (hrest unit hunit)]
    cases search unit (written parts ++ rest) with
    | none => simp
    | some n => rfl
  simp only [parseUptime, uptimePatterns, String.toList_ofList, List.foldl_cons, List.foldl_nil]
  rw [hfound 'w' (by decide), hfound 'd' (by decide), hfound 'h' (by decide),
    hfound 'm' (by decide), hfound 's' (by decide)]
  omega

theorem MikroTikClient.parseUptime_letters (u : Uptime) :
    parseUptime (u.text .letters) = u.inSeconds := by
  have hnodup : (u.parts.map Prod.snd).Nodup := by
    simp [Uptime.parts]
  have hrest : ∀ c ∈ uptimeUnits, c ∉ ([] : List Char) := fun _ _ => List.not_mem_nil
  have hread := parseUptime_written (fun _ hp => u.unit_of_mem_letters hp) hrest
  rw [List.append_nil] at hread
  rw [Uptime.text, hread]
  simp only [valueOf_dropZeros _ 's' hnodup]
  rfl

/-! ### The clock -/

namespace Uptime

variable (u : Uptime)

theorem of_mem_clock {c : Char} (h : c ∈ u.clock) : c.isDigit = true ∨ c = ':' := by
  simp only [clock, List.mem_append, List.mem_cons] at h
  rcases h with h | h | h | h | h
  · exact .inl (isDigit_of_mem_padded c h)
  · exact .inr h
  · exact .inl (isDigit_of_mem_padded c h)
  · exact .inr h
  · exact .inl (isDigit_of_mem_padded c h)

theorem isSpace_of_mem_clock : ∀ c ∈ u.clock, isSpace c = false := by
  intro c hc
  rcases u.of_mem_clock hc with hdigit | rfl
  · exact isSpace_of_isDigit hdigit
  · decide

theorem clock_ne_nil : u.clock ≠ [] :=
  List.append_ne_nil_of_right_ne_nil _ (List.cons_ne_nil _ _)

theorem colon_mem_clock : ':' ∈ u.clock :=
  List.mem_append_right _ List.mem_cons_self

theorem gap_of_dateParts {blank : Bool} (h : u.dateParts = []) : u.gap blank = [] := by
  rw [gap, if_neg (fun hgap => hgap.1 h)]

theorem of_mem_gap {blank : Bool} {c : Char} (h : c ∈ u.gap blank) : c = ' ' := by
  unfold gap at h
  split at h
  · exact List.mem_singleton.mp h
  · cases h

theorem unit_notMem_rest (blank : Bool) : ∀ c ∈ uptimeUnits, c ∉ u.gap blank ++ u.clock := by
  intro c hunit hmem
  rcases List.mem_append.mp hmem with hgap | hclock
  · rw [u.of_mem_gap hgap] at hunit
    exact absurd hunit (by decide)
  · rcases u.of_mem_clock hclock with hdigit | rfl
    · rw [isDigit_of_mem_uptimeUnits c hunit] at hdigit
      cases hdigit
    · exact absurd hunit (by decide)

theorem strip_rest (blank : Bool) : strip (u.gap blank ++ u.clock) = u.clock := by
  unfold gap
  split
  · rw [List.singleton_append, strip_cons (by decide), strip_of_noSpace u.isSpace_of_mem_clock]
  · rw [List.nil_append, strip_of_noSpace u.isSpace_of_mem_clock]

end Uptime

/-- The client does not read the clock. -/
theorem MikroTikClient.parseUptime_colons (u : Uptime) (blank : Bool) :
    parseUptime (u.text (.colons blank)) = u.weeks * 604800 + u.days * 86400 := by
  have hnodup : ([(u.weeks, 'w'), (u.days, 'd')].map Prod.snd).Nodup := by
    simp
  have hvalue : ∀ unit, valueOf unit u.dateParts = valueOf unit [(u.weeks, 'w'), (u.days, 'd')] :=
    fun unit => valueOf_filter unit hnodup
  rw [Uptime.text, parseUptime_written (fun _ hp => u.unit_of_mem_dateParts hp)
    (u.unit_notMem_rest blank)]
  simp only [hvalue]
  simp [valueOf]

namespace RouterAgentService

theorem parseInt_padded (n : ℕ) : parseInt (String.ofList (padded 2 n)) = some (n : ℤ) := by
  rw [parseInt_digits (padded_ne_nil 2 n) isDigit_of_mem_padded, ofDigitChars_padded]

theorem colon_notMem_padded (n : ℕ) : ':' ∉ padded 2 n :=
  notMem_of_digits isDigit_of_mem_padded (by decide)

theorem clockSeconds_clock (u : Uptime) :
    clockSeconds u.clock = u.hours * 3600 + u.minutes * 60 + u.seconds := by
  have hsplit : split ':' (String.ofList u.clock) = [String.ofList (padded 2 u.hours),
      String.ofList (padded 2 u.minutes), String.ofList (padded 2 u.seconds)] := by
    rw [split, String.toList_ofList, Uptime.clock,
      List.splitOn_append_cons_self_of_not_mem (colon_notMem_padded _),
      List.splitOn_append_cons_self_of_not_mem (colon_notMem_padded _),
      List.splitOn_eq_singleton (colon_notMem_padded _)]
    rfl
  simp only [clockSeconds, hsplit, List.mapM_cons, List.mapM_nil, parseInt_padded,
    Option.bind_eq_bind, Option.bind_some, Option.pure_def]

/-- A time with a letter is nothing. -/
theorem clockSeconds_eq_zero {front : List Char} (hletter : 'w' ∈ front) (hcolon : ':' ∉ front)
    (rest : List Char) : clockSeconds (front ++ ':' :: rest) = 0 := by
  have hnone : parseInt (String.ofList front) = none :=
    parseInt_eq_none (by rwa [String.toList_ofList]) (by decide) (by decide) (by decide)
  rw [clockSeconds, split, String.toList_ofList, List.splitOn_append_cons_self_of_not_mem hcolon,
    List.map_cons, List.mapM_cons, hnone]
  rfl

theorem parseColons_clock {cs : List Char} (h : 'd' ∉ cs) : parseColons cs = clockSeconds cs := by
  rw [parseColons, splitFirst_of_notMem h]

theorem parseColons_days {front : List Char} (h : 'd' ∉ front) (rest : List Char) :
    parseColons (front ++ 'd' :: rest) =
      (parseInt (String.ofList (strip front))).getD 0 * 86400 + clockSeconds (strip rest) := by
  rw [parseColons, splitFirst_append h]

theorem parseUptime_of_colon {cs : List Char} (hstrip : strip cs = cs) (hcolon : ':' ∈ cs) :
    parseUptime (.text (String.ofList cs)) = parseColons cs := by
  simp only [parseUptime, String.toList_ofList, hstrip]
  rw [if_neg (List.ne_nil_of_mem hcolon), if_pos hcolon]

theorem strip_colons (u : Uptime) (blank : Bool) :
    strip (written u.dateParts ++ (u.gap blank ++ u.clock)) =
      written u.dateParts ++ (u.gap blank ++ u.clock) := by
  have hfronts : ∀ c ∈ written u.dateParts, isSpace c = false := by
    intro c hc
    rcases of_mem_written hc with hdigit | ⟨p, hp, rfl⟩
    · exact isSpace_of_isDigit hdigit
    · exact isSpace_of_mem_uptimeUnits p.2 (u.unit_of_mem_dateParts hp)
  by_cases hdate : u.dateParts = []
  · rw [hdate, u.gap_of_dateParts hdate]
    exact strip_of_noSpace u.isSpace_of_mem_clock
  · exact strip_between (written_ne_nil hdate) u.clock_ne_nil hfronts u.isSpace_of_mem_clock _

/-- The days behind the weeks are no number. -/
theorem parseInt_weeks (weeks : ℕ) (rest : List Char) :
    parseInt (String.ofList (strip (Nat.toDigits 10 weeks ++ 'w' :: rest))) = none := by
  cases hweeks : Nat.toDigits 10 weeks with
  | nil => exact absurd hweeks Nat.toDigits_ne_nil
  | cons d ds =>
      have hdigit : d.isDigit = true := by
        apply isDigit_of_mem_toDigits d
        rw [hweeks]
        exact List.mem_cons_self
      obtain ⟨rest', hstrip⟩ := strip_append (isSpace_of_isDigit hdigit)
        (isSpace_of_mem_uptimeUnits 'w' (by decide)) ds rest
      rw [hstrip]
      exact parseInt_eq_none (c := 'w') (by simp) (by decide) (by decide) (by decide)

theorem parseColons_weeks (u : Uptime) (blank : Bool) :
    parseColons (Nat.toDigits 10 u.weeks ++ 'w' :: (u.gap blank ++ u.clock)) = 0 := by
  have hnoDay : 'd' ∉ Nat.toDigits 10 u.weeks ++ 'w' :: (u.gap blank ++ u.clock) := by
    rw [List.mem_append, List.mem_cons, not_or, not_or]
    exact ⟨notMem_toDigits (by decide) u.weeks, by decide, u.unit_notMem_rest blank 'd' (by decide)⟩
  have hfront : Nat.toDigits 10 u.weeks ++ 'w' :: (u.gap blank ++ u.clock) =
      (Nat.toDigits 10 u.weeks ++ 'w' :: (u.gap blank ++ padded 2 u.hours)) ++
        ':' :: (padded 2 u.minutes ++ ':' :: padded 2 u.seconds) := by
    simp [Uptime.clock]
  have hnoColon : ':' ∉ Nat.toDigits 10 u.weeks ++ 'w' :: (u.gap blank ++ padded 2 u.hours) := by
    simp only [List.mem_append, List.mem_cons, not_or]
    refine ⟨notMem_toDigits (by decide) u.weeks, by decide, ?_,
      colon_notMem_padded u.hours⟩
    intro hmem
    exact absurd (u.of_mem_gap hmem) (by decide)
  rw [parseColons_clock hnoDay, hfront]
  exact clockSeconds_eq_zero (List.mem_append_right _ List.mem_cons_self) hnoColon _

theorem parseColons_weeks_days (u : Uptime) (blank : Bool) :
    parseColons (Nat.toDigits 10 u.weeks ++ 'w' :: (Nat.toDigits 10 u.days ++
        'd' :: (u.gap blank ++ u.clock))) = u.hours * 3600 + u.minutes * 60 + u.seconds := by
  have hnoDay : 'd' ∉ Nat.toDigits 10 u.weeks ++ 'w' :: Nat.toDigits 10 u.days := by
    rw [List.mem_append, List.mem_cons, not_or, not_or]
    exact ⟨notMem_toDigits (by decide) u.weeks, by decide, notMem_toDigits (by decide) u.days⟩
  rw [← List.cons_append, ← List.append_assoc, parseColons_days hnoDay, parseInt_weeks, u.strip_rest,
    clockSeconds_clock, Option.getD_none]
  omega

/-- **How the agent reads the clock**: with weeks in front, it takes nothing of the date, and where
no days stand between, nothing at all. -/
theorem parseUptime_colons (u : Uptime) (blank : Bool) :
    parseUptime (.text (u.text (.colons blank))) =
      if u.weeks = 0 then (u.days * 86400 + (u.hours * 3600 + u.minutes * 60 + u.seconds) : ℤ)
      else if u.days = 0 then 0 else u.hours * 3600 + u.minutes * 60 + u.seconds := by
  have hcolon : ':' ∈ written u.dateParts ++ (u.gap blank ++ u.clock) :=
    List.mem_append_right _ (List.mem_append_right _ u.colon_mem_clock)
  rw [Uptime.text, parseUptime_of_colon (strip_colons u blank) hcolon]
  by_cases hweeks : u.weeks = 0
  · rw [if_pos hweeks]
    by_cases hdays : u.days = 0
    · have hdate : u.dateParts = [] := by
        simp [Uptime.dateParts, hweeks, hdays]
      have hrest := u.unit_notMem_rest blank 'd' (by decide)
      rw [u.gap_of_dateParts hdate, List.nil_append] at hrest
      rw [hdate, u.gap_of_dateParts hdate, hdays, written, List.flatMap_nil, List.nil_append,
        List.nil_append, parseColons_clock hrest, clockSeconds_clock]
      omega
    · have hdate : u.dateParts = [(u.days, 'd')] := by
        have hpos : 0 < u.days := Nat.pos_of_ne_zero hdays
        simp [Uptime.dateParts, hweeks, hpos]
      rw [hdate, written_cons, List.append_assoc, List.cons_append, written, List.flatMap_nil,
        List.nil_append, parseColons_days (notMem_toDigits (by decide) u.days), u.strip_rest,
        clockSeconds_clock,
        strip_of_noSpace (fun c hc => isSpace_of_isDigit (isDigit_of_mem_toDigits c hc)),
        parseInt_digits Nat.toDigits_ne_nil isDigit_of_mem_toDigits, Nat.ofDigitChars_ten_toDigits]
      rfl
  · have hpos : 0 < u.weeks := Nat.pos_of_ne_zero hweeks
    rw [if_neg hweeks]
    by_cases hdays : u.days = 0
    · have hdate : u.dateParts = [(u.weeks, 'w')] := by
        simp [Uptime.dateParts, hpos, hdays]
      rw [if_pos hdays, hdate, written_cons, List.append_assoc, List.cons_append]
      exact parseColons_weeks u blank
    · have hdate : u.dateParts = [(u.weeks, 'w'), (u.days, 'd')] := by
        have hposDays : 0 < u.days := Nat.pos_of_ne_zero hdays
        simp [Uptime.dateParts, hpos, hposDays]
      rw [if_neg hdays, hdate, written_cons, written_cons, List.append_assoc, List.cons_append,
        List.append_assoc, List.cons_append]
      exact parseColons_weeks_days u blank

end RouterAgentService

/-! ### Both functions -/

/-- **Which uptimes both functions read**: those with letters, and those with a clock that have no
weeks, and nothing on the clock. -/
theorem uptimes_read_iff (u : Uptime) (form : UptimeForm) :
    (RouterAgentService.parseUptime (.text (u.text form)) = u.inSeconds ∧
        MikroTikClient.parseUptime (u.text form) = u.inSeconds) ↔
      form = .letters ∨ (u.weeks = 0 ∧ u.hours = 0 ∧ u.minutes = 0 ∧ u.seconds = 0) := by
  cases form with
  | letters =>
      exact iff_of_true ⟨RouterAgentService.parseUptime_letters u,
        MikroTikClient.parseUptime_letters u⟩ (.inl rfl)
  | colons blank =>
      have hform : UptimeForm.colons blank ≠ .letters := by
        intro h
        cases h
      rw [RouterAgentService.parseUptime_colons, MikroTikClient.parseUptime_colons,
        or_iff_right hform, Uptime.inSeconds]
      constructor
      · rintro ⟨hagent, hclient⟩
        by_cases hweeks : u.weeks = 0
        · omega
        · rw [if_neg hweeks] at hagent
          split at hagent <;> omega
      · rintro ⟨hweeks, hhours, hminutes, hseconds⟩
        rw [if_pos hweeks]
        omega

/-- An uptime of ten minutes and four seconds: the agent reads it, the client does not.  With a
week and two days in front, the client reads the date only, and the agent the clock only. -/
theorem uptimes_not_read :
    (⟨0, 0, 0, 10, 4⟩ : Uptime).text (.colons false) = "00:10:04" ∧
      (⟨0, 0, 0, 10, 4⟩ : Uptime).inSeconds = 604 ∧
      RouterAgentService.parseUptime (.text "00:10:04") = 604 ∧
      MikroTikClient.parseUptime "00:10:04" = 0 ∧
      (⟨1, 2, 3, 4, 5⟩ : Uptime).text (.colons false) = "1w2d03:04:05" ∧
      RouterAgentService.parseUptime (.text "1w2d03:04:05") = 11045 ∧
      MikroTikClient.parseUptime "1w2d03:04:05" = 777600 ∧
      (⟨1, 2, 3, 4, 5⟩ : Uptime).inSeconds = 788645 := by
  decide

/-! ### What the schema prints -/

/-- An uptime of so many seconds, without weeks. -/
def Uptime.ofSeconds (n : ℕ) : Uptime :=
  ⟨0, n / 86400, n % 86400 / 3600, n % 3600 / 60, n % 60⟩

theorem Uptime.inSeconds_ofSeconds (n : ℕ) : (Uptime.ofSeconds n).inSeconds = n := by
  simp only [inSeconds, ofSeconds]
  omega

theorem printed_part (n : ℕ) (unit : Char) :
    (if 0 < (n : ℤ) then [printedPart (n, unit)] else []) =
      ([(n, unit)].filter fun p => decide (0 < p.1)).map printedPart := by
  by_cases hn : 0 < n
  · rw [if_pos (by omega), List.filter_cons_of_pos (by simpa using hn)]
    rfl
  · rw [if_neg (by omega), List.filter_cons_of_neg (by simpa using hn)]
    rfl

/-- The seconds are printed when they are not zero, and when nothing else is. -/
theorem printed_last (parts : List (ℕ × Char)) (n : ℕ) (last : Char) :
    String.join
        (if 0 < (n : ℤ) ∨ (parts.filter fun p => decide (0 < p.1)).map printedPart = [] then
          (parts.filter fun p => decide (0 < p.1)).map printedPart ++ [printedPart (n, last)]
        else (parts.filter fun p => decide (0 < p.1)).map printedPart) =
      String.ofList (written (dropZeros last (parts ++ [(n, last)]))) := by
  have hpos : (0 < (n : ℤ)) = (0 < n) := by
    rw [eq_iff_iff]
    omega
  rw [dropZeros_append_last, ← join_printedPart]
  simp only [List.map_eq_nil_iff, hpos]
  split
  · rw [List.map_append]
    rfl
  · rfl

theorem formatUptimeMikrotik_eq (n : ℕ) :
    formatUptimeMikrotik (some n) = some ((Uptime.ofSeconds n).text .letters) := by
  have hprinted := printed_last
    [(0, 'w'), (n / 86400, 'd'), (n % 86400 / 3600, 'h'), (n % 3600 / 60, 'm')] (n % 60) 's'
  have hfront : ([(0, 'w'), (n / 86400, 'd'), (n % 86400 / 3600, 'h'), (n % 3600 / 60, 'm')].filter
      fun p => decide (0 < p.1)) = ([(n / 86400, 'd')].filter fun p => decide (0 < p.1)) ++
        ([(n % 86400 / 3600, 'h')].filter fun p => decide (0 < p.1)) ++
          ([(n % 3600 / 60, 'm')].filter fun p => decide (0 < p.1)) := by
    rw [← List.filter_append, ← List.filter_append]
    rfl
  rw [hfront, List.map_append, List.map_append, ← printed_part, ← printed_part,
    ← printed_part] at hprinted
  exact congrArg some hprinted

/-- **The uptimes that the schema prints are read back**, by both functions; so it prints different
uptimes differently. -/
theorem uptime_round_trip :
    (∀ n : ℕ, ∃ text, formatUptimeMikrotik (some n) = some text ∧
      RouterAgentService.parseUptime (.text text) = n ∧ MikroTikClient.parseUptime text = n) ∧
    Function.Injective fun n : ℕ => formatUptimeMikrotik (some n) := by
  have hclient : ∀ n : ℕ, MikroTikClient.parseUptime ((Uptime.ofSeconds n).text .letters) = n := by
    intro n
    rw [MikroTikClient.parseUptime_letters, Uptime.inSeconds_ofSeconds]
  constructor
  · intro n
    refine ⟨(Uptime.ofSeconds n).text .letters, formatUptimeMikrotik_eq n, ?_, hclient n⟩
    rw [RouterAgentService.parseUptime_letters, Uptime.inSeconds_ofSeconds]
  · intro m n h
    have htext : some ((Uptime.ofSeconds m).text .letters) =
        some ((Uptime.ofSeconds n).text .letters) := by
      rw [← formatUptimeMikrotik_eq, ← formatUptimeMikrotik_eq]
      exact h
    rw [← hclient m, Option.some.inj htext, hclient]

end IspBilling
