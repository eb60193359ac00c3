import IspBilling.CommandQueue
import IspBilling.RouterOsText

/-! # The pipe protocol between backend and agent

A poll of the agent is answered with one line per command: the action, its parameters and the command
id, with pipes in between (`format_commands_pipe_delimited` in `app/services/router_agent.py`).  The
script on the router (`app/api/v1/router_agent.py`) cuts the text at the newlines and each line at its
pipes.  Neither side escapes anything.

`formatCommands` is the encoder, `parseCommands` the loop of the script with its field splitting; the
parameter `skip` says how many positions `:find` leaves out behind its start position (`RouterOsText`).
`pipe_round_trip_iff` characterises the lists of commands that the script gets back. -/

namespace IspBilling

open Rows RouterOsText

/-- The `type` parameter as it is sent. -/
def UserType.text : UserType → String
  | .hotspot => "hotspot"
  | .pppoe => "pppoe"

namespace Action

/-- The name of the action. -/
def word : Action → String
  | .createUser .. => "create_user"
  | .disableUser .. => "disable_user"
  | .enableUser .. => "enable_user"
  | .removeUser .. => "remove_user"
  | .disconnect _ => "disconnect"
  | .setQueue .. => "set_queue"
  | .fetchImport _ => "fetch_import"
  | .runScript _ => "run_script"

/-- The parameters in the order of the line; a script is encoded. -/
def params (base64 : String → String) : Action → List String
  | .createUser username password type profile rateLimit =>
      [username, password, type.text, profile, rateLimit]
  | .disableUser username type => [username, type.text]
  | .enableUser username type => [username, type.text]
  | .removeUser username type => [username, type.text]
  | .disconnect username => [username]
  | .setQueue target maxLimit => [target, maxLimit]
  | .fetchImport url => [url]
  | .runScript script => [base64 script]

def Queued : Action → Prop
  | .createUser .. | .disableUser .. | .enableUser .. | .removeUser .. | .disconnect _ |
    .fetchImport _ => True
  | .setQueue .. | .runScript _ => False

instance : DecidablePred Queued
  | .createUser .. | .disableUser .. | .enableUser .. | .removeUser .. | .disconnect _ |
    .fetchImport _ => isTrue trivial
  | .setQueue .. | .runScript _ => isFalse id

end Action

section Encoder

variable (base64 : String → String)

def formatCommand (c : RouterCommand) : String :=
  String.intercalate "|" (c.action.word :: c.action.params base64 ++ [c.id])

/-- `format_commands_pipe_delimited`. -/
def formatCommands (cmds : List RouterCommand) : String :=
  String.intercalate "\n" (cmds.map (formatCommand base64))

end Encoder

/-! ### The script -/

/-- A handler at work: its name, and the parameters and the command id that it cuts out.  There are
none when a separator is missing. -/
structure Invocation where
  handler : String
  fields : Option (List (List Char))
deriving DecidableEq, Repr

/-- The handlers of the script in their order, with the number of parameters in front of the id. -/
def handlers : List (String × ℕ) :=
  [("disconnect", 1), ("disable_user", 2), ("enable_user", 2), ("remove_user", 2), ("create_user", 5),
    ("fetch_import", 1)]

/-- The body of the line loop: every handler whose name is the action is run. -/
def parseLine (skip : ℕ) (line : List Char) : List Invocation :=
  if 2 < line.length then
    match find '|' 0 line with
    | none => []
    | some sep1 =>
        let action := pick 0 sep1 line
        let rest := pick (sep1 + 1) line.length line
        (handlers.filter (fun h => decide (h.1.toList = action))).map
          (fun h => ⟨h.1, fields '|' skip h.2 rest⟩)
  else []

/-- The line loop, for at most `fuel` lines. -/
def parseLines (skip : ℕ) : ℕ → List Char → List Invocation
  | 0, _ => []
  | fuel + 1, data =>
      if 2 < data.length then
        let lineEnd := (find '\n' 0 data).getD data.length
        parseLine skip (pick 0 lineEnd data) ++
          parseLines skip fuel (pick (lineEnd + 1) data.length data)
      else []

/-- What the script does with the answer of a poll.  A line takes at least one character. -/
def parseCommands (skip : ℕ) (data : List Char) : List Invocation := parseLines skip data.length data

/-! ### The round trip -/

section RoundTrip

variable (base64 : String → String) (skip : ℕ)

/-- The invocation that the command stands for. -/
def RouterCommand.invocation (c : RouterCommand) : Invocation :=
  ⟨c.action.word, some ((c.action.params base64).map String.toList ++ [c.id.toList])⟩

/-- The script gets the commands back, in order, each by one handler. -/
def RoundTrip (cmds : List RouterCommand) : Prop :=
  parseCommands skip (formatCommands base64 cmds).toList =
    cmds.map (RouterCommand.invocation base64)

instance (cmds : List RouterCommand) : Decidable (RoundTrip base64 skip cmds) :=
  inferInstanceAs (Decidable (parseCommands skip (formatCommands base64 cmds).toList =
    cmds.map (RouterCommand.invocation base64)))

/-- The texts of a command do not interfere with the protocol: no newline; no pipe in the first
parameter; none in the others behind the positions that the search leaves out, which they fill. -/
structure RouterCommand.Clean (c : RouterCommand) : Prop where
  lines : ∀ f ∈ c.action.params base64 ++ [c.id], '\n' ∉ f.toList
  first : ∀ f ∈ (c.action.params base64).head?, '|' ∉ f.toList
  others : ∀ f ∈ (c.action.params base64).tail, skip ≤ f.toList.length ∧ '|' ∉ f.toList.drop skip

end RoundTrip

/-! ### Lines -/

theorem toList_formatCommand (base64 : String → String) (c : RouterCommand) :
    (formatCommand base64 c).toList =
      c.action.word.toList ++ '|' :: joined '|' ((c.action.params base64).map String.toList)
        c.id.toList := by
  have h := intercalate_eq_joined '|' ((c.action.word :: c.action.params base64).map String.toList)
    c.id.toList
  rw [formatCommand, String.toList_intercalate]
  simpa [joined] using h

theorem parseLines_nil (skip fuel : ℕ) : parseLines skip fuel [] = [] := by
  cases fuel with
  | zero => rfl
  | succ fuel => rfl

/-- More fuel than characters changes nothing. -/
theorem parseLines_congr (skip : ℕ) {n m : ℕ} {data : List Char} (hn : data.length ≤ n)
    (hm : data.length ≤ m) : parseLines skip n data = parseLines skip m data := by
  induction n generalizing m data with
  | zero =>
      rw [List.length_eq_zero_iff.mp (Nat.le_zero.mp hn), parseLines_nil, parseLines_nil]
  | succ n ih =>
      cases m with
      | zero =>
          rw [List.length_eq_zero_iff.mp (Nat.le_zero.mp hm), parseLines_nil, parseLines_nil]
      | succ m =>
          rw [parseLines, parseLines]
          split
          · -- one round takes the line and its newline off
            have hrest : ∀ k, (pick (k + 1) data.length data).length + 1 ≤ data.length := by
              intro k
              rw [pick_length, List.length_drop]
              omega
            have hk := hrest ((find '\n' 0 data).getD data.length)
            simp only
            rw [ih (by omega) (by omega : _ ≤ m)]
          · rfl

theorem parseCommands_line {skip : ℕ} {line : List Char} (hline : '\n' ∉ line)
    (hlen : 2 < line.length) (rest : List Char) :
    parseCommands skip (line ++ '\n' :: rest) = parseLine skip line ++ parseCommands skip rest := by
  have hfind : find '\n' 0 (line ++ '\n' :: rest) = some line.length :=
    find_eq_some_iff.mpr ⟨line, rest, rfl, rfl, Nat.zero_le _, by simpa using hline⟩
  have htotal : (line ++ '\n' :: rest).length = line.length + rest.length + 1 := by
    simp
    omega
  have hpick : pick 0 line.length (line ++ '\n' :: rest) = line := by simp [pick]
  have hrest : pick (line.length + 1) (line ++ '\n' :: rest).length (line ++ '\n' :: rest) = rest := by
    rw [pick_length]
    simp
  rw [parseCommands, htotal, parseLines, if_pos (by omega)]
  simp only [hfind, Option.getD_some, hpick, hrest]
  rw [parseCommands, parseLines_congr skip (by omega) le_rfl]

theorem parseCommands_last {skip : ℕ} {line : List Char} (hline : '\n' ∉ line)
    (hlen : 2 < line.length) : parseCommands skip line = parseLine skip line := by
  have hfind : find '\n' 0 line = none := find_eq_none_iff.mpr hline
  obtain ⟨n, hn⟩ : ∃ n, line.length = n + 1 := ⟨line.length - 1, by omega⟩
  have hpick : pick 0 line.length line = line := by simp [pick]
  have hrest : pick (line.length + 1) line.length line = [] := by simp [pick]
  rw [parseCommands, hn, parseLines, if_pos (by omega)]
  simp only [hfind, Option.getD_none, hpick, hrest, parseLines_nil, List.append_nil]

/-- **The line loop** takes a text of lines apart. -/
theorem parseCommands_lines {skip : ℕ} {lines : List (List Char)}
    (h : ∀ line ∈ lines, '\n' ∉ line ∧ 2 < line.length) :
    parseCommands skip (List.intercalate ['\n'] lines) = lines.flatMap (parseLine skip) := by
  induction lines with
  | nil => rfl
  | cons line lines ih =>
      obtain ⟨⟨hline, hlen⟩, hrest⟩ := List.forall_mem_cons.mp h
      cases lines with
      | nil => simpa using parseCommands_last hline hlen
      | cons next lines =>
          rw [List.intercalate_cons_of_ne_nil (by simp), List.append_assoc, List.singleton_append,
            parseCommands_line hline hlen, ih hrest]
          rfl

theorem newline_notMem_firstLine (data : List Char) :
    '\n' ∉ pick 0 ((find '\n' 0 data).getD data.length) data := by
  cases hfind : find '\n' 0 data with
  | none =>
      intro hmem
      exact find_eq_none_iff.mp hfind (mem_of_mem_pick hmem)
  | some i =>
      obtain ⟨a, b, rfl, rfl, -, hnot⟩ := find_eq_some_iff.mp hfind
      simpa [pick] using hnot

theorem mem_of_mem_parseLine {skip : ℕ} {line : List Char} {i : Invocation}
    (hi : i ∈ parseLine skip line) {fs : List (List Char)} (hfs : i.fields = some fs)
    {f : List Char} (hf : f ∈ fs) {x : Char} (hx : x ∈ f) : x ∈ line := by
  unfold parseLine at hi
  split at hi
  · split at hi
    · cases hi
    · obtain ⟨h, -, rfl⟩ := List.mem_map.mp hi
      exact mem_of_mem_pick (mem_of_mem_fields hfs hf hx)
  · cases hi

/-- Every field that the script cuts out stands in one line. -/
theorem newline_notMem_parseLines {skip fuel : ℕ} {data : List Char} {i : Invocation}
    (hi : i ∈ parseLines skip fuel data) {fs : List (List Char)} (hfs : i.fields = some fs) :
    ∀ f ∈ fs, '\n' ∉ f := by
  induction fuel generalizing data with
  | zero => cases hi
  | succ fuel ih =>
      rw [parseLines] at hi
      split at hi
      · rcases List.mem_append.mp hi with hline | hrest
        · intro f hf hnl
          exact newline_notMem_firstLine data (mem_of_mem_parseLine hline hfs hf hnl)
        · exact ih hrest
      · cases hi

/-! ### Commands -/

theorem handlers_names : ∀ h ∈ handlers,
    '|' ∉ h.1.toList ∧ '\n' ∉ h.1.toList ∧ 2 < h.1.toList.length := by
  decide

theorem handlers_keyed : Keyed (fun h : String × ℕ => h.1.toList) handlers := by
  decide

theorem Action.Queued.mem_handlers {a : Action} (h : a.Queued) (base64 : String → String) :
    (a.word, (a.params base64).length) ∈ handlers := by
  cases a with
  | setQueue target maxLimit => exact absurd h id
  | runScript script => exact absurd h id
  | createUser username password type profile rateLimit => simp [handlers, word, params]
  | disableUser username type => simp [handlers, word, params]
  | enableUser username type => simp [handlers, word, params]
  | removeUser username type => simp [handlers, word, params]
  | disconnect username => simp [handlers, word, params]
  | fetchImport url => simp [handlers, word, params]

section Commands

variable {base64 : String → String} {skip : ℕ} {c : RouterCommand}

/-- The line of a queued command is handled by its own handler, once. -/
theorem parseLine_formatCommand (h : c.action.Queued) :
    parseLine skip (formatCommand base64 c).toList =
      [⟨c.action.word, fields '|' skip (c.action.params base64).length
        (joined '|' ((c.action.params base64).map String.toList) c.id.toList)⟩] := by
  have hmem := h.mem_handlers base64
  obtain ⟨hpipe, -, hlen⟩ := handlers_names _ hmem
  simp only at hpipe hlen
  rw [toList_formatCommand]
  set rest := joined '|' ((c.action.params base64).map String.toList) c.id.toList with hrest
  have hfind : find '|' 0 (c.action.word.toList ++ '|' :: rest) = some c.action.word.toList.length :=
    find_eq_some_iff.mpr ⟨_, rest, rfl, rfl, Nat.zero_le _, by simpa using hpipe⟩
  have hlong : 2 < (c.action.word.toList ++ '|' :: rest).length := by
    rw [List.length_append]
    omega
  have haction : pick 0 c.action.word.toList.length (c.action.word.toList ++ '|' :: rest) =
      c.action.word.toList := by simp [pick]
  have hcut : pick (c.action.word.toList.length + 1) (c.action.word.toList ++ '|' :: rest).length
      (c.action.word.toList ++ '|' :: rest) = rest := by
    rw [pick_length]
    simp
  unfold parseLine
  rw [if_pos hlong, hfind]
  simp only [haction, hcut]
  rw [handlers_keyed.filter_key hmem]
  rfl

theorem newline_notMem_formatCommand (h : c.action.Queued)
    (hnl : ∀ f ∈ c.action.params base64 ++ [c.id], '\n' ∉ f.toList) :
    '\n' ∉ (formatCommand base64 c).toList ∧ 2 < (formatCommand base64 c).toList.length := by
  obtain ⟨-, hword, hlen⟩ := handlers_names _ (h.mem_handlers base64)
  simp only at hword hlen
  have hjoined : ∀ (fs : List String), (∀ f ∈ fs ++ [c.id], '\n' ∉ f.toList) →
      '\n' ∉ joined '|' (fs.map String.toList) c.id.toList := by
    intro fs
    induction fs with
    | nil =>
        intro hfs
        exact hfs c.id (by simp)
    | cons f fs ih =>
        intro hfs
        obtain ⟨hf, hrest⟩ := List.forall_mem_cons.mp hfs
        have hmore := ih hrest
        simp only [joined, List.map_cons, List.foldr_cons] at hmore ⊢
        simp [hf, hmore]
  rw [toList_formatCommand]
  refine ⟨?_, ?_⟩
  · have hrest := hjoined _ hnl
    simp [hword, hrest]
  · rw [List.length_append]
    omega

theorem Action.params_eq_cons (base64 : String → String) (a : Action) :
    ∃ f fs, a.params base64 = f :: fs := by
  cases a <;> exact ⟨_, _, rfl⟩

/-- A command comes back from its line when none of its parameters is cut at a pipe. -/
theorem fields_command_iff :
    fields '|' skip (c.action.params base64).length
        (joined '|' ((c.action.params base64).map String.toList) c.id.toList) =
        some ((c.action.params base64).map String.toList ++ [c.id.toList]) ↔
      (∀ f ∈ (c.action.params base64).head?, '|' ∉ f.toList) ∧
        ∀ f ∈ (c.action.params base64).tail, skip ≤ f.toList.length ∧ '|' ∉ f.toList.drop skip := by
  obtain ⟨f, fs, hparams⟩ := c.action.params_eq_cons base64
  have h : fields '|' skip ((fs.map String.toList).length + 1)
      (joined '|' (f.toList :: fs.map String.toList) c.id.toList) =
        some (f.toList :: fs.map String.toList ++ [c.id.toList]) ↔ _ := fields_eq_some_iff
  rw [hparams]
  simpa using h

theorem parseCommands_formatCommands {cmds : List RouterCommand} (hq : ∀ c ∈ cmds, c.action.Queued)
    (hnl : ∀ c ∈ cmds, ∀ f ∈ c.action.params base64 ++ [c.id], '\n' ∉ f.toList) :
    parseCommands skip (formatCommands base64 cmds).toList =
      cmds.map (fun c => ⟨c.action.word, fields '|' skip (c.action.params base64).length
        (joined '|' ((c.action.params base64).map String.toList) c.id.toList)⟩) := by
  have hlines : (formatCommands base64 cmds).toList =
      List.intercalate ['\n'] (cmds.map (fun c => (formatCommand base64 c).toList)) := by
    simp [formatCommands, Function.comp_def]
  rw [hlines, parseCommands_lines, List.flatMap_map]
  · rw [List.map_eq_flatMap]
    apply List.flatMap_congr
    intro c hc
    exact parseLine_formatCommand (hq c hc)
  · intro line hline
    obtain ⟨c, hc, rfl⟩ := List.mem_map.mp hline
    exact newline_notMem_formatCommand (hq c hc) (hnl c hc)

end Commands

/-- **When the script gets the commands back**: for every list of commands with queued actions, the
script recovers exactly their sequence of actions, parameters and ids, each by one handler, if and only
if their texts do not interfere with the protocol. -/
theorem pipe_round_trip_iff (base64 : String → String) (skip : ℕ) (cmds : List RouterCommand)
    (hq : ∀ c ∈ cmds, c.action.Queued) :
    RoundTrip base64 skip cmds ↔ ∀ c ∈ cmds, c.Clean base64 skip := by
  constructor
  · intro h
    -- what the script cuts out has no newline, so the commands have none
    have hnl : ∀ c ∈ cmds, ∀ f ∈ c.action.params base64 ++ [c.id], '\n' ∉ f.toList := by
      intro c hc f hf
      have hmem : c.invocation base64 ∈ parseCommands skip (formatCommands base64 cmds).toList := by
        rw [h]
        exact List.mem_map_of_mem hc
      refine newline_notMem_parseLines hmem rfl f.toList ?_
      simpa using List.mem_map_of_mem (f := String.toList) hf
    rw [RoundTrip, parseCommands_formatCommands hq hnl] at h
    intro c hc
    have hfields := List.map_inj_left.mp h c hc
    obtain ⟨hfirst, hothers⟩ := fields_command_iff.mp (Invocation.mk.inj hfields).2
    exact ⟨hnl c hc, hfirst, hothers⟩
  · intro h
    rw [RoundTrip, parseCommands_formatCommands hq (fun c hc => (h c hc).lines)]
    apply List.map_congr_left
    intro c hc
    rw [fields_command_iff.mpr ⟨(h c hc).first, (h c hc).others⟩]
    rfl

/-- A `create_user` that logs a customer in with the given password. -/
def createAlice (password : String) : RouterCommand :=
  ⟨"7f1c", 1, .createUser "alice" password .hotspot "plan_1" "10M/5M", 2, .pending, 0, none, none,
    some 3600, none, 0, 3, none, none⟩

/-- A pipe in a password shifts the fields, wherever `:find` begins; a newline ends the command. -/
theorem pipe_in_password_shifts :
    ¬ RoundTrip id 0 [createAlice "a|b"] ∧ ¬ RoundTrip id 1 [createAlice "a|b"] ∧
      ¬ RoundTrip id 0 [createAlice "a\nb"] := by
  decide

/-- Passwords without pipe and newline are safe. -/
theorem pipe_round_trip_alice :
    (∀ c ∈ [createAlice "secret"], c.action.Queued) ∧
      RoundTrip id 1 [createAlice "secret"] := by
  have hq : ∀ c ∈ [createAlice "secret"], c.action.Queued := by decide
  refine ⟨hq, (pipe_round_trip_iff id 1 [createAlice "secret"] hq).mpr ?_⟩
  intro c hc
  obtain rfl := List.mem_singleton.mp hc
  exact ⟨by decide, by decide, by decide⟩

end IspBilling
