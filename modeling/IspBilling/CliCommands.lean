import IspBilling.PythonText

/-! # Command lines and API requests

`MikroTikClient.execute_command` (`app/integrations/mikrotik/client.py`) takes a line of RouterOS
text, and `_parse_cli_command` makes a request of the RouterOS API of it: a resource path, a method
and named parameters.  The parser is a scanner, not a RouterOS interpreter: it splits the line at its
first blank, takes the method off the path, and collects what looks like `key=value` from the rest.

`parseCliCommand_text` is the round trip: the line of an operation whose words are plain is read back
as that operation.  `parseCliCommand_find` says what becomes of a line that addresses its object with
`[find …]`: the brackets are not interpreted. -/

namespace IspBilling

open PythonText

/-! ### Operations -/

/-- An operation of RouterOS, with its parameters in order. -/
structure Operation where
  path : String
  method : String
  params : List (String × String)
deriving DecidableEq, Repr

def paramsText : List (String × String) → String
  | [] => ""
  | p :: params => " " ++ p.1 ++ "=" ++ p.2 ++ paramsText params

def Operation.text (op : Operation) : String :=
  op.path ++ "/" ++ op.method ++ paramsText op.params

/-! ### Parameters -/

/-- What stands between quotation marks: `q([^q]+)q`, after the first of them. -/
def matchQuoted (q : Char) (cs : List Char) : Option (List Char × List Char) :=
  let body := cs.takeWhile (· != q)
  match cs.dropWhile (· != q) with
  | [] => none
  | _ :: rest => if body = [] then none else some (body, rest)

/-- `(\S+)`. -/
def matchBare (cs : List Char) : Option (List Char × List Char) :=
  let body := cs.takeWhile (fun c => !isSpace c)
  if body = [] then none else some (body, cs.dropWhile (fun c => !isSpace c))

/-- `(?:"([^"]+)"|'([^']+)'|(\S+))`: the value, and what follows it. -/
def matchValue (cs : List Char) : Option (List Char × List Char) :=
  match cs with
  | '"' :: rest => (matchQuoted '"' rest).or (matchBare cs)
  | '\'' :: rest => (matchQuoted '\'' rest).or (matchBare cs)
  | _ => matchBare cs

/-- A pair that starts here: `(\S+?)=` and a value.  The key grows as long as no value follows. -/
def matchPair (key : List Char) : List Char → Option ((List Char × List Char) × List Char)
  | [] => none
  | c :: cs =>
      let longer := if isSpace c then none else matchPair (key ++ [c]) cs
      if c = '=' ∧ key ≠ [] then
        match matchValue cs with
        | some (value, rest) => some ((key, value), rest)
        | none => longer
      else longer

/-- `re.findall`: the pairs of a text, from left to right.  A pair or a character is consumed at each
step, so that as many steps as characters are enough. -/
def findPairs : ℕ → List Char → List (List Char × List Char)
  | 0, _ => []
  | _ + 1, [] => []
  | n + 1, c :: cs =>
      match matchPair [] (c :: cs) with
      | some (pair, rest) => pair :: findPairs n rest
      | none => findPairs n cs

/-- `params[key] = value`. -/
def assign (params : List (String × String)) (key value : String) : List (String × String) :=
  if params.any (fun p => p.1 == key) then
    params.map (fun p => if p.1 = key then (key, value) else p)
  else params ++ [(key, value)]

def parseParams (cs : List Char) : List (String × String) :=
  (findPairs cs.length cs).foldl
    (fun params p => assign params (String.ofList p.1) (String.ofList p.2)) []

/-! ### Lines -/

/-- `method_keywords`. -/
def methodKeywords : List String :=
  ["add", "set", "remove", "print", "get", "enable", "disable", "reset", "sign"]

/-- The resource path and the method of the first word of a line. -/
def splitMethod (word : List Char) : String × String :=
  let segments := (rstrip '/' word).splitOn '/'
  let last := String.ofList (segments.getLast?.getD [])
  if last ∈ methodKeywords then (String.ofList (join '/' segments.dropLast), last)
  else (String.ofList word, "get")

/-- The item of a `set` command, and the text of its parameters. -/
def splitItem (cs : List Char) : Option (List Char) × List Char :=
  match splitFirst ' ' cs with
  | (_ :: _, none) => if '=' ∈ cs then (none, cs) else (some cs, [])
  | (c :: first, some rest) => if '=' ∈ c :: first then (none, cs) else (some (c :: first), rest)
  -- A blank at the very front is not an item.
  | ([], _) => if '=' ∈ cs then (none, cs) else (some cs, [])

/-- `_parse_cli_command`: path, method, parameters. -/
def parseCliCommand (command : String) : Operation :=
  let parts := splitFirst ' ' (strip command.toList)
  let resource := splitMethod parts.1
  let paramString := parts.2.getD []
  let item := if resource.2 = "set" then splitItem paramString else (none, paramString)
  let params := parseParams item.2
  ⟨resource.1, resource.2,
    match item.1 with
    | some (c :: cs) => assign params "_item_identifier" (String.ofList (c :: cs))
    | _ => params⟩

/-- What `execute_command` asks of the API. -/
inductive ApiRequest where
  | operation (op : Operation)
  /-- The operation on the item that has this name, which is looked up first. -/
  | onItem (op : Operation) (name : String)
  /-- The client raises without a request. -/
  | invalid
deriving DecidableEq, Repr

/-- The request asks for a new object. -/
def ApiRequest.isAdd : ApiRequest → Bool
  | .operation op => op.method == "add"
  | _ => false

/-- The methods that `execute_command` looks for at the end of a line without blanks. -/
def cliMethods : List String := ["add", "set", "remove", "print", "enable", "disable"]

/-- A line for `_parse_cli_command`; anything else is a path. -/
def isCliCommand (command : String) : Bool :=
  decide (' ' ∈ command.toList) ||
    cliMethods.any (fun m => ("/" ++ m).toList.isSuffixOf (rstrip '/' command.toList))

/-- `resource.set(disabled=value, **params)`; a second `disabled` is a `TypeError`. -/
def setDisabled (value path : String) (params : List (String × String)) : ApiRequest :=
  if params.any (fun p => p.1 == "disabled") then .invalid
  else .operation ⟨path, "set", ("disabled", value) :: params⟩

/-- The request for a parsed line. -/
def requestOf (op : Operation) : ApiRequest :=
  let item := (op.params.find? (fun p => p.1 == "_item_identifier")).map Prod.snd
  let params := op.params.filter (fun p => p.1 != "_item_identifier")
  match op.method with
  | "get" => .operation ⟨op.path, "print", params⟩
  | "print" => .operation ⟨op.path, "print", params⟩
  | "add" => .operation ⟨op.path, "add", params⟩
  | "set" =>
      match item with
      | some name => .onItem ⟨op.path, "set", params⟩ name
      | none => .operation ⟨op.path, "set", params⟩
  | "remove" =>
      match item with
      | some name => .onItem ⟨op.path, "remove", params⟩ name
      | none => .operation ⟨op.path, "remove", params⟩
  | "enable" => setDisabled "no" op.path params
  | "disable" => setDisabled "yes" op.path params
  | "sign" => .operation ⟨op.path, "sign", params⟩
  | _ => .invalid

/-- `execute_command(connection, command)`. -/
def executeCommand (command : String) : ApiRequest :=
  if isCliCommand command then requestOf (parseCliCommand command)
  else .operation ⟨command, "print", []⟩

/-! ### Reading a line back -/

/-- A key of a parameter: no blank, and no `=`. -/
def IsKey (key : List Char) : Prop := key ≠ [] ∧ ∀ c ∈ key, isSpace c = false ∧ c ≠ '='

theorem isKey_of_all {key : List Char}
    (h : (!key.isEmpty && key.all (fun c => !isSpace c && c != '=')) = true) : IsKey key := by
  rw [Bool.and_eq_true, List.all_eq_true] at h
  refine ⟨by simpa using h.1, ?_⟩
  intro c hc
  simpa using h.2 c hc

/-- A value that stands for itself: no blank, and no quotation mark at its front. -/
def IsBare (value : List Char) : Prop :=
  value ≠ [] ∧ (∀ c ∈ value, isSpace c = false) ∧ ∀ c ∈ value.head?, c ≠ '"' ∧ c ≠ '\''

theorem matchBare_append {value rest : List Char} (hne : value ≠ [])
    (hvalue : ∀ c ∈ value, isSpace c = false) (hrest : ∀ c ∈ rest.head?, isSpace c = true) :
    matchBare (value ++ rest) = some (value, rest) := by
  have hrun : ∀ c ∈ value, (!isSpace c) = true := fun c hc => by simp [hvalue c hc]
  have hstop : ∀ c ∈ rest.head?, (!isSpace c) = false := fun c hc => by simp [hrest c hc]
  unfold matchBare
  rw [takeWhile_run hrun hstop, dropWhile_run hrun hstop, if_neg hne]

theorem matchValue_append {value rest : List Char} (h : IsBare value)
    (hrest : ∀ c ∈ rest.head?, isSpace c = true) :
    matchValue (value ++ rest) = some (value, rest) := by
  obtain ⟨hne, hvalue, hquote⟩ := h
  have hbare := matchBare_append hne hvalue hrest
  cases value with
  | nil => exact absurd rfl hne
  | cons c value =>
      obtain ⟨hdouble, hsingle⟩ := hquote c rfl
      rw [List.cons_append] at hbare ⊢
      unfold matchValue
      split
      · next heq => exact absurd (List.cons.inj heq).1 hdouble
      · next heq => exact absurd (List.cons.inj heq).1 hsingle
      · exact hbare

/-- The scanner finds the first pair of a line, where a text follows that is read as a value. -/
theorem matchPair_of_value {text value rest : List Char}
    (hvalue : matchValue (text ++ rest) = some (value, rest)) {key : List Char}
    (hkey : ∀ c ∈ key, isSpace c = false ∧ c ≠ '=') (front : List Char) (hne : front ++ key ≠ []) :
    matchPair front (key ++ '=' :: (text ++ rest)) = some ((front ++ key, value), rest) := by
  induction key generalizing front with
  | nil =>
      rw [List.append_nil] at hne ⊢
      rw [List.nil_append]
      unfold matchPair
      rw [if_pos ⟨rfl, hne⟩, hvalue]
  | cons c key ih =>
      obtain ⟨hspace, heq⟩ := hkey c (by simp)
      have hnext := ih (fun d hd => hkey d (by simp [hd])) (front ++ [c]) (by simp)
      rw [List.cons_append]
      unfold matchPair
      rw [if_neg (fun h => heq h.1), hspace, if_neg (by decide), hnext, List.append_assoc]
      rfl

theorem matchPair_word {word : List Char} (h : ∀ c ∈ word, c ≠ '=') (front rest : List Char) :
    matchPair front (word ++ ' ' :: rest) = none := by
  induction word generalizing front with
  | nil =>
      rw [List.nil_append]
      unfold matchPair
      rw [if_neg (by simp)]
      rfl
  | cons c word ih =>
      rw [List.cons_append]
      unfold matchPair
      rw [if_neg (fun heq => h c (by simp) heq.1), ih (fun d hd => h d (by simp [hd]))]
      exact ite_self none

theorem findPairs_of_some {c : Char} {cs rest : List Char} {pair : List Char × List Char}
    (h : matchPair [] (c :: cs) = some (pair, rest)) (n : ℕ) :
    findPairs (n + 1) (c :: cs) = pair :: findPairs n rest := by
  simp [findPairs, h]

theorem findPairs_of_none {c : Char} {cs : List Char} (h : matchPair [] (c :: cs) = none) (n : ℕ) :
    findPairs (n + 1) (c :: cs) = findPairs n cs := by
  simp [findPairs, h]

theorem findPairs_of_value {key text value rest : List Char} (hkey : IsKey key)
    (hvalue : matchValue (text ++ rest) = some (value, rest)) (n : ℕ) :
    findPairs (n + 1) (key ++ '=' :: (text ++ rest)) = (key, value) :: findPairs n rest := by
  have hpair := matchPair_of_value hvalue hkey.2 [] hkey.1
  obtain ⟨c, key', rfl⟩ := List.exists_cons_of_ne_nil hkey.1
  rw [List.cons_append] at hpair ⊢
  exact findPairs_of_some hpair n

theorem findPairs_append {key value rest : List Char} (hkey : IsKey key) (hvalue : IsBare value)
    (hrest : ∀ c ∈ rest.head?, isSpace c = true) (n : ℕ) :
    findPairs (n + 1) (key ++ '=' :: (value ++ rest)) = (key, value) :: findPairs n rest :=
  findPairs_of_value hkey (matchValue_append hvalue hrest) n

theorem findPairs_blank (rest : List Char) (n : ℕ) :
    findPairs (n + 1) (' ' :: rest) = findPairs n rest := by
  have hword : ∀ c ∈ ([] : List Char), c ≠ '=' := by simp
  exact findPairs_of_none (matchPair_word hword [] rest) n

theorem findPairs_word {word : List Char} (h : ∀ c ∈ word, c ≠ '=') (rest : List Char) (n : ℕ) :
    findPairs (n + word.length + 1) (word ++ ' ' :: rest) = findPairs n rest := by
  induction word with
  | nil => exact findPairs_blank rest n
  | cons c word ih =>
      have hnone := matchPair_word h [] rest
      rw [List.cons_append] at hnone ⊢
      rw [List.length_cons, ← Nat.add_assoc, findPairs_of_none hnone]
      exact ih (fun d hd => h d (by simp [hd]))

/-! ### The parameters -/

/-- Parameters that a line can carry as they are. -/
def PlainParams (params : List (String × String)) : Prop :=
  ∀ p ∈ params, IsKey p.1.toList ∧ IsBare p.2.toList

theorem PlainParams.tail {p : String × String} {params : List (String × String)}
    (h : PlainParams (p :: params)) : PlainParams params :=
  fun q hq => h q (List.mem_cons_of_mem p hq)

theorem toList_paramsText_cons (p : String × String) (params : List (String × String)) :
    (paramsText (p :: params)).toList =
      ' ' :: (p.1.toList ++ '=' :: (p.2.toList ++ (paramsText params).toList)) := by
  simp [paramsText]

theorem paramsText_head (params : List (String × String)) :
    ∀ c ∈ (paramsText params).toList.head?, isSpace c = true := by
  intro c hc
  cases params with
  | nil => simp [paramsText] at hc
  | cons p params =>
      rw [toList_paramsText_cons] at hc
      obtain rfl : ' ' = c := by simpa using hc
      decide

theorem findPairs_paramsText {params : List (String × String)} (h : PlainParams params) {n : ℕ}
    (hn : (paramsText params).toList.length ≤ n) :
    findPairs n (paramsText params).toList = params.map (fun p => (p.1.toList, p.2.toList)) := by
  induction params generalizing n with
  | nil => cases n <;> rfl
  | cons p params ih =>
      obtain ⟨hkey, hvalue⟩ := h p (by simp)
      have hlength : (paramsText (p :: params)).toList.length =
          1 + (p.1.toList.length + (1 + (p.2.toList.length + (paramsText params).toList.length))) := by
        rw [toList_paramsText_cons]
        simp only [List.length_cons, List.length_append]
        omega
      have hpos : 0 < p.1.toList.length := List.length_pos_of_ne_nil hkey.1
      obtain ⟨m, rfl⟩ : ∃ m, n = m + 1 + 1 := ⟨n - 2, by omega⟩
      rw [toList_paramsText_cons, findPairs_blank,
        findPairs_append hkey hvalue (paramsText_head params), ih h.tail (by omega)]
      rfl

theorem assign_of_notMem {params : List (String × String)} {key : String}
    (h : key ∉ params.map Prod.fst) (value : String) :
    assign params key value = params ++ [(key, value)] := by
  unfold assign
  rw [if_neg]
  rw [List.any_eq_true]
  rintro ⟨p, hp, heq⟩
  exact h (List.mem_map.mpr ⟨p, hp, by simpa using heq⟩)

theorem foldl_assign {params front : List (String × String)}
    (h : ((front ++ params).map Prod.fst).Nodup) :
    params.foldl (fun acc p => assign acc p.1 p.2) front = front ++ params := by
  induction params generalizing front with
  | nil => simp
  | cons p params ih =>
      have hp : p.1 ∉ front.map Prod.fst := by
        rw [List.map_append, List.map_cons] at h
        intro hmem
        exact (List.nodup_append.mp h).2.2 _ hmem _ (by simp) rfl
      rw [List.foldl_cons, assign_of_notMem hp, ih (by simpa using h), List.append_assoc]
      rfl

theorem parseParams_of_findPairs {cs : List Char} {params : List (String × String)}
    (h : findPairs cs.length cs = params.map (fun p => (p.1.toList, p.2.toList)))
    (hkeys : (params.map Prod.fst).Nodup) : parseParams cs = params := by
  unfold parseParams
  rw [h, List.foldl_map]
  simp only [String.ofList_toList]
  exact foldl_assign (by simpa using hkeys)

/-! ### The line of an operation -/

/-- An operation whose line consists of plain words. -/
structure Operation.Plain (op : Operation) : Prop where
  path : ∀ c ∈ op.path.toList, isSpace c = false
  method : op.method ∈ methodKeywords
  params : PlainParams op.params
  keys : (op.params.map Prod.fst).Nodup

theorem methodKeywords_chars {m : String} (h : m ∈ methodKeywords) :
    m.toList ≠ [] ∧ ∀ c ∈ m.toList, isSpace c = false ∧ c ≠ '/' := by
  have hall : methodKeywords.all (fun m => !m.toList.isEmpty &&
      m.toList.all (fun c => !isSpace c && c != '/')) = true := by
    decide +kernel
  have hm := List.all_eq_true.mp hall m h
  rw [Bool.and_eq_true, List.all_eq_true] at hm
  refine ⟨by simpa using hm.1, ?_⟩
  intro c hc
  simpa using hm.2 c hc

theorem splitMethod_append (path : String) {method : String} (h : method ∈ methodKeywords) :
    splitMethod (path.toList ++ '/' :: method.toList) = (path, method) := by
  obtain ⟨hne, hchars⟩ := methodKeywords_chars h
  have hstrip : rstrip '/' (path.toList ++ '/' :: method.toList) =
      path.toList ++ '/' :: method.toList := by
    refine rstrip_eq_self ?_
    intro d hd
    rw [List.getLast?_append_of_ne_nil _ (by simp), List.getLast?_cons_of_ne_nil hne] at hd
    exact (hchars d (List.mem_of_mem_getLast? hd)).2
  have hslash : '/' ∉ method.toList := fun hmem => (hchars '/' hmem).2 rfl
  have hsplit : (path.toList ++ '/' :: method.toList).splitOn '/' =
      path.toList.splitOn '/' ++ [method.toList] := by
    rw [List.splitOn_append_cons_self, List.splitOn_eq_singleton hslash]
  unfold splitMethod
  simp only [hstrip, hsplit, List.getLast?_concat, Option.getD_some, String.ofList_toList, h,
    if_true, List.dropLast_concat, join, List.intercalate_splitOn]

theorem paramsText_last {params : List (String × String)} (h : PlainParams params) :
    ∀ c ∈ (paramsText params).toList.getLast?, isSpace c = false := by
  induction params with
  | nil =>
      intro c hc
      simp [paramsText] at hc
  | cons p params ih =>
      intro c hc
      obtain ⟨_, hne, hvalue, _⟩ := h p (by simp)
      have hsplit : (paramsText (p :: params)).toList =
          (' ' :: (p.1.toList ++ ['='])) ++ (p.2.toList ++ (paramsText params).toList) := by
        rw [toList_paramsText_cons]
        simp
      rw [hsplit, List.getLast?_append_of_ne_nil _ (by simp [hne]), List.getLast?_append] at hc
      rcases Option.or_eq_some_iff.mp hc with hlast | ⟨_, hlast⟩
      · exact ih h.tail c hlast
      · exact hvalue c (List.mem_of_getLast? hlast)

theorem strip_text {op : Operation} (h : op.Plain) : strip op.text.toList = op.text.toList := by
  have htext : op.text.toList =
      op.path.toList ++ '/' :: (op.method.toList ++ (paramsText op.params).toList) := by
    simp [Operation.text]
  obtain ⟨hne, hchars⟩ := methodKeywords_chars h.method
  rw [htext]
  apply strip_eq_self
  · intro c hc
    rw [List.head?_append] at hc
    rcases Option.or_eq_some_iff.mp hc with hhead | ⟨_, hhead⟩
    · exact h.path c (List.mem_of_mem_head? hhead)
    · obtain rfl : '/' = c := by simpa using hhead
      decide
  · intro c hc
    rw [List.getLast?_append_of_ne_nil _ (by simp), List.getLast?_cons_of_ne_nil (by simp [hne]),
      List.getLast?_append] at hc
    rcases Option.or_eq_some_iff.mp hc with hlast | ⟨_, hlast⟩
    · exact paramsText_last h.params c hlast
    · exact (hchars c (List.mem_of_getLast? hlast)).1

theorem parseCliCommand_of_word {command path method : String} {word rest : List Char}
    (hstrip : strip command.toList = word ++ ' ' :: rest) (hblank : ' ' ∉ word)
    (hword : splitMethod word = (path, method)) (hset : method ≠ "set") :
    parseCliCommand command = ⟨path, method, parseParams rest⟩ := by
  unfold parseCliCommand
  rw [hstrip, splitFirst_append hblank]
  simp only [hword, if_neg hset, Option.getD_some]

theorem parseCliCommand_of_path {command path method : String} {rest : List Char}
    (hstrip : strip command.toList = path.toList ++ '/' :: method.toList ++ ' ' :: rest)
    (hpath : ∀ c ∈ path.toList, isSpace c = false) (hmethod : method ∈ methodKeywords)
    (hset : method ≠ "set") : parseCliCommand command = ⟨path, method, parseParams rest⟩ := by
  obtain ⟨_, hchars⟩ := methodKeywords_chars hmethod
  refine parseCliCommand_of_word hstrip ?_ (splitMethod_append path hmethod) hset
  simp only [List.mem_append, List.mem_cons, not_or]
  refine ⟨?_, by decide, ?_⟩
  · intro hmem
    exact absurd (hpath ' ' hmem) (by decide)
  · intro hmem
    exact absurd (hchars ' ' hmem).1 (by decide)

/-- **The round trip**: a plain line with parameters is read back as its operation.  A `set` may
take its first word for an item, and has its own rule. -/
theorem parseCliCommand_text {op : Operation} (h : op.Plain) (hset : op.method ≠ "set")
    (hparams : op.params ≠ []) : parseCliCommand op.text = op := by
  obtain ⟨path, method, params⟩ := op
  obtain ⟨p, params, rfl⟩ := List.exists_cons_of_ne_nil hparams
  have hfind := findPairs_paramsText h.params le_rfl
  rw [toList_paramsText_cons] at hfind
  have hparse : parseParams (p.1.toList ++ '=' :: (p.2.toList ++ (paramsText params).toList)) =
      p :: params := by
    refine parseParams_of_findPairs ?_ h.keys
    rw [← hfind, List.length_cons, findPairs_blank]
  have hstrip : strip (Operation.text ⟨path, method, p :: params⟩).toList =
      path.toList ++ '/' :: method.toList ++
        ' ' :: (p.1.toList ++ '=' :: (p.2.toList ++ (paramsText params).toList)) := by
    rw [strip_text h]
    simp [Operation.text, paramsText]
  rw [parseCliCommand_of_path hstrip h.path h.method hset, hparse]

theorem isCliCommand_of_blank {command : String} (h : ' ' ∈ command.toList) :
    isCliCommand command = true := by
  simp [isCliCommand, h]

/-- An `add` whose line is plain is requested as it is written. -/
theorem executeCommand_add {op : Operation} (h : op.Plain) (hmethod : op.method = "add")
    (hparams : op.params ≠ []) (hitem : ∀ p ∈ op.params, p.1 ≠ "_item_identifier") :
    executeCommand op.text = .operation op := by
  have hparse : parseCliCommand op.text = op :=
    parseCliCommand_text h (by simp [hmethod]) hparams
  have hblank : ' ' ∈ op.text.toList := by
    obtain ⟨p, params, hp⟩ := List.exists_cons_of_ne_nil hparams
    simp [Operation.text, hp, paramsText]
  have hfilter : op.params.filter (fun p => p.1 != "_item_identifier") = op.params := by
    rw [List.filter_eq_self]
    intro p hp
    simpa using hitem p hp
  unfold executeCommand
  rw [if_pos (isCliCommand_of_blank hblank), hparse]
  unfold requestOf
  simp only [hmethod, hfilter]
  rw [← hmethod]

/-! ### Lines that are not plain -/

theorem method_parseCliCommand {command : String} {b c : Char} {word rest : List Char}
    (hcommand : command.toList = b :: word ++ ' ' :: c :: rest)
    (hword : ∀ d ∈ b :: word, isSpace d = false) (hc : isSpace c = false) :
    (parseCliCommand command).method = (splitMethod (b :: word)).2 := by
  have hsplit : command.toList = b :: (word ++ [' ']) ++ c :: rest := by simp [hcommand]
  obtain ⟨rest', hstrip⟩ := strip_append (hword b (by simp)) hc (word ++ [' ']) rest
  have hblank : ' ' ∉ b :: word := by
    intro hmem
    exact absurd (hword ' ' hmem) (by decide)
  have hline : strip command.toList = b :: word ++ ' ' :: c :: rest' := by
    rw [hsplit, hstrip]
    simp
  unfold parseCliCommand
  rw [hline, splitFirst_append hblank]

theorem isAdd_executeCommand {command : String} (h : (parseCliCommand command).method ≠ "add") :
    (executeCommand command).isAdd = false := by
  unfold executeCommand
  split
  · unfold requestOf
    dsimp only
    split
    · rfl
    · rfl
    · next hadd => exact absurd hadd h
    · split <;> rfl
    · split <;> rfl
    · unfold setDisabled
      split <;> rfl
    · unfold setDisabled
      split <;> rfl
    · rfl
    · rfl
  · rfl

/-- An object that is addressed with `[find …]`: the closing bracket goes into the value, and the
request names no item. -/
theorem parseCliCommand_find {path key value : String}
    (hpath : ∀ c ∈ path.toList, isSpace c = false) (hhead : path ≠ "") (hkey : IsKey key.toList)
    (hvalue : IsBare (value ++ "]").toList) :
    parseCliCommand (path ++ "/remove [find " ++ key ++ "=" ++ value ++ "]") =
      ⟨path, "remove", [(key, value ++ "]")]⟩ := by
  have htext : (path ++ "/remove [find " ++ key ++ "=" ++ value ++ "]").toList =
      path.toList ++ '/' :: "remove".toList ++
        ' ' :: ("[find".toList ++ ' ' :: (key.toList ++ '=' :: ((value ++ "]").toList ++ []))) := by
    simp
  have hstrip : strip (path ++ "/remove [find " ++ key ++ "=" ++ value ++ "]").toList =
      (path ++ "/remove [find " ++ key ++ "=" ++ value ++ "]").toList := by
    apply strip_eq_self
    · intro c hc
      obtain ⟨d, cs, hd⟩ := List.exists_cons_of_ne_nil (fun h => hhead (String.toList_eq_nil_iff.mp h))
      obtain rfl : d = c := by simpa [hd] using hc
      exact hpath d (by simp [hd])
    · intro c hc
      rw [String.toList_append] at hc
      obtain rfl : ']' = c := Option.some.inj (List.getLast?_concat.symm.trans hc)
      decide
  have hfind : findPairs
      ("[find".toList ++ ' ' :: (key.toList ++ '=' :: ((value ++ "]").toList ++ []))).length
      ("[find".toList ++ ' ' :: (key.toList ++ '=' :: ((value ++ "]").toList ++ []))) =
      [(key, value ++ "]")].map (fun p => (p.1.toList, p.2.toList)) := by
    have hlength :
        ("[find".toList ++ ' ' :: (key.toList ++ '=' :: ((value ++ "]").toList ++ []))).length =
          key.toList.length + (value ++ "]").toList.length + 1 + "[find".toList.length + 1 := by
      simp only [List.length_append, List.length_cons, List.length_nil]
      omega
    rw [hlength, findPairs_word (by simp), findPairs_append hkey hvalue (by simp)]
    cases key.toList.length + (value ++ "]").toList.length <;> rfl
  rw [parseCliCommand_of_path (hstrip.trans htext) hpath (by decide) (by decide),
    parseParams_of_findPairs hfind (by simp)]

theorem executeCommand_find {path key value : String}
    (hpath : ∀ c ∈ path.toList, isSpace c = false) (hhead : path ≠ "") (hkey : IsKey key.toList)
    (hitem : key ≠ "_item_identifier") (hvalue : IsBare (value ++ "]").toList) :
    executeCommand (path ++ "/remove [find " ++ key ++ "=" ++ value ++ "]") =
      .operation ⟨path, "remove", [(key, value ++ "]")]⟩ := by
  have hblank : ' ' ∈ (path ++ "/remove [find " ++ key ++ "=" ++ value ++ "]").toList := by simp
  unfold executeCommand
  rw [if_pos (isCliCommand_of_blank hblank), parseCliCommand_find hpath hhead hkey hvalue]
  simp [requestOf, hitem]

/-- A line that starts with `:do` is taken for a query of a resource of that name. -/
theorem executeCommand_do {command : String} {rest : List Char}
    (hcommand : command.toList = ":do".toList ++ ' ' :: rest) {c : Char}
    (hlast : rest.getLast? = some c) (hc : isSpace c = false) :
    ∃ params, executeCommand command = .operation ⟨":do", "print", params⟩ := by
  have hne : rest ≠ [] := by
    rintro rfl
    simp at hlast
  have hstrip : strip command.toList = ":do".toList ++ ' ' :: rest := by
    rw [hcommand]
    apply strip_eq_self
    · intro d hd
      obtain rfl : ':' = d := by simpa using hd
      decide
    · intro d hd
      rw [List.getLast?_append_of_ne_nil _ (by simp), List.getLast?_cons_of_ne_nil hne, hlast] at hd
      obtain rfl : c = d := Option.some.inj hd
      exact hc
  have hparse : parseCliCommand command = ⟨":do", "get", parseParams rest⟩ :=
    parseCliCommand_of_word hstrip (by decide) (by decide) (by decide)
  refine ⟨(parseParams rest).filter (fun p => p.1 != "_item_identifier"), ?_⟩
  unfold executeCommand
  rw [if_pos (isCliCommand_of_blank (by simp [hcommand])), hparse]
  rfl

end IspBilling
