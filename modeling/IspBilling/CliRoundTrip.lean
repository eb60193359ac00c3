import IspBilling.CliCommands

/-! # Command lines read back

The lines of `CliCommands` with values in quotation marks and with the item of a `set`.  A `CliLine`
is a command in its parts, and `CliLine.text` the line that it is written as: a value stands as it is,
or between quotation marks when it has blanks.

`readsBack_iff`: `_parse_cli_command` gives the parts back, except where a parameter is called
`_item_identifier`.  The item travels among the parameters under that key, and `execute_command` takes
it out again. -/

namespace IspBilling

open PythonText

/-! ### Lines with items and quoted values -/

/-- The key under which the parser returns the item. -/
def itemKey : String := "_item_identifier"

/-- A character that is no quotation mark. -/
def isUnquoted (c : Char) : Bool := c != '"' && c != '\''

/-- A value: not empty, and without quotation marks. -/
def IsCliValue (value : List Char) : Prop := value ≠ [] ∧ ∀ c ∈ value, isUnquoted c = true

/-- A command in its parts. -/
structure CliLine where
  path : String
  method : String
  /-- The object that a `set` is about. -/
  item : Option String
  params : List (String × String)
  path_blank : ∀ c ∈ path.toList, isSpace c = false
  method_mem : method ∈ cliMethods
  item_set : item.isSome → method = "set"
  item_word : ∀ word ∈ item, word ≠ "" ∧ ∀ c ∈ word.toList, isSpace c = false ∧ c ≠ '='
  keys : (params.map Prod.fst).Nodup
  key_word : ∀ p ∈ params, IsKey p.1.toList ∧ ∀ c ∈ p.1.toList, isUnquoted c = true
  value : ∀ p ∈ params, IsCliValue p.2.toList

/-- A value as it is written. -/
def valueText (value : List Char) : List Char :=
  if noSpace value then value else '"' :: (value ++ ['"'])

/-- The parameters as they are written, each with a blank in front. -/
def cliParams : List (String × String) → List Char
  | [] => []
  | p :: params => ' ' :: (p.1.toList ++ '=' :: (valueText p.2.toList ++ cliParams params))

/-- The item as it is written, with a blank in front. -/
def itemText (item : Option String) : List Char :=
  match item with
  | some word => ' ' :: word.toList
  | none => []

namespace CliLine

variable (line : CliLine)

def text : String :=
  String.ofList (line.path.toList ++ '/' :: line.method.toList ++ itemText line.item ++
    cliParams line.params)

/-- What the parser is to return for the line. -/
def parts : Operation :=
  ⟨line.path, line.method, line.params ++ (line.item.map (fun word => (itemKey, word))).toList⟩

end CliLine

/-! ### Values -/

theorem matchQuoted_append {value rest : List Char} (hne : value ≠ []) (hvalue : '"' ∉ value) :
    matchQuoted '"' (value ++ '"' :: rest) = some (value, rest) := by
  have hrun := bne_of_notMem hvalue
  have hstop : ∀ c ∈ ('"' :: rest).head?, (c != '"') = false := by simp
  unfold matchQuoted
  rw [takeWhile_run hrun hstop, dropWhile_run hrun hstop]
  simp only [if_neg hne]

theorem matchValue_valueText {value rest : List Char} (h : IsCliValue value)
    (hrest : ∀ c ∈ rest.head?, isSpace c = true) :
    matchValue (valueText value ++ rest) = some (value, rest) := by
  obtain ⟨hne, hquote⟩ := h
  have hmark : ∀ c ∈ value, c ≠ '"' ∧ c ≠ '\'' := fun c hc => by
    simpa [isUnquoted] using hquote c hc
  unfold valueText
  split
  · next hblank =>
      refine matchValue_append ⟨hne, ?_, ?_⟩ hrest
      · exact fun c hc => isSpace_of_noSpace hblank c hc
      · exact fun c hc => hmark c (List.mem_of_mem_head? hc)
  · have hclosing : '"' ∉ value := fun hmem => (hmark _ hmem).1 rfl
    have hquoted : matchQuoted '"' (value ++ '"' :: rest) = some (value, rest) :=
      matchQuoted_append hne hclosing
    rw [List.cons_append, List.append_assoc, List.singleton_append]
    show (matchQuoted '"' (value ++ '"' :: rest)).or _ = some (value, rest)
    rw [hquoted]
    rfl

theorem valueText_last {value : List Char} (hne : value ≠ []) :
    valueText value ≠ [] ∧ ∀ c ∈ (valueText value).getLast?, isSpace c = false := by
  unfold valueText
  split
  · next hblank =>
      exact ⟨hne, fun c hc => isSpace_of_noSpace hblank c (List.mem_of_getLast? hc)⟩
  · refine ⟨by simp, ?_⟩
    intro c hc
    rw [← List.cons_append, List.getLast?_concat] at hc
    obtain rfl : '"' = c := Option.some.inj hc
    decide

/-! ### The parameters -/

/-- Parameters that a line can carry, with their values in quotation marks. -/
def CliParams (params : List (String × String)) : Prop :=
  ∀ p ∈ params, IsKey p.1.toList ∧ IsCliValue p.2.toList

theorem CliParams.tail {p : String × String} {params : List (String × String)}
    (h : CliParams (p :: params)) : CliParams params :=
  fun q hq => h q (List.mem_cons_of_mem p hq)

theorem cliParams_head {params : List (String × String)} {c : Char}
    (hc : c ∈ (cliParams params).head?) : c = ' ' := by
  cases params with
  | nil => simp [cliParams] at hc
  | cons p params =>
      obtain rfl : ' ' = c := by simpa [cliParams] using hc
      rfl

theorem cliParams_last {params : List (String × String)} (h : CliParams params) :
    ∀ c ∈ (cliParams params).getLast?, isSpace c = false := by
  induction params with
  | nil =>
      intro c hc
      simp [cliParams] at hc
  | cons p params ih =>
      intro c hc
      obtain ⟨hne, hvalue⟩ := valueText_last (h p (by simp)).2.1
      have hsplit : cliParams (p :: params) =
          (' ' :: (p.1.toList ++ ['='])) ++ (valueText p.2.toList ++ cliParams params) := by
        simp [cliParams]
      rw [hsplit, List.getLast?_append_of_ne_nil _ (by simp [hne]), List.getLast?_append] at hc
      rcases Option.or_eq_some_iff.mp hc with hlast | ⟨_, hlast⟩
      · exact ih h.tail c hlast
      · exact hvalue c hlast

/-- The pairs of the text are the parameters: one step of the scanner passes the blank, and one takes
the pair. -/
theorem findPairs_cliParams {params : List (String × String)} (h : CliParams params) {n : ℕ}
    (hn : (cliParams params).length ≤ n) :
    findPairs n (cliParams params) = params.map (fun p => (p.1.toList, p.2.toList)) := by
  induction params generalizing n with
  | nil => cases n <;> rfl
  | cons p params ih =>
      obtain ⟨hkey, hvalue⟩ := h p (by simp)
      have hlength : (cliParams (p :: params)).length =
          1 + (p.1.toList.length +
            (1 + ((valueText p.2.toList).length + (cliParams params).length))) := by
        simp only [cliParams, List.length_cons, List.length_append]
        omega
      have hpos : 0 < p.1.toList.length := List.length_pos_of_ne_nil hkey.1
      obtain ⟨m, rfl⟩ : ∃ m, n = m + 1 + 1 := ⟨n - 2, by omega⟩
      have hrest : ∀ c ∈ (cliParams params).head?, isSpace c = true := by
        intro c hc
        rw [cliParams_head hc]
        decide
      have hpair := findPairs_of_value hkey (matchValue_valueText hvalue hrest) m
      unfold cliParams
      rw [findPairs_blank, hpair, ih h.tail (by omega)]
      rfl

theorem parseParams_cliParams {params : List (String × String)} (h : CliParams params)
    (hkeys : (params.map Prod.fst).Nodup) : parseParams (cliParams params).tail = params := by
  refine parseParams_of_findPairs ?_ hkeys
  have hfind := findPairs_cliParams h le_rfl
  cases params with
  | nil => rfl
  | cons p params =>
      unfold cliParams at hfind ⊢
      rw [List.length_cons, findPairs_blank] at hfind
      exact hfind

/-! ### The item -/

/-- A text that starts with a pair has no item: its first word has an `=`. -/
theorem splitItem_of_pair {key : List Char} (hkey : IsKey key) (rest : List Char) :
    splitItem (key ++ '=' :: rest) = (none, key ++ '=' :: rest) := by
  have hword : ∀ {cs : List Char}, ' ' ∉ cs → ' ' ∉ key ++ '=' :: cs := by
    intro cs hcs hmem
    rcases List.mem_append.mp hmem with hkeyMem | hrestMem
    · exact absurd (hkey.2 ' ' hkeyMem).1 (by decide)
    · exact hcs (by simpa using hrestMem)
  obtain ⟨c, key, rfl⟩ := List.exists_cons_of_ne_nil hkey.1
  by_cases hmem : ' ' ∈ rest
  · obtain ⟨front, back, rfl, hfront⟩ := List.eq_append_cons_of_mem hmem
    have hsplit : splitFirst ' ' (c :: key ++ '=' :: (front ++ ' ' :: back)) =
        (c :: key ++ '=' :: front, some back) := by
      simpa using splitFirst_append (hword hfront) back
    unfold splitItem
    rw [hsplit]
    simp
  · unfold splitItem
    rw [splitFirst_of_notMem (hword hmem)]
    simp

theorem splitItem_params {params : List (String × String)} (h : CliParams params) :
    (splitItem (cliParams params).tail).1.getD [] = [] ∧
      (splitItem (cliParams params).tail).2 = (cliParams params).tail := by
  cases params with
  | nil => exact ⟨rfl, rfl⟩
  | cons p params =>
      have hsplit := splitItem_of_pair (h p (by simp)).1 (valueText p.2.toList ++ cliParams params)
      unfold cliParams
      rw [List.tail_cons, hsplit]
      exact ⟨rfl, rfl⟩

theorem splitItem_word {word : List Char} (hne : word ≠ [])
    (hword : ∀ c ∈ word, isSpace c = false ∧ c ≠ '=') (params : List (String × String)) :
    splitItem (word ++ cliParams params) = (some word, (cliParams params).tail) := by
  have hblank : ' ' ∉ word := fun hmem => absurd (hword ' ' hmem).1 (by decide)
  have hequal : '=' ∉ word := fun hmem => (hword '=' hmem).2 rfl
  obtain ⟨c, word, rfl⟩ := List.exists_cons_of_ne_nil hne
  unfold splitItem
  cases params with
  | nil =>
      unfold cliParams
      rw [List.append_nil, splitFirst_of_notMem hblank]
      simp only [if_neg hequal]
      rfl
  | cons p params =>
      unfold cliParams
      rw [splitFirst_append hblank]
      simp only [if_neg hequal]
      rfl

/-! ### The line -/

namespace CliLine

theorem readable (line : CliLine) : CliParams line.params :=
  fun p hp => ⟨(line.key_word p hp).1, line.value p hp⟩

/-- What follows the first word. -/
def arguments (line : CliLine) : List Char := itemText line.item ++ cliParams line.params

theorem arguments_head (line : CliLine) {c : Char} (hc : c ∈ line.arguments.head?) : c = ' ' := by
  unfold arguments at hc
  rw [List.head?_append] at hc
  rcases Option.or_eq_some_iff.mp hc with hitem | ⟨_, hparams⟩
  · cases hword : line.item with
    | none => simp [hword, itemText] at hitem
    | some word =>
        obtain rfl : ' ' = c := by simpa [hword, itemText] using hitem
        rfl
  · exact cliParams_head hparams

theorem arguments_last (line : CliLine) : ∀ c ∈ line.arguments.getLast?, isSpace c = false := by
  intro c hc
  unfold arguments at hc
  rw [List.getLast?_append] at hc
  rcases Option.or_eq_some_iff.mp hc with hparams | ⟨_, hitem⟩
  · exact cliParams_last line.readable c hparams
  · cases hword : line.item with
    | none => simp [hword, itemText] at hitem
    | some word =>
        obtain ⟨hne, hchars⟩ := line.item_word word hword
        have hlast : c ∈ word.toList.getLast? := by
          rw [hword, itemText, List.getLast?_cons_of_ne_nil (by simpa using hne)] at hitem
          exact hitem
        exact (hchars c (List.mem_of_getLast? hlast)).1

theorem method_keyword (line : CliLine) : line.method ∈ methodKeywords := by
  have hall : ∀ m ∈ cliMethods, m ∈ methodKeywords := by decide
  exact hall _ line.method_mem

theorem text_eq (line : CliLine) :
    line.text.toList = line.path.toList ++ '/' :: line.method.toList ++ line.arguments := by
  unfold text arguments
  rw [String.toList_ofList, List.append_assoc]

theorem strip_text (line : CliLine) : strip line.text.toList = line.text.toList := by
  obtain ⟨hne, hchars⟩ := methodKeywords_chars line.method_keyword
  rw [text_eq]
  apply strip_eq_self
  · intro c hc
    rw [List.append_assoc, List.head?_append] at hc
    rcases Option.or_eq_some_iff.mp hc with hpath | ⟨_, hslash⟩
    · exact line.path_blank c (List.mem_of_mem_head? hpath)
    · obtain rfl : '/' = c := by simpa using hslash
      decide
  · intro c hc
    rw [List.getLast?_append] at hc
    rcases Option.or_eq_some_iff.mp hc with harguments | ⟨_, hmethod⟩
    · exact line.arguments_last c harguments
    · rw [List.getLast?_append_of_ne_nil _ (by simp), List.getLast?_cons_of_ne_nil (by simp [hne])]
        at hmethod
      exact (hchars c (List.mem_of_getLast? hmethod)).1

theorem splitFirst_text (line : CliLine) :
    (splitFirst ' ' (strip line.text.toList)).1 = line.path.toList ++ '/' :: line.method.toList ∧
      (splitFirst ' ' (strip line.text.toList)).2.getD [] = line.arguments.tail := by
  obtain ⟨_, hchars⟩ := methodKeywords_chars line.method_keyword
  have hblank : ' ' ∉ line.path.toList ++ '/' :: line.method.toList := by
    intro hmem
    rcases List.mem_append.mp hmem with hpath | hmethod
    · exact absurd (line.path_blank ' ' hpath) (by decide)
    · rcases List.mem_cons.mp hmethod with hslash | hmethod
      · exact absurd hslash (by decide)
      · exact absurd (hchars ' ' hmethod).1 (by decide)
  rw [strip_text, text_eq]
  cases harguments : line.arguments with
  | nil =>
      rw [List.append_nil, splitFirst_of_notMem hblank]
      exact ⟨rfl, rfl⟩
  | cons c rest =>
      obtain rfl : c = ' ' := line.arguments_head (by simp [harguments])
      rw [splitFirst_append hblank]
      exact ⟨rfl, rfl⟩

theorem splitItem_arguments (line : CliLine) :
    let split := if line.method = "set" then splitItem line.arguments.tail
      else (none, line.arguments.tail)
    split.1.getD [] = (line.item.map String.toList).getD [] ∧
      split.2 = (cliParams line.params).tail := by
  dsimp only
  unfold arguments
  cases hitem : line.item with
  | none =>
      show ((if line.method = "set" then _ else _) : Option (List Char) × List Char).1.getD [] = []
        ∧ _
      split
      · exact splitItem_params line.readable
      · exact ⟨rfl, rfl⟩
  | some word =>
      obtain ⟨hne, hchars⟩ := line.item_word word hitem
      have hset : line.method = "set" := line.item_set (by simp [hitem])
      have hsplit := splitItem_word (by simpa using hne) hchars line.params
      rw [if_pos hset]
      show (splitItem (word.toList ++ cliParams line.params)).1.getD [] = word.toList ∧ _
      rw [show (itemText (some word) ++ cliParams line.params).tail =
        word.toList ++ cliParams line.params from rfl, hsplit]
      exact ⟨rfl, rfl⟩

end CliLine

/-- What becomes of the item: none and an empty one are the same. -/
def withItem (params : List (String × String)) (word : List Char) : List (String × String) :=
  if word = [] then params else assign params itemKey (String.ofList word)

theorem parseCliCommand_of_split {command path method : String} {word arguments : List Char}
    {split : Option (List Char) × List Char}
    (hword : (splitFirst ' ' (strip command.toList)).1 = word)
    (hrest : (splitFirst ' ' (strip command.toList)).2.getD [] = arguments)
    (hmethod : splitMethod word = (path, method))
    (hitem : (if method = "set" then splitItem arguments else (none, arguments)) = split) :
    parseCliCommand command =
      ⟨path, method, withItem (parseParams split.2) (split.1.getD [])⟩ := by
  unfold parseCliCommand withItem itemKey
  simp only [hword, hrest, hmethod, hitem]
  congr 1
  cases split.1 with
  | none => rfl
  | some cs => cases cs <;> rfl

theorem withItem_item (line : CliLine) (h : itemKey ∉ line.params.map Prod.fst) :
    withItem line.params ((line.item.map String.toList).getD []) =
      line.params ++ (line.item.map (fun word => (itemKey, word))).toList := by
  unfold withItem
  cases hline : line.item with
  | none => simp
  | some word =>
      obtain ⟨hne, _⟩ := line.item_word word hline
      have hword : word.toList ≠ [] := fun hnil => hne (String.toList_eq_nil_iff.mp hnil)
      rw [Option.map_some, Option.getD_some, if_neg hword, String.ofList_toList]
      exact assign_of_notMem h word

/-- **The round trip**, with items and with quoted values: the parser returns the parts of the line,
if no parameter has the name of the item's key. -/
theorem parseCliCommand_line (line : CliLine) (h : itemKey ∉ line.params.map Prod.fst) :
    parseCliCommand line.text = line.parts := by
  obtain ⟨hword, hrest⟩ := line.splitFirst_text
  have hmethod := splitMethod_append line.path line.method_keyword
  have hitem := line.splitItem_arguments
  have hparse := parseParams_cliParams line.readable line.keys
  dsimp only at hitem
  rw [parseCliCommand_of_split hword hrest hmethod rfl, hitem.1, hitem.2, hparse,
    withItem_item line h]
  rfl

/-! ### The item's key -/

/-- `params.pop('_item_identifier', None)`, which `execute_command` does: the item, and the
parameters. -/
def popItem (params : List (String × String)) : Option String × List (String × String) :=
  ((params.find? (fun p => p.1 == itemKey)).map Prod.snd, params.filter (fun p => p.1 != itemKey))

/-- The parser returns the path, the method, the parameters and the item of the line. -/
def ReadsBack (line : CliLine) : Prop :=
  (parseCliCommand line.text).path = line.path ∧ (parseCliCommand line.text).method = line.method ∧
    popItem (parseCliCommand line.text).params = (line.item, line.params)

theorem popItem_parts (line : CliLine) (h : itemKey ∉ line.params.map Prod.fst) :
    popItem line.parts.params = (line.item, line.params) := by
  have hother : ∀ p ∈ line.params, p.1 ≠ itemKey := by
    rintro p hp hkey
    exact h (hkey ▸ List.mem_map_of_mem hp)
  have hfilter : line.params.filter (fun p => p.1 != itemKey) = line.params := by
    rw [List.filter_eq_self]
    intro p hp
    simpa using hother p hp
  have hfind : line.params.find? (fun p => p.1 == itemKey) = none := by
    rw [List.find?_eq_none]
    intro p hp
    simpa using hother p hp
  unfold popItem CliLine.parts
  rw [List.find?_append, List.filter_append, hfind, hfilter]
  cases line.item with
  | none => simp
  | some word => simp

/-- The parser gives a line back exactly if no parameter of it takes the item's key. -/
theorem readsBack_iff (line : CliLine) : ReadsBack line ↔ itemKey ∉ line.params.map Prod.fst := by
  constructor
  · rintro ⟨_, _, hpop⟩ hmem
    -- What is left after the `pop` has no entry of that key.
    obtain ⟨p, hp, hkey⟩ := List.mem_map.mp hmem
    unfold popItem at hpop
    rw [← (Prod.mk.inj hpop).2, List.mem_filter] at hp
    simp [hkey] at hp
  · intro h
    have hparse := parseCliCommand_line line h
    unfold ReadsBack
    rw [hparse]
    exact ⟨rfl, rfl, popItem_parts line h⟩

/-- `/ip/service/set telnet _item_identifier=api`. -/
def reservedLine : CliLine where
  path := "/ip/service"
  method := "set"
  item := some "telnet"
  params := [(itemKey, "api")]
  path_blank := isSpace_of_noSpace (by simp [noSpace, isSpace])
  method_mem := by simp [cliMethods]
  item_set := fun _ => rfl
  item_word := by
    rintro word hword
    obtain rfl : "telnet" = word := Option.some.inj hword
    exact ⟨by simp, by simp [isSpace]⟩
  keys := by simp
  key_word := by
    rintro p hp
    obtain rfl := List.mem_singleton.mp hp
    exact ⟨isKey_of_all (by simp [itemKey, isSpace]), by simp [itemKey, isUnquoted]⟩
  value := by
    rintro p hp
    obtain rfl := List.mem_singleton.mp hp
    exact ⟨by simp, by simp [isUnquoted]⟩

/-- The parameter is overwritten with the item. -/
theorem reserved_key_lost :
    parseCliCommand reservedLine.text = ⟨"/ip/service", "set", [(itemKey, "telnet")]⟩ ∧
      ¬ ReadsBack reservedLine := by
  refine ⟨by decide +kernel, ?_⟩
  rintro ⟨_, _, hpop⟩
  have hparams := congrArg Prod.snd hpop
  revert hparams
  decide +kernel

end IspBilling
