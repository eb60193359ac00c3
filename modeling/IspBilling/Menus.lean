import Mathlib.Data.List.Basic
import Mathlib.Data.List.Infix
import Mathlib.Logic.Function.Basic

/-! # Menus of objects

The configuration of a network device as menus of objects, and the commands that change it.  A menu
has a path and a list of objects; an object is the values of its attributes.  A command works on one
menu: it adds an object, sets attributes, or removes the objects that a selector finds.

What the device itself decides is a `Device`: by which attributes the objects of a menu are told
apart (an object that agrees with another one in these is refused), the addresses of hosts and the
contents of files it fetches.

`exec_at`: what a list of commands makes of a menu is up to the commands of that menu.  With it,
`foldl_resets` and `foldl_settled` are two reasons for which running a list twice is the same as
running it once. -/

namespace Menus

/-! ### Commands -/

/-- The attributes of an object. -/
abbrev Object := String → Option String

/-- The objects of every menu, by its path. -/
abbrev Store := String → List Object

/-- A value of an argument. -/
inductive Value where
  | plain (text : String)
  | quoted (text : String)
  /-- The address of a host. -/
  | resolved (host : String)
deriving DecidableEq, Repr

/-- The objects that a command is about. -/
inductive Selector where
  | all
  | equal (key value : String)
  | quoted (key value : String)
  /-- The value contains a text. -/
  | like (key part : String)
deriving DecidableEq, Repr

/-- What a command does to the objects of its menu. -/
inductive Method where
  | add (arguments : List (String × Value))
  /-- Attributes of a menu that has one object. -/
  | set (arguments : List (String × Value))
  | setItem (name : String) (arguments : List (String × Value))
  | setFound (selector : Selector) (arguments : List (String × Value))
  /-- Signs certificates. -/
  | sign (selector : Selector) (arguments : List (String × Value))
  | remove (selector : Selector)
  /-- Downloads a file. -/
  | fetch (url file : String)
  | print
  /-- Errors are dropped. -/
  | guarded (body : Method)
  | both (first second : Method)
deriving DecidableEq, Repr

structure Command where
  path : String
  method : Method
deriving DecidableEq, Repr

/-! ### Texts -/

def Value.text : Value → String
  | plain text => text
  | quoted text => "\"" ++ text ++ "\""
  | resolved host => "[:resolve \"" ++ host ++ "\"]"

def Selector.text : Selector → String
  | all => "[find]"
  | equal key value => "[find " ++ key ++ "=" ++ value ++ "]"
  | quoted key value => "[find " ++ key ++ "=\"" ++ value ++ "\"]"
  | like key part => "[find " ++ key ++ "~\"" ++ part ++ "\"]"

def argumentsText : List (String × Value) → String
  | [] => ""
  | (key, value) :: rest => " " ++ key ++ "=" ++ value.text ++ argumentsText rest

def Method.text (path : String) : Method → String
  | add arguments => path ++ "/add" ++ argumentsText arguments
  | set arguments => path ++ "/set" ++ argumentsText arguments
  | setItem name arguments => path ++ "/set " ++ name ++ argumentsText arguments
  | setFound selector arguments => path ++ "/set " ++ selector.text ++ argumentsText arguments
  | sign selector arguments => path ++ "/sign " ++ selector.text ++ argumentsText arguments
  | remove selector => path ++ "/remove " ++ selector.text
  | fetch url file =>
      "/tool/fetch url=\"" ++ url ++ "\" dst-path=" ++ file ++ " check-certificate=no"
  | print => path ++ "/print"
  | guarded body => ":do \x7b " ++ body.text path ++ " \x7d on-error=\x7b\x7d"
  | both first second => first.text path ++ "; " ++ second.text path

def Command.text (c : Command) : String := c.method.text c.path

section Texts

variable (path name url file : String) (arguments : List (String × Value)) (s : Selector)
  (m n : Method)

@[simp] theorem Method.text_add : (add arguments).text path = path ++ "/add" ++ argumentsText arguments :=
  rfl

@[simp] theorem Method.text_set : (set arguments).text path = path ++ "/set" ++ argumentsText arguments :=
  rfl

@[simp] theorem Method.text_setItem : (setItem name arguments).text path =
    path ++ "/set " ++ name ++ argumentsText arguments := rfl

@[simp] theorem Method.text_setFound : (setFound s arguments).text path =
    path ++ "/set " ++ s.text ++ argumentsText arguments := rfl

@[simp] theorem Method.text_sign : (sign s arguments).text path =
    path ++ "/sign " ++ s.text ++ argumentsText arguments := rfl

@[simp] theorem Method.text_remove : (remove s).text path = path ++ "/remove " ++ s.text := rfl

@[simp] theorem Method.text_fetch : (fetch url file).text path =
    "/tool/fetch url=\"" ++ url ++ "\" dst-path=" ++ file ++ " check-certificate=no" := rfl

@[simp] theorem Method.text_print : print.text path = path ++ "/print" := rfl

@[simp] theorem Method.text_guarded : (guarded m).text path =
    ":do \x7b " ++ m.text path ++ " \x7d on-error=\x7b\x7d" := rfl

@[simp] theorem Method.text_both : (both m n).text path = m.text path ++ "; " ++ n.text path := rfl

@[simp] theorem Command.text_mk : (Command.mk path m).text = m.text path := rfl

@[simp] theorem argumentsText_nil : argumentsText [] = "" := rfl

@[simp] theorem argumentsText_cons (key : String) (value : Value) :
    argumentsText ((key, value) :: arguments) =
      " " ++ key ++ "=" ++ value.text ++ argumentsText arguments := rfl

@[simp] theorem Value.text_plain : (plain name).text = name := rfl

@[simp] theorem Value.text_quoted : (quoted name).text = "\"" ++ name ++ "\"" := rfl

@[simp] theorem Value.text_resolved : (resolved name).text = "[:resolve \"" ++ name ++ "\"]" := rfl

@[simp] theorem Selector.text_all : all.text = "[find]" := rfl

@[simp] theorem Selector.text_equal (key value : String) :
    (equal key value).text = "[find " ++ key ++ "=" ++ value ++ "]" := rfl

@[simp] theorem Selector.text_quoted (key value : String) :
    (quoted key value).text = "[find " ++ key ++ "=\"" ++ value ++ "\"]" := rfl

@[simp] theorem Selector.text_like (key part : String) :
    (like key part).text = "[find " ++ key ++ "~\"" ++ part ++ "\"]" := rfl

end Texts

/-! ### What the commands do -/

/-- What a device decides by itself. -/
structure Device where
  /-- The attributes by which the objects of a menu are told apart. -/
  identity : String → List String
  resolve : String → Option String
  contents : String → Option String

/-- An object with the given attributes. -/
def Object.of (attributes : List (String × String)) : Object := fun key => attributes.lookup key

/-- The attributes are set. -/
def Object.setAll (o : Object) (attributes : List (String × String)) : Object :=
  fun key => (attributes.lookup key).or (o key)

def Selector.Matches (o : Object) : Selector → Bool
  | all => true
  | equal key value => decide (o key = some value)
  | quoted key value => decide (o key = some value)
  | like key part => (o key).any (fun value => decide (part.toList <:+: value.toList))

/-- An object of the menu agrees with this one in what tells its objects apart. -/
def clashes (keys : List String) (o : Object) (os : List Object) : Bool :=
  !keys.isEmpty && os.any (fun x => keys.all (fun key => decide (x key = o key)))

variable (device : Device)

def Value.eval : Value → Option String
  | plain text => some text
  | quoted text => some text
  | resolved host => device.resolve host

def evalArguments (arguments : List (String × Value)) : Option (List (String × String)) :=
  arguments.mapM (fun a => (a.2.eval device).map (fun value => (a.1, value)))

/-- The objects of a menu after a command, `none` when it fails. -/
def Method.step (path : String) : Method → List Object → Option (List Object)
  | add arguments, os =>
      (evalArguments device arguments).bind fun attributes =>
        if clashes (device.identity path) (Object.of attributes) os then none
        else some (os ++ [Object.of attributes])
  | set arguments, os =>
      (evalArguments device arguments).map fun attributes =>
        [(os.head?.getD (Object.of [])).setAll attributes]
  | setItem name arguments, os =>
      (evalArguments device arguments).map fun attributes =>
        os.map (fun o => if o "name" = some name then o.setAll attributes else o)
  | setFound selector arguments, os =>
      (evalArguments device arguments).map fun attributes =>
        os.map (fun o => if selector.Matches o then o.setAll attributes else o)
  | sign selector arguments, os =>
      (evalArguments device arguments).map fun attributes =>
        os.map (fun o =>
          if selector.Matches o then o.setAll (attributes ++ [("signed", "yes")]) else o)
  | remove selector, os => some (os.filter (fun o => !selector.Matches o))
  | fetch url file, os =>
      (device.contents url).map fun contents =>
        os.filter (fun o => decide (o "name" ≠ some file)) ++
          [Object.of [("name", file), ("contents", contents)]]
  | print, os => some os
  | guarded body, os => some ((body.step path os).getD os)
  | both first second, os => (first.step path os).bind (second.step path)

/-- The objects after a command: one that fails leaves them as they are. -/
def Method.apply (path : String) (m : Method) (os : List Object) : List Object :=
  (m.step device path os).getD os

def Command.apply (c : Command) (store : Store) : Store :=
  Function.update store c.path (c.method.apply device c.path (store c.path))

def exec (commands : List Command) (store : Store) : Store :=
  commands.foldl (fun store c => c.apply device store) store

def methodsAt (path : String) (commands : List Command) : List Method :=
  (commands.filter (fun c => decide (c.path = path))).map Command.method

/-- The objects of a menu after a list of its commands. -/
def execMenu (path : String) (methods : List Method) (os : List Object) : List Object :=
  methods.foldl (fun os m => m.apply device path os) os

variable {device}

theorem execMenu_append (path : String) (ms ns : List Method) (os : List Object) :
    execMenu device path (ms ++ ns) os = execMenu device path ns (execMenu device path ms os) :=
  List.foldl_append

theorem methodsAt_append (path : String) (cs ds : List Command) :
    methodsAt path (cs ++ ds) = methodsAt path cs ++ methodsAt path ds := by
  simp only [methodsAt, List.filter_append, List.map_append]

/-- A menu is changed by its own commands only. -/
theorem exec_at (commands : List Command) (store : Store) (path : String) :
    exec device commands store path =
      execMenu device path (methodsAt path commands) (store path) := by
  induction commands generalizing store with
  | nil => rfl
  | cons c commands ih =>
      show exec device commands (c.apply device store) path = _
      rw [ih]
      by_cases hpath : c.path = path
      · subst hpath
        have hhere : c.apply device store c.path =
            c.method.apply device c.path (store c.path) := Function.update_self ..
        rw [hhere]
        simp [methodsAt, execMenu]
      · have hthere : c.apply device store path = store path :=
          Function.update_of_ne (Ne.symm hpath) ..
        rw [hthere]
        simp [methodsAt, hpath]

theorem exec_append (cs ds : List Command) (store : Store) :
    exec device (cs ++ ds) store = exec device ds (exec device cs store) :=
  List.foldl_append

/-- Running a list twice is the same as running it once when this holds of every menu. -/
theorem exec_twice {commands : List Command} {store : Store}
    (h : ∀ path, execMenu device path (methodsAt path commands)
        (execMenu device path (methodsAt path commands) (store path)) =
      execMenu device path (methodsAt path commands) (store path)) :
    exec device commands (exec device commands store) = exec device commands store := by
  funext path
  rw [exec_at, exec_at]
  exact h path

/-! ### Running a list twice -/

/-- The objects that none of the selectors finds. -/
def unselected (selectors : List Selector) (os : List Object) : List Object :=
  os.filter (fun o => !selectors.any (fun s => s.Matches o))

theorem unselected_cons (s : Selector) (selectors : List Selector) (os : List Object) :
    unselected (s :: selectors) os = unselected selectors (os.filter (fun o => !s.Matches o)) := by
  simp only [unselected, List.filter_filter, List.any_cons, Bool.not_or, Bool.and_comm]

theorem execMenu_removals (path : String) (selectors : List Selector) (os : List Object) :
    execMenu device path (selectors.map (fun s => .guarded (.remove s))) os =
      unselected selectors os := by
  induction selectors generalizing os with
  | nil => simp [execMenu, unselected]
  | cons s selectors ih =>
      show execMenu device path _ (os.filter (fun o => !s.Matches o)) = _
      rw [ih, unselected_cons]

/-- The command keeps the unselected objects, when these are `kept`. -/
def Keeps (device : Device) (path : String) (selectors : List Selector) (kept : List Object)
    (m : Method) : Prop :=
  ∀ os, unselected selectors os = kept → unselected selectors (m.apply device path os) = kept

theorem unselected_execMenu {path : String} {selectors : List Selector} {kept : List Object}
    {methods : List Method} (h : ∀ m ∈ methods, Keeps device path selectors kept m)
    {os : List Object} (hos : unselected selectors os = kept) :
    unselected selectors (execMenu device path methods os) = kept := by
  induction methods generalizing os with
  | nil => exact hos
  | cons m methods ih =>
      rw [List.forall_mem_cons] at h
      exact ih h.2 (h.1 os hos)

/-- **A list that starts from scratch**: removals, and then commands that touch nothing but what the
removals find. -/
theorem execMenu_resets {path : String} {selectors : List Selector} {methods : List Method}
    {os : List Object}
    (h : ∀ m ∈ methods, Keeps device path selectors (unselected selectors os) m) :
    execMenu device path (selectors.map (fun s => .guarded (.remove s)) ++ methods)
        (execMenu device path (selectors.map (fun s => .guarded (.remove s)) ++ methods) os) =
      execMenu device path (selectors.map (fun s => .guarded (.remove s)) ++ methods) os := by
  have htwice : unselected selectors (unselected selectors os) = unselected selectors os := by
    simp [unselected, List.filter_filter]
  rw [execMenu_append, execMenu_append, execMenu_removals, execMenu_removals,
    unselected_execMenu h htwice]

/-- An object is selected by one of the selectors. -/
def Selected (selectors : List Selector) (o : Object) : Bool := selectors.any (fun s => s.Matches o)

theorem mem_unselected {selectors : List Selector} {os : List Object} {o : Object} :
    o ∈ unselected selectors os ↔ o ∈ os ∧ Selected selectors o = false := by
  simp [unselected, Selected]

theorem unselected_append (selectors : List Selector) (os ps : List Object) :
    unselected selectors (os ++ ps) = unselected selectors os ++ unselected selectors ps :=
  List.filter_append ..

section Keeps

variable {path : String} {selectors : List Selector} {kept : List Object}

theorem Keeps.guarded {m : Method} (h : Keeps device path selectors kept m) :
    Keeps device path selectors kept (.guarded m) := h

theorem keeps_add {arguments : List (String × Value)}
    (h : ∀ attributes, evalArguments device arguments = some attributes →
      Selected selectors (Object.of attributes) = true) :
    Keeps device path selectors kept (.add arguments) := by
  intro os hos
  unfold Method.apply Method.step
  cases hattributes : evalArguments device arguments with
  | none => exact hos
  | some attributes =>
      rw [Option.bind_some]
      split
      · exact hos
      · have hnew : unselected selectors [Object.of attributes] = [] := by
          simpa [unselected, Selected] using h attributes hattributes
        rw [Option.getD_some, unselected_append, hnew, List.append_nil, hos]

theorem unselected_map {f : Object → Object} {os : List Object} (hos : unselected selectors os = kept)
    (hselected : ∀ o, Selected selectors o = true → Selected selectors (f o) = true)
    (hkept : ∀ o ∈ kept, f o = o) : unselected selectors (os.map f) = kept := by
  have hstep : ∀ o ∈ os, Selected selectors (f o) = Selected selectors o := by
    intro o ho
    cases ho' : Selected selectors o with
    | true => exact hselected o ho'
    | false =>
        rw [hkept o, ho']
        rw [← hos]
        exact mem_unselected.mpr ⟨ho, ho'⟩
  have hfilter : unselected selectors (os.map f) = (unselected selectors os).map f := by
    unfold unselected
    rw [List.filter_map]
    congr 1
    apply List.filter_congr
    intro o ho
    exact congrArg Bool.not (hstep o ho)
  rw [hfilter, hos]
  exact (List.map_congr_left hkept).trans (List.map_id _)

theorem selected_setAll {o : Object} {attributes : List (String × String)}
    (h : ∀ s ∈ selectors, s.Matches (o.setAll attributes) = s.Matches o) :
    Selected selectors (o.setAll attributes) = Selected selectors o := by
  unfold Selected
  induction selectors with
  | nil => rfl
  | cons s selectors ih =>
      rw [List.forall_mem_cons] at h
      rw [List.any_cons, List.any_cons, h.1, ih h.2]

theorem keeps_fetch {url file : String}
    (h : ∀ o : Object, o "name" = some file → Selected selectors o = true) :
    Keeps device path selectors kept (.fetch url file) := by
  intro os hos
  unfold Method.apply Method.step
  cases device.contents url with
  | none => exact hos
  | some contents =>
      have hnew : unselected selectors [Object.of [("name", file), ("contents", contents)]] = [] := by
        simpa [unselected, Selected] using h _ rfl
      have hold : unselected selectors (os.filter (fun o => decide (o "name" ≠ some file))) =
          unselected selectors os := by
        unfold unselected
        rw [List.filter_filter]
        apply List.filter_congr
        intro o _
        cases hfile : decide (o "name" ≠ some file) with
        | true => rw [Bool.and_true]
        | false =>
            rw [decide_eq_false_iff_not, not_not] at hfile
            have hselected := h o hfile
            unfold Selected at hselected
            rw [hselected]
            rfl
      show unselected selectors (_ ++ _) = kept
      rw [unselected_append, hnew, hold, List.append_nil, hos]

end Keeps

/-- The command has no effect. -/
def Settled (device : Device) (path : String) (os : List Object) (m : Method) : Prop :=
  m.apply device path os = os

/-- **A list whose commands are done**: each of them has no effect any more. -/
theorem execMenu_settled {path : String} {methods : List Method} {os : List Object}
    (h : ∀ m ∈ methods, Settled device path os m) : execMenu device path methods os = os := by
  induction methods with
  | nil => rfl
  | cons m methods ih =>
      rw [List.forall_mem_cons] at h
      show execMenu device path methods (m.apply device path os) = os
      rw [h.1]
      exact ih h.2

/-- Commands that all do the same, or nothing, and that do nothing the second time. -/
theorem execMenu_idempotent {path : String} {methods : List Method} {f : List Object → List Object}
    (hf : ∀ os, f (f os) = f os)
    (h : ∀ m ∈ methods, ∀ os, m.apply device path os = f os ∨ m.apply device path os = os)
    (os : List Object) :
    execMenu device path methods (execMenu device path methods os) =
      execMenu device path methods os := by
  have hdone : ∀ ns : List Method,
      (∀ m ∈ ns, ∀ os, m.apply device path os = f os ∨ m.apply device path os = os) →
      execMenu device path ns (f os) = f os := by
    intro ns hns
    apply execMenu_settled
    intro m hm
    rcases hns m hm (f os) with hstep | hstep
    · rw [Settled, hstep, hf]
    · exact hstep
  have hor : ∀ ns : List Method,
      (∀ m ∈ ns, ∀ os, m.apply device path os = f os ∨ m.apply device path os = os) →
      execMenu device path ns os = f os ∨ execMenu device path ns os = os := by
    intro ns
    induction ns with
    | nil => exact fun _ => .inr rfl
    | cons m ns ih =>
        intro hns
        rw [List.forall_mem_cons] at hns
        show execMenu device path ns (m.apply device path os) = f os ∨
          execMenu device path ns (m.apply device path os) = os
        rcases hns.1 os with hstep | hstep
        · rw [hstep]
          exact .inl (hdone ns hns.2)
        · rw [hstep]
          exact ih hns.2
  rcases hor methods h with hexec | hexec
  · rw [hexec]
    exact hdone methods h
  · rw [hexec]
    exact hexec

/-! ### Setting attributes -/

section Setting

variable {path : String} {arguments : List (String × Value)} {attributes : List (String × String)}

theorem setAll_setAll (o : Object) (attributes : List (String × String)) :
    (o.setAll attributes).setAll attributes = o.setAll attributes := by
  funext key
  unfold Object.setAll
  cases attributes.lookup key <;> rfl

theorem execMenu_set_twice (heval : evalArguments device arguments = some attributes)
    {methods : List Method} (h : ∀ m ∈ methods, m = .set arguments ∨ m = .print) (os : List Object) :
    execMenu device path methods (execMenu device path methods os) =
      execMenu device path methods os := by
  apply execMenu_idempotent
    (f := fun os => [(os.head?.getD (Object.of [])).setAll attributes])
  · intro os
    simp only [List.head?_cons, Option.getD_some, setAll_setAll]
  · intro m hm os
    rcases h m hm with rfl | rfl
    · left
      unfold Method.apply Method.step
      rw [heval]
      rfl
    · exact .inr rfl

theorem execMenu_setItem_twice {name : String} {methods : List Method}
    (heval : evalArguments device arguments = some attributes)
    (hname : attributes.lookup "name" = none)
    (h : ∀ m ∈ methods, m = .setItem name arguments) (os : List Object) :
    execMenu device path methods (execMenu device path methods os) =
      execMenu device path methods os := by
  apply execMenu_idempotent
    (f := List.map fun o => if o "name" = some name then o.setAll attributes else o)
  · intro os
    rw [List.map_map]
    apply List.map_congr_left
    intro o _
    have hkeeps : (o.setAll attributes) "name" = o "name" := by
      unfold Object.setAll
      rw [hname]
      rfl
    by_cases ho : o "name" = some name
    · simp only [Function.comp_apply, if_pos ho, hkeeps, setAll_setAll]
    · simp only [Function.comp_apply, if_neg ho]
  · intro m hm os
    rw [h m hm]
    left
    unfold Method.apply Method.step
    rw [heval]
    rfl

end Setting

/-! ### Adding objects -/

section Adding

variable {path : String} {arguments : List (String × Value)} {attributes : List (String × String)}

theorem apply_add (h : evalArguments device arguments = some attributes) (os : List Object) :
    (Method.add arguments).apply device path os =
      if clashes (device.identity path) (Object.of attributes) os then os
      else os ++ [Object.of attributes] := by
  unfold Method.apply Method.step
  rw [h, Option.bind_some]
  split <;> rfl

theorem clashes_append {keys : List String} {o : Object} {os : List Object}
    (h : clashes keys o os = true) (ps : List Object) : clashes keys o (os ++ ps) = true := by
  simp only [clashes, Bool.and_eq_true, List.any_append, Bool.or_eq_true] at h ⊢
  exact ⟨h.1, .inl h.2⟩

theorem clashes_self {keys : List String} (hkeys : keys ≠ []) (o : Object) (os : List Object) :
    clashes keys o (os ++ [o]) = true := by
  simp [clashes, hkeys]

theorem settled_add (hkeys : device.identity path ≠ []) (os ps : List Object) :
    Settled device path ((Method.add arguments).apply device path os ++ ps) (.add arguments) := by
  unfold Settled
  cases h : evalArguments device arguments with
  | none =>
      have hnone : ∀ os, (Method.add arguments).apply device path os = os := by
        intro os
        unfold Method.apply Method.step
        rw [h]
        rfl
      rw [hnone, hnone]
  | some attributes =>
      rw [apply_add h, apply_add h]
      split
      · rename_i hclash
        rw [if_pos (clashes_append hclash ps)]
      · rw [if_pos (clashes_append (clashes_self hkeys _ os) ps)]

theorem exists_apply_add (device : Device) (path : String) (arguments : List (String × Value))
    (os : List Object) : ∃ ps, (Method.add arguments).apply device path os = os ++ ps := by
  cases h : evalArguments device arguments with
  | none =>
      refine ⟨[], ?_⟩
      unfold Method.apply Method.step
      rw [h, List.append_nil]
      rfl
  | some attributes =>
      rw [apply_add h]
      split
      · exact ⟨[], (List.append_nil os).symm⟩
      · exact ⟨_, rfl⟩

theorem exists_execMenu_adds (device : Device) (path : String) {methods : List Method}
    (h : ∀ m ∈ methods, ∃ args, m = .add args) (os : List Object) :
    ∃ ps, execMenu device path methods os = os ++ ps := by
  induction methods generalizing os with
  | nil => exact ⟨[], (List.append_nil os).symm⟩
  | cons m methods ih =>
      rw [List.forall_mem_cons] at h
      obtain ⟨args, rfl⟩ := h.1
      obtain ⟨ps, hps⟩ := exists_apply_add device path args os
      obtain ⟨qs, hqs⟩ := ih h.2 (os ++ ps)
      refine ⟨ps ++ qs, ?_⟩
      show execMenu device path methods ((Method.add args).apply device path os) = _
      rw [hps, hqs, List.append_assoc]

theorem execMenu_adds {methods : List Method} (hkeys : device.identity path ≠ [])
    (h : ∀ m ∈ methods, ∃ args, m = .add args) (os : List Object) :
    execMenu device path methods (execMenu device path methods os) =
      execMenu device path methods os := by
  apply execMenu_settled
  induction methods generalizing os with
  | nil => exact fun m hm => absurd hm List.not_mem_nil
  | cons m methods ih =>
      rw [List.forall_mem_cons] at h ⊢
      obtain ⟨args, rfl⟩ := h.1
      obtain ⟨ps, hps⟩ := exists_execMenu_adds device path h.2
        ((Method.add args).apply device path os)
      refine ⟨?_, ih h.2 _⟩
      show Settled device path
        (execMenu device path methods ((Method.add args).apply device path os)) (.add args)
      rw [hps]
      exact settled_add hkeys os ps

end Adding

/-! ### Objects that stay -/

section Staying

variable {path : String} {Q : Object → Prop}

/-- The command leaves an object with the property. -/
def Stays (device : Device) (path : String) (Q : Object → Prop) (m : Method) : Prop :=
  ∀ os, (∃ o ∈ os, Q o) → ∃ o ∈ m.apply device path os, Q o

theorem Stays.guarded {m : Method} (h : Stays device path Q m) : Stays device path Q (.guarded m) := h

theorem stays_execMenu {methods : List Method} (h : ∀ m ∈ methods, Stays device path Q m)
    {os : List Object} (hos : ∃ o ∈ os, Q o) : ∃ o ∈ execMenu device path methods os, Q o := by
  induction methods generalizing os with
  | nil => exact hos
  | cons m methods ih =>
      rw [List.forall_mem_cons] at h
      exact ih h.2 (h.1 os hos)

theorem stays_add (device : Device) (path : String) (Q : Object → Prop)
    (arguments : List (String × Value)) : Stays device path Q (.add arguments) := by
  rintro os ⟨o, ho, hQ⟩
  obtain ⟨ps, hps⟩ := exists_apply_add device path arguments os
  rw [hps]
  exact ⟨o, List.mem_append_left ps ho, hQ⟩

theorem exists_map {f : Object → Object} (h : ∀ o, Q o → Q (f o)) {os : List Object}
    (hos : ∃ o ∈ os, Q o) : ∃ o ∈ os.map f, Q o := by
  obtain ⟨o, ho, hQ⟩ := hos
  exact ⟨f o, List.mem_map_of_mem ho, h o hQ⟩

variable {arguments : List (String × Value)} {attributes : List (String × String)}

theorem stays_setFound (heval : evalArguments device arguments = some attributes)
    (h : ∀ o, Q o → Q (o.setAll attributes)) (s : Selector) :
    Stays device path Q (.setFound s arguments) := by
  intro os hos
  unfold Method.apply Method.step
  rw [heval]
  refine exists_map (fun o hQ => ?_) hos
  split
  · exact h o hQ
  · exact hQ

theorem stays_setItem (heval : evalArguments device arguments = some attributes)
    (h : ∀ o, Q o → Q (o.setAll attributes)) (name : String) :
    Stays device path Q (.setItem name arguments) := by
  intro os hos
  unfold Method.apply Method.step
  rw [heval]
  refine exists_map (fun o hQ => ?_) hos
  split
  · exact h o hQ
  · exact hQ

/-- After an addition there is an object with its value of a key: its own, or the one it met. -/
theorem exists_apply_add_key {key value : String} (hkey : key ∈ device.identity path)
    (heval : evalArguments device arguments = some attributes)
    (hvalue : attributes.lookup key = some value) (os : List Object) :
    ∃ o ∈ (Method.add arguments).apply device path os, o key = some value := by
  rw [apply_add heval]
  split
  · rename_i hclash
    simp only [clashes, Bool.and_eq_true, List.any_eq_true] at hclash
    obtain ⟨-, x, hx, hall⟩ := hclash
    have hsame := List.all_eq_true.mp hall key hkey
    rw [decide_eq_true_eq, Object.of, hvalue] at hsame
    exact ⟨x, hx, hsame⟩
  · exact ⟨_, List.mem_append_right _ (List.mem_singleton_self _), hvalue⟩

end Staying

/-! ### Replacing objects -/

section Replacing

variable {path key : String} {arguments : String → List (String × Value)}
  {attributes : String → List (String × String)}

/-- The object with this key is removed, and then added. -/
def replace (key : String) (arguments : String → List (String × Value)) (value : String) : Method :=
  .both (.guarded (.remove (.equal key value))) (.add (arguments value))

/-- The objects with another key. -/
def others (key : String) (values : List String) (os : List Object) : List Object :=
  os.filter (fun o => decide (∀ value ∈ values, o key ≠ some value))

theorem apply_replace (hkey : key ∈ device.identity path)
    (heval : ∀ value, evalArguments device (arguments value) = some (attributes value))
    (hvalue : ∀ value, (attributes value).lookup key = some value) (value : String)
    (os : List Object) :
    (replace key arguments value).apply device path os =
      others key [value] os ++ [Object.of (attributes value)] := by
  have hremoved : os.filter (fun o => !(Selector.equal key value).Matches o) = others key [value] os := by
    apply List.filter_congr
    intro o _
    simp [Selector.Matches]
  have hfree : clashes (device.identity path) (Object.of (attributes value))
      (others key [value] os) = false := by
    rw [clashes, Bool.and_eq_false_iff]
    right
    rw [List.any_eq_false]
    intro x hx hall
    rw [List.all_eq_true] at hall
    have hsame := hall key hkey
    rw [decide_eq_true_eq, Object.of, hvalue value] at hsame
    have hother := (List.mem_filter.mp hx).2
    simp [hsame] at hother
  show ((Method.both _ _).step device path os).getD os = _
  simp only [Method.step, Option.getD_some, Option.bind_some, hremoved, heval, hfree]
  rfl

theorem others_append (values : List String) (os ps : List Object) :
    others key values (os ++ ps) = others key values os ++ others key values ps :=
  List.filter_append ..

theorem others_others (value : String) (values : List String) (os : List Object) :
    others key values (others key [value] os) = others key (value :: values) os := by
  unfold others
  rw [List.filter_filter]
  apply List.filter_congr
  intro o _
  simp [Bool.and_comm]

theorem execMenu_replace (hkey : key ∈ device.identity path)
    (heval : ∀ value, evalArguments device (arguments value) = some (attributes value))
    (hvalue : ∀ value, (attributes value).lookup key = some value) (values : List String)
    (os : List Object) :
    execMenu device path (values.map (replace key arguments)) os =
      others key values os ++ execMenu device path (values.map (replace key arguments)) [] := by
  have hcons : ∀ (value : String) (values : List String) (os : List Object),
      execMenu device path ((value :: values).map (replace key arguments)) os =
        execMenu device path (values.map (replace key arguments))
          (others key [value] os ++ [Object.of (attributes value)]) := by
    intro value values os
    rw [← apply_replace hkey heval hvalue value os]
    rfl
  induction values generalizing os with
  | nil => simp [execMenu, others]
  | cons value values ih =>
      rw [hcons, hcons, ih, ih (others key [value] [] ++ _), others_append, others_append,
        others_others, List.append_assoc, List.append_assoc]
      rfl

theorem mem_execMenu_replace (hkey : key ∈ device.identity path)
    (heval : ∀ value, evalArguments device (arguments value) = some (attributes value))
    (hvalue : ∀ value, (attributes value).lookup key = some value) {values : List String}
    {os : List Object} {o : Object}
    (h : o ∈ execMenu device path (values.map (replace key arguments)) os) :
    o ∈ os ∨ ∃ value ∈ values, o key = some value := by
  induction values generalizing os with
  | nil => exact .inl h
  | cons value values ih =>
      have hstep : o ∈ execMenu device path (values.map (replace key arguments))
          ((replace key arguments value).apply device path os) := h
      rw [apply_replace hkey heval hvalue] at hstep
      rcases ih hstep with hold | ⟨v, hv, ho⟩
      · rcases List.mem_append.mp hold with hold | hnew
        · exact .inl (List.mem_filter.mp hold).1
        · rw [List.mem_singleton.mp hnew]
          exact .inr ⟨value, List.mem_cons_self, hvalue value⟩
      · exact .inr ⟨v, List.mem_cons_of_mem value hv, ho⟩

theorem execMenu_replace_twice (hkey : key ∈ device.identity path)
    (heval : ∀ value, evalArguments device (arguments value) = some (attributes value))
    (hvalue : ∀ value, (attributes value).lookup key = some value) (values : List String)
    (os : List Object) :
    execMenu device path (values.map (replace key arguments))
        (execMenu device path (values.map (replace key arguments)) os) =
      execMenu device path (values.map (replace key arguments)) os := by
  have htwice : others key values (others key values os) = others key values os := by
    simp [others, List.filter_filter]
  have hnew : others key values
      (execMenu device path (values.map (replace key arguments)) []) = [] := by
    rw [others, List.filter_eq_nil_iff]
    intro o ho hall
    rw [decide_eq_true_eq] at hall
    rcases mem_execMenu_replace hkey heval hvalue ho with hnil | ⟨value, hvalue, hkey⟩
    · exact absurd hnil List.not_mem_nil
    · exact hall value hvalue hkey
  rw [execMenu_replace hkey heval hvalue values os,
    execMenu_replace hkey heval hvalue values (_ ++ _), others_append, htwice,
    hnew, List.append_nil]

end Replacing

end Menus
