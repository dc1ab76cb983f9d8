import ConsoleLink.Config
import ConsoleLink.Proofs.Except

/-! # Arguments

The arguments of the command line cut into flags, each with the value it takes, and what comes of
them: the first item that is wrong or asks for help ends the reading, and the configuration is that
of the last values before it, over the environment, over the defaults.
-/

namespace ConsoleLink.Config

/-! ## Flags -/

/-- How a flag is written. -/
def Flag.spellings : Flag → List String
  | .setting .listen => ["--listen"]
  | .setting .game => ["--game"]
  | .setting .stateDirectory => ["--state-dir"]
  | .setting .mode => ["--mode"]
  | .setting .waitTimeout => ["--wait-timeout-ms"]
  | .setting .fps => ["--fps"]
  | .switch .stdio => ["--stdio"]
  | .switch .paused => ["--paused"]
  | .help => ["--help", "-h"]

theorem Flag.ofText?_eq_some_iff {text : String} {f : Flag} :
    Flag.ofText? text = some f ↔ text ∈ f.spellings := by
  constructor
  · intro h
    unfold Flag.ofText? at h
    split at h <;> cases h <;> decide
  · intro h
    unfold Flag.spellings at h
    split at h <;> simp only [List.mem_cons, List.not_mem_nil, or_false] at h
    case h_9 => rcases h with rfl | rfl <;> rfl
    all_goals cases h; rfl

/-- A flag with a value after it. -/
def takesValue (text : String) : Bool :=
  match Flag.ofText? text with
  | some (.setting _) => true
  | _ => false

/-! ## Items -/

/-- An argument in the place of a flag, with the argument after it if it takes one. -/
structure Item where
  flag : String
  value : Option String
  deriving DecidableEq

def Item.texts (i : Item) : List String := i.flag :: i.value.toList

/-- Cuts arguments from the left; a flag that takes a value takes the argument after it, whatever
that is. -/
def items : List String → List Item
  | [] => []
  | [flag] => [⟨flag, none⟩]
  | flag :: value :: rest =>
    if takesValue flag then ⟨flag, some value⟩ :: items rest
    else ⟨flag, none⟩ :: items (value :: rest)

theorem flatMap_texts_items (args : List String) : (items args).flatMap Item.texts = args := by
  fun_induction items args with
  | case1 => rfl
  | case2 flag => rfl
  | case3 flag value rest _ ih => rw [List.flatMap_cons, ih]; rfl
  | case4 flag value rest _ ih => rw [List.flatMap_cons, ih]; rfl

/-- The number below `limit` that a value writes, with blanks around it. -/
def number? (limit : Nat) (value : String) : Option Nat :=
  Text.unsigned? 10 limit (Text.trimChars value.toList)

/-- What is wrong with a value for a setting. -/
def Setting.fault? (flag value : String) : Setting → Option ConfigError
  | .listen | .game | .stateDirectory => none
  | .mode => if (Mode.ofText? value).isSome then none else some (.invalidMode value)
  | .waitTimeout =>
    if (number? UInt64.size value).isSome then none else some (.invalidNumber flag value)
  | .fps => if (number? UInt32.size value).isSome then none else some (.invalidNumber flag value)

/-- What an item ends the reading with, if it is not a flag with all that it needs. -/
def Item.outcome? (i : Item) : Option (Except ConfigError Action) :=
  match Flag.ofText? i.flag, i.value with
  | none, _ => some (.error (.unknownArgument i.flag))
  | some .help, _ => some (.ok .help)
  | some (.switch _), _ => none
  | some (.setting _), none => some (.error (.missingValue i.flag))
  | some (.setting s), some value => (s.fault? i.flag value).map .error

/-- The value that an item has for a setting. -/
def Item.valueFor? (s : Setting) (i : Item) : Option String :=
  if Flag.ofText? i.flag = some (.setting s) then i.value else none

/-- The value of the last flag for a setting. -/
def lastValue (s : Setting) (is : List Item) : Option String :=
  (is.filterMap (Item.valueFor? s)).getLast?

/-- Whether a switch is among the flags. -/
def switchedOn (s : Switch) (is : List Item) : Bool :=
  is.any fun i => Flag.ofText? i.flag = some (.switch s)

/-- The configuration of the last values, else of the environment, else of the defaults. -/
def layered (lookup : String → Option String) (is : List Item) : Config where
  listen := (lastValue .listen is <|> lookup "EMU_REMOTE_LISTEN").getD "127.0.0.1:58111"
  stdio := switchedOn .stdio is
  game := lastValue .game is
  stateDirectory := (lastValue .stateDirectory is <|> lookup "EMU_REMOTE_STATE_DIR").getD "states"
  paused := switchedOn .paused is
  mode := ((lastValue .mode is <|> lookup "MODE").bind Mode.ofText?).getD .realTime
  watches := (((lookup "MEMWATCHES").filter fun text => !(Text.trim text).isEmpty).bind
    fun text => (readWatches text).toOption).getD []
  waitTimeout := (lastValue .waitTimeout is <|> lookup "EMU_REMOTE_WAIT_TIMEOUT_MS").bind
    (number? UInt64.size)
  fps := ((lastValue .fps is).bind (number? UInt32.size)).getD 60

variable {lookup : String → Option String} {c : Config} {is : List Item} {flag value : String}

/-! ## Values -/

theorem readMode_eq (value : String) :
    readMode value = (Mode.ofText? value).elim (.error (.invalidMode value)) .ok := by
  rw [readMode]
  cases Mode.ofText? value <;> rfl

theorem readNumber_eq (limit : Nat) (name value : String) :
    readNumber limit name value =
      (number? limit value).elim (.error (.invalidNumber name value)) .ok := by
  rw [readNumber, number?]
  cases Text.unsigned? 10 limit (Text.trimChars value.toList) <;> rfl

/-- A value with a fault leaves the configuration as it is. -/
theorem assign_of_fault {s : Setting} {e : ConfigError} (h : s.fault? flag value = some e) :
    c.assign flag value s = .error e := by
  cases s with
  | listen | game | stateDirectory => cases h
  | mode =>
    rw [Setting.fault?] at h
    rw [assign, readMode_eq]
    cases hvalue : Mode.ofText? value <;> rw [hvalue] at h <;> cases h
    rfl
  | waitTimeout | fps =>
    rw [Setting.fault?] at h
    rw [assign, readNumber_eq]
    cases hvalue : number? _ value <;> rw [hvalue] at h <;> cases h
    rfl

/-! ## One more item -/

theorem lastValue_append (s : Setting) (is : List Item) (i : Item) :
    lastValue s (is ++ [i]) = (i.valueFor? s).or (lastValue s is) := by
  rw [lastValue, List.filterMap_append, List.getLast?_append, lastValue, List.filterMap_cons,
    List.filterMap_nil]
  cases i.valueFor? s <;> rfl

theorem switchedOn_append (s : Switch) (is : List Item) (i : Item) :
    switchedOn s (is ++ [i]) =
      (switchedOn s is || decide (Flag.ofText? i.flag = some (.switch s))) := by
  rw [switchedOn, List.any_append, List.any_cons, List.any_nil, Bool.or_false]
  rfl

theorem turnOn_layered {s : Switch} (hflag : Flag.ofText? flag = some (.switch s)) :
    (layered lookup is).turnOn s = layered lookup (is ++ [⟨flag, none⟩]) := by
  cases s <;> simp [turnOn, layered, lastValue_append, switchedOn_append, Item.valueFor?, hflag]

theorem assign_layered {s : Setting} (hflag : Flag.ofText? flag = some (.setting s))
    (hvalue : s.fault? flag value = none) :
    (layered lookup is).assign flag value s =
      .ok (layered lookup (is ++ [⟨flag, some value⟩])) := by
  cases s with
  | listen | game | stateDirectory =>
    simp [assign, layered, lastValue_append, switchedOn_append, Item.valueFor?, hflag]
  | mode =>
    obtain ⟨mode, hmode⟩ : ∃ mode, Mode.ofText? value = some mode := by
      simpa [Setting.fault?, Option.isSome_iff_exists] using hvalue
    rw [assign, readMode_eq, hmode]
    simp [layered, lastValue_append, switchedOn_append, Item.valueFor?, hflag, hmode]
  | waitTimeout | fps =>
    obtain ⟨n, hn⟩ : ∃ n, number? _ value = some n := by
      simpa [Setting.fault?, Option.isSome_iff_exists] using hvalue
    rw [assign, readNumber_eq, hn]
    simp [layered, lastValue_append, switchedOn_append, Item.valueFor?, hflag, hn]

/-! ## The arguments -/

/-- What comes of items after others: the outcome of the first that has one, and the configuration
that the items before it give. -/
def readingOf (lookup : String → Option String) (is todo : List Item) :
    Except ConfigError Action × Config :=
  ((todo.findSome? Item.outcome?).getD (.ok .run),
    layered lookup (is ++ todo.takeWhile fun i => i.outcome?.isNone))

/-- What comes of an item with arguments after it. -/
def readingAt (lookup : String → Option String) (is : List Item) (i : Item) (rest : List String) :
    Except ConfigError Action × Config :=
  match i.outcome? with
  | some outcome => (outcome, layered lookup is)
  | none => (layered lookup (is ++ [i])).applyArguments rest

theorem applyArguments_of_not_takesValue (h : takesValue flag = false) (rest : List String) :
    (layered lookup is).applyArguments (flag :: rest) = readingAt lookup is ⟨flag, none⟩ rest := by
  rw [applyArguments, readingAt, Item.outcome?]
  unfold takesValue at h
  cases hflag : Flag.ofText? flag with
  | none => rfl
  | some f =>
    cases f with
    | help => rfl
    | switch s => rw [← turnOn_layered hflag]
    | setting s => rw [hflag] at h; cases h

theorem exists_setting_of_takesValue (h : takesValue flag = true) :
    ∃ s, Flag.ofText? flag = some (.setting s) := by
  unfold takesValue at h
  split at h
  · exact ⟨_, ‹_›⟩
  · cases h

theorem applyArguments_of_takesValue (h : takesValue flag = true) (value : String)
    (rest : List String) :
    (layered lookup is).applyArguments (flag :: value :: rest) =
      readingAt lookup is ⟨flag, some value⟩ rest := by
  obtain ⟨s, hflag⟩ := exists_setting_of_takesValue h
  rw [applyArguments, readingAt, Item.outcome?, hflag]
  cases hvalue : s.fault? flag value with
  | none => simp only [hvalue, assign_layered hflag hvalue, Option.map_none]
  | some e => simp only [hvalue, assign_of_fault hvalue, Option.map_some]

/-- The last argument has nothing after it to take. -/
theorem applyArguments_singleton (flag : String) :
    (layered lookup is).applyArguments [flag] = readingAt lookup is ⟨flag, none⟩ [] := by
  cases h : takesValue flag with
  | false => exact applyArguments_of_not_takesValue h []
  | true =>
    obtain ⟨s, hflag⟩ := exists_setting_of_takesValue h
    rw [applyArguments, readingAt, Item.outcome?, hflag]

theorem readingAt_eq (i : Item) {rest : List String}
    (hrest : ∀ is, (layered lookup is).applyArguments rest = readingOf lookup is (items rest)) :
    readingAt lookup is i rest = readingOf lookup is (i :: items rest) := by
  rw [readingAt, readingOf, List.findSome?_cons, List.takeWhile_cons]
  cases i.outcome? with
  | none => simp [hrest, readingOf]
  | some outcome => simp

/-- Reading arguments over what `is` gives is reading their items one after another. -/
theorem applyArguments_layered (args : List String) :
    ∀ is, (layered lookup is).applyArguments args = readingOf lookup is (items args) := by
  -- the induction is on the way the arguments are cut, and `is` gains the item that is cut off
  fun_induction items args with
  | case1 => exact fun is => by simp [applyArguments, readingOf]
  | case2 flag =>
    intro is
    rw [applyArguments_singleton]
    exact readingAt_eq ⟨flag, none⟩ fun is => by simp [applyArguments, readingOf, items]
  | case3 flag value rest htakes ih =>
    intro is
    rw [applyArguments_of_takesValue htakes]
    exact readingAt_eq ⟨flag, some value⟩ ih
  | case4 flag value rest htakes ih =>
    intro is
    rw [applyArguments_of_not_takesValue (Bool.eq_false_iff.mpr htakes)]
    exact readingAt_eq ⟨flag, none⟩ ih

/-- Items without an outcome go before the others. -/
theorem readingOf_append {good : List Item} (hgood : ∀ i ∈ good, i.outcome? = none)
    (todo : List Item) :
    readingOf lookup is (good ++ todo) = readingOf lookup (is ++ good) todo := by
  have hnone : good.findSome? Item.outcome? = none := List.findSome?_eq_none_iff.mpr hgood
  have hall : ∀ i ∈ good, i.outcome?.isNone = true := fun i hi => by rw [hgood i hi]; rfl
  rw [readingOf, List.findSome?_append, hnone, List.takeWhile_append_of_pos hall, Option.none_or,
    ← List.append_assoc, readingOf]

theorem readingOf_nil (is : List Item) :
    readingOf lookup is [] = (.ok .run, layered lookup is) := by
  rw [readingOf, List.takeWhile_nil, List.append_nil]
  rfl

theorem readingOf_cons_of_outcome {i : Item} {outcome : Except ConfigError Action}
    (h : i.outcome? = some outcome) (todo : List Item) :
    readingOf lookup is (i :: todo) = (outcome, layered lookup is) := by
  rw [readingOf, List.findSome?_cons, List.takeWhile_cons, h]
  simp

/-- No item makes the program run at once. -/
theorem Item.outcome?_ne_run (i : Item) : i.outcome? ≠ some (.ok .run) := by
  rw [Item.outcome?]
  split <;> simp

theorem readingOf_fst_eq_run_iff {todo : List Item} :
    (readingOf lookup is todo).1 = .ok .run ↔ ∀ i ∈ todo, i.outcome? = none := by
  rw [← List.findSome?_eq_none_iff, readingOf]
  cases hfirst : todo.findSome? Item.outcome? with
  | none => exact ⟨fun _ => rfl, fun _ => rfl⟩
  | some outcome =>
    obtain ⟨i, -, hi⟩ := List.exists_of_findSome?_eq_some hfirst
    refine ⟨fun hrun => ?_, nofun⟩
    cases hrun
    exact absurd hi i.outcome?_ne_run

/-! ## The environment -/

theorem elim_eq_ok_iff {ε α : Type} {e : ε} {x : Option α} {a : α} :
    x.elim (.error e) .ok = (.ok a : Except ε α) ↔ x = some a := by
  cases x with
  | none => exact ⟨nofun, nofun⟩
  | some b => exact ⟨fun h => by cases h; rfl, fun h => by cases h; rfl⟩

theorem eq_bind_of_mapM {α : Type} {read : String → Except ConfigError α}
    {read? : String → Option α} (hread : ∀ text a, read text = .ok a → read? text = some a)
    {text : Option String} {a : Option α} (h : text.mapM read = .ok a) : a = text.bind read? := by
  cases text with
  | none => cases h; rfl
  | some text =>
    obtain ⟨a, ha, h⟩ := bind_eq_ok.mp h
    cases h
    exact (hread text a ha).symm

/-- An environment that is read is the layer over the defaults. -/
theorem eq_layered_of_ofEnvironment (h : ofEnvironment lookup = .ok c) : c = layered lookup [] := by
  have hmodes : ∀ text mode, readMode text = .ok mode → Mode.ofText? text = some mode :=
    fun text mode h => elim_eq_ok_iff.mp (readMode_eq text ▸ h)
  have hnumbers : ∀ name text n, readNumber UInt64.size name text = .ok n →
      number? UInt64.size text = some n :=
    fun name text n h => elim_eq_ok_iff.mp (readNumber_eq _ name text ▸ h)
  have hreads : ∀ text watches, readWatches text = .ok watches →
      (readWatches text).toOption = some watches := fun text watches h => by rw [h]; rfl
  obtain ⟨mode, hmode, h⟩ := bind_eq_ok.mp h
  obtain ⟨watches, hwatches, h⟩ := bind_eq_ok.mp h
  obtain ⟨waitTimeout, hwait, h⟩ := bind_eq_ok.mp h
  cases h
  cases eq_bind_of_mapM hmodes hmode
  cases eq_bind_of_mapM hreads hwatches
  cases eq_bind_of_mapM (hnumbers _) hwait
  simp [layered, lastValue, switchedOn, Variable.name]

/-- Every argument is in the place of a flag or the value of the flag before it. The program runs if
and only if each item is a flag with all that it needs, and then each setting has its last value,
else that of the environment, else the default. Otherwise the first item that is not so decides what
comes of the arguments, and the configuration is that of the items before it. -/
theorem applyArguments_eq_layered (h : ofEnvironment lookup = .ok c) (args : List String) :
    (∀ text f, Flag.ofText? text = some f ↔ text ∈ f.spellings) ∧
    (items args).flatMap Item.texts = args ∧
    ((c.applyArguments args).1 = .ok .run ↔ ∀ i ∈ items args, i.outcome? = none) ∧
    ((c.applyArguments args).1 = .ok .run →
      (c.applyArguments args).2 = layered lookup (items args)) ∧
    ∀ good bad rest outcome, items args = good ++ bad :: rest →
      (∀ i ∈ good, i.outcome? = none) → bad.outcome? = some outcome →
      c.applyArguments args = (outcome, layered lookup good) := by
  have hc : c.applyArguments args = readingOf lookup [] (items args) := by
    rw [eq_layered_of_ofEnvironment h, applyArguments_layered]
  have hends : ∀ good bad rest outcome, items args = good ++ bad :: rest →
      (∀ i ∈ good, i.outcome? = none) → bad.outcome? = some outcome →
      c.applyArguments args = (outcome, layered lookup good) := by
    intro good bad rest outcome hitems hgood hbad
    rw [hc, hitems, readingOf_append hgood, readingOf_cons_of_outcome hbad, List.nil_append]
  have hruns : (∀ i ∈ items args, i.outcome? = none) →
      c.applyArguments args = (.ok .run, layered lookup (items args)) := by
    intro hall
    rw [hc, ← List.append_nil (items args), readingOf_append hall, readingOf_nil, List.nil_append,
      List.append_nil]
  have hrun : (c.applyArguments args).1 = .ok .run ↔ ∀ i ∈ items args, i.outcome? = none := by
    rw [hc]
    exact readingOf_fst_eq_run_iff
  exact ⟨fun _ _ => Flag.ofText?_eq_some_iff, flatMap_texts_items args, hrun,
    fun h => congrArg Prod.snd (hruns (hrun.mp h)), hends⟩

/-- A value that looks like a flag is a value, a mode from the command line goes over that of the
environment, and what stands after a number that cannot be read does not count. -/
theorem applyArguments_eq_layered_stopped :
    let lookup := fun name => if name = "MODE" then some "turn-based" else none
    let args := ["--game", "--help", "--mode", "realtime", "--fps", "x", "--stdio"]
    ∃ c, ofEnvironment lookup = .ok c ∧ c.mode = .turnBased ∧
      (c.applyArguments args).1 = .error (.invalidNumber "--fps" "x") ∧
      (c.applyArguments args).2.game = some "--help" ∧
      (c.applyArguments args).2.mode = .realTime ∧ (c.applyArguments args).2.stdio = false := by
  intro lookup args
  obtain ⟨c, hc⟩ : ∃ c, ofEnvironment lookup = .ok c := exists_ok_of_isOk (by decide +kernel)
  obtain ⟨-, -, -, -, hends⟩ := applyArguments_eq_layered hc args
  have hmode : c.mode = .turnBased := by
    rw [eq_layered_of_ofEnvironment hc]
    decide +kernel
  refine ⟨c, hc, hmode, ?_⟩
  rw [hends [⟨"--game", some "--help"⟩, ⟨"--mode", some "realtime"⟩] ⟨"--fps", some "x"⟩
    [⟨"--stdio", none⟩] (.error (.invalidNumber "--fps" "x")) (by decide +kernel)
    (by decide +kernel) (by decide +kernel)]
  exact ⟨rfl, by decide +kernel, by decide +kernel, by decide +kernel⟩

end ConsoleLink.Config
