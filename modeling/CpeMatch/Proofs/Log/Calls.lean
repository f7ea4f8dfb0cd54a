import CpeMatch.Log.Setup
import Mathlib.Data.List.Basic

/-!
**Logging is set up, and loggers are asked for, any number of times and in any order.**

What is set of a logger are its own threshold, its handlers, and whether its records go on to the logger above.
Every call acts on each logger by itself: what is set of it afterwards depends on the call and on what has been set
of that logger before, and not on any other logger.  So what is set of a logger after a run of calls is found by
following that logger alone.

A logger that is asked for gets a console handler if it has none, and no second one.  Its own threshold is the
last one it has been given.  The root is set up once, by whichever call comes first, and has handlers from then on.

Main definitions:

* `CpeMatch.Log.Call` — a call that asks for a logger or sets logging up, and `CpeMatch.Log.Call.run`;
* `CpeMatch.Log.Logger.settings` — what is set of a logger;
* `CpeMatch.Log.Call.effect`, `CpeMatch.Log.Call.rootEffect` — what a call does to a logger, and to the root.

Main results:

* `CpeMatch.Log.Registry.settings_request`, `CpeMatch.Log.Registry.settings_setUp` — what asking for a logger and
  setting logging up change, of all loggers at once;
* `CpeMatch.Log.Call.change_eq`, `CpeMatch.Log.Call.change_again` — what one call changes, and that it changes nothing
  more when it is made once more;
* `CpeMatch.Log.runAll_settings` — **a run of calls acts on each logger by itself**;
* `CpeMatch.Log.logging_set_up_once` — **however often loggers are asked for and logging is set up, a logger has one
  console handler, a component has the threshold it has been given last, and the root is as the first setup left it**.
-/

set_option autoImplicit false

namespace CpeMatch.Log

/-! ### What is set of a logger -/

/-- What is set of a logger: everything but its place and what is known of it. -/
def Logger.settings (l : Logger) : Logger := { l with above := none, known := [] }

namespace Logger

variable (l : Logger)

/-- It has one console handler, and its records do not go on to the logger above. -/
def IsAttached : Prop := l.handlers.count .console = 1 ∧ l.propagates = false

/-- If it has a console handler at all, it is as a logger that has been asked for. -/
def IsTidy : Prop := .console ∈ l.handlers → l.IsAttached

variable {l}

theorem IsAttached.isTidy (h : l.IsAttached) : l.IsTidy := fun _ => h

theorem IsAttached.mem (h : l.IsAttached) : .console ∈ l.handlers :=
  List.count_pos_iff.1 (by rw [h.1]; exact Nat.one_pos)

end Logger

namespace Registry

@[simp] theorem attach_own (l : Logger) : (attach l).own = l.own := by
  unfold attach
  split <;> rfl

theorem settings_attach (l : Logger) : (attach l).settings = attach l.settings := by
  unfold attach
  split <;> simp_all [Logger.settings]

theorem attach_of_isAttached {l : Logger} (h : l.IsAttached) : attach l = l := by
  simp [attach, h.mem]

theorem attach_attach (l : Logger) : attach (attach l) = attach l := by
  by_cases hc : .console ∈ l.handlers <;> simp [attach, hc]

theorem attach_given (l : Logger) (t : Threshold) : attach { l with own := t } = { attach l with own := t } := by
  by_cases hc : .console ∈ l.handlers <;> simp [attach, hc]

/-- Whoever is asked for has one console handler. -/
theorem isAttached_attach {l : Logger} (h : l.IsTidy) : (attach l).IsAttached := by
  by_cases hc : .console ∈ l.handlers
  · rw [attach_of_isAttached (h hc)]
    exact h hc
  · simp [attach, hc, Logger.IsAttached, List.count_eq_zero.2 hc]

theorem isTidy_attach_iff {l : Logger} : (attach l).IsTidy ↔ l.IsTidy := by
  by_cases hc : .console ∈ l.handlers
  · simp [attach, hc]
  · have htidy : l.IsTidy := fun h => absurd h hc
    exact iff_of_true (isAttached_attach htidy).isTidy htidy

/-- What is set of the logger of a name. -/
def settings (r : Registry) (name : Text) : Logger := (r.logger name).settings

/-! ### What the steps of a call change -/

section

variable (r : Registry) {name : Text}

theorem lookup_map_loggers (f : Text → Logger → Logger) (loggers : List (Text × Logger)) (name : Text) :
    (loggers.map fun (n, l) => (n, f n l)).lookup name = (loggers.lookup name).map (f name) := by
  induction loggers with
  | nil => rfl
  | cons entry rest ih =>
    obtain ⟨n, l⟩ := entry
    by_cases h : name = n
    · simp [h]
    · simp [List.lookup_cons, beq_false_of_ne h, ih]

theorem logger_of_named (named : isRootName name = false) :
    r.logger name = (r.loggers.lookup name).getD Logger.fresh := by
  simp [logger, named]

theorem settings_adopt (name other : Text) (l : Logger) : (adopt name other l).settings = l.settings := by
  unfold adopt
  split <;> rfl

/-- A new logger is as one that nothing has been done to, which is what a name without a logger stands for. -/
theorem settings_provide (name : Text) : (r.provide name).settings = r.settings := by
  by_cases h : (isRootName name || r.holds name) = true
  · rw [provide, if_pos h]
  · rw [provide, if_neg h]
    funext other
    simp only [holds, Bool.or_eq_true, not_or, Bool.not_eq_true, Option.isSome_eq_false_iff,
      Option.isNone_iff_eq_none] at h
    obtain ⟨named, new⟩ := h
    cases hroot : isRootName other
    case true => simp [settings, logger, hroot]
    case false =>
      simp only [settings, logger_of_named _ hroot, List.lookup_append, lookup_map_loggers]
      by_cases heq : other = name
      · subst heq
        simp [new, Logger.settings, Logger.fresh]
      · cases r.loggers.lookup other <;> simp [List.lookup_cons, beq_false_of_ne heq, settings_adopt]

theorem holds_provide (named : isRootName name = false) : (r.provide name).holds name = true := by
  unfold provide
  split
  · simp_all
  · simp [holds, List.lookup_append]

theorem lookup_change (named : isRootName name = false) (f : Logger → Logger) (other : Text) :
    (r.change name f).loggers.lookup other =
      (r.loggers.lookup other).map fun l => if other = name then f l else l := by
  rw [← lookup_map_loggers fun n l => if n = name then f l else l]
  simp only [change, named, Bool.false_eq_true, if_false]
  congr 2
  funext ⟨n, l⟩
  split <;> rfl

theorem logger_change (named : isRootName name = false) (held : r.holds name = true) (f : Logger → Logger) :
    (r.change name f).logger = Function.update r.logger name (f (r.logger name)) := by
  funext other
  cases hroot : isRootName other
  case true =>
    have hne : other ≠ name := by
      rintro rfl
      exact absurd hroot (by simp [named])
    simp [Function.update_of_ne hne, logger, change, named, hroot]
  case false =>
    rw [logger_of_named _ hroot, lookup_change _ named]
    by_cases heq : other = name
    · subst heq
      obtain ⟨l, hl⟩ := Option.isSome_iff_exists.1 held
      simp [logger_of_named _ hroot, hl]
    · simp [logger_of_named _ hroot, heq]

theorem settings_change (named : isRootName name = false) (held : r.holds name = true) (f : Logger → Logger) :
    (r.change name f).settings = Function.update r.settings name (f (r.logger name)).settings := by
  change Logger.settings ∘ (r.change name f).logger = _
  rw [logger_change _ named held, Function.comp_update]
  rfl

/-- When a threshold is set, what is known is forgotten of all loggers. -/
theorem settings_setThreshold_eq_change (name : Text) (t : Threshold) :
    (r.setThreshold name t).settings = (r.change name fun l => { l with own := t }).settings := by
  funext other
  simp only [settings, logger, setThreshold, lookup_map_loggers fun _ l => { l with known := [] }]
  split
  · rfl
  · cases (r.change name fun l => { l with own := t }).loggers.lookup other <;> rfl

theorem settings_setThreshold (named : isRootName name = false) (held : r.holds name = true) (t : Threshold) :
    (r.setThreshold name t).settings =
      Function.update r.settings name { r.settings name with own := t } := by
  rw [settings_setThreshold_eq_change, settings_change _ named held]
  rfl

theorem holds_setThreshold (named : isRootName name = false) (t : Threshold) :
    (r.setThreshold name t).holds name = r.holds name := by
  simp [holds, setThreshold, lookup_map_loggers fun _ l => { l with known := [] }, lookup_change _ named]

/-- Asking for a logger sets its threshold if one is asked for, and gives it a console handler. -/
theorem settings_request (named : isRootName name = false) {level : Json} {t? : Option Threshold}
    (requested : Threshold.requested level = .ok t?) :
    ∃ r', r.request name level = (r', none) ∧ r'.settings = Function.update r.settings name
      (attach { r.settings name with own := t?.getD (r.settings name).own }) := by
  have held := r.holds_provide named
  cases t? with
  | none =>
    refine ⟨(r.provide name).change name attach, by simp [request, requested], ?_⟩
    rw [settings_change _ named held, settings_attach, ← settings, settings_provide]
    rfl
  | some t =>
    refine ⟨((r.provide name).setThreshold name t).change name attach, by simp [request, requested], ?_⟩
    rw [settings_change _ named ((holds_setThreshold _ named t).trans held), settings_attach, ← settings,
      settings_setThreshold _ named held, settings_provide]
    simp

/-! ### What setting logging up changes -/

theorem isRootName_name (c : Channel) : isRootName c.name = false := by
  cases c <;> decide

@[simp] theorem isRootName_rootName : isRootName rootName = true := rfl

theorem settings_root : r.settings rootName = r.root.settings := rfl

/-- The root gets its threshold and its handlers unless it has handlers already. -/
theorem root_configureRoot (handlers : List Handler) (t : Threshold) :
    (r.configureRoot handlers (some t)).root.settings =
      if r.root.handlers = [] then { r.root.settings with own := t, handlers } else r.root.settings := by
  by_cases hbare : r.root.handlers = []
  · rw [← settings_root]
    simp only [configureRoot, hbare, List.isEmpty_nil, if_true, settings_setThreshold_eq_change]
    rfl
  · simp [configureRoot, hbare]

theorem settings_configureRoot (named : isRootName name = false) (handlers : List Handler) (t : Threshold) :
    (r.configureRoot handlers (some t)).settings name = r.settings name := by
  by_cases hbare : r.root.handlers = []
  · simp only [configureRoot, hbare, List.isEmpty_nil, if_true, settings_setThreshold_eq_change]
    simp [settings, logger, named, change]
  · simp [configureRoot, hbare]

/-- The loggers of the channels get the threshold, whether there have been such loggers or not. -/
theorem settings_setThresholds (channels : List Channel) (t : Threshold) (other : Text) :
    (channels.foldl (fun r c => (r.provide c.name).setThreshold c.name t) r).settings other =
      if ∃ c ∈ channels, other = c.name then { r.settings other with own := t } else r.settings other := by
  induction channels generalizing r with
  | nil => simp
  | cons c rest ih =>
    have hc := isRootName_name c
    rw [List.foldl_cons, ih, settings_setThreshold _ hc (r.holds_provide hc), settings_provide]
    by_cases heq : other = c.name
    · simp [heq]
    · simp [heq]

/-- Setting logging up changes the root at most once, and of all others the thresholds of the components. -/
theorem settings_setUp (s : Setup) {t : Threshold} (threshold : s.threshold = .ok t) :
    ∃ r', r.setUp s = (r', none) ∧
      r'.root.settings =
        (if r.root.handlers = [] then { r.root.settings with own := t, handlers := s.handlers }
          else r.root.settings) ∧
      ∀ name, isRootName name = false → r'.settings name =
        if ∃ c ∈ Channel.configured, name = c.name then { r.settings name with own := t } else r.settings name := by
  refine ⟨Channel.configured.foldl (fun r c => (r.provide c.name).setThreshold c.name t)
    (r.configureRoot s.handlers (some t)), by simp only [setUp, threshold], ?_, ?_⟩
  · have hroot : ¬ ∃ c ∈ Channel.configured, rootName = c.name := by decide
    rw [← settings_root, settings_setThresholds, if_neg hroot, settings_root, root_configureRoot]
  · intro name named
    rw [settings_setThresholds, settings_configureRoot _ named]

end

end Registry

/-! ### Calls -/

/-- A call that asks for a logger or sets logging up.  A level is an integer, or a truth value in its place. -/
inductive Call where
  /-- A logger is asked for by its name, with a level if one is given. -/
  | ask (name : Text) (level? : Option Threshold)
  /-- Logging is set up. -/
  | setUp (level : Threshold) (verbose : Bool) (logFile : Option Text)

namespace Call

/-- The name that a logger is asked for by. -/
def asked? : Call → Option Text
  | ask name _ => some name
  | setUp .. => none

/-- Whether it sets logging up. -/
def setsUp : Call → Bool
  | ask .. => false
  | setUp .. => true

/-- The threshold that setting logging up gives: a level, unless everything is to be said. -/
def effective (level : Threshold) (verbose : Bool) : Threshold := if verbose then .ofLevel .debug else level

/-- What the logger of a name is explicitly given for its own threshold.  The level zero gives none where a logger is
asked for, and is given like any other where logging is set up. -/
def given? (name : Text) : Call → Option Threshold
  | ask other level? => if name = other then level?.filter (·.isSet) else none
  | setUp level verbose _ =>
    if ∃ c ∈ Channel.configured, name = c.name then some (effective level verbose) else none

/-- What logging is set up with. -/
def setup (level : Threshold) (verbose : Bool) (logFile : Option Text) : Setup := ⟨level.toJson, verbose, logFile⟩

/-- The files after a call: setting logging up opens a log file. -/
def openFile (tree : Files.Tree) : Call → Except Fault Files.Tree
  | ask .. => .ok tree
  | setUp level verbose logFile => (setup level verbose logFile).openFile tree

/-- The loggers after a call. -/
def change (r : Registry) : Call → Registry × Option Fault
  | ask name level? => r.request name ((level?.map (·.toJson)).getD .null)
  | setUp level verbose logFile => r.setUp (setup level verbose logFile)

/-- A call on the loggers and the files. -/
def run (state : Registry × Files.Tree) (c : Call) : Except Fault (Registry × Files.Tree) := do
  let tree ← c.openFile state.2
  match c.change state.1 with
  | (r, none) => .ok (r, tree)
  | (_, some f) => .error f

/-- A name that a logger is asked for by is not the root's. -/
def IsNamed (c : Call) : Prop := ∀ name ∈ c.asked?, Registry.isRootName name = false

/-! ### What a call does to a logger -/

/-- What a call does to the logger of a name that is not the root's. -/
def effect (name : Text) (l : Logger) (c : Call) : Logger :=
  let l := { l with own := (c.given? name).getD l.own }
  if c.asked? = some name then Registry.attach l else l

/-- What a call does to the root. -/
def rootEffect (l : Logger) : Call → Logger
  | ask .. => l
  | setUp level verbose logFile =>
    if l.handlers = [] then
      { l with own := effective level verbose, handlers := (setup level verbose logFile).handlers }
    else l

section

variable {name : Text} {l : Logger}

theorem effect_own (name : Text) (l : Logger) (c : Call) : (c.effect name l).own = (c.given? name).getD l.own := by
  simp only [effect]
  split <;> simp

theorem isAttached_effect_of_asked {c : Call} (asked : c.asked? = some name) (h : l.IsTidy) :
    (c.effect name l).IsAttached := by
  have hgiven : Logger.IsTidy { l with own := (c.given? name).getD l.own } := h
  simpa only [effect, if_pos asked] using Registry.isAttached_attach hgiven

theorem effect_eq_of_not_asked {c : Call} (asked : c.asked? ≠ some name) :
    c.effect name l = { l with own := (c.given? name).getD l.own } := by
  simp only [effect, if_neg asked]

theorem isTidy_effect_iff (name : Text) (l : Logger) (c : Call) : (c.effect name l).IsTidy ↔ l.IsTidy := by
  by_cases asked : c.asked? = some name
  · simp only [effect, if_pos asked]
    exact Registry.isTidy_attach_iff
  · rw [effect_eq_of_not_asked asked]
    exact Iff.rfl

theorem isAttached_effect (h : l.IsAttached) (c : Call) : (c.effect name l).IsAttached := by
  by_cases asked : c.asked? = some name
  · exact isAttached_effect_of_asked asked h.isTidy
  · rw [effect_eq_of_not_asked asked]
    exact h

theorem effect_effect (name : Text) (l : Logger) (c : Call) : c.effect name (c.effect name l) = c.effect name l := by
  have hgiven : (c.given? name).getD ((c.given? name).getD l.own) = (c.given? name).getD l.own := by
    cases c.given? name <;> rfl
  by_cases asked : c.asked? = some name
  · simp only [effect, if_pos asked, Registry.attach_given, Registry.attach_attach, hgiven]
  · simp only [effect, if_neg asked, hgiven]

theorem rootEffect_rootEffect (l : Logger) (c : Call) : c.rootEffect (c.rootEffect l) = c.rootEffect l := by
  cases c with
  | ask => rfl
  | setUp level verbose logFile => by_cases hbare : l.handlers = [] <;> simp [rootEffect, hbare, Setup.handlers]

theorem rootEffect_of_configured (h : l.handlers ≠ []) (c : Call) : c.rootEffect l = l := by
  cases c <;> simp [rootEffect, h]

end

/-! ### What a call does to all loggers -/

theorem requested_level (level? : Option Threshold) :
    Threshold.requested ((level?.map (·.toJson)).getD .null) = .ok (level?.filter (·.isSet)) := by
  cases level? with
  | none => rfl
  | some level => simp [Threshold.requested_toJson, Option.filter]

theorem threshold_setup (level : Threshold) (verbose : Bool) (logFile : Option Text) :
    (setup level verbose logFile).threshold = .ok (effective level verbose) := by
  cases verbose <;> simp [setup, Setup.threshold, effective]

/-- **A call acts on each logger by itself**, and does not fail. -/
theorem change_eq {c : Call} (named : c.IsNamed) (r : Registry) :
    ∃ r', c.change r = (r', none) ∧ r'.root.settings = c.rootEffect r.root.settings ∧
      ∀ name, Registry.isRootName name = false → r'.settings name = c.effect name (r.settings name) := by
  cases c with
  | ask asked level? =>
    have hnamed : Registry.isRootName asked = false := named asked rfl
    obtain ⟨r', hr', hsettings⟩ := r.settings_request hnamed (requested_level level?)
    refine ⟨r', hr', ?_, fun name _ => ?_⟩
    · have hne : Registry.rootName ≠ asked := by
        rintro rfl
        exact absurd hnamed (by simp)
      rw [← Registry.settings_root, hsettings, Function.update_of_ne hne]
      rfl
    · rw [hsettings]
      by_cases heq : name = asked
      · simp [heq, effect, given?, asked?]
      · simp [heq, effect, given?, asked?, Ne.symm heq]
  | setUp level verbose logFile =>
    obtain ⟨r', hr', hroot, hothers⟩ := r.settings_setUp _ (threshold_setup level verbose logFile)
    refine ⟨r', hr', hroot, fun name hname => ?_⟩
    rw [hothers name hname]
    by_cases hc : ∃ c ∈ Channel.configured, name = c.name
    · simp [effect, given?, asked?, hc]
    · simp [effect, given?, asked?, hc]

/-- A call that is made once more changes nothing that is set of any logger. -/
theorem change_again {c : Call} (named : c.IsNamed) (r : Registry) :
    ∃ once twice, c.change r = (once, none) ∧ c.change once = (twice, none) ∧ twice.settings = once.settings := by
  obtain ⟨once, honce, hroot, hothers⟩ := change_eq named r
  obtain ⟨twice, htwice, hroot', hothers'⟩ := change_eq named once
  refine ⟨once, twice, honce, htwice, funext fun name => ?_⟩
  cases hname : Registry.isRootName name
  case true =>
    have hsettings (r : Registry) : r.settings name = r.root.settings := by
      simp [Registry.settings, Registry.logger, hname]
    rw [hsettings, hsettings, hroot', hroot, rootEffect_rootEffect]
  case false => rw [hothers' name hname, hothers name hname, effect_effect]

end Call

/-! ### Runs of calls -/

/-- The loggers and the files after a run of calls, as far as none fails. -/
def runAll (calls : List Call) (r : Registry) (tree : Files.Tree) : Except Fault (Registry × Files.Tree) :=
  calls.foldlM Call.run (r, tree)

/-- The files after a run of calls, if every log file can be opened. -/
def openAll (calls : List Call) (tree : Files.Tree) : Except Fault Files.Tree := calls.foldlM Call.openFile tree

section

variable {name : Text} {l : Logger} {calls : List Call}

/-- **A run of calls acts on each logger by itself**, and does not fail if the log files can be opened. -/
theorem runAll_settings (named : ∀ c ∈ calls, c.IsNamed) (r : Registry) {tree files : Files.Tree}
    (opened : openAll calls tree = .ok files) :
    ∃ final, runAll calls r tree = .ok (final, files) ∧
      final.root.settings = calls.foldl Call.rootEffect r.root.settings ∧
      ∀ name, Registry.isRootName name = false →
        final.settings name = calls.foldl (Call.effect name) (r.settings name) := by
  induction calls generalizing r tree with
  | nil =>
    cases opened
    exact ⟨r, rfl, rfl, fun _ _ => rfl⟩
  | cons c calls ih =>
    rw [openAll, List.foldlM_cons] at opened
    obtain ⟨tree', htree', opened⟩ := exists_of_bind_eq_ok opened
    -- the files only decide whether a call goes on, so that the two parts of the state can be followed apart
    obtain ⟨hc, hcalls⟩ := List.forall_mem_cons.1 named
    obtain ⟨r', hr', hroot, hothers⟩ := Call.change_eq hc r
    obtain ⟨final, hfinal, hroot', hothers'⟩ := ih hcalls r' opened
    have hstep : c.run (r, tree) = .ok (r', tree') := by
      simp only [Call.run, htree', hr']
      rfl
    refine ⟨final, ?_, ?_, fun name hname => ?_⟩
    · rw [runAll, List.foldlM_cons, hstep]
      exact hfinal
    · rw [hroot', hroot, List.foldl_cons]
    · rw [hothers' name hname, hothers name hname, List.foldl_cons]

/-! ### One logger through a run -/

theorem isTidy_foldl_effect_iff : (calls.foldl (Call.effect name) l).IsTidy ↔ l.IsTidy :=
  List.foldlRecOn calls _ (motive := fun l' => Logger.IsTidy l' ↔ l.IsTidy) Iff.rfl fun l' h c _ =>
    (Call.isTidy_effect_iff name l' c).trans h

/-- A logger that is asked for at any time has one console handler from then on, unless it had some otherwise before. -/
theorem isAttached_foldl_effect_iff {c : Call} (mem : c ∈ calls) (asked : c.asked? = some name) :
    (calls.foldl (Call.effect name) l).IsAttached ↔ l.IsTidy := by
  refine ⟨fun h => isTidy_foldl_effect_iff.1 h.isTidy, fun h => ?_⟩
  obtain ⟨before, after, rfl⟩ := List.append_of_mem mem
  rw [List.foldl_append, List.foldl_cons]
  -- a logger that has its console handler is left as it is by whoever asks for it again
  refine List.foldlRecOn after _ ?_ fun _ h c _ => Call.isAttached_effect h c
  exact Call.isAttached_effect_of_asked asked (isTidy_foldl_effect_iff.2 h)

/-- A logger keeps its threshold until it is given another one. -/
theorem own_foldl_effect (h : ∀ c ∈ calls, c.given? name = none) :
    (calls.foldl (Call.effect name) l).own = l.own :=
  List.foldlRecOn calls _ (motive := fun l' : Logger => l'.own = l.own) rfl fun l' hl' c hc => by
    rw [Call.effect_own, h c hc, Option.getD_none, hl']

/-- The root is as it was until logging is set up. -/
theorem foldl_rootEffect_of_not_setsUp (h : ∀ c ∈ calls, ¬ c.setsUp) : calls.foldl Call.rootEffect l = l := by
  induction calls with
  | nil => rfl
  | cons c calls ih =>
    obtain ⟨hc, hcalls⟩ := List.forall_mem_cons.1 h
    cases c with
    | ask => exact ih hcalls
    | setUp => exact absurd rfl hc

theorem foldl_rootEffect_of_configured (h : l.handlers ≠ []) : calls.foldl Call.rootEffect l = l :=
  List.foldl_fixed' (Call.rootEffect_of_configured h) calls

end

/-- **Setting logging up is idempotent over any run of calls.**  A root without handlers to begin with, log files that
can be opened, and names other than the root's provided, the run does not fail, and after it:

* every logger that has been asked for has one console handler and keeps its records from the logger above, however
  often it has been asked for; only one that had console handlers in another way to begin with keeps those;
* every component has the threshold that setting logging up gave it, unless a later call has given it one explicitly;
* the root has the threshold and the handlers that setting logging up for the first time gave it, whatever comes
  after. -/
theorem logging_set_up_once {r : Registry} {tree files : Files.Tree} {calls : List Call}
    (bare : r.root.handlers = []) (named : ∀ c ∈ calls, c.IsNamed) (opened : openAll calls tree = .ok files) :
    ∃ final, runAll calls r tree = .ok (final, files) ∧
      (∀ c ∈ calls, ∀ name ∈ c.asked?, (r.logger name).IsTidy ↔
        (final.logger name).handlers.count .console = 1 ∧ (final.logger name).propagates = false) ∧
      ∀ before level verbose logFile after, calls = before ++ .setUp level verbose logFile :: after →
        (∀ component ∈ Channel.configured, (∀ later ∈ after, later.given? component.name = none) →
          (final.logger component.name).own = Call.effective level verbose) ∧
        ((∀ earlier ∈ before, ¬ earlier.setsUp) →
          final.root.own = Call.effective level verbose ∧
          final.root.handlers = (Call.setup level verbose logFile).handlers) := by
  obtain ⟨final, hrun, hroot, hothers⟩ := runAll_settings named r opened
  refine ⟨final, hrun, fun c hc name hname => ?_, ?_⟩
  · have hattached := isAttached_foldl_effect_iff (l := r.settings name) hc hname
    rw [← hothers name (named c hc name hname)] at hattached
    exact hattached.symm
  · rintro before level verbose logFile after rfl
    rw [List.foldl_append, List.foldl_cons] at hroot
    refine ⟨fun component hcomponent hlater => ?_, fun hearlier => ?_⟩
    · have hown := congrArg Logger.own (hothers component.name (Registry.isRootName_name component))
      rw [List.foldl_append, List.foldl_cons, own_foldl_effect hlater, Call.effect_own] at hown
      have hgiven : Call.given? component.name (.setUp level verbose logFile) = some (Call.effective level verbose) :=
        if_pos ⟨component, hcomponent, rfl⟩
      rwa [hgiven] at hown
    · have hset : Call.rootEffect r.root.settings (.setUp level verbose logFile) =
          { r.root.settings with
            own := Call.effective level verbose
            handlers := (Call.setup level verbose logFile).handlers } := if_pos bare
      rw [foldl_rootEffect_of_not_setsUp hearlier, hset, foldl_rootEffect_of_configured (List.cons_ne_nil _ _)] at hroot
      exact ⟨congrArg Logger.own hroot, congrArg Logger.handlers hroot⟩

/-- Logging is set up with a log file, and then again with everything to be said; a component is asked for before and
after that. -/
theorem logging_set_up_once_verbose :
    ∃ final files, runAll
        [.ask "CLI" none, .setUp (.number 20) false (some "run.log"), .setUp (.number 30) true none,
          .ask "CLI" (some (.number 40)), .ask "CLI" none]
        .initial .empty = .ok (final, files) ∧
      ((final.logger "CLI").handlers.count .console = 1 ∧ (final.logger "CLI").propagates = false) ∧
      (final.logger "Aggregator").own = .ofLevel .debug ∧
      final.root.own = .number 20 ∧ final.root.handlers = [.stream, .file] := by
  obtain ⟨final, hrun, hasked, hsetUp⟩ := @logging_set_up_once .initial .empty
    (Files.Tree.empty.put ⟨.working, ["run.log"]⟩ (.file []))
    [.ask "CLI" none, .setUp (.number 20) false (some "run.log"), .setUp (.number 30) true none,
      .ask "CLI" (some (.number 40)), .ask "CLI" none]
    rfl (by simp only [Call.IsNamed, Call.asked?]; decide) rfl
  refine ⟨final, _, hrun, (hasked (.ask "CLI" none) (by simp) "CLI" rfl).1 ?_, ?_, ?_⟩
  · intro h
    exact absurd h (by decide)
  · refine (hsetUp [_, _] (.number 30) true none [_, _] rfl).1 .aggregation (by decide) ?_
    simp only [List.forall_mem_cons, Call.given?]
    decide
  · exact (hsetUp [_] (.number 20) false (some "run.log") [_, _, _] rfl).2 (by simp [Call.setsUp])

end CpeMatch.Log
