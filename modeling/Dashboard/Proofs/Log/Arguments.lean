import Dashboard.Log.Settings
import Dashboard.Proofs.CommandLine.Switches

namespace Dashboard.Log

open CommandLine (Switch IsOther)

/-- The level that a command line asks for: everything, else debug records, else warnings alone, else
what is of interest. -/
def Level.asked (verbose debug quiet : Bool) : Level :=
  if verbose then .verbose else if debug then .debug else if quiet then .warning else .info

namespace Settings

/-- Whether the scan takes an argument into account. -/
def isRead (argument : String) : Bool :=
  argument = "--verbose" || argument = "--quiet" || (debugKey? argument).isSome

def heed (settings : Settings) : Switch → Settings
  | .verbose => { settings with threshold := .verbose }
  | .quiet => { settings with threshold := .warning }
  | .debug key =>
    if settings.debugKeys.contains key then settings
    else { settings with debugKeys := settings.debugKeys ++ [key] }

theorem readArgument_of_not_isRead (settings : Settings) {argument : String}
    (skipped : isRead argument = false) : settings.readArgument argument = settings := by
  simp only [isRead, Bool.or_eq_false_iff, decide_eq_false_iff_not] at skipped
  obtain ⟨⟨noVerbose, noQuiet⟩, noKey⟩ := skipped
  rw [readArgument, if_neg noVerbose, if_neg noQuiet]
  cases key : debugKey? argument with
  | none => rfl
  | some key => simp [key] at noKey

theorem debugKey?_argument (key : String) : debugKey? (Switch.argument (.debug key)) = some key := by
  have begins : "--debug-".toList.isPrefixOf (Switch.argument (.debug key)).toList = true := by
    simp [Switch.argument, Switch.name]
  rw [debugKey?, if_pos begins, Switch.argument_toList]
  simp [Switch.name]

/-- A switch is heeded by the scan under its own name. -/
theorem readArgument_argument (settings : Settings) (switch : Switch) :
    settings.readArgument switch.argument = settings.heed switch := by
  cases switch with
  | verbose => rfl
  | quiet => rfl
  | debug key =>
    have noVerbose : Switch.argument (.debug key) ≠ "--verbose" := by
      rw [Ne, ← String.toList_inj, Switch.argument_toList]
      simp [Switch.name]
    have noQuiet : Switch.argument (.debug key) ≠ "--quiet" := by
      rw [Ne, ← String.toList_inj, Switch.argument_toList]
      simp [Switch.name]
    rw [readArgument, if_neg noVerbose, if_neg noQuiet, debugKey?_argument]
    rfl

/-- What the full reading takes for no switch the scan passes over. -/
theorem not_isRead_of_isOther {argument : String} (other : IsOther argument.toList) :
    isRead argument = false := by
  have noKey : debugKey? argument = none := by
    rw [debugKey?, if_neg]
    generalize argument.toList = letters at other
    cases other with
    | option parameter rest => cases parameter <;> simp [CommandLine.Parameter.name]
    | closing => simp
    | value _ inside =>
      intro begins
      obtain ⟨rest, letters⟩ := List.isPrefixOf_iff_prefix.mp begins
      exact inside _ letters.symm
  have noVerbose : argument ≠ "--verbose" := by
    rintro rfl
    cases Switch.ofArgument?_of_isOther other
  have noQuiet : argument ≠ "--quiet" := by
    rintro rfl
    cases Switch.ofArgument?_of_isOther other
  simp [isRead, noVerbose, noQuiet, noKey]

theorem ofArgument?_of_not_isRead {argument : String} (skipped : isRead argument = false) :
    Switch.ofArgument? argument = none := by
  cases found : Switch.ofArgument? argument with
  | none => rfl
  | some switch =>
    obtain ⟨-, rfl⟩ := Switch.argument_of_ofArgument? found
    cases switch with
    | verbose => cases skipped
    | quiet => cases skipped
    | debug key => simp [isRead, debugKey?_argument] at skipped

theorem exists_tag {argument key : String} (found : Switch.ofArgument? argument = some (.debug key)) :
    ∃ tag : Tag, tag.key = key := by
  have known : key ∈ CommandLine.debugKeys := by
    simpa [Switch.all] using (Switch.argument_of_ofArgument? found).1
  simp only [CommandLine.debugKeys, List.mem_cons, List.not_mem_nil, or_false] at known
  rcases known with rfl | rfl | rfl | rfl | rfl | rfl | rfl | rfl
  · exact ⟨.system, rfl⟩
  · exact ⟨.config, rfl⟩
  · exact ⟨.hub, rfl⟩
  · exact ⟨.rateLimit, rfl⟩
  · exact ⟨.cache, rfl⟩
  · exact ⟨.metrics, rfl⟩
  · exact ⟨.webserver, rfl⟩
  · exact ⟨.library "", rfl⟩

theorem foldl_readArgument {arguments : List String}
    (kinds : ∀ argument ∈ arguments,
      (Switch.ofArgument? argument).isSome = true ∨ isRead argument = false)
    (settings : Settings) :
    arguments.foldl readArgument settings =
      (arguments.filterMap Switch.ofArgument?).foldl heed settings := by
  induction arguments generalizing settings with
  | nil => rfl
  | cons argument rest inductionHypothesis =>
    have later := inductionHypothesis fun text present => kinds text (List.mem_cons_of_mem _ present)
    rw [List.foldl_cons, later]
    cases found : Switch.ofArgument? argument with
    | some switch =>
      obtain ⟨-, rfl⟩ := Switch.argument_of_ofArgument? found
      rw [List.filterMap_cons_some found, List.foldl_cons, readArgument_argument]
    | none =>
      have skipped : isRead argument = false := by
        rcases kinds argument List.mem_cons_self with turned | skipped
        · rw [found] at turned
          cases turned
        · exact skipped
      rw [List.filterMap_cons_none found, readArgument_of_not_isRead settings skipped]

theorem mem_debugKeys_foldl_heed (switches : List Switch) (settings : Settings) (key : String) :
    key ∈ (switches.foldl heed settings).debugKeys ↔
      key ∈ settings.debugKeys ∨ .debug key ∈ switches := by
  induction switches generalizing settings with
  | nil => simp
  | cons switch rest inductionHypothesis =>
    rw [List.foldl_cons, inductionHypothesis]
    cases switch with
    | verbose => simp [heed]
    | quiet => simp [heed]
    | debug other =>
      by_cases known : settings.debugKeys.contains other = true
      · have present : other ∈ settings.debugKeys := by simpa using known
        simp only [heed, known, if_true, List.mem_cons, Switch.debug.injEq]
        constructor
        · rintro (before | later)
          · exact Or.inl before
          · exact Or.inr (Or.inr later)
        · rintro (before | rfl | later)
          · exact Or.inl before
          · exact Or.inl present
          · exact Or.inr later
      · rw [heed, if_neg known]
        simp [or_assoc]

theorem nodup_debugKeys_foldl_heed (switches : List Switch) {settings : Settings}
    (once : settings.debugKeys.Nodup) : (switches.foldl heed settings).debugKeys.Nodup := by
  induction switches generalizing settings with
  | nil => exact once
  | cons switch rest inductionHypothesis =>
    rw [List.foldl_cons]
    apply inductionHypothesis
    cases switch with
    | verbose => exact once
    | quiet => exact once
    | debug key =>
      rw [heed]
      split
      · exact once
      · rename_i unknown
        refine List.nodup_append.mpr ⟨once, by simp, ?_⟩
        rintro present known _ (last : _ ∈ [key]) rfl
        rw [List.mem_singleton.mp last] at known
        exact unknown (by simpa using known)

/-- The level that a switch asks for when it stands alone. -/
def level? : Switch → Option Level
  | .verbose => some .verbose
  | .quiet => some .warning
  | .debug _ => none

theorem threshold_foldl_heed (switches : List Switch) (settings : Settings) :
    (switches.foldl heed settings).threshold =
      (switches.filterMap level?).getLast?.getD settings.threshold := by
  induction switches generalizing settings with
  | nil => rfl
  | cons switch rest inductionHypothesis =>
    rw [List.foldl_cons, inductionHypothesis]
    cases switch with
    | verbose => simp [heed, level?, List.getLast?_cons]
    | quiet => simp [heed, level?, List.getLast?_cons]
    | debug key =>
      have kept : (settings.heed (.debug key)).threshold = settings.threshold := by
        rw [heed]
        split <;> rfl
      simp [kept, level?]

/-- Whether a switch asks for debug records. -/
def isDebug : Switch → Bool
  | .debug _ => true
  | _ => false

theorem debugKeys_ne_nil_iff (switches : List Switch) :
    (switches.foldl heed standard).debugKeys ≠ [] ↔ switches.any isDebug = true := by
  rw [Ne, List.eq_nil_iff_forall_not_mem, Classical.not_forall, List.any_eq_true]
  constructor
  · rintro ⟨key, known⟩
    rcases (mem_debugKeys_foldl_heed switches standard key).mp (Classical.not_not.mp known) with
      before | present
    · cases before
    · exact ⟨.debug key, present, rfl⟩
  · rintro ⟨switch, present, asks⟩
    cases switch with
    | debug key =>
      exact ⟨key, Classical.not_not.mpr
        ((mem_debugKeys_foldl_heed switches standard key).mpr (Or.inr present))⟩
    | verbose => cases asks
    | quiet => cases asks

theorem raiseForDebug_debugKeys (settings : Settings) :
    settings.raiseForDebug.debugKeys = settings.debugKeys := by
  rw [raiseForDebug]
  split <;> rfl

/-- The last level asked for, raised to debug records where keys for them would be pointless else. -/
theorem threshold_of_last {switches : List Switch} {level : Level}
    (last : (switches.filterMap level?).getLast?.getD .info = level) :
    (switches.foldl heed standard).raiseForDebug.threshold =
      if switches.any isDebug = true ∧ level < .debug then .debug else level := by
  have threshold := (threshold_foldl_heed switches standard).trans last
  by_cases debug : switches.any isDebug = true
  · have keys := (debugKeys_ne_nil_iff switches).mpr debug
    by_cases below : level < .debug
    · rw [raiseForDebug, if_pos ⟨keys, threshold ▸ below⟩, if_pos ⟨debug, below⟩]
    · rw [raiseForDebug, if_neg (fun both => below (threshold ▸ both.2)),
        if_neg (fun both => below both.2), threshold]
  · have keys := fun keyed => debug ((debugKeys_ne_nil_iff switches).mp keyed)
    rw [raiseForDebug, if_neg (fun both => keys both.1), if_neg (fun both => debug both.1), threshold]

/-- Whether a switch asks for a level of its own. -/
def isLoud (switch : Switch) : Bool := (level? switch).isSome

/-- The switches that ask for a level, when none is on twice. -/
theorem filter_isLoud_cases {switches : List Switch} (once : switches.Nodup) :
    switches.filter isLoud = [] ∨ switches.filter isLoud = [.verbose] ∨
      switches.filter isLoud = [.quiet] ∨ switches.filter isLoud = [.quiet, .verbose] ∨
      switches.filter isLoud = [.verbose, .quiet] := by
  have nodup := once.filter isLoud
  have loud : ∀ switch ∈ switches.filter isLoud, switch = .verbose ∨ switch = .quiet := by
    intro switch present
    have asks := (List.mem_filter.mp present).2
    cases switch with
    | verbose => exact Or.inl rfl
    | quiet => exact Or.inr rfl
    | debug key => cases asks
  generalize switches.filter isLoud = list at nodup loud
  -- a third one would be one of the first two again
  rcases list with _ | ⟨first, _ | ⟨second, _ | ⟨third, rest⟩⟩⟩
  · simp
  · rcases loud first (by simp) with rfl | rfl <;> simp
  · rcases loud first (by simp) with rfl | rfl <;> rcases loud second (by simp) with rfl | rfl <;>
      simp at nodup ⊢
  · rcases loud first (by simp) with rfl | rfl <;> rcases loud second (by simp) with rfl | rfl <;>
      rcases loud third (by simp) with rfl | rfl <;> simp at nodup

theorem filterMap_level? (switches : List Switch) :
    switches.filterMap level? = (switches.filter isLoud).filterMap level? := by
  rw [List.filterMap_filter]
  refine congrArg (fun level => switches.filterMap level) (funext fun switch => ?_)
  cases switch with
  | verbose | quiet | debug key => rfl

theorem contains_of_isLoud (switches : List Switch) {switch : Switch} (loud : isLoud switch = true) :
    switches.contains switch = (switches.filter isLoud).contains switch := by
  rw [Bool.eq_iff_iff, List.contains_iff_mem, List.contains_iff_mem, List.mem_filter]
  exact ⟨fun present => ⟨present, loud⟩, And.left⟩

theorem sublist_iff_of_isLoud (switches : List Switch) {first second : Switch}
    (loud : isLoud first = true ∧ isLoud second = true) :
    [first, second].Sublist switches ↔ [first, second].Sublist (switches.filter isLoud) := by
  constructor
  · intro order
    simpa [loud] using order.filter isLoud
  · intro order
    exact order.trans List.filter_sublist

/-- The threshold by the switches that are on, whatever their order, unless both verbose and quiet are
among them; then the later one stands for both. -/
theorem threshold_of_switches {switches : List Switch} (once : switches.Nodup) :
    let threshold := (switches.foldl heed standard).raiseForDebug.threshold
    let verbose := switches.contains .verbose
    let debug := switches.any isDebug
    let quiet := switches.contains .quiet
    ((verbose && quiet) = false → threshold = .asked verbose debug quiet) ∧
      ((verbose && quiet) = true →
        [.quiet, .verbose].Sublist switches ∨ [.verbose, .quiet].Sublist switches) ∧
      ([.quiet, .verbose].Sublist switches → threshold = .asked true debug false) ∧
      ([.verbose, .quiet].Sublist switches → threshold = .asked false debug true) := by
  intro threshold verbose debug quiet
  have raised : ∀ {level}, ((switches.filter isLoud).filterMap level?).getLast?.getD .info = level →
      threshold = if debug = true ∧ level < .debug then .debug else level :=
    fun last => threshold_of_last ((filterMap_level? switches).symm ▸ last)
  have hasVerbose : verbose = (switches.filter isLoud).contains .verbose :=
    contains_of_isLoud switches rfl
  have hasQuiet : quiet = (switches.filter isLoud).contains .quiet := contains_of_isLoud switches rfl
  rw [sublist_iff_of_isLoud switches ⟨rfl, rfl⟩, sublist_iff_of_isLoud switches ⟨rfl, rfl⟩, hasVerbose,
    hasQuiet]
  clear_value threshold debug
  rcases filter_isLoud_cases once with alone | alone | alone | alone | alone
  all_goals
    rw [alone] at raised ⊢
    have level := raised rfl
    rw [level]
    cases debug <;> decide

theorem not_isRead_of_name {name : String} (noVerbose : name ≠ "--verbose") (noQuiet : name ≠ "--quiet")
    (noDebug : ¬ "--debug-".toList <+: name.toList) : isRead name = false := by
  have noKey : debugKey? name = none := by
    rw [debugKey?, if_neg]
    intro begins
    exact noDebug (List.isPrefixOf_iff_prefix.mp begins)
  simp [isRead, noVerbose, noQuiet, noKey]

/-- On an accepted command line the scan does what heeding the switches that are on would do. -/
theorem ofArguments_eq {arguments : List String} {line : CommandLine}
    (accepted : CommandLine.parse arguments = .ok line)
    (skipped : ∀ name ∈ arguments.head?, isRead name = false) :
    line.switches = arguments.filterMap Switch.ofArgument? ∧
      ofArguments arguments = (line.switches.foldl heed standard).raiseForDebug := by
  obtain ⟨switches, -, kinds⟩ := CommandLine.parse_switches accepted
  have sameSwitches : line.switches = arguments.filterMap Switch.ofArgument? := by
    rw [switches]
    cases arguments with
    | nil => rfl
    | cons name rest =>
      have nothing := ofArgument?_of_not_isRead (skipped name rfl)
      rw [List.filterMap_cons_none nothing]
      rfl
  refine ⟨sameSwitches, ?_⟩
  rw [ofArguments, foldl_readArgument, ← sameSwitches]
  intro argument present
  cases arguments with
  | nil => cases present
  | cons name rest =>
    rcases List.mem_cons.mp present with rfl | later
    · exact Or.inr (skipped _ rfl)
    · exact (kinds argument later).imp_right not_isRead_of_isOther

/-- The two readers of the command line agree. Of every list that the full reading accepts, and in which
the name of the program does not itself look like a switch to the scan, the scan takes the keys of the
debug switches that are on, each of which is the key of a subsystem, and the threshold that the switches
ask for. Their order matters only if verbose and quiet are both on; then the later one in the list
stands for both. -/
theorem settings_of_accepted {arguments : List String} {line : CommandLine}
    (accepted : CommandLine.parse arguments = .ok line)
    (plain : ∀ name ∈ arguments.head?,
      name ≠ "--verbose" ∧ name ≠ "--quiet" ∧ ¬ "--debug-".toList <+: name.toList) :
    let settings := ofArguments arguments
    let verbose := line.switches.contains .verbose
    let debug := line.switches.any isDebug
    let quiet := line.switches.contains .quiet
    (settings.debugKeys.Nodup ∧
        ∀ key, key ∈ settings.debugKeys ↔ .debug key ∈ line.switches) ∧
      (∀ key, .debug key ∈ line.switches → ∃ tag : Tag, tag.key = key) ∧
      ((verbose && quiet) = false → settings.threshold = .asked verbose debug quiet) ∧
      ((verbose && quiet) = true →
        ["--quiet", "--verbose"].Sublist arguments ∨ ["--verbose", "--quiet"].Sublist arguments) ∧
      (["--quiet", "--verbose"].Sublist arguments → settings.threshold = .asked true debug false) ∧
      (["--verbose", "--quiet"].Sublist arguments → settings.threshold = .asked false debug true) := by
  intro settings verbose debug quiet
  have skipped : ∀ name ∈ arguments.head?, isRead name = false := by
    intro text first
    obtain ⟨noVerbose, noQuiet, noDebug⟩ := plain text first
    exact not_isRead_of_name noVerbose noQuiet noDebug
  obtain ⟨switches, scanned⟩ := ofArguments_eq accepted skipped
  obtain ⟨neither, both, verboseLast, quietLast⟩ :=
    threshold_of_switches (CommandLine.parse_switches accepted).2.1
  rw [← scanned] at neither verboseLast quietLast
  have keys : settings.debugKeys = (line.switches.foldl heed standard).debugKeys :=
    (congrArg debugKeys scanned).trans (raiseForDebug_debugKeys _)
  have arguments_of : (line.switches.map Switch.argument).Sublist arguments :=
    switches ▸ Switch.map_argument_sublist arguments
  have switches_of : ∀ {texts : List String}, texts.Sublist arguments →
      (texts.filterMap Switch.ofArgument?).Sublist line.switches :=
    fun order => switches ▸ order.filterMap Switch.ofArgument?
  refine ⟨⟨?_, fun key => ?_⟩, ?_, neither, ?_, fun order => ?_, fun order => ?_⟩
  · rw [keys]
    exact nodup_debugKeys_foldl_heed line.switches List.nodup_nil
  · rw [keys, mem_debugKeys_foldl_heed]
    constructor
    · rintro (before | present)
      · cases before
      · exact present
    · exact Or.inr
  · intro key present
    rw [switches] at present
    obtain ⟨argument, -, found⟩ := List.mem_filterMap.mp present
    exact exists_tag found
  · intro given
    rcases both given with order | order
    · exact Or.inl ((order.map Switch.argument).trans arguments_of)
    · exact Or.inr ((order.map Switch.argument).trans arguments_of)
  · exact verboseLast (switches_of order)
  · exact quietLast (switches_of order)

/-- The value of an option may look like a switch, and the later of verbose and quiet gives way to a
debug switch wherever that stands. -/
theorem settings_of_accepted_quiet_last :
    ofArguments ["dashhub", "--debug-hub", "--verbose", "--host=--debug-cache", "--quiet", "--port",
        "80", "--"] = ⟨.debug, ["hub"]⟩ ∧
      (ofArguments ["dashhub", "--debug-hub", "--verbose", "--host=--debug-cache", "--quiet", "--port",
        "80", "--"]).threshold = .asked false true true := by
  have accepted : CommandLine.parse ["dashhub", "--debug-hub", "--verbose", "--host=--debug-cache",
      "--quiet", "--port", "80", "--"] =
      .ok ⟨none, some "--debug-cache", some 80, none, [.debug "hub", .verbose, .quiet]⟩ := by rfl
  have agreed := settings_of_accepted accepted (by decide)
  exact ⟨by decide, agreed.2.2.2.2.2 (by decide)⟩

/-- A program whose name begins like a debug switch, without being one: the full reading does not look at
it, and the scan takes the rest of it for a key. -/
theorem scan_of_program_name :
    Switch.ofArgument? "--debug-dashhub" = none ∧
      CommandLine.parse ["--debug-dashhub"] = .ok ⟨none, none, none, none, []⟩ ∧
      ofArguments ["--debug-dashhub"] = ⟨.debug, ["dashhub"]⟩ := by
  refine ⟨by decide, rfl, by decide⟩

end Settings
end Dashboard.Log
