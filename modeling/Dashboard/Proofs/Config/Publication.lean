import Dashboard.Proofs.Files.Writing
import Dashboard.Proofs.Text.Utf8
import Dashboard.Startup

namespace Dashboard.Config

/-- The settings that the text of a file gives, if it can be read and gives any. -/
def offeredBy? (files : Files) (path : String) : Option Config :=
  (files.read path).toOption.bind fun source => (parse source).toOption

/-- The same, where a file may be missing. -/
def offeredOrStandard? (files : Files) (path : String) : Option Config :=
  if files.contains path then offeredBy? files path else some .standard

theorem toOption_readPresent (files : Files) (path : String) :
    (readPresent files path).toOption = offeredBy? files path := by
  simp only [readPresent, offeredBy?, parseFrom]
  cases files.read path with
  | error trouble => rfl
  | ok source =>
    simp only [Except.toOption, Option.bind_some]
    cases parse source <;> rfl

theorem toOption_readOrStandard (files : Files) (path : String) :
    (readOrStandard files path).1.toOption = offeredOrStandard? files path := by
  simp only [readOrStandard, offeredOrStandard?]
  split
  · exact toOption_readPresent files path
  · rfl

/-- Settings that are offered replace those of a store that is ready for them, and are answered in some
way; else the attempt fails and the store stays. -/
inductive Tried {ε α : Type} (answer : Config → α) (store : Store) (ready : Prop)
    (offered : Option Config) : Except ε α → Store → Prop
  | published {config : Config} (waits : ready) (offers : offered = some config) :
    Tried answer store ready offered (.ok (answer config)) ⟨some config⟩
  | failed {error : ε} (lacks : ready → offered = none) :
    Tried answer store ready offered (.error error) store

namespace Store

theorem install_tried (store : Store) (config : Config) :
    Tried (fun _ => ()) store (store.installed = none) (some config) (store.install config).1
      (store.install config).2 := by
  cases present : store.installed with
  | none =>
    simp only [install, present]
    apply Tried.published
    · trivial
    · rfl
  | some earlier =>
    simp only [install, present]
    apply Tried.failed
    nofun

theorem load_tried (store : Store) (files : Files) (path : String) :
    Tried (fun _ => ()) store (store.installed = none) (offeredOrStandard? files path)
      (store.load files path).1 (store.load files path).2.1 := by
  have offers := toOption_readOrStandard files path
  simp only [load]
  split
  · rename_i error records gave
    rw [gave] at offers
    exact .failed fun _ => offers.symm
  · rename_i config records gave
    rw [gave] at offers
    rw [← offers]
    exact store.install_tried config

theorem reload_tried (store : Store) (files : Files) (path : String) :
    Tried (fun _ => ()) store (store.installed ≠ none) (offeredBy? files path)
      (store.reload files path).1 (store.reload files path).2.1 := by
  have offers := toOption_readPresent files path
  simp only [reload]
  cases gave : readPresent files path with
  | error error =>
    rw [gave] at offers
    exact .failed fun _ => offers.symm
  | ok config =>
    rw [gave] at offers
    cases present : store.installed with
    | none => exact .failed fun ready => absurd rfl ready
    | some earlier => exact .published nofun offers.symm

end Store

/-- The settings of a file, with those in their place that a command line names. -/
def offeredTo? (line : CommandLine) (files : Files) : Option Config :=
  (offeredOrStandard? files (Startup.configPath line)).map fun given =>
    { given with
      webserver := { given.webserver with
        host := line.host.getD given.webserver.host
        port := line.port.getD given.webserver.port }
      rateLimit := { given.rateLimit with
        requestsPerMinute := line.requestsPerMinute.getD given.rateLimit.requestsPerMinute } }

theorem loadConfig_tried (line : CommandLine) (store : Store) (files : Files) :
    Tried id store (store.installed = none) (offeredTo? line files)
      (Startup.loadConfig line store files).1 (Startup.loadConfig line store files).2.1 := by
  have offers := toOption_readOrStandard files (Startup.configPath line)
  simp only [Startup.loadConfig]
  split
  · rename_i error records gave
    rw [gave] at offers
    apply Tried.failed
    intro
    rw [offeredTo?, ← offers]
    rfl
  · rename_i config records gave
    rw [gave] at offers
    have named : offeredTo? line files = some (Startup.override line config) := by
      rw [offeredTo?, ← offers]
      rfl
    cases present : store.installed with
    | none =>
      simp only [Store.install, present]
      exact .published trivial named
    | some earlier =>
      simp only [Store.install, present]
      exact .failed nofun

/-- What is returned at the start is what is put in force. -/
theorem loadConfig_offered {line : CommandLine} {store : Store} {files : Files} {config : Config}
    (returned : (Startup.loadConfig line store files).1 = .ok config) :
    offeredTo? line files = some config := by
  have tried := loadConfig_tried line store files
  rw [returned] at tried
  generalize (Startup.loadConfig line store files).2.1 = after at tried
  cases tried with
  | published waits offers => exact offers

/-- The settings in force, and the files. -/
structure Setup where
  store : Store
  files : Files

/-- What is done with settings and files; others may leave any files behind. -/
inductive Operation where
  | load (path : String)
  | install (config : Config)
  | reload (path : String)
  | save (path : String)
  | read (path : String)
  | start (line : CommandLine)
  | elsewhere (files : Files)

/-- What an operation answers: an error, or that it is done, and perhaps settings. -/
abbrev Reply := Except StoreError (Option Config)

namespace Setup

def perform (setup : Setup) : Operation → Reply × Setup
  | .load path =>
    let (result, store, _) := setup.store.load setup.files path
    (result.map fun _ => none, { setup with store := store })
  | .install config =>
    let (result, store) := setup.store.install config
    (result.map fun _ => none, { setup with store := store })
  | .reload path =>
    let (result, store, _) := setup.store.reload setup.files path
    (result.map fun _ => none, { setup with store := store })
  | .save path =>
    match setup.store.save setup.files path with
    | .ok files => (.ok none, { setup with files := files })
    | .error error => (.error error, setup)
  | .read path => ((readOrStandard setup.files path).1.map some, setup)
  | .start line =>
    let (result, store, _) := Startup.loadConfig line setup.store setup.files
    ((result.mapError (·.cause)).map some, { setup with store := store })
  | .elsewhere files => (.ok none, { setup with files := files })

end Setup

/-- An operation, with what was before it and what came of it. -/
structure Step where
  operation : Operation
  before : Setup
  reply : Reply
  after : Setup

namespace Setup

def next (setup : Setup) (operation : Operation) : Step :=
  ⟨operation, setup, (setup.perform operation).1, (setup.perform operation).2⟩

def steps (setup : Setup) : List Operation → List Step
  | [] => []
  | operation :: rest => setup.next operation :: (setup.next operation).after.steps rest

def run (setup : Setup) (operations : List Operation) : Setup :=
  operations.foldl (fun setup operation => (setup.next operation).after) setup

end Setup

namespace Operation

/-- Whether an operation puts the first settings in force. -/
def isOpening : Operation → Bool
  | load _ | install _ | start _ => true
  | _ => false

/-- The settings that an operation would put in force. -/
def offered? (files : Files) : Operation → Option Config
  | load path => offeredOrStandard? files path
  | install config => some config
  | reload path => offeredBy? files path
  | start line => offeredTo? line files
  | save _ | read _ | elsewhere _ => none

end Operation

namespace Step

def offered? (step : Step) : Option Config := step.operation.offered? step.before.files

/-- The settings that a step put in force. -/
def published? (step : Step) : Option Config := if step.reply.isOk then step.offered? else none

/-- What a step may do once the given settings were published, one after another. -/
structure Lawful (past : List Config) (step : Step) : Prop where
  opening : step.operation.isOpening = true →
    (step.reply.isOk = true ↔ past = [] ∧ step.offered?.isSome)
  reload : ∀ path, step.operation = .reload path →
    (step.reply.isOk = true ↔ past ≠ [] ∧ step.offered?.isSome)
  installed : step.after.store.installed = step.published?.or step.before.store.installed
  /-- What is returned at the start is what was published, and what is read is what the file offers. -/
  start : ∀ line config, step.operation = .start line → step.reply = .ok config →
    config = step.published?
  read : ∀ path config, step.operation = .read path → step.reply = .ok config →
    config = offeredOrStandard? step.before.files path
  error : ∀ error, step.reply = .error error → step.after = step.before
  /-- Only a save writes, and only where its path leads. -/
  files : (∀ path, step.operation ≠ .save path) → (∀ files, step.operation ≠ .elsewhere files) →
    step.after.files = step.before.files
  save : ∀ path config, step.operation = .save path → step.reply = .ok config →
    ∃ place text, step.before.files.walk path (Files.components path) = .ok place ∧
      step.before.store.current.written? = some text ∧
      step.after.files.read path = .ok (String.ofList text) ∧
      step.after.files.home = step.before.files.home ∧
      ∀ other, other ≠ place → step.after.files.entry? other = step.before.files.entry? other

/-- What an operation that tries to put settings in force comes to, as a step. -/
structure Attempt (ready : Prop) (step : Step) : Prop where
  isOk_iff : step.reply.isOk = true ↔ ready ∧ step.offered?.isSome
  installed : step.after.store.installed = step.published?.or step.before.store.installed
  error : ∀ error, step.reply = .error error → step.after = step.before
  files : step.after.files = step.before.files

end Step

theorem Tried.attempt {ε α : Type} {answer : Config → α} {ready : Prop} {result : Except ε α}
    {store : Store} {step : Step}
    (tried : Tried answer step.before.store ready step.offered? result store)
    (replied : step.reply.isOk = result.isOk) (after : step.after = { step.before with store := store }) :
    step.Attempt ready := by
  cases tried with
  | published waits offers =>
    have done : step.reply.isOk = true := replied
    refine ⟨by simp [done, waits, offers], ?_, ?_, by rw [after]⟩
    · simp [Step.published?, done, offers, after]
    · intro error failed
      rw [failed] at done
      cases done
  | failed lacks =>
    have notDone : step.reply.isOk = false := replied
    refine ⟨?_, ?_, fun _ _ => after, by rw [after]⟩
    · simpa [notDone] using lacks
    · simp [Step.published?, notDone, after]

theorem isOk_map {ε α β : Type} (result : Except ε α) (f : α → β) :
    (result.map f).isOk = result.isOk := by
  cases result <;> rfl

theorem isOk_mapError {ε δ α : Type} (result : Except ε α) (f : ε → δ) :
    (result.mapError f).isOk = result.isOk := by
  cases result <;> rfl

theorem eq_some_of_replied {ε δ α : Type} {result : Except ε α} {f : ε → δ} {answer : Option α}
    (replied : (result.mapError f).map some = .ok answer) :
    ∃ value, result = .ok value ∧ answer = some value := by
  cases result with
  | error error => cases replied
  | ok value => exact ⟨value, rfl, (Except.ok.inj replied).symm⟩

namespace Step.Attempt

variable {past : List Config} {step : Step}

/-- An opening is lawful, because a store is empty as long as nothing was published. -/
theorem lawful_opening (attempt : step.Attempt (step.before.store.installed = none))
    (known : step.before.store.installed = past.getLast?) (opens : step.operation.isOpening = true)
    (start : ∀ line config, step.operation = .start line → step.reply = .ok config →
      config = step.published?) :
    step.Lawful past where
  opening _ := by rw [attempt.isOk_iff, known, List.getLast?_eq_none_iff]
  reload path same := by
    rw [same] at opens
    cases opens
  installed := attempt.installed
  start := start
  read path config same := by
    rw [same] at opens
    cases opens
  error := attempt.error
  files _ _ := attempt.files
  save path config same := by
    rw [same] at opens
    cases opens

theorem lawful_reload {path : String} (attempt : step.Attempt (step.before.store.installed ≠ none))
    (known : step.before.store.installed = past.getLast?) (reloads : step.operation = .reload path) :
    step.Lawful past where
  opening opens := by
    rw [reloads] at opens
    cases opens
  reload path _ := by rw [attempt.isOk_iff, known, Ne, List.getLast?_eq_none_iff]
  installed := attempt.installed
  start line config same := by
    rw [reloads] at same
    cases same
  read path config same := by
    rw [reloads] at same
    cases same
  error := attempt.error
  files _ _ := attempt.files
  save path config same := by
    rw [reloads] at same
    cases same

end Step.Attempt

theorem Store.save_writes {store : Store} {files after : Files} {path : String}
    (saved : store.save files path = .ok after) :
    ∃ place text, files.walk path (Files.components path) = .ok place ∧
      store.current.written? = some text ∧ after.read path = .ok (String.ofList text) ∧
      after.home = files.home ∧ ∀ other, other ≠ place → after.entry? other = files.entry? other := by
  simp only [save] at saved
  cases writes : store.current.written? with
  | none => simp [writes] at saved
  | some text =>
    cases written : files.write path (Text.Utf8.encode (String.ofList text)) with
    | error trouble =>
      simp only [writes, written] at saved
      cases saved
    | ok changed =>
      simp only [writes, written] at saved
      obtain rfl : changed = after := Except.ok.inj saved
      obtain ⟨place, inside, -, -, walked, rfl⟩ := Files.write_cases written
      have decoded : Text.Utf8.decode? (Text.Utf8.encode (String.ofList text)) = some text := by
        rw [Text.Utf8.decode?_encode, String.toList_ofList]
      refine ⟨place, text, walked, rfl, Files.read_write written decoded, rfl, fun other differs => ?_⟩
      rw [Files.entry?_placing files _ inside, if_neg differs]

namespace Setup

variable {past : List Config} (setup : Setup)

theorem save_lawful (path : String) : (setup.next (.save path)).Lawful past := by
  cases saved : setup.store.save setup.files path with
  | error error =>
    have failed : setup.next (.save path) = ⟨.save path, setup, .error error, setup⟩ := by
      simp [next, perform, saved]
    rw [failed]
    exact ⟨nofun, nofun, rfl, nofun, nofun, fun _ _ => rfl, fun _ _ => rfl, nofun⟩
  | ok after =>
    have done : setup.next (.save path) =
        ⟨.save path, setup, .ok none, { setup with files := after }⟩ := by
      simp [next, perform, saved]
    rw [done]
    refine ⟨nofun, nofun, rfl, nofun, nofun, nofun, ?_, ?_⟩
    · intro notSave
      exact absurd rfl (notSave path)
    · intro path' config same _
      obtain rfl : path = path' := by injection same
      exact Store.save_writes saved

theorem next_lawful (known : setup.store.installed = past.getLast?) (operation : Operation) :
    (setup.next operation).Lawful past := by
  cases operation with
  | load path =>
    have attempt : (setup.next (.load path)).Attempt (setup.store.installed = none) :=
      (setup.store.load_tried setup.files path).attempt (isOk_map _ _) rfl
    exact attempt.lawful_opening known rfl nofun
  | install config =>
    have attempt : (setup.next (.install config)).Attempt (setup.store.installed = none) :=
      (setup.store.install_tried config).attempt (isOk_map _ _) rfl
    exact attempt.lawful_opening known rfl nofun
  | reload path =>
    have attempt : (setup.next (.reload path)).Attempt (setup.store.installed ≠ none) :=
      (setup.store.reload_tried setup.files path).attempt (isOk_map _ _) rfl
    exact attempt.lawful_reload known rfl
  | save path => exact setup.save_lawful path
  | read path =>
    refine ⟨nofun, nofun, ?_, nofun, ?_, fun _ _ => rfl, fun _ _ => rfl, nofun⟩
    · have published : (setup.next (.read path)).published? = none := ite_self _
      rw [published, Option.none_or]
      rfl
    · intro path' config same replied
      obtain rfl : path = path' := by injection same
      have offers := toOption_readOrStandard setup.files path
      cases gave : (readOrStandard setup.files path).1 with
      | error error => simp [next, perform, gave, Except.map] at replied
      | ok value =>
        rw [gave] at offers
        have answered : some value = config := by simpa [next, perform, gave, Except.map] using replied
        exact answered.symm.trans offers
  | start line =>
    have attempt : (setup.next (.start line)).Attempt (setup.store.installed = none) :=
      (loadConfig_tried line setup.store setup.files).attempt
        ((isOk_map _ _).trans (isOk_mapError _ _)) rfl
    refine attempt.lawful_opening known rfl ?_
    intro line' config same replied
    obtain ⟨value, loaded, rfl⟩ := eq_some_of_replied replied
    have offers : (setup.next (.start line)).offered? = some value := loadConfig_offered loaded
    have done : (setup.next (.start line)).reply.isOk = true := by
      rw [replied]
      rfl
    rw [Step.published?, if_pos done, offers]
  | elsewhere files =>
    refine ⟨nofun, nofun, rfl, nofun, nofun, nofun, ?_, nofun⟩
    intro _ notElsewhere
    exact absurd rfl (notElsewhere files)

/-- Every step of a run is lawful after what those before it published, and the last of that is installed. -/
theorem steps_lawful (known : setup.store.installed = past.getLast?) (operations : List Operation) :
    (setup.run operations).store.installed =
        (past ++ (setup.steps operations).filterMap Step.published?).getLast? ∧
      ∀ earlier step later, setup.steps operations = earlier ++ step :: later →
        step.Lawful (past ++ earlier.filterMap Step.published?) := by
  induction operations generalizing setup past with
  | nil =>
    refine ⟨by simpa [run, steps] using known, ?_⟩
    intro earlier step later split
    simp [steps] at split
  | cons operation rest inductionHypothesis =>
    have lawful := setup.next_lawful known operation
    -- what is installed is what was published last, which the next step starts from
    have knownAfter : (setup.next operation).after.store.installed =
        (past ++ (setup.next operation).published?.toList).getLast? := by
      rw [lawful.installed]
      cases (setup.next operation).published? with
      | none =>
        rw [Option.none_or, Option.toList_none, List.append_nil]
        exact known
      | some config => simp
    obtain ⟨last, lawfulLater⟩ := inductionHypothesis (setup.next operation).after knownAfter
    have published (steps : List Step) :
        ((setup.next operation) :: steps).filterMap Step.published? =
          (setup.next operation).published?.toList ++ steps.filterMap Step.published? := by
      rw [List.filterMap_cons]
      cases (setup.next operation).published? <;> rfl
    refine ⟨?_, ?_⟩
    · rw [steps, published, ← List.append_assoc]
      exact last
    · intro earlier step later split
      cases earlier with
      | nil =>
        obtain rfl : setup.next operation = step := (List.cons.inj split).1
        simpa using lawful
      | cons first earlier =>
        obtain ⟨rfl, splitRest⟩ := List.cons.inj split
        rw [published, ← List.append_assoc]
        exact lawfulLater earlier step later splitRest

end Setup

/-- Nothing else is seen than the settings that were published last, or the standard ones; every step does
only what it may do after those before it. -/
theorem publication (files : Files) (operations : List Operation) :
    let start : Setup := ⟨.empty, files⟩
    (start.run operations).store.current =
        ((start.steps operations).filterMap Step.published?).getLast?.getD .standard ∧
      ∀ earlier step later, start.steps operations = earlier ++ step :: later →
        step.Lawful (earlier.filterMap Step.published?) := by
  intro start
  have unknown : start.store.installed = ([] : List Config).getLast? := rfl
  obtain ⟨last, lawful⟩ := start.steps_lawful unknown operations
  refine ⟨?_, ?_⟩
  · rw [Store.current, last, List.nil_append]
  · intro earlier step later split
    have lawfulStep := lawful earlier step later split
    rwa [List.nil_append] at lawfulStep

/-- A reload comes too early, a start overrides the file, an install comes too late, and a reload forgets what
was overridden. -/
theorem publication_of_reloads :
    ∃ (files : Files) (line : CommandLine) (config : Config),
      let start : Setup := ⟨.empty, files⟩
      let operations : List Operation :=
        [.reload "c.toml", .start line, .install config, .reload "c.toml"]
      (start.steps operations).map (fun step => step.reply.isOk) = [false, true, false, true] ∧
        (start.steps operations).map (fun step => step.after.store.current.webserver.port) =
          [8080, 7000, 7000, 9000] ∧
        ((start.run operations).store.current).webserver.port = 9000 := by
  let files : Files :=
    Files.empty.putFile "c.toml" (Text.Utf8.encode "[webserver]\nport = 9000\n")
  let line : CommandLine := { CommandLine.empty with config := some "c.toml", port := some 7000 }
  refine ⟨files, line, .standard, ?_⟩
  intro start operations
  have replies : (start.steps operations).map (fun step => step.reply.isOk) =
      [false, true, false, true] := by
    decide +kernel
  have ports : (start.steps operations).map (fun step => step.after.store.current.webserver.port) =
      [8080, 7000, 7000, 9000] := by
    decide +kernel
  have lastPort : (((start.steps operations).filterMap Step.published?).getLast?.getD
      .standard).webserver.port = 9000 := by
    decide +kernel
  obtain ⟨seen, -⟩ := publication files operations
  refine ⟨replies, ports, ?_⟩
  rw [seen]
  exact lastPort

end Dashboard.Config
