import Bookbinder.Proofs.Build.Pipeline
import Bookbinder.Proofs.Machine.Looks

/-!
A build and the dry run of it, side by side. Both go the same way as long as all that is asked of others
goes well: where the build asks, the dry run says what it would ask. Main statement: each comes of one
script, in which every request is either made or announced.
-/

set_option autoImplicit false

namespace Bookbinder

open Action (perform)

namespace Crew

/-- Others with whom all goes well. What they are asked for they do, and where a tool is they know
whatever was asked before. -/
structure Willing (crew : Crew) (installed : String → Option String) : Prop where
  run : ∀ past words directory, crew.run past words directory = .ok 0
  fetch : ∀ past url directory, crew.fetch past url directory = .ok ()
  findTool : ∀ past name, crew.findTool past name = installed name

def met (crew : Crew) (event : Event) (machine : Machine) : Machine where
  files := crew.files machine event
  cwd := machine.cwd
  emissions := machine.emissions ++ crew.emissions machine event
  events := machine.events ++ event.at (Path.ofSpot machine.cwd.spot)

variable {crew : Crew} {installed : String → Option String} (willing : crew.Willing installed)

include willing

theorem Willing.perform_run (words : List String) (directory : Path) (machine : Machine) :
    perform (crew.workbench.run words directory) machine =
      (.ok 0, crew.met (.command words directory) machine) :=
  congrArg (Prod.mk · _) (willing.run _ _ _) ▸ Action.perform_ofExcept _ _

theorem Willing.perform_fetch (url : String) (directory : Path) (machine : Machine) :
    perform (crew.workbench.fetch url directory) machine =
      (.ok (), crew.met (.fetch url directory) machine) :=
  congrArg (Prod.mk · _) (willing.fetch _ _ _) ▸ Action.perform_ofExcept _ _

theorem Willing.perform_findTool (name : String) (machine : Machine) :
    perform (crew.workbench.findTool name) machine =
      (.ok (installed name), crew.met (.lookup name) machine) :=
  congrArg (fun path => (Except.ok path, crew.met (.lookup name) machine)) (willing.findTool _ _)

end Crew

namespace Build

-- A lookup is made by both, and its answer may be told differently to each.
inductive Part where
  | told (emission : Emission)
  | looked (tool : String) (real dry : List Emission)
  | done (request : Event) (written : List Emission)

def announcement : Event → List Emission
  | .command words directory =>
    [.notice (Action.shown
      ("[DRY RUN] Would run: " ++ Text.join " " words ++ " (in " ++ directory.text ++ ")") true)]
  | .fetch url directory =>
    [.notice (Action.shown
      ("[DRY RUN] Would download: " ++ url ++ " (into " ++ directory.text ++ ")") true)]
  | _ => []

def isLookup : Event → Bool
  | .lookup _ => true
  | _ => false

namespace Part

def written : Part → List Emission
  | told emission => [emission]
  | looked _ real _ => real
  | done _ written => written

def announced : Part → List Emission
  | told emission => [emission]
  | looked _ _ dry => dry
  | done request _ => announcement request

def asked : Part → List Event
  | told _ => []
  | looked tool _ _ => [.lookup tool]
  | done request _ => [request]

end Part

/-- Two runs do their shares of a script in a directory: the first makes the requests, and the second
announces them but for lookups, which it makes. -/
structure Plays (parts : List Part) (directory : Path) (first last second final : Machine) : Prop where
  written : last.emissions = first.emissions ++ parts.flatMap Part.written
  announced : final.emissions = second.emissions ++ parts.flatMap Part.announced
  asked : last.events = first.events ++ (parts.flatMap Part.asked).flatMap (Event.at · directory)
  lookedUp : final.events = second.events ++
    ((parts.flatMap Part.asked).filter isLookup).flatMap (Event.at · directory)

theorem Plays.start (directory : Path) (first second : Machine) :
    Plays [] directory first first second second := by
  constructor <;> simp

theorem Plays.append {parts more : List Part} {directory : Path}
    {first middle last second between final : Machine} (plays : Plays parts directory first middle second between)
    (onward : Plays more directory middle last between final) :
    Plays (parts ++ more) directory first last second final where
  written := by simp [onward.written, plays.written]
  announced := by simp [onward.announced, plays.announced]
  asked := by simp [onward.asked, plays.asked]
  lookedUp := by simp [onward.lookedUp, plays.lookedUp]

-- Both runs say the same lines, wherever they go from there.
theorem Plays.tell {parts : List Part} {directory : Path} {first last second final : Machine}
    (plays : Plays parts directory first last second final) (lines : List Emission)
    (place stand : WorkingDirectory) :
    Plays (parts ++ lines.map .told) directory first
      { last with cwd := place, emissions := last.emissions ++ lines } second
      { final with cwd := stand, emissions := final.emissions ++ lines } where
  written := by simp [plays.written, List.flatMap_map, Part.written]
  announced := by simp [plays.announced, List.flatMap_map, Part.announced]
  asked := by simp [plays.asked, List.flatMap_map, Part.asked]
  lookedUp := by simp [plays.lookedUp, List.flatMap_map, Part.asked]

/-- Two actions do their shares of a script that makes the requests that are given. -/
def Mirror {α : Type} (real dry : Action α) (place : WorkingDirectory) (value : α)
    (requests : List Event) : Prop :=
  ∀ first second : Machine, first.cwd = place → second.cwd = place →
    ∃ (parts : List Part) (last final : Machine),
      perform real first = (.ok value, last) ∧ perform dry second = (.ok value, final) ∧
      last.cwd = place ∧ final.cwd = place ∧
      Plays parts (Path.ofSpot place.spot) first last second final ∧ parts.flatMap Part.asked = requests

section

variable {α β : Type} {place : WorkingDirectory} {requests others : List Event}

theorem mirror_pure (value : α) : Mirror (pure value) (pure value) place value [] := by
  intro first second here there
  refine ⟨[], first, second, rfl, rfl, here, there, ⟨?_, ?_, ?_, ?_⟩, rfl⟩ <;> simp

theorem mirror_emit (emission : Emission) :
    Mirror (Action.emit emission) (Action.emit emission) place () [] := by
  intro first second here there
  refine ⟨[.told emission], _, _, rfl, rfl, here, there, ⟨rfl, rfl, ?_, ?_⟩, rfl⟩
  · simp [Part.asked]
  · simp [Part.asked]

theorem Mirror.bind {real dry : Action α} {next later : α → Action β} {value : α} {result : β}
    (mirror : Mirror real dry place value requests)
    (onward : Mirror (next value) (later value) place result others) :
    Mirror (real >>= next) (dry >>= later) place result (requests ++ others) := by
  intro first second here there
  obtain ⟨parts, middle, between, ran, said, stays, stands, plays, same⟩ := mirror first second here there
  obtain ⟨more, last, final, goes, speaks, back, again, plays', same'⟩ := onward middle between stays stands
  refine ⟨parts ++ more, last, final, ?_, ?_, back, again, plays.append plays', ?_⟩
  · rw [Action.perform_bind, ran]
    exact goes
  · rw [Action.perform_bind, said]
    exact speaks
  · rw [List.flatMap_append, same, same']

theorem Mirror.after_emit {real dry : Action β} {result : β} (emission : Emission)
    (onward : Mirror real dry place result others) :
    Mirror (Action.emit emission >>= fun _ => real) (Action.emit emission >>= fun _ => dry) place result
      others :=
  (mirror_emit emission).bind onward

theorem Mirror.attempt {real dry : Action α} {value : α} (mirror : Mirror real dry place value requests) :
    Mirror (Action.attempt real) (Action.attempt dry) place (.ok value) requests := by
  intro first second here there
  obtain ⟨parts, last, final, ran, said, rest⟩ := mirror first second here there
  refine ⟨parts, last, final, ?_, ?_, rest⟩
  · rw [Action.perform_attempt, ran]
  · rw [Action.perform_attempt, said]

end

section

variable {crew : Crew} {installed : String → Option String} (willing : crew.Willing installed)
  {place : WorkingDirectory}

include willing

theorem mirror_run (words : List String) (directory : Path) :
    Mirror (crew.workbench.run words directory) (crew.workbench.announcing.run words directory) place 0
      [.command words directory] := by
  intro first second here there
  refine ⟨[.done (.command words directory) (crew.emissions first (.command words directory))], _, _,
    willing.perform_run words directory first, rfl, here, there, ⟨?_, rfl, ?_, ?_⟩, rfl⟩
  · simp [Crew.met, Part.written]
  · simp [Crew.met, Part.asked, here]
  · simp [Part.asked, isLookup]

theorem mirror_fetch (url : String) (directory : Path) :
    Mirror (crew.workbench.fetch url directory) (crew.workbench.announcing.fetch url directory) place ()
      [.fetch url directory] := by
  intro first second here there
  refine ⟨[.done (.fetch url directory) (crew.emissions first (.fetch url directory))], _, _,
    willing.perform_fetch url directory first, rfl, here, there, ⟨?_, rfl, ?_, ?_⟩, rfl⟩
  · simp [Crew.met, Part.written]
  · simp [Crew.met, Part.asked, here]
  · simp [Part.asked, isLookup]

theorem mirror_findTool (name : String) :
    Mirror (crew.workbench.findTool name) (crew.workbench.announcing.findTool name) place (installed name)
      [.lookup name] := by
  intro first second here there
  refine ⟨[.looked name (crew.emissions first (.lookup name)) (crew.emissions second (.lookup name))], _, _,
    willing.perform_findTool name first, willing.perform_findTool name second,
    here, there, ⟨?_, ?_, ?_, ?_⟩, rfl⟩
  · simp [Crew.met, Part.written]
  · simp [Crew.met, Part.announced]
  · simp [Crew.met, Part.asked, here]
  · simp [Crew.met, Part.asked, List.filter_cons, isLookup, there]

theorem mirror_resolve {release : Release} {url : String} (address : release.url = .ok url)
    (directory : Path) :
    Mirror (Tool.resolve crew.workbench release directory)
      (Tool.resolve crew.workbench.announcing release directory) place
      (toolOf release (installed release.name))
      (.lookup release.name :: match installed release.name with
        | some _ => []
        | none => [.fetch url directory]) := by
  refine (mirror_findTool willing release.name).bind ?_
  cases installed release.name with
  | some path => exact (mirror_pure _).after_emit _
  | none =>
    unfold Tool.urlOf
    rw [address]
    simp only [pure_bind]
    apply Mirror.after_emit
    exact (mirror_fetch willing url directory).bind ((mirror_pure _).after_emit _)

variable {context dry : Context} (others : context.workbench = crew.workbench)
  (announces : dry.workbench = crew.workbench.announcing) (same : dry.settings = context.settings)

include others announces

theorem mirror_runTool (tool : Tool) (directory : Path) :
    Mirror (runTool context tool directory) (runTool dry tool directory) place 0
      [.command [tool.command, "build"] directory] := by
  unfold runTool
  rw [others, announces]
  apply Mirror.after_emit
  exact (mirror_run willing _ directory).bind ((mirror_pure _).after_emit _)

include same

theorem mirror_runPrebuild (directory : Path) :
    Mirror (runPrebuild context directory) (runPrebuild dry directory) place 0
      [.command context.settings.prebuild directory] := by
  unfold runPrebuild
  rw [others, announces, same]
  apply Mirror.after_emit
  exact (mirror_run willing _ directory).bind ((mirror_pure _).after_emit _)

theorem mirror_resolveTool {url : String} (address : context.settings.release.url = .ok url)
    (directory : Path) :
    Mirror (resolveTool context directory) (resolveTool dry directory) place
      (some (toolOf context.settings.release (installed context.settings.release.name)))
      (.lookup context.settings.release.name :: match installed context.settings.release.name with
        | some _ => []
        | none => [.fetch url directory]) := by
  unfold resolveTool
  rw [others, announces, same]
  rw [← List.append_nil (_ :: _)]
  exact (mirror_resolve willing address directory).attempt.bind (mirror_pure _)

/-- What a build asks for if all goes well. -/
def requestsIn (settings : Settings) (directory : Path) (url : String) (installed : Option String) :
    List Event :=
  .command settings.prebuild directory ::
  (.lookup settings.release.name :: (match installed with
      | some _ => []
      | none => [.fetch url directory])) ++
  [.command [(toolOf settings.release installed).command, "build"] directory]

theorem mirror_runSteps {url : String} (address : context.settings.release.url = .ok url)
    (directory : Path) :
    Mirror (runSteps context directory) (runSteps dry directory) place
      ⟨0, none, some (toolOf context.settings.release (installed context.settings.release.name))⟩
      (requestsIn context.settings directory url (installed context.settings.release.name)) := by
  refine (mirror_runPrebuild willing others announces same directory).bind ?_
  refine (mirror_resolveTool willing others announces same address directory).bind ?_
  rw [← List.append_nil [_]]
  exact (mirror_runTool willing others announces _ directory).bind (mirror_pure _)

end

/-- What a build leaves behind last. -/
def finishedLine (outcome : Outcome) : Emission :=
  .trace origin ("Run finished: exit_code=" ++ Text.ofInt outcome.exitCode ++ ", failed_step=" ++
    match outcome.failedStep with
    | some step => step.label
    | none => "None")

/-- A build whose steps came to an outcome comes to it if there is a directory to go back to. -/
theorem perform_run_of_there {context : Context} (machine : Machine) {inside : WorkingDirectory}
    {outcome : Outcome} {left : Machine} (alive : machine.files.isAlive machine.cwd = true)
    (clean : holdsNul context.bookDir.text = false)
    (entered : machine.files.enter machine.cwd context.bookDir.text = .ok inside)
    (ended : perform (runSteps context (Path.ofSpot inside.spot)) { machine with
        cwd := inside
        emissions := machine.emissions ++
          [Action.arrival ⟨Path.ofSpot machine.cwd.spot, Path.ofSpot inside.spot⟩] } = (.ok outcome, left))
    (there : (perform (Build.run context) machine).2.HasDirectory (Path.ofSpot machine.cwd.spot)) :
    ∃ last, perform (Build.run context) machine =
      (.ok outcome, { left with
        cwd := last
        emissions := left.emissions ++
          [Action.departure ⟨Path.ofSpot machine.cwd.spot, Path.ofSpot inside.spot⟩] ++
          [finishedLine outcome] }) := by
  obtain ⟨emissions, finished⟩ := perform_run context machine
  rw [finished] at there
  obtain ⟨last, stayed⟩ := Action.perform_inDirectory_of_there machine alive clean entered ended
    ⟨there.clean, there.leads⟩
  refine ⟨last, ?_⟩
  rw [Build.run, Action.perform_bind, stayed]
  rfl

section

variable {crew : Crew} {installed : String → Option String} (willing : crew.Willing installed)
  {context dry : Context} (others : context.workbench = crew.workbench)
  (announces : dry.workbench = crew.workbench.announcing) (same : dry.settings = context.settings)
  (place : dry.cwd = context.cwd)

include willing others announces same place

theorem plays_run {url : String} (address : context.settings.release.url = .ok url)
    (machine second : Machine) {inside : WorkingDirectory}
    (files : second.files = machine.files) (cwd : second.cwd = machine.cwd)
    (alive : machine.files.isAlive machine.cwd = true) (clean : holdsNul context.bookDir.text = false)
    (entered : machine.files.enter machine.cwd context.bookDir.text = .ok inside)
    (returns : (perform (Build.run context) machine).2.HasDirectory (Path.ofSpot machine.cwd.spot))
    (dryReturns : (perform (Build.run dry) second).2.HasDirectory (Path.ofSpot machine.cwd.spot)) :
    ∃ (parts : List Part) (last final : Machine),
      perform (Build.run context) machine =
        (.ok ⟨0, none, some (toolOf context.settings.release (installed context.settings.release.name))⟩, last) ∧
      perform (Build.run dry) second =
        (.ok ⟨0, none, some (toolOf context.settings.release (installed context.settings.release.name))⟩, final) ∧
      Plays parts (Path.ofSpot inside.spot) machine last second final ∧
      parts.flatMap Part.asked = requestsIn context.settings (Path.ofSpot inside.spot) url
        (installed context.settings.release.name) := by
  obtain ⟨_, _, emissions, events⟩ := second
  subst files cwd
  have bookDir : dry.bookDir = context.bookDir := by rw [Context.bookDir, Context.bookDir, same, place]
  have arrives := (Plays.start (Path.ofSpot inside.spot) machine
    ⟨machine.files, machine.cwd, emissions, events⟩).tell
      [Action.arrival ⟨Path.ofSpot machine.cwd.spot, Path.ofSpot inside.spot⟩] inside inside
  obtain ⟨parts, left, right, ran, said, _, _, plays, asks⟩ :=
    mirror_runSteps willing others announces same address (Path.ofSpot inside.spot)
      ⟨machine.files, inside, machine.emissions ++ [_], machine.events⟩
      ⟨machine.files, inside, emissions ++ [_], events⟩ rfl rfl
  obtain ⟨last, built⟩ := perform_run_of_there machine alive clean entered ran returns
  obtain ⟨final, told⟩ := perform_run_of_there ⟨machine.files, machine.cwd, emissions, events⟩ alive
    (bookDir ▸ clean) (bookDir ▸ entered) said dryReturns
  refine ⟨_, _, _, built, told, ((arrives.append plays).tell [_] last final).tell [_] last final, ?_⟩
  simp [Part.asked, asks]

end

end Build

end Bookbinder
