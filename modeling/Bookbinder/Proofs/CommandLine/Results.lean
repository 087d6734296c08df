import Mathlib.Logic.Relation
import Bookbinder.Proofs.CommandLine.Failures
import Bookbinder.Proofs.CommandLine.Reporting
import Bookbinder.Proofs.CommandLine.Which
import Bookbinder.Proofs.Terminal.Sequences

/-!
What is written for other programs. Main statement: where a value is asked for, it is that value and nothing
else, as long as there is no control sequence in it; and other commands write nothing of their own.
-/

set_option autoImplicit false

namespace Bookbinder

open Action (FailsOnly Keeps)

/-! ### What the program leaves to others -/

namespace World

/-- How a command that is run for the user may change what was written for other programs; the user may
have stopped it. -/
def Prints (exported : List (String × String)) (before after : String) : World → Prop
  | .rehearsed workbench => ∃ words directory machine, machine.results = before ∧
      (Action.perform (workbench.run words directory) machine).2.results = after
  | .real outside =>
    (∃ machine place arguments, (outside.exporting exported).Launches arguments ∧
      machine.results = before ∧ ((outside.exporting exported).left machine place arguments).results = after) ∨
    ∃ machine words directory left, outside.stops machine (.command words directory) = some left ∧
      machine.results = before ∧ left.results = after

/-- To look for tools and to bring archives writes nothing for other programs, also where the user stops it,
and no look is taken for the end of the program. -/
def IsDiscreet : World → Prop
  | .rehearsed workbench =>
    (∀ name, FailsOnly Failure.IsLoud (workbench.findTool name)) ∧
    (∀ name machine, (Action.perform (workbench.findTool name) machine).2.results = machine.results) ∧
    ∀ url directory machine,
      (Action.perform (workbench.fetch url directory) machine).2.results = machine.results
  | .real outside => ∀ machine event left, outside.stops machine event = some left →
      (∀ words directory, event ≠ .command words directory) → left.results = machine.results

end World

theorem Machine.results_append (machine : Machine) (written : List Emission) :
    ({ machine with emissions := machine.emissions ++ written } : Machine).results =
      machine.results ++ String.join (written.map Emission.resultText) := by
  simp [Machine.results, String.join_append]

theorem join_resultText_of_told {written : List Emission} (told : ∀ emission ∈ written, emission.IsTold) :
    String.join (written.map Emission.resultText) = "" := by
  induction written with
  | nil => rfl
  | cons emission rest ih =>
    have silent := (told emission List.mem_cons_self).2
    have others := ih fun other member => told other (List.mem_cons_of_mem _ member)
    rw [List.map_cons, String.join_cons, silent, others]
    rfl

theorem isTelling_results (kept : String → Prop) : IsTelling fun machine => kept machine.results where
  looks machine other same holds := by
    simpa only [Machine.results, same] using holds
  adds machine written told holds := by
    have same := Machine.results_append machine written
    rw [join_resultText_of_told told, String.append_empty] at same
    exact (congrArg kept same).mpr holds

theorem Action.keeps_of_always {α : Type} {kept : Machine → Prop} {action : Action α}
    (always : ∀ machine, kept machine → kept (perform action machine).2) : Keeps kept action := by
  refine ⟨fun machine holds => ?_⟩
  have after := always machine holds
  generalize perform action machine = outcome at after ⊢
  rcases outcome with ⟨result, final⟩
  cases result <;> exact after

namespace World

variable {world : World} (discreet : world.IsDiscreet) (exported : List (String × String))

/-- What was written for other programs, up to what commands wrote that were run for the user. -/
def PrintsAll (world : World) (exported : List (String × String)) : String → String → Prop :=
  Relation.ReflTransGen fun before after => world.Prints exported before after

include discreet

theorem preserves_printsAll (before : String) :
    (world.workbench exported).Preserves fun machine => world.PrintsAll exported before machine.results := by
  have telling := isTelling_results (world.PrintsAll exported before)
  cases world with
  | rehearsed workbench =>
    obtain ⟨_, looks, fetches⟩ := discreet
    refine ⟨fun name => ?_, fun words directory => ?_, fun url directory => ?_⟩
    · exact Action.keeps_of_always fun machine holds => (looks name machine).symm ▸ holds
    · exact Action.keeps_of_always fun machine holds => holds.tail ⟨words, directory, machine, rfl, rfl⟩
    · exact Action.keeps_of_always fun machine holds => (fetches url directory machine).symm ▸ holds
  | real outside =>
    refine Outside.preserves ⟨fun machine place arguments launches holds => ?_,
      fun machine event left stopped holds => ?_⟩ telling
    · exact holds.tail (.inl ⟨machine, place, arguments, launches, rfl, rfl⟩)
    · cases event with
      | command words directory =>
        -- the user may stop a command when it has written something
        exact holds.tail (.inr ⟨machine, words, directory, left, stopped, rfl, rfl⟩)
      | _ =>
        have same := discreet machine _ left stopped nofun
        exact same.symm ▸ holds

theorem failsOnly_findTool (name : String) :
    FailsOnly Failure.IsLoud ((world.workbench exported).findTool name) := by
  cases world with
  | rehearsed workbench => exact discreet.1 name
  | real outside =>
    refine ⟨fun machine => ?_⟩
    simp only [workbench, Outside.workbench, Outside.perform_unlessStopped]
    cases (outside.exporting exported).stops machine (.lookup name) with
    | some left =>
      intro told
      cases told
    | none => trivial

theorem results_findTool (name : String) (machine : Machine) :
    (Action.perform ((world.workbench exported).findTool name) machine).2.results = machine.results := by
  cases world with
  | rehearsed workbench => exact discreet.2.1 name machine
  | real outside =>
    simp only [workbench, Outside.workbench, Outside.perform_unlessStopped]
    cases stopped : (outside.exporting exported).stops machine (.lookup name) with
    | some left => exact discreet machine _ left stopped fun words directory same => by cases same
    | none =>
      rw [Workbench.perform_lookUp, Machine.results_append]
      exact String.append_empty

end World

namespace CommandLine

variable {words rest : List String} {command : Command} {opening : Opening} {machine after : Machine}

theorem results_farewell (ending : Except Failure Unit) (machine : Machine) :
    ({ machine with emissions := machine.emissions ++ farewell ending } : Machine).results =
      machine.results := by
  rw [Machine.results_append]
  rcases ending with failure | done
  · cases aborts : isAbort failure <;> simp [farewell, aborts, Emission.resultText]
  · simp [farewell]

theorem keeps_run_of_silent {kept : Machine → Prop} (telling : IsTelling kept) {context : Context}
    (preserves : context.workbench.Preserves kept) (silent : command ≠ .which) (surroundings : Surroundings)
    (none : ∀ given left, readWords command.vocabulary true rest = .ok (given, left) →
      given.find? isRequest = none) : Keeps kept (command.run surroundings context rest) := by
  rw [run_eq]
  have heeds : Keeps kept (heed command surroundings rest) :=
    keeps_heed telling.adds command surroundings rest fun given left read =>
      (answerRequests_of_none (none given left read) surroundings command.help) ▸ Action.keeps_pure ()
  refine heeds.bind fun heeded => ?_
  have same : (contextFor context heeded.2).workbench.Preserves kept :=
    (contextFor_workbench context heeded.2) ▸ preserves
  exact keeps_act telling same silent surroundings heeded.1

theorem printsAll_status {world : World} (discreet : world.IsDiscreet) (exported : List (String × String))
    (others : opening.workbench = world.workbench exported) (asks : AskFor words command rest)
    (silent : command ≠ .which) (nothing : AnswersNothing opening command rest machine)
    (surroundings : Surroundings) :
    world.PrintsAll exported machine.results
      (Action.perform (status surroundings opening.context words) machine).2.results := by
  have telling := isTelling_results (world.PrintsAll exported machine.results)
  have opens := (opening.meets_context telling.adds).ends machine .refl
  -- what is told at the end is no result
  rw [perform_status_eq, perform_of_askFor asks, Action.perform_bind, results_farewell]
  cases opened : Action.perform opening.context machine with
  | mk result ready =>
    rw [opened] at opens
    cases result with
    | error failure => exact opens
    | ok context =>
      obtain ⟨holds, same⟩ := opens
      have preserves := world.preserves_printsAll discreet exported machine.results
      rw [← others, ← same] at preserves
      exact (keeps_run_of_silent telling preserves silent surroundings fun given left =>
        nothing context ready given left opened).always holds

/-! ### A value that is asked for -/

theorem failsOnly_runWhich {context : Context}
    (looks : ∀ name, FailsOnly Failure.IsLoud (context.workbench.findTool name)) :
    FailsOnly Failure.IsLoud (runWhich context) := by
  refine (looks _).bind fun found _ => ?_
  cases found with
  | some path => exact (Action.failsOnly_emit _).bind fun _ _ => Action.failsOnly_emit _
  | none =>
    have address : FailsOnly Failure.IsLoud (Tool.urlOf context.settings.release) := by
      unfold Tool.urlOf
      split
      · exact Action.gives_pure trivial
      · exact Action.gives_throw nofun
    exact (Action.failsOnly_emit _).bind fun _ _ => address.bind fun _ _ =>
      (Action.failsOnly_emit _).bind fun _ _ => Action.failsOnly_emit _

/-- What is asked for: the path of the tool, as it is found, or else the address of its release. -/
def Names (context : Context) (machine : Machine) (value : String) : Prop :=
  ∃ found looked,
    Action.perform (context.workbench.findTool context.settings.release.name) machine = (.ok found, looked) ∧
      match found with
      | some path => value = path
      | none => context.settings.release.url = .ok value

theorem results_runWhich {context : Context}
    (looks : ∀ name machine,
      (Action.perform (context.workbench.findTool name) machine).2.results = machine.results)
    (done : Action.perform (runWhich context) machine = (.ok (), after)) :
    ∃ value, Names context machine value ∧
      after.results = machine.results ++ Action.shown value true := by
  have silent := looks context.settings.release.name machine
  rw [runWhich, Action.perform_bind] at done
  cases looked : Action.perform (context.workbench.findTool context.settings.release.name) machine with
  | mk result last =>
    rw [looked] at done silent
    rcases result with failure | found
    · cases done
    · cases found with
      | some path =>
        refine ⟨path, ⟨_, _, looked, rfl⟩, ?_⟩
        cases done
        simpa [Machine.results, String.join_append, Emission.resultText] using silent
      | none =>
        cases address : context.settings.release.url with
        | error fault =>
          simp only [Tool.urlOf, address] at done
          cases done
        | ok url =>
          refine ⟨url, ⟨_, _, looked, address⟩, ?_⟩
          simp only [Tool.urlOf, address] at done
          cases done
          simpa [Machine.results, String.join_append, Emission.resultText] using silent

section

variable {world : World} (discreet : world.IsDiscreet) (exported : List (String × String)) {context : Context}
  (others : context.workbench = world.workbench exported)

include discreet others

theorem failsOnly_run_which (surroundings : Surroundings)
    (none : ∀ given left, readWords Command.which.vocabulary true rest = .ok (given, left) →
      given.find? isRequest = none) :
    FailsOnly Failure.IsLoud (Command.which.run surroundings context rest) := by
  rw [run_eq]
  refine (failsOnly_heed Failure.passesOn_isLoud nofun surroundings none).bind fun heeded _ => ?_
  refine failsOnly_runWhich fun name => ?_
  rw [contextFor_workbench, others]
  exact world.failsOnly_findTool discreet exported name

theorem results_run_which {surroundings : Surroundings}
    (done : Action.perform (Command.which.run surroundings context rest) machine = (.ok (), after)) :
    ∃ value, Names context machine value ∧ after.results = machine.results ++ Action.shown value true := by
  rw [run_eq, Action.perform_bind] at done
  cases heeded : Action.perform (heed .which surroundings rest) machine with
  | mk result last =>
    rw [heeded] at done
    rcases result with failure | ⟨given, bookDir⟩
    · cases done
    · obtain ⟨rfl, _⟩ := of_heed heeded
      have looks (name : String) (machine : Machine) :
          (Action.perform ((contextFor context bookDir).workbench.findTool name) machine).2.results =
            machine.results := by
        rw [contextFor_workbench, others]
        exact world.results_findTool discreet exported name machine
      obtain ⟨value, names, written⟩ := results_runWhich looks done
      rw [Names, contextFor_workbench, contextFor_release] at names
      exact ⟨value, names, written⟩

end

/-- Success means that there was a context, and that the value was written in it. -/
theorem results_status_which {world : World} (discreet : world.IsDiscreet) (exported : List (String × String))
    (others : opening.workbench = world.workbench exported) (asks : AskFor words .which rest)
    (nothing : AnswersNothing opening .which rest machine) {surroundings : Surroundings}
    (done : Action.perform (status surroundings opening.context words) machine = (.ok 0, after)) :
    ∃ context value, Action.perform opening.context machine = (.ok context, machine) ∧
      Names context machine value ∧ after.results = machine.results ++ Action.shown value true := by
  have opens := (opening.failsOnly_context Failure.passesOn_isLoud (fun _ => nofun) nofun).ends machine
  cases opened : Action.perform opening.context machine with
  | mk result ready =>
    rw [opened] at opens
    have asked := perform_of_askFor asks surroundings opening.context
    rcases result with failure | context
    · -- without a context the command fails, and the status tells of that
      have failed : Action.perform (CommandLine.perform surroundings opening.context words) machine =
          (.error failure, ready) := by
        rw [asked, Action.perform_bind, opened]
      have ended := ended_of_status (fun other same => by
        rw [failed] at same
        cases same
        exact opens) done
      rw [failed] at ended
      cases ended
    · obtain ⟨rfl, bench⟩ := opening.context_cases opened
      have none := fun given left => nothing context ready given left opened
      have onward : Action.perform (CommandLine.perform surroundings opening.context words) ready =
          Action.perform (Command.which.run surroundings context rest) ready := by
        rw [asked, Action.perform_bind, opened]
      have loud := failsOnly_run_which discreet exported (bench.trans others) surroundings none
      have ended := ended_of_status (fun failure same => by
        have ends := loud.ends ready
        rw [onward] at same
        rwa [same] at ends) done
      obtain ⟨value, names, written⟩ := results_run_which discreet exported (bench.trans others)
        (onward.symm.trans ended)
      exact ⟨context, value, rfl, names, written⟩

theorem shown_eq_iff (value : String) :
    Action.shown value true = value ++ "\n" ↔ ¬ Terminal.HoldsSequence value.toList := by
  rw [← Terminal.withoutSequences_eq_self_iff, Action.shown, if_pos rfl, String.append_left_inj,
    ← String.toList_inj, String.toList_ofList]

/-- Where the path of the tool or its address is asked for, that is what is written for other programs, without
its control sequences; so it is written as it is just if there are none in it. All that other commands leave
there was written by programs that were run for the user. Help apart, this holds of every run, whatever is
exported to the program. -/
theorem status_answers_value {world : World} (discreet : world.IsDiscreet) (start : Start)
    (exported : List (String × String)) (surroundings : Surroundings) (asks : AskFor words command rest)
    (nothing : AnswersNothing (start.opening (world.workbench exported)) command rest machine) :
    (command = .which → ∀ after,
      Action.perform (status surroundings (start.opening (world.workbench exported)).context words) machine =
        (.ok 0, after) →
      ∃ context value,
        Action.perform (start.opening (world.workbench exported)).context machine = (.ok context, machine) ∧
        Names context machine value ∧ after.results = machine.results ++ Action.shown value true ∧
        (after.results = machine.results ++ (value ++ "\n") ↔ ¬ Terminal.HoldsSequence value.toList)) ∧
    (command ≠ .which → world.PrintsAll exported machine.results
      (Action.perform (status surroundings (start.opening (world.workbench exported)).context words)
        machine).2.results) := by
  have others := start.workbench_opening (world.workbench exported)
  constructor
  · rintro rfl after done
    obtain ⟨context, value, opened, names, written⟩ :=
      results_status_which discreet exported others asks nothing done
    refine ⟨context, value, opened, names, written, ?_⟩
    rw [written, String.append_right_inj, shown_eq_iff]
  · exact fun silent => printsAll_status discreet exported others asks silent nothing surroundings

/-- An installed tool at a path, and nothing else. -/
def toolAt (path : String) : Rehearsal := ⟨[("mdbook", path)], [], none, none, []⟩

theorem toolAt_isDiscreet (path : String) : (World.rehearsed (toolAt path).workbench).IsDiscreet :=
  ⟨fun _ => ⟨fun _ => trivial⟩, fun _ _ => rfl, fun _ _ _ => rfl⟩

theorem names_toolAt (path : String) (machine : Machine) {cwd : Path} {value : String}
    (names : Names ⟨(toolAt path).workbench, Settings.default, cwd, false⟩ machine value) : value = path := by
  obtain ⟨found, looked, finding, same⟩ := names
  have looks : Action.perform ((toolAt path).workbench.findTool Settings.default.release.name) machine =
      (.ok (some path), _) := rfl
  cases looks.symm.trans finding
  exact same

theorem mortals_isDiscreet : (World.real mortals).IsDiscreet := fun _ _ _ stopped => by cases stopped

theorem status_answers_value_of_path :
    (∃ after, Action.perform (status ⟨80, 0, 0⟩
        ((Start.given Settings.default (Path.parse "/project") false).opening
          (toolAt "/usr/bin/mdbook").workbench).context ["which"]) Machine.atProject = (.ok 0, after) ∧
      after.results = "/usr/bin/mdbook\n") ∧
    (World.real mortals).PrintsAll [] Machine.atProject.results (Action.perform (status ⟨80, 0, 0⟩
      (Start.here.opening (mortals.exporting []).workbench).context ["build", "--book-dir", "/tmp"])
      Machine.atProject).2.results := by
  constructor
  · obtain ⟨after, done⟩ : ∃ after, Action.perform (status ⟨80, 0, 0⟩
        ((Start.given Settings.default (Path.parse "/project") false).opening
          (toolAt "/usr/bin/mdbook").workbench).context ["which"]) Machine.atProject = (.ok 0, after) :=
      ⟨_, by with_unfolding_all rfl⟩
    obtain ⟨context, value, opened, names, _, plain⟩ :=
      (status_answers_value (toolAt_isDiscreet "/usr/bin/mdbook")
        (.given Settings.default (Path.parse "/project") false) [] ⟨80, 0, 0⟩
        (askFor_name .which []) (fun _ _ _ _ _ read => by cases read; rfl)).1 rfl after done
    cases opened
    cases names_toolAt _ _ names
    have free : ¬ Terminal.HoldsSequence "/usr/bin/mdbook".toList := by
      rw [← Terminal.withoutSequences_eq_self_iff]
      exact Terminal.withoutSequences_of_notMem (by decide)
    exact ⟨after, done, plain.2 free⟩
  · exact (status_answers_value mortals_isDiscreet .here [] ⟨80, 0, 0⟩
      (askFor_name .build ["--book-dir", "/tmp"]) (fun _ _ _ _ _ read => by cases read; rfl)).2 (by decide)

/-- A path with a control sequence in it is not written as it is. -/
theorem status_not_always_answers_value :
    ¬ ∀ (world : World) (start : Start) exported surroundings machine after context value,
      world.IsDiscreet →
      Action.perform (start.opening (world.workbench exported)).context machine = (.ok context, machine) →
      Action.perform (status surroundings (start.opening (world.workbench exported)).context ["which"]) machine =
        (.ok 0, after) →
      Names context machine value → after.results = machine.results ++ (value ++ "\n") := by
  intro always
  obtain ⟨after, done, written⟩ : ∃ after, Action.perform (status ⟨80, 0, 0⟩
      ((Start.given Settings.default (Path.parse "/project") false).opening
        (toolAt "/bin/\x1b[31mmdbook").workbench).context ["which"]) Machine.atProject = (.ok 0, after) ∧
      after.results = "/bin/mdbook\n" :=
    ⟨_, by with_unfolding_all rfl, by with_unfolding_all rfl⟩
  have exactly := always (.rehearsed (toolAt "/bin/\x1b[31mmdbook").workbench)
    (.given Settings.default (Path.parse "/project") false) [] ⟨80, 0, 0⟩ Machine.atProject after _
    "/bin/\x1b[31mmdbook" (toolAt_isDiscreet _) rfl done ⟨_, _, rfl, rfl⟩
  exact absurd (written.symm.trans exactly) (by decide)

end CommandLine

end Bookbinder
