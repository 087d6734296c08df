import Bookbinder.Proofs.FileSystem.Walks
import Bookbinder.Proofs.Machine.Visits

/-!
Actions that only look and tell, on two file systems at once: they leave files as they were, ask for
nothing but tools, and cannot tell the two apart. One rule for each way in which actions are put together.
-/

set_option autoImplicit false

namespace Bookbinder

/-- Whether a path leads to a directory, if that can be told. -/
def FileSystem.tellsDirectory (files : FileSystem) (cwd : WorkingDirectory) (path : String) :
    Except Errno Bool :=
  match files.status cwd path with
  | .ok status => .ok (status == .directory)
  | .error errno => if errno.meansAbsence then .ok false else .error errno

/-- File systems with the same directories. What else there is may differ. -/
structure FileSystem.SameDirectories (files other : FileSystem) : Prop where
  alive : ∀ cwd, files.isAlive cwd = other.isAlive cwd
  tells : ∀ cwd path, files.tellsDirectory cwd path = other.tellsDirectory cwd path
  enter : ∀ cwd path place, files.enter cwd path = .ok place ↔ other.enter cwd path = .ok place

namespace FileSystem.SameDirectories

variable {files other : FileSystem}

/-- Files with other contents are all that may differ where each entry is the same. -/
theorem of_entries (entries : files.entries = other.entries)
    (contents : ∀ number, (files.content? number).isSome = (other.content? number).isSome) :
    files.SameDirectories other := by
  have entryAt (spot : Spot) : files.entryAt? spot = other.entryAt? spot := by
    rw [entryAt?, entryAt?, entries]
  have alive (cwd : WorkingDirectory) : files.isAlive cwd = other.isAlive cwd := by
    rw [isAlive, isAlive, entryAt]
  have signs (spot : Spot) : files.signAt? spot = other.signAt? spot := by
    rw [signAt?, signAt?, entryAt]
  have located (cwd : WorkingDirectory) (path : String) :
      files.locate cwd true path = other.locate cwd true path := by
    simp only [locate, walkOn_congr signs, alive, isDirectory_congr signs]
  refine ⟨alive, fun cwd path => ?_, fun cwd path place => ?_⟩
  · rw [tellsDirectory, tellsDirectory, FileSystem.status, FileSystem.status, located]
    cases other.locate cwd true path with
    | error errno => rfl
    | ok location =>
      cases location with
      | vacant directory name => rfl
      | gone => rfl
      | occupied spot =>
        simp only [bind, Except.bind, statusAt, entryAt]
        cases other.entryAt? spot with
        | none => rfl
        | some entry =>
          cases entry with
          | file number =>
            have both := contents number
            cases here : files.content? number <;> cases there : other.content? number
            · simp only [here, there]
            · simp [here, there] at both
            · simp [here, there] at both
            · simp only [here, there]
              rfl
          | _ => rfl
  · simp only [FileSystem.enter, located, entryAt]

end FileSystem.SameDirectories

theorem FileSystem.leadsToDirectory_of_tellsDirectory {files : FileSystem} {cwd : WorkingDirectory}
    {path : String} (told : files.tellsDirectory cwd path = .ok true) :
    files.leadsToDirectory cwd path = true := by
  unfold FileSystem.tellsDirectory at told
  unfold FileSystem.leadsToDirectory
  cases found : files.status cwd path with
  | error errno =>
    rw [found] at told
    simp only at told
    split at told <;> cases told
  | ok status =>
    rw [found] at told
    cases status <;> first | rfl | cases told

theorem FileSystem.tellsDirectory_of_leadsToDirectory {files : FileSystem} {cwd : WorkingDirectory}
    {path : String} (leads : files.leadsToDirectory cwd path = true) :
    files.tellsDirectory cwd path = .ok true := by
  unfold FileSystem.leadsToDirectory at leads
  unfold FileSystem.tellsDirectory
  split at leads
  · next found =>
    rw [found]
    rfl
  · cases leads

namespace Action

variable {α β γ δ : Type}

theorem perform_isDirectory {path : Path} (clean : holdsNul path.text = false) (machine : Machine) :
    perform (isDirectory path) machine =
      ((machine.files.tellsDirectory machine.cwd path.text).mapError (Failure.refused · (.name path.text)),
        machine) := by
  unfold isDirectory statusOf? FileSystem.tellsDirectory
  simp only [clean, Bool.false_eq_true, if_false, perform_bind, perform_get]
  cases machine.files.status machine.cwd path.text with
  | ok status => cases status <;> rfl
  | error errno =>
    cases absent : errno.meansAbsence <;> simp only [absent] <;> rfl

theorem perform_isDirectory_of_holdsNul {path : Path} (unclean : holdsNul path.text = true)
    (machine : Machine) : perform (isDirectory path) machine = (.ok false, machine) := by
  unfold isDirectory statusOf?
  rw [unclean]
  rfl

theorem perform_ensureBookDirectory_of_told {path : Path} {machine : Machine}
    (clean : holdsNul path.text = false)
    (told : machine.files.tellsDirectory machine.cwd path.text = .ok true) :
    perform (ensureBookDirectory path) machine = (.ok (), machine) := by
  rw [ensureBookDirectory, perform_bind, perform_isDirectory clean, told]
  rfl

/-- What is told of a visit when it begins. -/
def arrival (visit : Visit) : Emission :=
  .trace "bookbuild.core.directory"
    ("Entered directory: " ++ visit.place.text ++ " (from " ++ visit.origin.text ++ ")")

/-- What is told of a visit when it is over. -/
def departure (visit : Visit) : Emission :=
  .trace "bookbuild.core.directory" ("Restored directory: " ++ visit.origin.text)

theorem perform_inDirectory_of_gone (machine : Machine) (target : Path) (body : Path → Action α)
    (gone : machine.files.isAlive machine.cwd = false) :
    perform (inDirectory target body) machine = (.error (.refused .noEntry .unnamed), machine) := by
  apply perform_inDirectory_of_error
  rw [arrive, perform_bind, perform_currentDirectory_of_gone gone]

theorem perform_arrive_of_enter (machine : Machine) {target : Path} {inside : WorkingDirectory}
    (alive : machine.files.isAlive machine.cwd = true) (clean : holdsNul target.text = false)
    (entered : machine.files.enter machine.cwd target.text = .ok inside) :
    perform (arrive target) machine =
      (.ok ⟨Path.ofSpot machine.cwd.spot, Path.ofSpot inside.spot⟩,
        { machine with
          cwd := inside
          emissions := machine.emissions ++
            [arrival ⟨Path.ofSpot machine.cwd.spot, Path.ofSpot inside.spot⟩] }) := by
  have there : perform currentDirectory { machine with cwd := inside } =
      (.ok (Path.ofSpot inside.spot), { machine with cwd := inside }) :=
    perform_currentDirectory (FileSystem.isAlive_of_enter alive entered)
  simp only [arrive, perform_bind, perform_currentDirectory alive,
    perform_enterDirectory clean entered, there, trace, perform_emit, perform_pure, arrival]

theorem perform_depart_of_enter (machine : Machine) (visit : Visit) {place : WorkingDirectory}
    (clean : holdsNul visit.origin.text = false)
    (entered : machine.files.enter machine.cwd visit.origin.text = .ok place) :
    perform (depart visit) machine =
      (.ok (), { machine with
        cwd := place
        emissions := machine.emissions ++ [departure visit] }) := by
  rw [depart, perform_bind, perform_enterDirectory clean entered]
  rfl

/-- Why there is no way back along a path that is too long. -/
def strandedFailure (origin : Path) : Failure :=
  if holdsNul origin.text then .embeddedNul else .refused .nameTooLong (.name origin.text)

/-- A path that is too long is refused by any file system, in the same way. -/
theorem perform_depart_of_long {origin : Path} (place : Path)
    (long : FileSystem.pathLimit ≤ origin.text.utf8ByteSize) (machine : Machine) :
    perform (depart ⟨origin, place⟩) machine = (.error (strandedFailure origin), machine) := by
  unfold strandedFailure
  cases clean : holdsNul origin.text with
  | true => rw [depart, perform_bind, enterDirectory, perform_bind, perform_query_of_holdsNul clean, if_pos rfl]
  | false =>
    have refused : machine.files.enter machine.cwd origin.text = .error .nameTooLong := by
      rw [FileSystem.enter, FileSystem.locate_of_long long]
      rfl
    rw [depart, perform_bind, enterDirectory, perform_bind, perform_query clean, refused]
    rfl

theorem perform_inDirectory_of_enter (machine : Machine) {target : Path} {inside : WorkingDirectory}
    {body : Path → Action α} (alive : machine.files.isAlive machine.cwd = true)
    (clean : holdsNul target.text = false)
    (entered : machine.files.enter machine.cwd target.text = .ok inside) :
    perform (inDirectory target body) machine =
      match perform (body (Path.ofSpot inside.spot)) { machine with
          cwd := inside
          emissions := machine.emissions ++
            [arrival ⟨Path.ofSpot machine.cwd.spot, Path.ofSpot inside.spot⟩] } with
      | (result, left) =>
        match perform (depart ⟨Path.ofSpot machine.cwd.spot, Path.ofSpot inside.spot⟩) left with
        | (.ok _, after) => (result, after)
        | (.error failure, after) => (.error failure, after) := by
  rw [inDirectory, perform_bind, perform_arrive_of_enter machine alive clean entered]
  exact perform_ensuring _ _ _

/-- A stay after which the way back is open ends as what was done in it. -/
theorem perform_inDirectory_of_back (machine : Machine) {target : Path} {inside last : WorkingDirectory}
    {body : Path → Action α} {result : Except Failure α} {left : Machine}
    (alive : machine.files.isAlive machine.cwd = true) (clean : holdsNul target.text = false)
    (entered : machine.files.enter machine.cwd target.text = .ok inside)
    (ended : perform (body (Path.ofSpot inside.spot)) { machine with
        cwd := inside
        emissions := machine.emissions ++
          [arrival ⟨Path.ofSpot machine.cwd.spot, Path.ofSpot inside.spot⟩] } = (result, left))
    (plain : holdsNul (Path.ofSpot machine.cwd.spot).text = false)
    (back : left.files.enter left.cwd (Path.ofSpot machine.cwd.spot).text = .ok last) :
    perform (inDirectory target body) machine =
      (result, { left with
        cwd := last
        emissions := left.emissions ++
          [departure ⟨Path.ofSpot machine.cwd.spot, Path.ofSpot inside.spot⟩] }) := by
  have departed := perform_depart_of_enter left
    ⟨Path.ofSpot machine.cwd.spot, Path.ofSpot inside.spot⟩ plain back
  rw [perform_inDirectory_of_enter machine alive clean entered, ended]
  simp only [departed]

/-- After a stay from which there is no way back the process is where it was last. -/
theorem perform_inDirectory_of_long (machine : Machine) {target : Path} {inside : WorkingDirectory}
    {body : Path → Action α} {result : Except Failure α} {left : Machine}
    (alive : machine.files.isAlive machine.cwd = true) (clean : holdsNul target.text = false)
    (entered : machine.files.enter machine.cwd target.text = .ok inside)
    (ended : perform (body (Path.ofSpot inside.spot)) { machine with
        cwd := inside
        emissions := machine.emissions ++
          [arrival ⟨Path.ofSpot machine.cwd.spot, Path.ofSpot inside.spot⟩] } = (result, left))
    (long : FileSystem.pathLimit ≤ (Path.ofSpot machine.cwd.spot).text.utf8ByteSize) :
    perform (inDirectory target body) machine =
      (.error (strandedFailure (Path.ofSpot machine.cwd.spot)), left) := by
  have stranded := perform_depart_of_long (Path.ofSpot inside.spot) long left
  rw [perform_inDirectory_of_enter machine alive clean entered, ended]
  simp only [stranded]

/-- A stay after which there is a directory to go back to ends as what was done in it. -/
theorem perform_inDirectory_of_there (machine : Machine) {target : Path} {inside : WorkingDirectory}
    {body : Path → Action α} {result : Except Failure α} {left : Machine}
    (alive : machine.files.isAlive machine.cwd = true) (clean : holdsNul target.text = false)
    (entered : machine.files.enter machine.cwd target.text = .ok inside)
    (ended : perform (body (Path.ofSpot inside.spot)) { machine with
        cwd := inside
        emissions := machine.emissions ++
          [arrival ⟨Path.ofSpot machine.cwd.spot, Path.ofSpot inside.spot⟩] } = (result, left))
    (there : (perform (inDirectory target body) machine).2.HasDirectory (Path.ofSpot machine.cwd.spot)) :
    ∃ last, perform (inDirectory target body) machine =
      (result, { left with
        cwd := last
        emissions := left.emissions ++
          [departure ⟨Path.ofSpot machine.cwd.spot, Path.ofSpot inside.spot⟩] }) := by
  have leads := there.leads
  have kept := (inDirectory_keeps (perform_arrive_of_enter machine alive clean entered) body).1
  rw [ended] at kept
  rw [kept, FileSystem.leadsToDirectory, FileSystem.status, FileSystem.locate_anchored
    (Path.head?_text_of_isAbsolute (Path.ofSpot_isAbsolute _)) _ _ _ left.cwd] at leads
  obtain ⟨last, back⟩ := FileSystem.enter_of_leadsToDirectory leads
  exact ⟨last, perform_inDirectory_of_back machine alive clean entered ended there.clean back⟩

/-- Both end with values that belong together, or both with one failure. -/
inductive EndAlike (values : α → β → Prop) : Except Failure α → Except Failure β → Prop where
  | ok {value : α} {twin : β} : values value twin → EndAlike values (.ok value) (.ok twin)
  | error (failure : Failure) : EndAlike values (.error failure) (.error failure)

/-- Two actions at one place, each on files of its own, do the same and leave files alone. They end where
they began, unless they fail and cannot go back. -/
structure LookAlike (files other : FileSystem) (place : WorkingDirectory) (strands : Prop)
    (values : α → β → Prop) (first : Action α) (second : Action β) : Prop where
  ends : ∀ emissions events, ∃ (result : Except Failure α) (twin : Except Failure β)
    (last : WorkingDirectory) (written : List Emission) (tools : List String),
    EndAlike values result twin ∧
    (last = place ∨ strands ∧ ∃ failure, result = .error failure) ∧
    perform first ⟨files, place, emissions, events⟩ =
      (result, ⟨files, last, emissions ++ written, events ++ tools.map Event.lookup⟩) ∧
    perform second ⟨other, place, emissions, events⟩ =
      (twin, ⟨other, last, emissions ++ written, events ++ tools.map Event.lookup⟩)

variable {files other : FileSystem} {place : WorkingDirectory} {strands : Prop}
  {values : α → β → Prop} {onward : γ → δ → Prop}

theorem lookAlike_pure {value : α} {twin : β} (holds : values value twin) :
    LookAlike files other place strands values (pure value) (pure twin) :=
  ⟨fun _ _ => ⟨_, _, _, [], [], .ok holds, .inl rfl, by simp [perform_pure], by simp [perform_pure]⟩⟩

theorem lookAlike_throw (failure : Failure) :
    LookAlike files other place strands values (throw failure) (throw failure) :=
  ⟨fun _ _ => ⟨_, _, _, [], [], .error failure, .inl rfl, by simp [perform_throw],
    by simp [perform_throw]⟩⟩

theorem lookAlike_emit (emission : Emission) :
    LookAlike files other place strands Eq (emit emission) (emit emission) :=
  ⟨fun _ _ => ⟨.ok (), .ok (), _, [emission], [], .ok rfl, .inl rfl, by simp [perform_emit],
    by simp [perform_emit]⟩⟩

theorem lookAlike_noteLookup (tool : String) :
    LookAlike files other place strands Eq (note (.lookup tool)) (note (.lookup tool)) :=
  ⟨fun _ _ => ⟨.ok (), .ok (), _, [], [tool], .ok rfl, .inl rfl, by simp [perform_note],
    by simp [perform_note]⟩⟩

theorem LookAlike.mono {first : Action α} {second : Action β} {weaker : α → β → Prop}
    (alike : LookAlike files other place False values first second)
    (weakens : ∀ value twin, values value twin → weaker value twin) :
    LookAlike files other place strands weaker first second := by
  refine ⟨fun emissions events => ?_⟩
  obtain ⟨result, twin, last, written, tools, ended, stays, one, two⟩ := alike.ends emissions events
  refine ⟨result, twin, last, written, tools, ?_, stays.imp_right fun never => never.1.elim, one, two⟩
  cases ended with
  | ok holds => exact .ok (weakens _ _ holds)
  | error failure => exact .error failure

/-- The same after others have written and looked for tools, with all that was written in one. -/
theorem LookAlike.ends_after {first : Action α} {second : Action β}
    (alike : LookAlike files other place strands values first second) (emissions written : List Emission)
    (events : List Event) (tools : List String) :
    ∃ (result : Except Failure α) (twin : Except Failure β) (last : WorkingDirectory)
      (written' : List Emission) (tools' : List String),
      EndAlike values result twin ∧
      (last = place ∨ strands ∧ ∃ failure, result = .error failure) ∧
      perform first ⟨files, place, emissions ++ written, events ++ tools.map Event.lookup⟩ =
        (result, ⟨files, last, emissions ++ written', events ++ tools'.map Event.lookup⟩) ∧
      perform second ⟨other, place, emissions ++ written, events ++ tools.map Event.lookup⟩ =
        (twin, ⟨other, last, emissions ++ written', events ++ tools'.map Event.lookup⟩) := by
  obtain ⟨result, twin, last, more, others, ended, stays, one, two⟩ :=
    alike.ends (emissions ++ written) (events ++ tools.map Event.lookup)
  refine ⟨result, twin, last, written ++ more, tools ++ others, ended, stays, ?_, ?_⟩
  · simpa using one
  · simpa using two

theorem LookAlike.bind {first : Action α} {second : Action β} {next : α → Action γ}
    {then_ : β → Action δ} (alike : LookAlike files other place strands values first second)
    (later : ∀ value twin, values value twin →
      LookAlike files other place strands onward (next value) (then_ twin)) :
    LookAlike files other place strands onward (first >>= next) (second >>= then_) := by
  refine ⟨fun emissions events => ?_⟩
  obtain ⟨result, twin, last, written, tools, ended, stays, one, two⟩ := alike.ends emissions events
  simp only [perform_bind, one, two]
  cases ended with
  | error failure =>
    exact ⟨_, _, last, written, tools, .error failure,
      stays.imp_right fun fails => ⟨fails.1, failure, rfl⟩, rfl, rfl⟩
  | ok holds =>
    -- what ended well ended where it began, so the rest begins there too
    have here : last = place := by
      rcases stays with here | ⟨_, failure, failed⟩
      · exact here
      · cases failed
    subst here
    exact (later _ _ holds).ends_after emissions written events tools

/-- What comes after a failure that was caught may be done at another place, so it has to be alike there
too, and to fail in its turn. -/
theorem LookAlike.bind_attempt {first : Action α} {second : Action β} {next : Except Failure α → Action γ}
    {then_ : Except Failure β → Action δ}
    (alike : LookAlike files other place strands values first second)
    (later : ∀ value twin, values value twin →
      LookAlike files other place strands onward (next (.ok value)) (then_ (.ok twin)))
    (failing : ∀ failure last, LookAlike files other last False (fun _ _ => False)
      (next (.error failure)) (then_ (.error failure))) :
    LookAlike files other place strands onward (attempt first >>= next) (attempt second >>= then_) := by
  refine ⟨fun emissions events => ?_⟩
  obtain ⟨result, twin, last, written, tools, ended, stays, one, two⟩ := alike.ends emissions events
  simp only [perform_bind, perform_attempt, one, two]
  cases ended with
  | error failure =>
    obtain ⟨result, twin, final, more, others, finished, ending, one, two⟩ :=
      (failing failure last).ends_after emissions written events tools
    have here : final = last := ending.elim id fun never => never.1.elim
    subst here
    cases finished with
    | ok never => exact never.elim
    | error failure =>
      exact ⟨_, _, final, more, others, .error failure,
        stays.imp_right fun fails => ⟨fails.1, failure, rfl⟩, one, two⟩
  | ok holds =>
    have here : last = place := by
      rcases stays with here | ⟨_, failure, failed⟩
      · exact here
      · cases failed
    subst here
    exact (later _ _ holds).ends_after emissions written events tools

theorem LookAlike.attempt {first : Action α} {second : Action β}
    (alike : LookAlike files other place False values first second) :
    LookAlike files other place strands (EndAlike values) (attempt first) (attempt second) := by
  refine ⟨fun emissions events => ?_⟩
  obtain ⟨result, twin, last, written, tools, ended, stays, one, two⟩ := alike.ends emissions events
  refine ⟨_, _, last, written, tools, .ok ended, stays.imp_right fun never => never.1.elim, ?_, ?_⟩
  · rw [perform_attempt, one]
  · rw [perform_attempt, two]

theorem lookAlike_get {next : Machine → Action α} {then_ : Machine → Action β}
    (later : ∀ emissions events, LookAlike files other place strands values
      (next ⟨files, place, emissions, events⟩) (then_ ⟨other, place, emissions, events⟩)) :
    LookAlike files other place strands values (get >>= next) (get >>= then_) :=
  ⟨fun emissions events => (later emissions events).ends emissions events⟩

theorem lookAlike_tellLine (message : String) :
    LookAlike files other place strands Eq (tellLine message) (tellLine message) :=
  lookAlike_emit _

theorem lookAlike_ensure (condition : Bool) (message : String) :
    LookAlike files other place strands (fun _ _ => condition = true) (ensure condition message)
      (ensure condition message) := by
  unfold ensure
  cases condition with
  | true => exact lookAlike_pure rfl
  | false => exact (lookAlike_tellLine _).bind fun _ _ _ => lookAlike_throw _

section

variable (same : files.SameDirectories other)

include same

theorem lookAlike_isDirectory (path : Path) :
    LookAlike files other place strands
      (fun found twin => found = twin ∧
        (found = true → holdsNul path.text = false ∧ files.leadsToDirectory place path.text = true))
      (isDirectory path) (isDirectory path) := by
  refine ⟨fun emissions events => ?_⟩
  cases unclean : holdsNul path.text with
  | true =>
    refine ⟨.ok false, .ok false, place, [], [], .ok (by simp), .inl rfl, ?_, ?_⟩
    · simp [perform_isDirectory_of_holdsNul unclean]
    · simp [perform_isDirectory_of_holdsNul unclean]
  | false =>
    simp only [perform_isDirectory unclean, ← same.tells]
    cases told : files.tellsDirectory place path.text with
    | error errno =>
      exact ⟨_, _, place, [], [], .error (.refused errno (.name path.text)), .inl rfl,
        Prod.ext rfl (by simp), Prod.ext rfl (by simp)⟩
    | ok found =>
      have leads (holds : found = true) : files.leadsToDirectory place path.text = true :=
        FileSystem.leadsToDirectory_of_tellsDirectory (holds ▸ told)
      exact ⟨.ok found, .ok found, place, [], [], .ok ⟨rfl, fun holds => ⟨trivial, leads holds⟩⟩, .inl rfl,
        Prod.ext rfl (by simp), Prod.ext rfl (by simp)⟩

theorem lookAlike_ensureBookDirectory (path : Path) :
    LookAlike files other place strands
      (fun _ _ => holdsNul path.text = false ∧ files.leadsToDirectory place path.text = true)
      (ensureBookDirectory path) (ensureBookDirectory path) := by
  refine (lookAlike_isDirectory same path).bind fun found twin both => ?_
  obtain ⟨rfl, leads⟩ := both
  refine LookAlike.mono (lookAlike_ensure found _) fun _ _ holds => leads holds

theorem lookAlike_currentDirectory :
    LookAlike files other place strands
      (fun path twin => path = Path.ofSpot place.spot ∧ twin = Path.ofSpot place.spot)
      currentDirectory currentDirectory := by
  refine lookAlike_get fun emissions events => ?_
  rw [← same.alive]
  split
  · exact lookAlike_pure ⟨rfl, rfl⟩
  · exact lookAlike_throw _

/-- A stay in a directory in which one only looks and tells. There is a way back unless its path is too
long to be followed. -/
theorem lookAlike_inDirectory {target : Path} {body : Path → Action α} {body' : Path → Action β}
    (clean : holdsNul target.text = false) (leads : files.leadsToDirectory place target.text = true)
    (plain : files.isAlive place = true → files.StandsPlainly place.spot ∨
      FileSystem.pathLimit ≤ (Path.ofSpot place.spot).text.utf8ByteSize)
    (alike : ∀ inside, LookAlike files other inside False values (body (Path.ofSpot inside.spot))
      (body' (Path.ofSpot inside.spot))) :
    LookAlike files other place
      (FileSystem.pathLimit ≤ (Path.ofSpot place.spot).text.utf8ByteSize) values
      (inDirectory target body) (inDirectory target body') := by
  refine ⟨fun emissions events => ?_⟩
  have twinAlive := same.alive place
  cases alive : files.isAlive place with
  | false =>
    rw [alive] at twinAlive
    rw [perform_inDirectory_of_gone ⟨files, place, emissions, events⟩ target body alive,
      perform_inDirectory_of_gone ⟨other, place, emissions, events⟩ target body' twinAlive.symm]
    exact ⟨_, _, place, [], [], .error (.refused .noEntry .unnamed), .inl rfl, by simp, by simp⟩
  | true =>
    rw [alive] at twinAlive
    obtain ⟨inside, entered⟩ := FileSystem.enter_of_leadsToDirectory leads
    have twinEntered := (same.enter _ _ _).1 entered
    obtain ⟨result, twin, last, written, tools, ended, stays, one, two⟩ := (alike inside).ends
      (emissions ++ [arrival ⟨Path.ofSpot place.spot, Path.ofSpot inside.spot⟩]) events
    obtain rfl : last = inside := stays.elim id fun never => never.1.elim
    rcases plain alive with stands | long
    · -- the way back is followed by names, which lead to the same place in both
      obtain ⟨serial, mode, entry, back⟩ := stands.enter last
      have serialIs : serial = place.serial := by
        simpa [FileSystem.isAlive, entry] using alive
      rw [serialIs] at back
      have twinBack := (same.enter _ _ _).1 back
      rw [perform_inDirectory_of_back ⟨files, place, emissions, events⟩ alive clean entered one
          stands.clean back,
        perform_inDirectory_of_back ⟨other, place, emissions, events⟩ twinAlive.symm clean twinEntered two
          stands.clean twinBack]
      refine ⟨result, twin, place,
        arrival ⟨Path.ofSpot place.spot, Path.ofSpot last.spot⟩ :: written ++
          [departure ⟨Path.ofSpot place.spot, Path.ofSpot last.spot⟩],
        tools, ended, .inl rfl, ?_, ?_⟩
      · simp
      · simp
    · -- neither file system can be followed that far, whatever is there
      rw [perform_inDirectory_of_long ⟨files, place, emissions, events⟩ alive clean entered one long,
        perform_inDirectory_of_long ⟨other, place, emissions, events⟩ twinAlive.symm clean twinEntered two
          long]
      refine ⟨_, _, last, arrival ⟨Path.ofSpot place.spot, Path.ofSpot last.spot⟩ :: written, tools,
        .error (strandedFailure (Path.ofSpot place.spot)), .inr ⟨long, _, rfl⟩, ?_, ?_⟩
      · simp
      · simp

end

end Action

end Bookbinder
