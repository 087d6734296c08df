import Bookbinder.Proofs.Archive.Blocks
import Bookbinder.Proofs.Archive.Containment
import Bookbinder.Proofs.Delivery.Download

/-!
What bringing an archive into a directory does to files. Main statement: unless a member of the archive
steps up or is to be a second name of a symbolic link, nothing outside the directory changes, whether the
archive can be extracted or not.
-/

set_option autoImplicit false

namespace Bookbinder

open FileSystem (LeadsHome Steady)
open Archive (Contains)

/-- The text of a path ends in a slash only if it is that of a root. -/
theorem Path.names_eq_nil_of_endsInSlash {path : Path} (ends : PathText.endsInSlash path.text = true) :
    path.names = [] ∧ path.anchor ≠ .here := by
  obtain ⟨anchor, names, valid⟩ := path
  have last := FileSystem.getLast?_joinWith_ne_slash valid
  cases names with
  | nil =>
    refine ⟨rfl, ?_⟩
    rintro rfl
    have text : (Path.mk .here [] valid).text = "." := rfl
    rw [text] at ends
    exact absurd ends (by decide)
  | cons name rest =>
    refine absurd ?_ last
    obtain ⟨c, chars, starts, _⟩ := Path.joinWith_ne_slash (List.cons_ne_nil name rest) valid
    have text : (Path.mk anchor (name :: rest) valid).text =
        String.ofList (anchor.text ++ Text.joinWith ['/'] ((name :: rest).map String.toList)) := by
      cases anchor <;> rfl
    rw [text, starts] at ends
    rw [starts]
    simpa [PathText.endsInSlash, List.getLast?_append, List.getLast?_cons] using ends

namespace Delivery

variable {before : FileSystem} {cwd : WorkingDirectory} {home : Spot}

theorem locate_of_endsInSlash (files : FileSystem) (cwd : WorkingDirectory) {path : Path}
    (ends : PathText.endsInSlash path.text = true) :
    files.locate cwd true path.text = files.walkOn true FileSystem.mostLinks [] ["."] := by
  obtain ⟨none, anchored⟩ := Path.names_eq_nil_of_endsInSlash ends
  obtain ⟨anchor, names, valid⟩ := path
  cases none
  have rooted {text : String} (is : text = "/" ∨ text = "//") :
      files.locate cwd true text = files.walkOn true FileSystem.mostLinks [] ["."] := by
    have names : FileSystem.components text = ["."] := by rcases is with rfl | rfl <;> decide
    have some : text ≠ "" := by rcases is with rfl | rfl <;> decide
    have short : ¬ text.utf8ByteSize ≥ FileSystem.pathLimit := by rcases is with rfl | rfl <;> decide
    have first : text.toList.head? = Option.some '/' := by rcases is with rfl | rfl <;> decide
    rw [FileSystem.locate, if_neg some, if_neg short, names]
    exact if_pos first
  cases anchor with
  | here => exact absurd rfl anchored
  | root => exact rooted (.inl rfl)
  | doubleRoot => exact rooted (.inr rfl)

/-- A path that leads to a place below the root is steady. -/
theorem steady_of_leadsHome {path : Path} (leads : LeadsHome before cwd home path.text)
    (separate : before.IsSeparate home) (root : home ≠ []) : Steady before cwd home path.text where
  toLeadsHome := leads
  some := by
    intro empty
    have located := leads.located before separate.contained true
    rw [empty] at located
    cases located
  plain := by
    cases ends : PathText.endsInSlash path.text with
    | false => rfl
    | true =>
      have located := leads.located before separate.contained true
      rw [locate_of_endsInSlash before cwd ends] at located
      refine absurd ?_ root
      cases directory : before.isDirectory [] with
      | false =>
        have refused : before.walk true [] ["."] = .refused .notDirectory := by
          simp [FileSystem.walk, directory]
        rw [FileSystem.walkOn_of_refused _ refused] at located
        cases located
      | true =>
        have arrived : before.walk true [] ["."] = .arrived (.occupied []) := by
          simp [FileSystem.walk, directory]
        rw [FileSystem.walkOn_of_arrived _ arrived] at located
        cases located
        rfl

/-- The machine when a download has been announced. -/
def announced (url : String) (directory : Path) (machine : Machine) : Machine :=
  (Action.perform
    (Action.trace origin ("Fetching release archive: url=" ++ url ++ ", dest=" ++ directory.text))
    machine).2

theorem keeps_download (supply : Supply) (url : String) :
    Action.Keeps (Contains before cwd home) (download supply url) := by
  refine ⟨fun machine holds => ?_⟩
  rw [download, perform_downloadTo]
  cases downloaded supply.store supply.network url <;> exact ⟨holds.contained, holds.cwd⟩

/-- What unpacking leaves is what the last member leaves. -/
theorem perform_unpack {content : Text.Bytes} {archive : Archive} (read : Archive.ofBytes content = .ok archive)
    (directory : Path) (machine : Machine) :
    (Action.perform (unpack content directory) machine).2 =
      archive.atTurn directory.text machine archive.members.length := by
  rw [← Archive.perform_extract, unpack, read]
  simp only [Archive.liftFault, Action.perform_bind, Action.perform_pure]
  generalize Action.perform (archive.extract directory.text) machine = outcome
  rcases outcome with ⟨result, after⟩
  cases result <;> rfl

theorem contains_unpack (content : Text.Bytes) {directory : Path}
    (steady : Steady before cwd home directory.text) (root : home ≠ [])
    (aside : before.LinksStayOutside home) {machine : Machine}
    (contains : Contains before cwd home machine)
    (mild : ∀ archive, Archive.ofBytes content = .ok archive →
      archive.IsMild home directory.text machine) :
    Contains before cwd home (Action.perform (unpack content directory) machine).2 := by
  cases read : Archive.ofBytes content with
  | error fault =>
    rw [unpack, read]
    exact contains
  | ok archive =>
    rw [perform_unpack read, ← Archive.perform_extract]
    exact Archive.contains_extract steady root aside (mild archive read) contains

/-- What is done with an archive that was downloaded. -/
def deliver (url : String) (directory : Path) (content : Text.Bytes) : Action Unit := do
  match ← Action.attempt (unpack content directory) with
  | .error failure => throw (told url failure)
  | .ok names =>
    Action.trace origin ("Extracted " ++ Text.quotedList names ++ " into " ++ directory.text)

theorem perform_fetch (supply : Supply) (url : String) (directory : Path) (machine : Machine) :
    Action.perform (fetch supply url directory) machine =
      Action.perform (download supply url >>= deliver url directory) (announced url directory machine) := by
  rw [fetch, bring, announced, Action.perform_bind]
  rfl

theorem files_deliver (url : String) (directory : Path) (content : Text.Bytes) (machine : Machine) :
    (Action.perform (deliver url directory content) machine).2.files =
      (Action.perform (unpack content directory) machine).2.files := by
  rw [deliver, Action.perform_bind, Action.perform_attempt]
  generalize Action.perform (unpack content directory) machine = outcome
  rcases outcome with ⟨result, after⟩
  cases result <;> rfl

/-- The files are left as the download leaves them, or as extracting does that comes after it. -/
theorem files_fetch (supply : Supply) (url : String) (directory : Path) (machine : Machine) :
    (Action.perform (fetch supply url directory) machine).2.files =
      match Action.perform (download supply url) (announced url directory machine) with
      | (.ok content, started) => (Action.perform (unpack content directory) started).2.files
      | (.error _, started) => started.files := by
  rw [perform_fetch, Action.perform_bind]
  generalize Action.perform (download supply url) (announced url directory machine) = outcome
  rcases outcome with ⟨result, started⟩
  cases result with
  | ok content => exact files_deliver url directory content started
  | error failure => rfl

/-- Nothing outside the directory changes, whether bringing an archive into it succeeds or not. -/
theorem fetch_keeps_outside (supply : Supply) (url : String) (directory : Path) (machine : Machine)
    (home : Spot) (separate : machine.files.IsSeparate home)
    (leads : LeadsHome machine.files machine.cwd home directory.text)
    (aside : machine.files.LinksStayOutside home)
    (mild : ∀ content archive started,
      Action.perform (download supply url) (announced url directory machine) = (.ok content, started) →
      Archive.ofBytes content = .ok archive → archive.IsMild home directory.text started)
    (spot : Spot) (outside : ¬ home <+: spot) :
    (Action.perform (fetch supply url directory) machine).2.files.entryAt? spot =
        machine.files.entryAt? spot ∧
      (Action.perform (fetch supply url directory) machine).2.files.viewAt? spot =
        machine.files.viewAt? spot := by
  have root : home ≠ [] := by
    rintro rfl
    exact outside List.nil_prefix
  have steady := steady_of_leadsHome leads separate root
  have start : Contains machine.files machine.cwd home (announced url directory machine) :=
    ⟨separate.contained, rfl⟩
  have downloaded := (keeps_download supply url).ends _ start
  have contained : FileSystem.Contained machine.files home
      (Action.perform (fetch supply url directory) machine).2.files := by
    rw [files_fetch]
    cases given : Action.perform (download supply url) (announced url directory machine) with
    | mk result started =>
      rw [given] at downloaded
      cases result with
      | error failure => exact downloaded.contained
      | ok content =>
        have unpacked := contains_unpack content steady root aside downloaded fun archive read =>
          mild content archive started given read
        exact unpacked.contained
  exact ⟨contained.entries outside, contained.viewAt? outside⟩

/-! ### One archive that is mild, and others that are not -/

/-- The same content is served at every address. -/
def Supply.serving (content : Text.Bytes) : Supply := ⟨fun _ => .response ⟨200, [], content⟩, false⟩

def address : String := "https://h/a.tgz"

theorem perform_download_serving (content : Text.Bytes) (machine : Machine) :
    (Action.perform (download (.serving content) address) machine).1 = .ok content := by
  have exchange : Web.fetch (Supply.serving content).network address = ⟨[address], .ok content⟩ := by
    with_unfolding_all rfl
  rw [download, perform_downloadTo, downloaded, exchange]
  simp only [Supply.write_store]
  rfl

/-- The machine when content that is served has been downloaded. -/
def started (content : Text.Bytes) (directory : Path) (machine : Machine) : Machine :=
  (Action.perform (download (.serving content) address) (announced address directory machine)).2

/-- What is left of the files after an archive was served and brought into a directory. -/
theorem files_fetch_serving {content : Text.Bytes} {archive : Archive}
    (read : Archive.ofBytes content = .ok archive) (directory : Path) (machine : Machine) :
    (Action.perform (fetch (.serving content) address directory) machine).2.files =
      (archive.atTurn directory.text (started content directory machine) archive.members.length).files := by
  have downloaded := perform_download_serving content (announced address directory machine)
  rw [files_fetch, started]
  generalize Action.perform (download (.serving content) address) (announced address directory machine) =
    outcome at downloaded ⊢
  rcases outcome with ⟨result, after⟩
  cases downloaded
  exact congrArg Machine.files (perform_unpack read directory after)

/-- Members without data in a compressed file. -/
def packed (blocks : List (Text.Bytes × Archive.Header)) : Text.Bytes :=
  Compression.Gzip.stored (blocks.flatMap Prod.fst)

theorem ofBytes_packed {blocks : List (Text.Bytes × Archive.Header)}
    (lone : ∀ pair ∈ blocks, Archive.IsLone pair.1 pair.2) (some : blocks ≠ [])
    (short : Archive.blockSize * blocks.length ≤ Compression.mostStored) :
    Archive.ofBytes (packed blocks) = .ok (Archive.ofBlocks blocks) :=
  Archive.ofBytes_stored lone some short

/-- Where archives are brought. -/
def place : Path := Path.ofSpot ["tmp"]

theorem leadsHome_place (files : FileSystem) (cwd : WorkingDirectory) :
    LeadsHome files cwd ["tmp"] place.text := by
  refine FileSystem.leadsHome_ofSpot files cwd ?_ (by decide) (by decide)
  intro name member
  cases List.mem_singleton.1 member
  exact .of_isName (by decide) (by decide)

theorem isSeparate_atProject : Machine.atProject.files.IsSeparate ["tmp"] :=
  .of_entries (.of_entries (by decide)) (by decide) (by decide)

/-- The only link of the machine leads from one directory of programs to the other. -/
theorem linksStayOutside_atProject : Machine.atProject.files.LinksStayOutside ["tmp"] := by
  intro spot target outside link
  have only : ∀ pair ∈ Machine.atProject.files.entries,
      FileSystem.Sign.ofEntry pair.2 = .directory ∨ FileSystem.Sign.ofEntry pair.2 = .leaf ∨
        pair = (["bin"], .symlink "usr/bin") := by decide
  have tree := isSeparate_atProject.tree
  have standing : Machine.atProject.files.isDirectory ["usr", "bin"] = true := by decide
  obtain ⟨serial, mode, present⟩ := FileSystem.entryAt?_of_isDirectory standing
  have along : FileSystem.Leads Machine.atProject.files (fun place => place <+: ["usr", "bin"]) 0 []
      ["usr", "bin"] ["usr", "bin"] := (tree.isClear standing).leads (tree.leadsDown present) rfl
  rcases only _ (FileSystem.mem_entries ((FileSystem.signAt?_eq_link_iff _ spot target).1 link)) with
    other | other | same
  · cases other
  · cases other
  · cases same
    exact ⟨0, ["usr", "bin"], along.mono (fun place above within => absurd (within.trans above) (by decide))
      fun _ _ _ => Iff.rfl⟩

/-- A file and a second name of it. -/
def twoNames : List (Text.Bytes × Archive.Header) := [Archive.lone '0' "a" "", Archive.lone '1' "h" "a"]

theorem isLone_twoNames : ∀ pair ∈ twoNames, Archive.IsLone pair.1 pair.2 :=
  Archive.isLone_of_reads (by decide +kernel)

theorem ofBytes_twoNames : Archive.ofBytes (packed twoNames) = .ok (Archive.ofBlocks twoNames) :=
  ofBytes_packed isLone_twoNames (by decide) (by decide)

theorem isMild_twoNames : (Archive.ofBlocks twoNames).IsMild ["tmp"] place.text
    (started (packed twoNames) place Machine.atProject) where
  down := by decide +kernel
  solid := .of_no_symlink (by decide +kernel)
  fit count member there := by
    match count with
    | 0 =>
      cases there
      exact ⟨.of_entries (by decide +kernel), nofun⟩
    | 1 =>
      cases there
      refine ⟨.of_entries (by decide +kernel), fun _ names => ?_⟩
      obtain ⟨first, name, target, middle, count, components, leads, link⟩ := names
      obtain ⟨rfl, same⟩ := List.append_inj' (show [] ++ ["a"] = first ++ [name] from components) rfl
      cases same
      cases leads
      have leaf : ((Archive.ofBlocks twoNames).atTurn place.text
          (started (packed twoNames) place Machine.atProject) 1).files.signAt? ["tmp", "a"] = some .leaf := by
        decide +kernel
      rw [List.cons_append, List.nil_append, leaf] at link
      cases link
    | count + 2 => cases there

theorem fetch_keeps_outside_of_two_names :
    (Action.perform (fetch (.serving (packed twoNames)) address place) Machine.atProject).2.files.entryAt?
        ["bin"] = some (.symlink "usr/bin") ∧
      (Action.perform (fetch (.serving (packed twoNames)) address place) Machine.atProject).2.files.viewAt?
        ["bin"] = Machine.atProject.files.viewAt? ["bin"] := by
  refine fetch_keeps_outside (.serving (packed twoNames)) address place Machine.atProject ["tmp"]
    isSeparate_atProject (leadsHome_place _ _) linksStayOutside_atProject ?_ ["bin"] (by decide)
  intro content archive after downloaded read
  have served := perform_download_serving (packed twoNames) (announced address place Machine.atProject)
  rw [downloaded] at served
  cases served
  rw [ofBytes_twoNames] at read
  cases read
  have same : after = started (packed twoNames) place Machine.atProject := by rw [started, downloaded]
  rw [same]
  exact isMild_twoNames

/-- A step up on the way to a name in the directory: what is missing on the way is made. -/
def stepUp : List (Text.Bytes × Archive.Header) := [Archive.lone '2' "../e/../tmp/f" "g"]

/-- A second name of a link, which leads elsewhere from there, and is given permission bits. -/
def linkTwice : List (Text.Bytes × Archive.Header) :=
  [Archive.lone '2' "a/l" "../usr", Archive.lone '1' "h" "a/l"]

/-- A new link in place of one outside that leads into the directory. -/
def linkAgain : List (Text.Bytes × Archive.Header) := [Archive.lone '2' "up/l" "tmp/y"]

/-- A machine with a link that leads into the directory, and one that leads out of it. -/
def linked : Machine :=
  let files := Machine.atProject.files.putEntry ["l"] (.symlink "tmp/x")
  { Machine.atProject with files := files.putEntry ["tmp", "up"] (.symlink "..") }

/-- Something changes outside of where an archive is brought. -/
def Escapes (blocks : List (Text.Bytes × Archive.Header)) (machine : Machine) : Prop :=
  machine.files.IsSeparate ["tmp"] ∧ LeadsHome machine.files machine.cwd ["tmp"] place.text ∧
    ∃ spot, ¬ ["tmp"] <+: spot ∧
      (Action.perform (fetch (.serving (packed blocks)) address place) machine).2.files.viewAt? spot ≠
        machine.files.viewAt? spot

theorem escapes_of_atTurn {blocks : List (Text.Bytes × Archive.Header)} {machine : Machine} (spot : Spot)
    (separate : machine.files.IsSeparate ["tmp"]) (lone : ∀ pair ∈ blocks, Archive.IsLone pair.1 pair.2)
    (some : blocks ≠ []) (short : Archive.blockSize * blocks.length ≤ Compression.mostStored)
    (outside : ¬ ["tmp"] <+: spot)
    (changed : ((Archive.ofBlocks blocks).atTurn place.text (started (packed blocks) place machine)
      (Archive.ofBlocks blocks).members.length).files.viewAt? spot ≠ machine.files.viewAt? spot) :
    Escapes blocks machine := by
  refine ⟨separate, leadsHome_place _ _, spot, outside, ?_⟩
  rw [files_fetch_serving (ofBytes_packed lone some short)]
  exact changed

/-- Steps up in names, second names of links and links into the directory cannot be left out of account. -/
theorem fetch_escapes :
    Escapes stepUp Machine.atProject ∧ Escapes linkTwice Machine.atProject ∧ Escapes linkAgain linked := by
  have separate : linked.files.IsSeparate ["tmp"] :=
    .of_entries (.of_entries (by decide)) (by decide) (by decide)
  refine ⟨escapes_of_atTurn ["e"] isSeparate_atProject (Archive.isLone_of_reads ?_) ?_ ?_ ?_ ?_,
    escapes_of_atTurn ["usr"] isSeparate_atProject (Archive.isLone_of_reads ?_) ?_ ?_ ?_ ?_,
    escapes_of_atTurn ["l"] separate (Archive.isLone_of_reads ?_) ?_ ?_ ?_ ?_⟩
  all_goals decide +kernel

end Delivery

end Bookbinder
