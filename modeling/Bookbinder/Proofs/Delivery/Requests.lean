import Bookbinder.Proofs.Archive.Agreement
import Bookbinder.Proofs.Archive.Output
import Bookbinder.Proofs.Delivery.Containment
import Bookbinder.Proofs.Web.Redirects

/-!
The requests that bring an archive. Main statement: one chain of addresses is asked, each once and none again,
and files change only once the content of the last answer has been kept as a whole; then they change as
extracting that content changes them.
-/

set_option autoImplicit false

namespace Bookbinder.Delivery

open Action (perform)

variable {store : Store} {network : Web.Network} {url : String} {directory : Path} {content : Text.Bytes}
  {machine : Machine}

theorem alike_unpack (content : Text.Bytes) (directory : Path) :
    Action.Alike (unpack content directory) (unpack content directory) := by
  unfold unpack
  cases Archive.ofBytes content with
  | error fault => exact Action.alike_throw _
  | ok archive =>
    exact (Archive.alike_extract (.refl archive) directory.text).bind fun _ => Action.alike_pure _

theorem unpack_changes_only_files (content : Text.Bytes) (directory : Path) (machine : Machine) :
    ∃ files, (perform (unpack content directory) machine).2 = { machine with files := files } := by
  cases read : Archive.ofBytes content with
  | error fault =>
    rw [unpack, read]
    exact ⟨machine.files, rfl⟩
  | ok archive =>
    rw [perform_unpack read, ← Archive.perform_extract]
    exact archive.perform_extract_changes_only_files directory.text machine

/-- What comes of extracting, as it is told. -/
def delivered (url : String) (content : Text.Bytes) (directory : Path) (machine : Machine) :
    Except Failure Unit :=
  ((perform (unpack content directory) machine).1.map fun _ => ()).mapError (told url)

theorem perform_deliver {after : Machine} (same : machine.SameFiles after) (url : String) (directory : Path)
    (content : Text.Bytes) :
    (perform (deliver url directory content) after).1 = delivered url content directory machine ∧
      (perform (deliver url directory content) after).2.files =
        (perform (unpack content directory) machine).2.files ∧
      (perform (deliver url directory content) after).2.events = after.events ∧
      (perform (deliver url directory content) after).2.cwd = after.cwd := by
  obtain ⟨results, left⟩ := (alike_unpack content directory).ends machine after same
  obtain ⟨files, changed⟩ := unpack_changes_only_files content directory after
  rw [delivered, results, left.files, deliver, Action.perform_bind, Action.perform_attempt]
  generalize perform (unpack content directory) after = outcome at changed ⊢
  obtain ⟨result, final⟩ := outcome
  cases changed
  cases result <;> exact ⟨rfl, rfl, rfl, rfl⟩

theorem perform_bring (store : Store) (network : Web.Network) (url : String) (directory : Path)
    (machine : Machine) :
    perform (bring store network url directory) machine =
      perform (downloadTo store network url >>= deliver url directory) (announced url directory machine) := by
  rw [bring, announced, Action.perform_bind]
  rfl

theorem bring_cases (store : Store) (network : Web.Network) (url : String) (directory : Path)
    (machine : Machine) :
    (perform (bring store network url directory) machine).2.events =
        machine.events ++ (Web.fetch network url).requests.map .request ∧
      (perform (bring store network url directory) machine).2.cwd = machine.cwd ∧
      match downloaded store network url with
      | .error failure =>
        (perform (bring store network url directory) machine).1 = .error failure ∧
          (perform (bring store network url directory) machine).2.files = machine.files
      | .ok content =>
        (perform (bring store network url directory) machine).1 = delivered url content directory machine ∧
          (perform (bring store network url directory) machine).2.files =
            (perform (unpack content directory) machine).2.files := by
  rw [perform_bring, Action.perform_bind, perform_downloadTo]
  cases downloaded store network url with
  | error failure => exact ⟨rfl, rfl, rfl, rfl⟩
  | ok content =>
    -- requests and lines do not matter to what is extracted, only files and the directory do
    have same : machine.SameFiles { announced url directory machine with
        events := machine.events ++ (Web.fetch network url).requests.map .request
        emissions := (announced url directory machine).emissions ++ downloadLines url (.ok content) } :=
      ⟨rfl, rfl⟩
    obtain ⟨result, files, events, cwd⟩ := perform_deliver same url directory content
    exact ⟨events, cwd, result, files⟩

/-- The answer from which content comes: it says that it succeeded, and without a coding the content is its
body. -/
structure Serves (network : Web.Network) (last : Web.Address) (content : Text.Bytes) : Prop where
  response : ∃ response, network last.text = .response response ∧ response.isSuccess = true ∧
    Compression.Coding.decodeAll response.codings response.body = .ok content ∧
    (response.codings = [] → content = response.body)

theorem serves_of_ends {last : Web.Address} (ends : Web.Ends network last (.ok content)) :
    Serves network last content := by
  cases ends with
  | content received kind final success =>
    refine ⟨_, received.answered, success, received.decoded, fun plain => ?_⟩
    have decoded := received.decoded
    rw [plain, Compression.Coding.decodeAll_nil] at decoded
    exact (Except.ok.inj decoded).symm

/-- One chain of addresses is asked, from the given one on and along what the answers point to. Without content
from the last one, files stay as they are, and a problem is told. Content is kept piece by piece: if a piece is
refused, files stay as they are and that is told, and else what is extracted is the content as a whole. -/
theorem bring_asks_one_trail {start : Web.Address} (opens : Web.Opens url start) (store : Store)
    (network : Web.Network) (directory : Path) (machine : Machine) :
    ∃ asked outcome, Web.Trail network Web.mostRedirects start asked outcome ∧
      (perform (bring store network url directory) machine).2.events =
        machine.events ++ asked.map (fun address => .request address.text) ∧
      (perform (bring store network url directory) machine).2.cwd = machine.cwd ∧
      match outcome with
      | .error (.problem problem) =>
        (perform (bring store network url directory) machine).1 =
            .error (.delivery (.notDownloaded url problem)) ∧
          (perform (bring store network url directory) machine).2.files = machine.files
      | .error (.fault _) =>
        (∃ failure, (perform (bring store network url directory) machine).1 = .error failure) ∧
          (perform (bring store network url directory) machine).2.files = machine.files
      | .ok content => (∃ last, asked.getLast? = some last ∧ Serves network last content) ∧
        ((∃ errno, store.Refuses content errno ∧
            (perform (bring store network url directory) machine).1 =
              .error (.delivery (.notStored url errno)) ∧
            (perform (bring store network url directory) machine).2.files = machine.files) ∨
          store.Accepts content ∧
            (perform (bring store network url directory) machine).1 =
              delivered url content directory machine ∧
            (perform (bring store network url directory) machine).2.files =
              (perform (unpack content directory) machine).2.files) := by
  obtain ⟨asked, requests, trail⟩ := Web.trail_follow network Web.mostRedirects start
  rw [← Web.fetch_of_begins opens.begins] at requests trail
  obtain ⟨events, cwd, comes⟩ := bring_cases store network url directory machine
  refine ⟨asked, _, trail, by rw [events, requests, List.map_map]; rfl, cwd, ?_⟩
  obtain ⟨last, final, ends⟩ := trail.ends
  unfold downloaded at comes
  cases outcome : (Web.fetch network url).result with
  | error trouble =>
    rw [outcome] at comes
    cases trouble with
    | problem problem => exact comes
    | fault fault => exact ⟨⟨_, comes.1⟩, comes.2⟩
  | ok content =>
    rw [outcome] at comes ends
    -- content is no end of a budget, so it is the last answer that served it
    have served : Web.Ends network last (.ok content) := by
      rcases ends with ends | ⟨_, _, spent⟩
      · exact ends
      · cases spent
    refine ⟨⟨last, final, serves_of_ends served⟩, ?_⟩
    rcases store.write_pieces content with ⟨accepts, kept⟩ | ⟨errno, refuses, refused⟩
    · simp only [kept] at comes
      exact .inr ⟨accepts, comes⟩
    · simp only [refused] at comes
      exact .inl ⟨errno, refuses, comes⟩

/-! ### An address that points to itself, and content in a coding -/

def start : Web.Address := ⟨"https", "", "h", none, "/a.tgz", none, none⟩

theorem opens_address : Web.Opens address start :=
  ⟨by with_unfolding_all rfl, by decide, "h", by with_unfolding_all rfl⟩

/-- Every answer points to the same address. -/
def roundabout : Web.Network := fun _ => .response ⟨302, [("Location", "/a.tgz")], []⟩

theorem redirects_roundabout : Web.Redirects roundabout start start where
  kind := by decide
  points := by
    refine ⟨_, [], "/a.tgz", ⟨rfl, ?_, rfl⟩, by with_unfolding_all rfl, by with_unfolding_all rfl⟩
    intro header member
    obtain rfl := List.mem_singleton.1 member
    exact ⟨by decide, by decide⟩

theorem bring_asks_one_trail_around :
    (perform (bring ⟨fun _ => none⟩ roundabout address place) Machine.atProject).1 =
        .error (.delivery (.notDownloaded address .tooManyRedirects)) ∧
      (perform (bring ⟨fun _ => none⟩ roundabout address place) Machine.atProject).2.files =
        Machine.atProject.files ∧
      (perform (bring ⟨fun _ => none⟩ roundabout address place) Machine.atProject).2.events =
        List.replicate 21 (.request address) := by
  obtain ⟨asked, outcome, trail, events, _, comes⟩ :=
    bring_asks_one_trail opens_address ⟨fun _ => none⟩ roundabout place Machine.atProject
  have around := Web.trail_of_loop redirects_roundabout Web.mostRedirects
  have same := trail.follow.symm.trans around.follow
  have requests : asked.map Web.Address.text = (List.replicate 21 start).map Web.Address.text :=
    congrArg Web.Exchange.requests same
  obtain rfl : outcome = .error (.problem .tooManyRedirects) := congrArg Web.Exchange.result same
  refine ⟨comes.1, comes.2, events.trans ?_⟩
  have text : start.text = address := by with_unfolding_all rfl
  have texts : asked.map (fun address => Event.request address.text) =
      (asked.map Web.Address.text).map Event.request := by
    rw [List.map_map]
    rfl
  rw [texts, requests, List.map_replicate, List.map_replicate, text]
  rfl

/-- One letter, compressed, and said to be so: what is kept is the letter. -/
def codedAnswer : Web.Network := fun _ =>
  .response ⟨200, [("Content-Encoding", "gzip")], Compression.Gzip.stored [0x6e]⟩

/-- What is kept of an answer that succeeds is not always its body. -/
theorem bring_not_always_takes_body :
    ¬ ∀ (store : Store) (network : Web.Network) (url : String) (start : Web.Address) (response : Web.Response)
      (machine : Machine), Web.Opens url start → network start.text = .response response →
      response.isSuccess = true → (∀ count, store.refuses count = none) →
      (perform (downloadTo store network url) machine).1 = .ok response.body := by
  intro always
  have whole := always ⟨fun _ => none⟩ codedAnswer address start _ Machine.atProject opens_address rfl
    (by decide) (fun _ => rfl)
  have decoded : (Web.fetch codedAnswer address).result = .ok [0x6e] := by with_unfolding_all rfl
  rw [perform_downloadTo, downloaded, decoded] at whole
  have length := congrArg (fun result : Except Failure Text.Bytes => result.toOption.map List.length) whole
  revert length
  decide +kernel

end Bookbinder.Delivery
