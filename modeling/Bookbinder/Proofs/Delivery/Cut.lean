import Bookbinder.Proofs.Archive.Agreement
import Bookbinder.Proofs.Delivery.Reports

/-!
Downloads that are cut. Main statement: if all that is copied of the members of an archive has its room in
it, then a beginning of it in its place changes no file, or does what the whole archive does.
-/

set_option autoImplicit false

namespace Bookbinder

open Compression

/-- All that is copied of the members of an archive has its room. -/
def Archive.HasRoom (archive : Archive) : Prop :=
  ∀ member ∈ archive.members, member.header.kind.isCopied → archive.HasRoomFor member

namespace Archive

variable {cut whole : Text.Bytes}

theorem ofBytes_nil : ofBytes [] = .error .emptyFile := by with_unfolding_all rfl

theorem ofBytes_first_magic : ofBytes [0x1f] = .error .notGzip := by with_unfolding_all rfl

/-- Too little to tell what it is cannot be read. -/
theorem two_le_length_of_ofBytes {archive : Archive} (single : Gzip.IsSingle whole) (starts : cut <+: whole)
    (read : ofBytes cut = .ok archive) : 2 ≤ cut.length := by
  obtain ⟨tail, rfl⟩ := starts
  cases cut with
  | nil =>
    rw [ofBytes_nil] at read
    cases read
  | cons byte rest =>
    cases rest with
    | nil =>
      have first : byte = 0x1f := (List.cons.inj single.starts).1
      rw [first, ofBytes_first_magic] at read
      cases read
    | cons next rest => exact Nat.le_add_left 2 rest.length

theorem agrees_of_prefix {archive : Archive} (single : Gzip.IsSingle whole) (starts : cut <+: whole)
    (short : cut ≠ whole) (room : ∀ archive, ofBytes whole = .ok archive → archive.HasRoom)
    (read : ofBytes cut = .ok archive) : ∃ entire, ofBytes whole = .ok entire ∧ Agrees archive entire := by
  have isCut := Gzip.read_cut single starts short (two_le_length_of_ofBytes single starts read)
  unfold ofBytes at read room ⊢
  dsimp only at read room ⊢
  cases listed : list (Gzip.read cut) with
  | error fault =>
    rw [listed] at read
    cases read
  | ok pair =>
    rw [listed] at read
    cases read
    obtain ⟨same, within⟩ := list_cut isCut listed
    rw [same] at room ⊢
    refine ⟨_, rfl, agrees_of_cut isCut fun member among copied => within member among ?_⟩
    exact room _ rfl member among copied

end Archive

namespace Delivery

variable {cut whole : Text.Bytes} {supply : Supply} {url : String}

theorem perform_download {content : Text.Bytes} (served : (Web.fetch supply.network url).result = .ok content)
    (machine : Machine) :
    (Action.perform (download supply url) machine).1 =
        (if supply.isFull && !content.isEmpty then .error (.delivery (.notStored url .noSpace))
          else .ok content) ∧
      machine.SameFiles (Action.perform (download supply url) machine).2 := by
  rw [download, perform_downloadTo, downloaded, served]
  refine ⟨?_, rfl, rfl⟩
  simp only [Supply.write_store]
  cases supply.isFull && !content.isEmpty <;> rfl

theorem perform_deliver_of_error {content : Text.Bytes} {fault : Archive.Fault}
    (read : Archive.ofBytes content = .error fault) (url : String) (directory : Path) (machine : Machine) :
    Action.perform (deliver url directory content) machine =
      (.error (told url (.archive fault)), machine) := by
  have unpacked : Action.perform (unpack content directory) machine = (.error (.archive fault), machine) := by
    rw [unpack, read]
    rfl
  rw [deliver, Action.perform_bind, Action.perform_attempt, unpacked]
  rfl

theorem perform_fetch_of_served {content : Text.Bytes}
    (served : (Web.fetch supply.network url).result = .ok content) (directory : Path) (machine : Machine) :
    ∃ after, machine.SameFiles after ∧
      Action.perform (fetch supply url directory) machine =
        if supply.isFull && !content.isEmpty then (.error (.delivery (.notStored url .noSpace)), after)
        else Action.perform (deliver url directory content) after := by
  obtain ⟨ended, same⟩ := perform_download served (announced url directory machine)
  rw [perform_fetch, Action.perform_bind]
  generalize Action.perform (download supply url) (announced url directory machine) = outcome at ended same ⊢
  obtain ⟨result, after⟩ := outcome
  refine ⟨after, ⟨same.files, same.cwd⟩, ?_⟩
  split at ended
  · next full =>
    cases ended
    rw [if_pos full]
  · next room =>
    cases ended
    rw [if_neg room]

/-- An archive that is served and can be read is extracted. -/
theorem perform_fetch_of_archive {content : Text.Bytes} {archive : Archive}
    (served : (Web.fetch supply.network url).result = .ok content) (room : supply.isFull = false)
    (read : Archive.ofBytes content = .ok archive) (directory : Path) (machine : Machine) :
    (Action.perform (fetch supply url directory) machine).1 =
        (Action.perform (archive.extract directory.text) machine).1.mapError (told url) ∧
      (Action.perform (fetch supply url directory) machine).2.files =
        (Action.perform (archive.extract directory.text) machine).2.files := by
  obtain ⟨after, same, ended⟩ := perform_fetch_of_served served directory machine
  -- what was noted during the download makes no difference to extracting
  obtain ⟨results, left⟩ := (Archive.alike_extract (.refl archive) directory.text).ends machine after same
  rw [ended, room, Bool.false_and, if_neg Bool.false_ne_true, results, left.files, deliver,
    Action.perform_bind, Action.perform_attempt, unpack, read, Action.perform_bind]
  simp only [Archive.liftFault, Action.perform_pure, Action.perform_bind]
  generalize Action.perform (archive.extract directory.text) after = outcome
  obtain ⟨result, final⟩ := outcome
  cases result <;> exact ⟨rfl, rfl⟩

/-- With another network, bringing an archive into a directory fails and changes no file, or it ends as with
the first one and leaves the same files. -/
def WholeOrNothing (supply : Supply) (network : Web.Network) (url : String) (directory : Path)
    (machine : Machine) : Prop :=
  let entire := Action.perform (fetch supply url directory) machine
  let other := Action.perform (fetch { supply with network := network } url directory) machine
  ((∃ failure, other.1 = .error failure) ∧ other.2.files = machine.files) ∨
    other.1 = entire.1 ∧ other.2.files = entire.2.files

/-- A download that is cut leaves the files as they are, or as the whole one would leave them. -/
theorem fetch_cut (supply : Supply) (network : Web.Network) (url : String) (directory : Path)
    (machine : Machine) (single : Gzip.IsSingle whole) (starts : cut <+: whole) (short : cut ≠ whole)
    (served : (Web.fetch supply.network url).result = .ok whole)
    (servedCut : (Web.fetch network url).result = .ok cut)
    (room : ∀ archive, Archive.ofBytes whole = .ok archive → archive.HasRoom) :
    WholeOrNothing supply network url directory machine := by
  unfold WholeOrNothing
  have served' : (Web.fetch { supply with network := network }.network url).result = .ok cut := servedCut
  obtain ⟨after, same, ended⟩ := perform_fetch_of_served served' directory machine
  cases read : Archive.ofBytes cut with
  | error fault =>
    left
    rw [ended, perform_deliver_of_error read]
    split <;> exact ⟨⟨_, rfl⟩, same.files.symm⟩
  | ok archive =>
    have some := Archive.two_le_length_of_ofBytes single starts read
    have cutSome : cut.isEmpty = false := by
      cases cut with
      | nil => cases some
      | cons _ _ => rfl
    by_cases full : supply.isFull = true
    · left
      rw [ended]
      simp only [full, cutSome, Bool.not_false, Bool.and_self, if_true]
      exact ⟨⟨_, rfl⟩, same.files.symm⟩
    · right
      have kept : supply.isFull = false := Bool.eq_false_iff.2 full
      obtain ⟨entire, readEntire, agrees⟩ := Archive.agrees_of_prefix single starts short room read
      obtain ⟨result, files⟩ := perform_fetch_of_archive served' kept read directory machine
      obtain ⟨resultEntire, filesEntire⟩ := perform_fetch_of_archive served kept readEntire directory machine
      obtain ⟨results, left⟩ :=
        (Archive.alike_extract agrees directory.text).ends machine machine (.refl machine)
      rw [result, resultEntire, files, filesEntire, results, left.files]
      exact ⟨rfl, rfl⟩

theorem hasRoom_twoNames : (Archive.ofBlocks twoNames).HasRoom := by
  let first := Archive.lone '0' "a" ""
  have lone : Archive.IsLone first.1 first.2 := isLone_twoNames first List.mem_cons_self
  have block : Archive.blockAt (Archive.ofBlocks twoNames).stream 0 = first.1 := by
    rw [Archive.blockAt, Nat.zero_add, Array.toList_extract, List.extract_eq_take_drop, Nat.sub_zero,
      List.drop_zero, ← lone.length]
    exact List.take_left
  have own : Archive.Header.read (Archive.blockAt (Archive.ofBlocks twoNames).stream 0) = .ok first.2 :=
    (congrArg _ block).trans lone.read
  intro member among copied
  rcases List.mem_cons.1 among with rfl | among
  · exact .inl ⟨rfl, rfl, Int.le_refl 0, .inl rfl, _, own, rfl⟩
  · rcases List.mem_singleton.1 among with rfl
    cases copied

/-- What is there of the archive without its second member. -/
def firstName : Text.Bytes :=
  Gzip.storedCut (twoNames.flatMap Prod.fst).length (Archive.lone '0' "a" "").1

theorem fetch_cut_of_two_names :
    WholeOrNothing (.serving (packed twoNames)) (Supply.serving firstName).network address place
      Machine.atProject := by
  have short : (twoNames.flatMap Prod.fst).length ≤ mostStored :=
    (Archive.length_flatMap_of_isLone isLone_twoNames).symm ▸ by decide
  have second : [Archive.lone '1' "h" "a"].flatMap Prod.fst ≠ [] := by
    have length := Archive.length_flatMap_of_isLone (List.forall_mem_cons.1 isLone_twoNames).2
    exact List.ne_nil_of_length_pos (length ▸ by decide)
  refine fetch_cut _ _ address place _ (Gzip.isSingle_stored short) (Gzip.storedCut_prefix _ _)
    (Gzip.storedCut_ne short second) (result_serving _) (result_serving _) fun archive read => ?_
  cases ofBytes_twoNames.symm.trans read
  exact hasRoom_twoNames

/-! ### A file with holes that reaches too far -/

/-- The header of a file with holes. Its size leads back to the beginning of the archive, and its only byte
comes right after it. -/
def holedBlock : Text.Bytes :=
  let size := List.replicate 10 0xff ++ [0xfe, 0]
  let front := Archive.padded 100 "a" ++ Archive.padded 24 "700" ++ size ++ Archive.padded 12 ""
  let back := Archive.padded 242 "S" ++ Archive.padded 85 "1" ++ Archive.padded 29 "1"
  let sum := ((front ++ List.replicate 8 0x20 ++ back).map UInt8.toNat).sum
  front ++ Archive.padded 8 (Text.digits 8 sum) ++ back

def holedOutline : Archive.Outline := ⟨[⟨0, 1⟩, ⟨0, 0⟩, ⟨0, 0⟩, ⟨0, 0⟩], false, 1⟩

def holedHeader : Archive.Header := ⟨.holed holedOutline, "a", "", -512, 0o700, ⟨0, 0⟩, .whole 0, none⟩

theorem check_holedBlock : holedBlock.length = Archive.blockSize ∧
    (Archive.Header.read holedBlock).toOption = some holedHeader := by
  decide +kernel

theorem length_holedBlock : holedBlock.length = Archive.blockSize := check_holedBlock.1

theorem read_holedBlock : Archive.Header.read holedBlock = .ok holedHeader := eq_ok_of_toOption check_holedBlock.2

/-- A stored archive with that header, which ends so. -/
def holedArchive (content : Text.Bytes) (ending : Gzip.Ending) : Archive where
  stream := ⟨content.toArray, [⟨0, content.length, #[⟨content.length, content.length + 5, true⟩], none⟩],
    ending⟩
  members := [⟨{ holedHeader with kind := .file, size := 1, runs := some holedOutline.runs }, 0,
    Archive.blockSize⟩]
  cursor := ⟨Archive.blockSize, .empty⟩

def holedFile : Text.Bytes := Gzip.stored (holedBlock ++ [0x78])

/-- The same without that byte, and without what comes after it. -/
def holedCut : Text.Bytes := Gzip.storedCut (holedBlock ++ [0x78]).length holedBlock

theorem holed_short : (holedBlock ++ [0x78]).length ≤ mostStored := by
  rw [List.length_append, length_holedBlock]
  decide

theorem isSingle_holedFile : Gzip.IsSingle holedFile := Gzip.isSingle_stored holed_short

theorem holedCut_prefix : holedCut <+: holedFile := Gzip.storedCut_prefix holedBlock [0x78]

theorem read_holedFile : Gzip.read holedFile = (holedArchive (holedBlock ++ [0x78]) .finished).stream :=
  Gzip.read_stored holed_short

theorem read_holedCut : Gzip.read holedCut = (holedArchive holedBlock .cut).stream := by
  have fewer : holedBlock.length < (holedBlock ++ [0x78]).length := by
    rw [List.length_append, List.length_singleton]
    exact Nat.lt_add_one _
  exact Gzip.read_storedCut holed_short fewer

theorem holedCut_ne : holedCut ≠ holedFile := Gzip.storedCut_ne holed_short (List.cons_ne_nil _ _)

theorem ofBytes_of_holed {file content : Text.Bytes} {ending : Gzip.Ending}
    (stream : Gzip.read file = (holedArchive content ending).stream) (some : content ≠ [])
    (read : (holedArchive content ending).stream.read .start Archive.blockSize =
      .ok (holedBlock, ⟨Archive.blockSize, .empty⟩)) :
    Archive.ofBytes file = .ok (holedArchive content ending) := by
  have filled : (holedArchive content ending).stream.bytes.size ≠ 0 := fun none =>
    some (List.eq_nil_of_length_eq_zero none)
  unfold Archive.ofBytes
  dsimp only
  rw [stream, Archive.list_of_holed filled read read_holedBlock rfl rfl (by decide)]
  rfl

theorem holedBlock_ne_nil : holedBlock ≠ [] := by
  intro none
  have length := length_holedBlock
  rw [none] at length
  cases length

theorem ofBytes_holed : Archive.ofBytes holedCut = .ok (holedArchive holedBlock .cut) ∧
    Archive.ofBytes holedFile = .ok (holedArchive (holedBlock ++ [0x78]) .finished) := by
  have isCut := Gzip.read_cut isSingle_holedFile holedCut_prefix holedCut_ne (Nat.le_add_left 2 _)
  rw [read_holedCut, read_holedFile] at isCut
  have size : (holedArchive holedBlock .cut).stream.bytes.size = Archive.blockSize := length_holedBlock
  have within : Gzip.Cursor.start.position + Archive.blockSize ≤
      (holedArchive holedBlock .cut).stream.bytes.size := by
    rw [size]
    exact Nat.le_of_eq (Nat.zero_add _)
  have block : ((holedArchive holedBlock .cut).stream.bytes.extract 0 (0 + Archive.blockSize)).toList =
      holedBlock := by
    rw [Nat.zero_add, ← size, Array.extract_size]
    rfl
  obtain ⟨read, same⟩ := isCut.read_of_le .start within
  have here : (holedArchive holedBlock .cut).stream.read .start Archive.blockSize =
      .ok (holedBlock, ⟨Archive.blockSize, .empty⟩) := by
    rw [read]
    exact congrArg (fun bytes => Except.ok (bytes, Gzip.Cursor.mk Archive.blockSize .empty)) block
  exact ⟨ofBytes_of_holed read_holedCut holedBlock_ne_nil here,
    ofBytes_of_holed read_holedFile (List.append_ne_nil_of_right_ne_nil _ (List.cons_ne_nil _ _))
      (same.trans here)⟩

/-- The whole archive can be extracted; of what is left of it, a file without its byte is extracted. -/
theorem extract_holed :
    (Action.perform ((holedArchive (holedBlock ++ [0x78]) .finished).extract place.text)
        Machine.atProject).1.isOk = true ∧
      (Action.perform ((holedArchive holedBlock .cut).extract place.text) Machine.atProject).1.isOk = false ∧
      (Action.perform ((holedArchive holedBlock .cut).extract place.text) Machine.atProject).2.files.entryAt?
        ["tmp", "a"] ≠ Machine.atProject.files.entryAt? ["tmp", "a"] := by
  decide +kernel

/-- A file with holes may take bytes that nobody has passed when the members have been listed. -/
theorem fetch_cut_may_leave_part :
    ¬ ∀ (supply : Supply) (network : Web.Network) (url : String) (directory : Path) (machine : Machine)
      (whole cut : Text.Bytes), Gzip.IsSingle whole → (∃ archive, Archive.ofBytes whole = .ok archive) →
      cut <+: whole → cut ≠ whole → (Web.fetch supply.network url).result = .ok whole →
      (Web.fetch network url).result = .ok cut →
      (Action.perform (fetch supply url directory) machine).1 = .ok () →
      WholeOrNothing supply network url directory machine := by
  intro always
  obtain ⟨ended, failed, left⟩ := extract_holed
  obtain ⟨readCut, read⟩ := ofBytes_holed
  have entire := perform_fetch_of_archive (result_serving holedFile) rfl read place Machine.atProject
  have part := perform_fetch_of_archive (result_serving holedCut) rfl readCut place Machine.atProject
  have result : (Action.perform (fetch (.serving holedFile) address place) Machine.atProject).1 = .ok () := by
    rw [entire.1]
    generalize (Action.perform _ Machine.atProject).1 = extracted at ended
    cases extracted with
    | ok _ => rfl
    | error failure => cases ended
  have spares := always (.serving holedFile) (Supply.serving holedCut).network address place
    Machine.atProject holedFile holedCut isSingle_holedFile ⟨_, read⟩ holedCut_prefix holedCut_ne
    (result_serving _) (result_serving _) result
  have swapped : { Supply.serving holedFile with network := (Supply.serving holedCut).network } =
      Supply.serving holedCut := rfl
  simp only [WholeOrNothing, swapped] at spares
  rcases spares with ⟨_, unchanged⟩ | ⟨same, _⟩
  · exact left (congrArg (FileSystem.entryAt? · ["tmp", "a"]) (part.2.symm.trans unchanged))
  · rw [part.1, result] at same
    generalize (Action.perform _ Machine.atProject).1 = extracted at failed same
    cases extracted with
    | ok _ => cases failed
    | error failure => cases same

end Delivery

end Bookbinder
