import Bookbinder.Proofs.Archive.Unpacking
import Bookbinder.Proofs.Delivery.Requests

/-!
Archives of regular files as they are brought into a directory. Main statement: however such an archive is
written and compressed, each file is there with all that it holds and with its permission bits limited, nothing
else changes but for the directories on the way, and to bring it once more changes nothing.
-/

set_option autoImplicit false

namespace Bookbinder.Delivery

open Action (perform)
open Archive (Packed IsReel)
open Compression (Gzip.Wraps)
open FileSystem (IsSite IsSound Brings under)

variable {store : Store} {network : Web.Network} {url : String} {directory : Path} {machine : Machine}
  {files : List Packed} {tape content : Text.Bytes} {start : Web.Address} {base : String} {home : Spot}
  {lead : List String}

/-- Permission bits as they are left: nobody but the owner may write, nobody may execute what the owner may not,
and the owner may read and write. -/
def limited (mode : Nat) : Nat := (if mode.testBit 6 then mode &&& 0o755 else mode &&& 0o644) ||| 0o600

theorem fileMode_permissionBits (mode : Nat) : Archive.fileMode (Archive.permissionBits mode) = limited mode := by
  have bits : Archive.permissionBits mode = mode % 2 ^ 12 := by
    rw [Archive.permissionBits]
    omega
  have kept (mask : Nat) (small : mask < 2 ^ 12) : mode % 2 ^ 12 &&& mask = mode &&& mask := by
    have whole := @Nat.and_mod_two_pow mode mask 12
    rw [Nat.mod_eq_of_lt small, Nat.mod_eq_of_lt (Nat.lt_of_le_of_lt Nat.and_le_right small)] at whole
    exact whole.symm
  have owner : (mode &&& 0o755).testBit 6 = mode.testBit 6 := by
    rw [Nat.testBit_and, show (0o755 : Nat).testBit 6 = true by decide, Bool.and_true]
  have fewer : mode &&& 0o755 &&& 0o644 = mode &&& 0o644 := by
    rw [Nat.and_assoc]
    rfl
  rw [bits, Archive.fileMode, Archive.permissionMask, kept 0o755 (by decide)]
  simp only [owner, fewer]
  rfl

/-- Files are at a spot as an archive has them, in directories. Whatever else there was is as before. -/
structure Delivers (files : List Packed) (spot : Spot) (before after : FileSystem) : Prop where
  held : ∀ file ∈ files, after.viewAt? (spot ++ file.names) = some (.file ⟨file.bytes, limited file.mode⟩)
  above : ∀ file ∈ files, ∀ place, place <+: spot ++ file.names → place ≠ spot ++ file.names →
    after.isDirectory place = true
  others : ∀ place, (before.isDirectory place = true ∨ ∀ file ∈ files, ¬ place <+: spot ++ file.names) →
    after.entryAt? place = before.entryAt? place ∧ after.viewAt? place = before.viewAt? place

theorem delivers_of_brings {spot : Spot} {before after : FileSystem}
    (brings : Brings (files.map fun file => (spot ++ file.names, file.content)) before after) :
    Delivers files spot before after where
  held file member := by
    have stands := brings.held _ (List.mem_map_of_mem member)
    rwa [Packed.content, fileMode_permissionBits] at stands
  above file member := brings.above _ (List.mem_map_of_mem member)
  others place apart := by
    refine brings.frame (apart.imp_right fun aside pair among => ?_)
    obtain ⟨file, member, rfl⟩ := List.mem_map.1 among
    exact aside file member

/-- An answer with the status of success points nowhere else. -/
theorem downloaded_of_receives (opens : Web.Opens url start) {response : Web.Response}
    (received : Web.Receives network start response content) (success : response.status = 200)
    (accepts : store.Accepts content) : downloaded store network url = .ok content := by
  have final : response.location? = none := by
    rw [Web.Response.location?, success]
    rfl
  have succeeds : response.isSuccess = true := by
    rw [Web.Response.isSuccess, success]
    rfl
  have asked := Web.fetch_of_begins opens.begins network
  rw [Web.follow_of_ends (.content received opens.saysKind final succeeds)] at asked
  have kept : store.write 0 (pieces pieceSize content) = .ok content := by
    rcases store.write_pieces content with ⟨_, kept⟩ | ⟨errno, ⟨count, before, refused, _⟩, _⟩
    · exact kept
    · rw [accepts count before] at refused
      cases refused
  rw [downloaded, asked]
  simp only [kept]

/-- Files that can be brought into a directory: it is there or can be made, their names can stand in it, and nothing
stands in their way. -/
structure IsLoad (files : List Packed) (directory : Path) (base : String) (home : Spot) (lead : List String)
    (machine : Machine) : Prop where
  path : directory.text = under base lead
  site : machine.files.IsSite machine.cwd base home lead
  sound : machine.files.IsSound
  suits : ∀ file ∈ files, file.Suits base lead
  fits : machine.files.Fits (files.map fun file => home ++ lead ++ file.names)

theorem perform_unpack_files (reel : IsReel files tape) (wraps : Gzip.Wraps tape content)
    (load : IsLoad files directory base home lead machine) :
    ∃ names after, perform (unpack content directory) machine = (.ok names, { machine with files := after }) ∧
      Brings (files.map fun file => (home ++ lead ++ file.names, file.content)) machine.files after := by
  obtain ⟨archive, read, finished, keeps⟩ := Archive.ofBytes_of_wraps reel wraps
  obtain ⟨after, extracted, brings⟩ :=
    Archive.perform_extract_files keeps load.site load.sound load.suits finished load.fits
  refine ⟨archive.names, after, ?_, brings⟩
  rw [← load.path] at extracted
  rw [unpack, read]
  exact (Action.perform_bind_of_ok rfl).trans ((Action.perform_bind_of_ok extracted).trans rfl)

theorem bring_files (opens : Web.Opens url start) {response : Web.Response}
    (received : Web.Receives network start response content) (success : response.status = 200)
    (accepts : store.Accepts content) (reel : IsReel files tape) (wraps : Gzip.Wraps tape content)
    (load : IsLoad files directory base home lead machine) :
    (perform (bring store network url directory) machine).1 = .ok () ∧
      (perform (bring store network url directory) machine).2.cwd = machine.cwd ∧
      Brings (files.map fun file => (home ++ lead ++ file.names, file.content)) machine.files
        (perform (bring store network url directory) machine).2.files := by
  obtain ⟨_, cwd, comes⟩ := bring_cases store network url directory machine
  rw [downloaded_of_receives opens received success accepts] at comes
  obtain ⟨names, after, unpacked, brings⟩ := perform_unpack_files reel wraps load
  obtain ⟨result, left⟩ := comes
  rw [delivered, unpacked] at result
  rw [unpacked] at left
  exact ⟨result, cwd, left ▸ brings⟩

/-- Files that were brought can be brought again. -/
theorem IsLoad.again {after : Machine} (load : IsLoad files directory base home lead machine) (cwd : after.cwd = machine.cwd)
    (brings : Brings (files.map fun file => (home ++ lead ++ file.names, file.content)) machine.files after.files) :
    IsLoad files directory base home lead after where
  path := load.path
  site := cwd ▸ load.site.grows brings.grows
  sound := brings.sound
  suits := load.suits
  fits := by
    have spots : (files.map fun file => (home ++ lead ++ file.names, file.content)).map Prod.fst =
        files.map fun file => home ++ lead ++ file.names := by
      rw [List.map_map]
      rfl
    have again := brings.fits_again
    rw [spots] at again
    exact again load.fits

/-- A list of files, in any archive of them, served with the status of success: each file is delivered with all that
it holds and with its permission bits limited, nothing else changes but for directories that were missing, and to
bring the files once more succeeds and changes nothing. -/
theorem bring_delivers_files (opens : Web.Opens url start) {response : Web.Response}
    (received : Web.Receives network start response content) (success : response.status = 200)
    (accepts : store.Accepts content) (reel : IsReel files tape) (wraps : Gzip.Wraps tape content)
    (load : IsLoad files directory base home lead machine) :
    ∃ after, perform (bring store network url directory) machine = (.ok (), after) ∧
      Delivers files (home ++ lead) machine.files after.files ∧
      ∃ again, perform (bring store network url directory) after = (.ok (), again) ∧
        ∀ spot, again.files.entryAt? spot = after.files.entryAt? spot ∧
          again.files.viewAt? spot = after.files.viewAt? spot := by
  -- what was brought once stands where it is to be brought again
  obtain ⟨done, cwd, brings⟩ := bring_files opens received success accepts reel wraps load
  obtain ⟨repeated, _, again⟩ := bring_files opens received success accepts reel wraps (load.again cwd brings)
  exact ⟨_, Prod.ext done rfl, delivers_of_brings brings, _, Prod.ext repeated rfl, brings.again again⟩

/-! ### One file, and one that has a second name -/

theorem isBase_text (path : Path) : FileSystem.IsBase path.text where
  some := Path.text_ne_empty path
  root ends := by
    obtain ⟨none, anchored⟩ := Path.names_eq_nil_of_endsInSlash ends
    obtain ⟨anchor, names, valid⟩ := path
    cases none
    cases anchor with
    | here => exact absurd rfl anchored
    | root => exact .inl rfl
    | doubleRoot => exact .inr rfl

/-- An archive of files with one header each, stored in a compressed file. -/
def storing (files : List Packed) : Text.Bytes := Compression.Gzip.stored (Archive.tape files)

def mdbook : Packed := ⟨["mdbook"], 0o755, Text.encodeUtf8 "#!/bin/sh\necho mdbook\n".toList⟩

theorem isSite_place {machine : Machine} (tree : machine.files.IsTree) (short : machine.files.LinksAreShort)
    (located : machine.files.locate machine.cwd true place.text = .ok (.occupied ["tmp"]))
    (standing : machine.files.isDirectory ["tmp"] = true) :
    machine.files.IsSite machine.cwd place.text ["tmp"] [] := by
  refine FileSystem.isSite_of_anchored (isBase_text place) (by decide) short located standing nofun ?_ (by decide)
  rw [List.append_nil]
  exact tree.isClear standing

/-- A name in a directory where nothing stands. -/
theorem admits_single {files : FileSystem} {spot : Spot} {name : String} (tree : files.IsTree)
    (standing : files.isDirectory spot = true)
    (free : files.entryAt? (spot ++ [name]) = none ∨ ∃ number, files.entryAt? (spot ++ [name]) = some (.file number)) :
    files.Admits [spot ++ [name]] where
  above other member place within proper := by
    cases List.mem_singleton.1 member
    rcases List.prefix_concat_iff.1 within with same | higher
    · exact absurd same proper
    · exact .inr (tree.isDirectory_above (show files.isDirectory ([] ++ spot) = true from standing) higher)
  free other member := by
    cases List.mem_singleton.1 member
    exact free
  apart := List.pairwise_singleton _ _

theorem isLoad_mdbook : IsLoad [mdbook] place place.text ["tmp"] [] Machine.atProject where
  path := rfl
  site := isSite_place (.of_entries (by decide)) (.of_entries (by decide)) (by with_unfolding_all rfl) (by decide)
  sound := .of_entries (.of_entries (by decide)) (by decide)
  suits file member := by
    cases List.mem_singleton.1 member
    exact ⟨by decide, by decide, by decide, by decide⟩
  fits := by
    have absent : Machine.atProject.files.entryAt? (["tmp"] ++ ["mdbook"]) = none := by decide
    refine ⟨admits_single (.of_entries (by decide)) (by decide) (.inl absent), fun spot member other number present => ?_⟩
    cases List.mem_singleton.1 member
    exact absurd (absent.symm.trans present) (by simp)

theorem bring_delivers_mdbook :
    ∃ after, perform (bring ⟨fun _ => none⟩ (Supply.serving (storing [mdbook])).network address place)
        Machine.atProject = (.ok (), after) ∧
      Delivers [mdbook] ["tmp"] Machine.atProject.files after.files ∧
      ∃ again, perform (bring ⟨fun _ => none⟩ (Supply.serving (storing [mdbook])).network address place) after =
          (.ok (), again) ∧
        ∀ spot, again.files.entryAt? spot = after.files.entryAt? spot ∧
          again.files.viewAt? spot = after.files.viewAt? spot := by
  have short : ∀ file ∈ [mdbook], file.IsShort := by
    intro file member
    cases List.mem_singleton.1 member
    exact ⟨by decide +kernel, by decide +kernel, by decide, by decide +kernel⟩
  have length : (Archive.tape [mdbook]).length = 2048 := by decide +kernel
  have received : Web.Receives (Supply.serving (storing [mdbook])).network start ⟨200, [], storing [mdbook]⟩
      (storing [mdbook]) := ⟨rfl, nofun, rfl⟩
  refine bring_delivers_files opens_address received rfl (fun _ _ => rfl) (Archive.isReel_tape short ?_)
    (Compression.Gzip.wraps_stored ?_) isLoad_mdbook
  · rw [length]
    decide
  · rw [length]
    decide

/-! ### A file that has another name -/

/-- A file in a place, with two names there. -/
def twinned : Machine :=
  { Machine.atProject with
    files := (Machine.atProject.files.addFile ["tmp", "a"] ⟨[0x78], 0o644⟩).putEntry ["tmp", "b"] (.file 6) }

/-- A file with nothing in it, to be brought there. -/
def emptied : Packed := ⟨["a"], 0o700, []⟩

/-- Its header, and what it says. -/
def emptiedBlocks : List (Text.Bytes × Archive.Header) :=
  [(emptied.block, ⟨.file, "a", "", 0, 0o700, ⟨0, 0⟩, .whole 0, none⟩)]

theorem isReel_emptied : IsReel [emptied] (emptiedBlocks.flatMap Prod.fst) := by
  have short : emptied.IsShort := ⟨by decide +kernel, by decide +kernel, by decide, by decide⟩
  have follow : Archive.Follow [] [emptied] (emptied.block ++ ([] ++ ([] ++ []))) :=
    .file (short.heads []) (by decide) rfl .nothing
  exact ⟨follow, List.ne_nil_of_length_pos (by decide +kernel), by decide +kernel⟩

/-- The file is overwritten as it is, so that what its other name leads to changes. -/
theorem bring_not_always_delivers_files :
    ¬ ∀ (files : List Packed) (tape content : Text.Bytes) (machine : Machine), IsReel files tape →
      Gzip.Wraps tape content → machine.files.IsSite machine.cwd place.text ["tmp"] [] → machine.files.IsSound →
      (∀ file ∈ files, file.Suits place.text []) → machine.files.Admits (files.map fun file => ["tmp"] ++ file.names) →
      Delivers files ["tmp"] machine.files (perform (fetch (.serving content) address place) machine).2.files := by
  intro always
  -- the archive is known as a whole, so that what is extracted can be looked at
  have lone : ∀ pair ∈ emptiedBlocks, Archive.IsLone pair.1 pair.2 := Archive.isLone_of_reads (by decide +kernel)
  have read := ofBytes_packed lone (by decide) (by decide)
  have left := files_fetch_serving read place twinned
  have tree : twinned.files.IsTree := .of_entries (by decide)
  have delivers := always [emptied] _ (packed emptiedBlocks) twinned isReel_emptied
    (Compression.Gzip.wraps_stored (by decide +kernel))
    (isSite_place tree (.of_entries (by decide)) (by with_unfolding_all rfl) (by decide)) (.of_entries tree (by decide))
    (fun file member => by
      cases List.mem_singleton.1 member
      exact ⟨by decide, by decide, by decide, by decide⟩)
    (admits_single tree (by decide) (.inr ⟨6, by decide⟩))
  have aside : ∀ file ∈ [emptied], ¬ ["tmp", "b"] <+: ["tmp"] ++ file.names := by decide
  have still := (delivers.others ["tmp", "b"] (.inr aside)).2
  rw [left] at still
  revert still
  decide +kernel

end Bookbinder.Delivery
