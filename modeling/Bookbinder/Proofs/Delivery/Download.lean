import Bookbinder.Delivery.Fetch
import Bookbinder.Proofs.Machine.Operations

/-!
Downloading into a store. Main statements: the pieces that are written make up the content again, whatever
its length, and a download changes nothing but what was asked for and what is told.
-/

set_option autoImplicit false

namespace Bookbinder.Delivery

theorem flatten_cutPieces {size : Nat} (some : 0 < size) {most : Nat} {content : Text.Bytes}
    (enough : content.length ≤ most) : (cutPieces size most content).flatten = content := by
  induction most generalizing content with
  | zero =>
    rw [List.eq_nil_of_length_eq_zero (Nat.le_zero.1 enough)]
    rfl
  | succ most ih =>
    cases content with
    | nil => rfl
    | cons byte rest =>
      have fewer : ((byte :: rest).drop size).length ≤ most := by
        rw [List.length_drop]
        omega
      rw [cutPieces, if_neg (by simp), List.flatten_cons, ih fewer, List.take_append_drop]

theorem flatten_pieces {size : Nat} (some : 0 < size) (content : Text.Bytes) :
    (pieces size content).flatten = content :=
  flatten_cutPieces some (Nat.le_refl content.length)

/-- All writes of some content are accepted. -/
def Store.Accepts (store : Store) (content : Text.Bytes) : Prop :=
  ∀ count < (pieces pieceSize content).length, store.refuses count = none

/-- One of the writes of some content is refused. -/
def Store.Refuses (store : Store) (content : Text.Bytes) (errno : Errno) : Prop :=
  ∃ count < (pieces pieceSize content).length,
    store.refuses count = some errno ∧ ∀ earlier < count, store.refuses earlier = none

theorem Store.write_cases (store : Store) (count : Nat) (parts : List Text.Bytes) :
    (store.write count parts = .ok parts.flatten ∧ ∀ place < parts.length, store.refuses (count + place) = none) ∨
    ∃ errno, store.write count parts = .error errno ∧ ∃ place < parts.length,
      store.refuses (count + place) = some errno ∧
        ∀ earlier < place, store.refuses (count + earlier) = none := by
  -- the first piece that is refused ends it, and is that of the rest if this one is kept
  induction parts generalizing count with
  | nil => exact .inl ⟨rfl, fun place before => absurd before (Nat.not_lt_zero place)⟩
  | cons piece rest ih =>
    rw [write]
    cases first : store.refuses count with
    | some errno =>
      exact .inr ⟨errno, rfl, 0, Nat.succ_pos _, first, fun earlier before => absurd before (Nat.not_lt_zero earlier)⟩
    | none =>
      have shift (place : Nat) : count + (place + 1) = count + 1 + place := by omega
      have later {bound : Nat} (accepts : ∀ place < bound, store.refuses (count + 1 + place) = none) :
          ∀ place < bound + 1, store.refuses (count + place) = none := by
        intro place before
        cases place with
        | zero => exact first
        | succ place =>
          rw [shift]
          exact accepts place (Nat.lt_of_succ_lt_succ before)
      rcases ih (count + 1) with ⟨kept, accepts⟩ | ⟨errno, refused, place, before, stops, accepts⟩
      · exact .inl ⟨by rw [kept]; rfl, later accepts⟩
      · refine .inr ⟨errno, by rw [refused]; rfl, place + 1, Nat.succ_lt_succ before, ?_, later accepts⟩
        rwa [shift]

/-- What is kept is the content, whatever its length, unless a write is refused. -/
theorem Store.write_pieces (store : Store) (content : Text.Bytes) :
    (store.Accepts content ∧ store.write 0 (pieces pieceSize content) = .ok content) ∨
      ∃ errno, store.Refuses content errno ∧ store.write 0 (pieces pieceSize content) = .error errno := by
  have whole : (pieces pieceSize content).flatten = content := flatten_pieces (by decide) content
  have written := store.write_cases 0 (pieces pieceSize content)
  rw [whole] at written
  simp only [Nat.zero_add] at written
  rcases written with ⟨kept, accepts⟩ | ⟨errno, refused, refuses⟩
  · exact .inl ⟨accepts, kept⟩
  · exact .inr ⟨errno, refuses, refused⟩

/-- Without room nothing can be kept, and with room everything. -/
theorem Supply.write_store (supply : Supply) (content : Text.Bytes) :
    supply.store.write 0 (pieces pieceSize content) =
      if supply.isFull && !content.isEmpty then .error .noSpace else .ok content := by
  cases full : supply.isFull with
  | false =>
    rcases supply.store.write_pieces content with ⟨_, kept⟩ | ⟨errno, ⟨_, _, refused, _⟩, _⟩
    · exact kept
    · simp [store, full] at refused
  | true =>
    have whole : (pieces pieceSize content).flatten = content := flatten_pieces (by decide) content
    cases parts : pieces pieceSize content with
    | nil =>
      rw [parts] at whole
      rw [← whole]
      rfl
    | cons piece rest =>
      have some : content ≠ [] := by
        rintro rfl
        cases parts
      simp [Store.write, store, full, some]

/-! ### What a download comes to -/

theorem perform_notes (requests : List String) (machine : Machine) :
    Action.perform (requests.forM fun request => Action.note (.request request)) machine =
      (.ok (), { machine with events := machine.events ++ requests.map .request }) := by
  induction requests generalizing machine with
  | nil => simp only [List.map_nil, List.append_nil]; rfl
  | cons request rest ih =>
    refine (ih { machine with events := machine.events ++ [.request request] }).trans ?_
    simp only [List.append_assoc, List.map_cons, List.singleton_append]

/-- What is downloaded, or why nothing is. -/
def downloaded (store : Store) (network : Web.Network) (url : String) : Except Failure Text.Bytes :=
  match (Web.fetch network url).result with
  | .error (.problem problem) => .error (.delivery (.notDownloaded url problem))
  | .error (.fault fault) => .error (.web fault)
  | .ok content =>
    match store.write 0 (pieces pieceSize content) with
    | .error errno => .error (.delivery (.notStored url errno))
    | .ok kept => .ok kept

def downloadLines (url : String) (result : Except Failure Text.Bytes) : List Emission :=
  match result with
  | .error _ => []
  | .ok kept =>
    [.trace origin ("Downloaded " ++ Text.digits 10 kept.length ++ " bytes from " ++ url)]

theorem perform_downloadTo (store : Store) (network : Web.Network) (url : String) (machine : Machine) :
    Action.perform (downloadTo store network url) machine =
      (downloaded store network url, { machine with
        events := machine.events ++ (Web.fetch network url).requests.map .request
        emissions := machine.emissions ++ downloadLines url (downloaded store network url) }) := by
  unfold downloadTo downloaded
  rw [Action.perform_bind, perform_notes]
  cases (Web.fetch network url).result with
  | error trouble => cases trouble <;> simp [downloadLines, Action.perform_throw]
  | ok content =>
    simp only
    cases store.write 0 (pieces pieceSize content) with
    | error errno => simp [downloadLines, Action.perform_throw]
    | ok kept => rfl

end Bookbinder.Delivery
