import Mathlib.Algebra.Ring.Nat
import Bookbinder.Compression.Gzip

/-!
Files of one member whose data are stored as they are. Main statement: reading such a file gives back what
was stored, and the file is finished.
-/

set_option autoImplicit false

namespace Bookbinder.Compression

open Bookbinder.Text (Bytes)

/-- A number in so many bytes, the lowest byte first. -/
def lowestFirst : Nat → Nat → Bytes
  | 0, _ => []
  | count + 1, number => UInt8.ofNat number :: lowestFirst count (number / 256)

@[simp] theorem length_lowestFirst (count number : Nat) : (lowestFirst count number).length = count := by
  induction count generalizing number with
  | zero => rfl
  | succ count ih => rw [lowestFirst, List.length_cons, ih]

theorem foldr_lowestFirst {count number : Nat} (fits : number < 256 ^ count) :
    (lowestFirst count number).foldr (fun byte value => byte.toNat + 256 * value) 0 = number := by
  induction count generalizing number with
  | zero =>
    rw [Nat.pow_zero] at fits
    rw [lowestFirst, List.foldr_nil]
    omega
  | succ count ih =>
    have less : number / 256 < 256 ^ count := by
      rw [Nat.pow_succ] at fits
      exact Nat.div_lt_of_lt_mul (by omega)
    rw [lowestFirst, List.foldr_cons, ih less, UInt8.toNat_ofNat']
    omega

namespace Reader

theorem run_bind_of_ok {α β : Type} {first : Reader α} {next : α → Reader β} {bits later : Bits}
    {value : α} (read : first.run bits = .ok (value, later)) :
    (first >>= next).run bits = (next value).run later := by
  rw [StateT.run_bind, read]
  rfl

theorem run_align (bits : Bits) : align.run bits = .ok ((), { bits with current := [] }) := rfl

theorem run_bytes {count : Nat} {front : Bytes} (length : front.length = count) (current : List Bool)
    (rest : Bytes) (passed : Nat) :
    (bytes count).run ⟨current, front ++ rest, passed⟩ = .ok (front, ⟨[], rest, passed + count⟩) := by
  subst length
  have place : (get : Reader Bits).run ⟨[], front ++ rest, passed⟩ =
      .ok (⟨[], front ++ rest, passed⟩, ⟨[], front ++ rest, passed⟩) := rfl
  have enough : ¬ (front ++ rest).length < front.length := by
    rw [List.length_append]
    omega
  rw [bytes, run_bind_of_ok (run_align _), run_bind_of_ok place]
  have left : (front ++ rest).take front.length = front := List.take_left
  have right : (front ++ rest).drop front.length = rest := List.drop_left
  rw [if_neg enough, left, Bits.skip, right]
  rfl

theorem run_littleEndian {count number : Nat} (fits : number < 256 ^ count) (current : List Bool)
    (rest : Bytes) (passed : Nat) :
    (littleEndian count).run ⟨current, lowestFirst count number ++ rest, passed⟩ =
      .ok (number, ⟨[], rest, passed + count⟩) := by
  rw [littleEndian, run_bind_of_ok (run_bytes (length_lowestFirst count number) current rest passed),
    foldr_lowestFirst fits]
  rfl

end Reader

/-! ### One stored block -/

/-- The greatest length of a stored block. -/
def mostStored : Nat := 0xffff

/-- The only block of some data, and what it holds. -/
def storedBlock (content : Bytes) : Bytes :=
  1 :: (lowestFirst 2 content.length ++ lowestFirst 2 (mostStored - content.length) ++ content)

theorem run_readBlockHeader_stored (rest : Bytes) :
    readBlockHeader.run (.start (1 :: rest)) =
      .ok ((true, 0), ⟨List.replicate 5 false, rest, 1⟩) := rfl

theorem run_readStoredLength {length : Nat} (short : length ≤ mostStored) (current : List Bool)
    (rest : Bytes) (passed : Nat) :
    readStoredLength.run
        ⟨current, lowestFirst 2 length ++ (lowestFirst 2 (mostStored - length) ++ rest), passed⟩ =
      .ok (length, ⟨[], rest, passed + 4⟩) := by
  simp only [mostStored] at short ⊢
  have whole : length + (0xffff - length) = 0xffff := by omega
  rw [readStoredLength, Reader.run_bind_of_ok (Reader.run_align _),
    Reader.run_bind_of_ok (Reader.run_littleEndian (show length < 256 ^ 2 by omega) _ _ _),
    Reader.run_bind_of_ok (Reader.run_littleEndian (show 0xffff - length < 256 ^ 2 by omega) _ _ _)]
  rw [if_neg (not_not_intro whole)]
  rfl

theorem inflate_storedBlock {content : Bytes} (short : content.length ≤ mostStored) (rest : Bytes) :
    inflate (storedBlock content ++ rest) =
      ⟨content.toArray, #[⟨content.length, content.length + 5, true⟩], .ok rest⟩ := by
  have data : storedBlock content ++ rest =
      1 :: (lowestFirst 2 content.length ++
        (lowestFirst 2 (mostStored - content.length) ++ (content ++ rest))) := by
    simp [storedBlock]
  have stored := run_readStoredLength short (List.replicate 5 false) (content ++ rest) 1
  rw [inflate, data, readBlocks, run_readBlockHeader_stored]
  simp only [readBlock, readStored, stored, if_true]
  simp [Written.extend, Bits.skip, Except.map, Nat.add_comm]

/-! ### The file -/

namespace Gzip

/-- The fixed part of a header without further fields, after the magic bytes. -/
def plainHeader : Bytes := lowestFirst 1 deflateMethod ++ (lowestFirst 1 0 ++ List.replicate unreadFields 0)

/-- A file that stores some bytes: a header, one block, and the trailer. -/
def stored (content : Bytes) : Bytes :=
  magic ++ (plainHeader ++ (storedBlock content ++
    (lowestFirst 4 (redundancy content).toNat ++ lowestFirst 4 content.length)))

theorem run_readHeader_plain (rest : Bytes) :
    readHeader.run (.start (plainHeader ++ rest)) = .ok (true, ⟨[], rest, 8⟩) := by
  rw [readHeader, plainHeader, Bits.start, List.append_assoc, List.append_assoc,
    Reader.run_bind_of_ok (Reader.run_littleEndian (by decide) _ _ _),
    Reader.run_bind_of_ok (Reader.run_littleEndian (by decide) _ _ _),
    Reader.run_bind_of_ok (Reader.run_bytes List.length_replicate _ _ _)]
  rfl

theorem run_readTrailer {checksum length : Nat} (fits : checksum < 256 ^ 4) (short : length < 256 ^ 4) :
    readTrailer.run (.start (lowestFirst 4 checksum ++ lowestFirst 4 length)) =
      .ok ((checksum, length), ⟨[], [], 8⟩) := by
  have fields : (lowestFirst 4 checksum ++ lowestFirst 4 length).length = 8 := by simp
  have read := Reader.run_bytes fields [] [] 0
  rw [List.append_nil] at read
  rw [readTrailer, Bits.start, Reader.run_bind_of_ok read]
  have left : (lowestFirst 4 checksum ++ lowestFirst 4 length).take 4 = lowestFirst 4 checksum := by simp
  have right : (lowestFirst 4 checksum ++ lowestFirst 4 length).drop 4 = lowestFirst 4 length := by simp
  simp only [left, right, foldr_lowestFirst fits, foldr_lowestFirst short]
  rfl

theorem afterTrailer_stored {content : Bytes} (short : content.length ≤ mostStored) :
    afterTrailer content.toArray
      (lowestFirst 4 (redundancy content).toNat ++ lowestFirst 4 content.length) = .ok [] := by
  simp only [mostStored] at short
  have checksum : (redundancy content).toNat < 256 ^ 4 := (redundancy content).toNat_lt
  have trailer := run_readTrailer checksum (show content.length < 256 ^ 4 by omega)
  have whole : content.length % lengthLimit = content.length := by
    simp only [lengthLimit]
    omega
  simp [afterTrailer, trailer, checkTrailer, whole, Except.map]

/-- What was stored can be read, and nothing comes after it. -/
theorem read_stored {content : Bytes} (short : content.length ≤ mostStored) :
    read (stored content) =
      ⟨content.toArray,
        [⟨0, content.length, #[⟨content.length, content.length + 5, true⟩], none⟩], .finished⟩ := by
  have onward (fuel : Nat) (stream : Stream) : readMembers fuel stream [] = stream := by
    cases fuel <;> rfl
  rw [read, stored, magic, List.cons_append, List.cons_append, List.nil_append, readMembers.eq_def]
  simp only [List.take_succ_cons, List.take_zero, List.drop_succ_cons, List.drop_zero, magic, ne_eq,
    not_true_eq_false, if_false, run_readHeader_plain, inflate_storedBlock short, afterData,
    afterTrailer_stored short, onward]
  simp [Stream.extend, damageOf]

end Gzip

end Bookbinder.Compression
