import Bookbinder.Proofs.Compression.Stored

/-!
Reading of data that are cut, side by side with reading of the whole data. Main statement: what deflated data
that are cut hold is a beginning of what the whole data hold, and they stop because they are cut.
-/

set_option autoImplicit false

namespace Bookbinder.Compression

open Bookbinder.Text (Bytes)

/-! ### Readers -/

/-- A place in data that are cut, and the same place in the whole, of which some bytes more are left. -/
structure Bits.Behind (missing : Nat) (cut whole : Bits) : Prop where
  current : cut.current = whole.current
  rest : cut.rest <+: whole.rest
  fewer : cut.rest.length ≤ whole.rest.length - missing

theorem Bits.Behind.take_eq {missing count : Nat} {cut whole : Bits} (behind : cut.Behind missing whole)
    (enough : count ≤ cut.rest.length) : whole.rest.take count = cut.rest.take count := by
  obtain ⟨tail, same⟩ := behind.rest
  rw [← same, List.take_append_of_le_length enough]

theorem Bits.Behind.skip {missing count : Nat} {cut whole : Bits} (behind : cut.Behind missing whole)
    (enough : count ≤ cut.rest.length) : (cut.skip count).Behind missing (whole.skip count) := by
  obtain ⟨tail, same⟩ := behind.rest
  have fewer := behind.fewer
  refine ⟨rfl, ⟨tail, ?_⟩, ?_⟩
  · rw [Bits.skip, Bits.skip, ← same, List.drop_append_of_le_length enough]
  · simp only [Bits.skip, List.length_drop]
    omega

/-- What is read in the whole is read in data that are cut as well, unless these end before. -/
def Reader.KeepsPace {α : Type} (missing : Nat) (reader : Reader α) : Prop :=
  ∀ cut whole value after, Bits.Behind missing cut whole → reader.run whole = .ok (value, after) →
    reader.run cut = .error .cut ∨
      ∃ before, reader.run cut = .ok (value, before) ∧ Bits.Behind missing before after

namespace Reader

variable {α β : Type} {missing : Nat}

theorem keepsPace_pure (value : α) : KeepsPace missing (pure value : Reader α) := by
  intro cut whole _ _ behind read
  cases read
  exact .inr ⟨cut, rfl, behind⟩

theorem keepsPace_damaged (damage : Damage) : KeepsPace missing (damaged damage : Reader α) := by
  intro cut whole _ _ _ read
  cases read

theorem KeepsPace.bind {first : Reader α} {next : α → Reader β} (begins : KeepsPace missing first)
    (goesOn : ∀ value, KeepsPace missing (next value)) : KeepsPace missing (first >>= next) := by
  intro cut whole result last behind read
  rw [StateT.run_bind] at read ⊢
  cases here : first.run whole with
  | error stop =>
    rw [here] at read
    cases read
  | ok pair =>
    obtain ⟨value, after⟩ := pair
    rw [here] at read
    rcases begins cut whole value after behind here with ended | ⟨before, same, behind⟩
    · rw [ended]
      exact .inl rfl
    · rw [same]
      exact goesOn value before after result last behind read

theorem keepsPace_bit : KeepsPace missing bit := by
  rintro ⟨current, short, passed⟩ ⟨_, long, more⟩ value after ⟨rfl, ⟨tail, same⟩, fewer⟩ read
  cases current with
  | cons first others =>
    cases read
    exact .inr ⟨_, rfl, rfl, ⟨tail, same⟩, fewer⟩
  | nil =>
    cases short with
    | nil => exact .inl rfl
    | cons byte short =>
      cases same
      have less : short.length ≤ (short ++ tail).length - missing := by
        simp only [List.append_eq, List.length_cons] at fewer
        omega
      -- a byte has eight bits, so the first of them is there
      cases read
      exact .inr ⟨_, rfl, rfl, ⟨tail, rfl⟩, less⟩

theorem keepsPace_number (count : Nat) : KeepsPace missing (number count) := by
  induction count with
  | zero => exact keepsPace_pure 0
  | succ count ih => exact keepsPace_bit.bind fun _ => ih.bind fun _ => keepsPace_pure _

theorem run_bytes_eq (count : Nat) (bits : Bits) :
    (bytes count).run bits =
      if bits.rest.length < count then .error .cut else .ok (bits.rest.take count, bits.skip count) := by
  have place : (get : Reader Bits).run { bits with current := [] } =
      .ok ({ bits with current := [] }, { bits with current := [] }) := rfl
  rw [bytes, run_bind_of_ok (run_align bits), run_bind_of_ok place]
  dsimp only
  by_cases few : bits.rest.length < count
  · rw [if_pos few, if_pos few]
    rfl
  · rw [if_neg few, if_neg few]
    rfl

theorem keepsPace_bytes (count : Nat) : KeepsPace missing (bytes count) := by
  intro cut whole value after behind read
  rw [run_bytes_eq] at read ⊢
  by_cases few : cut.rest.length < count
  · exact .inl (if_pos few)
  · have enough := Nat.le_of_not_lt few
    rw [if_neg few]
    split at read
    · cases read
    · cases read
      exact .inr ⟨_, by rw [behind.take_eq enough], behind.skip enough⟩

theorem keepsPace_littleEndian (count : Nat) : KeepsPace missing (littleEndian count) :=
  (keepsPace_bytes count).bind fun _ => keepsPace_pure _

theorem keepsPace_align : KeepsPace missing align := by
  intro cut whole value after behind read
  cases read
  exact .inr ⟨_, rfl, rfl, behind.rest, behind.fewer⟩

theorem keepsPace_ite {condition : Prop} [Decidable condition] {yes no : Reader α}
    (first : KeepsPace missing yes) (second : KeepsPace missing no) :
    KeepsPace missing (if condition then yes else no) := by
  split
  · exact first
  · exact second

theorem keepsPace_mapM (items : List α) {each : α → Reader β}
    (keeps : ∀ item, KeepsPace missing (each item)) : KeepsPace missing (items.mapM each) := by
  induction items with
  | nil => exact keepsPace_pure _
  | cons item items ih =>
    rw [List.mapM_cons]
    exact (keeps item).bind fun _ => ih.bind fun _ => keepsPace_pure _

/-- Data in which nothing is wrong are read on. -/
theorem keepsPace_unless {condition : Prop} [Decidable condition] (damage : Damage)
    {next : Unit → Reader α} (goesOn : KeepsPace missing (next ())) :
    KeepsPace missing (if condition then damaged damage >>= next else next ()) :=
  keepsPace_ite ((keepsPace_damaged damage).bind fun _ => goesOn) goesOn

end Reader

/-! ### What deflated data are read with -/

section

open Reader

variable {missing : Nat}

theorem keepsPace_readFrom (damage : Damage) (value : Nat) (levels : List (List Nat)) :
    KeepsPace missing (PrefixCode.readFrom damage value levels) := by
  induction levels generalizing value with
  | nil => exact keepsPace_damaged damage
  | cons symbols others ih =>
    rw [PrefixCode.readFrom]
    refine keepsPace_bit.bind fun first => ?_
    dsimp only
    split
    · exact keepsPace_pure _
    · exact ih _

theorem keepsPace_read (code : PrefixCode) (damage : Damage) : KeepsPace missing (code.read damage) :=
  keepsPace_ite (keepsPace_bit.bind fun _ => keepsPace_damaged damage) (keepsPace_readFrom damage 0 _)

theorem keepsPace_readLengthSymbol (code : PrefixCode) : KeepsPace missing (readLengthSymbol code) :=
  keepsPace_ite (keepsPace_bit.bind fun _ => keepsPace_pure 0) (keepsPace_read code _)

theorem keepsPace_readRepeat (last : Option Nat) (symbol : Nat) :
    KeepsPace missing (readRepeat last symbol) := by
  unfold readRepeat
  split
  · exact (keepsPace_number 2).bind fun _ => keepsPace_damaged _
  · exact (keepsPace_number 2).bind fun _ => keepsPace_pure _
  · exact (keepsPace_number 3).bind fun _ => keepsPace_pure _
  · exact (keepsPace_number 7).bind fun _ => keepsPace_pure _

theorem keepsPace_readLengths (code : PrefixCode) (wanted fuel : Nat) (lengths : List Nat) :
    KeepsPace missing (readLengths code wanted fuel lengths) := by
  induction fuel generalizing lengths with
  | zero => exact keepsPace_pure lengths
  | succ fuel ih =>
    rw [readLengths]
    refine keepsPace_ite (keepsPace_pure lengths) ((keepsPace_readLengthSymbol code).bind fun symbol => ?_)
    refine keepsPace_ite (ih _) ((keepsPace_readRepeat _ _).bind fun repeated => ?_)
    exact keepsPace_ite (keepsPace_damaged _) (ih _)

theorem keepsPace_readCodes : KeepsPace missing readCodes := by
  unfold readCodes
  refine (keepsPace_number 5).bind fun literals => (keepsPace_number 5).bind fun distances =>
    (keepsPace_number 4).bind fun orders => keepsPace_unless _ ?_
  refine (keepsPace_mapM _ fun _ => keepsPace_number 3).bind fun given => keepsPace_unless _ ?_
  refine (keepsPace_readLengths _ _ _ _).bind fun lengths => keepsPace_unless _ ?_
  exact keepsPace_unless _ (keepsPace_unless _ (keepsPace_pure _))

theorem keepsPace_readMeasure (table : List (Nat × Nat)) (symbol : Nat) (damage : Damage) :
    KeepsPace missing (readMeasure table symbol damage) := by
  unfold readMeasure
  split
  · exact keepsPace_damaged damage
  · exact (keepsPace_number _).bind fun _ => keepsPace_pure _

theorem keepsPace_readPiece (codes : Codes) (written : Nat) :
    KeepsPace missing (readPiece codes written) := by
  refine (keepsPace_read _ _).bind fun symbol => ?_
  refine keepsPace_ite (keepsPace_pure _) (keepsPace_ite (keepsPace_pure _) ?_)
  refine (keepsPace_readMeasure _ _ _).bind fun length => (keepsPace_read _ _).bind fun far => ?_
  refine (keepsPace_readMeasure _ _ _).bind fun distance => ?_
  exact keepsPace_ite (keepsPace_damaged _) (keepsPace_pure _)

theorem keepsPace_readStoredLength : KeepsPace missing readStoredLength := by
  refine keepsPace_align.bind fun _ => (keepsPace_littleEndian 2).bind fun length => ?_
  exact (keepsPace_littleEndian 2).bind fun complement => keepsPace_unless _ (keepsPace_pure _)

theorem keepsPace_readBlockHeader : KeepsPace missing readBlockHeader := by
  refine keepsPace_bit.bind fun last => (keepsPace_number 2).bind fun kind => ?_
  exact keepsPace_unless _ (keepsPace_pure _)

end

/-! ### Deflated data -/

/-- How far data that are cut have been written, against the whole: up to where they end, or as far. -/
inductive Progress.Behind (missing : Nat) (cut whole : Progress) : Prop where
  | ended : cut.place = .error .cut → cut.written.output.toList <+: whole.written.output.toList →
      Behind missing cut whole
  | same (before after : Bits) : cut.place = .ok before → whole.place = .ok after →
      before.Behind missing after → cut.written.output = whole.written.output → Behind missing cut whole

section

variable {missing : Nat} {cut whole : Bits} {written other : Written}

theorem Written.output_extend (written : Written) (change : Array UInt8 → Array UInt8) (passed : Nat)
    (isStored : Bool) : (written.extend change passed isStored).output = change written.output := rfl

theorem prefix_copyBack (distance count : Nat) (output : Array UInt8) :
    output.toList <+: (copyBack distance count output).toList := by
  induction count generalizing output with
  | zero => exact List.prefix_refl _
  | succ count ih =>
    refine List.IsPrefix.trans ?_ (ih _)
    rw [Array.toList_push]
    exact List.prefix_append _ _

theorem prefix_readPieces (codes : Codes) (fuel : Nat) (bits : Bits) (written : Written) :
    written.output.toList <+: (readPieces codes fuel bits written).written.output.toList := by
  induction fuel generalizing bits written with
  | zero => exact List.prefix_refl _
  | succ fuel ih =>
    rw [readPieces]
    split
    · exact List.prefix_refl _
    · refine List.IsPrefix.trans ?_ (ih _ _)
      rw [Written.output_extend, Array.toList_push]
      exact List.prefix_append _ _
    · refine List.IsPrefix.trans ?_ (ih _ _)
      rw [Written.output_extend]
      exact prefix_copyBack _ _ _
    · exact List.prefix_refl _

theorem prefix_readStored (bits : Bits) (written : Written) :
    written.output.toList <+: (readStored bits written).written.output.toList := by
  rw [readStored]
  split
  · exact List.prefix_refl _
  · simp only [Written.output_extend, Array.toList_append]
    exact List.prefix_append _ _

theorem prefix_readBlock (kind : Nat) (bits : Bits) (written : Written) :
    written.output.toList <+: (readBlock kind bits written).written.output.toList := by
  rw [readBlock]
  split
  · exact prefix_readStored bits written
  · split
    · exact prefix_readPieces _ _ _ _
    · split
      · exact List.prefix_refl _
      · exact prefix_readPieces _ _ _ _

theorem prefix_readBlocks (fuel : Nat) (bits : Bits) (written : Written) :
    written.output.toList <+: (readBlocks fuel bits written).written.output.toList := by
  induction fuel generalizing bits written with
  | zero => exact List.prefix_refl _
  | succ fuel ih =>
    rw [readBlocks]
    split
    · exact List.prefix_refl _
    · next last kind bits _ =>
      have block := prefix_readBlock kind bits written
      split
      · next after _ here =>
        rw [here] at block
        exact block
      · next after bits here =>
        rw [here] at block
        split
        · exact block
        · exact block.trans (ih _ _)

theorem behind_readPieces (codes : Codes) {fuel more : Nat} (less : fuel ≤ more)
    (behind : cut.Behind missing whole) (same : written.output = other.output) {after : Bits}
    (ends : (readPieces codes more whole other).place = .ok after) :
    (readPieces codes fuel cut written).Behind missing (readPieces codes more whole other) := by
  -- on the bound of the data that are cut; without it, the whole goes on from there
  induction fuel generalizing more cut whole written other with
  | zero =>
    refine .ended rfl ?_
    have kept := prefix_readPieces codes more whole other
    rw [← same] at kept
    exact kept
  | succ fuel ih =>
    cases more with
    | zero => cases ends
    | succ more =>
      have less := Nat.le_of_succ_le_succ less
      have kept := prefix_readPieces codes (more + 1) whole other
      rw [← same] at kept
      rw [readPieces] at ends kept ⊢
      rw [readPieces, same]
      cases read : (readPiece codes other.output.size).run whole with
      | error stop =>
        rw [read] at ends
        cases ends
      | ok pair =>
        obtain ⟨piece, next⟩ := pair
        rw [read] at ends kept
        rcases keepsPace_readPiece codes _ cut whole piece next behind read with short | ⟨before, here, behind⟩
        · rw [short]
          exact .ended rfl kept
        · rw [here]
          cases piece with
          | byte value => exact ih less behind (by simp only [Written.output_extend, same]) ends
          | repetition length distance =>
            exact ih less behind (by simp only [Written.output_extend, same]) ends
          | endOfBlock => exact .same before next rfl rfl behind same

theorem Bits.Behind.count_le (behind : cut.Behind missing whole) : cut.count ≤ whole.count := by
  have fewer := behind.rest.length_le
  rw [count, count, behind.current]
  omega

theorem behind_readStored (behind : cut.Behind missing whole) (same : written.output = other.output)
    {after : Bits} (ends : (readStored whole other).place = .ok after) :
    (readStored cut written).Behind missing (readStored whole other) := by
  have kept := prefix_readStored whole other
  rw [← same] at kept
  rw [readStored] at ends kept ⊢
  rw [readStored]
  cases read : readStoredLength.run whole with
  | error stop =>
    rw [read] at ends
    cases ends
  | ok pair =>
    obtain ⟨length, next⟩ := pair
    rw [read] at ends kept
    rcases keepsPace_readStoredLength cut whole length next behind read with short | ⟨before, here, behind⟩
    · rw [short]
      exact .ended rfl kept
    · rw [here]
      by_cases few : before.rest.length < length
      · -- what is there is copied, and it is a beginning of what there is in the whole
        have stored : before.rest.take length = before.rest := List.take_of_length_le (Nat.le_of_lt few)
        have isShort : ¬ (before.rest.take length).toArray.size = length := by
          rw [stored, List.size_toArray]
          exact Nat.ne_of_lt few
        refine .ended (if_neg isShort) ?_
        obtain ⟨tail, rest⟩ := behind.rest
        simp only [Written.output_extend, Array.toList_append, same, stored]
        rw [List.prefix_append_right_inj, ← rest, List.take_append, List.take_of_length_le (Nat.le_of_lt few)]
        exact List.prefix_append _ _
      · have enough := Nat.le_of_not_lt few
        have isWhole : (before.rest.take length).toArray.size = length := by
          rw [List.size_toArray, List.length_take, Nat.min_eq_left enough]
        have first := behind.take_eq enough
        refine .same (before.skip length) (next.skip length) (if_pos isWhole) ?_ (behind.skip enough) ?_
        · simp only [first]
          exact if_pos isWhole
        · simp only [Written.output_extend, same, first]

theorem behind_readBlock (kind : Nat) (behind : cut.Behind missing whole)
    (same : written.output = other.output) {after : Bits}
    (ends : (readBlock kind whole other).place = .ok after) :
    (readBlock kind cut written).Behind missing (readBlock kind whole other) := by
  have kept := prefix_readBlock kind whole other
  rw [← same] at kept
  rw [readBlock] at ends kept ⊢
  rw [readBlock]
  by_cases stored : kind = 0
  · rw [if_pos stored] at ends ⊢
    rw [if_pos stored]
    exact behind_readStored behind same ends
  rw [if_neg stored] at ends kept ⊢
  rw [if_neg stored]
  by_cases fixed : kind = 1
  · rw [if_pos fixed] at ends ⊢
    rw [if_pos fixed]
    exact behind_readPieces _ (Nat.succ_le_succ behind.count_le) behind same ends
  rw [if_neg fixed] at ends kept ⊢
  rw [if_neg fixed]
  cases read : readCodes.run whole with
  | error stop =>
    rw [read] at ends
    cases ends
  | ok pair =>
    obtain ⟨codes, next⟩ := pair
    rw [read] at ends kept
    rcases keepsPace_readCodes cut whole codes next behind read with short | ⟨before, here, behind⟩
    · rw [short]
      exact .ended rfl kept
    · rw [here]
      exact behind_readPieces codes (Nat.succ_le_succ behind.count_le) behind same ends

theorem readBlocks_of_header {fuel : Nat} {bits next : Bits} {last : Bool} {kind : Nat}
    (read : readBlockHeader.run bits = .ok ((last, kind), next)) (written : Written) :
    readBlocks (fuel + 1) bits written =
      match (readBlock kind next written).place with
      | .error _ => readBlock kind next written
      | .ok after =>
        if last then readBlock kind next written
        else readBlocks fuel after (readBlock kind next written).written := by
  rw [readBlocks, read]
  dsimp only
  generalize readBlock kind next written = block
  obtain ⟨output, place⟩ := block
  cases place <;> rfl

theorem behind_readBlocks {fuel more : Nat} (less : fuel ≤ more) (behind : cut.Behind missing whole)
    (same : written.output = other.output) {after : Bits}
    (ends : (readBlocks more whole other).place = .ok after) :
    (readBlocks fuel cut written).Behind missing (readBlocks more whole other) := by
  induction fuel generalizing more cut whole written other with
  | zero =>
    have kept := prefix_readBlocks more whole other
    rw [← same] at kept
    exact .ended rfl kept
  | succ fuel ih =>
    cases more with
    | zero => cases ends
    | succ more =>
      cases read : readBlockHeader.run whole with
      | error stop =>
        rw [readBlocks, read] at ends
        cases ends
      | ok pair =>
        obtain ⟨⟨last, kind⟩, next⟩ := pair
        rcases keepsPace_readBlockHeader cut whole _ next behind read with short | ⟨before, here, behind⟩
        · have kept := prefix_readBlocks (more + 1) whole other
          rw [← same] at kept
          rw [readBlocks, short]
          exact .ended rfl kept
        · rw [readBlocks_of_header read] at ends ⊢
          rw [readBlocks_of_header here]
          cases place : (readBlock kind next other).place with
          | error stop =>
            rw [place] at ends
            cases place.symm.trans ends
          | ok bits =>
            rw [place] at ends
            dsimp only at ends ⊢
            -- a block that is cut ends all output, while the whole may go on after it
            cases behind_readBlock kind behind same place with
            | ended short kept =>
              rw [short]
              refine .ended short (kept.trans ?_)
              split
              · exact List.prefix_refl _
              · exact prefix_readBlocks _ _ _
            | same first second short long behind output =>
              cases place.symm.trans long
              rw [short]
              dsimp only
              cases last with
              | true => exact .same first bits short long behind output
              | false => exact ih (Nat.le_of_succ_le_succ less) behind output ends

/-- What deflated data that are cut hold is a beginning of what the whole data hold. -/
theorem inflate_cut {cut whole rest : Bytes} (starts : cut <+: whole)
    (fewer : cut.length ≤ whole.length - missing) (ends : (inflate whole).rest = .ok rest) :
    ((inflate cut).rest = .error .cut ∧ (inflate cut).output.toList <+: (inflate whole).output.toList) ∨
      ∃ left, (inflate cut).rest = .ok left ∧ left <+: rest ∧ left.length ≤ rest.length - missing ∧
        (inflate cut).output = (inflate whole).output := by
  have behind : (Bits.start cut).Behind missing (.start whole) := ⟨rfl, starts, fewer⟩
  have less : 8 * cut.length + 1 ≤ 8 * whole.length + 1 := by
    have shorter := starts.length_le
    omega
  unfold inflate at ends ⊢
  dsimp only at ends ⊢
  cases place : (readBlocks (8 * whole.length + 1) (.start whole) {}).place with
  | error stop =>
    rw [place] at ends
    cases ends
  | ok after =>
    rw [place] at ends
    cases ends
    cases behind_readBlocks less behind rfl place with
    | ended short kept =>
      rw [short]
      exact .inl ⟨rfl, kept⟩
    | same before last short long behind output =>
      cases place.symm.trans long
      rw [short]
      exact .inr ⟨before.rest, rfl, behind.rest, behind.fewer, output⟩

end

end Bookbinder.Compression
