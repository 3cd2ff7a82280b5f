import LogShipper.Proofs.Text.Utf8
import LogShipper.TextFile
import Mathlib.Data.List.Infix

/-!
# Files in portions

A character may be cut between two portions; what it then leaves behind is read with the next one.
So it does not matter where a file is cut, as long as all of it is well-formed.  If it is not, the
lines that end in the portions before the fault are read, and the fault is that of the whole file,
but for its position.
-/

namespace LogShipper

namespace Utf8

variable {first : UInt8} {rest after : Bytes} {c : CodePoint}

/-! ## 1. One character -/

/-- A head, when more bytes follow. -/
def Head.followedBy (more : Bytes) : Head → Head
  | .point c rest => .point c (rest ++ more)
  | .broken bytes reason => .broken bytes reason

theorem headMulti_append {width : Nat} (more : Bytes)
    (h : ∀ bytes, headMulti first width rest ≠ .broken bytes .endOfData) :
    headMulti first width (rest ++ more) = (headMulti first width rest).followedBy more := by
  -- The bytes of one character are looked at one by one, and the end is not met.
  fun_cases headMulti first width rest <;> simp_all [headMulti, Head.followedBy]

theorem headMulti_suffix {width : Nat} (h : headMulti first width rest = .point c after) :
    after <:+ rest := by
  fun_cases headMulti first width rest <;> simp_all [headMulti, List.suffix_cons_iff]

theorem head_eq (first : UInt8) (rest : Bytes) :
    head false first rest =
      match width? first with
      | none => .broken [first] .startByte
      | some 1 => .point (Char.ofNat first.toNat) rest
      | some width => headMulti first width rest := rfl

/-- What stands at the beginning is the same whatever follows, unless the end is met. -/
theorem head_append (more : Bytes) (h : ∀ bytes, head false first rest ≠ .broken bytes .endOfData) :
    head false first (rest ++ more) = (head false first rest).followedBy more := by
  rw [head_eq] at h ⊢
  rw [head_eq]
  split at h
  · rfl
  · rfl
  · exact headMulti_append more h

theorem head_append_of_point (more : Bytes) (h : head false first rest = .point c after) :
    head false first (rest ++ more) = .point c (after ++ more) := by
  rw [head_append more (by simp [h]), h]
  rfl

theorem head_append_of_broken {bytes : Bytes} {reason : DecodeReason} (more : Bytes)
    (h : head false first rest = .broken bytes reason) (hreason : reason ≠ .endOfData) :
    head false first (rest ++ more) = .broken bytes reason := by
  rw [head_append more (by simp [h, hreason]), h]
  rfl

theorem head_suffix (h : head false first rest = .point c after) : after <:+ rest := by
  rw [head_eq] at h
  split at h
  · cases h
  · obtain ⟨-, rfl⟩ := Head.point.inj h
    exact List.suffix_rfl
  · exact headMulti_suffix h

/-! ## 2. Readings -/

/-- A reading of bytes before which there are others. -/
def Reading.moved (distance : Nat) (reading : Reading) : Reading :=
  { reading with fault := reading.fault.map fun fault =>
      { fault with position := distance + fault.position } }

/-- A reading behind a text. -/
def Reading.behind (t : Text) (reading : Reading) : Reading :=
  { reading with text := t ++ reading.text }

/-- What is wrong, wherever it is. -/
def Reading.cause? (reading : Reading) : Option DecodeFault :=
  reading.fault.map fun fault => { fault with position := 0 }

theorem Reading.cause?_moved (distance : Nat) (reading : Reading) :
    (reading.moved distance).cause? = reading.cause? := by
  obtain ⟨t, fault⟩ := reading
  cases fault <;> rfl

theorem Reading.cause?_eq_none_iff {reading : Reading} :
    reading.cause? = none ↔ reading.fault = none :=
  Option.map_eq_none_iff

theorem Reading.moved_moved (near far : Nat) (reading : Reading) :
    (reading.moved near).moved far = reading.moved (far + near) := by
  obtain ⟨t, fault⟩ := reading
  cases fault <;> simp [moved, Nat.add_assoc]

theorem Reading.moved_zero (reading : Reading) : reading.moved 0 = reading := by
  obtain ⟨t, fault⟩ := reading
  cases fault <;> simp [moved]

theorem readFrom_add (lenient : Bool) (distance position : Nat) (bytes : Bytes) :
    readFrom lenient (distance + position) bytes =
      (readFrom lenient position bytes).moved distance := by
  fun_induction readFrom lenient position bytes with
  | case1 position =>
    rw [readFrom]
    rfl
  | case2 position first rest bytes reason h =>
    rw [readFrom_of_broken h]
    rfl
  | case3 position first rest c after h reading ih =>
    rw [readFrom_of_point h, Nat.add_assoc, ih]
    rfl

theorem read_nil : read [] = ⟨[], none⟩ := by
  rw [read, readFrom]

theorem read_of_point (h : head false first rest = .point c after) :
    read (first :: rest) =
      ((read after).moved (rest.length + 1 - after.length)).behind [c] := by
  rw [read, readFrom_of_point h, Nat.add_comm, readFrom_add]
  rfl

theorem read_of_broken {bytes : Bytes} {reason : DecodeReason}
    (h : head false first rest = .broken bytes reason) :
    read (first :: rest) = ⟨[], some ⟨.utf8, 0, bytes, reason⟩⟩ :=
  readFrom_of_broken h 0

/-- Bytes are read character by character, up to the first that is broken. -/
theorem read_induction {holds : Bytes → Prop} (nil : holds [])
    (broken : ∀ first rest bytes reason, head false first rest = .broken bytes reason →
      holds (first :: rest))
    (point : ∀ first rest c after, head false first rest = .point c after → holds after →
      holds (first :: rest))
    (bytes : Bytes) : holds bytes := by
  induction hlength : bytes.length using Nat.strong_induction_on generalizing bytes with
  | _ n ih =>
    cases bytes with
    | nil => exact nil
    | cons first rest =>
      cases hhead : head false first rest with
      | broken bytes reason => exact broken first rest bytes reason hhead
      | point c after =>
        exact point first rest c after hhead (ih after.length (hlength ▸ head_shorter hhead) _ rfl)

/-! ## 3. Pending bytes -/

theorem pending?_nil : pending? [] = some [] := by
  rw [pending?, read_nil]

theorem pending?_of_broken {bytes : Bytes} {reason : DecodeReason}
    (h : head false first rest = .broken bytes reason) :
    pending? (first :: rest) =
      if reason = .endOfData ∨ isCutSurrogate (first :: rest) then some (first :: rest)
      else none := by
  rw [pending?, read_of_broken h]
  rfl

theorem pending?_of_point (h : head false first rest = .point c after) :
    pending? (first :: rest) = pending? after := by
  have hafter : (first :: rest).drop (rest.length + 1 - after.length) = after :=
    (List.suffix_iff_eq_drop.1 ((head_suffix h).trans (List.suffix_cons first rest))).symm
  rw [pending?, pending?, read_of_point h]
  cases hfault : (read after).fault with
  | none => simp [Reading.behind, Reading.moved, hfault]
  | some fault =>
    simp only [Reading.behind, Reading.moved, hfault, Option.map_some, ← List.drop_drop, hafter]

theorem isCutSurrogate_of_ne (h : first ≠ 0xED) (rest : Bytes) :
    isCutSurrogate (first :: rest) = false := by
  rcases rest with _ | ⟨second, _ | ⟨third, rest⟩⟩
  · rfl
  · simp [isCutSurrogate, h]
  · rfl

/-- What is broken, but not at the end, does not become the beginning of a surrogate when more
bytes follow. -/
theorem isCutSurrogate_append {bytes : Bytes} {reason : DecodeReason} (more : Bytes)
    (h : head false first rest = .broken bytes reason) (hreason : reason ≠ .endOfData)
    (hcut : isCutSurrogate (first :: rest) = false) :
    isCutSurrogate (first :: (rest ++ more)) = false := by
  by_cases hfirst : first = 0xED
  · subst hfirst
    rcases rest with _ | ⟨second, _ | ⟨third, rest⟩⟩
    · -- Alone it breaks off at the end.
      exact absurd (Head.broken.inj h).2.symm hreason
    · cases more with
      | nil => exact hcut
      | cons third more => rfl
    · rfl
  · exact isCutSurrogate_of_ne hfirst _

/-- Of bytes that are followed by others all that matters is what is pending. -/
theorem pending?_append (bytes more : Bytes) :
    pending? (bytes ++ more) = (pending? bytes).bind fun pending => pending? (pending ++ more) := by
  induction bytes using read_induction with
  | nil =>
    rw [pending?_nil]
    rfl
  | broken first rest bytes reason hhead =>
    by_cases hopen : reason = .endOfData ∨ isCutSurrogate (first :: rest) = true
    · rw [pending?_of_broken hhead, if_pos hopen]
      rfl
    · obtain ⟨hreason, hcut⟩ := not_or.1 hopen
      have hnext := head_append_of_broken more hhead hreason
      have hmore := isCutSurrogate_append more hhead hreason (Bool.eq_false_iff.2 hcut)
      rw [List.cons_append, pending?_of_broken hnext, pending?_of_broken hhead, if_neg hopen, hmore,
        if_neg (by simpa using hreason)]
      rfl
  | point first rest c after hhead ih =>
    rw [List.cons_append, pending?_of_point (head_append_of_point more hhead),
      pending?_of_point hhead, ih]

/-- What is pending is all that is wrong there. -/
theorem read_of_pending {bytes pending : Bytes} (h : pending? bytes = some pending) :
    (read pending).text = [] ∧ pending? pending = some pending := by
  induction bytes using read_induction with
  | nil =>
    rw [pending?_nil] at h
    obtain rfl : [] = pending := Option.some.inj h
    rw [read_nil]
    exact ⟨rfl, pending?_nil⟩
  | broken first rest bytes reason hhead =>
    obtain rfl : first :: rest = pending := by
      rw [pending?_of_broken hhead] at h
      split at h
      · exact Option.some.inj h
      · cases h
    rw [read_of_broken hhead]
    exact ⟨rfl, h⟩
  | point first rest c after hhead ih =>
    rw [pending?_of_point hhead] at h
    exact ih h

/-- Bytes of which nothing but the end is open are read on with what is pending. -/
theorem read_append {bytes pending : Bytes} (h : pending? bytes = some pending) (more : Bytes) :
    ∃ distance, read (bytes ++ more) =
      ((read (pending ++ more)).moved distance).behind (read bytes).text := by
  induction bytes using read_induction with
  | nil =>
    rw [pending?_nil] at h
    obtain rfl : [] = pending := Option.some.inj h
    rw [read_nil]
    exact ⟨0, (Reading.moved_zero _).symm⟩
  | broken first rest bytes reason hhead =>
    -- All that was read is pending, so that it is read anew.
    obtain rfl : first :: rest = pending := by
      rw [pending?_of_broken hhead] at h
      split at h
      · exact Option.some.inj h
      · cases h
    rw [read_of_broken hhead]
    exact ⟨0, (Reading.moved_zero _).symm⟩
  | point first rest c after hhead ih =>
    rw [pending?_of_point hhead] at h
    obtain ⟨distance, hread⟩ := ih h
    rw [List.cons_append, read_of_point (head_append_of_point more hhead), read_of_point hhead,
      hread]
    refine ⟨(rest ++ more).length + 1 - (after ++ more).length + distance, ?_⟩
    rw [← Reading.moved_moved]
    rfl

/-- Bytes in which something else is wrong are read no further. -/
theorem read_append_of_none {bytes : Bytes} (h : pending? bytes = none) (more : Bytes) :
    read (bytes ++ more) = read bytes := by
  induction bytes using read_induction with
  | nil =>
    rw [pending?_nil] at h
    cases h
  | broken first rest bytes reason hhead =>
    have hreason : reason ≠ .endOfData := by
      rintro rfl
      rw [pending?_of_broken hhead, if_pos (.inl rfl)] at h
      cases h
    rw [List.cons_append, read_of_broken (head_append_of_broken more hhead hreason),
      read_of_broken hhead]
  | point first rest c after hhead ih =>
    rw [pending?_of_point hhead] at h
    have hdistance : (rest ++ more).length + 1 - (after ++ more).length =
        rest.length + 1 - after.length := by
      simp only [List.length_append]
      omega
    rw [List.cons_append, read_of_point (head_append_of_point more hhead), read_of_point hhead,
      ih h, hdistance]

end Utf8

namespace TextFile

open Utf8

/-! ## 4. Portions -/

theorem flatten_portions (bytes : Bytes) : (portions bytes).flatten = bytes := by
  fun_induction portions bytes with
  | case1 bytes hempty => exact (List.isEmpty_iff.1 hempty).symm
  | case2 bytes hsome ih => rw [List.flatten_cons, ih, List.take_append_drop]

/-- Portions are read as all of their bytes are, but for the position of a fault; of the portion in
which it is met nothing is read. -/
theorem readPortions_spec (pending : Bytes) (portions : List Bytes) :
    let whole := read (pending ++ portions.flatten)
    let reading := readPortions pending portions
    reading.text <+: whole.text ∧ reading.cause? = whole.cause? ∧
      (reading.fault = none → reading.text = whole.text) := by
  induction portions generalizing pending with
  | nil =>
    rw [List.flatten_nil, List.append_nil]
    exact ⟨List.prefix_rfl, rfl, fun _ => rfl⟩
  | cons portion later ih =>
    rw [List.flatten_cons, ← List.append_assoc, readPortions]
    cases hpending : pending? (pending ++ portion) with
    | none =>
      rw [read_append_of_none hpending]
      refine ⟨List.nil_prefix, rfl, fun hnone => ?_⟩
      -- Nothing would be wrong only if nothing were pending.
      rw [pending?, hnone] at hpending
      cases hpending
    | some left =>
      obtain ⟨distance, hread⟩ := read_append hpending later.flatten
      obtain ⟨htext, hcause, hwhole⟩ := ih left
      rw [hread]
      refine ⟨(List.prefix_append_right_inj _).2 htext, ?_, fun hnone => ?_⟩
      · exact hcause.trans (Reading.cause?_moved distance _).symm
      · exact congrArg (_ ++ ·) (hwhole hnone)

variable {portions : List Bytes} {t : Text}

theorem read_of_decode {bytes : Bytes} (h : decode bytes = .ok t) : read bytes = ⟨t, none⟩ := by
  unfold decode Reading.result at h
  generalize read bytes = reading at h
  obtain ⟨found, fault⟩ := reading
  cases fault with
  | none => rw [show found = t from Except.ok.inj h]
  | some fault => cases h

theorem readPortions_of_decode (h : decode portions.flatten = .ok t) :
    readPortions [] portions = ⟨t, none⟩ := by
  obtain ⟨-, hcause, hwhole⟩ := readPortions_spec [] portions
  rw [List.nil_append, read_of_decode h] at hcause hwhole
  have hnone := Reading.cause?_eq_none_iff.1 hcause
  have htext := hwhole hnone
  generalize readPortions [] portions = reading at hnone htext
  obtain ⟨found, fault⟩ := reading
  obtain rfl : fault = none := hnone
  rw [show found = t from htext]

/-- More portions are read with what is pending. -/
theorem readPortions_append {pending left : Bytes} (hpending : pending? pending = some pending)
    (h : pending? (pending ++ portions.flatten) = some left) (more : List Bytes) :
    readPortions pending (portions ++ more) =
      (readPortions left more).behind (read (pending ++ portions.flatten)).text := by
  induction portions generalizing pending with
  | nil =>
    rw [List.flatten_nil, List.append_nil] at h ⊢
    obtain rfl := Option.some.inj (hpending.symm.trans h)
    rw [(read_of_pending hpending).1]
    rfl
  | cons portion rest ih =>
    rw [List.flatten_cons, ← List.append_assoc] at h ⊢
    rw [pending?_append] at h
    obtain ⟨middle, hmiddle, hrest⟩ := Option.bind_eq_some_iff.1 h
    obtain ⟨distance, hread⟩ := read_append hmiddle rest.flatten
    rw [List.cons_append, readPortions, hmiddle, hread]
    dsimp only
    rw [ih (read_of_pending hmiddle).2 hrest]
    simp only [Reading.behind, Reading.moved, List.append_assoc]

/-! ## 5. Files -/

/-- A file that is well-formed has its lines, wherever it is cut. -/
theorem ofPortions_of_decode (h : decode portions.flatten = .ok t) :
    ofPortions portions = ⟨(Text.unifyLineEnds t).lines, none⟩ := by
  rw [ofPortions, readPortions_of_decode h]

theorem ofBytes_of_decode {bytes : Bytes} (h : decode bytes = .ok t) :
    ofBytes bytes = ⟨(Text.unifyLineEnds t).lines, none⟩ := by
  rw [← flatten_portions bytes] at h
  exact ofPortions_of_decode h

theorem content_of_decode {bytes : Bytes} (h : decode bytes = .ok t) :
    content bytes = .ok (Text.unifyLineEnds t) := by
  rw [← flatten_portions bytes] at h
  rw [content, readPortions_of_decode h]

theorem fault_ofPortions (portions : List Bytes) :
    (ofPortions portions).fault = (readPortions [] portions).fault := by
  cases hfault : (readPortions [] portions).fault <;> simp [ofPortions, hfault]

/-- A file has no fault if and only if it is well-formed. -/
theorem fault_ofPortions_eq_none_iff (portions : List Bytes) :
    (ofPortions portions).fault = none ↔ ∃ t, decode portions.flatten = .ok t := by
  constructor
  · intro hnone
    obtain ⟨-, hcause, -⟩ := readPortions_spec [] portions
    rw [fault_ofPortions, ← Reading.cause?_eq_none_iff, hcause, Reading.cause?_eq_none_iff] at hnone
    refine ⟨(read portions.flatten).text, ?_⟩
    rw [decode, Reading.result, show (read portions.flatten).fault = none from hnone]
  · rintro ⟨t, h⟩
    rw [ofPortions_of_decode h]

/-- Before a portion in which a fault is met the lines that have ended are read, and nothing behind
them. -/
theorem ofPortions_of_fault {portion : Bytes} {fault : DecodeFault}
    (h : decode portions.flatten = .ok t) (hfault : (read portion).fault = some fault)
    (hnone : pending? portion = none) (later : List Bytes) :
    ofPortions (portions ++ portion :: later) =
      ⟨(Text.unifyLineEnds (Text.dropOpenReturn t)).endedLines, some fault⟩ := by
  have hbefore : read ([] ++ portions.flatten) = ⟨t, none⟩ := read_of_decode h
  have hclosed : pending? ([] ++ portions.flatten) = some [] := by
    rw [pending?, hbefore]
  have hportion : readPortions [] (portion :: later) = ⟨[], some fault⟩ := by
    rw [readPortions, List.nil_append, hnone, hfault]
  have hreading : readPortions [] (portions ++ portion :: later) = ⟨t, some fault⟩ := by
    rw [readPortions_append pending?_nil hclosed, hbefore, hportion]
    simp [Reading.behind]
  rw [ofPortions, hreading]

end TextFile

end LogShipper
