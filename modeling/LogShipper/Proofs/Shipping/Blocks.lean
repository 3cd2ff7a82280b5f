import LogShipper.Proofs.Shipping.Recording
import Mathlib.Data.List.Infix

/-!
# Blocks of a supply

The batches that are put are the blocks of the batch size into which the items of a supply are cut,
from the first one on.  They end where a stop is asked for or a put fails, and nothing is taken from
the supply behind a put that fails.  `course_note` says all this of any depot and any supply.
-/

namespace LogShipper

variable {σ ε ι : Type}

/-! ## 1. Blocks -/

/-- The items in blocks of one size, of which the last one may be shorter. -/
def blocksOf (size : Nat) (items : List ι) : List (List ι) :=
  if items = [] ∨ size = 0 then [] else items.take size :: blocksOf size (items.drop size)
termination_by items.length
decreasing_by
  rename_i h
  rw [not_or, ← List.length_eq_zero_iff] at h
  rw [List.length_drop]
  omega

section Blocks

variable {size : Nat} {items : List ι} {batches : List (List ι)}

theorem blocksOf_nil (size : Nat) : blocksOf size ([] : List ι) = [] := by
  rw [blocksOf, if_pos (.inl rfl)]

theorem blocksOf_of_ne_nil (hsize : 0 < size) (h : items ≠ []) :
    blocksOf size items = items.take size :: blocksOf size (items.drop size) := by
  rw [blocksOf, if_neg (not_or.2 ⟨h, Nat.ne_of_gt hsize⟩)]

theorem flatten_blocksOf (hsize : 0 < size) (items : List ι) :
    (blocksOf size items).flatten = items := by
  fun_induction blocksOf size items with
  | case1 items h =>
    rw [h.resolve_right (Nat.ne_of_gt hsize), List.flatten_nil]
  | case2 items h ih =>
    rw [List.flatten_cons, ih, List.take_append_drop]

theorem ne_nil_of_mem_blocksOf {block : List ι} (h : block ∈ blocksOf size items) :
    block ≠ [] := by
  fun_induction blocksOf size items with
  | case1 items hend => cases h
  | case2 items hmore ih =>
    rcases List.mem_cons.1 h with rfl | h
    · rw [Ne, List.take_eq_nil_iff, or_comm]
      exact hmore
    · exact ih h

/-- Batches of which all but the last are full, and a short one only at the end of the items, are
blocks. -/
theorem prefix_blocksOf (hsize : 0 < size) (hitems : batches.flatten <+: items)
    (hsized : ∀ batch ∈ batches, batch ≠ [] ∧ batch.length ≤ size)
    (hfull : ∀ batch ∈ batches.dropLast, batch.length = size)
    (hshort : ∀ batch ∈ batches, batch.length < size → batches.flatten = items) :
    batches <+: blocksOf size items := by
  induction batches generalizing items with
  | nil => exact List.nil_prefix
  | cons batch batches ih =>
    rw [List.forall_mem_cons] at hsized hshort
    obtain ⟨rest, rfl⟩ := hitems
    rw [List.flatten_cons, List.append_assoc] at hshort ⊢
    have hsome : batch ++ (batches.flatten ++ rest) ≠ [] := by simp [hsized.1.1]
    rw [blocksOf_of_ne_nil hsize hsome]
    -- A full batch is the first block, and the others are blocks of what is left.
    by_cases hlength : batch.length = size
    · rw [← hlength, List.take_left, List.drop_left, hlength, List.prefix_cons_inj]
      apply ih (List.prefix_append _ _) hsized.2
      · intro later hlater
        have hne : batches ≠ [] := by
          rintro rfl
          cases hlater
        apply hfull
        rw [List.dropLast_cons_of_ne_nil hne]
        exact List.mem_cons_of_mem _ hlater
      · intro later hlater hless
        exact List.append_cancel_left (hshort.2 later hlater hless)
    · -- A short batch is the last one, and behind it there are no items.
      have hless : batch.length < size := by omega
      obtain rfl : batches = [] := by
        cases batches with
        | nil => rfl
        | cons next batches => exact absurd (hfull batch List.mem_cons_self) hlength
      have hend := List.append_cancel_left (hshort.1 hless)
      rw [← hend, List.flatten_nil, List.append_nil, List.take_of_length_le hsized.1.2,
        List.drop_of_length_le hsized.1.2, blocksOf_nil]

theorem eq_blocksOf (hsize : 0 < size) (h : batches <+: blocksOf size items)
    (hall : batches.flatten = items) : batches = blocksOf size items := by
  obtain ⟨rest, hrest⟩ := h
  have hflatten := flatten_blocksOf hsize items
  rw [← hrest, List.flatten_append, hall, List.append_right_eq_self, List.flatten_eq_nil_iff]
    at hflatten
  cases rest with
  | nil => rw [← hrest, List.append_nil]
  | cons block rest =>
    have hmem : block ∈ blocksOf size items := by
      rw [← hrest]
      exact List.mem_append_right _ List.mem_cons_self
    exact absurd (hflatten block List.mem_cons_self) (ne_nil_of_mem_blocksOf hmem)

end Blocks

namespace Depot

variable {depot : Depot σ ε ι} {batchSize : Int} {supply : List (Supply σ ε ι)}
  {result : Except ε Nat} {final : σ} {attempts : List (Attempt σ ι)}

/-- Whatever becomes of a supply, the batches that are put are its first blocks. -/
theorem IsRecord.blocks (h : depot.IsRecord batchSize supply result final attempts)
    (hsize : 0 < batchSize) :
    attempts.map Attempt.batch <+: blocksOf batchSize.toNat (Supply.items supply) := by
  have hitems := h.items_prefix
  have hshort := h.short
  rw [Attempt.items, List.flatMap_def] at hitems hshort
  apply prefix_blocksOf (by omega) hitems
  · rw [List.forall_mem_map]
    intro attempt hattempt
    have hsized := h.sized attempt hattempt
    exact ⟨hsized.1, by omega⟩
  · rw [← List.map_dropLast, List.forall_mem_map]
    intro attempt hattempt
    have hfull := h.full attempt hattempt
    omega
  · rw [List.forall_mem_map]
    intro attempt hattempt hless
    exact hshort attempt hattempt (by omega)

/-- The batches are all the blocks of a supply, if nothing fails and no stop is asked for. -/
theorem IsRecord.eq_blocks (h : depot.IsRecord batchSize supply result final attempts)
    (hsize : 0 < batchSize) (hsupply : ∀ e, .fault e ∉ supply)
    (hput : ∀ attempt ∈ attempts, (depot.put attempt.batch attempt.before).1 = .ok ())
    (hgoing : depot.isStopping final = false) :
    attempts.map Attempt.batch = blocksOf batchSize.toNat (Supply.items supply) := by
  apply eq_blocksOf (by omega) (h.blocks hsize)
  rw [← List.flatMap_def]
  cases result with
  | ok batches =>
    refine (h.ok batches rfl).2.2.resolve_right fun hstop => ?_
    rw [hgoing] at hstop
    cases hstop
  | error e =>
    rcases h.error e rfl with ⟨hfault, -⟩ | ⟨last, hlast, hfailed⟩
    · exact absurd hfault (hsupply e)
    · have hok := hput last (List.mem_of_getLast? hlast)
      rw [hfailed] at hok
      cases hok

end Depot

/-! ## 2. What is taken -/

namespace Supply

/-- The step of a supply, for a state in which the steps that are taken are noted. -/
def noted : Supply σ ε ι → List (Supply (σ × List (Supply σ ε ι)) ε ι)
  | .item i => [.event fun (state, taken) => (state, taken ++ [.item i]), .item i]
  | .event change => [.event fun (state, taken) => (change state, taken ++ [.event change])]
  | .fault e => [.fault e]

theorem items_append {steps : List (Supply σ ε ι)} (h : ∀ e, .fault e ∉ steps)
    (rest : List (Supply σ ε ι)) : items (steps ++ rest) = items steps ++ items rest := by
  induction steps with
  | nil => rfl
  | cons step steps ih =>
    simp only [List.mem_cons, not_or] at h
    cases step with
    | item i => exact congrArg (i :: ·) (ih fun e => (h e).2)
    | event change => exact ih fun e => (h e).2
    | fault e => exact absurd rfl (h e).1

theorem items_noted (supply : List (Supply σ ε ι)) :
    items (supply.flatMap noted) = items supply := by
  induction supply with
  | nil => rfl
  | cons step rest ih =>
    cases step with
    | item i => exact congrArg (i :: ·) ih
    | event change => exact ih
    | fault e => rfl

theorem fault_of_mem_noted {supply : List (Supply σ ε ι)} {e : ε}
    (h : .fault e ∈ supply.flatMap noted) : .fault e ∈ supply := by
  obtain ⟨step, hstep, hfault⟩ := List.mem_flatMap.1 h
  cases step with
  | item i => simp [noted] at hfault
  | event change => simp [noted] at hfault
  | fault other =>
    cases List.mem_singleton.1 hfault
    exact hstep

theorem shows_noted (supply : List (Supply σ ε ι)) :
    Shows Prod.fst (supply.flatMap noted) supply := by
  induction supply with
  | nil => exact .nil
  | cons step rest ih =>
    cases step with
    | item i => exact .hidden (fun _ => rfl) (.item i ih)
    | event change => exact .event (fun _ => rfl) ih
    | fault e => exact .fault e

end Supply

namespace Depot

/-- A state, and the steps of the supply that were taken until it was reached. -/
abbrev Noted (σ ε ι : Type) := σ × List (Supply σ ε ι)

/-- The depot, for a state in which the steps that are taken are noted. -/
def noting (depot : Depot σ ε ι) : Depot (Noted σ ε ι) ε ι where
  put := fun batch (state, taken) =>
    let (result, after) := depot.put batch state
    (result, after, taken)
  isStopping := fun (state, _) => depot.isStopping state

theorem noting_put (depot : Depot σ ε ι) (batch : List ι) (before : Noted σ ε ι) :
    depot.noting.put batch before =
      ((depot.put batch before.1).1, (depot.put batch before.1).2, before.2) := rfl

theorem shows_noting (depot : Depot σ ε ι) : depot.noting.Shows depot Prod.fst where
  put _ _ := rfl
  isStopping _ := rfl

/-- What is recorded when a supply is shipped and what is taken from it is noted: the state in which
a batch is put tells what was taken by then. -/
def note (depot : Depot σ ε ι) (batchSize : Int) (supply : List (Supply σ ε ι)) (state : σ) :
    Except ε Nat × Noted σ ε ι × List (Attempt (Noted σ ε ι) ι) :=
  depot.noting.record batchSize (supply.flatMap Supply.noted) (state, [])

variable {depot : Depot σ ε ι} {batchSize : Int} {supply rest taken : List (Supply σ ε ι)}
  {state : σ} {attempts : List (Attempt (Noted σ ε ι) ι)} {batch waiting : List ι} {batches : Nat}

/-- Noting changes nothing. -/
theorem ship_eq_note (depot : Depot σ ε ι) (batchSize : Int) (supply : List (Supply σ ε ι))
    (state : σ) : depot.ship batchSize supply state =
      ((depot.note batchSize supply state).1, (depot.note batchSize supply state).2.1.1) := by
  have herased : erase (depot.note batchSize supply state) =
      depot.noting.ship batchSize (supply.flatMap Supply.noted) (state, []) :=
    depot.noting.erase_record _ _
  have hnoted : Prod.map id Prod.fst (erase (depot.note batchSize supply state)) =
      depot.ship batchSize supply state := by
    rw [herased]
    exact depot.shows_noting.shipFrom (Supply.shows_noted supply) [] 0 (state, [])
  exact hnoted.symm

/-- Attempts that are noted while a supply is shipped.  Whenever a batch is put, the items that were
taken are those of the batches up to it, and a short batch is put only when the whole supply was
taken. -/
structure AreNoted (batchSize : Int) (supply : List (Supply σ ε ι))
    (attempts : List (Attempt (Noted σ ε ι) ι)) : Prop where
  taken_prefix : ∀ attempt ∈ attempts, attempt.before.2 <+: supply
  taken : ∀ earlier attempt later, attempts = earlier ++ attempt :: later →
    Supply.items attempt.before.2 = Attempt.items (earlier ++ [attempt])
  short : ∀ attempt ∈ attempts, (attempt.batch.length : Int) < batchSize →
    attempt.before.2 = supply

/-- What holds while a supply is shipped: what was taken from it had no fault, and its items are in
the batches that were put, or wait. -/
structure IsNoting (batchSize : Int) (supply : List (Supply σ ε ι)) (waiting : List ι)
    (taken : List (Supply σ ε ι)) (attempts : List (Attempt (Noted σ ε ι) ι))
    (rest : List (Supply σ ε ι)) : Prop where
  noted : AreNoted batchSize supply attempts
  split : taken ++ rest = supply
  clear : ∀ e, .fault e ∉ taken
  items : Supply.items taken = Attempt.items attempts ++ waiting
  waiting : (waiting.length : Int) < batchSize

theorem AreNoted.append (h : AreNoted batchSize supply attempts) (htaken : taken <+: supply)
    (hitems : Supply.items taken = Attempt.items attempts ++ batch)
    (hshort : (batch.length : Int) < batchSize → taken = supply) (before : σ) :
    AreNoted batchSize supply (attempts ++ [⟨batch, (before, taken)⟩]) where
  taken_prefix := by
    rw [List.forall_mem_append, List.forall_mem_singleton]
    exact ⟨h.taken_prefix, htaken⟩
  taken earlier attempt later heq := by
    rcases List.eq_nil_or_concat later with rfl | ⟨between, last, rfl⟩
    · obtain ⟨rfl, hlast⟩ := List.append_inj' heq rfl
      obtain rfl := List.singleton_inj.1 hlast
      rw [Attempt.items_append]
      exact hitems
    · rw [List.concat_eq_append, ← List.cons_append, ← List.append_assoc] at heq
      exact h.taken earlier attempt between (List.append_inj_left' heq rfl)
  short := by
    rw [List.forall_mem_append, List.forall_mem_singleton]
    exact ⟨h.short, hshort⟩

theorem areNoted_putThen
    {next : Nat → Noted σ ε ι × List (Attempt (Noted σ ε ι) ι) →
      Except ε Nat × Noted σ ε ι × List (Attempt (Noted σ ε ι) ι)}
    (hput : AreNoted batchSize supply (attempts ++ [⟨batch, (state, taken)⟩]))
    (hnext : ∀ after, AreNoted batchSize supply
      (next (batches + 1) ((after, taken), attempts ++ [⟨batch, (state, taken)⟩])).2.2) :
    AreNoted batchSize supply
      (depot.noting.recording.putThen batch batches ((state, taken), attempts) next).2.2 := by
  have heq : depot.noting.recording.put batch ((state, taken), attempts) =
      ((depot.put batch state).1, ((depot.put batch state).2, taken),
        attempts ++ [⟨batch, (state, taken)⟩]) := rfl
  rw [putThen, heq]
  rcases depot.put batch state with ⟨_ | ⟨⟩, after⟩
  · exact hput
  · exact hnext after

theorem areNoted_shipFrom (h : IsNoting batchSize supply waiting taken attempts rest) :
    AreNoted batchSize supply (depot.noting.recording.shipFrom batchSize waiting batches
      ((state, taken), attempts) ((rest.flatMap Supply.noted).map .recorded)).2.2 := by
  -- By induction on what is left of the supply.
  induction rest generalizing waiting taken batches state attempts with
  | nil =>
    have hall : taken = supply := by rw [← h.split, List.append_nil]
    rw [List.flatMap_nil, List.map_nil, shipFrom]
    split
    · exact h.noted
    · -- Only here a batch may be short, and nothing is left.
      have hput := h.noted.append (hall ▸ List.prefix_rfl) h.items (fun _ => hall) state
      exact areNoted_putThen hput fun _ => hput
  | cons step rest ih =>
    have hsplit : (taken ++ [step]) ++ rest = supply := by
      rw [List.append_assoc]
      exact h.split
    have hitems := Supply.items_append h.clear [step]
    rw [h.items] at hitems
    cases step with
    | fault e => exact h.noted
    | event change =>
      have hclear : ∀ e, Supply.fault e ∉ taken ++ [.event change] := by simpa using h.clear
      rw [Supply.items, Supply.items, List.append_nil] at hitems
      exact ih ⟨h.noted, hsplit, hclear, hitems, h.waiting⟩
    | item i =>
      have hclear : ∀ e, Supply.fault e ∉ taken ++ [.item i] := by simpa using h.clear
      rw [Supply.items, Supply.items, List.append_assoc] at hitems
      show AreNoted batchSize supply (depot.noting.recording.shipFrom batchSize waiting
        batches ((state, taken ++ [.item i]), attempts)
        (.item i :: (rest.flatMap Supply.noted).map .recorded)).2.2
      rw [shipFrom]
      split
      · exact h.noted
      · split
        next hmore =>
          exact ih ⟨h.noted, hsplit, hclear, hitems, by simpa using hmore⟩
        next hfull =>
          -- One item less was not a batch yet, so that this one is full.
          have hlength : ¬ ((waiting ++ [i]).length : Int) < batchSize := by simpa using hfull
          have hput := h.noted.append ⟨rest, hsplit⟩ hitems (absurd · hlength) state
          have hnone : Supply.items (taken ++ [.item i]) =
              Attempt.items (attempts ++ [⟨waiting ++ [i], (state, taken ++ [.item i])⟩]) ++
                [] := by
            rw [List.append_nil, Attempt.items_append]
            exact hitems
          have hempty : (([] : List ι).length : Int) < batchSize := by
            have := h.waiting
            rw [List.length_nil]
            omega
          exact areNoted_putThen hput fun after => ih ⟨hput, hsplit, hclear, hnone, hempty⟩

theorem areNoted_note (hsize : 0 < batchSize) (depot : Depot σ ε ι)
    (supply : List (Supply σ ε ι)) (state : σ) :
    AreNoted batchSize supply (depot.note batchSize supply state).2.2 := by
  have hnone : AreNoted batchSize supply [] := ⟨by simp, by simp, by simp⟩
  exact areNoted_shipFrom ⟨hnone, rfl, by simp, rfl, by simpa using hsize⟩

/-! ## 3. The course of shipping -/

/-- A depot and a supply that leave a stop asked for, once it is. -/
structure StaysStopped (depot : Depot σ ε ι) (supply : List (Supply σ ε ι)) : Prop where
  put : ∀ batch state, depot.isStopping state = true →
    depot.isStopping (depot.put batch state).2 = true
  event : ∀ change, .event change ∈ supply → ∀ state, depot.isStopping state = true →
    depot.isStopping (change state) = true

/-- Attempts of which only the last one may end with a stop asked for, and only if the state is one
of a stop. -/
structure StopsLast (depot : Depot σ ε ι) (state : σ) (attempts : List (Attempt (Noted σ ε ι) ι)) :
    Prop where
  going : depot.isStopping state = false → ∀ attempt ∈ attempts,
    depot.isStopping (depot.put attempt.batch attempt.before.1).2 = false
  before : ∀ attempt ∈ attempts.dropLast,
    depot.isStopping (depot.put attempt.batch attempt.before.1).2 = false

theorem StopsLast.event {after : σ} (h : depot.StopsLast state attempts)
    (hchange : depot.isStopping state = true → depot.isStopping after = true) :
    depot.StopsLast after attempts where
  going hgoing := by
    apply h.going
    rw [← Bool.not_eq_true] at hgoing ⊢
    exact fun hstop => hgoing (hchange hstop)
  before := h.before

theorem StopsLast.put (attempt : Attempt (Noted σ ε ι) ι)
    (h : depot.StopsLast attempt.before.1 attempts)
    (hgoing : depot.isStopping attempt.before.1 = false) :
    depot.StopsLast (depot.put attempt.batch attempt.before.1).2 (attempts ++ [attempt]) where
  going hafter := by
    rw [List.forall_mem_append, List.forall_mem_singleton]
    exact ⟨h.going hgoing, hafter⟩
  before := by
    rw [List.dropLast_concat]
    exact h.going hgoing

/-- What noting keeps: a stop that stays is asked for in the last attempt at the earliest. -/
def StopsLastIfStays (depot : Depot σ ε ι) (supply : List (Supply σ ε ι)) (noted : Noted σ ε ι)
    (attempts : List (Attempt (Noted σ ε ι) ι)) : Prop :=
  depot.StaysStopped supply → depot.StopsLast noted.1 attempts

theorem isRecord_note (hsize : 0 < batchSize) (depot : Depot σ ε ι)
    (supply : List (Supply σ ε ι)) (state : σ) :
    let noted := depot.note batchSize supply state
    depot.noting.IsRecord batchSize (supply.flatMap Supply.noted) noted.1 noted.2.1 noted.2.2 ∧
      depot.StopsLastIfStays supply noted.2.1 noted.2.2 := by
  have hstart : depot.StopsLastIfStays supply (state, []) [] :=
    fun _ => ⟨fun _ => List.forall_mem_nil _, List.forall_mem_nil _⟩
  apply isRecord_record hsize hstart
  · intro change hchange before attempts h hstays
    obtain ⟨step, hstep, hnoted⟩ := List.mem_flatMap.1 hchange
    refine (h hstays).event fun hstop => ?_
    cases step with
    | fault e => cases List.mem_singleton.1 hnoted
    | event original =>
      cases List.mem_singleton.1 hnoted
      exact hstays.event original hstep before.1 hstop
    | item i =>
      -- What notes an item leaves the state of the depot alone.
      have heq := (List.mem_cons.1 hnoted).resolve_right (by simp)
      cases heq
      exact hstop
  · intro batch before attempts h _ hgoing _ _ hstays
    exact (h hstays).put ⟨batch, before⟩ hgoing

/-- The course of shipping.  The batches are blocks of the items, from the first one on, of which
only the last may be short, and at each put the items that were taken are those of the batches so
far.  No put begins while a stop is asked for; a stop that is asked for during a put, and stays,
makes it the last one.  A short block is put only when the whole supply was taken, and all blocks
are put if nothing fails and no stop is asked for.  A put that fails is the last one, nothing is
taken after it, and its fault is the result; else the result is the number of puts. -/
structure Course (depot : Depot σ ε ι) (batchSize : Int) (supply : List (Supply σ ε ι)) (state : σ)
    (result : Except ε Nat) (final : Noted σ ε ι) (attempts : List (Attempt (Noted σ ε ι) ι)) :
    Prop where
  ships : depot.ship batchSize supply state = (result, final.1)
  blocks : attempts.map Attempt.batch <+: blocksOf batchSize.toNat (Supply.items supply)
  sized : ∀ attempt ∈ attempts,
    attempt.batch ≠ [] ∧ (attempt.batch.length : Int) ≤ batchSize
  full : ∀ attempt ∈ attempts.dropLast, (attempt.batch.length : Int) = batchSize
  taken : ∀ earlier attempt later, attempts = earlier ++ attempt :: later →
    attempt.before.2 <+: supply ∧
      Supply.items attempt.before.2 = Attempt.items (earlier ++ [attempt])
  going : ∀ attempt ∈ attempts, depot.isStopping attempt.before.1 = false
  stopped : depot.StaysStopped supply → ∀ attempt ∈ attempts.dropLast,
    depot.isStopping (depot.put attempt.batch attempt.before.1).2 = false
  short : ∀ attempt ∈ attempts, (attempt.batch.length : Int) < batchSize →
    attempt.before.2 = supply
  complete : (∀ e, .fault e ∉ supply) →
    (∀ attempt ∈ attempts, (depot.put attempt.batch attempt.before.1).1 = .ok ()) →
    depot.isStopping final.1 = false →
      attempts.map Attempt.batch = blocksOf batchSize.toNat (Supply.items supply)
  failed : ∀ attempt ∈ attempts, ∀ e after,
    depot.put attempt.batch attempt.before.1 = (.error e, after) →
      attempts.getLast? = some attempt ∧ result = .error e ∧ final = (after, attempt.before.2)
  ok : ∀ batches, result = .ok batches → batches = attempts.length
  error : ∀ e, result = .error e → .fault e ∈ supply ∨
    ∃ attempt ∈ attempts, (depot.put attempt.batch attempt.before.1).1 = .error e

theorem course_note (hsize : 0 < batchSize) (depot : Depot σ ε ι) (supply : List (Supply σ ε ι))
    (state : σ) :
    let noted := depot.note batchSize supply state
    depot.Course batchSize supply state noted.1 noted.2.1 noted.2.2 := by
  intro noted
  obtain ⟨hrecord, hstops⟩ := depot.isRecord_note hsize supply state
  have hnoted := depot.areNoted_note hsize supply state
  have hblocks := hrecord.blocks hsize
  have hall := hrecord.eq_blocks hsize
  rw [Supply.items_noted] at hblocks hall
  exact {
    ships := depot.ship_eq_note batchSize supply state
    blocks := hblocks
    sized := hrecord.sized
    full := hrecord.full
    taken := by
      intro earlier attempt later heq
      refine ⟨hnoted.taken_prefix attempt ?_, hnoted.taken earlier attempt later heq⟩
      rw [heq]
      exact List.mem_append_right _ List.mem_cons_self
    going := hrecord.going
    stopped := fun hstays => (hstops hstays).before
    short := hnoted.short
    complete := fun hsupply => hall fun e he => hsupply e (Supply.fault_of_mem_noted he)
    failed := by
      intro attempt hattempt e after hfailed
      exact hrecord.of_failed hattempt (by rw [noting_put, hfailed])
    ok := fun batches hbatches => (hrecord.ok batches hbatches).1
    error := by
      intro e he
      rcases hrecord.error e he with ⟨hfault, -⟩ | ⟨last, hlast, hput⟩
      · exact .inl (Supply.fault_of_mem_noted hfault)
      · exact .inr ⟨last, List.mem_of_getLast? hlast, congrArg Prod.fst hput⟩ }

/-- A depot that takes every batch; its state tells whether a stop is asked for. -/
def sampleDepot : Depot Bool Empty Nat where
  put _ state := (.ok (), state)
  isStopping := id

/-- Three items, and a stop that is asked for when they have been yielded. -/
def sampleSupply : List (Supply Bool Empty Nat) :=
  [.item 0, .item 1, .item 2, .event fun _ => true]

/-- The block that is short is not put, since it is put only behind the stop. -/
theorem sample_course :
    ((sampleDepot.note 2 sampleSupply false).2.2.map Attempt.batch = [[0, 1]] ∧
      sampleDepot.ship 2 sampleSupply false = (.ok 1, true)) ∧
    [[0, 1]] <+: blocksOf 2 [0, 1, 2] := by
  have hcourse := course_note (by decide : (0 : Int) < 2) sampleDepot sampleSupply false
  exact ⟨⟨rfl, hcourse.ships⟩, hcourse.blocks⟩

end Depot

end LogShipper
