import LogShipper.Depot

/-!
# What shipping does to a depot

Whatever a depot is, shipping puts the items of the supply in order, each batch full unless the
supply has ended, and never while a stop is asked for.  `ended_ship` carries an invariant through
all of this; it speaks of the number of batches, the state, and the items that are still to be put.

A depot that records what it is asked to put behaves like the depot itself.
-/

namespace LogShipper

variable {σ ε ι : Type}

/-- The items that a supply yields before its first fault. -/
def Supply.items : List (Supply σ ε ι) → List ι
  | [] => []
  | .item i :: rest => i :: items rest
  | .event _ :: rest => items rest
  | .fault _ :: _ => []

/-- A batch that a depot is asked to put, and the state in which it is. -/
structure Attempt (σ ι : Type) where
  batch : List ι
  before : σ

def Attempt.items (attempts : List (Attempt σ ι)) : List ι :=
  attempts.flatMap Attempt.batch

theorem Attempt.items_append (attempts : List (Attempt σ ι)) (last : Attempt σ ι) :
    Attempt.items (attempts ++ [last]) = Attempt.items attempts ++ last.batch := by
  rw [Attempt.items, List.flatMap_append, List.flatMap_singleton]
  rfl

theorem Attempt.length_le_length_items {attempts : List (Attempt σ ι)}
    (h : ∀ attempt ∈ attempts, attempt.batch ≠ []) : attempts.length ≤ (items attempts).length := by
  induction attempts with
  | nil => exact Nat.le_refl _
  | cons attempt attempts ih =>
    rw [List.forall_mem_cons] at h
    have hfirst := List.length_pos_iff.2 h.1
    have hrest := ih h.2
    rw [items, List.flatMap_cons, List.length_append, List.length_cons]
    rw [items] at hrest
    omega

/-- The supply for a state in which attempts are recorded. -/
def Supply.recorded : Supply σ ε ι → Supply (σ × List (Attempt σ ι)) ε ι
  | .item i => .item i
  | .event change => .event fun (state, attempts) => (change state, attempts)
  | .fault e => .fault e

theorem Supply.items_recorded (supply : List (Supply σ ε ι)) :
    items (supply.map recorded) = items supply := by
  induction supply with
  | nil => rfl
  | cons step rest ih =>
    cases step with
    | item i => exact congrArg (i :: ·) ih
    | event change => exact ih
    | fault e => rfl

/-- One supply as a view of the state shows another.  Items and faults are the same; between them
each event does what the shown one does, or the view does not show it. -/
inductive Supply.Shows {σ τ ε ι : Type} (view : τ → σ) :
    List (Supply τ ε ι) → List (Supply σ ε ι) → Prop
  | nil : Shows view [] []
  | item (i : ι) {steps : List (Supply τ ε ι)} {shown : List (Supply σ ε ι)}
      (h : Shows view steps shown) : Shows view (.item i :: steps) (.item i :: shown)
  | event {wide : τ → τ} {change : σ → σ} {steps : List (Supply τ ε ι)}
      {shown : List (Supply σ ε ι)} (hchange : ∀ state, view (wide state) = change (view state))
      (h : Shows view steps shown) : Shows view (.event wide :: steps) (.event change :: shown)
  | hidden {change : τ → τ} {steps : List (Supply τ ε ι)} {shown : List (Supply σ ε ι)}
      (hchange : ∀ state, view (change state) = view state) (h : Shows view steps shown) :
      Shows view (.event change :: steps) shown
  | fault (e : ε) {steps : List (Supply τ ε ι)} {shown : List (Supply σ ε ι)} :
      Shows view (.fault e :: steps) (.fault e :: shown)

namespace Depot

/-! ## 1. Invariants -/

/-- Whether a batch may be put when other items are to come after it: it is not empty, and it has
the size of a batch, or less if none comes. -/
structure IsBatch (batchSize : Int) (batch rest : List ι) : Prop where
  ne_nil : batch ≠ []
  length_le : (batch.length : Int) ≤ batchSize
  full : rest ≠ [] → (batch.length : Int) = batchSize

/-- How an invariant fares in a depot.  It holds of the number of batches put, the state, and the
items to come; events and batches keep it, and what fails satisfies a property of its own. -/
structure Carries (depot : Depot σ ε ι) (batchSize : Int) (supply : List (Supply σ ε ι))
    (inv : Nat → σ → List ι → Prop) (failed : ε → σ → Prop) : Prop where
  event : ∀ change, .event change ∈ supply → ∀ batches state coming,
    inv batches state coming → inv batches (change state) coming
  fault : ∀ e, .fault e ∈ supply → ∀ batches state coming,
    inv batches state coming → failed e state
  put : ∀ batch rest batches state after, inv batches state (batch ++ rest) →
    depot.isStopping state = false → IsBatch batchSize batch rest →
    depot.put batch state = (.ok (), after) → inv (batches + 1) after rest
  fail : ∀ batch rest batches state e after, inv batches state (batch ++ rest) →
    depot.isStopping state = false → IsBatch batchSize batch rest →
    depot.put batch state = (.error e, after) → failed e after

/-- What is known when shipping has ended: all items were put, or a stop was asked for, or something
failed. -/
def Ended (depot : Depot σ ε ι) (inv : Nat → σ → List ι → Prop) (failed : ε → σ → Prop) :
    Except ε Nat × σ → Prop
  | (.ok batches, state) =>
    inv batches state [] ∨ depot.isStopping state = true ∧ ∃ coming, inv batches state coming
  | (.error e, state) => failed e state

variable {depot : Depot σ ε ι} {batchSize : Int} {supply rest : List (Supply σ ε ι)}
  {inv : Nat → σ → List ι → Prop} {failed : ε → σ → Prop}

theorem Carries.tail {step : Supply σ ε ι}
    (h : depot.Carries batchSize (step :: rest) inv failed) :
    depot.Carries batchSize rest inv failed where
  event change hc := h.event change (List.mem_cons_of_mem _ hc)
  fault e he := h.fault e (List.mem_cons_of_mem _ he)
  put := h.put
  fail := h.fail

theorem ended_putThen (h : depot.Carries batchSize supply inv failed) {batch coming : List ι}
    {batches : Nat} {state : σ} {next : Nat → σ → Except ε Nat × σ}
    (hinv : inv batches state (batch ++ coming)) (hgoing : depot.isStopping state = false)
    (hbatch : IsBatch batchSize batch coming)
    (hnext : ∀ after, inv (batches + 1) after coming →
      depot.Ended inv failed (next (batches + 1) after)) :
    depot.Ended inv failed (depot.putThen batch batches state next) := by
  unfold putThen
  split
  next e after hput => exact h.fail batch coming batches state e after hinv hgoing hbatch hput
  next after hput =>
    exact hnext after (h.put batch coming batches state after hinv hgoing hbatch hput)

theorem ended_shipFrom (h : depot.Carries batchSize supply inv failed) {waiting : List ι}
    {batches : Nat} {state : σ} (hinv : inv batches state (waiting ++ Supply.items supply))
    (hwaiting : (waiting.length : Int) < batchSize) :
    depot.Ended inv failed (depot.shipFrom batchSize waiting batches state supply) := by
  -- By induction on the supply.  The items that wait are part of those that are to come.
  induction supply generalizing waiting batches state with
  | nil =>
    rw [shipFrom]
    split
    next hend =>
      rcases Bool.or_eq_true _ _ ▸ hend with hempty | hstop
      · rw [List.isEmpty_iff.1 hempty] at hinv
        exact .inl hinv
      · exact .inr ⟨hstop, _, hinv⟩
    next hgo =>
      simp only [Bool.or_eq_true, not_or, Bool.not_eq_true, List.isEmpty_eq_false_iff] at hgo
      -- The last batch may be short, since nothing comes after it.
      have hbatch : IsBatch batchSize waiting [] :=
        ⟨hgo.1, Int.le_of_lt hwaiting, fun hne => absurd rfl hne⟩
      exact ended_putThen h hinv hgo.2 hbatch fun after hafter => .inl hafter
  | cons step rest ih =>
    cases step with
    | event change =>
      rw [shipFrom]
      exact ih h.tail (h.event change List.mem_cons_self _ _ _ hinv) hwaiting
    | fault e => exact h.fault e List.mem_cons_self _ _ _ hinv
    | item i =>
      rw [shipFrom]
      have hitems : waiting ++ Supply.items (.item i :: rest) =
          (waiting ++ [i]) ++ Supply.items rest := by simp [Supply.items]
      rw [hitems] at hinv
      split
      next hstop => exact .inr ⟨hstop, _, hinv⟩
      next hgo =>
        split
        next hmore => exact ih h.tail hinv (by simpa using hmore)
        next hfull =>
          have hlength : ((waiting ++ [i]).length : Int) = batchSize := by
            simp only [List.length_append, List.length_singleton]
            omega
          -- One item less was not a batch yet, so that the size is met exactly.
          have hbatch : IsBatch batchSize (waiting ++ [i]) (Supply.items rest) :=
            ⟨by simp, Int.le_of_eq hlength, fun _ => hlength⟩
          refine ended_putThen h hinv (Bool.not_eq_true _ ▸ hgo) hbatch fun after hafter => ?_
          exact ih h.tail hafter (by simp; omega)

theorem ended_ship (h : depot.Carries batchSize supply inv failed) (hsize : 0 < batchSize)
    {state : σ} (hinv : inv 0 state (Supply.items supply)) :
    depot.Ended inv failed (depot.ship batchSize supply state) :=
  ended_shipFrom h hinv (by simpa using hsize)

/-! ## 2. Views -/

variable {τ : Type} {wide : Depot τ ε ι} {view : τ → σ}

/-- A depot that does what another one does, as far as a view of its state shows. -/
structure Shows (wide : Depot τ ε ι) (depot : Depot σ ε ι) (view : τ → σ) : Prop where
  put : ∀ batch state, Prod.map id view (wide.put batch state) = depot.put batch (view state)
  isStopping : ∀ state, wide.isStopping state = depot.isStopping (view state)

theorem Shows.putThen (h : wide.Shows depot view) {batch : List ι} {batches : Nat} {state : τ}
    {next : Nat → τ → Except ε Nat × τ} {shown : Nat → σ → Except ε Nat × σ}
    (hnext : ∀ batches after, Prod.map id view (next batches after) = shown batches (view after)) :
    Prod.map id view (wide.putThen batch batches state next) =
      depot.putThen batch batches (view state) shown := by
  rw [Depot.putThen, Depot.putThen, ← h.put]
  rcases wide.put batch state with ⟨_ | ⟨⟩, after⟩
  · rfl
  · exact hnext _ _

/-- What is shown of shipping is what the shown depot does. -/
theorem Shows.shipFrom (h : wide.Shows depot view) {steps : List (Supply τ ε ι)}
    (hsteps : Supply.Shows view steps supply) (waiting : List ι) (batches : Nat) (state : τ) :
    Prod.map id view (wide.shipFrom batchSize waiting batches state steps) =
      depot.shipFrom batchSize waiting batches (view state) supply := by
  -- Both go through the supply alike; what is hidden decides nothing.
  induction hsteps generalizing waiting batches state with
  | nil =>
    rw [Depot.shipFrom, Depot.shipFrom, h.isStopping]
    split
    · rfl
    · exact h.putThen fun _ _ => rfl
  | event hchange _ ih =>
    rw [Depot.shipFrom, Depot.shipFrom, ih, hchange]
  | hidden hchange _ ih =>
    rw [Depot.shipFrom, ih, hchange]
  | fault e => rfl
  | item i _ ih =>
    rw [Depot.shipFrom, Depot.shipFrom, h.isStopping]
    split
    · rfl
    · split
      · exact ih _ _ _
      · exact h.putThen fun batches after => ih [] batches after

/-! ## 3. Recording -/

/-- The depot, which also keeps what it is asked to put. -/
def recording (depot : Depot σ ε ι) : Depot (σ × List (Attempt σ ι)) ε ι where
  put := fun batch (state, attempts) =>
    let (result, after) := depot.put batch state
    (result, after, attempts ++ [⟨batch, state⟩])
  isStopping := fun (state, _) => depot.isStopping state

/-- What is recorded when a supply is shipped: the batches that were put, and with what result and
in which state it ended. -/
def record (depot : Depot σ ε ι) (batchSize : Int) (supply : List (Supply σ ε ι)) (state : σ) :
    Except ε Nat × σ × List (Attempt σ ι) :=
  depot.recording.ship batchSize (supply.map .recorded) (state, [])

/-- Whether a batch was put without a fault. -/
def accepts (depot : Depot σ ε ι) (attempt : Attempt σ ι) : Bool :=
  match depot.put attempt.batch attempt.before with
  | (.ok (), _) => true
  | (.error _, _) => false

def erase (ended : Except ε Nat × σ × List (Attempt σ ι)) : Except ε Nat × σ :=
  (ended.1, ended.2.1)

theorem accepts_of_error {attempt : Attempt σ ι} {e : ε} {after : σ}
    (h : depot.put attempt.batch attempt.before = (.error e, after)) :
    depot.accepts attempt = false := by
  rw [accepts, h]

theorem shows_recording (depot : Depot σ ε ι) : depot.recording.Shows depot Prod.fst where
  put _ _ := rfl
  isStopping _ := rfl

theorem shows_recorded (supply : List (Supply σ ε ι)) :
    Supply.Shows Prod.fst (supply.map (.recorded (σ := σ))) supply := by
  induction supply with
  | nil => exact .nil
  | cons step rest ih =>
    cases step with
    | item i => exact .item i ih
    | event change => exact .event (fun _ => rfl) ih
    | fault e => exact .fault e

/-- Recording changes nothing. -/
theorem erase_record (supply : List (Supply σ ε ι)) (state : σ) :
    erase (depot.record batchSize supply state) = depot.ship batchSize supply state :=
  depot.shows_recording.shipFrom (shows_recorded supply) [] 0 (state, [])

/-! ## 4. Blocks -/

/-- How a record comes out.  The batches are blocks of the items, one after the other from the
first; all but the last are full and were accepted, and none was put while a stop was asked for. -/
structure IsRecord (depot : Depot σ ε ι) (batchSize : Int) (supply : List (Supply σ ε ι))
    (result : Except ε Nat) (final : σ) (attempts : List (Attempt σ ι)) : Prop where
  items_prefix : Attempt.items attempts <+: Supply.items supply
  sized : ∀ attempt ∈ attempts, attempt.batch ≠ [] ∧ (attempt.batch.length : Int) ≤ batchSize
  full : ∀ attempt ∈ attempts.dropLast, (attempt.batch.length : Int) = batchSize
  accepted : ∀ attempt ∈ attempts.dropLast, depot.accepts attempt = true
  short : ∀ attempt ∈ attempts, (attempt.batch.length : Int) < batchSize →
    Attempt.items attempts = Supply.items supply
  going : ∀ attempt ∈ attempts, depot.isStopping attempt.before = false
  ok : ∀ batches, result = .ok batches → batches = attempts.length ∧
    (∀ attempt ∈ attempts, depot.accepts attempt = true) ∧
    (Attempt.items attempts = Supply.items supply ∨ depot.isStopping final = true)
  error : ∀ e, result = .error e →
    (.fault e ∈ supply ∧ ∀ attempt ∈ attempts, depot.accepts attempt = true) ∨
    ∃ last, attempts.getLast? = some last ∧ depot.put last.batch last.before = (.error e, final)

/-- An attempt that failed is the last one, and shipping ends as it did. -/
theorem IsRecord.of_failed {result : Except ε Nat} {final after : σ}
    {attempts : List (Attempt σ ι)} {attempt : Attempt σ ι} {e : ε}
    (h : depot.IsRecord batchSize supply result final attempts) (hattempt : attempt ∈ attempts)
    (hfailed : depot.put attempt.batch attempt.before = (.error e, after)) :
    attempts.getLast? = some attempt ∧ result = .error e ∧ final = after := by
  have hrefused := accepts_of_error hfailed
  have haccepted (hall : ∀ attempt ∈ attempts, depot.accepts attempt = true) : False := by
    rw [hall attempt hattempt] at hrefused
    cases hrefused
  cases result with
  | ok batches => exact (haccepted (h.ok batches rfl).2.1).elim
  | error other =>
    rcases h.error other rfl with ⟨-, hall⟩ | ⟨last, hlast, hput⟩
    · exact (haccepted hall).elim
    · obtain ⟨before, rfl⟩ := List.getLast?_eq_some_iff.1 hlast
      have hbefore := h.accepted
      rw [List.dropLast_concat] at hbefore
      rw [List.mem_append, List.mem_singleton] at hattempt
      obtain rfl : attempt = last := by
        refine hattempt.resolve_left fun hearlier => ?_
        rw [hbefore attempt hearlier] at hrefused
        cases hrefused
      obtain ⟨he, hfinal⟩ := Prod.mk.inj (hput.symm.trans hfailed)
      exact ⟨hlast, congrArg Except.error (Except.error.inj he), hfinal⟩

/-- What holds of the attempts as long as each one succeeds. -/
structure IsPartial (depot : Depot σ ε ι) (batchSize : Int) (items : List ι) (batches : Nat)
    (attempts : List (Attempt σ ι)) (coming : List ι) : Prop where
  count : batches = attempts.length
  items_append : Attempt.items attempts ++ coming = items
  sized : ∀ attempt ∈ attempts, attempt.batch ≠ [] ∧ (attempt.batch.length : Int) ≤ batchSize
  full : ∀ attempt ∈ attempts.dropLast, (attempt.batch.length : Int) = batchSize
  full_of_coming : coming ≠ [] → ∀ attempt ∈ attempts, (attempt.batch.length : Int) = batchSize
  going : ∀ attempt ∈ attempts, depot.isStopping attempt.before = false
  accepted : ∀ attempt ∈ attempts, depot.accepts attempt = true

variable {items coming : List ι} {batches : Nat} {attempts : List (Attempt σ ι)}

theorem IsPartial.full_of_isBatch {batch rest : List ι}
    (h : depot.IsPartial batchSize items batches attempts (batch ++ rest))
    (hbatch : IsBatch batchSize batch rest) :
    ∀ attempt ∈ attempts, (attempt.batch.length : Int) = batchSize :=
  h.full_of_coming (by simp [hbatch.ne_nil])

theorem IsPartial.sized_append {batch rest : List ι}
    (h : depot.IsPartial batchSize items batches attempts (batch ++ rest))
    (hbatch : IsBatch batchSize batch rest) (before : σ) :
    ∀ attempt ∈ attempts ++ [⟨batch, before⟩],
      attempt.batch ≠ [] ∧ (attempt.batch.length : Int) ≤ batchSize := by
  intro attempt ha
  rcases List.mem_append.1 ha with ha | ha
  · exact h.sized attempt ha
  · rw [List.mem_singleton.1 ha]
    exact ⟨hbatch.ne_nil, hbatch.length_le⟩

theorem IsPartial.going_append {batch rest : List ι} {before : σ}
    (h : depot.IsPartial batchSize items batches attempts (batch ++ rest))
    (hgoing : depot.isStopping before = false) :
    ∀ attempt ∈ attempts ++ [⟨batch, before⟩], depot.isStopping attempt.before = false := by
  intro attempt ha
  rcases List.mem_append.1 ha with ha | ha
  · exact h.going attempt ha
  · rw [List.mem_singleton.1 ha]
    exact hgoing

theorem IsPartial.put {batch rest : List ι} {before after : σ}
    (h : depot.IsPartial batchSize items batches attempts (batch ++ rest))
    (hgoing : depot.isStopping before = false) (hbatch : IsBatch batchSize batch rest)
    (hput : depot.put batch before = (.ok (), after)) :
    depot.IsPartial batchSize items (batches + 1) (attempts ++ [⟨batch, before⟩]) rest where
  count := by rw [h.count, List.length_append, List.length_singleton]
  items_append := by rw [Attempt.items_append, List.append_assoc, h.items_append]
  sized := h.sized_append hbatch before
  full := by
    rw [List.dropLast_concat]
    exact h.full_of_isBatch hbatch
  full_of_coming hrest attempt ha := by
    rcases List.mem_append.1 ha with ha | ha
    · exact h.full_of_isBatch hbatch attempt ha
    · rw [List.mem_singleton.1 ha]
      exact hbatch.full hrest
  going := h.going_append hgoing
  accepted attempt ha := by
    rcases List.mem_append.1 ha with ha | ha
    · exact h.accepted attempt ha
    · rw [List.mem_singleton.1 ha, accepts, hput]

theorem IsPartial.items_of_short
    (h : depot.IsPartial batchSize (Supply.items supply) batches attempts coming) :
    ∀ attempt ∈ attempts, (attempt.batch.length : Int) < batchSize →
      Attempt.items attempts = Supply.items supply := by
  intro attempt ha hshort
  by_cases hcoming : coming = []
  · rw [← h.items_append, hcoming, List.append_nil]
  · exact absurd (h.full_of_coming hcoming attempt ha) (Int.ne_of_lt hshort)

theorem IsPartial.isRecord_ok {final : σ}
    (h : depot.IsPartial batchSize (Supply.items supply) batches attempts coming)
    (hend : coming = [] ∨ depot.isStopping final = true) :
    depot.IsRecord batchSize supply (.ok batches) final attempts where
  items_prefix := ⟨coming, h.items_append⟩
  sized := h.sized
  full := h.full
  accepted attempt ha := h.accepted attempt ((List.dropLast_sublist attempts).subset ha)
  short := h.items_of_short
  going := h.going
  ok k hk := by
    cases hk
    refine ⟨h.count, h.accepted, hend.imp_left fun hcoming => ?_⟩
    rw [← h.items_append, hcoming, List.append_nil]
  error e he := nomatch he

theorem IsPartial.isRecord_fault {final : σ} {e : ε}
    (h : depot.IsPartial batchSize (Supply.items supply) batches attempts coming)
    (he : .fault e ∈ supply) :
    depot.IsRecord batchSize supply (.error e) final attempts where
  items_prefix := ⟨coming, h.items_append⟩
  sized := h.sized
  full := h.full
  accepted attempt ha := h.accepted attempt ((List.dropLast_sublist attempts).subset ha)
  short := h.items_of_short
  going := h.going
  ok k hk := nomatch hk
  error e' he' := by
    cases he'
    exact .inl ⟨he, h.accepted⟩

theorem IsPartial.isRecord_fail {batch rest : List ι} {before after : σ} {e : ε}
    (h : depot.IsPartial batchSize (Supply.items supply) batches attempts (batch ++ rest))
    (hgoing : depot.isStopping before = false) (hbatch : IsBatch batchSize batch rest)
    (hput : depot.put batch before = (.error e, after)) :
    depot.IsRecord batchSize supply (.error e) after (attempts ++ [⟨batch, before⟩]) where
  items_prefix := ⟨rest, by rw [Attempt.items_append, List.append_assoc, h.items_append]⟩
  sized := h.sized_append hbatch before
  full := by
    rw [List.dropLast_concat]
    exact h.full_of_isBatch hbatch
  accepted := by
    rw [List.dropLast_concat]
    exact h.accepted
  short attempt ha hshort := by
    by_cases hrest : rest = []
    · rw [Attempt.items_append, ← h.items_append, hrest, List.append_nil]
    · rcases List.mem_append.1 ha with ha | ha
      · exact absurd (h.full_of_isBatch hbatch attempt ha) (Int.ne_of_lt hshort)
      · rw [List.mem_singleton.1 ha] at hshort
        exact absurd (hbatch.full hrest) (Int.ne_of_lt hshort)
  going := h.going_append hgoing
  ok k hk := nomatch hk
  error e' he' := by
    cases he'
    exact .inr ⟨⟨batch, before⟩, List.getLast?_concat, hput⟩

/-- What holds while shipping goes on, together with an invariant of the state and the attempts. -/
def IsPartialWith (depot : Depot σ ε ι) (batchSize : Int) (items : List ι)
    (kept : σ → List (Attempt σ ι) → Prop) : Nat → σ × List (Attempt σ ι) → List ι → Prop
  | batches, (state, attempts), coming =>
    depot.IsPartial batchSize items batches attempts coming ∧ kept state attempts

/-- How a record comes out, together with an invariant of the state and the attempts. -/
def IsRecordWith (depot : Depot σ ε ι) (batchSize : Int) (supply : List (Supply σ ε ι))
    (kept : σ → List (Attempt σ ι) → Prop) (result : Except ε Nat) :
    σ × List (Attempt σ ι) → Prop
  | (final, attempts) =>
    depot.IsRecord batchSize supply result final attempts ∧ kept final attempts

/-- What events and attempts keep is kept while a supply is shipped, also by what fails. -/
theorem carries_recording {kept : σ → List (Attempt σ ι) → Prop}
    (hevent : ∀ change, .event change ∈ supply → ∀ state attempts,
      kept state attempts → kept (change state) attempts)
    (hput : ∀ batch before attempts, kept before attempts →
      (∀ attempt ∈ attempts, depot.accepts attempt = true) → depot.isStopping before = false →
      batch ≠ [] → (∀ i ∈ batch, i ∈ Supply.items supply) →
      kept (depot.put batch before).2 (attempts ++ [⟨batch, before⟩])) :
    depot.recording.Carries batchSize (supply.map .recorded)
      (depot.IsPartialWith batchSize (Supply.items supply) kept)
      fun e => depot.IsRecordWith batchSize supply kept (.error e) := by
  -- Whether a batch fails or not, what is kept is kept.
  have hattempt {batch rest : List ι} {batches : Nat} {before : σ} {attempts : List (Attempt σ ι)}
      (h : depot.IsPartial batchSize (Supply.items supply) batches attempts (batch ++ rest))
      (hkept : kept before attempts) (hgoing : depot.isStopping before = false)
      (hbatch : IsBatch batchSize batch rest) :
      kept (depot.put batch before).2 (attempts ++ [⟨batch, before⟩]) := by
    refine hput batch before attempts hkept h.accepted hgoing hbatch.ne_nil fun i hi => ?_
    rw [← h.items_append]
    exact List.mem_append_right _ (List.mem_append_left _ hi)
  constructor
  case event =>
    rintro change hmem batches ⟨state, attempts⟩ coming ⟨h, hkept⟩
    obtain ⟨step, hstep, heq⟩ := List.mem_map.1 hmem
    cases step with
    | event original =>
      cases heq
      exact ⟨h, hevent original hstep _ _ hkept⟩
    | item i => cases heq
    | fault e => cases heq
  case fault =>
    rintro e hmem batches ⟨state, attempts⟩ coming ⟨h, hkept⟩
    obtain ⟨step, hstep, heq⟩ := List.mem_map.1 hmem
    cases step with
    | event original => cases heq
    | item i => cases heq
    | fault e' =>
      cases heq
      exact ⟨h.isRecord_fault hstep, hkept⟩
  case put =>
    rintro batch rest batches ⟨before, attempts⟩ after ⟨h, hkept⟩ hgoing hbatch heq
    obtain ⟨hresult, rfl⟩ := Prod.mk.inj heq
    exact ⟨h.put hgoing hbatch (Prod.ext hresult rfl), hattempt h hkept hgoing hbatch⟩
  case fail =>
    rintro batch rest batches ⟨before, attempts⟩ e after ⟨h, hkept⟩ hgoing hbatch heq
    obtain ⟨hresult, rfl⟩ := Prod.mk.inj heq
    exact ⟨h.isRecord_fail hgoing hbatch (Prod.ext hresult rfl), hattempt h hkept hgoing hbatch⟩

/-- The record of shipping a supply, with an invariant that events and attempts keep. -/
theorem isRecord_record {kept : σ → List (Attempt σ ι) → Prop} (hsize : 0 < batchSize) {state : σ}
    (hstart : kept state [])
    (hevent : ∀ change, .event change ∈ supply → ∀ state attempts,
      kept state attempts → kept (change state) attempts)
    (hput : ∀ batch before attempts, kept before attempts →
      (∀ attempt ∈ attempts, depot.accepts attempt = true) → depot.isStopping before = false →
      batch ≠ [] → (∀ i ∈ batch, i ∈ Supply.items supply) →
      kept (depot.put batch before).2 (attempts ++ [⟨batch, before⟩])) :
    depot.IsRecord batchSize supply (depot.record batchSize supply state).1
        (depot.record batchSize supply state).2.1 (depot.record batchSize supply state).2.2 ∧
      kept (depot.record batchSize supply state).2.1 (depot.record batchSize supply state).2.2 := by
  have hnone : depot.IsPartial batchSize (Supply.items supply) 0 [] (Supply.items supply) := by
    constructor <;> simp [Attempt.items]
  have hinv : depot.IsPartialWith batchSize (Supply.items supply) kept 0 (state, [])
      (Supply.items (supply.map .recorded)) := by
    rw [Supply.items_recorded]
    exact ⟨hnone, hstart⟩
  have hended := ended_ship (carries_recording hevent hput) hsize hinv
  change depot.recording.Ended _ _ (depot.record batchSize supply state) at hended
  generalize depot.record batchSize supply state = ended at hended ⊢
  -- Shipping ends with a fault, with nothing left to put, or with a stop.
  obtain ⟨_ | batches, final, attempts⟩ := ended
  · exact hended
  · obtain h | ⟨hstop, coming, h⟩ := hended
    · exact ⟨h.1.isRecord_ok (.inl rfl), h.2⟩
    · exact ⟨h.1.isRecord_ok (.inr hstop), h.2⟩

end Depot

end LogShipper
