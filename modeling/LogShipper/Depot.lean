/-!
# Shipping a supply in batches

A supply yields items one by one, and between them something may happen.  The items are put in
batches of a given size, and a last short one when the supply ends.  As soon as a stop is asked for
no further batch is put: the items that wait, and the item just yielded, are dropped.

The state on which batches are put is left open; so are the reasons for which putting fails, or
the supply does.
-/

namespace LogShipper

/-- What a supply does next: yields an item, changes the state, or fails. -/
inductive Supply (σ ε ι : Type) where
  | item (i : ι)
  | event (change : σ → σ)
  | fault (e : ε)

/-- How batches are put, and when a stop is asked for. -/
structure Depot (σ ε ι : Type) where
  put : List ι → σ → Except ε Unit × σ
  isStopping : σ → Bool

namespace Depot

variable {σ ε ι : Type}

/-- Puts a batch and goes on with the number of batches put, if that succeeds. -/
def putThen (depot : Depot σ ε ι) (batch : List ι) (batches : Nat) (state : σ)
    (next : Nat → σ → Except ε Nat × σ) : Except ε Nat × σ :=
  match depot.put batch state with
  | (.error e, state) => (.error e, state)
  | (.ok (), state) => next (batches + 1) state

/-- Ships what the supply still yields, given the items that wait and the number of batches put. -/
def shipFrom (depot : Depot σ ε ι) (batchSize : Int) (waiting : List ι) (batches : Nat)
    (state : σ) : List (Supply σ ε ι) → Except ε Nat × σ
  | [] =>
    if waiting.isEmpty || depot.isStopping state then (.ok batches, state)
    else depot.putThen waiting batches state fun batches state => (.ok batches, state)
  | .event change :: rest => shipFrom depot batchSize waiting batches (change state) rest
  | .fault e :: _ => (.error e, state)
  | .item i :: rest =>
    if depot.isStopping state then (.ok batches, state)
    else if (waiting.length + 1 : Int) < batchSize then
      shipFrom depot batchSize (waiting ++ [i]) batches state rest
    else
      depot.putThen (waiting ++ [i]) batches state fun batches state =>
        shipFrom depot batchSize [] batches state rest

/-- Ships a supply; the answer is the number of batches put. -/
def ship (depot : Depot σ ε ι) (batchSize : Int) (supply : List (Supply σ ε ι)) (state : σ) :
    Except ε Nat × σ :=
  depot.shipFrom batchSize [] 0 state supply

end Depot

end LogShipper
