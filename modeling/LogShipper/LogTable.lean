import LogShipper.Event

/-!
# The table of log keys

A table gives each log key of a batch the number of its row.  It keeps the keys in the order in
which they were first added, so the id of a key is its place in that list; beside the list stands an
index in which the place of a key is looked up.
-/

namespace LogShipper

theorem lookup_zipIdx_from (keys : List LogKey) (start : Nat) (key : LogKey) :
    (keys.zipIdx start).lookup key = (keys.idxOf? key).map (· + start) := by
  induction keys generalizing start with
  | nil => rfl
  | cons first keys ih =>
    rw [List.zipIdx_cons, List.lookup_cons, List.idxOf?_cons, ih, BEq.comm (a := first)]
    cases key == first with
    | true => simp
    | false =>
      cases keys.idxOf? key with
      | none => rfl
      | some id => simp; omega

/-- Among all keys with their places the first place of a key is found. -/
theorem lookup_zipIdx (keys : List LogKey) (key : LogKey) :
    keys.zipIdx.lookup key = keys.idxOf? key := by
  simpa using lookup_zipIdx_from keys 0 key

/-- The keys, and an index in which their places are found. -/
structure LogTable where
  keys : List LogKey
  index : List (LogKey × Nat) := keys.zipIdx
  lookup_index : ∀ key, index.lookup key = keys.idxOf? key := by
    exact LogShipper.lookup_zipIdx _
  deriving DecidableEq, Repr

namespace LogTable

def empty : LogTable where
  keys := []

def size (table : LogTable) : Nat :=
  table.keys.length

/-- The id of a key that was added. -/
def id? (table : LogTable) (key : LogKey) : Option Nat :=
  table.index.lookup key

theorem id?_eq_none_iff {table : LogTable} {key : LogKey} :
    table.id? key = none ↔ key ∉ table.keys := by
  rw [id?, table.lookup_index, List.idxOf?_eq_none_iff]

theorem mem_keys_iff {table : LogTable} {key : LogKey} :
    key ∈ table.keys ↔ ∃ id, table.id? key = some id := by
  cases h : table.id? key with
  | none => exact ⟨fun hkey => absurd hkey (id?_eq_none_iff.1 h), nofun⟩
  | some id =>
    refine ⟨fun _ => ⟨id, rfl⟩, fun _ => Decidable.byContradiction fun hkey => ?_⟩
    rw [id?_eq_none_iff.2 hkey] at h
    cases h

/-- A key is found at a place where it stands. -/
theorem getElem?_of_id? {table : LogTable} {key : LogKey} {id : Nat}
    (h : table.id? key = some id) : table.keys[id]? = some key := by
  rw [id?, table.lookup_index] at h
  obtain ⟨hlt, hkey, -⟩ := List.idxOf?_eq_some_iff.1 h
  rw [List.getElem?_eq_getElem hlt, hkey]

/-- A table with one more key behind all others. -/
def push (table : LogTable) (key : LogKey) : LogTable where
  keys := table.keys ++ [key]
  index := table.index ++ [(key, table.size)]
  lookup_index := by
    intro sought
    rw [List.lookup_append, table.lookup_index, List.idxOf?, List.findIdx?_append,
      List.findIdx?_singleton, List.lookup_cons, BEq.comm]
    cases key == sought <;> simp [size]

@[simp] theorem keys_push (table : LogTable) (key : LogKey) :
    (table.push key).keys = table.keys ++ [key] := rfl

@[simp] theorem index_push (table : LogTable) (key : LogKey) :
    (table.push key).index = table.index ++ [(key, table.size)] := rfl

/-- The id of a key and the table that holds it: a new key gets the next id. -/
def add (table : LogTable) (key : LogKey) : Nat × LogTable :=
  match table.id? key with
  | some id => (id, table)
  | none => (table.size, table.push key)

/-- The id of the key of an event. -/
def idFor? (table : LogTable) (event : Event) : Option Nat :=
  table.id? event.logKey

/-- The rows, by ascending id. -/
def entries (table : LogTable) : List LogEntry :=
  table.keys.zipIdx.map fun (key, id) => .ofKey id key

/-- The table that results from adding keys in order. -/
def ofKeys (keys : List LogKey) : LogTable :=
  keys.foldl (fun table key => (table.add key).2) empty

/-- The table of the keys of some events. -/
def ofEvents (events : List Event) : LogTable :=
  ofKeys (events.map Event.logKey)

theorem add_of_id? {table : LogTable} {key : LogKey} {id : Nat} (h : table.id? key = some id) :
    table.add key = (id, table) := by
  rw [add, h]

theorem add_of_mem {table : LogTable} {key : LogKey} (h : key ∈ table.keys) :
    (table.add key).2 = table := by
  obtain ⟨id, hid⟩ := mem_keys_iff.1 h
  rw [add_of_id? hid]

theorem add_of_not_mem {table : LogTable} {key : LogKey} (h : key ∉ table.keys) :
    table.add key = (table.size, table.push key) := by
  rw [add, id?_eq_none_iff.2 h]

end LogTable

end LogShipper
