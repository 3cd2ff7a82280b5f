import LogShipper.LogTable
import Mathlib.Data.Finset.Card
import Mathlib.Data.List.Infix

/-!
# The list and the index of a log table

A table holds its keys twice: in a list, by place, and in an index, by key.  Whatever calls are made
on an empty table, each key stands in the list once and the index holds exactly its place; so the id
of a key is its own, and stays what it was when the key was first added.
-/

namespace LogShipper

/-! ## 1. Adding keys -/

namespace LogTable

/-- Tables that hold the keys that were added, each in one place, and in the index these places. -/
structure Holds (table : LogTable) (added : List LogKey) : Prop where
  nodup : table.keys.Nodup
  index_eq : table.index = table.keys.zipIdx
  mem_keys : ∀ key, key ∈ table.keys ↔ key ∈ added

variable {table later : LogTable} {added : List LogKey} {key : LogKey} {id : Nat}

theorem holds_empty : empty.Holds [] :=
  ⟨List.nodup_nil, rfl, fun _ => Iff.rfl⟩

theorem Holds.push (h : table.Holds added) (hkey : key ∉ table.keys) :
    (table.push key).Holds (added ++ [key]) where
  nodup := by
    rw [keys_push, List.nodup_append_comm]
    exact List.nodup_cons.2 ⟨hkey, h.nodup⟩
  index_eq := by
    rw [index_push, keys_push, List.zipIdx_append, h.index_eq, size, Nat.zero_add]
    rfl
  mem_keys := fun other => by
    rw [keys_push, List.mem_append, List.mem_append, h.mem_keys]

theorem Holds.add (h : table.Holds added) (key : LogKey) :
    (table.add key).2.Holds (added ++ [key]) := by
  by_cases hkey : key ∈ table.keys
  · rw [add_of_mem hkey]
    refine ⟨h.nodup, h.index_eq, fun other => ?_⟩
    -- The key is no new one.
    rw [List.mem_append, List.mem_singleton, h.mem_keys, or_iff_left_of_imp]
    rintro rfl
    exact (h.mem_keys other).1 hkey
  · rw [add_of_not_mem hkey]
    exact h.push hkey

theorem Holds.size_eq (h : table.Holds added) : table.size = added.toFinset.card := by
  have hkeys : table.keys.toFinset = added.toFinset :=
    Finset.ext fun key => by rw [List.mem_toFinset, List.mem_toFinset, h.mem_keys]
  rw [← hkeys, List.toFinset_card_of_nodup h.nodup, size]

/-- The id of a key is the place where it stands. -/
theorem Holds.id?_eq_some_iff (h : table.Holds added) :
    table.id? key = some id ↔ table.keys[id]? = some key := by
  refine ⟨getElem?_of_id?, fun hkey => ?_⟩
  obtain ⟨hlt, rfl⟩ := List.getElem?_eq_some_iff.1 hkey
  rw [id?, table.lookup_index, List.idxOf?_eq_some_iff]
  refine ⟨hlt, rfl, fun place hplace heq => ?_⟩
  exact absurd (h.nodup.getElem_inj_iff.1 heq) (Nat.ne_of_lt hplace)

theorem prefix_add (table : LogTable) (key : LogKey) : table.keys <+: (table.add key).2.keys := by
  by_cases hkey : key ∈ table.keys
  · rw [add_of_mem hkey]
  · rw [add_of_not_mem hkey]
    exact List.prefix_append _ _

/-- A key that was added has the id that adding it gave. -/
theorem id?_add (table : LogTable) (key : LogKey) :
    (table.add key).2.id? key = some (table.add key).1 := by
  by_cases hkey : key ∈ table.keys
  · obtain ⟨id, hid⟩ := mem_keys_iff.1 hkey
    rw [add_of_id? hid]
    exact hid
  · have hnone := id?_eq_none_iff.2 hkey
    rw [id?] at hnone
    rw [add_of_not_mem hkey, id?, index_push, List.lookup_append, hnone, List.lookup_cons_self]
    rfl

/-- An id is kept where keys were only added behind the others. -/
theorem Holds.id?_of_extends (h : later.Holds added) (hextends : table.keys <+: later.keys)
    (hid : table.id? key = some id) : later.id? key = some id := by
  obtain ⟨hlt, hkey⟩ := List.getElem?_eq_some_iff.1 (getElem?_of_id? hid)
  rw [h.id?_eq_some_iff, List.getElem?_eq_some_iff]
  exact ⟨hlt.trans_le hextends.length_le, hextends.getElem hlt ▸ hkey⟩

/-- Adding gives the id of a key only to that key. -/
theorem Holds.fst_add_eq_iff (h : table.Holds added) (hid : table.id? key = some id)
    {other : LogKey} : (table.add other).1 = id ↔ other = key := by
  constructor
  · intro heq
    have hother := getElem?_of_id? (table.id?_add other)
    have hkey := getElem?_of_id? ((h.add other).id?_of_extends (table.prefix_add other) hid)
    rw [heq, hkey] at hother
    exact (Option.some.inj hother).symm
  · rintro rfl
    rw [add_of_id? hid]

end LogTable

/-! ## 2. Calls -/

inductive TableCall where
  | add (key : LogKey)
  | idFor (event : Event)
  | size
  | entries

inductive TableAnswer where
  | id (id : Nat)
  | unknown (key : LogKey)
  | size (n : Nat)
  | entries (rows : List LogEntry)
  deriving DecidableEq

def TableCall.addedKey? : TableCall → Option LogKey
  | .add key => some key
  | _ => none

namespace LogTable

/-- The answer to a call, and the table after it. -/
def perform (table : LogTable) : TableCall → TableAnswer × LogTable
  | .add key =>
    let (id, table) := table.add key
    (.id id, table)
  | .idFor event =>
    match table.idFor? event with
    | some id => (.id id, table)
    | none => (.unknown event.logKey, table)
  | .size => (.size table.size, table)
  | .entries => (.entries table.entries, table)

/-- The table after some calls. -/
def after (table : LogTable) (calls : List TableCall) : LogTable :=
  calls.foldl (fun table call => (table.perform call).2) table

@[simp] theorem after_cons (table : LogTable) (call : TableCall) (calls : List TableCall) :
    table.after (call :: calls) = (table.perform call).2.after calls := rfl

theorem after_append (table : LogTable) (calls calls' : List TableCall) :
    table.after (calls ++ calls') = (table.after calls).after calls' :=
  List.foldl_append

@[simp] theorem perform_add (table : LogTable) (key : LogKey) :
    table.perform (.add key) = (.id (table.add key).1, (table.add key).2) := rfl

theorem perform_idFor (table : LogTable) (event : Event) :
    table.perform (.idFor event) =
      (((table.id? event.logKey).map .id).getD (.unknown event.logKey), table) := by
  rw [perform, idFor?]
  cases table.id? event.logKey <;> rfl

variable {table : LogTable} {added : List LogKey}

/-- Only adding changes a table. -/
theorem perform_of_read {call : TableCall} (h : call.addedKey? = none) :
    (table.perform call).2 = table := by
  cases call with
  | add key => cases h
  | idFor event =>
    rw [perform_idFor]
  | size | entries => rfl

theorem Holds.perform (h : table.Holds added) (call : TableCall) :
    (table.perform call).2.Holds (added ++ call.addedKey?.toList) := by
  cases call with
  | add key => exact h.add key
  | _ =>
    rw [perform_of_read rfl]
    simpa [TableCall.addedKey?] using h

theorem prefix_perform (table : LogTable) (call : TableCall) :
    table.keys <+: (table.perform call).2.keys := by
  cases call with
  | add key => exact table.prefix_add key
  | _ => rw [perform_of_read rfl]

theorem Holds.after (h : table.Holds added) (calls : List TableCall) :
    (table.after calls).Holds (added ++ calls.filterMap TableCall.addedKey?) := by
  induction calls generalizing table added with
  | nil => simpa [LogTable.after] using h
  | cons call calls ih =>
    have hcalls := ih (h.perform call)
    rw [List.append_assoc] at hcalls
    rw [List.filterMap_cons]
    cases hkey : call.addedKey? <;> simpa [hkey] using hcalls

theorem prefix_after (table : LogTable) (calls : List TableCall) :
    table.keys <+: (table.after calls).keys := by
  induction calls generalizing table with
  | nil => exact List.prefix_rfl
  | cons call calls ih => exact (table.prefix_perform call).trans (ih _)

/-- Once a key was added, its id is found whatever is called then. -/
theorem Holds.id?_after (h : table.Holds added) (key : LogKey) (calls : List TableCall) :
    ((table.add key).2.after calls).id? key = some (table.add key).1 :=
  ((h.add key).after calls).id?_of_extends (prefix_after _ calls) (table.id?_add key)

/-- Whatever calls are made on an empty table, each key that was added stands in its list once, and
the index holds exactly the places of these keys.  Adding a key answers its place and appends it if
it is new; no later call answers that id for another key or another id for that key, and asking for
the id of an event answers what adding its key answered, or that its key was never added.  Reading
changes nothing. -/
theorem index_after (calls : List TableCall) :
    let table := empty.after calls
    let added := calls.filterMap TableCall.addedKey?
    table.keys.Nodup ∧ table.index = table.keys.zipIdx ∧
    (∀ key id, table.index.lookup key = some id ↔ table.keys[id]? = some key) ∧
    (table.perform .size).1 = .size added.toFinset.card ∧
    (∀ key,
      (∃ id, (table.perform (.add key)).1 = .id id ∧
        (table.perform (.add key)).2.keys[id]? = some key) ∧
      (key ∈ added → (table.perform (.add key)).2 = table) ∧
      (key ∉ added → (table.perform (.add key)).2.keys = table.keys ++ [key])) ∧
    (∀ key id later other, (table.perform (.add key)).1 = .id id →
      (((empty.after (calls ++ .add key :: later)).perform (.add other)).1 = .id id ↔
        other = key)) ∧
    (∀ event,
      ((table.perform (.idFor event)).1 = .unknown event.logKey ↔ event.logKey ∉ added) ∧
      ∀ before later, calls = before ++ .add event.logKey :: later →
        (table.perform (.idFor event)).1 =
          ((empty.after before).perform (.add event.logKey)).1) ∧
    ∀ call : TableCall, call.addedKey? = none → (table.perform call).2 = table := by
  intro table added
  have hholds : table.Holds added := holds_empty.after calls
  refine ⟨hholds.nodup, hholds.index_eq, fun _ _ => hholds.id?_eq_some_iff, ?_,
    fun key => ⟨?_, ?_, ?_⟩, ?_, fun event => ⟨?_, ?_⟩, fun _ => perform_of_read⟩
  · rw [← hholds.size_eq]
    rfl
  · exact ⟨_, rfl, getElem?_of_id? (table.id?_add key)⟩
  · exact fun hkey => add_of_mem ((hholds.mem_keys key).2 hkey)
  · intro hkey
    rw [perform_add, add_of_not_mem (mt (hholds.mem_keys key).1 hkey)]
    rfl
  · intro key id later other hid
    obtain rfl : (table.add key).1 = id := TableAnswer.id.inj hid
    have hlater : empty.after (calls ++ .add key :: later) = (table.add key).2.after later :=
      after_append _ _ _
    rw [hlater, perform_add, TableAnswer.id.injEq]
    exact ((hholds.add key).after later).fst_add_eq_iff (hholds.id?_after key later)
  · rw [perform_idFor, ← hholds.mem_keys, ← id?_eq_none_iff]
    cases table.id? event.logKey <;> simp
  · rintro before later rfl
    have hbefore : (empty.after before).Holds _ := holds_empty.after before
    have htable : table = ((empty.after before).add event.logKey).2.after later :=
      after_append _ _ _
    rw [perform_idFor, htable, hbefore.id?_after]
    rfl

/-- Two keys that differ in an empty text. -/
def sampleCalls : List TableCall :=
  [.add ⟨some [], none, none⟩, .size, .add ⟨none, none, none⟩, .add ⟨some [], none, none⟩]

/-- An event has the id of the key without the empty text, which is not given to another key. -/
theorem sample_index :
    let table := empty.after sampleCalls
    let event : Event := ⟨[], 0, 0, 0, none, none, none, some []⟩
    table.size = 2 ∧ (table.perform (.idFor event)).1 = .id 1 ∧
      (table.perform (.add ⟨none, some "h", none⟩)).1 ≠ .id 1 ∧
      (table.perform .entries).2 = table := by
  intro table event
  obtain ⟨-, -, -, hsize, -, hids, hevents, hreads⟩ := index_after sampleCalls
  have hid : ((empty.after [.add ⟨some [], none, none⟩, .size]).perform (.add event.logKey)).1 =
      .id 1 := by decide +kernel
  refine ⟨TableAnswer.size.inj hsize, ?_, fun hother => ?_, hreads _ rfl⟩
  · rw [(hevents event).2 [.add ⟨some [], none, none⟩, .size] [.add ⟨some [], none, none⟩] rfl, hid]
  · obtain ⟨-, -, -, -, -, hearlier, -⟩ := index_after [.add ⟨some [], none, none⟩, .size]
    have hkey := (hearlier event.logKey 1 [.add ⟨some [], none, none⟩] _ hid).1 hother
    exact absurd hkey (by decide)

end LogTable

end LogShipper
