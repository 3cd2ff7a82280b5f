import LogShipper.Proofs.Record.Mapping
import LogShipper.Proofs.Shipper.Agreement
import LogShipper.Proofs.Shipping.Blocks
import LogShipper.Run

/-!
# The supply of a run

A source supplies the records in its lines, in order, and between them nothing happens but reports.
Only a source that cannot be read to its end supplies a fault.
-/

namespace LogShipper.Run

def Source.reading (source : Source) : RecordReading :=
  .ofLines (RecordLine.readAll source.topic source.file.lines)

theorem items_supplyOfLine (lines : List RecordLine) {rest : List (Supply State RunFault Record)}
    (hrest : Supply.items rest = []) :
    Supply.items (lines.flatMap supplyOfLine ++ rest) = (RecordReading.ofLines lines).records := by
  induction lines with
  | nil => exact hrest
  | cons line lines ih =>
    rw [List.flatMap_cons, List.append_assoc]
    cases line with
    | blank => exact ih
    | skipped notice => exact ih
    | record record => exact congrArg (record :: ·) ih
    -- Behind a line that stops the reading there are no records either.
    | unreadable cause => rfl

theorem fault_of_mem_supplyOfLine {lines : List RecordLine} {e : RunFault}
    (h : .fault e ∈ lines.flatMap supplyOfLine) : (RecordReading.ofLines lines).fault ≠ none := by
  induction lines with
  | nil => cases h
  | cons line lines ih =>
    rw [List.flatMap_cons, List.mem_append] at h
    cases line with
    | blank => exact ih (h.resolve_left nofun)
    | skipped notice => exact ih (h.resolve_left (by simp [supplyOfLine, reporting]))
    | record record => exact ih (h.resolve_left (by simp [supplyOfLine]))
    | unreadable cause => exact nofun

variable {source : Source}

/-- A source supplies the records of its lines, up to the line that stops the reading. -/
theorem items_supply (source : Source) :
    Supply.items (supply source) = source.reading.records := by
  apply items_supplyOfLine
  cases source.file.fault <;> rfl

theorem not_fault_mem_supply (hfile : source.file.fault = none)
    (hlines : source.reading.fault = none) (e : RunFault) : .fault e ∉ supply source := by
  rw [supply, hfile, List.mem_append]
  rintro (h | h)
  · exact fault_of_mem_supplyOfLine h hlines
  · cases h

theorem level_of_skipped {topic line : Text} {offset : Nat} {notice : Notice}
    (h : RecordLine.read topic line offset = .skipped notice) : notice.level = .warning := by
  unfold RecordLine.read at h
  dsimp only at h
  split at h
  · cases h
  · split at h
    · cases h
      rfl
    · cases h
    · cases h
    · cases h
      rfl

/-- Between the records of a source nothing happens but warnings. -/
theorem eq_report_of_mem_supply {change : State → State} (h : .event change ∈ supply source) :
    ∃ notice : Notice, notice.level = .warning ∧
      change = fun state => (state.1, state.2.report notice) := by
  rw [supply, List.mem_append] at h
  rcases h with h | h
  · obtain ⟨line, hmem, hline⟩ := List.mem_flatMap.1 h
    cases line with
    | skipped notice =>
      obtain ⟨offset, hoffset, hread⟩ := List.mem_mapIdx.1 hmem
      obtain heq := List.mem_singleton.1 hline
      rw [reporting, Supply.event.injEq] at heq
      exact ⟨notice, level_of_skipped hread, heq⟩
    | blank => cases hline
    | record record => simp [supplyOfLine] at hline
    | unreadable cause => simp [supplyOfLine] at hline
  · simp at h

/-- A stop that is asked for during a run stays so, as `Depot.Course` supposes. -/
theorem staysStopped (source : Source) : depot.StaysStopped (supply source) where
  put records state hstop := Shipper.stopRequested_put hstop state.1 records
  event change hchange state hstop := by
    obtain ⟨notice, -, rfl⟩ := eq_report_of_mem_supply hchange
    exact hstop

end LogShipper.Run
