import LogShipper.Text.Lines

/-!
# Pieces of texts

A text that is split behind a separator has the pieces of both its parts, in order.  So a text
behind an ended line adds its own lines and changes none of those before it.
-/

namespace LogShipper.Text

variable {separator c : CodePoint} {t : Text}

/-- What stands behind a separator is split by itself. -/
theorem splitOn_append (separator : CodePoint) (t rest : Text) :
    splitOn separator (t ++ separator :: rest) =
      splitOn separator t ++ splitOn separator rest := by
  induction t with
  | nil => simp [splitOn]
  | cons c t ih =>
    obtain ⟨piece, pieces, hpieces⟩ := List.exists_cons_of_ne_nil (splitOn_ne_nil separator t)
    by_cases hc : c = separator
    · rw [List.cons_append, splitOn, if_pos hc, ih, splitOn, if_pos hc, List.cons_append]
    · rw [List.cons_append, splitOn, if_neg hc, ih, splitOn, if_neg hc, hpieces]
      rfl

theorem splitOn_of_not_mem (h : separator ∉ t) : splitOn separator t = [t] := by
  induction t with
  | nil => rfl
  | cons c rest ih =>
    rw [List.mem_cons, not_or] at h
    rw [splitOn, if_neg (Ne.symm h.1), ih h.2]

theorem not_mem_of_mem_splitOn {piece : Text} (h : piece ∈ splitOn separator t) :
    separator ∉ piece := by
  induction t generalizing piece with
  | nil =>
    rw [splitOn, List.mem_singleton] at h
    simp [h]
  | cons c t ih =>
    obtain ⟨first, pieces, hpieces⟩ := List.exists_cons_of_ne_nil (splitOn_ne_nil separator t)
    rw [hpieces] at ih
    by_cases hc : c = separator
    · rw [splitOn, if_pos hc, hpieces] at h
      rcases List.mem_cons.1 h with rfl | h
      · exact List.not_mem_nil
      · exact ih h
    · rw [splitOn, if_neg hc, hpieces] at h
      rcases List.mem_cons.1 h with rfl | h
      · exact List.not_mem_cons_of_ne_of_not_mem (Ne.symm hc) (ih List.mem_cons_self)
      · exact ih (List.mem_cons_of_mem _ h)

/-- Joined pieces are found again if the separator stands in none of them. -/
theorem splitOn_joinWith {pieces : List Text} (hne : pieces ≠ [])
    (h : ∀ piece ∈ pieces, separator ∉ piece) :
    splitOn separator (joinWith [separator] pieces) = pieces := by
  induction pieces with
  | nil => exact absurd rfl hne
  | cons first pieces ih =>
    obtain ⟨hfirst, hpieces⟩ := List.forall_mem_cons.1 h
    cases pieces with
    | nil => exact splitOn_of_not_mem hfirst
    | cons second pieces =>
      rw [joinWith, List.append_assoc, List.singleton_append, splitOn_append,
        splitOn_of_not_mem hfirst, ih (by simp) hpieces]
      · rfl
      · exact List.cons_ne_nil second pieces

theorem mem_iff_splitOn (hc : c ≠ separator) :
    c ∈ t ↔ ∃ piece ∈ splitOn separator t, c ∈ piece := by
  induction t with
  | nil => simp [splitOn]
  | cons d rest ih =>
    by_cases hd : d = separator
    · have hne : c ≠ d := fun heq => hc (heq.trans hd)
      simp [splitOn, hd, hc, ih]
    · obtain ⟨piece, more, hrest⟩ := List.exists_cons_of_ne_nil (splitOn_ne_nil separator rest)
      simp [splitOn, hd, hrest, ih, or_assoc]

/-- The lines behind a line feed follow those before it. -/
theorem lines_append_cons (t rest : Text) :
    lines (t ++ .char '\n' :: rest) = splitOn '\n' t ++ lines rest := by
  have hrest := splitOn_ne_nil '\n' rest
  obtain ⟨last, hlast⟩ := Option.isSome_iff_exists.1 (List.getLast?_isSome.2 hrest)
  unfold lines
  dsimp only
  rw [splitOn_append, List.getLast?_append, hlast, Option.some_or]
  by_cases hempty : some last = some []
  · rw [if_pos hempty, if_pos hempty, List.dropLast_append_of_ne_nil hrest]
  · rw [if_neg hempty, if_neg hempty]

/-- The lines of a text behind an ended line follow those before them. -/
theorem lines_append {a : Text} (h : a.getLast? = some (.char '\n')) (b : Text) :
    lines (a ++ b) = lines a ++ lines b := by
  obtain ⟨t, rfl⟩ := List.getLast?_eq_some_iff.1 h
  rw [List.append_assoc, List.singleton_append, lines_append_cons, lines_append_cons, lines_empty,
    List.append_nil]

end LogShipper.Text
