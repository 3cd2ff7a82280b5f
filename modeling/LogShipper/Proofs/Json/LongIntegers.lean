import LogShipper.Proofs.Except
import LogShipper.Proofs.Json.RoundTrip
import LogShipper.Proofs.Json.Sizes
import Mathlib.Data.List.Infix

/-!
# Integers that are too long to be read

What a reader leaves of a text is its end.  So if a reader is stopped by too many digits, that many
stand in a row in the text.  The decimal text of an integer with so many digits does stop it, and a
value that was read holds no such integer.
-/

namespace LogShipper

/-- A text in which some number of digits stand in a row. -/
def Text.HasDigits (t : Text) (n : Nat) : Prop :=
  ∃ run : Text, run <:+: t ∧ run.length = n ∧ ∀ c ∈ run, c.asciiDigit?.isSome = true

theorem Text.HasDigits.mono {t whole : Text} {n : Nat} (h : t.HasDigits n) (hpart : t <:+: whole) :
    whole.HasDigits n := by
  obtain ⟨run, hrun, hlength, hdigits⟩ := h
  exact ⟨run, hrun.trans hpart, hlength, hdigits⟩

namespace Json

/-! ## 1. What readers leave -/

/-- What a reader does with a text: it yields something of a kind and leaves the end of the text, or
it is stopped.  Too many digits stop it only if they stand there in a row. -/
def Traces {α : Type} (kind : α → Prop) (t : Text) : Except Stop (α × Text) → Prop
  | .ok (a, rest) => kind a ∧ rest <:+ t
  | .error (.excess (.digits cause)) =>
    ∃ n, cause = .read n ∧ Integer.maxDigits < n ∧ t.HasDigits n
  | .error _ => True

variable {α β : Type} {kind : α → Prop} {kind' : β → Prop} {t whole : Text}

theorem Traces.mono {result : Except Stop (α × Text)} (h : Traces kind t result)
    (hsuffix : t <:+ whole) : Traces kind whole result := by
  match result with
  | .ok (a, rest) => exact ⟨h.1, h.2.trans hsuffix⟩
  | .error (.excess (.digits cause)) =>
    obtain ⟨n, hcause, hlong, hdigits⟩ := h
    exact ⟨n, hcause, hlong, hdigits.mono hsuffix.isInfix⟩
  | .error (.excess (.depth innermost)) => trivial
  | .error (.malformed what rest) => trivial

theorem Traces.bind {result : Except Stop (α × Text)} {next : α × Text → Except Stop (β × Text)}
    (h : Traces kind t result) (hnext : ∀ a rest, kind a → Traces kind' rest (next (a, rest))) :
    Traces kind' t (result >>= next) := by
  match result with
  | .ok (a, rest) => exact (hnext a rest h.1).mono h.2
  | .error (.excess (.digits cause)) => exact h
  | .error (.excess (.depth innermost)) => trivial
  | .error (.malformed what rest) => trivial

theorem Traces.map {result : Except Stop (α × Text)} (h : Traces kind t result)
    (hsuffix : t <:+ whole) (f : α → β) (hf : ∀ a, kind a → kind' (f a)) :
    Traces kind' whole (do
      let (a, after) ← result
      return (f a, after)) := by
  have hrest (a : α) (rest : Text) (ha : kind a) :
      Traces kind' rest (.ok (f a, rest) : Except Stop (β × Text)) := ⟨hf a ha, List.suffix_rfl⟩
  exact (h.bind hrest).mono hsuffix

/-- A reader that leaves the end of a text, of which all that it yields is of a kind. -/
theorem Traces.of_ok {result : Except Stop (α × Text)} (h : Traces (fun _ => True) t result)
    (hkind : ∀ a rest, result = .ok (a, rest) → kind a) : Traces kind t result := by
  match result with
  | .ok (a, rest) => exact ⟨hkind a rest rfl, h.2⟩
  | .error (.excess (.digits cause)) => exact h
  | .error (.excess (.depth innermost)) => trivial
  | .error (.malformed what rest) => trivial

theorem skipSpaces_suffix (t : Text) : skipSpaces t <:+ t :=
  List.dropWhile_suffix _

/-- What stands behind the first mark that is no space. -/
theorem suffix_of_skipSpaces {c : CodePoint} {rest : Text} (h : skipSpaces t = c :: rest) :
    rest <:+ t := by
  have hspaces := skipSpaces_suffix t
  rw [h] at hspaces
  exact (List.suffix_cons c rest).trans hspaces

/-! ## 2. Texts and numbers -/

theorem traces_readItems (start t : Text) : Traces (fun _ => True) t (readItems start t) := by
  fun_induction readItems start t with
  | case1 => trivial
  | case2 rest => exact ⟨trivial, List.suffix_cons _ _⟩
  | case3 => trivial
  | case4 => trivial
  | case5 a b c d e rest n _ ih =>
    refine ih.map (List.suffix_append [.char '\\', .char 'u', a, b, c, d] _) _ ?_
    exact fun _ _ => trivial
  | case6 => trivial
  | case7 => trivial
  | case8 c rest _ _ meant _ ih =>
    refine ih.map (List.suffix_append [.char '\\', c] _) _ ?_
    exact fun _ _ => trivial
  | case9 => trivial
  | case10 c rest _ _ _ _ _ ih => exact ih.map (List.suffix_cons c _) _ fun _ _ => trivial

theorem traces_readText (start rest : Text) :
    Traces (fun _ => True) rest (readText start rest) :=
  (traces_readItems start rest).map List.suffix_rfl assemble fun _ _ => trivial

/-- The digits that are read stand at the beginning of the text. -/
theorem exists_run_of_digits {ds : List Nat} {rest : Text} (h : digits t = (ds, rest)) :
    ∃ run : Text, t = run ++ rest ∧ run.length = ds.length ∧
      ∀ c ∈ run, c.asciiDigit?.isSome = true := by
  induction t generalizing ds with
  | nil =>
    obtain ⟨rfl, rfl⟩ := Prod.mk.inj h
    exact ⟨[], rfl, rfl, List.forall_mem_nil _⟩
  | cons c t ih =>
    rw [digits] at h
    split at h
    · obtain ⟨rfl, rfl⟩ := Prod.mk.inj h
      exact ⟨[], rfl, rfl, List.forall_mem_nil _⟩
    · rename_i d hd
      obtain ⟨rfl, hrest⟩ := Prod.mk.inj h
      obtain ⟨run, ht, hlength, hall⟩ := ih (Prod.ext rfl hrest)
      refine ⟨c :: run, congrArg (c :: ·) ht, congrArg (· + 1) hlength, ?_⟩
      rw [List.forall_mem_cons, hd]
      exact ⟨rfl, hall⟩

theorem exists_run_of_wholePart {ds : List Nat} {rest : Text} (h : wholePart t = (ds, rest)) :
    ∃ run : Text, t = run ++ rest ∧ run.length = ds.length ∧
      ∀ c ∈ run, c.asciiDigit?.isSome = true := by
  unfold wholePart at h
  split at h
  · -- A zero is a whole part of its own, whatever digits follow it.
    rename_i later after hzero
    obtain ⟨rfl, rfl⟩ := Prod.mk.inj h
    obtain ⟨run, ht, hlength, hall⟩ := exists_run_of_digits hzero
    match run, hlength with
    | c :: run, _ =>
      refine ⟨[c], ?_, rfl, ?_⟩
      · rw [ht]
        rfl
      · rw [List.forall_mem_singleton]
        exact hall c List.mem_cons_self
  · exact exists_run_of_digits h

theorem fractionPart?_suffix {ds : List Nat} {rest : Text} (h : fractionPart? t = some (ds, rest)) :
    rest <:+ t := by
  unfold fractionPart? at h
  split at h
  · split at h
    · cases h
    · obtain ⟨run, ht, -⟩ := exists_run_of_digits (Option.some.inj h)
      rw [ht]
      exact (List.suffix_append run rest).trans (List.suffix_cons _ _)
  · cases h

theorem exponentPart?_suffix {exponent : Int} {rest : Text}
    (h : exponentPart? t = some (exponent, rest)) : rest <:+ t := by
  unfold exponentPart? at h
  split at h
  · cases h
  · rename_i mark body
    split at h
    · dsimp only at h
      split at h
      · cases h
      · rename_i ds after _ hdigits
        obtain ⟨-, rfl⟩ := Prod.mk.inj (Option.some.inj h)
        obtain ⟨run, hbody, -⟩ := exists_run_of_digits hdigits
        -- Before the digits there may be a sign, and there is the mark.
        have hsigned : run ++ after <:+ body := by
          rw [← hbody]
          split
          · exact List.suffix_cons _ _
          · exact List.suffix_cons _ _
          · exact List.suffix_rfl
        exact (List.suffix_append run after).trans (hsigned.trans (List.suffix_cons mark body))
    · cases h

theorem getD_suffix {part? : Option (α × Text)} {default : α} (h : ∀ part, part? = some part →
    part.2 <:+ t) : (part?.getD (default, t)).2 <:+ t := by
  cases part? with
  | none => exact List.suffix_rfl
  | some part => exact h part rfl

theorem traces_readUnsigned (start : Text) (negative : Bool) (t : Text) :
    Traces (fun _ => True) t (readUnsigned start negative t) := by
  unfold readUnsigned
  split
  · trivial
  · rename_i whole rest _ hwhole
    obtain ⟨run, ht, hlength, hall⟩ := exists_run_of_wholePart hwhole
    have hfraction : ((fractionPart? rest).getD ([], rest)).2 <:+ rest :=
      getD_suffix fun part hpart => fractionPart?_suffix hpart
    have hexponent : ((exponentPart? ((fractionPart? rest).getD ([], rest)).2).getD
        (0, ((fractionPart? rest).getD ([], rest)).2)).2 <:+ rest :=
      (getD_suffix fun part hpart => exponentPart?_suffix hpart).trans hfraction
    have hrest : rest <:+ t := by
      rw [ht]
      exact List.suffix_append run rest
    dsimp only
    split
    · split
      · rename_i hlong
        exact ⟨whole.length, rfl, hlong, run, ⟨[], rest, ht.symm⟩, hlength, hall⟩
      · exact ⟨trivial, hexponent.trans hrest⟩
    · exact ⟨trivial, hexponent.trans hrest⟩

theorem traces_readWord (t : Text) : Traces (·.hasOversized = false) t (readWord t) := by
  refine Traces.of_ok ?_ fun value rest h => hasOversized_readWord h
  unfold readWord
  dsimp only
  split
  · rename_i found hfound
    obtain ⟨⟨word, meant⟩, -, hmap⟩ := List.exists_of_findSome?_eq_some hfound
    obtain ⟨after, hafter, rfl⟩ := Option.map_eq_some_iff.1 hmap
    rw [Text.eq_append_of_dropStart? hafter]
    exact ⟨trivial, List.suffix_append word after⟩
  · split
    · exact (traces_readUnsigned _ _ _).mono (List.suffix_cons _ _)
    · exact traces_readUnsigned _ _ _

/-! ## 3. Values -/

/-- With this bound every reader leaves the end of a text, or is stopped, and what it yields holds
no integer with too many digits. -/
structure ReadsOn (bound : Nat) : Prop where
  value : ∀ depth t, Traces (·.hasOversized = false) t (readValue bound depth t)
  object : ∀ depth t, Traces (·.hasOversized = false) t (readObject bound depth t)
  array : ∀ depth t, Traces (·.hasOversized = false) t (readArray bound depth t)
  members : ∀ depth t, Traces (fun members => ∀ m ∈ members, m.2.hasOversized = false) t
    (readMembers bound depth t)
  elements : ∀ depth t, Traces (fun items => ∀ item ∈ items, item.hasOversized = false) t
    (readElements bound depth t)

theorem readsOn_zero : ReadsOn 0 := by
  constructor <;> intro _ _ <;>
    simp only [readValue, readObject, readArray, readMembers, readElements, Traces]

theorem readsOn_succ {bound : Nat} (ih : ReadsOn bound) : ReadsOn (bound + 1) where
  value depth t := by
    -- One case for each way in which a value begins.
    cases t with
    | nil =>
      rw [readValue]
      trivial
    | cons c rest =>
      rw [readValue]
      split
      · exact (traces_readText _ _).map (List.suffix_cons c rest) text fun _ _ => rfl
      · split
        · exact (ih.object _ _).mono (List.suffix_cons c rest)
        · split
          · exact (ih.array _ _).mono (List.suffix_cons c rest)
          · exact traces_readWord _
  object depth t := by
    cases depth with
    | zero =>
      rw [readObject]
      trivial
    | succ depth =>
      rw [readObject]
      split
      · rename_i after heq
        exact ⟨rfl, suffix_of_skipSpaces heq⟩
      · apply (ih.members _ _).map (skipSpaces_suffix t) fun members => object (settle members)
        exact fun members h => anyMemberOversized_eq_false_iff.2 (hasOversized_of_mem_settle h)
  array depth t := by
    cases depth with
    | zero =>
      rw [readArray]
      trivial
    | succ depth =>
      rw [readArray]
      split
      · rename_i after heq
        exact ⟨rfl, suffix_of_skipSpaces heq⟩
      · apply (ih.elements _ _).map (skipSpaces_suffix t) array
        exact fun items h => anyOversized_eq_false_iff.2 h
  members depth t := by
    rw [readMembers.eq_def]
    dsimp only
    split
    · rename_i rest
      apply Traces.mono _ (List.suffix_cons _ rest)
      apply (traces_readText _ rest).bind
      intro name after _
      dsimp only
      split
      · -- Behind the colon stands the value, and behind that a brace or a comma.
        rename_i behind heq
        apply Traces.mono _ ((skipSpaces_suffix behind).trans (suffix_of_skipSpaces heq))
        apply (ih.value depth _).bind
        intro value after hvalue
        dsimp only
        split
        · rename_i last heq
          exact ⟨List.forall_mem_singleton.2 hvalue, suffix_of_skipSpaces heq⟩
        · rename_i last heq
          have hlater := (skipSpaces_suffix last).trans (suffix_of_skipSpaces heq)
          exact (ih.members _ _).map hlater _ fun _ h => List.forall_mem_cons.2 ⟨hvalue, h⟩
        · trivial
      · trivial
    · trivial
  elements depth t := by
    rw [readElements]
    apply (ih.value depth t).bind
    intro value after hvalue
    dsimp only
    split
    · rename_i rest heq
      exact ⟨List.forall_mem_singleton.2 hvalue, suffix_of_skipSpaces heq⟩
    · rename_i rest heq
      have hlater := (skipSpaces_suffix rest).trans (suffix_of_skipSpaces heq)
      exact (ih.elements _ _).map hlater _ fun _ h => List.forall_mem_cons.2 ⟨hvalue, h⟩
    · trivial

theorem readsOn (bound : Nat) : ReadsOn bound := by
  induction bound with
  | zero => exact readsOn_zero
  | succ bound ih => exact readsOn_succ ih

/-- A value that was read holds no integer with too many digits. -/
theorem hasOversized_of_read {value : Json} (h : read t = .ok value) :
    value.hasOversized = false := by
  unfold read at h
  split at h
  · rename_i read hparse
    obtain rfl := Except.ok.inj h
    obtain ⟨⟨value, after⟩, hvalue, hend⟩ := bind_eq_ok_iff.1 hparse
    have htraces := (readsOn (3 * t.length + 1)).value maxDepth (skipSpaces t)
    rw [hvalue] at htraces
    dsimp only at hend
    split at hend
    · obtain rfl := Except.ok.inj hend
      exact htraces.1
    · cases hend
  · cases h

theorem readValue_of_read {what : Excess} (h : read t = .error (.excess what)) :
    readValue (3 * t.length + 1) maxDepth (skipSpaces t) = .error (.excess what) := by
  unfold read at h
  split at h
  · cases h
  · rename_i stop hstop
    cases stop with
    | malformed found rest => cases h
    | excess found =>
      cases h
      unfold parse at hstop
      generalize readValue (3 * t.length + 1) maxDepth (skipSpaces t) = result at hstop
      -- Behind a value nothing can be in excess.
      cases result with
      | error stop =>
        have hsame : stop = .excess what := Except.error.inj hstop
        rw [hsame]
      | ok read =>
        rw [ok_bind] at hstop
        dsimp only at hstop
        split at hstop
        · cases hstop
        · cases hstop

/-- Too many digits stop the reading of a text only if they stand there in a row. -/
theorem hasDigits_of_read {cause : Oversized} (h : read t = .error (.excess (.digits cause))) :
    ∃ n, cause = .read n ∧ Integer.maxDigits < n ∧ t.HasDigits n := by
  have hvalue := ((readsOn (3 * t.length + 1)).value maxDepth (skipSpaces t)).mono
    (skipSpaces_suffix t)
  rw [readValue_of_read h] at hvalue
  exact hvalue

/-! ## 4. Integers that stop the reading -/

theorem readUnsigned_of_le (start : Text) (negative : Bool) {n : Nat}
    (hn : Nat.pow 10 Integer.maxDigits ≤ n) :
    readUnsigned start negative (Text.ofChars (Nat.toDigits 10 n)) =
      .error (.excess (.digits (.read (Nat.toDigits 10 n).length))) := by
  have hends : EndsValue [] := nofun
  have hwhole := wholePart_toDigits n hends
  have hlong := (Integer.lt_length_toDigits_iff (by decide)).2 hn
  rw [List.append_nil] at hwhole
  unfold readUnsigned
  rw [hwhole]
  split
  · rename_i heq
    exact absurd (List.map_eq_nil_iff.1 (Prod.mk.inj heq).1) Nat.toDigits_ne_nil
  · rename_i whole after _ heq
    obtain ⟨rfl, rfl⟩ := Prod.mk.inj heq
    simp only [hends.no_fraction, hends.no_exponent, Option.getD_none, Option.isNone_none,
      Bool.and_self, ↓reduceIte, List.length_map, if_pos hlong]

theorem readWord_of_isOversized {n : Int} (hn : Integer.isOversized n = true) :
    readWord (Integer.toText n) =
      .error (.excess (.digits (.read (Nat.toDigits 10 n.natAbs).length))) := by
  have hle : Nat.pow 10 Integer.maxDigits ≤ n.natAbs := of_decide_eq_true hn
  obtain ⟨c, ds, hc, hdigit⟩ := exists_toDigits_eq_cons n.natAbs
  obtain ⟨hplain, hsigned⟩ := readWord_of_isDigit hdigit (Text.ofChars ds)
  unfold Integer.toText
  by_cases hneg : n < 0
  · have hread := readUnsigned_of_le (.char '-' :: Text.ofChars (Nat.toDigits 10 n.natAbs)) true hle
    rw [if_pos hneg]
    rw [hc] at hread ⊢
    exact hsigned.trans hread
  · have hread := readUnsigned_of_le (Text.ofChars (Nat.toDigits 10 n.natAbs)) false hle
    rw [if_neg hneg]
    rw [hc] at hread ⊢
    exact hplain.trans hread

/-- The decimal text of an integer with too many digits is not read. -/
theorem read_toText_of_isOversized {n : Int} (hn : Integer.isOversized n = true) :
    read (Integer.toText n) =
      .error (.excess (.digits (.read (Nat.toDigits 10 n.natAbs).length))) := by
  obtain ⟨c, ds, hc, hd⟩ := integerText_head n
  have hspace : skipSpaces (Integer.toText n) = Integer.toText n := by
    have hplain : (Json.int n).isPlain = true := rfl
    obtain ⟨first, after, hfirst, hs, -⟩ := toText_head hplain
    rw [toText] at hfirst
    rw [hfirst, skipSpaces_cons hs]
  have hword := readWord_of_isOversized hn
  have hvalue : ∀ bound d, readValue (bound + 1) d (Integer.toText n) =
      .error (.excess (.digits (.read (Nat.toDigits 10 n.natAbs).length))) := by
    intro bound d
    rw [hc] at hword ⊢
    exact (readValue_of_readWord (ne_of_sign_or_digit hd (by decide) rfl)
      (ne_of_sign_or_digit hd (by decide) rfl) (ne_of_sign_or_digit hd (by decide) rfl)
      _ _ _).trans hword
  rw [read, parse, hspace, hvalue]
  rfl

end Json

end LogShipper
