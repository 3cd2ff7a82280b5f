import LogShipper.Proofs.Number.Shortest
import LogShipper.Proofs.Text.Quoted
import LogShipper.Yaml.Value

/-!
# Literals of scalars

No two scalars are shown by the same literal.  How a literal begins tells what kind of scalar it is,
but for integers and other numbers, and for days and times.  Within a kind the numbers in a literal
end where no digit follows.
-/

namespace LogShipper

/-! ## 1. Runs -/

/-- Two texts that begin with a run of some code points are equal only if the runs are. -/
theorem Text.append_inj_of_run {p : CodePoint → Prop} {run run' rest rest' : Text}
    (hrun : ∀ c ∈ run, p c) (hrun' : ∀ c ∈ run', p c) (hrest : ∀ c ∈ rest.head?, ¬ p c)
    (hrest' : ∀ c ∈ rest'.head?, ¬ p c) (h : run ++ rest = run' ++ rest') :
    run = run' ∧ rest = rest' := by
  -- A run cannot end earlier on one side, since what follows it would belong to the other.
  induction run generalizing run' with
  | nil =>
    cases run' with
    | nil => exact ⟨rfl, h⟩
    | cons c run' =>
      rw [List.nil_append] at h
      exact absurd (hrun' c List.mem_cons_self) (hrest c (by rw [h]; rfl))
  | cons c run ih =>
    cases run' with
    | nil =>
      rw [List.nil_append] at h
      exact absurd (hrun c List.mem_cons_self) (hrest' c (by rw [← h]; rfl))
    | cons c' run' =>
      obtain ⟨rfl, htail⟩ := List.cons.inj h
      obtain ⟨rfl, hsame⟩ :=
        ih (List.forall_mem_cons.1 hrun).2 (List.forall_mem_cons.1 hrun').2 htail
      exact ⟨rfl, hsame⟩

/-- The code points in the decimal texts of integers. -/
def CodePoint.InInteger (c : CodePoint) : Prop :=
  c = .char '-' ∨ ∃ d : Char, c = .char d ∧ d.isDigit = true

theorem CodePoint.not_inInteger {c : Char} (hsign : c ≠ '-') (hdigit : c.isDigit = false) :
    ¬ CodePoint.InInteger (.char c) := by
  rintro (h | ⟨d, hd, h⟩)
  · exact hsign (CodePoint.char.inj h)
  · rw [← CodePoint.char.inj hd, hdigit] at h
    cases h

/-- An integer can be told from what follows it, unless a digit does. -/
theorem Integer.toText_append_inj {m n : Int} {rest rest' : Text}
    (hrest : ∀ c ∈ rest.head?, ¬ c.InInteger) (hrest' : ∀ c ∈ rest'.head?, ¬ c.InInteger)
    (h : toText m ++ rest = toText n ++ rest') : m = n ∧ rest = rest' := by
  obtain ⟨htext, hsame⟩ := Text.append_inj_of_run (p := CodePoint.InInteger)
    (fun _ => Numeral.char_of_mem_toText) (fun _ => Numeral.char_of_mem_toText) hrest hrest' h
  exact ⟨toText_injective htext, hsame⟩

theorem Integer.toText_ne_nil (n : Int) : toText n ≠ [] := by
  obtain ⟨d, ds, hdigits, -⟩ := Json.exists_toDigits_eq_cons n.natAbs
  rw [toText, hdigits]
  simp [Text.ofChars]

namespace Yaml

/-! ## 2. Days and times -/

/-- Numbers with a comma and a blank between each two. -/
def joinedNumbers (ns : List Nat) : Text :=
  Text.joinWith ", " (ns.map fun (n : Nat) => Integer.toText n)

/-- What stands behind the first of the numbers that are joined. -/
def laterNumbers : List Nat → Text
  | [] => []
  | n :: ns => (", " : Text) ++ joinedNumbers (n :: ns)

theorem joinedNumbers_cons (n : Nat) (ns : List Nat) :
    joinedNumbers (n :: ns) = Integer.toText n ++ laterNumbers ns := by
  cases ns with
  | nil => exact (List.append_nil _).symm
  | cons m ns => exact List.append_assoc _ _ _

theorem not_inInteger_head?_laterNumbers (ns : List Nat) :
    ∀ c ∈ (laterNumbers ns).head?, ¬ c.InInteger := by
  cases ns with
  | nil => exact nofun
  | cons n ns =>
    rintro c ⟨⟩
    exact CodePoint.not_inInteger (by decide) rfl

theorem joinedNumbers_ne_nil (n : Nat) (ns : List Nat) : joinedNumbers (n :: ns) ≠ [] := by
  rw [joinedNumbers_cons]
  exact List.append_ne_nil_of_left_ne_nil (Integer.toText_ne_nil n) _

theorem joinedNumbers_injective : Function.Injective joinedNumbers := by
  intro ns
  induction ns with
  | nil =>
    intro ns' h
    cases ns' with
    | nil => rfl
    | cons n' ns' => exact absurd h.symm (joinedNumbers_ne_nil n' ns')
  | cons n ns ih =>
    intro ns' h
    cases ns' with
    | nil => exact absurd h (joinedNumbers_ne_nil n ns)
    | cons n' ns' =>
      rw [joinedNumbers_cons, joinedNumbers_cons] at h
      obtain ⟨hn, hlater⟩ := Integer.toText_append_inj (not_inInteger_head?_laterNumbers ns)
        (not_inInteger_head?_laterNumbers ns') h
      -- Only a comma tells that there are more numbers, and it is on both sides or on none.
      have hns : ns = ns' := by
        cases ns with
        | nil =>
          cases ns' with
          | nil => rfl
          | cons m' ns' => cases hlater
        | cons m ns =>
          cases ns' with
          | nil => cases hlater
          | cons m' ns' => exact ih (List.append_cancel_left hlater)
      rw [Int.ofNat_inj.1 hn, hns]

theorem Date.literal_injective : Function.Injective Date.literal := by
  intro d d' h
  have hnumbers : joinedNumbers d.numbers = joinedNumbers d'.numbers :=
    List.append_cancel_left (List.append_cancel_right h)
  obtain ⟨year, month, day⟩ := d
  obtain ⟨year', month', day'⟩ := d'
  have hlist : [year, month, day] = [year', month', day'] := joinedNumbers_injective hnumbers
  simpa using hlist

theorem DateTime.eq_of_numbers {t t' : DateTime} (h : t.numbers = t'.numbers)
    (hoffset : t.offset = t'.offset) : t = t' := by
  obtain ⟨⟨year, month, day⟩, hour, minute, second, microsecond, offset⟩ := t
  obtain ⟨⟨year', month', day'⟩, hour', minute', second', microsecond', offset'⟩ := t'
  unfold DateTime.numbers Date.numbers at h
  dsimp only at h hoffset
  split_ifs at h <;> simp_all

/-- The code points in joined numbers. -/
def InNumbers (c : CodePoint) : Prop :=
  c.InInteger ∨ c = .char ',' ∨ c = .char ' '

theorem mem_joinedNumbers {ns : List Nat} {c : CodePoint} (h : c ∈ joinedNumbers ns) :
    InNumbers c := by
  induction ns with
  | nil => cases h
  | cons n ns ih =>
    rw [joinedNumbers_cons, List.mem_append] at h
    rcases h with h | h
    · exact .inl (Numeral.char_of_mem_toText h)
    · cases ns with
      | nil => cases h
      | cons m ns =>
        rcases List.mem_append.1 h with h | h
        · rcases List.mem_cons.1 h with rfl | h
          · exact .inr (.inl rfl)
          · exact .inr (.inr (List.mem_singleton.1 h))
        · exact ih h

/-- The days and the seconds of a span, as far as they are not zero. -/
def spanText (days seconds : Int) : Text :=
  if days = 0 then
    if seconds = 0 then ("0" : Text) else ("seconds=" : Text) ++ Integer.toText seconds
  else
    ("days=" : Text) ++ (Integer.toText days ++
      if seconds = 0 then [] else (", " : Text) ++ (("seconds=" : Text) ++ Integer.toText seconds))

theorem spanLiteral_eq (minutes : Int) :
    spanLiteral minutes = ("datetime.timedelta(" : Text) ++ spanText (minutes.fdiv minutesPerDay)
      (minutes.fmod minutesPerDay * 60) ++ (")" : Text) := by
  unfold spanLiteral spanText
  dsimp only
  split_ifs <;> first | rfl | simp_all [Text.joinWith]

theorem spanText_inj {days days' seconds seconds' : Int}
    (h : spanText days seconds = spanText days' seconds') :
    days = days' ∧ seconds = seconds' := by
  have hrest (seconds : Int) : ∀ c ∈ (if seconds = 0 then ([] : Text)
      else (", " : Text) ++ (("seconds=" : Text) ++ Integer.toText seconds)).head?,
        ¬ c.InInteger := by
    split_ifs
    · exact nofun
    · rintro c ⟨⟩
      exact CodePoint.not_inInteger (by decide) rfl
  unfold spanText at h
  -- The texts begin differently with days and without; behind the days the seconds are told apart.
  by_cases hdays : days = 0
  · by_cases hdays' : days' = 0
    · rw [if_pos hdays, if_pos hdays'] at h
      refine ⟨hdays.trans hdays'.symm, ?_⟩
      split_ifs at h with hzero hzero' hzero'
      · exact hzero.trans hzero'.symm
      · cases h
      · cases h
      · exact Integer.toText_injective (List.append_cancel_left h)
    · rw [if_pos hdays, if_neg hdays'] at h
      split_ifs at h <;> cases h
  · by_cases hdays' : days' = 0
    · rw [if_neg hdays, if_pos hdays'] at h
      split_ifs at h <;> cases h
    · rw [if_neg hdays, if_neg hdays'] at h
      obtain ⟨hsame, htail⟩ := Integer.toText_append_inj (hrest seconds) (hrest seconds')
        (List.append_cancel_left h)
      refine ⟨hsame, ?_⟩
      split_ifs at htail with hzero hzero' hzero'
      · exact hzero.trans hzero'.symm
      · cases htail
      · cases htail
      · exact Integer.toText_injective (List.append_cancel_left (List.append_cancel_left htail))

theorem spanLiteral_injective : Function.Injective spanLiteral := by
  intro minutes minutes' h
  rw [spanLiteral_eq, spanLiteral_eq] at h
  obtain ⟨hdays, hseconds⟩ := spanText_inj (List.append_cancel_left (List.append_cancel_right h))
  have hsplit := Int.mul_fdiv_add_fmod minutes minutesPerDay
  have hsplit' := Int.mul_fdiv_add_fmod minutes' minutesPerDay
  rw [hdays] at hsplit
  omega

namespace DateTime

theorem zoneLiteral_injective : Function.Injective zoneLiteral := by
  -- The two forms differ behind their first seventeen code points.
  have hforms (span : Text) : (("datetime.timezone.utc" : String) : Text) ≠
      ("datetime.timezone(" : Text) ++ span ++ (")" : Text) := by
    intro h
    have hmark : some (CodePoint.char '.') = some (CodePoint.char '(') :=
      congrArg (fun t : Text => t[17]?) h
    exact absurd hmark (by decide)
  intro minutes minutes' h
  unfold zoneLiteral at h
  split_ifs at h with hzero hzero' hzero'
  · exact hzero.trans hzero'.symm
  · exact absurd h (hforms _)
  · exact absurd h.symm (hforms _)
  · exact spanLiteral_injective (List.append_cancel_left (List.append_cancel_right h))

/-- A time as a literal between its brackets: joined numbers, and the offset if it is known. -/
def literalText (t : DateTime) : Text :=
  match t.offset with
  | none => joinedNumbers t.numbers
  | some minutes =>
    joinedNumbers t.numbers ++ (", " : Text) ++ (("tzinfo=" : Text) ++ zoneLiteral minutes)

theorem literal_eq (t : DateTime) :
    t.literal = ("datetime.datetime(" : Text) ++ t.literalText ++ (")" : Text) := by
  unfold literal literalText
  cases t.offset with
  | none =>
    dsimp only
    rw [List.append_nil]
    rfl
  | some minutes =>
    simp only [List.append_assoc]
    rfl

/-- The numbers end where a text begins that is none, or at the end. -/
theorem literalText_inj {t t' : DateTime} (h : t.literalText = t'.literalText) :
    t.numbers = t'.numbers ∧ t.offset = t'.offset := by
  have hnumbers (ns : List Nat) : ∀ c ∈ joinedNumbers ns, InNumbers c :=
    fun _ => mem_joinedNumbers
  have hrun (ns : List Nat) : ∀ c ∈ joinedNumbers ns ++ (", " : Text), InNumbers c := by
    refine List.forall_mem_append.2 ⟨hnumbers ns, fun c hc => ?_⟩
    rcases List.mem_cons.1 hc with rfl | hc
    · exact .inr (.inl rfl)
    · exact .inr (.inr (List.mem_singleton.1 hc))
  have hnone : ∀ c ∈ ([] : Text).head?, ¬ InNumbers c := nofun
  have hzone (zone : Text) : ∀ c ∈ (("tzinfo=" : Text) ++ zone).head?, ¬ InNumbers c := by
    rintro c ⟨⟩ (hc | hc | hc)
    · exact CodePoint.not_inInteger (by decide) rfl hc
    · cases hc
    · cases hc
  unfold literalText at h
  -- Numbers end where a zone begins, so both agree on whether there is one.
  cases hoffset : t.offset with
  | none =>
    cases hoffset' : t'.offset with
    | none =>
      rw [hoffset, hoffset'] at h
      exact ⟨joinedNumbers_injective h, rfl⟩
    | some minutes' =>
      rw [hoffset, hoffset'] at h
      have hempty : joinedNumbers t.numbers ++ [] = _ := (List.append_nil _).trans h
      cases (Text.append_inj_of_run (hnumbers _) (hrun _) hnone (hzone _) hempty).2
  | some minutes =>
    cases hoffset' : t'.offset with
    | none =>
      rw [hoffset, hoffset'] at h
      have hempty : _ = joinedNumbers t'.numbers ++ [] := h.trans (List.append_nil _).symm
      cases (Text.append_inj_of_run (hrun _) (hnumbers _) (hzone _) hnone hempty).2
    | some minutes' =>
      rw [hoffset, hoffset'] at h
      obtain ⟨hjoined, hzones⟩ :=
        Text.append_inj_of_run (hrun _) (hrun _) (hzone _) (hzone _) h
      rw [zoneLiteral_injective (List.append_cancel_left hzones)]
      exact ⟨joinedNumbers_injective (List.append_cancel_right hjoined), rfl⟩

theorem literal_injective : Function.Injective literal := by
  intro t t' h
  rw [literal_eq, literal_eq] at h
  obtain ⟨hnumbers, hoffset⟩ :=
    literalText_inj (List.append_cancel_left (List.append_cancel_right h))
  exact eq_of_numbers hnumbers hoffset

end DateTime

/-! ## 3. Scalars -/

namespace Scalar

theorem shown?_showByte {quote : Char} (hquote : quote = '\'' ∨ quote = '"') (b : UInt8)
    (rest : Text) : Text.shown? (showByte quote b ++ rest) = some (.ofNat b.toNat) := by
  unfold showByte
  split
  · exact Text.shown?_showQuoted hquote _ rest
  · have hwidth : b.toNat < 16 ^ 2 := b.toNat_lt
    show some (CodePoint.ofNat (Text.hexValue ((Text.hex false 2 b.toNat ++ rest).take 2))) = _
    rw [Text.take_hex_append, Text.hexValue_hex, Nat.mod_eq_of_lt hwidth]

theorem ofNat_toNat_injective : Function.Injective fun b : UInt8 => CodePoint.ofNat b.toNat := by
  have hvalue : ∀ n < 0x100, (CodePoint.ofNat n).value = n := by decide +kernel
  intro b b' h
  have hsame := congrArg CodePoint.value h
  dsimp only at hsame
  rw [hvalue _ b.toNat_lt, hvalue _ b'.toNat_lt] at hsame
  exact UInt8.toNat_inj.1 hsame

theorem quotedBytes_injective : Function.Injective quotedBytes := by
  intro bytes bytes' h
  obtain ⟨hquote, hrest⟩ := List.cons.inj (List.cons.inj h).2
  rw [CodePoint.char.inj hquote] at hrest
  exact Text.flatMap_injective ofNat_toNat_injective rfl (shown?_showByte (Text.quoteFor_cases _))
    (List.append_cancel_right hrest)

/-- The kinds of literals that can be told by how they begin. -/
inductive Family where
  | word
  | truth
  | number
  | text
  | bytes
  | calendar
  | other
  deriving DecidableEq

/-- The kind of a literal by how it begins. -/
def familyOf : Text → Family
  | [] => .other
  | c :: _ =>
    if c.satisfies fun c => c.isDigit || c == '-' || c == 'i' || c == 'n' then .number
    else if c = 'N' then .word
    else if c = 'T' ∨ c = 'F' then .truth
    else if c = '\'' ∨ c = '"' then .text
    else if c = 'b' then .bytes
    else if c = 'd' then .calendar
    else .other

def family : Scalar → Family
  | .null => .word
  | .bool _ => .truth
  | .int _ | .float _ => .number
  | .text _ => .text
  | .binary _ => .bytes
  | .date _ | .time _ => .calendar

theorem familyOf_digits {negative : Prop} [Decidable negative] {cs : List Char}
    (hcs : ∃ d ds, cs = d :: ds ∧ d.isDigit = true) :
    familyOf (Text.ofChars ((if negative then ['-'] else []) ++ cs)) = .number := by
  obtain ⟨d, ds, rfl, hd⟩ := hcs
  split_ifs
  · rfl
  · show familyOf (.char d :: Text.ofChars ds) = .number
    simp [familyOf, CodePoint.satisfies, hd]

theorem familyOf_literal (s : Scalar) : familyOf s.literal = s.family := by
  cases s with
  | null => rfl
  | bool b => cases b <;> rfl
  | int n => exact familyOf_digits (Json.exists_toDigits_eq_cons n.natAbs)
  | float x =>
    cases x with
    | finite negative rank => exact familyOf_digits (Binary64.writeMagnitude_form rank.val).1
    | infinite negative => cases negative <;> rfl
    | nan => rfl
  | text t =>
    have hquoted : (text t).literal = .char (Text.quoteFor t) :: _ := rfl
    rw [hquoted]
    rcases Text.quoteFor_cases t with hquote | hquote
    · rw [hquote]
      rfl
    · rw [hquote]
      rfl
  | binary bytes => rfl
  | date d => rfl
  | time t => rfl

theorem literal_date_ne_time (d : Date) (t : DateTime) :
    (date d).literal ≠ (time t).literal := by
  intro h
  have hmark : some (CodePoint.char '(') = some (CodePoint.char 't') :=
    congrArg (fun t : Text => t[13]?) h
  exact absurd hmark (by decide)

/-- No two scalars have the same literal. -/
theorem literal_injective : Function.Injective literal := by
  intro s s' h
  -- The first code point tells the family, which leaves one kind, or two for numbers and days.
  have hfamily : s.family = s'.family := by
    rw [← familyOf_literal, ← familyOf_literal, h]
  cases s with
  | null => cases s' <;> first | rfl | cases hfamily
  | bool b =>
    cases s' with
    | bool b' => cases b <;> cases b' <;> first | rfl | exact absurd h (by decide)
    | _ => cases hfamily
  | int n =>
    cases s' with
    | int n' => exact congrArg int (Integer.toText_injective h)
    | float x => exact absurd h.symm (x.toText_ne_integer n)
    | _ => cases hfamily
  | float x =>
    cases s' with
    | int n => exact absurd h (x.toText_ne_integer n)
    | float x' => exact congrArg float (Binary64.toText_injective h)
    | _ => cases hfamily
  | text t =>
    cases s' with
    | text t' => exact congrArg text (Text.quoted_injective h)
    | _ => cases hfamily
  | binary bytes =>
    cases s' with
    | binary bytes' => exact congrArg binary (quotedBytes_injective h)
    | _ => cases hfamily
  | date d =>
    cases s' with
    | date d' => exact congrArg date (Date.literal_injective h)
    | time t => exact absurd h (literal_date_ne_time d t)
    | _ => cases hfamily
  | time t =>
    cases s' with
    | date d => exact absurd h.symm (literal_date_ne_time d t)
    | time t' => exact congrArg time (DateTime.literal_injective h)
    | _ => cases hfamily

end Scalar

end Yaml

end LogShipper
