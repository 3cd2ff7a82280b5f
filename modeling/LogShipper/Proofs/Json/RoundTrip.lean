import LogShipper.Proofs.Json.Scalars
import Mathlib.Data.List.Nodup
import Mathlib.Order.Lattice

/-!
# Reading values that were written

`read_toText`: a value is read back from its compact form if it holds no floating point number, no
two members of one name in an object, no integer that is too long, and no more collections inside
each other than are read.  The calls of the reader go down by one bound, so the three kinds of calls
are taken together, by induction on it.
-/

namespace LogShipper

namespace Json

/-! ## 1. Plain values -/

mutual

/-- Whether a value holds no floating point number and no object with two members of one name. -/
def isPlain : Json → Bool
  | .float _ => false
  | .array items => allPlain items
  | .object members => (members.map Prod.fst).Nodup && allMembersPlain members
  | _ => true

def allPlain : List Json → Bool
  | [] => true
  | item :: items => isPlain item && allPlain items

def allMembersPlain : List (Text × Json) → Bool
  | [] => true
  | (_, value) :: members => isPlain value && allMembersPlain members

end

mutual

/-- How many collections stand inside each other. -/
def depth : Json → Nat
  | .array items => depths items + 1
  | .object members => memberDepths members + 1
  | _ => 0

def depths : List Json → Nat
  | [] => 0
  | item :: items => max (depth item) (depths items)

def memberDepths : List (Text × Json) → Nat
  | [] => 0
  | (_, value) :: members => max (depth value) (memberDepths members)

end

theorem setMember_of_not_mem {name : Text} (value : Json) {members : List (Text × Json)}
    (h : name ∉ members.map Prod.fst) :
    setMember name value members = members ++ [(name, value)] := by
  induction members with
  | nil => rfl
  | cons m members ih =>
    obtain ⟨key, old⟩ := m
    simp only [List.map_cons, List.mem_cons, not_or] at h
    rw [setMember, if_neg (Ne.symm h.1), ih h.2, List.cons_append]

theorem settle_of_nodup {members : List (Text × Json)} (h : (members.map Prod.fst).Nodup) :
    settle members = members := by
  -- What has been settled so far is carried along, with its names.
  suffices hs : ∀ before, ((before ++ members).map Prod.fst).Nodup →
      members.foldl (fun settled m => setMember m.1 m.2 settled) before = before ++ members by
    simpa [settle] using hs [] (by simpa using h)
  clear h
  induction members with
  | nil => simp
  | cons m members ih =>
    intro before hb
    have hm : m.1 ∉ before.map Prod.fst := by
      intro hmem
      rw [List.map_append, List.map_cons, List.nodup_append] at hb
      exact hb.2.2 _ hmem _ (by simp) rfl
    rw [List.foldl_cons, setMember_of_not_mem m.2 hm, ih _ (by simpa using hb)]
    simp

theorem skipSpaces_cons {c : CodePoint} (h : isSpace c = false) (rest : Text) :
    skipSpaces (c :: rest) = c :: rest := by
  rw [skipSpaces, List.dropWhile_cons, if_neg (by simp [h])]

theorem integerText_head (n : Int) :
    ∃ c ds, Integer.toText n = .char c :: ds ∧ (c = '-' ∨ c.isDigit = true) := by
  by_cases hn : n < 0
  · exact ⟨'-', Text.ofChars (Nat.toDigits 10 n.natAbs),
      by simp [Integer.toText, hn, Text.ofChars], .inl rfl⟩
  · obtain ⟨c, ds, hc, hdigit⟩ := exists_toDigits_eq_cons n.natAbs
    exact ⟨c, Text.ofChars ds, by simp [Integer.toText, hn, hc, Text.ofChars], .inr hdigit⟩

theorem ne_of_sign_or_digit {c d : Char} (h : c = '-' ∨ c.isDigit = true) (hs : d ≠ '-')
    (hd : d.isDigit = false) : CodePoint.char c ≠ .char d := by
  intro hcd
  rw [CodePoint.char.inj hcd] at h
  rcases h with h | h
  · exact hs h
  · rw [hd] at h
    cases h

theorem toText_head {value : Json} (h : value.isPlain = true) :
    ∃ c after, value.toText = c :: after ∧ isSpace c = false ∧ c ≠ .char ']' := by
  cases value with
  | null => exact ⟨_, _, rfl, by decide, by decide⟩
  | bool b => cases b <;> exact ⟨_, _, rfl, by decide, by decide⟩
  | int n =>
    obtain ⟨c, ds, hc, hd⟩ := integerText_head n
    refine ⟨_, _, hc, ?_, ne_of_sign_or_digit hd (by decide) rfl⟩
    have hspace := ne_of_sign_or_digit hd (d := ' ') (by decide) rfl
    have htab := ne_of_sign_or_digit hd (d := '\t') (by decide) rfl
    have hline := ne_of_sign_or_digit hd (d := '\n') (by decide) rfl
    have hreturn := ne_of_sign_or_digit hd (d := '\r') (by decide) rfl
    simp_all [isSpace, CodePoint.satisfies]
  | float x => cases h
  | text t => exact ⟨_, _, rfl, by decide, by decide⟩
  | array items => exact ⟨_, _, rfl, by decide, by decide⟩
  | object members => exact ⟨_, _, rfl, by decide, by decide⟩

/-! ## 2. The forms of collections -/

/-- The forms of the items of an array, separated. -/
def joinedItems (items : List Json) : Text :=
  Text.joinWith "," (itemTexts items)

def joinedMembers (members : List (Text × Json)) : Text :=
  Text.joinWith "," (memberTexts members)

theorem joinedItems_singleton (item : Json) : joinedItems [item] = item.toText := rfl

theorem joinedItems_cons_cons (item next : Json) (items : List Json) :
    joinedItems (item :: next :: items) =
      item.toText ++ .char ',' :: joinedItems (next :: items) := by
  simp only [joinedItems, itemTexts, Text.joinWith, List.append_assoc]
  rfl

theorem joinedMembers_singleton (name : Text) (value : Json) :
    joinedMembers [(name, value)] = writeText name ++ .char ':' :: value.toText := by
  simp only [joinedMembers, memberTexts, Text.joinWith, List.append_assoc]
  rfl

theorem joinedMembers_cons_cons (name : Text) (value : Json) (next : Text × Json)
    (members : List (Text × Json)) :
    joinedMembers ((name, value) :: next :: members) =
      writeText name ++
        .char ':' :: (value.toText ++ .char ',' :: joinedMembers (next :: members)) := by
  simp only [joinedMembers, memberTexts, Text.joinWith, List.append_assoc]
  rfl

theorem toText_array (items : List Json) :
    (Json.array items).toText = .char '[' :: (joinedItems items ++ [.char ']']) := by
  rw [toText, List.append_assoc]
  rfl

theorem toText_object (members : List (Text × Json)) :
    (Json.object members).toText = .char '\x7b' :: (joinedMembers members ++ [.char '\x7d']) := by
  rw [toText, List.append_assoc]
  rfl

theorem writeText_append (t rest : Text) :
    writeText t ++ rest = .char '"' :: (t.flatMap escape ++ .char '"' :: rest) := by
  simp [writeText]

theorem endsValue_cons {c : CodePoint} (h : c = .char ',' ∨ c = .char '\x7d' ∨ c = .char ']')
    (rest : Text) : EndsValue (c :: rest) := by
  intro d hd
  rcases h with rfl | rfl | rfl <;> simp_all

theorem toText_length_pos {value : Json} (h : value.isPlain = true) : 0 < value.toText.length := by
  obtain ⟨c, after, hc, -⟩ := toText_head h
  rw [hc]
  simp

/-! ## 3. Reading -/

/-- What is asked of a value for a reader that lets collections stand `d` deep to read it back. -/
structure Readable (value : Json) (d : Nat) : Prop where
  isPlain : value.isPlain = true
  notOversized : value.hasOversized = false
  depth_le : value.depth ≤ d

theorem Readable.mono {value : Json} {d e : Nat} (h : Readable value d) (hde : d ≤ e) :
    Readable value e :=
  ⟨h.isPlain, h.notOversized, le_trans h.depth_le hde⟩

/-- With this bound written values are read back. -/
def ReadsValues (bound : Nat) : Prop :=
  ∀ (value : Json) (d : Nat) (rest : Text), Readable value d →
    3 * value.toText.length + 1 ≤ bound → EndsValue rest →
    readValue bound d (value.toText ++ rest) = .ok (value, rest)

def ReadsElements (bound : Nat) : Prop :=
  ∀ (items : List Json) (d : Nat) (rest : Text), items ≠ [] →
    (∀ item ∈ items, Readable item d) → 3 * (joinedItems items).length + 2 ≤ bound →
    readElements bound d (joinedItems items ++ .char ']' :: rest) = .ok (items, rest)

def ReadsMembers (bound : Nat) : Prop :=
  ∀ (members : List (Text × Json)) (d : Nat) (rest : Text), members ≠ [] →
    (∀ m ∈ members, Readable m.2 d) → 3 * (joinedMembers members).length + 1 ≤ bound →
    readMembers bound d (joinedMembers members ++ .char '\x7d' :: rest) = .ok (members, rest)

theorem skipSpaces_joinedItems {item : Json} (h : item.isPlain = true) (items : List Json)
    (rest : Text) :
    skipSpaces (joinedItems (item :: items) ++ rest) = joinedItems (item :: items) ++ rest := by
  obtain ⟨c, after, hc, hs, -⟩ := toText_head h
  cases items with
  | nil => rw [joinedItems_singleton, hc, List.cons_append, skipSpaces_cons hs]
  | cons next items =>
    rw [joinedItems_cons_cons, hc, List.cons_append, List.cons_append, skipSpaces_cons hs]

theorem joinedMembers_append (name : Text) (value : Json) (members : List (Text × Json))
    (rest : Text) :
    ∃ after, joinedMembers ((name, value) :: members) ++ rest = .char '"' :: after := by
  cases members with
  | nil =>
    rw [joinedMembers_singleton, List.append_assoc, writeText_append]
    exact ⟨_, rfl⟩
  | cons next members =>
    rw [joinedMembers_cons_cons, List.append_assoc, writeText_append]
    exact ⟨_, rfl⟩

theorem readsElements_succ {bound : Nat} (hv : ReadsValues bound) (he : ReadsElements bound) :
    ReadsElements (bound + 1) := by
  intro items d rest hne hi hb
  cases items with
  | nil => exact absurd rfl hne
  | cons item items =>
    have hitem := hi item (by simp)
    -- The last item is followed by the bracket, the others by a comma.
    cases items with
    | nil =>
      rw [joinedItems_singleton] at hb ⊢
      rw [readElements, hv item d _ hitem (by omega) (endsValue_cons (by simp) _)]
      simp only [bind, Except.bind]
      rw [skipSpaces_cons (by decide)]
      rfl
    | cons next items =>
      rw [joinedItems_cons_cons] at hb ⊢
      simp only [List.length_append, List.length_cons] at hb
      rw [List.append_assoc, List.cons_append, readElements,
        hv item d _ hitem (by omega) (endsValue_cons (by simp) _)]
      simp only [bind, Except.bind]
      rw [skipSpaces_cons (by decide)]
      show (readElements bound d (skipSpaces (joinedItems (next :: items) ++ .char ']' :: rest)) >>=
        _) = _
      rw [skipSpaces_joinedItems (hi next (by simp)).isPlain,
        he (next :: items) d rest (by simp) (fun i h => hi i (by simp [h])) (by omega)]
      rfl

theorem readMembers_first {bound d : Nat} (hv : ReadsValues bound) {name : Text} {value : Json}
    (h : Readable value d) (hb : 3 * value.toText.length + 1 ≤ bound) {rest : Text}
    (hr : EndsValue rest) :
    readMembers (bound + 1) d (writeText name ++ .char ':' :: (value.toText ++ rest)) =
      match skipSpaces rest with
      | .char '\x7d' :: rest => .ok ([(name, value)], rest)
      | .char ',' :: rest => do
        let (members, after) ← readMembers bound d (skipSpaces rest)
        return ((name, value) :: members, after)
      | rest => .error (.malformed .comma rest) := by
  obtain ⟨c, after, hc, hs, -⟩ := toText_head h.isPlain
  have hspace : skipSpaces (value.toText ++ rest) = value.toText ++ rest := by
    rw [hc, List.cons_append, skipSpaces_cons hs]
  rw [writeText_append, readMembers]
  dsimp only
  rw [readText_writeText]
  simp only [bind, Except.bind]
  rw [skipSpaces_cons (by decide)]
  show (readValue bound d (skipSpaces (value.toText ++ rest)) >>= _) = _
  rw [hspace, hv value d rest h hb hr]
  rfl

theorem readsMembers_succ {bound : Nat} (hv : ReadsValues bound) (hm : ReadsMembers bound) :
    ReadsMembers (bound + 1) := by
  intro members d rest hne hi hb
  cases members with
  | nil => exact absurd rfl hne
  | cons m members =>
    obtain ⟨name, value⟩ := m
    have hvalue : Readable value d := hi (name, value) (by simp)
    -- The last member is followed by the brace, the others by a comma.
    cases members with
    | nil =>
      rw [joinedMembers_singleton] at hb ⊢
      simp only [List.length_append, List.length_cons] at hb
      rw [List.append_assoc, List.cons_append,
        readMembers_first hv hvalue (by omega) (endsValue_cons (by simp) _),
        skipSpaces_cons (by decide)]
      rfl
    | cons next members =>
      rw [joinedMembers_cons_cons] at hb ⊢
      simp only [List.length_append, List.length_cons] at hb
      obtain ⟨after, ha⟩ := joinedMembers_append next.1 next.2 members (.char '\x7d' :: rest)
      rw [List.append_assoc, List.cons_append, List.append_assoc, List.cons_append,
        readMembers_first hv hvalue (by omega) (endsValue_cons (by simp) _),
        skipSpaces_cons (by decide)]
      show (readMembers bound d
        (skipSpaces (joinedMembers (next :: members) ++ .char '\x7d' :: rest)) >>= _) = _
      rw [ha, skipSpaces_cons (by decide), ← ha,
        hm (next :: members) d rest (by simp) (fun m h => hi m (by simp [h])) (by omega)]
      rfl

theorem readable_items_iff {items : List Json} {d : Nat} :
    allPlain items = true ∧ anyOversized items = false ∧ depths items ≤ d ↔
      ∀ item ∈ items, Readable item d := by
  induction items with
  | nil => simp [allPlain, anyOversized, depths]
  | cons item items ih =>
    simp only [allPlain, Bool.and_eq_true, anyOversized, Bool.or_eq_false_iff, depths,
      Nat.max_le, List.forall_mem_cons, ← ih]
    constructor
    · rintro ⟨hp, ho, hd⟩
      exact ⟨⟨hp.1, ho.1, hd.1⟩, hp.2, ho.2, hd.2⟩
    · rintro ⟨h, hp, ho, hd⟩
      exact ⟨⟨h.isPlain, hp⟩, ⟨h.notOversized, ho⟩, h.depth_le, hd⟩

theorem readable_members_iff {members : List (Text × Json)} {d : Nat} :
    allMembersPlain members = true ∧ anyMemberOversized members = false ∧
        memberDepths members ≤ d ↔
      ∀ m ∈ members, Readable m.2 d := by
  induction members with
  | nil => simp [allMembersPlain, anyMemberOversized, memberDepths]
  | cons m members ih =>
    obtain ⟨name, value⟩ := m
    simp only [allMembersPlain, Bool.and_eq_true, anyMemberOversized, Bool.or_eq_false_iff,
      memberDepths, Nat.max_le, List.forall_mem_cons, ← ih]
    constructor
    · rintro ⟨hp, ho, hd⟩
      exact ⟨⟨hp.1, ho.1, hd.1⟩, hp.2, ho.2, hd.2⟩
    · rintro ⟨h, hp, ho, hd⟩
      exact ⟨⟨h.isPlain, hp⟩, ⟨h.notOversized, ho⟩, h.depth_le, hd⟩

theorem readable_array_iff {items : List Json} {d : Nat} :
    Readable (.array items) (d + 1) ↔ ∀ item ∈ items, Readable item d := by
  rw [← readable_items_iff]
  constructor
  · exact fun h => ⟨h.isPlain, h.notOversized, Nat.le_of_succ_le_succ h.depth_le⟩
  · exact fun h => ⟨h.1, h.2.1, Nat.succ_le_succ h.2.2⟩

theorem readable_object_iff {members : List (Text × Json)} {d : Nat} :
    Readable (.object members) (d + 1) ↔
      (members.map Prod.fst).Nodup ∧ ∀ m ∈ members, Readable m.2 d := by
  rw [← readable_members_iff]
  constructor
  · intro h
    have hp := h.isPlain
    simp only [isPlain, Bool.and_eq_true, decide_eq_true_eq] at hp
    exact ⟨hp.1, hp.2, h.notOversized, Nat.le_of_succ_le_succ h.depth_le⟩
  · rintro ⟨hn, hp, ho, hd⟩
    refine ⟨?_, ho, Nat.succ_le_succ hd⟩
    simp only [isPlain, Bool.and_eq_true, decide_eq_true_eq]
    exact ⟨hn, hp⟩

theorem readable_text (t : Text) (d : Nat) : Readable (.text t) d :=
  ⟨rfl, rfl, Nat.zero_le d⟩

theorem readArray_toText {bound d : Nat} (he : ReadsElements bound) {items : List Json}
    (h : Readable (.array items) d) (hb : 3 * (joinedItems items).length + 2 ≤ bound)
    (rest : Text) :
    readArray (bound + 1) d (joinedItems items ++ .char ']' :: rest) =
      .ok (.array items, rest) := by
  obtain _ | d := d
  · exact absurd h.depth_le (Nat.not_succ_le_zero _)
  cases items with
  | nil =>
    show readArray (bound + 1) (d + 1) (.char ']' :: rest) = _
    rw [readArray, skipSpaces_cons (by decide)]
    rfl
  | cons item items =>
    have hi := readable_array_iff.1 h
    obtain ⟨c, after, hc, -, hne⟩ := toText_head (hi item (by simp)).isPlain
    obtain ⟨tail, ht⟩ : ∃ tail, joinedItems (item :: items) ++ .char ']' :: rest = c :: tail := by
      cases items with
      | nil => exact ⟨_, by rw [joinedItems_singleton, hc, List.cons_append]⟩
      | cons next items =>
        exact ⟨_, by rw [joinedItems_cons_cons, hc, List.cons_append, List.cons_append]⟩
    rw [readArray, skipSpaces_joinedItems (hi item (by simp)).isPlain]
    have hr := he (item :: items) d rest (by simp) hi hb
    -- The array is not taken for an empty one, since no value begins with its bracket.
    rw [ht] at hr ⊢
    split
    · rename_i heq
      exact absurd (List.cons.inj heq).1 hne
    · rw [hr]
      rfl

theorem readObject_toText {bound d : Nat} (hm : ReadsMembers bound) {members : List (Text × Json)}
    (h : Readable (.object members) d) (hb : 3 * (joinedMembers members).length + 1 ≤ bound)
    (rest : Text) :
    readObject (bound + 1) d (joinedMembers members ++ .char '\x7d' :: rest) =
      .ok (.object members, rest) := by
  obtain _ | d := d
  · exact absurd h.depth_le (Nat.not_succ_le_zero _)
  obtain ⟨hnodup, hi⟩ := readable_object_iff.1 h
  cases members with
  | nil =>
    show readObject (bound + 1) (d + 1) (.char '\x7d' :: rest) = _
    rw [readObject, skipSpaces_cons (by decide)]
    rfl
  | cons m members =>
    obtain ⟨after, ha⟩ := joinedMembers_append m.1 m.2 members (.char '\x7d' :: rest)
    have hr := hm (m :: members) d rest (by simp) hi hb
    rw [ha] at hr ⊢
    rw [readObject, skipSpaces_cons (by decide)]
    show (readMembers bound d (.char '"' :: after) >>= _) = _
    rw [hr]
    show Except.ok (Json.object (settle (m :: members)), rest) = _
    -- No name comes twice, so that the members stay as they are.
    rw [settle_of_nodup hnodup]

theorem readValue_of_readWord {c : CodePoint} (hq : c ≠ .char '"') (hb : c ≠ .char '\x7b')
    (ha : c ≠ .char '[') (bound d : Nat) (rest : Text) :
    readValue (bound + 1) d (c :: rest) = readWord (c :: rest) := by
  rw [readValue, if_neg hq, if_neg hb, if_neg ha]

theorem readWord_null (rest : Text) : readWord (toText .null ++ rest) = .ok (.null, rest) := by
  simp [readWord, toText, Text.ofString, Text.dropStart?]

theorem readWord_bool (b : Bool) (rest : Text) :
    readWord (toText (.bool b) ++ rest) = .ok (.bool b, rest) := by
  cases b <;> simp [readWord, toText, Text.ofString, Text.dropStart?]

theorem readsValues_succ {bound : Nat} (he : ReadsElements bound) (hm : ReadsMembers bound) :
    ReadsValues (bound + 2) := by
  intro value d rest h hb hr
  -- Collections take two from the bound: one for the value, one for the call behind the bracket.
  cases value with
  | null =>
    have hw := readWord_null rest
    exact (readValue_of_readWord (by decide) (by decide) (by decide) _ _ _).trans hw
  | bool b =>
    have hw := readWord_bool b rest
    cases b <;> exact (readValue_of_readWord (by decide) (by decide) (by decide) _ _ _).trans hw
  | float x => cases h.isPlain
  | int n =>
    obtain ⟨c, ds, hc, hd⟩ := integerText_head n
    have hw := readWord_toText h.notOversized hr
    rw [toText]
    rw [hc] at hw ⊢
    exact (readValue_of_readWord (ne_of_sign_or_digit hd (by decide) rfl)
      (ne_of_sign_or_digit hd (by decide) rfl) (ne_of_sign_or_digit hd (by decide) rfl)
      _ _ _).trans hw
  | text t =>
    rw [toText, writeText_append, readValue, if_pos rfl, readText_writeText]
    rfl
  | array items =>
    rw [toText_array] at hb ⊢
    simp only [List.length_append, List.length_cons, List.length_nil] at hb
    rw [List.cons_append, List.append_assoc, readValue]
    exact readArray_toText he h (by omega) rest
  | object members =>
    rw [toText_object] at hb ⊢
    simp only [List.length_append, List.length_cons, List.length_nil] at hb
    rw [List.cons_append, List.append_assoc, readValue]
    exact readObject_toText hm h (by omega) rest

theorem readsValues_of_lt_two {bound : Nat} (hbound : bound < 2) : ReadsValues bound := by
  intro value d rest h hb
  have hpos := toText_length_pos h.isPlain
  omega

theorem reads (bound : Nat) : ReadsValues bound ∧ ReadsElements bound ∧ ReadsMembers bound := by
  -- A value hands its bound minus two to the items inside, those hand theirs minus one to values.
  induction bound using Nat.strong_induction_on with
  | h bound ih =>
    match bound with
    | 0 =>
      refine ⟨readsValues_of_lt_two (by omega), ?_, ?_⟩ <;>
        (intro items d rest hne hi hb; omega)
    | 1 =>
      obtain ⟨hv, he, hm⟩ := ih 0 (by omega)
      exact ⟨readsValues_of_lt_two (by omega), readsElements_succ hv he, readsMembers_succ hv hm⟩
    | bound + 2 =>
      obtain ⟨-, he, hm⟩ := ih bound (by omega)
      obtain ⟨hv', he', hm'⟩ := ih (bound + 1) (by omega)
      exact ⟨readsValues_succ he hm, readsElements_succ hv' he', readsMembers_succ hv' hm'⟩

/-- A written value is read back. -/
theorem read_toText {value : Json} (h : Readable value maxDepth) :
    read value.toText = .ok value := by
  obtain ⟨c, after, hc, hs, -⟩ := toText_head h.isPlain
  have hspace : skipSpaces value.toText = value.toText := by rw [hc, skipSpaces_cons hs]
  have hv :=
    (reads (3 * value.toText.length + 1)).1 value maxDepth [] h le_rfl (by simp [EndsValue])
  -- The bound that the reader sets itself is the one that suffices.
  rw [List.append_nil] at hv
  rw [read, parse, hspace, hv]
  rfl

end Json

end LogShipper
