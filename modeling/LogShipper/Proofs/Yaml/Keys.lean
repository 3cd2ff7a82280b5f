import LogShipper.Proofs.Except
import LogShipper.Yaml

/-!
# Keys of mappings

No two keys of a mapping in a document are the same.  A pair whose key is there already changes the
value of that key, so no step of building a document can add a second one.
-/

namespace LogShipper.Yaml

/-! ## 1. Pairs -/

theorem Scalar.sameKey_self (s : Scalar) : s.sameKey s = true := by
  cases s with
  | time t => simp [sameKey, number?, DateTime.isSame]
  | _ => simp [sameKey, number?]

/-- No two of the keys are the same. -/
def HaveDistinctKeys (pairs : List (Scalar × Item)) : Prop :=
  pairs.Pairwise fun first second => first.1.sameKey second.1 = false

variable {pairs : List (Scalar × Item)}

theorem Build.key_of_mem_setPair {key : Scalar} {item : Item} {pair : Scalar × Item}
    (h : pair ∈ setPair key item pairs) : pair.1 = key ∨ ∃ old, (pair.1, old) ∈ pairs := by
  induction pairs with
  | nil =>
    obtain rfl := List.mem_singleton.1 h
    exact .inl rfl
  | cons first pairs ih =>
    obtain ⟨other, old⟩ := first
    rw [setPair] at h
    split at h
    · rcases List.mem_cons.1 h with rfl | h
      · exact .inr ⟨old, List.mem_cons_self⟩
      · exact .inr ⟨pair.2, List.mem_cons_of_mem _ h⟩
    · rcases List.mem_cons.1 h with rfl | h
      · exact .inr ⟨old, List.mem_cons_self⟩
      · rcases ih h with hkey | ⟨value, hvalue⟩
        · exact .inl hkey
        · exact .inr ⟨value, List.mem_cons_of_mem _ hvalue⟩

namespace HaveDistinctKeys

theorem pairwise_ne (h : HaveDistinctKeys pairs) :
    pairs.Pairwise fun first second => first.1 ≠ second.1 := by
  refine List.Pairwise.imp (fun {first second} hkeys hsame => ?_) h
  rw [hsame, Scalar.sameKey_self] at hkeys
  cases hkeys

/-- The value of a key is that of the one pair with it. -/
theorem lookup_eq_some_iff (h : HaveDistinctKeys pairs) {key : Scalar} {item : Item} :
    pairs.lookup key = some item ↔ (key, item) ∈ pairs := by
  induction pairs with
  | nil => exact ⟨nofun, nofun⟩
  | cons pair pairs ih =>
    obtain ⟨other, old⟩ := pair
    obtain ⟨hother, hpairs⟩ := List.pairwise_cons.1 h
    rw [List.lookup_cons, List.mem_cons, Prod.mk.injEq]
    by_cases hkey : key = other
    · subst hkey
      have habsent : (key, item) ∉ pairs := by
        intro hmem
        have hkeys := hother _ hmem
        rw [Scalar.sameKey_self] at hkeys
        cases hkeys
      simp [habsent, eq_comm]
    · simp [beq_false_of_ne hkey, hkey, ih hpairs]

theorem setPair (h : HaveDistinctKeys pairs) (key : Scalar) (item : Item) :
    HaveDistinctKeys (Build.setPair key item pairs) := by
  induction pairs with
  | nil => exact List.pairwise_singleton _ _
  | cons first pairs ih =>
    obtain ⟨other, old⟩ := first
    obtain ⟨hother, hpairs⟩ := List.pairwise_cons.1 h
    rw [Build.setPair]
    split
    · exact List.pairwise_cons.2 ⟨hother, hpairs⟩
    · rename_i hkey
      refine List.pairwise_cons.2 ⟨fun pair hpair => ?_, ih hpairs⟩
      rcases Build.key_of_mem_setPair hpair with hsame | ⟨value, hvalue⟩
      · rw [hsame]
        exact Bool.eq_false_iff.2 hkey
      · exact hother (pair.1, value) hvalue

end HaveDistinctKeys

/-! ## 2. Steps of building -/

/-- Of mappings the keys are distinct. -/
def Filling.IsSound : Filling → Prop
  | .mapping entries => HaveDistinctKeys entries
  | _ => True

namespace Build

variable {α β : Type} {post : α → Prop} {after : β → Prop} {builder : Builder}

/-- Whenever a step gives a result from the given state, the result is as said and no collection has
been filled. -/
def YieldsFrom (builder : Builder) (step : Build α) (post : α → Prop) : Prop :=
  ∀ a next, step builder = .ok (a, next) → next.fillings = builder.fillings ∧ post a

/-- The same from every state. -/
def Yields (step : Build α) (post : α → Prop) : Prop :=
  ∀ builder, YieldsFrom builder step post

theorem bind_eq_ok {step : Build α} {next : α → Build β} {b : β} {final : Builder}
    (h : (step >>= next) builder = .ok (b, final)) :
    ∃ a middle, step builder = .ok (a, middle) ∧ next a middle = .ok (b, final) := by
  obtain ⟨⟨a, middle⟩, hstep, hnext⟩ := bind_eq_ok_iff.1 h
  exact ⟨a, middle, hstep, hnext⟩

theorem YieldsFrom.pure {a : α} (h : post a) : YieldsFrom builder (pure a : Build α) post := by
  intro a' next hstep
  obtain ⟨rfl, rfl⟩ := Prod.mk.inj (Except.ok.inj hstep)
  exact ⟨rfl, h⟩

theorem YieldsFrom.throw (fault : Fault) : YieldsFrom builder (throw fault : Build α) post := nofun

theorem YieldsFrom.bind {step : Build α} {next : α → Build β}
    (hstep : YieldsFrom builder step post) (hnext : ∀ a, post a → Yields (next a) after) :
    YieldsFrom builder (step >>= next) after := by
  intro b final h
  obtain ⟨a, middle, ha, hb⟩ := bind_eq_ok h
  obtain ⟨hfillings, ha⟩ := hstep a middle ha
  obtain ⟨hkept, hb⟩ := hnext a ha middle b final hb
  exact ⟨hkept.trans hfillings, hb⟩

/-- What follows a look at the state starts from that state. -/
theorem YieldsFrom.get_bind {next : Builder → Build β}
    (h : YieldsFrom builder (next builder) after) : YieldsFrom builder (get >>= next) after := h

theorem YieldsFrom.set_bind {changed : Builder} {next : PUnit → Build β}
    (hkept : changed.fillings = builder.fillings) (h : YieldsFrom changed (next ⟨⟩) after) :
    YieldsFrom builder (set changed >>= next) after := by
  intro b final hb
  obtain ⟨hfillings, hb⟩ := h b final hb
  exact ⟨hfillings.trans hkept, hb⟩

theorem YieldsFrom.lift_bind {result : Except Fault α} {next : α → Build β}
    (h : ∀ a, YieldsFrom builder (next a) after) :
    YieldsFrom builder ((liftM result : Build α) >>= next) after := by
  intro b final hb
  cases result with
  | ok a => exact h a b final hb
  | error fault => cases hb

theorem yields_makeNew (place : Nat) : Yields (makeNew place) fun _ => True := by
  intro builder
  unfold makeNew
  refine .get_bind ?_
  split
  · exact .throw _
  · exact .throw _
  · exact .throw _
  · split
    · exact .set_bind rfl (.pure trivial)
    · exact .lift_bind fun _ => .set_bind rfl (.pure trivial)

theorem yields_make (place : Nat) : Yields (make place) fun _ => True := by
  intro builder
  unfold make
  refine .get_bind ?_
  split
  · exact .pure trivial
  · exact yields_makeNew place builder

theorem yields_makeKey (place : Nat) : Yields (makeKey place) fun _ => True := by
  intro builder
  unfold makeKey
  refine .bind (yields_make place builder) fun item _ builder => ?_
  cases item with
  | scalar s => exact .pure trivial
  | collection place => exact .throw _

theorem yields_foldlM {step : β → α → Build β} {items : List α}
    (hstep : ∀ b, after b → ∀ a, Yields (step b a) after) {b : β} (hb : after b) :
    Yields (items.foldlM step b) after := by
  induction items generalizing b with
  | nil => exact fun _ => .pure hb
  | cons a items ih =>
    intro builder
    rw [List.foldlM_cons]
    exact .bind (hstep b hb a builder) fun b hb => ih hb

theorem yields_mapM {step : α → Build β} (items : List α)
    (hstep : ∀ a, Yields (step a) fun _ => True) : Yields (items.mapM step) fun _ => True := by
  induction items with
  | nil => exact fun _ => .pure trivial
  | cons a items ih =>
    intro builder
    rw [List.mapM_cons]
    exact .bind (hstep a builder) fun b _ builder =>
      .bind (ih builder) fun _ _ _ => .pure trivial

/-- The pairs of a mapping are set one after the other. -/
theorem yields_makePairs (place : Nat) : Yields (makePairs place) HaveDistinctKeys := by
  intro builder
  unfold makePairs
  refine .get_bind ?_
  split
  · refine .get_bind (.lift_bind fun nodes => .set_bind rfl ?_)
    refine yields_foldlM (fun pairs hpairs pair builder => ?_) List.Pairwise.nil _
    refine .bind (yields_makeKey pair.1 builder) fun key _ builder => ?_
    exact .bind (yields_make pair.2 builder) fun item _ _ =>
      .pure (HaveDistinctKeys.setPair hpairs key item)
  · exact .throw _

theorem yields_itemsAt (place : Nat) : Yields (itemsAt place) fun _ => True := by
  intro builder
  unfold itemsAt
  refine .get_bind ?_
  split
  · exact .pure trivial
  · exact .throw _

theorem yields_makeOnlyPair (place : Nat) : Yields (makeOnlyPair place) fun _ => True := by
  intro builder
  unfold makeOnlyPair
  refine .get_bind ?_
  split
  · rename_i key value _
    exact .bind (yields_make key builder) fun _ _ builder =>
      .bind (yields_make value builder) fun _ _ _ => .pure trivial
  · exact .throw _

theorem yields_makeFilling (place : Nat) : Yields (makeFilling place) Filling.IsSound := by
  intro builder
  unfold makeFilling
  refine .get_bind ?_
  split
  · exact .bind (yields_makePairs place builder) fun _ hpairs _ => .pure hpairs
  · exact .bind (yields_makePairs place builder) fun _ _ _ => .pure trivial
  · exact .bind (yields_itemsAt place builder) fun items _ builder =>
      .bind (yields_mapM items yields_makeOnlyPair builder) fun _ _ _ => .pure trivial
  · exact .bind (yields_itemsAt place builder) fun items _ builder =>
      .bind (yields_mapM items yields_makeOnlyPair builder) fun _ _ _ => .pure trivial
  · exact .bind (yields_itemsAt place builder) fun items _ builder =>
      .bind (yields_mapM items yields_make builder) fun _ _ _ => .pure trivial

end Build

/-! ## 3. Documents -/

/-- All that has been filled is sound. -/
def AreSound (fillings : List (Nat × Filling)) : Prop :=
  ∀ entry ∈ fillings, entry.2.IsSound

theorem areSound_fillAll {bound : Nat} {builder final : Builder} (h : AreSound builder.fillings)
    (hfill : Build.fillAll bound builder = .ok ((), final)) : AreSound final.fillings := by
  induction bound generalizing builder with
  | zero =>
    obtain rfl : builder = final := (Prod.mk.inj (Except.ok.inj hfill)).2
    exact h
  | succ bound ih =>
    unfold Build.fillAll at hfill
    obtain ⟨found, same, hget, hfill⟩ := Build.bind_eq_ok hfill
    obtain ⟨rfl, rfl⟩ := Prod.mk.inj (Except.ok.inj hget)
    -- With each collection that waits one filling is added, which is sound by itself.
    cases hwaiting : builder.waiting with
    | nil =>
      rw [hwaiting] at hfill
      obtain rfl : builder = final := (Prod.mk.inj (Except.ok.inj hfill)).2
      exact h
    | cons place waiting =>
      rw [hwaiting] at hfill
      obtain ⟨_, shorter, hset, hfill⟩ := Build.bind_eq_ok hfill
      obtain rfl : { builder with waiting } = shorter := (Prod.mk.inj (Except.ok.inj hset)).2
      obtain ⟨filling, made, hmade, hfill⟩ := Build.bind_eq_ok hfill
      obtain ⟨_, filled, hfilled, hfill⟩ := Build.bind_eq_ok hfill
      obtain rfl : { made with fillings := (place, filling) :: made.fillings } = filled :=
        (Prod.mk.inj (Except.ok.inj hfilled)).2
      obtain ⟨hkept, hfilling⟩ := Build.yields_makeFilling place _ filling made hmade
      have hsound : AreSound ((place, filling) :: made.fillings) := by
        rw [hkept]
        exact List.forall_mem_cons.2 ⟨hfilling, h⟩
      exact ih hsound hfill

theorem areSound_ofGraph {graph : Graph} {document : Document}
    (h : Document.ofGraph graph = .ok document) : AreSound document.fillings := by
  unfold Document.ofGraph at h
  obtain ⟨⟨root, final⟩, hbuild, h⟩ := bind_eq_ok_iff.1 h
  obtain rfl := Except.ok.inj h
  obtain ⟨root', made, hroot, hbuild⟩ := Build.bind_eq_ok hbuild
  obtain ⟨_, filled, hfilled, hbuild⟩ := Build.bind_eq_ok hbuild
  obtain ⟨rfl, rfl⟩ := Prod.mk.inj (Except.ok.inj hbuild)
  obtain ⟨hkept, -⟩ := Build.yields_make graph.root _ root' made hroot
  refine areSound_fillAll ?_ hfilled
  rw [hkept]
  exact nofun

/-- In a document that was read the keys of each mapping are distinct. -/
theorem areSound_read {t : Text} {document : Document} (h : read t = .ok document) :
    AreSound document.fillings := by
  unfold read at h
  obtain ⟨-, h⟩ := guard_bind_eq_ok_iff.1 h
  obtain ⟨graph?, hgraph, h⟩ := bind_eq_ok_iff.1 h
  cases graph? with
  | none =>
    obtain rfl := Except.ok.inj h
    exact nofun
  | some graph => exact areSound_ofGraph h

theorem isSound_fillingAt {document : Document} (h : AreSound document.fillings) (place : Nat) :
    (document.fillingAt place).IsSound := by
  unfold Document.fillingAt
  cases hfilling : document.fillings.lookup place with
  | none => exact trivial
  | some filling =>
    obtain ⟨before, after, hfillings, -⟩ := List.lookup_eq_some_iff.1 hfilling
    refine h (place, filling) ?_
    rw [hfillings]
    exact List.mem_append_right _ List.mem_cons_self

/-- The keys of a document that is a mapping are distinct. -/
theorem haveDistinctKeys_of_read {t : Text} {document : Document} {pairs : List (Scalar × Item)}
    (h : read t = .ok document) (hpairs : document.pairs? = some pairs) :
    HaveDistinctKeys pairs := by
  unfold Document.pairs? at hpairs
  split at hpairs
  · cases hpairs
  · rename_i place _
    have hsound := isSound_fillingAt (areSound_read h) place
    split at hpairs
    · rename_i found hfound
      obtain rfl := Option.some.inj hpairs
      rw [hfound] at hsound
      exact hsound
    · cases hpairs

end LogShipper.Yaml
