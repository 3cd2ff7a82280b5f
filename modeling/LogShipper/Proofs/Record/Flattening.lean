import LogShipper.Proofs.Record.Mapping
import LogShipper.Proofs.Text.Splitting
import Mathlib.Data.List.Nodup

/-!
# Nested and flat records

The leaves of an object are the values in it, and in the objects inside it, that are no objects
themselves.  A flat object holds the leaves of a nested one under the joined names on the way to
them.  As long as no name holds a point, a field that is no object is the same in both, and so is
the event of a record.
-/

namespace LogShipper

namespace Json

/-! ## 1. Leaves -/

def isObject : Json → Bool
  | .object _ => true
  | _ => false

mutual

/-- The leaves of a value, each with the names on the way to it. -/
def leaves : Json → List (List Text × Json)
  | .object members => memberLeaves members
  | value => [([], value)]

def memberLeaves : List (Text × Json) → List (List Text × Json)
  | [] => []
  | (name, value) :: members =>
    (leaves value).map (fun (path, leaf) => (name :: path, leaf)) ++ memberLeaves members

end

/-- The members of the flat object that holds the leaves of an object. -/
def flatten (members : List (Text × Json)) : List (Text × Json) :=
  (memberLeaves members).map fun (path, leaf) => (Text.joinWith "." path, leaf)

mutual

/-- Whether the objects in a value, but for those in arrays, have different names for their members
and no name with a point. -/
def isUndotted : Json → Bool
  | .object members => (members.map Prod.fst).Nodup && areUndotted members
  | _ => true

def areUndotted : List (Text × Json) → Bool
  | [] => true
  | (name, value) :: members =>
    !name.contains '.' && isUndotted value && areUndotted members

end

variable {members : List (Text × Json)} {value leaf : Json} {path : List Text} {name : Text}

theorem areUndotted_iff :
    areUndotted members = true ↔ ∀ m ∈ members, .char '.' ∉ m.1 ∧ m.2.isUndotted = true := by
  induction members with
  | nil => simp [areUndotted]
  | cons m members ih => simp [areUndotted, ih]

theorem isUndotted_object_iff :
    (object members).isUndotted = true ↔ (members.map Prod.fst).Nodup ∧
      ∀ m ∈ members, .char '.' ∉ m.1 ∧ m.2.isUndotted = true := by
  rw [isUndotted, Bool.and_eq_true, decide_eq_true_iff, areUndotted_iff]

theorem leaves_of_not_isObject (h : value.isObject = false) : leaves value = [([], value)] := by
  cases value with
  | object members => cases h
  | _ => rfl

theorem mem_memberLeaves_iff :
    (path, leaf) ∈ memberLeaves members ↔
      ∃ name rest value, path = name :: rest ∧ (name, value) ∈ members ∧
        (rest, leaf) ∈ leaves value := by
  induction members with
  | nil => simp [memberLeaves]
  | cons m members ih =>
    obtain ⟨name, value⟩ := m
    rw [memberLeaves, List.mem_append, ih]
    constructor
    · rintro (h | ⟨name', rest, value', rfl, hmem, hleaf⟩)
      · obtain ⟨⟨rest, leaf⟩, hleaf, heq⟩ := List.mem_map.1 h
        obtain ⟨rfl, rfl⟩ := Prod.mk.inj heq
        exact ⟨name, rest, value, rfl, List.mem_cons_self, hleaf⟩
      · exact ⟨name', rest, value', rfl, List.mem_cons_of_mem _ hmem, hleaf⟩
    · rintro ⟨name', rest, value', rfl, hmem, hleaf⟩
      rcases List.mem_cons.1 hmem with heq | hmem
      · obtain ⟨rfl, rfl⟩ := Prod.mk.inj heq
        exact .inl (List.mem_map.2 ⟨_, hleaf, rfl⟩)
      · exact .inr ⟨name', rest, value', rfl, hmem, hleaf⟩

theorem member?_eq_some_iff (h : (members.map Prod.fst).Nodup) :
    member? name members = some value ↔ (name, value) ∈ members := by
  induction members with
  | nil => simp [member?]
  | cons m members ih =>
    obtain ⟨key, first⟩ := m
    obtain ⟨hkey, hmembers⟩ := List.nodup_cons.1 h
    rw [member?, List.mem_cons, Prod.mk.injEq]
    by_cases hname : key = name
    · subst hname
      have habsent : (key, value) ∉ members := fun hmem => hkey (List.mem_map.2 ⟨_, hmem, rfl⟩)
      simp [habsent, eq_comm]
    · simp [hname, Ne.symm hname, ih hmembers]

theorem atPath?_cons_of_not_isObject (h : value.isObject = false) :
    atPath? (name :: path) value = none := by
  cases value with
  | object members => cases h
  | _ => simp [atPath?]

/-- The leaves of a value are what is found at the end of paths and is no object. -/
theorem mem_leaves_iff (h : value.isUndotted = true) :
    (path, leaf) ∈ leaves value ↔ atPath? path value = some leaf ∧ leaf.isObject = false := by
  induction path generalizing value with
  | nil =>
    rw [atPath?]
    -- The empty path leads to the value itself, which is a leaf unless it is an object.
    cases hvalue : value.isObject with
    | false =>
      rw [leaves_of_not_isObject hvalue, List.mem_singleton, Prod.mk.injEq]
      constructor
      · rintro ⟨-, rfl⟩
        exact ⟨rfl, hvalue⟩
      · rintro ⟨hfound, -⟩
        exact ⟨rfl, (Option.some.inj hfound).symm⟩
    | true =>
      refine iff_of_false (fun hleaf => ?_) ?_
      · cases value with
        | object members =>
          obtain ⟨_, _, _, hpath, -⟩ := mem_memberLeaves_iff.1 hleaf
          cases hpath
        | _ => cases hvalue
      · rintro ⟨hfound, hleaf⟩
        rw [← Option.some.inj hfound, hvalue] at hleaf
        cases hleaf
  | cons name path ih =>
    cases value with
    | object members =>
      obtain ⟨hnodup, hmembers⟩ := isUndotted_object_iff.1 h
      rw [leaves, mem_memberLeaves_iff, atPath?]
      constructor
      · rintro ⟨name', rest, value, hpath, hmem, hleaf⟩
        obtain ⟨rfl, rfl⟩ := List.cons.inj hpath
        rw [(member?_eq_some_iff hnodup).2 hmem]
        exact (ih (hmembers _ hmem).2).1 hleaf
      · intro hfound
        cases hmember : member? name members with
        | none => simp [hmember] at hfound
        | some value =>
          have hmem := (member?_eq_some_iff hnodup).1 hmember
          rw [hmember] at hfound
          exact ⟨name, path, value, rfl, hmem, (ih (hmembers _ hmem).2).2 hfound⟩
    | _ =>
      rw [atPath?_cons_of_not_isObject rfl, leaves_of_not_isObject rfl]
      simp

theorem undotted_of_mem_leaves (h : value.isUndotted = true) (hleaf : (path, leaf) ∈ leaves value) :
    ∀ name ∈ path, .char '.' ∉ name := by
  induction path generalizing value with
  | nil => exact nofun
  | cons name path ih =>
    cases value with
    | object members =>
      obtain ⟨name', rest, value, hpath, hmem, hrest⟩ := mem_memberLeaves_iff.1 hleaf
      obtain ⟨rfl, rfl⟩ := List.cons.inj hpath
      obtain ⟨hname, hvalue⟩ := (isUndotted_object_iff.1 h).2 _ hmem
      exact List.forall_mem_cons.2 ⟨hname, ih hvalue hrest⟩
    | _ =>
      rw [leaves_of_not_isObject rfl, List.mem_singleton] at hleaf
      cases hleaf

/-! ## 2. Flat objects -/

theorem splitOn_of_mem_memberLeaves (h : (object members).isUndotted = true)
    (hleaf : (path, leaf) ∈ memberLeaves members) :
    Text.splitOn '.' (Text.joinWith "." path) = path := by
  obtain ⟨name, rest, value, rfl, -⟩ := mem_memberLeaves_iff.1 hleaf
  exact Text.splitOn_joinWith (by simp) (undotted_of_mem_leaves h hleaf)

mutual

theorem nodup_leaves (value : Json) (h : value.isUndotted = true) :
    ((leaves value).map Prod.fst).Nodup :=
  match value with
  | .object members =>
    nodup_memberLeaves members (isUndotted_object_iff.1 h).1 (isUndotted_object_iff.1 h).2
  | .null | .bool _ | .int _ | .float _ | .text _ | .array _ => List.nodup_singleton _

theorem nodup_memberLeaves (members : List (Text × Json)) (hnodup : (members.map Prod.fst).Nodup)
    (h : ∀ m ∈ members, .char '.' ∉ m.1 ∧ m.2.isUndotted = true) :
    ((memberLeaves members).map Prod.fst).Nodup :=
  match members with
  | [] => List.nodup_nil
  | (name, value) :: members => by
    obtain ⟨hname, hmembers⟩ := List.nodup_cons.1 hnodup
    obtain ⟨hvalue, hrest⟩ := List.forall_mem_cons.1 h
    have hfirst : ((leaves value).map fun leaf => name :: leaf.1).Nodup := by
      have hpaths := nodup_leaves value hvalue.2
      exact List.map_map (f := Prod.fst) ▸ hpaths.map (List.cons_injective (a := name))
    have hothers := nodup_memberLeaves members hmembers hrest
    rw [memberLeaves, List.map_append, List.map_map]
    refine List.nodup_append.2 ⟨hfirst, hothers, ?_⟩
    -- The paths of one member begin with its name, and no other member has that name.
    rintro _ hpath _ hother rfl
    obtain ⟨_, -, rfl⟩ := List.mem_map.1 hpath
    obtain ⟨⟨_, leaf⟩, hleaf, hsame⟩ := List.mem_map.1 hother
    obtain ⟨_, _, value, rfl, hmem, -⟩ := mem_memberLeaves_iff.1 hleaf
    obtain ⟨rfl, -⟩ := List.cons.inj hsame
    exact hname (List.mem_map.2 ⟨_, hmem, rfl⟩)

end

/-- No two members of a flat object have one name. -/
theorem nodup_flatten (h : (object members).isUndotted = true) :
    ((flatten members).map Prod.fst).Nodup := by
  obtain ⟨hnodup, hmembers⟩ := isUndotted_object_iff.1 h
  have hpaths := nodup_memberLeaves members hnodup hmembers
  rw [flatten, List.map_map]
  refine List.Nodup.map_on ?_ (List.Nodup.of_map _ hpaths)
  rintro ⟨path, leaf⟩ hleaf ⟨path', leaf'⟩ hleaf' heq
  have hsame : path = path' := by
    rw [← splitOn_of_mem_memberLeaves h hleaf, ← splitOn_of_mem_memberLeaves h hleaf']
    exact congrArg _ heq
  exact List.inj_on_of_nodup_map hpaths hleaf hleaf' hsame

/-- A flat object holds under a name what the path of its parts leads to, if that is no object. -/
theorem member?_flatten (h : (object members).isUndotted = true) :
    member? name (flatten members) = some leaf ↔
      atPath? (Text.splitOn '.' name) (object members) = some leaf ∧ leaf.isObject = false := by
  rw [member?_eq_some_iff (nodup_flatten h), ← mem_leaves_iff h, leaves, flatten, List.mem_map]
  constructor
  · rintro ⟨⟨path, leaf⟩, hleaf, heq⟩
    obtain ⟨rfl, rfl⟩ := Prod.mk.inj heq
    rw [splitOn_of_mem_memberLeaves h hleaf]
    exact hleaf
  · intro hleaf
    exact ⟨_, hleaf, Prod.ext (Text.joinWith_splitOn _ _) rfl⟩

/-! ## 3. Fields -/

/-- Without points in the names a field is what the path of the parts of its name leads to. -/
theorem field_eq_atPath? (h : (object members).isUndotted = true) (name : Text) :
    field name members =
      (atPath? (Text.splitOn '.' name) (object members)).getD .null := by
  obtain ⟨hnodup, hmembers⟩ := isUndotted_object_iff.1 h
  unfold field
  split
  · rename_i value hvalue
    have hname := (hmembers _ ((member?_eq_some_iff hnodup).1 hvalue)).1
    rw [Text.splitOn_of_not_mem hname, atPath?, hvalue]
    rfl
  · rfl

/-- A field that is no object is the same in the flat object. -/
theorem field_flatten (h : (object members).isUndotted = true)
    (hfield : (field name members).isObject = false) :
    field name (flatten members) = field name members := by
  rw [field_eq_atPath? h] at hfield ⊢
  cases hfound : atPath? (Text.splitOn '.' name) (object members) with
  | some leaf =>
    rw [hfound] at hfield
    rw [field, (member?_flatten h).2 ⟨hfound, hfield⟩]
    rfl
  | none =>
    have habsent : member? name (flatten members) = none := by
      rw [Option.eq_none_iff_forall_ne_some]
      intro leaf hleaf
      rw [((member?_flatten h).1 hleaf).1] at hfound
      cases hfound
    rw [field, habsent]
    obtain ⟨first, rest, hparts⟩ := List.exists_cons_of_ne_nil (Text.splitOn_ne_nil '.' name)
    have hfirst : .char '.' ∉ first :=
      Text.not_mem_of_mem_splitOn (hparts ▸ List.mem_cons_self)
    rw [hparts] at hfound ⊢
    dsimp only
    rw [atPath?]
    -- The first part leads to a leaf, behind which nothing lies.
    cases hleaf : member? first (flatten members) with
    | none => rfl
    | some leaf =>
      obtain ⟨hfirstLeaf, hobject⟩ := (member?_flatten h).1 hleaf
      rw [Text.splitOn_of_not_mem hfirst] at hfirstLeaf
      cases rest with
      | nil => rw [hfirstLeaf] at hfound; cases hfound
      | cons second rest => dsimp only; rw [atPath?_cons_of_not_isObject hobject]

end Json

namespace Record

variable {members : List (Text × Json)}

/-- Each name of a field leads to no object. -/
def FindsLeaves (members : List (Text × Json)) (fields : FieldNames) : Prop :=
  ∀ name, .text name ∈ [fields.message, fields.logfile, fields.serverHost, fields.parser] →
    (Json.field name members).isObject = false

theorem fieldText?_flatten (h : (Json.object members).isUndotted = true) {name : Json}
    (hfield : ∀ t, name = .text t → (Json.field t members).isObject = false) :
    fieldText? (Json.flatten members) name = fieldText? members name := by
  cases name with
  | text t => rw [fieldText?, fieldText?, Json.field_flatten h (hfield t rfl)]
  | _ => rfl

theorem toEvent_flatten (h : (Json.object members).isUndotted = true) {fields : FieldNames}
    (hfields : FindsLeaves members fields) (now : Int) {record : Record}
    (hvalue : record.value = .object members) :
    toEvent fields now { record with value := .object (Json.flatten members) } =
      toEvent fields now record := by
  have hsame : ∀ name ∈ [fields.message, fields.logfile, fields.serverHost, fields.parser],
      fieldText? (Json.flatten members) name = fieldText? members name := by
    intro name hname
    refine fieldText?_flatten h fun t ht => hfields t ?_
    rwa [← ht]
  simp only [List.forall_mem_cons] at hsame
  obtain ⟨hmessage, hlogfile, hserverHost, hparser, -⟩ := hsame
  simp only [toEvent, hvalue, hmessage, hlogfile, hserverHost, hparser]
  rfl

/-- Nested and flat records mean the same.  The flat object holds exactly the leaves of the nested
one, each under one name; a field that is no object is the same in both; and where the fields of an
event are no objects, both records make the same event. -/
theorem flatten_keeps_fields (h : (Json.object members).isUndotted = true) :
    ((Json.flatten members).map Prod.fst).Nodup ∧
    (∀ name leaf, (name, leaf) ∈ Json.flatten members ↔
      Json.atPath? (Text.splitOn '.' name) (.object members) = some leaf ∧
        leaf.isObject = false) ∧
    (∀ name, (Json.field name members).isObject = false →
      Json.field name (Json.flatten members) = Json.field name members) ∧
    ∀ fields now (record : Record), FindsLeaves members fields → record.value = .object members →
      toEvent fields now { record with value := .object (Json.flatten members) } =
        toEvent fields now record ∧
      (fields.AreTexts → (Json.object members).hasOversized = false →
        ∃ event, toEvent fields now record = .ok event) := by
  have hnodup := Json.nodup_flatten h
  refine ⟨hnodup, ?_, fun _ hfield => Json.field_flatten h hfield, ?_⟩
  · intro name leaf
    rw [← Json.member?_eq_some_iff hnodup, Json.member?_flatten h]
  · intro fields now record hfields hvalue
    refine ⟨toEvent_flatten h hfields now hvalue, fun htexts hsize => ?_⟩
    exact exists_toEvent htexts now ⟨by rwa [hvalue], members, hvalue⟩

/-- Members with an empty name, with null, an array and an empty object among the values. -/
def nestedSample : List (Text × Json) :=
  [("message", .text "up"),
    ("host", .object [("name", .object [("", .int 7)]), ("tags", .array [.null])]),
    ("parser", .null), ("rest", .object [])]

/-- The message lies at the top, the host under an empty name, the file behind an array, and the
parser is null. -/
theorem sample_flatten :
    let fields : FieldNames :=
      ⟨.text "message", .text "host.name.", .text "host.tags.0", .text "parser"⟩
    let flat : List (Text × Json) := Json.flatten nestedSample
    (Json.object nestedSample).isUndotted = true ∧ FindsLeaves nestedSample fields ∧
    flat.map Prod.fst = (["message", "host.name.", "host.tags", "parser"] : List Text) ∧
    Json.field "host.name." flat = .int 7 ∧
    (toEvent fields 5 ⟨"t", 0, 1, .object flat, none⟩).toOption =
      some ⟨"t", 0, 1, 5, some "up", none, some "7", none⟩ := by
  intro fields flat
  have hundotted : (Json.object nestedSample).isUndotted = true := by decide +kernel
  obtain ⟨-, -, hfield, hevent⟩ := flatten_keeps_fields hundotted
  have hleaves : FindsLeaves nestedSample fields := by
    intro name hname
    simp only [fields, List.mem_cons, Json.text.injEq, List.not_mem_nil, or_false] at hname
    rcases hname with rfl | rfl | rfl | rfl <;> decide +kernel
  refine ⟨hundotted, hleaves, by decide +kernel, (hfield _ (by decide +kernel)).trans (by cbv), ?_⟩
  rw [(hevent fields 5 ⟨"t", 0, 1, .object nestedSample, none⟩ hleaves rfl).1]
  decide +kernel

end Record

end LogShipper
