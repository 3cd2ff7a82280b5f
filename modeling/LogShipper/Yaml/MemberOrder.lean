import LogShipper.Yaml.Value

/-!
# The order of the members of a set

The members of a set are shown in the order in which they lie in a table.  A number has a hash,
which it shares with all numbers that are equal to it, and the hash says where to look for a free
place.  Members of other kinds have no fixed hash; a set with such a member keeps the order of its
text.
-/

namespace LogShipper.Yaml.MemberOrder

/-! ## 1. Hashes -/

/-- The width of a hash, without its sign, in bits. -/
def hashBits : Nat := 61

/-- The modulus of hashes, a prime. -/
def modulus : Nat := 0x1FFFFFFFFFFFFFFF

/-- How many patterns of bits a signed hash has. -/
def patterns : Nat := 0x10000000000000000

/-- The remainder of the quotient of a number by a power of two, where two to the width of a hash
counts as one. -/
def remainder (numerator powerOfTwo : Nat) : Nat :=
  let shift := (hashBits - powerOfTwo.log2 % hashBits) % hashBits
  numerator.shiftLeft shift % modulus

/-- The pattern of a signed hash; minus one is not used. -/
def pattern (negative : Bool) (hash : Nat) : Nat :=
  if negative && hash ≠ 0 then patterns - max hash 2 else hash

/-- The hash of an infinity, without its sign. -/
def infiniteHash : Nat := 314159

/-- The hash of a number, as a pattern of bits. -/
def numberHash? (x : Number) : Option Nat :=
  x.extended?.map fun
    | .inl q => pattern (q.num < 0) (remainder q.num.natAbs q.den)
    | .inr negative => pattern negative infiniteHash

/-- The hash of a scalar, if it has a fixed one. -/
def hash? (s : Scalar) : Option Nat :=
  s.number?.bind numberHash?

/-! ## 2. Tables -/

abbrev Table := Array (Option Scalar)

/-- The size of a table for some members. -/
def sizeFor (members : Nat) : Nat :=
  if members ≤ 4 then 8 else max 8 (Nat.pow 2 ((2 * members).log2 + 1))

/-- How many places behind a place are tried together with it. -/
def nearby : Nat := 9

/-- The first free place among those that are tried together. -/
def freeNear? (table : Table) (place : Nat) : Option Nat :=
  let tried := if place + nearby < table.size then List.range' place (nearby + 1) else [place]
  tried.find? fun place => (table.getD place none).isNone

/-- The free place that is found from a place on.  The first argument bounds the number of jumps,
for which the rest of the hash is used up. -/
def freePlace (table : Table) : Nat → (place rest : Nat) → Nat
  | 0, place, _ => place
  | bound + 1, place, rest =>
    match freeNear? table place with
    | some free => free
    | none =>
      let rest := rest / 32
      freePlace table bound ((place * 5 + 1 + rest) % table.size) rest

/-- Puts a member in its place. -/
def insert (table : Table) (member : Nat × Scalar) : Table :=
  let (hash, s) := member
  table.setIfInBounds (freePlace table (table.size + 13) (hash % table.size) hash) (some s)

/-- The members of a set, each of them once, in the order in which they are shown. -/
def arrange (members : List Scalar) : List Scalar :=
  match members.mapM fun s => (hash? s).map fun hash => (hash, s) with
  | none => members
  | some members =>
    (members.foldl insert (Array.replicate (sizeFor members.length) none)).toList.filterMap id

end LogShipper.Yaml.MemberOrder
