import LogShipper.Text.DecimalDigit

/-!
# Numeric addresses

The two forms of a numeric host: four decimal octets, and up to eight groups of hexadecimal digits
of which a run of zeros may be left out and the last two may be written as four octets.
-/

namespace LogShipper.Url

/-- Whether a text is one to three ASCII digits for a number up to 255 without a leading zero. -/
def isOctet (t : Text) : Bool :=
  match t.mapM CodePoint.asciiDigit? with
  | none => false
  | some digits =>
    1 ≤ digits.length && digits.length ≤ 3 && (digits.length = 1 || digits.head? ≠ some 0) &&
      digits.foldl (fun n d => 10 * n + d) 0 ≤ 255

/-- Whether a text is four octets between points. -/
def isFourOctets (t : Text) : Bool :=
  let parts := Text.splitOn '.' t
  parts.length = 4 && parts.all isOctet

/-- Whether a text is one to four hexadecimal digits. -/
def isGroup (t : Text) : Bool :=
  1 ≤ t.length && t.length ≤ 4 && t.all (·.hexDigit?.isSome)

/-- The number of groups of the parts on one side of a left-out run; a part at the end of the
address is empty only if nothing else stands on that side. -/
def sideGroups? (parts : List Text) : Option Nat :=
  if parts = [[]] then some 0
  else if parts.all isGroup then some parts.length
  else none

/-- Replaces a last part of four octets by two groups. -/
def expandOctets? (parts : List Text) : Option (List Text) :=
  match parts.getLast? with
  | some last =>
    if .char '.' ∈ last then
      if isFourOctets last then some (parts.dropLast ++ [Text.ofString "0", Text.ofString "0"])
      else none
    else some parts
  | none => none

/-- Whether the parts between colons make an address of eight groups.  An empty part that is neither
the first nor the last stands for the groups left out; there is at most one. -/
def isGroupList (parts : List Text) : Bool :=
  let places := (List.range parts.length).filter fun i =>
    0 < i && i + 1 < parts.length && parts[i]? = some []
  match places with
  | [] => parts.length = 8 && parts.all isGroup
  | [i] =>
    let before := parts.take i
    let after := parts.drop (i + 1)
    match sideGroups? before, sideGroups? after with
    | some m, some n => m + n < 8
    | _, _ => false
  | _ => false

/-- Whether a text is an address of eight groups, with an optional zone after a percent sign. -/
def isEightGroups (t : Text) : Bool :=
  let (address, zoneIsValid) := match Text.cutAt? '%' t with
    | none => (t, true)
    | some (address, zone) => (address, zone ≠ [] && .char '%' ∉ zone)
  let parts := Text.splitOn ':' address
  zoneIsValid && 3 ≤ parts.length &&
    match expandOctets? parts with
    | none => false
    | some parts => parts.length ≤ 9 && isGroupList parts

end LogShipper.Url
