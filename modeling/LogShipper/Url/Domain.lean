import LogShipper.Url.Domain.Label
import LogShipper.Url.Punycode

/-!
# International domain names

A domain name is a sequence of labels between points.  In ASCII a label with other code points is
`xn--` followed by its Punycode.  Both directions check every label; how long labels and names may
be matters only for what is to become ASCII.
-/

namespace LogShipper.Url.Domain

/-- The beginning of the ASCII form of a label that holds other code points. -/
def asciiLead : Text := "xn--"

/-- The points that separate labels. -/
def isPoint (c : CodePoint) : Bool :=
  c.value == 0x2E || c.value == 0x3002 || c.value == 0xFF0E || c.value == 0xFF61

/-- The labels of a name. -/
def labels : Text → List Text
  | [] => [[]]
  | c :: rest =>
    if isPoint c then [] :: labels rest
    else
      match labels rest with
      | [] => [[c]]
      | label :: more => (c :: label) :: more

/-- The Unicode form of a label. -/
def labelToUnicode (label : Text) : Except Fault Text := do
  if !Text.isAscii label then
    checkLabel label
    return label
  let lower := label.map CodePoint.asciiLower
  match Text.dropStart? asciiLead lower with
  | none =>
    checkLabel lower
    return lower
  | some [] => throw .nothingEncoded
  | some encoded =>
    if encoded.getLast? = some (.char '-') then throw .endsWithHyphen
    match Punycode.decode? encoded with
    | none => throw .undecodable
    | some decoded =>
      checkLabel decoded
      return decoded

/-- The ASCII form of a label. -/
def labelToAscii (label : Text) : Except Fault Text := do
  if Text.isAscii label then
    let _ ← labelToUnicode label
    if 63 < label.length then throw .labelTooLong
    return label
  checkLabel label
  let ascii := asciiLead ++ Punycode.encode label
  if 63 < ascii.length then throw .labelTooLong
  return ascii

/-- The labels of a name, each converted; a last one may be empty. -/
def convert (onLabel : Text → Except Fault Text) (name : Text) : Except Fault (List Text) := do
  let all := labels name
  if all = [[]] then throw .emptyDomain
  let endsWithPoint := all.getLast? = some []
  let converted ← (if endsWithPoint then all.dropLast else all).mapM fun label => do
    let label ← onLabel label
    if label.isEmpty then throw .noLabel
    return label
  return if endsWithPoint then converted ++ [[]] else converted

/-- The ASCII form of a name. -/
def toAscii (name : Text) : Except Fault Text := do
  let converted ← convert labelToAscii name
  let ascii := Text.joinWith "." converted
  if (if converted.getLast? = some [] then 254 else 253) < ascii.length then throw .domainTooLong
  return ascii

/-- The Unicode form of a name. -/
def toUnicode (name : Text) : Except Fault Text := do
  return Text.joinWith "." (← convert labelToUnicode name)

end LogShipper.Url.Domain
