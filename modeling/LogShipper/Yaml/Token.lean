import LogShipper.Yaml.Fault

/-!
# Tokens of YAML

The text of a stream is a sequence of tokens.  Tokens mark where documents, collections, entries,
keys and values begin, and carry the names, tags and scalars.
-/

namespace LogShipper.Yaml

/-- What a directive sets: the version of which only the major number counts, the beginning of tags
for which a handle stands, or something unknown. -/
inductive Directive where
  | version (major : Nat)
  | handle (handle beginning : Text)
  | unknown
  deriving DecidableEq, Repr

/-- A token.  A tag without a handle is a full name. -/
inductive Token where
  | directive (directive : Directive)
  | documentStart
  | documentEnd
  | blockSequenceStart
  | blockMappingStart
  | blockEnd
  | flowSequenceStart
  | flowSequenceEnd
  | flowMappingStart
  | flowMappingEnd
  | blockEntry
  | flowEntry
  | key
  | value
  | alias (name : Text)
  | anchor (name : Text)
  | tag (handle : Option Text) (rest : Text)
  | scalar (isPlain : Bool) (t : Text)
  deriving DecidableEq, Repr

/-- The tokens of a text: those that can be had before it breaks off, and why it does, if it
does. -/
structure Tokens where
  known : List Token
  fault : Option Fault

end LogShipper.Yaml
