import LogShipper.Number.Integer
import LogShipper.Number.Shortest
import LogShipper.Text.Quoted

/-!
# JSON values

Integers are exact and kept apart from floating point numbers, and the members of an object keep
their order.  `Json.display` shows a value in a message: a text as it is, anything else as a
literal.
-/

namespace LogShipper

inductive Json where
  | null
  | bool (b : Bool)
  | int (n : Int)
  | float (x : Binary64)
  | text (t : Text)
  | array (items : List Json)
  | object (members : List (Text × Json))
  deriving Inhabited

namespace Json

/-- The value of a member of the given name, among the members of an object. -/
def member? (name : Text) : List (Text × Json) → Option Json
  | [] => none
  | (key, value) :: rest => if key = name then some value else member? name rest

/-- Sets a member: one of the same name keeps its place and gets the new value. -/
def setMember (name : Text) (value : Json) : List (Text × Json) → List (Text × Json)
  | [] => [(name, value)]
  | (key, old) :: rest =>
    if key = name then (key, value) :: rest else (key, old) :: setMember name value rest

/-- The members that remain when of each name the last value and the first place count. -/
def settle (members : List (Text × Json)) : List (Text × Json) :=
  members.foldl (fun settled (name, value) => setMember name value settled) []

/-- The word for the kind of a value in messages. -/
def kind : Json → Text
  | .null => "NoneType"
  | .bool _ => "bool"
  | .int _ => "int"
  | .float _ => "float"
  | .text _ => "str"
  | .array _ => "list"
  | .object _ => "dict"

mutual

/-- A value as a literal: texts are quoted, at any depth. -/
def literal : Json → Text
  | .null => "None"
  | .bool b => if b then "True" else "False"
  | .int n => Integer.toText n
  | .float x => x.toText
  | .text t => Text.quoted t
  | .array items => "[" ++ Text.joinWith ", " (literals items) ++ "]"
  | .object members => "\x7b" ++ Text.joinWith ", " (memberLiterals members) ++ "\x7d"

def literals : List Json → List Text
  | [] => []
  | item :: items => literal item :: literals items

def memberLiterals : List (Text × Json) → List Text
  | [] => []
  | (name, value) :: members =>
    (Text.quoted name ++ ": " ++ literal value) :: memberLiterals members

end

/-- A value as it is shown by itself. -/
def display : Json → Text
  | .text t => t
  | value => literal value

end Json

end LogShipper
