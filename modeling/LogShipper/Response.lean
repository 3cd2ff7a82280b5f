import LogShipper.Json.Value

/-!
# Responses

The server answers with an object.  Its status and message count and anything else in it is
ignored; a member that is missing counts as null.  A batch is accepted if the status is the text
`success`.
-/

namespace LogShipper

structure Response where
  status : Json := .null
  message : Json := .null
  deriving Inhabited

namespace Response

/-- The status of an accepted batch. -/
def successStatus : Text := "success"

/-- The response in the members of an object. -/
def ofMembers (members : List (Text × Json)) : Response where
  status := (Json.member? "status" members).getD .null
  message := (Json.member? "message" members).getD .null

def isSuccess (response : Response) : Bool :=
  match response.status with
  | .text t => t = successStatus
  | _ => false

end Response

end LogShipper
