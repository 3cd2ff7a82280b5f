import LogShipper.Proofs.Payload.Document

/-!
# The token of a payload

A payload begins with its token.  What follows it, and the fault if one is met, are the same
whatever the token is, as long as it can be written.
-/

namespace LogShipper

/-! ## 1. Texts without surrogates -/

theorem Text.isSurrogate_ofChars (cs : List Char) : ∀ c ∈ ofChars cs, c.isSurrogate = false := by
  intro c hc
  obtain ⟨character, -, rfl⟩ := List.mem_map.1 hc
  rfl

theorem Text.isSurrogate_ofString (s : String) : ∀ c ∈ ofString s, c.isSurrogate = false :=
  isSurrogate_ofChars s.toList

theorem Text.isSurrogate_hex (upper : Bool) (width n : Nat) :
    ∀ c ∈ hex upper width n, c.isSurrogate = false := by
  induction width generalizing n with
  | zero => exact List.forall_mem_nil _
  | succ width ih =>
    rw [hex, List.forall_mem_append, List.forall_mem_singleton]
    exact ⟨ih (n / 16), rfl⟩

theorem Json.isSurrogate_escape {c : CodePoint} (h : c.isSurrogate = false) :
    ∀ d ∈ escape c, d.isSurrogate = false := by
  have hhex := Text.isSurrogate_hex false 4 c.value
  unfold escape
  repeat' split
  all_goals first
    | exact Text.isSurrogate_ofString _
    | exact List.forall_mem_append.2 ⟨Text.isSurrogate_ofString _, hhex⟩
    | exact List.forall_mem_singleton.2 h

theorem Json.isSurrogate_writeText {t : Text} (h : ∀ c ∈ t, c.isSurrogate = false) :
    ∀ c ∈ writeText t, c.isSurrogate = false := by
  unfold writeText
  rw [List.cons_append, List.forall_mem_cons, List.forall_mem_append, List.forall_mem_singleton]
  refine ⟨rfl, fun d hd => ?_, rfl⟩
  obtain ⟨c, hc, hd⟩ := List.mem_flatMap.1 hd
  exact isSurrogate_escape (h c hc) d hd

namespace Payload

/-! ## 2. The first piece -/

/-- The bytes before the token. -/
def lead : Bytes :=
  "\x7b\"token\":".toList.flatMap Utf8.encodeChar

theorem encode_lead : Utf8.encode "\x7b\"token\":" = .ok lead := by
  decide +kernel

/-- Behind the token the first piece is told by the session alone. -/
theorem encodePiece_head {session : Text} (h : ∀ c ∈ session, c.isSurrogate = false)
    (events : List Event) :
    ∃ rest : Bytes, ∀ token bytes, Utf8.encode (Json.writeText token) = .ok bytes →
      encodePiece (head ⟨token, session, events⟩) = .ok (lead ++ bytes ++ rest) := by
  have hbehind : ∀ c ∈ Text.ofString ",\"session\":" ++ (Json.writeText session ++ ",\"events\":["),
      c.isSurrogate = false := by
    rw [List.forall_mem_append, List.forall_mem_append]
    exact ⟨Text.isSurrogate_ofString _, Json.isSurrogate_writeText h, Text.isSurrogate_ofString _⟩
  obtain ⟨rest, hrest⟩ := Utf8.exists_encode_iff.2 hbehind
  refine ⟨rest, fun token bytes htoken => encodePiece_eq_ok_iff.2 ?_⟩
  have hhead : head ⟨token, session, events⟩ = Text.ofString "\x7b\"token\":" ++
      Json.writeText token ++ (Text.ofString ",\"session\":" ++ (Json.writeText session ++
        ",\"events\":[")) := by
    simp only [head, List.append_assoc]
  rw [hhead]
  exact Utf8.encode_append (Utf8.encode_append encode_lead htoken) hrest

/-! ## 3. The whole payload -/

/-- No piece but the first depends on the token. -/
theorem pieces_eq (token session : Text) (events : List Event) (table : LogTable) :
    pieces ⟨token, session, events⟩ table = encodePiece (head ⟨token, session, events⟩) ::
      (pieces ⟨[], session, events⟩ table).tail := rfl

theorem Production.ofPieces_cons (chunk : Bytes) (pieces : List (Except SerializationFault Bytes)) :
    ofPieces (.ok chunk :: pieces) =
      ⟨chunk :: (ofPieces pieces).chunks, (ofPieces pieces).fault⟩ := rfl

/-- Whatever the token is, the same bytes follow it and the same fault is met. -/
theorem produce_of_token {session : Text} (h : ∀ c ∈ session, c.isSurrogate = false)
    (events : List Event) :
    ∃ (rest : Bytes) (fault : Option SerializationFault), ∀ token bytes,
      Utf8.encode (Json.writeText token) = .ok bytes →
        (produce ⟨token, session, events⟩).chunks.flatten = lead ++ bytes ++ rest ∧
          (produce ⟨token, session, events⟩).fault = fault := by
  obtain ⟨front, hfront⟩ := encodePiece_head h events
  -- The later pieces, which are looked at with no token at all.
  generalize hlater :
    Production.ofPieces (pieces ⟨[], session, events⟩ (.ofEvents events)).tail = later
  refine ⟨front ++ later.chunks.flatten, later.fault, fun token bytes htoken => ?_⟩
  have hproduce : produce ⟨token, session, events⟩ =
      ⟨(lead ++ bytes ++ front) :: later.chunks, later.fault⟩ := by
    show Production.ofPieces (pieces ⟨token, session, events⟩ (.ofEvents events)) = _
    rw [pieces_eq, hfront token bytes htoken, Production.ofPieces_cons, hlater]
  rw [hproduce]
  refine ⟨?_, rfl⟩
  rw [List.flatten_cons, List.append_assoc]

end Payload

end LogShipper
