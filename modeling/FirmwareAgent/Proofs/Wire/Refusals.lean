import FirmwareAgent.Proofs.Wire.RoundTrip

/-!
# Bodies that cannot be read

The bodies of most requests, and of the answers to the agent's commands, are numbers side by side.
Every byte string of their width can be read, so the only fault that such a body can have is its
length (`Codec.HasWidth`). A request for package data can also name an operation that does not
exist, and then that counts before its length does.
-/

namespace FirmwareAgent

namespace Codec

variable {α β : Type}

/-- Exactly the bytes of a fixed width are read, whatever they are. -/
structure HasWidth (codec : Codec α) (width : Nat) : Prop where
  short : ∀ bytes, bytes.length < width →
    ∃ field needed available, codec.read bytes = .error (.truncated field needed available)
  long : ∀ bytes, width ≤ bytes.length → ∃ value, codec.read bytes = .ok (value, bytes.drop width)

theorem unsigned_hasWidth (width : Nat) (field : String) :
    (unsigned width field).HasWidth width where
  short := by
    intro bytes short
    refine ⟨field, width, bytes.length, ?_⟩
    show (takeField field width bytes >>= _) = _
    rw [takeField, if_neg (Nat.not_le.mpr short)]
    rfl
  long := by
    intro bytes long
    refine ⟨ofLittleEndian (bytes.take width), ?_⟩
    show (takeField field width bytes >>= _) = _
    rw [takeField, if_pos long]
    rfl

theorem HasWidth.as {codec : Codec α} {width : Nat} (inner : codec.HasWidth width) (build : α → β)
    (parts : β → α) : (codec.as build parts).HasWidth width where
  short := by
    intro bytes short
    obtain ⟨field, needed, available, failed⟩ := inner.short bytes short
    refine ⟨field, needed, available, ?_⟩
    show (codec.read bytes >>= _) = _
    rw [failed]
    rfl
  long := by
    intro bytes long
    obtain ⟨value, read⟩ := inner.long bytes long
    refine ⟨build value, ?_⟩
    show (codec.read bytes >>= _) = _
    rw [read]
    rfl

theorem HasWidth.followedBy {first : Codec α} {second : Codec β} {width width' : Nat}
    (one : first.HasWidth width) (two : second.HasWidth width') :
    (first.followedBy second).HasWidth (width + width') where
  short := by
    intro bytes short
    by_cases enough : width ≤ bytes.length
    · obtain ⟨value, read⟩ := one.long bytes enough
      have rest_short : (bytes.drop width).length < width' := by
        rw [List.length_drop]
        omega
      obtain ⟨field, needed, available, failed⟩ := two.short (bytes.drop width) rest_short
      refine ⟨field, needed, available, ?_⟩
      simp [Codec.followedBy, read, failed, bind, Except.bind]
    · obtain ⟨field, needed, available, failed⟩ := one.short bytes (Nat.not_le.mp enough)
      exact ⟨field, needed, available, by simp [Codec.followedBy, failed, bind, Except.bind]⟩
  long := by
    intro bytes long
    obtain ⟨value, read⟩ := one.long bytes (Nat.le_of_add_right_le long)
    have rest_long : width' ≤ (bytes.drop width).length := by
      rw [List.length_drop]
      omega
    obtain ⟨value', read'⟩ := two.long (bytes.drop width) rest_long
    rw [List.drop_drop] at read'
    exact ⟨(value, value'), by
      simp [Codec.followedBy, read, read', bind, Except.bind, pure, Except.pure]⟩

theorem byte_hasWidth (field : String) : (byte field).HasWidth 1 :=
  (unsigned_hasWidth 1 field).as _ _

theorem word16_hasWidth (field : String) : (word16 field).HasWidth 2 :=
  (unsigned_hasWidth 2 field).as _ _

theorem word32_hasWidth (field : String) : (word32 field).HasWidth 4 :=
  (unsigned_hasWidth 4 field).as _ _

end Codec

namespace Body

/-- A body of fixed width that cannot be read has the wrong length, and is answered so. -/
theorem completionCode_of_hasWidth {α : Type} [Body α] {width : Nat} {bytes : Bytes}
    {error : WireError} (width_eq : (codec : Codec α).HasWidth width)
    (failed : decode α bytes = .error error) :
    error.completionCode = CompletionCode.errorInvalidLength := by
  change ((codec : Codec α).read bytes >>= _) = _ at failed
  by_cases long : width ≤ bytes.length
  · obtain ⟨value, read⟩ := width_eq.long bytes long
    rw [read] at failed
    change (if (bytes.drop width).isEmpty then _ else _) = _ at failed
    split at failed
    · cases failed
    · cases failed
      rfl
  · obtain ⟨field, needed, available, truncated⟩ := width_eq.short bytes (Nat.not_le.mp long)
    rw [truncated] at failed
    cases failed
    rfl

/-- A body of fixed width can be read if and only if it has that length. -/
theorem exists_decode_iff_of_hasWidth {α : Type} [Body α] {width : Nat} {bytes : Bytes}
    (width_eq : (codec : Codec α).HasWidth width) :
    (∃ body, decode α bytes = .ok body) ↔ bytes.length = width := by
  have decode_eq : decode α bytes = (codec : Codec α).read bytes >>= fun read =>
    if read.2.isEmpty then .ok read.1
    else .error (.trailingBytes (message α) read.2.length) := rfl
  rcases Nat.lt_or_ge bytes.length width with short | long
  · obtain ⟨field, needed, available, truncated⟩ := width_eq.short bytes short
    rw [decode_eq, truncated]
    exact iff_of_false nofun (Nat.ne_of_lt short)
  · obtain ⟨value, read⟩ := width_eq.long bytes long
    have surplus : (bytes.drop width).isEmpty = true ↔ bytes.length = width := by
      rw [List.isEmpty_iff, List.drop_eq_nil_iff]
      exact ⟨fun short => Nat.le_antisymm short long, Nat.le_of_eq⟩
    rw [decode_eq, read, ← surplus]
    cases empty : (bytes.drop width).isEmpty <;> simp [bind, Except.bind, empty]

theorem requestFirmwareDataRequest_hasWidth :
    (codec : Codec RequestFirmwareDataRequest).HasWidth 8 :=
  ((Codec.word32_hasWidth _).followedBy (Codec.word32_hasWidth _)).as _ _

theorem transferCompleteRequest_hasWidth : (codec : Codec TransferCompleteRequest).HasWidth 1 :=
  (Codec.byte_hasWidth _).as _ _

theorem verifyCompleteRequest_hasWidth : (codec : Codec VerifyCompleteRequest).HasWidth 1 :=
  (Codec.byte_hasWidth _).as _ _

theorem applyCompleteRequest_hasWidth : (codec : Codec ApplyCompleteRequest).HasWidth 3 :=
  ((Codec.byte_hasWidth _).followedBy (Codec.word16_hasWidth _)).as _ _

theorem requestUpdateResponse_hasWidth : (codec : Codec RequestUpdateResponse).HasWidth 3 :=
  ((Codec.word16_hasWidth _).followedBy ((Codec.byte_hasWidth _).as _ _)).as _ _

theorem passComponentTableResponse_hasWidth :
    (codec : Codec PassComponentTableResponse).HasWidth 2 :=
  ((Codec.byte_hasWidth _).followedBy (Codec.byte_hasWidth _)).as _ _

theorem updateComponentResponse_hasWidth : (codec : Codec UpdateComponentResponse).HasWidth 8 :=
  ((Codec.byte_hasWidth _).followedBy <| (Codec.byte_hasWidth _).followedBy <|
    (Codec.word32_hasWidth _).followedBy (Codec.word16_hasWidth _)).as _ _

theorem activateFirmwareResponse_hasWidth : (codec : Codec ActivateFirmwareResponse).HasWidth 2 :=
  (Codec.word16_hasWidth _).as _ _

end Body

/-! ## Requests for package data -/

/-- The four bytes of the handle are followed by a byte that names no operation. -/
def GetPackageDataRequest.hasUnknownOperation (bytes : Bytes) : Bool :=
  bytes[4]?.any fun flag =>
    flag != TransferOperation.getNextPart.code && flag != TransferOperation.getFirstPart.code

theorem TransferOperation.ofCode_of_unknown {flag : UInt8}
    (unknown : (flag != getNextPart.code && flag != getFirstPart.code) = true) :
    ofCode flag = .error (.invalidValue field flag.toNat) := by
  unfold ofCode
  split
  · cases unknown
  · cases unknown
  · rfl

theorem TransferOperation.ofCode_of_known {flag : UInt8}
    (known : (flag != getNextPart.code && flag != getFirstPart.code) = false) :
    ∃ operation, ofCode flag = .ok operation := by
  by_cases next : flag = getNextPart.code
  · exact ⟨getNextPart, next ▸ ofCode_code getNextPart⟩
  · by_cases first : flag = getFirstPart.code
    · exact ⟨getFirstPart, first ▸ ofCode_code getFirstPart⟩
    · simp [next, first] at known

namespace GetPackageDataRequest

/-- What is wrong with a request that cannot be read: its operation, and otherwise its length. -/
theorem fault_of_decode {bytes : Bytes} {error : WireError}
    (failed : Body.decode GetPackageDataRequest bytes = .error error) :
    hasUnknownOperation bytes = true ∧
        (∃ value, error = .invalidValue TransferOperation.field value) ∨
      hasUnknownOperation bytes = false ∧
        ((∃ field needed available, error = .truncated field needed available) ∨
          ∃ message count, error = .trailingBytes message count) := by
  have handle_width := Codec.word32_hasWidth "data transfer handle"
  have operation_width := Codec.byte_hasWidth TransferOperation.field
  change ((((Codec.word32 "data transfer handle").followedBy
    ((Codec.byte TransferOperation.field).refine TransferOperation.ofCode
      TransferOperation.code)).as _ _).read bytes >>= _) = _ at failed
  by_cases enough : 4 < bytes.length
  · obtain ⟨handle, handle_read⟩ := handle_width.long bytes (Nat.le_of_lt enough)
    have rest_eq : bytes.drop 4 = bytes[4] :: bytes.drop 5 := List.drop_eq_getElem_cons enough
    have flag_eq : bytes[4]? = some bytes[4] := List.getElem?_eq_getElem enough
    simp only [hasUnknownOperation, flag_eq, Option.any_some]
    simp only [Codec.as, Codec.followedBy, Codec.refine, handle_read, rest_eq, Codec.read_byte,
      bind, Except.bind, pure, Except.pure] at failed
    cases unknown :
      (bytes[4] != TransferOperation.getNextPart.code &&
        bytes[4] != TransferOperation.getFirstPart.code) with
    | true =>
      rw [TransferOperation.ofCode_of_unknown unknown] at failed
      cases failed
      exact .inl ⟨rfl, _, rfl⟩
    | false =>
      obtain ⟨operation, known⟩ := TransferOperation.ofCode_of_known unknown
      rw [known] at failed
      dsimp only at failed
      split at failed
      · cases failed
      · cases failed
        exact .inr ⟨rfl, .inr ⟨_, _, rfl⟩⟩
  · have silent : hasUnknownOperation bytes = false := by
      rw [hasUnknownOperation, List.getElem?_eq_none (Nat.not_lt.mp enough)]
      rfl
    refine .inr ⟨silent, .inl ?_⟩
    by_cases handle_enough : 4 ≤ bytes.length
    · obtain ⟨handle, handle_read⟩ := handle_width.long bytes handle_enough
      have rest_eq : bytes.drop 4 = [] := List.drop_eq_nil_of_le (Nat.not_lt.mp enough)
      obtain ⟨field, needed, available, truncated⟩ := operation_width.short [] Nat.one_pos
      simp only [Codec.as, Codec.followedBy, Codec.refine, handle_read, rest_eq, truncated, bind,
        Except.bind] at failed
      cases failed
      exact ⟨_, _, _, rfl⟩
    · obtain ⟨field, needed, available, truncated⟩ :=
        handle_width.short bytes (Nat.not_le.mp handle_enough)
      simp only [Codec.as, Codec.followedBy, truncated, bind, Except.bind] at failed
      cases failed
      exact ⟨_, _, _, rfl⟩

end GetPackageDataRequest

end FirmwareAgent
