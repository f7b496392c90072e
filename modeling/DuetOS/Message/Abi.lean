import DuetOS.Lib.LittleEndian

/-!
# The message envelope

`MessageValidate` of `message_abi.cpp` on a kernel-owned snapshot of the frame: a fixed
little-endian header of `kMessageAbiHeaderV1Bytes` bytes whose total size must be exactly the number
of bytes at hand.
-/

namespace DuetOS.Message

open LittleEndian

def kMessageAbiMagic : Nat := 0x43504944
def kMessageAbiVersion1 : Nat := 1
def kMessageAbiHeaderV1Bytes : Nat := 32
def kMessageAbiMaxBytes : Nat := 64 * 1024
def kMessageAbiV1KnownFlags : Nat := 0

def kMagicOffset : Nat := 0
def kTotalSizeOffset : Nat := 4
def kVersionOffset : Nat := 8
def kHeaderSizeOffset : Nat := 10
def kKindOffset : Nat := 12
def kFlagsOffset : Nat := 14
def kServiceIdOffset : Nat := 16
def kMethodIdOffset : Nat := 20
def kRequestIdOffset : Nat := 24

/-- The bytes of one message. -/
abbrev Frame := List UInt8

inductive MessageKind where
  | request | reply | notification | cancel
  deriving DecidableEq

/-- The kind a wire value stands for; `none` when `MessageKindIsValid` refuses it. -/
def MessageKind.ofWire : Nat → Option MessageKind
  | 1 => some .request
  | 2 => some .reply
  | 3 => some .notification
  | 4 => some .cancel
  | _ => none

inductive MessageValidationError where
  | ok | nullBuffer | truncatedHeader | badMagic | unsupportedVersion | unsupportedHeaderSize
  | messageTooSmall | messageTooLarge | sizeMismatch | unsupportedFlags | invalidKind | invalidRoute
  | invalidRequestId | unexpectedPayload | outputAliasesInput
  deriving DecidableEq

structure MessageView where
  (totalSize version headerSize : Nat)
  kind : MessageKind
  (flags serviceId methodId requestId payloadOffset payloadSize : Nat)
  deriving DecidableEq

/-- C++ `ValidateSemantics`: the kind when every field makes sense. -/
def validateSemantics (kind flags serviceId methodId requestId payloadSize : Nat) :
    Except MessageValidationError MessageKind :=
  if flags &&& (0xFFFF ^^^ kMessageAbiV1KnownFlags) ≠ 0 then .error .unsupportedFlags
  else
    match MessageKind.ofWire kind with
    | none => .error .invalidKind
    | some kind =>
      if serviceId = 0 ∨ methodId = 0 then .error .invalidRoute
      else if (kind = .notification ∧ requestId ≠ 0) ∨ (kind ≠ .notification ∧ requestId = 0) then
        .error .invalidRequestId
      else if kind = .cancel ∧ payloadSize ≠ 0 then .error .unexpectedPayload
      else .ok kind

def messageValidate (frame : Frame) : Except MessageValidationError MessageView :=
  if frame.length < kMessageAbiHeaderV1Bytes then .error .truncatedHeader
  else if readLe32 frame kMagicOffset ≠ kMessageAbiMagic then .error .badMagic
  else
    let version := readLe16 frame kVersionOffset
    if version ≠ kMessageAbiVersion1 then .error .unsupportedVersion
    else
      let headerSize := readLe16 frame kHeaderSizeOffset
      if headerSize ≠ kMessageAbiHeaderV1Bytes then .error .unsupportedHeaderSize
      else
        let totalSize := readLe32 frame kTotalSizeOffset
        if totalSize < headerSize then .error .messageTooSmall
        else if totalSize > kMessageAbiMaxBytes then .error .messageTooLarge
        else if totalSize ≠ frame.length then .error .sizeMismatch
        else
          let flags := readLe16 frame kFlagsOffset
          let serviceId := readLe32 frame kServiceIdOffset
          let methodId := readLe32 frame kMethodIdOffset
          let requestId := readLe64 frame kRequestIdOffset
          let payloadSize := totalSize - headerSize
          match validateSemantics (readLe16 frame kKindOffset) flags serviceId methodId requestId
            payloadSize with
          | .error error => .error error
          | .ok kind =>
            .ok ⟨totalSize, version, headerSize, kind, flags, serviceId, methodId, requestId,
              if payloadSize = 0 then 0 else headerSize, payloadSize⟩

lemma length_of_messageValidate (valid : messageValidate frame = .ok view) :
    kMessageAbiHeaderV1Bytes ≤ frame.length ∧ frame.length ≤ kMessageAbiMaxBytes := by
  unfold messageValidate at valid
  dsimp only at valid
  split_ifs at valid with long _ _ _ _ small exact_size
  all_goals
    have size := not_not.mp exact_size
    exact ⟨Nat.le_of_not_lt long, size ▸ Nat.le_of_not_lt small⟩

end DuetOS.Message
