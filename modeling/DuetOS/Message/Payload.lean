import DuetOS.Message.Abi

/-!
# The versioned payload contract

`PayloadValidate` of `versioned_payload.cpp`: the payload's prefix names its exact size, a version
and flags, and a table of rules, strictly ordered by version, says which sizes and flags each
version admits. A table is a pointer and a count; the pointer is `none` when null.
-/

namespace DuetOS.Message

open LittleEndian

def kVersionedPayloadHeaderBytes : Nat := 8
def kVersionedPayloadMaxBytes : Nat := kMessageAbiMaxBytes - kMessageAbiHeaderV1Bytes
def kVersionedPayloadMaxRules : Nat := 256

def kPayloadTotalSizeOffset : Nat := 0
def kPayloadVersionOffset : Nat := 4
def kPayloadFlagsOffset : Nat := 6

structure PayloadVersionRule where
  (version knownFlags minimumSize maximumSize : Nat)
  deriving DecidableEq

abbrev PayloadRules := Option (Nat → PayloadVersionRule)

inductive PayloadValidationError where
  | ok | nullBuffer | invalidRuleTable | truncatedHeader | payloadTooSmall | payloadTooLarge
  | sizeMismatch
  | unsupportedVersion | unsupportedFlags | sizeOutsideVersionRange | outputAliasesInput
  | inputsOverlap
  deriving DecidableEq

/-- The loop of `RuleTableIsValid` over the remaining indices. -/
def ruleTableLoop (rules : Nat → PayloadVersionRule) : List Nat → Nat → Bool
  | [], _ => true
  | index :: rest, previousVersion =>
    let rule := rules index
    if rule.version = 0 ∨ rule.version ≤ previousVersion then false
    else if rule.minimumSize < kVersionedPayloadHeaderBytes ∨ rule.maximumSize < rule.minimumSize ∨
        rule.maximumSize > kVersionedPayloadMaxBytes then false
    else ruleTableLoop rules rest rule.version

def ruleTableIsValid (rules : PayloadRules) (ruleCount : Nat) : Bool :=
  match rules with
  | none => false
  | some rules =>
    if ruleCount = 0 ∨ ruleCount > kVersionedPayloadMaxRules then false
    else ruleTableLoop rules (List.range ruleCount) 0

/-- The binary search of `FindRule`; `count` shrinks in every round, so `ruleCount` rounds are
enough. -/
def findRuleLoop (rules : Nat → PayloadVersionRule) (version : Nat) : Nat → Nat → Nat → Nat
  | 0, first, _ => first
  | fuel + 1, first, count =>
    if count = 0 then first
    else
      let step := count / 2
      let index := first + step
      if (rules index).version < version then
        findRuleLoop rules version fuel (index + 1) (count - (step + 1))
      else findRuleLoop rules version fuel first step

def findRule (rules : Nat → PayloadVersionRule) (ruleCount version : Nat) :
    Option PayloadVersionRule :=
  let first := findRuleLoop rules version ruleCount 0 ruleCount
  if first < ruleCount ∧ (rules first).version = version then some (rules first) else none

def validateAgainstRule (totalSize flags : Nat) (rule : PayloadVersionRule) :
    PayloadValidationError :=
  if flags &&& (0xFFFF ^^^ rule.knownFlags) ≠ 0 then .unsupportedFlags
  else if totalSize < rule.minimumSize ∨ totalSize > rule.maximumSize then .sizeOutsideVersionRange
  else .ok

def payloadValidate (payload : List UInt8) (rules : PayloadRules) (ruleCount : Nat) :
    PayloadValidationError :=
  if ruleCount > kVersionedPayloadMaxRules then .invalidRuleTable
  else if payload.length < kVersionedPayloadHeaderBytes then .truncatedHeader
  else if payload.length > kVersionedPayloadMaxBytes then .payloadTooLarge
  else
    match rules with
    | none => .invalidRuleTable
    | some table =>
      if ¬ruleTableIsValid rules ruleCount then .invalidRuleTable
      else
        let totalSize := readLe32 payload kPayloadTotalSizeOffset
        if totalSize < kVersionedPayloadHeaderBytes then .payloadTooSmall
        else if totalSize > kVersionedPayloadMaxBytes then .payloadTooLarge
        else if totalSize ≠ payload.length then .sizeMismatch
        else
          match findRule table ruleCount (readLe16 payload kPayloadVersionOffset) with
          | none => .unsupportedVersion
          | some rule => validateAgainstRule totalSize (readLe16 payload kPayloadFlagsOffset) rule

end DuetOS.Message
