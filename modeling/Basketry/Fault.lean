namespace Basketry

/-- Transport failures may be cured by a second attempt; a refusal is a contract's own answer. -/
inductive Outage.Nature where
  | transport
  | refusal
  | other
deriving DecidableEq, Repr

/-- A failure reported by the node or by what stands between it and us. -/
structure Outage where
  nature : Outage.Nature
  kind : String
  message : String
deriving DecidableEq, Repr

/-- Why an operation fails. Only a `revert` is a refusal by a contract. -/
inductive Fault where
  /-- A contract refuses the call, with its reason. -/
  | revert (reason : String)
  | malformedAddress
  | nonHexDigit
  | nonAsciiText
  | negativeBytes
  /-- A value of a shape that the operation does not take. -/
  | wrongType
  | missingKey
  | missingAttribute
  | divisionByZero
  | absentItem
  /-- Text that is no whole number. -/
  | notWhole
  /-- A whole number with too many digits to be written out. -/
  | longNumber
  | infiniteWhole
  /-- A wait that would end before it begins, or of no length. -/
  | invalidWait
  | endlessWait
  /-- An amount of the native currency that no account can hold. -/
  | amountRange
  | invalidDecimal
  | decimalOverflow
  /-- A type that does not follow the grammar. -/
  | unreadableType
  | emptyTupleType
  | unknownType
  /-- A type of the right form with a size that does not exist. -/
  | unsupportedType
  | argumentType
  | argumentRange
  | shortData
  | dirtyPadding
  | strayPointer
  | unreadableJson
  | missingFile
  /-- No attempt was made, so there is no answer to read. -/
  | noAnswer
  | unknownLevel
  | unknownSnapshot (id : Int)
  | noDeadline
  | artifactMissing (name dir : String)
  | libraryMissing (source name : String)
  | unresolvedPlaceholders
  | deploymentReverted (name hash : String)
  /-- The node answered a request with an error, whose text is given. -/
  | rpc (method problem : String)
  | unknownNetwork (network : String)
  | forkUrlMissing (setting network : String)
  | noAccounts
  | unreachableNode (url : String)
  | unknownDeployment (group method : String)
  | unexpectedReason (expected actual : String)
  | noRevert (expected : Option String)
  | outage (o : Outage)
deriving DecidableEq, Repr

def Fault.isTransport : Fault → Bool
  | .outage o => o.nature = .transport
  | _ => false

end Basketry
