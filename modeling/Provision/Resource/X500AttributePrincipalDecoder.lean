import Provision.Resource.BuildError

/-!
Contract: decoders that take a principal from an X.500 attribute.

Owns:
- the settings of a decoder;
- the attributes of the decoder in order.

Does not own: object identifiers beyond being given.
-/

namespace Provision

/-- The settings that a decoder may leave out. -/
structure X500AttributePrincipalDecoder.Options where
  joiner : Option String := none
  startSegment : Option UInt32 := none
  maximumSegments : Option UInt32 := none
  reverse : Option Bool := none
  requiredOids : List String := []
deriving DecidableEq, Repr

/-- The settings from which a decoder is made. -/
structure X500AttributePrincipalDecoder.Draft extends
    X500AttributePrincipalDecoder.Options where
  name : String := ""
  oid : Option String := none
  replaceExisting : Bool := false
deriving DecidableEq, Repr

/-- A decoder of X.500 attributes. -/
structure X500AttributePrincipalDecoder extends
    X500AttributePrincipalDecoder.Options where
  name : ResourceName
  oid : String
  replaceExisting : Bool
deriving DecidableEq, Repr

namespace X500AttributePrincipalDecoder

def Draft.build (draft : Draft) :
    Except BuildError X500AttributePrincipalDecoder := do
  let name ← requireName .x500AttributePrincipalDecoder draft.name
  let oid ← requireText "oid" draft.oid
  .ok
    { draft.toOptions with
      name
      oid
      replaceExisting := draft.replaceExisting }

def values (decoder : X500AttributePrincipalDecoder) : ValueSet :=
  ValueSet.empty
    |>.set "oid" (.text decoder.oid)
    |>.setText "joiner" decoder.joiner
    |>.setNumber "start-segment" (decoder.startSegment.map UInt32.toNat)
    |>.setNumber "maximum-segments"
        (decoder.maximumSegments.map UInt32.toNat)
    |>.setBoolean "reverse" decoder.reverse
    |>.setTexts "required-oids" decoder.requiredOids

end X500AttributePrincipalDecoder

end Provision
