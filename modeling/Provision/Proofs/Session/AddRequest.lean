import Provision.Command
import Provision.Proofs.Address.Text
import Provision.Proofs.Resource.Building
import Provision.Proofs.Resource.Values
import Provision.Proofs.Session.Reloading

/-!
Contract: what the request that adds a node says.

The attributes of a node stand in the same object as the members that an
operation has of its own, and the segments of an address are written as the
names and texts of members.  Where no attribute has the name of such a member,
nothing of the address and of the attributes is lost.

Owns:
- the address of a document, with the addresses of all documents of addresses;
- what the body of a request to add says, and that it says one thing only;
- the bodies that are sent for all addresses and attributes, and for the
  commands of resources.

Does not own: how a server answers, and requests of other operations.
-/

namespace Provision

/-! ## Addresses of documents -/

/-- The segment of an object with one member, whose value is a text. -/
def Segment.ofJson? : Json → Option Segment
  | .object [(kind, .string name)] => some ⟨kind, name⟩
  | _ => none

namespace Address

/-- The address of an array of such objects, segment by segment. -/
def ofJson? : Json → Option Address
  | .array items => (items.mapM Segment.ofJson?).bind ofSegments
  | _ => none

/-- An address is recovered from its document. -/
theorem ofJson?_toJson (address : Address) :
    ofJson? address.toJson = some address := by
  have areRead (segments : List Segment) :
      (segments.map fun segment =>
        Json.object [(segment.kind, .string segment.name)]).mapM
          Segment.ofJson? = some segments := by
    induction segments with
    | nil => rfl
    | cons segment rest inductionHypothesis =>
        simp [Segment.ofJson?, inductionHypothesis]
  rw [toJson, ofJson?, areRead, Option.bind_some, ofSegments_eq_some_iff]

/-- The document of an address is an array of objects. -/
theorem fits_toJson (address : Address) (accepts : Json.Number → Prop)
    (depth : Nat) : address.toJson.Fits accepts (depth + 2) := by
  refine .array (List.forall_mem_map.mpr fun segment _ => ?_)
  refine .object (by simp [Members.Distinct, Members.names])
    fun member isMember => ?_
  rw [List.mem_singleton.mp isMember]
  exact .string _

end Address

/-! ## Operations that add a node -/

namespace Operation

/-- The members of an operation that adds a node: its own ones, and then those
of the attributes. -/
def addMembers (target : Json) (attributes : Members Json) : Members Json :=
  ("operation", .string "add") :: ("address", target) :: attributes

/-- A body is the text of an object with such members, whose names are
distinct, and is read as that object.  The address stands there as a list of
objects with one member, from which it is recovered; of the attributes each has
one member, in order, and from these the attributes are read back. -/
structure AddBody (body : String) (target : Json) (attributes : Members Json)
    (address : Address) (values : ValueSet) : Prop where
  areDistinct : Members.Distinct (addMembers target attributes)
  isText : body = (Json.object (addMembers target attributes)).compactText
  isRead : Json.parse body = some (.object (addMembers target attributes))
  isTarget : target = .array (address.segments.map fun segment =>
    .object [(segment.kind, .string segment.name)])
  isAddress : Address.ofJson? target = some address
  areNamed : Members.names attributes = Members.names values
  areValues : Value.ofJson? (.object attributes) = some (.nested values)

/-- A body says that a node with an address and with attributes is added. -/
def SaysAdd (body : String) (address : Address) (values : ValueSet) : Prop :=
  ∃ target attributes, AddBody body target attributes address values

variable {body : String} {address other : Address} {values others : ValueSet}

/-- A body says one thing only. -/
theorem SaysAdd.unique (isSaid : SaysAdd body address values)
    (isSaidToo : SaysAdd body other others) :
    address = other ∧ values = others := by
  obtain ⟨target, attributes, first⟩ := isSaid
  obtain ⟨otherTarget, otherAttributes, second⟩ := isSaidToo
  cases first.isRead.symm.trans second.isRead
  cases first.areValues.symm.trans second.areValues
  exact ⟨Option.some.inj (first.isAddress.symm.trans second.isAddress), rfl⟩

/-- The document of an operation that adds a node has the attributes behind
the members of its own. -/
theorem toJson_add (address : Address) (values : ValueSet) :
    (add address values).toJson =
      .object (addMembers address.toJson (Value.membersToJson values)) := rfl

/-! ## Attributes that can be sent -/

/-- Attributes that a request to add can carry: they nest no deeper than a
document may, and none has the name of a member that an operation has of its
own. -/
structure Carries (values : ValueSet) : Prop where
  fits : ∃ depth ≤ Json.greatestDepth, (Value.nested values).Fits depth
  areFree : ∀ name ∈ Members.names values, name ∉ ownMembers

/-- The object of the operation takes one of the levels that there may be. -/
theorem carries_iff :
    Carries values ↔ values.FitsBeside ownMembers 126 := by
  constructor
  · rintro ⟨⟨depth, isBounded, fits⟩, areFree⟩
    cases fits.mono isBounded with
    | nested distinct allFit => exact ⟨distinct, areFree, allFit⟩
  · intro fits
    exact ⟨⟨127, Nat.le_refl _, fits.nested⟩, fits.areFree⟩

/-- The names in the object of the operation are distinct. -/
theorem Carries.distinct (carries : Carries values) (target : Json) :
    Members.Distinct (addMembers target (Value.membersToJson values)) := by
  have isFree (name : String) (isOwn : name ∈ ownMembers) :
      name ∉ Members.names values :=
    fun isName => carries.areFree name isName isOwn
  change ("operation" :: "address" ::
    Members.names (Value.membersToJson values)).Nodup
  rw [Value.names_membersToJson, List.nodup_cons, List.nodup_cons,
    List.mem_cons, not_or]
  exact ⟨⟨by decide, isFree "operation" List.mem_cons_self⟩,
    isFree "address" (.tail _ List.mem_cons_self),
    (carries_iff.mp carries).distinct⟩

/-- The attributes stand in the object of the operation, so they nest as deep
as before. -/
theorem Carries.fits_toJson_add (carries : Carries values)
    (address : Address) :
    (add address values).toJson.Fits Json.Number.ReadsBack
      Json.greatestDepth := by
  have allFit := (carries_iff.mp carries).allFit
  rw [toJson_add]
  refine .object (carries.distinct _) ?_
  rw [addMembers, List.forall_mem_cons, List.forall_mem_cons,
    Value.membersToJson_eq_map, List.forall_mem_map]
  exact ⟨.string _, address.fits_toJson _ 124,
    fun member isMember => (allFit member isMember).toJson⟩

/-- The body of the request says what is added. -/
theorem Carries.saysAdd (carries : Carries values) (address : Address) :
    SaysAdd (add address values).toJson.compactText address values := by
  obtain ⟨depth, -, fits⟩ := carries.fits
  refine ⟨address.toJson, Value.membersToJson values, ?_⟩
  exact
    { areDistinct := carries.distinct _
      isText := rfl
      isRead := Json.parse_compactText (carries.fits_toJson_add address)
      isTarget := rfl
      isAddress := address.ofJson?_toJson
      areNamed := Value.names_membersToJson values
      areValues := fits.ofJson?_toJson }

end Operation

/-- A request can carry the attributes of every resource. -/
theorem Resource.carries_values (resource : Resource) :
    Operation.Carries resource.values :=
  Operation.carries_iff.mpr (resource.fitsBeside_values 122)

namespace ManagementClient

/-- An operation that adds a node is one request, which carries it. -/
theorem runFrom_add_journal
    (client : ManagementClient)
    (address : Address)
    (values : ValueSet)
    (before : Journal) :
    ((client.add address values).runFrom before).2 =
      before ++ [.sent (client.request (.add address values))] := by
  unfold add
  rw [Attempt.runFrom_bind, runFrom_execute]
  cases decode (client.answer before.requests (.add address values)) with
  | error cause => rfl
  | ok response =>
      dsimp only
      split
      · rfl
      · split <;> rfl

/-- The body of the request is the same for every client. -/
theorem saysAdd_body
    (client : ManagementClient)
    {values : ValueSet}
    (carries : Operation.Carries values)
    (address : Address) :
    Operation.SaysAdd (client.request (.add address values)).body address
      values :=
  carries.saysAdd address

/-- **The request that adds a node determines the node.**

To add a node is to send one request.  For every address, and for attributes
that an operation can carry, which those of every resource are, the body of the
request is read as an object with distinct names: the operation, the address as
a list of objects with one member from which it is recovered segment by
segment, and then one member for each attribute, in order, from which the
attributes are read back.  So two requests with one body add one node with one
set of attributes. -/
theorem add_request_determines_node :
    (∀ (client : ManagementClient) (address : Address) (values : ValueSet)
        (before : Journal),
      ((client.add address values).runFrom before).2 =
        before ++ [.sent (client.request (.add address values))]) ∧
    (∀ (client : ManagementClient) (draft : ResourceDraft) (command : Command),
      draft.command = .ok command →
      Operation.Carries command.values ∧
      Operation.SaysAdd
        (client.request (.add command.address command.values)).body
        command.address command.values) ∧
    (∀ (client : ManagementClient) (address : Address) (values : ValueSet),
      Operation.Carries values →
      Operation.SaysAdd (client.request (.add address values)).body
        address values) ∧
    ∀ (client otherClient : ManagementClient) (address other : Address)
        (values others : ValueSet),
      Operation.Carries values → Operation.Carries others →
      (client.request (.add address values)).body =
        (otherClient.request (.add other others)).body →
      address = other ∧ values = others := by
  refine ⟨runFrom_add_journal, ?_, fun client address values carries =>
    client.saysAdd_body carries address, ?_⟩
  · intro client draft command isBuilt
    obtain ⟨resource, -, rfl⟩ := map_eq_ok_iff.mp isBuilt
    exact ⟨resource.carries_values,
      client.saysAdd_body resource.carries_values _⟩
  · intro client otherClient address other values others carries carriesToo
      sameBody
    have isSaid := client.saysAdd_body carries address
    have isSaidToo := otherClient.saysAdd_body carriesToo other
    rw [sameBody] at isSaid
    exact isSaid.unique isSaidToo

/-- A client of a server that never answers. -/
def silentClient : ManagementClient where
  transport := fun _ => .error (.connection "")
  url :=
    { scheme := .http
      user := ⟨"", ""⟩
      host := .name "localhost"
      port := some 9990
      path := ["management"]
      query := none
      fragment := none }
  headers := []
  policy := { }

/-- An address with a kind that is the name of a member of its own. -/
def markedNode : Address := ⟨[⟨"address", "a/b=\"c\""⟩], ⟨"operation", "add"⟩⟩

/-- Attributes with such names in a nested set. -/
def markedValues : ValueSet :=
  [("operations", .nested
      [("operation", .text "remove"), ("address", .list [.integer (-1)])]),
    ("line\n", .boolean false)]

/-- The settings of a context with two protocols. -/
def contextDraft : ResourceDraft :=
  .clientSslContext { name := "client", protocols := ["TLSv1.3", "TLSv1.2"] }

theorem add_request_determines_node_sample :
    (∃ command, contextDraft.command = .ok command ∧
      Operation.SaysAdd
        (silentClient.request (.add command.address command.values)).body
        command.address command.values) ∧
    Operation.SaysAdd
      (silentClient.request (.add markedNode markedValues)).body
      markedNode markedValues ∧
    (silentClient.request (.add markedNode markedValues)).body ≠
      (silentClient.request (.add markedNode [])).body := by
  have isBuilt : ∃ command, contextDraft.command = .ok command := ⟨_, rfl⟩
  obtain ⟨command, isBuilt⟩ := isBuilt
  have carries : Operation.Carries markedValues := by
    refine ⟨⟨3, by decide, .nested (by decide) ?_⟩, by decide⟩
    simp only [markedValues, List.forall_mem_cons]
    refine ⟨.nested (by decide) ?_, .scalar _, by simp⟩
    simp only [List.forall_mem_cons]
    exact ⟨.scalar _, .list (by simpa using .scalar _), by simp⟩
  have carriesNone : Operation.Carries [] :=
    ⟨⟨1, by decide, .nested (by decide) (by simp)⟩, by decide⟩
  obtain ⟨-, ofCommands, ofAll, isInjective⟩ := add_request_determines_node
  refine ⟨⟨command, isBuilt, (ofCommands silentClient _ command isBuilt).2⟩,
    ofAll silentClient markedNode markedValues carries, fun sameBody => ?_⟩
  obtain ⟨-, sameValues⟩ := isInjective silentClient silentClient markedNode
    markedNode markedValues [] carries carriesNone sameBody
  cases sameValues

end ManagementClient

end Provision
