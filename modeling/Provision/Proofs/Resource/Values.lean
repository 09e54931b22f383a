import Provision.Proofs.Value.Documents
import Provision.Resource.Draft
import Provision.Session.Operation

/-!
Contract: the shape of the attributes that are sent for a resource.

Sets of attributes are made step by step.  Each step keeps the names distinct
and free of the names that are taken already, and puts in nothing but values
that fit a depth, so every resource sends attributes of that shape, beside the
members that an operation has of its own.

Owns:
- the sets that fit a depth beside the names that are taken;
- the steps that keep a set such a one;
- the attributes of every kind of resource, and of the parts of resources.

Does not own: how the attributes are sent.
-/

namespace Provision

/-- Attributes with distinct names, none of which is taken, and with values
that fit a depth. -/
structure ValueSet.FitsBeside (taken : List String) (depth : Nat)
    (values : ValueSet) : Prop where
  distinct : Members.Distinct values
  areFree : ∀ name ∈ Members.names values, name ∉ taken
  allFit : ∀ member ∈ values, member.2.Fits depth

namespace ValueSet.FitsBeside

variable {taken : List String} {depth : Nat} {values : ValueSet}
  {name : String}

theorem empty : FitsBeside taken depth ValueSet.empty :=
  ⟨List.nodup_nil, by simp [ValueSet.empty, Members.names],
    by simp [ValueSet.empty]⟩

/-- As one value, the attributes nest one level deeper. -/
theorem nested (fits : values.FitsBeside taken depth) :
    (Value.nested values).Fits (depth + 1) :=
  .nested fits.distinct fits.allFit

/-! ## Steps -/

theorem set (fits : values.FitsBeside taken depth) (isFree : name ∉ taken)
    {value : Value} (valueFits : value.Fits depth) :
    (values.set name value).FitsBeside taken depth := by
  refine ⟨fits.distinct.put name value, fun other isName => ?_,
    fun member isMember => ?_⟩
  · rcases Members.mem_names_put.mp isName with rfl | isOld
    · exact isFree
    · exact fits.areFree other isOld
  · rcases Members.mem_of_mem_put isMember with rfl | isOld
    · exact valueFits
    · exact fits.allFit member isOld

theorem setScalar (fits : values.FitsBeside taken depth)
    (isFree : name ∉ taken) (scalar : Option Scalar) :
    (values.setScalar name scalar).FitsBeside taken depth := by
  unfold ValueSet.setScalar
  split
  · split
    · exact fits
    · exact fits.set isFree (.scalar _)
  · exact fits

theorem setList (fits : values.FitsBeside taken (depth + 1))
    (isFree : name ∉ taken) {items : List Value}
    (allFit : ∀ item ∈ items, item.Fits depth) :
    (values.setList name items).FitsBeside taken (depth + 1) := by
  unfold ValueSet.setList
  split
  · exact fits
  · exact fits.set isFree (.list allFit)

theorem setTexts (fits : values.FitsBeside taken (depth + 1))
    (isFree : name ∉ taken) (texts : List String) :
    (values.setTexts name texts).FitsBeside taken (depth + 1) :=
  fits.setList isFree (List.forall_mem_map.mpr fun _ _ => .scalar _)

theorem setGroups (fits : values.FitsBeside taken (depth + 2))
    (isFree : name ∉ taken) {groups : List ValueSet}
    (allFit : ∀ group ∈ groups, group.FitsBeside [] depth) :
    (values.setGroups name groups).FitsBeside taken (depth + 2) :=
  fits.setList isFree
    (List.forall_mem_map.mpr fun group isGroup =>
      (allFit group isGroup).nested)

theorem setNested (fits : values.FitsBeside taken (depth + 1))
    (isFree : name ∉ taken) {members : ValueSet}
    (membersFit : members.FitsBeside [] depth) :
    (values.setNested name (some members)).FitsBeside taken (depth + 1) := by
  unfold ValueSet.setNested
  dsimp only
  split
  · exact fits
  · exact fits.set isFree membersFit.nested

end ValueSet.FitsBeside

/-! ## Parts of resources -/

section Parts

variable (depth : Nat)

theorem CredentialReference.fitsBeside_values
    (reference : CredentialReference) :
    reference.values.FitsBeside [] depth := by
  cases reference with
  | clearText secret => exact .set .empty (by decide) (.scalar _)
  | store name key type =>
      refine .setScalar ?_ (by decide) _
      exact (ValueSet.FitsBeside.empty.set (by decide) (.scalar _)).set
        (by decide) (.scalar _)
  | external type => exact .set .empty (by decide) (.scalar _)

theorem Property.fitsBeside_collect (properties : List Property) :
    (Property.collect properties).FitsBeside [] depth := by
  refine ⟨Members.distinct_ofPairs _, fun _ _ => List.not_mem_nil,
    fun member isMember => ?_⟩
  obtain ⟨property, -, rfl⟩ :=
    List.mem_map.mp (Members.mem_of_mem_ofPairs isMember)
  exact .scalar _

theorem MechanismRealm.fitsBeside_values (realm : MechanismRealm) :
    realm.values.FitsBeside [] depth := by
  unfold values
  iterate 4 refine ValueSet.FitsBeside.setScalar ?_ (by decide) _
  exact .set .empty (by decide) (.scalar _)

theorem Mechanism.fitsBeside_values (mechanism : Mechanism) :
    mechanism.values.FitsBeside [] (depth + 2) := by
  unfold values
  refine .setGroups ?_ (by decide) (List.forall_mem_map.mpr fun realm _ =>
    realm.fitsBeside_values depth)
  iterate 8 refine ValueSet.FitsBeside.setScalar ?_ (by decide) _
  exact .empty

theorem DomainRealm.fitsBeside_values (realm : DomainRealm) :
    realm.values.FitsBeside [] depth := by
  unfold values
  iterate 2 refine ValueSet.FitsBeside.setScalar ?_ (by decide) _
  exact .set .empty (by decide) (.scalar _)

end Parts

/-! ## Resources -/

/-- The members of the document of an operation that say what it is and which
node it is for. -/
def Operation.ownMembers : List String := ["operation", "address"]

section Resources

open Operation (ownMembers)

variable (depth : Nat)

theorem AuthenticationIdentity.fitsBeside_elim {values : ValueSet}
    (identity : Option AuthenticationIdentity)
    (fits : values.FitsBeside ownMembers depth) :
    (identity.elim values (·.addTo values)).FitsBeside ownMembers depth := by
  cases identity with
  | none => exact fits
  | some identity => cases identity <;> exact fits.set (by decide) (.scalar _)

theorem MechanismPolicy.fitsBeside_elim {values : ValueSet}
    (policy : Option MechanismPolicy)
    (fits : values.FitsBeside ownMembers (depth + 1)) :
    (policy.elim values (·.addTo values)).FitsBeside ownMembers
      (depth + 1) := by
  cases policy with
  | none => exact fits
  | some policy =>
      cases policy with
      | allowAll => exact fits.set (by decide) (.scalar _)
      | allowSasl mechanisms => exact fits.setTexts (by decide) _

theorem AuthenticationConfiguration.fitsBeside_values
    (configuration : AuthenticationConfiguration) :
    configuration.values.FitsBeside ownMembers (depth + 1) := by
  unfold values
  dsimp only
  -- From the last attribute to the first.
  refine .setNested ?_ (by decide) (Property.fitsBeside_collect depth _)
  refine .setTexts ?_ (by decide) _
  iterate 2 refine ValueSet.FitsBeside.setScalar ?_ (by decide) _
  refine MechanismPolicy.fitsBeside_elim depth _ ?_
  refine AuthenticationIdentity.fitsBeside_elim (depth + 1) _ ?_
  iterate 6 refine ValueSet.FitsBeside.setScalar ?_ (by decide) _
  exact .set .empty (by decide)
    (configuration.credentialReference.fitsBeside_values depth).nested

theorem ClientSslContext.fitsBeside_values (context : ClientSslContext) :
    context.values.FitsBeside ownMembers (depth + 1) := by
  unfold values
  iterate 2 refine ValueSet.FitsBeside.setScalar ?_ (by decide) _
  refine .setTexts ?_ (by decide) _
  iterate 5 refine ValueSet.FitsBeside.setScalar ?_ (by decide) _
  exact .empty

theorem CredentialStore.fitsBeside_values (store : CredentialStore) :
    store.values.FitsBeside ownMembers (depth + 1) := by
  unfold values
  iterate 7 refine ValueSet.FitsBeside.setScalar ?_ (by decide) _
  exact (ValueSet.FitsBeside.empty.set (by decide) (.scalar _)).set (by decide)
    (store.credentialReference.fitsBeside_values depth).nested

theorem CustomRealm.fitsBeside_values (realm : CustomRealm) :
    realm.values.FitsBeside ownMembers (depth + 1) := by
  unfold values
  refine .setNested ?_ (by decide) (Property.fitsBeside_collect depth _)
  refine .setScalar ?_ (by decide) _
  exact .set .empty (by decide) (.scalar _)

theorem FilesystemRealm.fitsBeside_values (realm : FilesystemRealm) :
    realm.values.FitsBeside ownMembers depth := by
  unfold values
  iterate 2 refine ValueSet.FitsBeside.setScalar ?_ (by decide) _
  exact .set .empty (by decide) (.scalar _)

theorem HttpAuthenticationFactory.fitsBeside_values
    (factory : HttpAuthenticationFactory) :
    factory.values.FitsBeside ownMembers (depth + 4) := by
  unfold values
  refine .setGroups ?_ (by decide) (List.forall_mem_map.mpr
    fun mechanism _ => mechanism.fitsBeside_values depth)
  exact (ValueSet.FitsBeside.empty.set (by decide) (.scalar _)).set (by decide)
    (.scalar _)

theorem SecurityDomain.fitsBeside_values (domain : SecurityDomain) :
    domain.values.FitsBeside ownMembers (depth + 2) := by
  unfold values
  iterate 2 refine ValueSet.FitsBeside.setTexts ?_ (by decide) _
  iterate 4 refine ValueSet.FitsBeside.setScalar ?_ (by decide) _
  refine .setGroups ?_ (by decide) (List.forall_mem_map.mpr
    fun realm _ => realm.fitsBeside_values depth)
  exact .set .empty (by decide) (.scalar _)

theorem X500AttributePrincipalDecoder.fitsBeside_values
    (decoder : X500AttributePrincipalDecoder) :
    decoder.values.FitsBeside ownMembers (depth + 1) := by
  unfold values
  refine .setTexts ?_ (by decide) _
  iterate 4 refine ValueSet.FitsBeside.setScalar ?_ (by decide) _
  exact .set .empty (by decide) (.scalar _)

/-- The attributes of a resource nest four levels deep at most. -/
theorem Resource.fitsBeside_values (resource : Resource) :
    resource.values.FitsBeside ownMembers (depth + 4) := by
  cases resource with
  | authenticationConfiguration resource =>
      exact resource.fitsBeside_values (depth + 3)
  | clientSslContext resource => exact resource.fitsBeside_values (depth + 3)
  | credentialStore resource => exact resource.fitsBeside_values (depth + 3)
  | customRealm resource => exact resource.fitsBeside_values (depth + 3)
  | filesystemRealm resource => exact resource.fitsBeside_values (depth + 4)
  | httpAuthenticationFactory resource =>
      exact resource.fitsBeside_values depth
  | securityDomain resource => exact resource.fitsBeside_values (depth + 2)
  | x500AttributePrincipalDecoder resource =>
      exact resource.fitsBeside_values (depth + 3)

end Resources

end Provision
