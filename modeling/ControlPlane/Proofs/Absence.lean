/-
Something is not there, and what is said of it.

An operation is about one thing (`Operation.own?`) and needs others, which it looks up one after
another (`Operation.needs`).  Where it answers that something is not found, that is one of those,
and it was not stored or could not be (`Operation.blames`); and where something that it needs is not
stored, it answers so of the first that is missing (`Operation.misses`).
`Deployment.Reachable.notFound_truthful` puts the two together.
-/
import ControlPlane.Proofs.Referents

namespace ControlPlane

open Script
open IdentityName (sanitise)

/-! ## What operations refer to -/

namespace Operation

/-- The key under which an operation reads, changes or deletes an entity, or assigns access to
it. -/
def addressed? : Operation → Option Key
  | .getCloud name | .updateCloud name _ | .deleteCloud name | .assignCloudGrant name _ _ =>
    some (.cloud name)
  | .getRegion key | .updateRegion key _ | .deleteRegion key => some (.region key)
  | .getController key | .updateController key _ | .deleteController key =>
    some (.controller key)
  | .getModel key | .updateModel key _ | .deleteModel key | .assignModelGrant key _ _ =>
    some (.model key)
  | .getIdentity name | .updateIdentity name _ | .deleteIdentity name => some (.identity name)
  | .getCredential key | .updateCredential key _ | .deleteCredential key
  | .assignCredentialGrant key _ _ => some (.credential key)
  | _ => none

/-- What an operation is about, if that is one thing with a key of its own. -/
def own? : Operation → Option Referent
  | .addCloud draft => some (.entity (.cloud draft.name))
  | .reconcileCloud snapshot => some (.entity (.cloud snapshot.cloud.name))
  | .addRegionToCloud entry | .addRegion entry => some (.entity (.region entry.origin))
  | .assignPriority region controller _ | .removePriority region controller =>
    some (.link region controller)
  | .addController draft => some (.entity (.controller (.name draft.origin.name)))
  | .addModel entry => some (.entity (.model (.ownerName entry.origin.owner entry.origin.name)))
  | .addIdentity draft => some (.entity (.identity draft.name))
  | .getOrCreateIdentity name | .cloudsOfIdentity name | .modelsOfIdentity name =>
    some (.entity (.identity name))
  | .addCredential entry => some (.entity (.credential entry.origin))
  | .reconcileCredential snapshot => some (.entity (.credential snapshot.credential.origin))
  | op => op.addressed?.map .entity

/-- What has to be there for an operation, in the order in which it is looked up. -/
def needs : Operation → List Referent
  | .addRegionToCloud entry | .addRegion entry => [.entity (.cloud entry.origin.cloud)]
  | .assignPriority region controller _ =>
    [.entity (.region region), .entity (.controller controller)]
  | .removePriority region controller =>
    [.entity (.region region), .entity (.controller controller), .link region controller]
  | .addController draft => [.entity (.region draft.origin.hosting)]
  | .addCredential entry => [.entity (.cloud entry.origin.cloud)]
  | .reconcileCredential snapshot => [.entity (.cloud snapshot.credential.origin.cloud)]
  | op => (op.addressed?.map .entity).toList

/-- The operations under a key. -/
inductive Addresses (key : Key) : Operation → Prop
  | retrieval : Addresses key key.retrieval
  | deletion : Addresses key key.deletion
  | revision (settings : Settings key.relation) : Addresses key (key.revision settings)
  | assign (object : GrantObject) (h : object.key = key) (identity : String)
    (access : Option Access) : Addresses key (object.assign identity access)

section

variable {op : Operation} {key : Key} (h : op.addressed? = some key)

include h

theorem addresses_of_addressed? : op.Addresses key := by
  cases op <;> cases h <;> first
    | exact .retrieval
    | exact .deletion
    | exact .revision _
    | exact .assign (.cloud _) rfl _ _
    | exact .assign (.model _) rfl _ _
    | exact .assign (.credential _) rfl _ _

theorem own?_of_addressed? : op.own? = some (.entity key) := by
  cases op <;> cases h <;> rfl

theorem needs_of_addressed? : op.needs = [.entity key] := by
  cases op <;> cases h <;> rfl

end

/-- All that an operation refers to, the regions that a new controller is to serve included. -/
def referents (op : Operation) : List Referent :=
  op.own?.toList ++ op.needs ++ op.priorities.map fun p => .entity (.region p.region)

theorem mem_referents_of_own? {op : Operation} {referent : Referent}
    (h : op.own? = some referent) : referent ∈ op.referents := by
  rw [referents, h]
  exact List.mem_cons_self

theorem mem_referents_of_needs {op : Operation} {referent : Referent} (h : referent ∈ op.needs) :
    referent ∈ op.referents :=
  List.mem_append_left _ (List.mem_append_right _ h)

/-- Whether what an operation does not find has a key of its own.  Regions of a provider, the grant
of a connection and the credentials of an owner on a cloud have none. -/
def hasOwnKey : Operation → Bool
  | .findRegion _ _ => false
  | .recordConnection _ _ _ => false
  | .credentialsOfIdentity _ _ => false
  | _ => true

theorem subject_own? {op : Operation} {referent : Referent} (h : op.own? = some referent) :
    op.plan.subject = referent.subject := by
  cases referent with
  | entity key =>
    rw [Referent.subject_entity]
    cases op <;> cases h <;> rfl
  | link region controller => cases op <;> cases h <;> rfl

/-- An operation that is about no one thing addresses what could always exist. -/
theorem isValid_of_own? {op : Operation} (hkey : op.hasOwnKey = true) (h : op.own? = none) :
    op.plan.subject.isValid = true := by
  cases op with
  | listClouds => rfl
  | modelsWithUuids uuids => rfl
  | modelsUsingCredential credential => rfl
  | findRegion provider region => cases hkey
  | recordConnection key identity time => cases hkey
  | credentialsOfIdentity name cloud => cases hkey
  | _ => cases h

end Operation

/-! ## What is told to be missing -/

namespace Key

variable {env : Environment} {before : Progress} {referents : List Referent} (key : Key)
  (hmem : .entity key ∈ referents)

include hmem

theorem retrieval_blames :
    Blames env key.subject referents before.database.contents before key.retrieval.plan.script := by
  cases key with
  | cloud name => exact (Clouds.get_blames hmem).map _
  | region key =>
    refine Blames.map (blames_lookup hmem rfl rfl Storable.isExact_regionKey fun _ hnone => ?_) _
    exact row?_eq_none_of_entity? (congrArg (Option.map Entity.region) hnone)
  | controller key =>
    refine Blames.map
      (blames_lookup hmem rfl rfl Storable.isExact_controllerKey fun _ hnone => ?_) _
    exact row?_eq_none_of_entity? (congrArg (Option.map Entity.controller) hnone)
  | model key =>
    refine Blames.map (blames_lookup hmem rfl rfl Storable.isExact_modelKey fun _ hnone => ?_) _
    exact row?_eq_none_of_entity? (congrArg (Option.map Entity.model) hnone)
  | credential key =>
    refine Blames.map
      (blames_lookup hmem rfl rfl Storable.isExact_credentialKey fun _ hnone => ?_) _
    exact row?_eq_none_of_entity? (congrArg (Option.map Entity.credential) hnone)
  | identity name =>
    refine Blames.map (blames_lookup hmem rfl rfl Storable.isExact_text fun _ hnone => ?_) _
    exact row?_eq_none_of_entity? (congrArg (Option.map Entity.identity) hnone)

variable (hsound : before.database.Sound)

include hsound

theorem deletion_blames :
    Blames env key.subject referents before.database.contents before key.deletion.plan.script := by
  have hdelete : ∀ {r : Relation} (id : Int), MissesNothing env (do
      let _ ← delete id fun id (row : Row r) => row.id = id : Script Unit) := fun _ =>
    failsOnly_bind (failsOnly_delete _ _) fun _ => failsOnly_pure _
  cases key with
  | cloud name =>
    exact Blames.map (blames_deleteFound hmem rfl hsound Storable.isExact_text fun _ => rfl) _
  | region key =>
    exact Blames.map (blames_deleteFound hmem rfl hsound Storable.isExact_regionKey fun _ => rfl) _
  | controller key =>
    exact Blames.map ((Controllers.idOf_blames hmem).bind_missesNothing
      (Controllers.idOf_within _) hsound hdelete) _
  | model key =>
    exact Blames.map ((Models.idOf_blames hmem).bind_missesNothing (Models.idOf_within _) hsound
      hdelete) _
  | credential key =>
    exact Blames.map
      (blames_deleteFound hmem rfl hsound Storable.isExact_credentialKey fun _ => rfl) _
  | identity name =>
    exact Blames.map (blames_deleteFound hmem rfl hsound Storable.isExact_text fun _ => rfl) _

theorem revision_blames (settings : Settings key.relation) :
    Blames env key.subject referents before.database.contents before
      (key.revision settings).plan.script := by
  cases key with
  | cloud name =>
    refine Blames.map (Blames.transaction (blames_update hmem rfl hsound Storable.isExact_text
      (fun name (row : Row .cloud) => row.origin = name) (fun _ => rfl) rfl
      fun row kept middle hrow hnew => Clouds.blames_readBack ?_)) _
    exact ⟨_, hnew, (names_of_row? hrow).2⟩
  | region key =>
    refine Blames.map (Blames.transaction (blames_update hmem rfl hsound Storable.isExact_regionKey
      (fun key (row : Row .region) => row.origin = key) (fun _ => rfl) rfl
      fun row kept middle _ hnew => Blames.decoded ?_ _)) _
    exact blames_withId (fun c => c.showsRows_regions _) hnew
  | controller key =>
    refine Blames.map (Blames.transaction ((Controllers.idOf_blames hmem).bind
      fun id middle hid => ?_)) _
    obtain ⟨row, hrow, rfl, rfl⟩ := of_number_eq_ok Storable.isExact_controllerKey hid
    have hmem := (names_of_row? ((row?_controller key _).trans hrow)).1
    refine blames_updateNumbered hsound hmem fun new last hid hnew => Blames.decoded ?_ _
    rw [← hid]
    exact blames_withId (fun c => c.showsRows_controllers _) hnew
  | model key =>
    refine Blames.map (Blames.transaction ((Models.idOf_blames hmem).bind
      fun id middle hid => ?_)) _
    obtain ⟨row, hrow, rfl, rfl⟩ := of_number_eq_ok Storable.isExact_modelKey hid
    have hmem := (names_of_row? ((row?_model key _).trans hrow)).1
    refine blames_updateNumbered hsound hmem fun new last hid hnew => ?_
    rw [← hid]
    exact blames_withId (fun c => c.showsRows_models _) hnew
  | credential key =>
    refine Blames.map (Blames.transaction (blames_update hmem rfl hsound
      Storable.isExact_credentialKey
      (fun key (row : Row .credential) => row.origin = key) (fun _ => rfl) rfl
      fun row kept middle _ hnew => blames_withId (fun c => c.showsRows_credentials _) hnew)) _
  | identity name =>
    refine Blames.map ?_ _
    exact blames_update hmem rfl hsound Storable.isExact_text
      (fun name (row : Row .identity) => row.origin = name) (fun _ => rfl) rfl
      fun row kept middle _ _ => blames_pure _

end Key

/-- An object to which access is assigned is found, or it is what is missing. -/
theorem GrantObject.assign_blames {env : Environment} {before : Progress}
    {referents : List Referent} (object : GrantObject) (hsound : before.database.Sound)
    (hmem : .entity object.key ∈ referents) (identity : String) (access : Option Access) :
    Blames env object.key.subject referents before.database.contents before
      (object.assign identity access).plan.script := by
  rw [script_assign]
  refine Blames.map (Blames.transaction (Blames.bind_missesNothing ?_ ?_ hsound fun id =>
    Grants.assign_failsOnly _ _ _ _)) _
  · cases object with
    | cloud name => exact Clouds.idOf_blames hmem
    | model key => exact Models.idOf_blames hmem
    | credential key => exact Credentials.idOf_blames hmem
  · cases object with
    | cloud name => exact Clouds.idOf_within name
    | model key => exact Models.idOf_within key.sanitise
    | credential key => exact Credentials.idOf_within key.sanitise

namespace Operation

variable {env : Environment} {before : Progress}

theorem blames_of_addresses {op : Operation} {key : Key} (h : op.Addresses key)
    (hsound : before.database.Sound) {referents : List Referent}
    (hmem : .entity key ∈ referents) :
    Blames env op.plan.subject referents before.database.contents before op.plan.script := by
  cases h with
  | retrieval =>
    rw [Key.subject_retrieval]
    exact key.retrieval_blames hmem
  | deletion =>
    rw [Key.subject_deletion]
    exact key.deletion_blames hmem hsound
  | revision settings =>
    rw [Key.subject_revision]
    exact key.revision_blames hmem hsound settings
  | assign object hobject identity access =>
    subst hobject
    rw [GrantObject.subject_assign]
    exact object.assign_blames hsound hmem identity access

/-- What an operation misses is one of the things to which it refers, and was not stored. -/
theorem blames {op : Operation} (hkey : op.hasOwnKey = true) (hsound : before.database.Sound) :
    Blames env op.plan.subject op.referents before.database.contents before op.plan.script := by
  cases haddressed : op.addressed? with
  | some key =>
    exact blames_of_addresses (addresses_of_addressed? haddressed) hsound
      (mem_referents_of_own? (own?_of_addressed? haddressed))
  | none =>
    have hquery : ∀ {α β : Type} [Storable α] (params : α) (f : α → Contents → β),
        MissesNothing env (query params f) := fun params f => failsOnly_query params f
    cases op with
    | listClouds => exact (blames_of_missesNothing hsound (hquery _ _)).map _
    | addCloud draft => exact (Clouds.add_blames hsound draft).map _
    | reconcileCloud snapshot => exact (Clouds.reconcile_blames hsound snapshot).map _
    | addRegionToCloud entry =>
      exact (Regions.add_blames hsound (mem_referents_of_needs List.mem_cons_self)).map _
    | addRegion entry =>
      exact (Regions.add_blames hsound (mem_referents_of_needs List.mem_cons_self)).map _
    | assignPriority region controller priority =>
      exact (Links.assign_blames hsound (mem_referents_of_needs List.mem_cons_self)
        (mem_referents_of_needs (List.mem_cons_of_mem _ List.mem_cons_self)) priority).map _
    | removePriority region controller =>
      exact (Links.remove_blames hsound (mem_referents_of_needs List.mem_cons_self)
        (mem_referents_of_needs (List.mem_cons_of_mem _ List.mem_cons_self))
        (mem_referents_of_own? rfl)).map _
    | addController draft =>
      refine Blames.map (Controllers.add_blames hsound
        (mem_referents_of_needs List.mem_cons_self) fun p hp => ?_) _
      exact List.mem_append_right _ (List.mem_map.2 ⟨p, hp, rfl⟩)
    | addModel entry => exact (Models.add_blames hsound _).map _
    | modelsWithUuids uuids => exact (blames_of_missesNothing hsound (hquery _ _)).map _
    | modelsUsingCredential credential =>
      exact (blames_of_missesNothing hsound (hquery _ _)).map _
    | getOrCreateIdentity name => exact (Identities.getOrCreate_blames hsound _).map _
    | addIdentity draft => exact (Identities.add_blames hsound _).map _
    | cloudsOfIdentity name => exact (blames_of_missesNothing hsound (hquery _ _)).map _
    | modelsOfIdentity name => exact (blames_of_missesNothing hsound (hquery _ _)).map _
    | addCredential entry =>
      exact (Credentials.add_blames hsound (mem_referents_of_needs List.mem_cons_self)).map _
    | reconcileCredential snapshot =>
      exact (Credentials.reconcile_blames hsound
        (mem_referents_of_needs List.mem_cons_self) _).map _
    | findRegion provider region => cases hkey
    | recordConnection key identity time => cases hkey
    | credentialsOfIdentity name cloud => cases hkey
    | _ => cases haddressed

end Operation

/-! ## What is missing -/

namespace Script

variable {α β : Type} {r : Relation} {env : Environment} {before : Progress} {own : Subject}
  {missing : Referent}

/-- Whether a script, as part of an operation that is about `own`, stops because a referent is
missing. -/
def Misses (env : Environment) (own : Subject) (missing : Referent) (before : Progress)
    (body : Script α) : Prop :=
  ∃ subject after, body env before = .error (.failed .noRow subject) after ∧
    subject.getD own = missing.subject

theorem Misses.map {body : Script α} (h : Misses env own missing before body) (f : α → β) :
    Misses env own missing before (f <$> body) := by
  obtain ⟨subject, after, hrun, hsubject⟩ := h
  exact ⟨subject, after, map_error hrun f, hsubject⟩

theorem Misses.transaction {body : Script α} (h : Misses env own missing before body) :
    Misses env own missing before (transaction body) := by
  obtain ⟨subject, after, hrun, hsubject⟩ := h
  exact ⟨subject, _, transaction_error hrun, hsubject⟩

theorem Misses.bind {body : Script α} (h : Misses env own missing before body)
    (next : α → Script β) : Misses env own missing before (body >>= next) := by
  obtain ⟨subject, after, hrun, hsubject⟩ := h
  exact ⟨subject, after, bind_error hrun next, hsubject⟩

/-- What a script that ends with a value leaves to miss. -/
theorem misses_bind {body : Script α} {next : α → Script β} {a : α} {middle : Progress}
    (hrun : body env before = .ok a middle) (h : Misses env own missing middle (next a)) :
    Misses env own missing before (body >>= next) := by
  obtain ⟨subject, after, hstop, hsubject⟩ := h
  exact ⟨subject, after, (bind_ok hrun next).trans hstop, hsubject⟩

theorem misses_fail (hown : own = missing.subject) :
    Misses env own missing before (fail .noRow : Script α) :=
  ⟨none, before, rfl, hown⟩

section

variable (hcalm : env.disturbance = none)

include hcalm

/-- A read under a key that finds nothing. -/
theorem misses_lookup {key : Key} [Storable α] {params : α} (hstored : stored? params = some params)
    {f : α → Contents → Option β} (hnone : f params before.database.contents = none) :
    Misses env key.subject (.entity key) before (queryOne params f) :=
  ⟨none, before, queryOne_of_none hcalm hstored hnone, (Referent.subject_entity key).symm⟩

/-- A reference that leads to nothing. -/
theorem misses_reference {key : Key} [Storable α] {params : α}
    (hstored : stored? params = some params) {f : α → Contents → Option β}
    (hnone : f params before.database.contents = none) :
    Misses env own (.entity key) before (about key.subject (queryOne params f)) :=
  ⟨some key.subject, before, about_error _ (queryOne_of_none hcalm hstored hnone),
    (Referent.subject_entity key).symm⟩

theorem misses_deleteFound [Storable α] {params : α} (hstored : stored? params = some params)
    {which : α → Row r → Bool}
    (hnone : (before.database.contents.get r).find? (which params) = none)
    (hown : own = missing.subject) :
    Misses env own missing before (do
      let found ← delete params which
      unless found do fail .noRow : Script Unit) :=
  misses_bind (delete_of_ok hcalm hstored (Contents.delete_of_none hnone)) (misses_fail hown)

theorem misses_update {key : Key} [Storable α] {params : α} (hstored : stored? params = some params)
    {settings : Settings key.relation} (hsettings : ∃ kept, stored? settings = some kept)
    (which : α → Row key.relation → Bool)
    (hnone : (before.database.contents.get key.relation).find? (which params) = none)
    {next : Option (Row key.relation) → Script β} (hnext : next none = fail .noRow) :
    Misses env key.subject (.entity key) before
      (update (params, settings) (fun p row => which p.1 row) (fun p _ => p.2) >>= next) := by
  obtain ⟨kept, hkept⟩ := hsettings
  refine misses_bind (update_ok hcalm (Storable.stored?_pair hstored hkept)
    (Contents.update_of_none hnone env.now fun _ => kept)) ?_
  rw [hnext]
  exact misses_fail (Referent.subject_entity key).symm

end
end Script

namespace Key

variable {env : Environment} {before : Progress} (hcalm : env.disturbance = none) {key : Key}
  (hstorable : key.IsStorable) (hnone : key.row? before.database.contents = none)

include hcalm hstorable hnone

theorem retrieval_misses :
    Misses env key.subject (.entity key) before key.retrieval.plan.script :=
  ⟨none, before, retrieval_error hcalm hstorable hnone, (Referent.subject_entity key).symm⟩

theorem deletion_misses :
    Misses env key.subject (.entity key) before key.deletion.plan.script := by
  have hown := (Referent.subject_entity key).symm
  cases key with
  | cloud name =>
    refine Misses.map (misses_deleteFound hcalm hstorable ?_ hown) _
    exact hnone
  | region key =>
    refine Misses.map (misses_deleteFound hcalm hstorable ?_ hown) _
    exact hnone
  | controller key =>
    rw [row?_controller] at hnone
    refine Misses.map (Misses.bind (misses_lookup hcalm hstorable ?_) _) _
    exact Option.map_eq_none_iff.2 hnone
  | model key =>
    rw [row?_model] at hnone
    refine Misses.map (Misses.bind (misses_lookup hcalm hstorable ?_) _) _
    exact Option.map_eq_none_iff.2 hnone
  | credential key =>
    refine Misses.map (misses_deleteFound hcalm hstorable ?_ hown) _
    exact hnone
  | identity name =>
    refine Misses.map (misses_deleteFound hcalm hstorable ?_ hown) _
    exact hnone

theorem revision_misses {settings : Settings key.relation}
    (hsettings : ∃ kept, stored? (key.asked settings) = some kept) :
    Misses env key.subject (.entity key) before (key.revision settings).plan.script := by
  cases key with
  | cloud name =>
    refine Misses.map (Misses.transaction ?_) _
    exact misses_update hcalm hstorable hsettings
      (fun name (row : Row .cloud) => row.origin = name) hnone rfl
  | region key =>
    refine Misses.map (Misses.transaction ?_) _
    exact misses_update hcalm hstorable hsettings
      (fun key (row : Row .region) => row.origin = key) hnone rfl
  | controller key =>
    rw [row?_controller] at hnone
    refine Misses.map (Misses.transaction (Misses.bind (misses_lookup hcalm hstorable ?_) _)) _
    exact Option.map_eq_none_iff.2 hnone
  | model key =>
    rw [row?_model] at hnone
    refine Misses.map (Misses.transaction (Misses.bind (misses_lookup hcalm hstorable ?_) _)) _
    exact Option.map_eq_none_iff.2 hnone
  | credential key =>
    refine Misses.map (Misses.transaction ?_) _
    exact misses_update hcalm hstorable hsettings
      (fun key (row : Row .credential) => row.origin = key) hnone rfl
  | identity name =>
    refine Misses.map ?_ _
    exact misses_update hcalm hstorable hsettings
      (fun name (row : Row .identity) => row.origin = name) hnone rfl

end Key

/-- The first of some referents that is missing is the first of all, or comes after that one. -/
theorem Referent.of_first {c : Contents} {first missing : Referent} {rest : List Referent}
    (h : (first :: rest).find? (fun referent => ¬referent.IsStored c) = some missing) :
    first = missing ∧ ¬missing.IsStored c ∨
      first.IsStored c ∧ rest.find? (fun referent => ¬referent.IsStored c) = some missing := by
  rcases List.find?_cons_eq_some.1 h with ⟨habsent, rfl⟩ | ⟨hstored, hrest⟩
  · exact .inl ⟨rfl, of_decide_eq_true habsent⟩
  · exact .inr ⟨by simpa using hstored, hrest⟩

theorem Referent.of_only {c : Contents} {only missing : Referent}
    (h : [only].find? (fun referent => ¬referent.IsStored c) = some missing) :
    only = missing ∧ ¬missing.IsStored c := by
  rcases of_first h with hmissing | ⟨-, hrest⟩
  · exact hmissing
  · cases hrest

section

variable {env : Environment} {before : Progress} {own : Subject}
  (hcalm : env.disturbance = none)

include hcalm

theorem Clouds.referredId_misses {name : String} (hstorable : (Key.cloud name).IsStorable)
    (h : ¬(Referent.entity (.cloud name)).IsStored before.database.contents) :
    Misses env own (.entity (.cloud name)) before (referredId name) :=
  misses_reference hcalm hstorable
    (Option.map_eq_none_iff.2 (Referent.not_isStored_entity.1 h))

theorem Regions.referredId_misses {key : RegionKey} (hstorable : (Key.region key).IsStorable)
    (h : ¬(Referent.entity (.region key)).IsStored before.database.contents) :
    Misses env own (.entity (.region key)) before (referredId key) :=
  misses_reference hcalm hstorable
    (Option.map_eq_none_iff.2 (Referent.not_isStored_entity.1 h))

theorem Controllers.referredId_misses {key : ControllerKey}
    (hstorable : (Key.controller key).IsStorable)
    (h : ¬(Referent.entity (.controller key)).IsStored before.database.contents) :
    Misses env own (.entity (.controller key)) before (referredId key) := by
  refine misses_reference hcalm hstorable (Option.map_eq_none_iff.2 ?_)
  rw [← Key.row?_controller]
  exact Referent.not_isStored_entity.1 h

theorem Regions.referredId_of_row? {key : RegionKey} (hstorable : (Key.region key).IsStorable)
    {row : Row .region} (h : (Key.region key).row? before.database.contents = some row) :
    referredId key env before = .ok row.id before :=
  about_ok _ (queryOne_ok hcalm hstorable (congrArg (Option.map fun row => row.id) h))

theorem Controllers.referredId_of_row? {key : ControllerKey}
    (hstorable : (Key.controller key).IsStorable) {row : Row .controller}
    (h : (Key.controller key).row? before.database.contents = some row) :
    referredId key env before = .ok row.id before := by
  rw [Key.row?_controller] at h
  exact about_ok _ (queryOne_ok hcalm hstorable
    (congrArg (Option.map fun row : Row .controller => row.id) h))

/-- The link is looked for once its region and its controller are found. -/
theorem Links.remove_misses {region : RegionKey} {controller : ControllerKey}
    (hregion : (Key.region region).IsStorable)
    (hcontroller : (Key.controller controller).IsStorable) {missing : Referent}
    (h : (Operation.removePriority region controller).needs.find?
      (fun referent => ¬referent.IsStored before.database.contents) = some missing) :
    Misses env (.ofLink region controller) missing before (remove region controller) := by
  rcases Referent.of_first h with ⟨rfl, habsent⟩ | ⟨hserved, h⟩
  · exact (Regions.referredId_misses hcalm hregion habsent).bind _
  obtain ⟨served, hserved⟩ := Referent.exists_row?_of_isStored hserved
  refine misses_bind (Regions.referredId_of_row? hcalm hregion hserved) ?_
  rcases Referent.of_first h with ⟨rfl, habsent⟩ | ⟨hserving, h⟩
  · exact (Controllers.referredId_misses hcalm hcontroller habsent).bind _
  obtain ⟨serving, hserving⟩ := Referent.exists_row?_of_isStored hserving
  refine misses_bind (Controllers.referredId_of_row? hcalm hcontroller hserving) ?_
  obtain ⟨rfl, habsent⟩ := Referent.of_only h
  refine misses_deleteFound hcalm rfl ?_ rfl
  rw [List.find?_eq_none]
  intro row hrow horigin
  obtain ⟨hmem, hnames⟩ := Key.names_of_row? hserved
  obtain ⟨hmem', hnames'⟩ := Key.names_of_row? hserving
  exact habsent ⟨served, hmem, hnames, serving, hmem', hnames', row, hrow,
    of_decide_eq_true horigin⟩

theorem Links.assign_misses {region : RegionKey} {controller : ControllerKey} {priority : Int}
    (hregion : (Key.region region).IsStorable)
    (hcontroller : (Key.controller controller).IsStorable) {missing : Referent}
    (h : (Operation.assignPriority region controller priority).needs.find?
      (fun referent => ¬referent.IsStored before.database.contents) = some missing) :
    Misses env (.ofLink region controller) missing before
      (assign region controller priority) := by
  rcases Referent.of_first h with ⟨rfl, habsent⟩ | ⟨hserved, h⟩
  · exact (Regions.referredId_misses hcalm hregion habsent).bind _
  obtain ⟨served, hserved⟩ := Referent.exists_row?_of_isStored hserved
  refine misses_bind (Regions.referredId_of_row? hcalm hregion hserved) ?_
  obtain ⟨rfl, habsent⟩ := Referent.of_only h
  exact (Controllers.referredId_misses hcalm hcontroller habsent).bind _

end

namespace Operation

/-- Whether the keys of what an operation needs are free of U+0000, and the database takes the
settings that it is to write over others. -/
structure IsTaken (op : Operation) : Prop where
  keys : ∀ key : Key, .entity key ∈ op.needs → ∀ part ∈ key.parts, Text.IsNulFree part
  settings : ∀ (key : Key) (settings : Settings key.relation), op = key.revision settings →
    ∃ kept, stored? (key.asked settings) = some kept

theorem IsTaken.isStorable {op : Operation} (h : op.IsTaken) {key : Key}
    (hmem : .entity key ∈ op.needs) : key.IsStorable :=
  Key.isStorable_of_isNulFree (h.keys key hmem)

variable {env : Environment} {before : Progress} (hcalm : env.disturbance = none)

include hcalm

theorem misses_of_addresses {op : Operation} {key : Key} (h : op.Addresses key)
    (hstorable : key.IsStorable) (htaken : op.IsTaken)
    (hnone : key.row? before.database.contents = none) :
    Misses env op.plan.subject (.entity key) before op.plan.script := by
  cases h with
  | retrieval =>
    rw [Key.subject_retrieval]
    exact Key.retrieval_misses hcalm hstorable hnone
  | deletion =>
    rw [Key.subject_deletion]
    exact Key.deletion_misses hcalm hstorable hnone
  | revision settings =>
    rw [Key.subject_revision]
    exact Key.revision_misses hcalm hstorable hnone (htaken.settings key settings rfl)
  | assign object hobject identity access =>
    subst hobject
    rw [GrantObject.subject_assign, GrantObject.script_assign]
    have hrow : object.row? before.database.contents = none := by
      cases object with
      | cloud name => exact hnone
      | model key => exact (Key.row?_model key _).symm.trans hnone
      | credential key => exact hnone
    refine Misses.map (Misses.transaction (Misses.bind ?_ _)) _
    exact ⟨none, before, object.number_error hcalm hstorable hrow,
      (Referent.subject_entity _).symm⟩

/-- An operation misses the first thing that it needs and that is not stored. -/
theorem misses {op : Operation} (htaken : op.IsTaken) {missing : Referent}
    (h : op.needs.find? (fun referent => ¬referent.IsStored before.database.contents) =
      some missing) : Misses env op.plan.subject missing before op.plan.script := by
  cases haddressed : op.addressed? with
  | some key =>
    have hneeds := needs_of_addressed? haddressed
    have hstorable : key.IsStorable :=
      htaken.isStorable (by rw [hneeds]; exact List.mem_cons_self)
    rw [hneeds] at h
    obtain ⟨rfl, habsent⟩ := Referent.of_only h
    exact misses_of_addresses hcalm (addresses_of_addressed? haddressed) hstorable htaken
      (Referent.not_isStored_entity.1 habsent)
  | none =>
    cases op with
    | addRegionToCloud entry =>
      obtain ⟨rfl, habsent⟩ := Referent.of_only h
      have hcloud := htaken.isStorable List.mem_cons_self
      exact (((Clouds.referredId_misses hcalm hcloud habsent).bind _).bind _).transaction.map _
    | addRegion entry =>
      obtain ⟨rfl, habsent⟩ := Referent.of_only h
      have hcloud := htaken.isStorable List.mem_cons_self
      exact (((Clouds.referredId_misses hcalm hcloud habsent).bind _).bind _).transaction.map _
    | assignPriority region controller priority =>
      exact (Links.assign_misses hcalm (htaken.isStorable List.mem_cons_self)
        (htaken.isStorable (List.mem_cons_of_mem _ List.mem_cons_self)) h).map _
    | removePriority region controller =>
      exact (Links.remove_misses hcalm (htaken.isStorable List.mem_cons_self)
        (htaken.isStorable (List.mem_cons_of_mem _ List.mem_cons_self)) h).map _
    | addController draft =>
      obtain ⟨rfl, habsent⟩ := Referent.of_only h
      have hregion := htaken.isStorable List.mem_cons_self
      exact ((Regions.referredId_misses hcalm hregion habsent).bind _).transaction.map _
    | addCredential entry =>
      obtain ⟨rfl, habsent⟩ := Referent.of_only h
      have hcloud := htaken.isStorable List.mem_cons_self
      exact (((Clouds.referredId_misses hcalm hcloud habsent).bind _).bind _).transaction.map _
    | reconcileCredential snapshot =>
      obtain ⟨rfl, habsent⟩ := Referent.of_only h
      have hcloud := htaken.isStorable List.mem_cons_self
      exact (((Clouds.referredId_misses hcalm hcloud habsent).bind _).bind _).transaction.map _
    | _ => cases haddressed <;> cases h

end Operation

/-! ## Answers -/

namespace Deployment

/-- An operation that answers that something is not found names a referent of its own that could not
exist or is not stored; iterations and migrations never answer so.  And an operation of a ready
store that nothing interrupts answers so wherever something that it needs is not stored, of the
first that is missing, unless what it is about itself could not exist. -/
theorem Reachable.notFound_truthful {dep : Deployment} (hreachable : dep.Reachable) :
    (∀ now course op operation kind key, op.hasOwnKey = true →
      (dep.perform now course op).1 = .error ⟨operation, .notFound kind key⟩ →
      ∃ referent ∈ op.referents, kind = referent.kind ∧ key = joinKey referent.components ∧
        ("" ∈ referent.components ∨ ¬referent.IsStored dep.server.database.contents)) ∧
    (∀ course it visitor e, (dep.iterate course it visitor).2.1 = .failed e →
      e.isNotFound = false) ∧
    (∀ course reset e, (dep.migrate course reset).1 = .error e → e.isNotFound = false) ∧
    (dep.store.lifecycle = .ready → ∀ now op, op.IsTaken → ∀ missing,
      op.needs.find? (fun referent => ¬referent.IsStored dep.server.database.contents) =
        some missing →
      (dep.perform now .undisturbed op).1 = .error (.notFound op.plan.name
        (if op.plan.subject.isValid then missing.subject else op.plan.subject))) := by
  have hnotFound : ∀ {e : StoreError}, e.cause.entity? = none → e.isNotFound = false := by
    rintro ⟨operation, cause⟩ hentity
    cases cause with
    | notFound kind key => cases hentity
    | _ => rfl
  refine ⟨?_, fun _ _ _ _ h => hnotFound (entity?_of_iterate h),
    fun _ _ _ h => hnotFound (entity?_of_migrate h), ?_⟩
  · intro now course op operation kind key hkey hanswer
    rcases Store.of_perform_eq_error hanswer (Option.some_ne_none _) with
      ⟨hinvalid, herror⟩ | ⟨-, stop, after, hrun, herror⟩
    · cases hown : op.own? with
      | none =>
        rw [Operation.isValid_of_own? hkey hown] at hinvalid
        cases hinvalid
      | some referent =>
        rw [Operation.subject_own? hown] at hinvalid herror
        cases herror
        refine ⟨referent, Operation.mem_referents_of_own? hown, rfl, rfl, .inl ?_⟩
        by_contra hparts
        rw [Referent.isValid_subject.2 hparts] at hinvalid
        cases hinvalid
    · cases stop with
      | interrupted why => cases herror
      | failed failure subject =>
        cases failure with
        | duplicate name detail => cases herror
        | other => cases herror
        | noRow =>
          obtain ⟨referent, hmem, hsubject, habsent⟩ :=
            Operation.blames hkey hreachable.sound subject after hrun
          rw [Store.errorOf, hsubject] at herror
          cases herror
          exact ⟨referent, hmem, rfl, rfl, .inr habsent⟩
  · intro hready now op htaken missing hmissing
    cases hvalid : op.plan.subject.isValid with
    | false => exact congrArg Prod.fst (Store.perform_of_invalid hready hvalid now _ _)
    | true =>
      let start : Progress := ⟨dep.server.database, false⟩
      have hmisses : Misses (dep.store.environment now .undisturbed) op.plan.subject missing start
          op.plan.script := Operation.misses rfl htaken hmissing
      obtain ⟨subject, after, hrun, hsubject⟩ := hmisses
      rw [reply_perform, Store.perform_of_error hready hvalid hrun, Store.errorOf, hsubject]
      rfl

/-- A controller in the only region of a cloud, which it does not serve. -/
def unservedSteps : List Step :=
  [.migrate .undisturbed false,
    .perform ⟨0, 0⟩ .undisturbed
      (.addCloud ⟨"aws", ⟨"ec2", "", [], .none, [], .empty⟩, [⟨"west", .none, .empty⟩]⟩),
    .perform ⟨1, 0⟩ .undisturbed (.addController
      ⟨⟨"one", ⟨1⟩, ⟨"aws", "west"⟩⟩, ⟨"", "", "", "", false, "", [], none, .empty⟩, []⟩)]

/-- The region, the controller and their link are looked up in this order, and the answer names the
one that is missing. -/
theorem Reachable.notFound_truthful_links :
    let dep := (initial .default).run unservedSteps
    let remove (region controller : String) : Except StoreError Reply :=
      (dep.perform ⟨2, 0⟩ .undisturbed (.removePriority ⟨"aws", region⟩ (.name controller))).1
    let refused (kind : EntityKind) (key : String) : StoreError :=
      ⟨"cloud_regions.remove_controller_priority", .notFound kind key⟩
    remove "east" "two" = .error (refused .region "aws/east") ∧
      remove "west" "two" = .error (refused .controller "two") ∧
      remove "west" "one" = .error (refused .link "aws/west/one") ∧
      ¬(Referent.link ⟨"aws", "west"⟩ (.name "one")).IsStored dep.server.database.contents := by
  intro dep remove refused
  have hreachable : dep.Reachable := ⟨.default, _, rfl⟩
  obtain ⟨hnamed, -, -, hanswers⟩ := notFound_truthful hreachable
  have hready : dep.store.lifecycle = .ready := by decide +kernel
  have hnul : ∀ text ∈ ["aws", "east", "west", "one", "two"], Text.IsNulFree text := by
    simp [Text.IsNulFree]
  have htaken : ∀ region ∈ ["east", "west"], ∀ name ∈ ["one", "two"],
      (Operation.removePriority ⟨"aws", region⟩ (.name name)).IsTaken := by
    intro region hmem name hmem'
    refine ⟨fun key hneeds part hpart => hnul part ?_, fun key settings h => by
      cases key <;> cases h⟩
    simp only [List.mem_cons, List.not_mem_nil, or_false] at hmem hmem' ⊢
    simp only [Operation.needs, List.mem_cons, List.not_mem_nil, or_false, Referent.entity.injEq,
      reduceCtorEq] at hneeds
    rcases hneeds with rfl | rfl
    · rcases List.mem_pair.1 hpart with rfl | rfl
      · exact .inl rfl
      · exact .inr (hmem.elim .inl fun h => .inr (.inl h))
    · obtain rfl := List.mem_singleton.1 hpart
      exact .inr (.inr (.inr hmem'))
  have heast : ¬(Referent.entity (.region ⟨"aws", "east"⟩)).IsStored
      dep.server.database.contents := by decide +kernel
  have hwest : (Referent.entity (.region ⟨"aws", "west"⟩)).IsStored
      dep.server.database.contents := by decide +kernel
  have htwo : ¬(Referent.entity (.controller (.name "two"))).IsStored
      dep.server.database.contents := by decide +kernel
  have hone : (Referent.entity (.controller (.name "one"))).IsStored
      dep.server.database.contents := by decide +kernel
  have hlink : ¬(Referent.link ⟨"aws", "west"⟩ (.name "one")).IsStored
      dep.server.database.contents := by decide +kernel
  have hunlinked : remove "west" "one" = .error (refused .link "aws/west/one") :=
    hanswers hready _ _ (htaken _ (by decide) _ (by decide)) (.link ⟨"aws", "west"⟩ (.name "one"))
      (by simp [Operation.needs, hwest, hone, hlink])
  refine ⟨?_, ?_, hunlinked, ?_⟩
  · exact hanswers hready _ _ (htaken _ (by decide) _ (by decide))
      (.entity (.region ⟨"aws", "east"⟩)) (by simp [Operation.needs, heast])
  · exact hanswers hready _ _ (htaken _ (by decide) _ (by decide))
      (.entity (.controller (.name "two"))) (by simp [Operation.needs, hwest, htwo])
  · obtain ⟨referent, hmem, hkind, -, hmissing⟩ := hnamed _ _ _ _ _ _ rfl hunlinked
    have hown : referent = .link ⟨"aws", "west"⟩ (.name "one") := by
      simp only [Operation.referents, Operation.own?, Operation.needs, Operation.priorities,
        Option.toList_some, List.cons_append, List.nil_append, List.map_nil, List.append_nil,
        List.mem_cons, List.not_mem_nil, or_false] at hmem
      rcases hmem with rfl | rfl | rfl | rfl <;> first | rfl | cases hkind
    subst hown
    exact hmissing.resolve_left (by decide)

end Deployment
end ControlPlane
