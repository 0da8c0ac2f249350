/-
Operations that come to several others.

A cloud may be added with regions and a controller with priorities, and a snapshot reports a cloud
with its regions and grants or a credential with its grants.  Each of these is one transaction, and
comes to the same as the operations on single rows that it stands for (`Composite.parts`), performed
one after another: the same rows in the same order, the same numbers drawn, and the same entity in
the end.  Where one that adds an entity fails, they are rejected for the same cause, unless one of
them first writes a document that it cannot read back (`Deployment.Reachable.composite_refines`).
-/
import ControlPlane.Proofs.Mirrors
import ControlPlane.Proofs.Provisioning

namespace ControlPlane

open Script
open IdentityName (sanitise)

/-- How a controller that is added is addressed: by its identifier or by its name. -/
def Controller.Draft.key (draft : Controller.Draft) (byUuid : Bool) : ControllerKey :=
  if byUuid then .uuid draft.origin.uuid else .name draft.origin.name

/-- An operation that comes to several others. -/
inductive Composite
  | addCloud (draft : Cloud.Draft)
  | addController (draft : Controller.Draft) (byUuid : Bool)
  | reconcileCloud (snapshot : Cloud.Snapshot)
  | reconcileCredential (snapshot : Credential.Snapshot)

namespace Composite

def operation : Composite → Operation
  | addCloud draft => .addCloud draft
  | addController draft _ => .addController draft
  | reconcileCloud snapshot => .reconcileCloud snapshot
  | reconcileCredential snapshot => .reconcileCredential snapshot

/-- The key of the entity. -/
def key : Composite → Key
  | addCloud draft => .cloud draft.name
  | addController draft byUuid => .controller (draft.key byUuid)
  | reconcileCloud snapshot => .cloud snapshot.cloud.name
  | reconcileCredential snapshot => .credential snapshot.credential.origin

/-- What is performed in its place: the entity is added alone, and then what comes with it is added
or assigned.  Where a snapshot is reconciled, what exists already is passed over. -/
def parts : Composite → List Part
  | addCloud draft =>
    ⟨.addCloud { draft with regions := [] }, false⟩ ::
      draft.regions.map fun region => ⟨.addRegion (region.entry draft.name), false⟩
  | addController draft byUuid =>
    ⟨.addController { draft with priorities := [] }, false⟩ :: draft.priorities.map fun p =>
      ⟨.assignPriority p.region (draft.key byUuid) p.priority, false⟩
  | reconcileCloud snapshot =>
    ⟨.addCloud { snapshot.cloud with regions := [] }, true⟩ ::
      (snapshot.cloud.regions.map fun region =>
        ⟨.addRegion (region.entry snapshot.cloud.name), true⟩) ++
      snapshot.grants.map fun report =>
        ⟨.assignCloudGrant snapshot.cloud.name report.identityName (some report.access), false⟩
  | reconcileCredential snapshot =>
    ⟨.addCredential snapshot.credential, true⟩ :: snapshot.grants.map fun report =>
      ⟨.assignCredentialGrant snapshot.credential.origin report.identityName (some report.access),
        false⟩

/-- The texts in the keys that the parts address. -/
def keyTexts : Composite → List String
  | addCloud draft => draft.name :: draft.regions.map Region.Draft.name
  | addController draft _ =>
    draft.origin.name :: draft.priorities.flatMap fun p => p.region.parts
  | reconcileCloud snapshot =>
    snapshot.cloud.name :: snapshot.cloud.regions.map Region.Draft.name
  | reconcileCredential snapshot => snapshot.credential.origin.parts

/-- Whether it adds an entity, which must not exist. -/
def IsAddition : Composite → Prop
  | addCloud _ => True
  | addController _ _ => True
  | reconcileCloud _ => False
  | reconcileCredential _ => False

/-- Whether the documents are readable with which an addition comes. -/
def HasReadableDocuments : Composite → Prop
  | addCloud draft => draft.entry.isReadable = true ∧
    ∀ region ∈ draft.regions, (region.entry draft.name).isReadable = true
  | addController draft _ => draft.entry.isReadable = true
  | reconcileCloud _ => True
  | reconcileCredential _ => True

end Composite

/-- The entity that an answer shows, with a tally or without. -/
def Reply.entity? : Reply → Option Entity
  | .entity shown => some shown
  | .merged m => some m.entity
  | _ => none

/-! ## Reading back -/

namespace Key

/-- The entity with a key. -/
def entity? (c : Contents) : Key → Option Entity
  | cloud name => (c.cloud? name).map .cloud
  | region key => (c.region? key).map .region
  | controller key => (c.controller? key).map .controller
  | model key => (c.model? key.sanitise).map .model
  | credential key => (c.credential? key.sanitise).map .credential
  | identity name => (c.identity? (sanitise name)).map .identity

theorem retrieval_ok {key : Key} {env : Environment} {before : Progress}
    (hcalm : env.disturbance = none) (hstorable : key.IsStorable) {entity : Entity}
    (h : key.entity? before.database.contents = some entity) :
    key.retrieval.plan.script env before = .ok (.entity entity) before := by
  cases key with
  | cloud name =>
    obtain ⟨cloud, hcloud, rfl⟩ := Option.map_eq_some_iff.1 h
    exact map_ok (queryOne_ok hcalm hstorable hcloud) Reply.ofCloud
  | region key =>
    obtain ⟨region, hregion, rfl⟩ := Option.map_eq_some_iff.1 h
    exact map_ok (queryOne_ok hcalm hstorable hregion) Reply.ofRegion
  | controller key =>
    obtain ⟨controller, hcontroller, rfl⟩ := Option.map_eq_some_iff.1 h
    exact map_ok (queryOne_ok hcalm hstorable hcontroller) Reply.ofController
  | model key =>
    obtain ⟨model, hmodel, rfl⟩ := Option.map_eq_some_iff.1 h
    exact map_ok (queryOne_ok hcalm hstorable hmodel) Reply.ofModel
  | credential key =>
    obtain ⟨credential, hcredential, rfl⟩ := Option.map_eq_some_iff.1 h
    exact map_ok (queryOne_ok hcalm hstorable hcredential) Reply.ofCredential
  | identity name =>
    obtain ⟨identity, hidentity, rfl⟩ := Option.map_eq_some_iff.1 h
    exact map_ok (queryOne_ok hcalm hstorable hidentity) Reply.ofIdentity

/-- An entity is read by its key. -/
theorem perform_retrieval_ok {key : Key} {store : Store} {db : Database}
    (hready : store.lifecycle = .ready) (hstorable : key.IsStorable) (hparts : "" ∉ key.parts)
    {entity : Entity} (h : key.entity? db.contents = some entity) (now : Timestamp) :
    (store.perform now .undisturbed key.retrieval db).1 = .ok (.entity entity) := by
  have hvalid : key.retrieval.plan.subject.isValid = true := by
    rw [subject_retrieval]
    exact isValid_subject hparts
  have hscript : key.retrieval.plan.script (store.environment now .undisturbed) ⟨db, false⟩ =
      .ok (.entity entity) ⟨db, false⟩ :=
    retrieval_ok (store.disturbance_undisturbed now) hstorable h
  exact congrArg Prod.fst (Store.perform_ok hready hvalid hscript)

end Key

section

variable {env : Environment} {before after : Progress}

theorem Clouds.entity?_of_get {name : String} {cloud : Cloud}
    (h : get name env before = .ok cloud after) : after = before ∧ (Key.cloud name).IsStorable ∧
      (Key.cloud name).entity? before.database.contents = some (.cloud cloud) := by
  obtain ⟨kept, hkept, hfound, rfl⟩ := of_queryOne_eq_ok h
  obtain rfl := Storable.isExact_text _ _ hkept
  exact ⟨rfl, hkept, congrArg (Option.map Entity.cloud) hfound⟩

/-- What is read by the number of a row is what is read by its key. -/
theorem Controllers.entity?_of_withId (hdistinct : before.database.contents.Distinct)
    {key : ControllerKey} {row : Row .controller}
    (hrow : (Key.controller key).row? before.database.contents = some row)
    {controller : Controller} (h : withId row.id env before = .ok controller after) :
    after = before ∧
      (Key.controller key).entity? before.database.contents = some (.controller controller) := by
  obtain ⟨id, hid, hfound, rfl⟩ := of_queryOne_eq_ok h
  obtain rfl := Option.some.inj hid
  rw [Contents.rowWithId?_of_mem hdistinct (Key.names_of_row? hrow).1] at hfound
  refine ⟨rfl, Option.map_eq_some_iff.2 ⟨controller, ?_, rfl⟩⟩
  rw [Contents.controller?, ← Key.row?_controller, hrow]
  exact hfound

theorem Credentials.entity?_of_withId (hdistinct : before.database.contents.Distinct)
    {key : CredentialKey} {row : Row .credential}
    (hrow : (Key.credential key).row? before.database.contents = some row)
    {credential : Credential} (h : withId row.id env before = .ok credential after) :
    after = before ∧
      (Key.credential key).entity? before.database.contents = some (.credential credential) := by
  obtain ⟨id, hid, hfound, rfl⟩ := of_queryOne_eq_ok h
  obtain rfl := Option.some.inj hid
  rw [Contents.rowWithId?_of_mem hdistinct (Key.names_of_row? hrow).1] at hfound
  refine ⟨rfl, Option.map_eq_some_iff.2 ⟨credential, ?_, rfl⟩⟩
  rw [Contents.credential?, ← Key.row?_credential, hrow]
  exact hfound

end

namespace Composite

/-- Whether a composite that succeeds leaves what its parts leave one after another, none of them
rejected, and answers the entity that is read in the end. -/
def Refines (composite : Composite) (store : Store) (now : Timestamp) (db : Database) : Prop :=
  ∀ reply after, store.perform now .undisturbed composite.operation db = (.ok reply, after) →
    store.attempt now composite.parts db = (none, after) ∧
      ∃ entity, reply.entity? = some entity ∧
        (store.perform now .undisturbed composite.key.retrieval after).1 = .ok (.entity entity)

/-- Whether a composite that fails does so as one of its parts is rejected; where not all its
documents can be read, the part that reads one of them back may be rejected first. -/
def FailsAlike (composite : Composite) (store : Store) (now : Timestamp) (db : Database) : Prop :=
  ∀ e after, store.perform now .undisturbed composite.operation db = (.error e, after) →
    store.RejectsAs now (¬composite.HasReadableDocuments) composite.parts db e.cause after

end Composite

/-! ## Clouds -/

/-- A cloud is created, then it gets its regions, and then it is read. -/
theorem Clouds.script_add (draft : Cloud.Draft) :
    (Operation.addCloud draft).plan.script = Reply.ofCloud <$> assemble (insert draft.entry)
      (fun _ (region : Region.Draft) => Regions.insertUnder (region.entry draft.name))
      (fun _ => readBack draft.name) draft.regions := rfl

/-- Whether there is a cloud with a name, which the database takes. -/
def Clouds.HasNamed (name : String) (clouds : List (Row .cloud)) : Prop :=
  stored? name = some name ∧ ∃ cloud ∈ clouds, cloud.origin = name

section

variable {env : Environment} {before after : Progress}

theorem Clouds.hasNamed_of_insert {draft : Cloud.Draft} {row : Row .cloud}
    (h : insert draft.entry env before = .ok row after) :
    HasNamed draft.name (after.database.contents.get .cloud) := by
  have hinserted := inserted_of_insert (.refl _) h (.refl _)
  exact ⟨Storable.stored?_origin hinserted.stored, row, hinserted.mem,
    Storable.origin_of_stored? hinserted.stored⟩

theorem Clouds.get_of_hasNamed (hcalm : env.disturbance = none) {name : String}
    (h : HasNamed name (before.database.contents.get .cloud)) :
    ∃ cloud, get name env before = .ok cloud before := by
  obtain ⟨hname, hcloud⟩ := h
  obtain ⟨found, hfind, -⟩ := Contents.find?_origin_eq_some hcloud
  obtain ⟨cloud, hget, -⟩ := get_eq_ok hcalm hname hfind
  exact ⟨cloud, hget⟩

end

namespace Composite

section

variable {store : Store} {now : Timestamp} {db : Database} (hready : store.lifecycle = .ready)
  (hsound : db.Sound) (hreadable : db.contents.IsReadable)

/-- The key of a region of a cloud has no empty parts if the names of both are not empty. -/
theorem not_mem_parts_entry {name : String} {regions : List Region.Draft}
    (h : "" ∉ name :: regions.map Region.Draft.name) :
    ∀ region ∈ regions, "" ∉ (region.entry name).origin.parts := by
  intro region hregion hmem
  rcases List.mem_pair.1 hmem with hempty | hempty
  · exact h (hempty ▸ List.mem_cons_self)
  · exact h (List.mem_cons_of_mem _ (List.mem_map.2 ⟨region, hregion, hempty.symm⟩))

include hsound hreadable

/-- A cloud that is added is read back with its regions. -/
theorem hasReadableDocuments_of_addCloud {draft : Cloud.Draft} {reply : Reply}
    (h : (store.perform now .undisturbed (.addCloud draft) db).1 = .ok reply) :
    (addCloud draft).HasReadableDocuments := by
  refine ⟨Store.isReadable_of_adds hsound hreadable ⟨draft, rfl, rfl⟩ h, fun region hregion => ?_⟩
  obtain ⟨-, -, last, hscript, -⟩ := Store.of_perform_eq_ok h
  have hbefore : (Progress.mk db false).database.Sound := hsound
  have hlast := Operation.isReadable_of_ok hbefore hreadable hscript
  obtain ⟨cloud, hrun, -⟩ := of_map_eq_ok hscript
  obtain ⟨row, first, -, hrun⟩ := of_bind_eq_ok (of_transaction_eq_ok hrun)
  obtain ⟨ids, middle, hregions, hread⟩ := of_bind_eq_ok hrun
  obtain ⟨-, -, -, rfl⟩ := of_queryOne_eq_ok (of_decoded_eq_ok hread).1
  have hwithin : ∀ region ∈ draft.regions, Within (store.environment now .undisturbed)
      (Statement.Retains .region) (Regions.insertUnder (region.entry draft.name)) :=
    fun _ _ => Regions.insertUnder_within fun _ _ => trivial
  obtain ⟨id, start, done, hunder, hevolution⟩ :=
    evolution_of_each_eq_ok hwithin hregions region hregion
  obtain ⟨new, -, hinserted⟩ := Regions.insertUnder_inserts hunder
  rw [← Entry.isReadable_of_stored? hinserted.stored]
  exact hlast .region new (hevolution.mem hinserted.mem)

include hready

/-- Once a cloud is inserted it awaits its regions; or it cannot be read, and then the operation
that adds it without regions breaks off. -/
theorem awaits_or_breaks {draft : Cloud.Draft}
    (hvalid : (Operation.addCloud draft).plan.subject.isValid = true) {row : Row .cloud}
    {start : Progress}
    (h : insert draft.entry (store.environment now .undisturbed) ⟨db, false⟩ = .ok row start) :
    Regions.Awaits (Clouds.HasNamed draft.name) [] start.database ∨
      ¬(addCloud draft).HasReadableDocuments ∧
        Part.Breaks ⟨.addCloud { draft with regions := [] }, false⟩ store now db := by
  have hbefore : (Progress.mk db false).database.Sound := hsound
  have hcloud := Clouds.hasNamed_of_insert h
  cases hdraft : draft.entry.isReadable with
  | true =>
    have hwithin : Within (store.environment now .undisturbed) (fun _ => True)
      (insert draft.entry) := within_insert draft.entry fun _ _ => trivial
    exact .inl ⟨hcloud, (evolution_of_ok hwithin h).sound hsound,
      (isReadable_of_insert hbefore hreadable hdraft h).1, Regions.areReadBack_nil _⟩
  | false =>
    obtain ⟨cloud, hget⟩ := Clouds.get_of_hasNamed (store.disturbance_undisturbed now) hcloud
    have hscript : (Operation.addCloud { draft with regions := [] }).plan.script =
        Reply.ofCloud <$> transaction (insert draft.entry >>= fun _ =>
          decoded Cloud.isReadable (Clouds.get draft.name)) := rfl
    have hadds : (Operation.addCloud { draft with regions := [] }).Adds
        store.settings.defaultAccess draft.entry := ⟨_, rfl, rfl⟩
    refine .inr ⟨fun hdocuments => ?_,
      Part.breaks_of_unread hready hadds hdraft hvalid hsound hreadable hscript h hget⟩
    rw [hdocuments.1] at hdraft
    cases hdraft

theorem addCloud_refines {draft : Cloud.Draft} (hnamed : "" ∉ (addCloud draft).keyTexts) :
    (addCloud draft).Refines store now db ∧ (addCloud draft).FailsAlike store now db := by
  have hkey : "" ∉ (Key.cloud draft.name).parts := fun hmem =>
    hnamed (List.mem_singleton.1 hmem ▸ List.mem_cons_self)
  have hvalid : (Operation.addCloud draft).plan.subject.isValid = true := Key.isValid_subject hkey
  have hparts := not_mem_parts_entry hnamed
  let holds : Row .cloud → Database → Prop := fun _ =>
    Regions.Awaits (Clouds.HasNamed draft.name) []
  have hread : ∀ row (start : Progress), holds row start.database →
      ∃ cloud, Clouds.readBack draft.name (store.environment now .undisturbed) start =
        .ok cloud start := by
    intro row start ⟨hcloud, hsound, hreadable, _⟩
    obtain ⟨cloud, hget⟩ := Clouds.get_of_hasNamed (store.disturbance_undisturbed now) hcloud
    exact ⟨cloud, Clouds.readBack_ok hreadable hsound.allDistinct hget⟩
  let part : Region.Draft → Part := fun region => ⟨.addRegion (region.entry draft.name), false⟩
  have hmirrors : ∀ row, ∀ region ∈ draft.regions, (part region).Mirrors store now
      (¬(addCloud draft).HasReadableDocuments) (holds row) (holds row)
      (Regions.insertUnder (region.entry draft.name)) := by
    intro row region hregion
    refine Regions.insertUnder_mirrors hready (hparts region hregion) _ fun he hdocuments => ?_
    rw [hdocuments.2 region hregion] at he
    cases he
  have hfails : ∀ row, ∀ region ∈ draft.regions, (part region).FailsLike store now (holds row)
      (Operation.addCloud draft).plan (Regions.insertUnder (region.entry draft.name)) :=
    fun row region hregion =>
      Regions.insertUnder_failsLike hready (hparts region hregion) (holds row) _
  have hsubject : (Operation.addCloud { draft with regions := [] }).plan.subject =
      (Operation.addCloud draft).plan.subject := rfl
  have hcreate : ∀ row start, insert draft.entry (store.environment now .undisturbed) ⟨db, false⟩ =
      .ok row start → holds row start.database ∨ _ := fun _ _ =>
    awaits_or_breaks hready hsound hreadable hvalid
  have hwhole := Clouds.script_add draft
  have hplain := Clouds.script_add { draft with regions := [] }
  refine ⟨fun reply after hperform => ?_, fun e after hperform => ?_⟩
  · have hdocuments :=
      hasReadableDocuments_of_addCloud hsound hreadable (congrArg Prod.fst hperform)
    obtain ⟨-, cloud, last, rfl, rfl, -, hread, hattempt⟩ := Store.attempt_of_assemble_ok hready
      hvalid hsubject hwhole hplain hcreate hread hmirrors (not_not_intro hdocuments) hperform
    obtain ⟨-, hstorable, hshown⟩ := Clouds.entity?_of_get (of_decoded_eq_ok hread).1
    exact ⟨hattempt, .cloud cloud, rfl,
      Key.perform_retrieval_ok hready hstorable hkey hshown now⟩
  · exact Store.attempt_of_assemble_error hready hvalid hsubject hwhole hplain hcreate hread
      hmirrors hfails hperform

theorem reconcileCloud_refines {snapshot : Cloud.Snapshot}
    (hnamed : "" ∉ (reconcileCloud snapshot).keyTexts) :
    (reconcileCloud snapshot).Refines store now db := by
  intro reply after hwhole
  have hkey : "" ∉ (Key.cloud snapshot.cloud.name).parts := fun hmem =>
    hnamed (List.mem_singleton.1 hmem ▸ List.mem_cons_self)
  have hparts := not_mem_parts_entry hnamed
  obtain ⟨-, -, last, hscript, hafter⟩ := Store.of_perform_eq_ok (congrArg Prod.fst hwhole)
  rw [hwhole] at hafter
  obtain ⟨merged, hrun, hreply⟩ := of_map_eq_ok hscript
  have hbefore : (Progress.mk db false).database.Sound := hsound
  have hback := Clouds.isReadBack_of_reconcile_eq_ok hbefore hreadable hrun
  obtain ⟨outcome, regions, grants, row, first, middle, hcloud, -, hrow, hregions, hgrants,
    hread⟩ := Clouds.of_reconcile_eq_ok hrun
  obtain ⟨-, hstorable, hshown⟩ := Clouds.entity?_of_get (of_decoded_eq_ok hread).1
  subst hreply hafter
  have hplain : (Cloud.Draft.mk snapshot.cloud.name snapshot.cloud.settings []).regions = [] := rfl
  obtain ⟨answer, hperform, haccepted⟩ :=
    Clouds.perform_add_of_insertNew hready hplain hkey hsound hreadable hback.cloud hcloud
  let P : List (Row .cloud) → Prop := fun clouds =>
    clouds.find? (fun cloud => cloud.origin = snapshot.cloud.name) = some row
  let holds : List Region.Draft → Database → Prop := fun regions =>
    Regions.Awaits P (regions.map fun region => region.entry snapshot.cloud.name)
  have hfirst : holds snapshot.cloud.regions first.database := by
    have hspares : Within (store.environment now .undisturbed) (Statement.Spares .region)
        (insertNew snapshot.cloud.entry) := within_insertNew (allowsInsert_spares (by decide))
    have hevolution := evolution_of_ok hspares hcloud
    have hfirstReadable :=
      store.isReadable_perform now .undisturbed
        (.addCloud { snapshot.cloud with regions := [] }) hsound hreadable
    rw [hperform] at hfirstReadable
    refine ⟨hrow, hevolution.sound hsound, hfirstReadable, ?_⟩
    rw [hevolution.get_eq]
    exact hback.regions
  have hmirrors : ∀ region ∈ snapshot.cloud.regions, ∀ rest,
      Part.Mirrors ⟨.addRegion (region.entry snapshot.cloud.name), true⟩ store now False
        (holds (region :: rest)) (holds rest) (insertNew (region.entry snapshot.cloud.name)) := by
    intro region hregion rest
    refine Regions.insertNew_mirrors hready (hparts region hregion) P (fun clouds hfind => ?_) _
    have horigin : row.origin = snapshot.cloud.name := by simpa using List.find?_some hfind
    exact ⟨row, List.mem_of_find?_eq_some hfind, horigin⟩
  obtain ⟨⟨hmiddle, -, -, -⟩, hregions⟩ :=
    (Store.attempt_of_each_ok hmirrors hfirst hregions).resolve_right fun hbreaks => hbreaks.1
  let object : GrantObject := .cloud snapshot.cloud.name
  have hstorable' : object.key.IsStorable := hstorable
  obtain ⟨-, hgrants⟩ := object.attempt_of_mergeReports hready hstorable' hkey hmiddle hgrants
  refine ⟨?_, .cloud merged.entity, rfl,
    Key.perform_retrieval_ok hready hstorable hkey hshown now⟩
  rw [parts, List.cons_append, Store.attempt_cons_of_accepted hperform haccepted,
    Store.attempt_append hregions]
  exact hgrants

end

end Composite

/-! ## Controllers -/

/-- A controller is created in its region, then it gets its priorities, and then it is read. -/
theorem Controllers.script_add (draft : Controller.Draft) :
    (Operation.addController draft).plan.script = Reply.ofController <$> assemble
      (do let _ ← Regions.referredId draft.origin.hosting
          insert draft.entry)
      (fun row p => link row.id p) (fun row => readBack row.id) draft.priorities := by
  have hassoc : Controllers.add draft = assemble
      (do let _ ← Regions.referredId draft.origin.hosting
          insert draft.entry)
      (fun row p => link row.id p) (fun row => readBack row.id) draft.priorities := by
    simp only [Controllers.add, assemble, bind_assoc]
    rfl
  rw [← hassoc]
  rfl

theorem Controller.Draft.names_key (draft : Controller.Draft) (byUuid : Bool) :
    (Key.controller (draft.key byUuid)).Names draft.entry := by
  cases byUuid <;> rfl

/-- A controller that has just been created is found by its key. -/
theorem Controllers.isKept_of_create {env : Environment} {before after : Progress}
    (hsound : before.database.Sound) (hreadable : before.database.contents.IsReadable)
    {draft : Controller.Draft} (hdraft : draft.entry.isReadable = true) {row : Row .controller}
    (h : (do let _ ← Regions.referredId draft.origin.hosting
             insert draft.entry : Script (Row .controller)) env before = .ok row after)
    (byUuid : Bool) : IsKept (draft.key byUuid) row after.database := by
  obtain ⟨_, start, hreferred, hinsert⟩ := of_bind_eq_ok h
  obtain ⟨_, -, -, rfl⟩ := of_queryOne_eq_ok (of_about_eq_ok hreferred)
  have hwithin : Within env (fun _ => True) (insert draft.entry) :=
    within_insert draft.entry fun _ _ => trivial
  have hafter := (evolution_of_ok hwithin hinsert).sound hsound
  have hinserted := inserted_of_insert (.refl _) hinsert (.refl _)
  have hnames := Key.names_of_stored? hinserted.stored (draft.names_key byUuid)
  have hstored : stored? row.origin = some row.origin := by
    rw [Storable.origin_of_stored? hinserted.stored]
    exact Storable.stored?_origin hinserted.stored
  exact ⟨hafter, (isReadable_of_insert hsound hreadable hdraft hinsert).1,
    Key.isStorable_of_names hstored hnames,
    Key.row?_eq_some hafter.unique hinserted.mem hnames⟩

namespace Composite

section

variable {store : Store} {now : Timestamp} {db : Database} (hready : store.lifecycle = .ready)
  (hsound : db.Sound)

include hready hsound

/-- Once a controller is inserted it is found by its key; or it cannot be read, and then the
operation that adds it without priorities breaks off. -/
theorem isKept_or_breaks (hreadable : db.contents.IsReadable) {draft : Controller.Draft}
    (hvalid : (Operation.addController draft).plan.subject.isValid = true) (byUuid : Bool)
    {row : Row .controller} {start : Progress}
    (h : (do let _ ← Regions.referredId draft.origin.hosting
             insert draft.entry : Script (Row .controller)) (store.environment now .undisturbed)
      ⟨db, false⟩ = .ok row start) :
    Controllers.IsKept (draft.key byUuid) row start.database ∨
      ¬(addController draft byUuid).HasReadableDocuments ∧
        Part.Breaks ⟨.addController { draft with priorities := [] }, false⟩ store now db := by
  have hbefore : (Progress.mk db false).database.Sound := hsound
  cases hdraft : draft.entry.isReadable with
  | true => exact .inl (Controllers.isKept_of_create hbefore hreadable hdraft h byUuid)
  | false =>
    obtain ⟨_, _, -, hinsert⟩ := of_bind_eq_ok h
    have hinserted := inserted_of_insert (.refl _) hinsert (.refl _)
    obtain ⟨controller, hwith⟩ := Script.withId_ok
      (fun c => c.showsRows_controllers (Preload.controller "")) (store.disturbance_undisturbed now)
      hinserted.mem
    have hscript := Controllers.script_add { draft with priorities := [] }
    have hadds : (Operation.addController { draft with priorities := [] }).Adds
        store.settings.defaultAccess draft.entry := ⟨_, rfl, rfl⟩
    refine .inr ⟨fun hdocuments => ?_,
      Part.breaks_of_unread hready hadds hdraft hvalid hsound hreadable hscript h hwith⟩
    rw [show draft.entry.isReadable = true from hdocuments] at hdraft
    cases hdraft

theorem addController_refines (hreadable : db.contents.IsReadable) {draft : Controller.Draft}
    {byUuid : Bool} (hnamed : "" ∉ (addController draft byUuid).keyTexts) :
    (addController draft byUuid).Refines store now db ∧
      (addController draft byUuid).FailsAlike store now db := by
  have hname : draft.origin.name ≠ "" := fun hempty => hnamed (hempty ▸ List.mem_cons_self)
  have hvalid : (Operation.addController draft).plan.subject.isValid = true :=
    Subject.isValid_ofKey.2 fun hmem => hname (List.mem_singleton.1 hmem).symm
  have hkey : "" ∉ (Key.controller (draft.key byUuid)).parts := by
    cases byUuid with
    | true => exact List.not_mem_nil
    | false => exact fun hmem => hname (List.mem_singleton.1 hmem).symm
  have hregions : ∀ p ∈ draft.priorities, "" ∉ p.region.parts := fun p hp hmem =>
    hnamed (List.mem_cons_of_mem _ (List.mem_flatMap.2 ⟨p, hp, hmem⟩))
  let holds : Row .controller → Database → Prop := Controllers.IsKept (draft.key byUuid)
  have hcreate : ∀ row start,
      (do let _ ← Regions.referredId draft.origin.hosting
          insert draft.entry : Script (Row .controller)) (store.environment now .undisturbed)
          ⟨db, false⟩ = .ok row start → holds row start.database ∨ _ := fun _ _ =>
    isKept_or_breaks hready hsound hreadable hvalid byUuid
  have hread : ∀ row (start : Progress), holds row start.database →
      ∃ controller, Controllers.readBack row.id (store.environment now .undisturbed) start =
        .ok controller start := by
    intro row start hkept
    obtain ⟨controller, hwith⟩ := Script.withId_ok
      (fun c => c.showsRows_controllers (Preload.controller "")) (store.disturbance_undisturbed now)
      (Key.names_of_row? hkept.row).1
    exact ⟨controller, Controllers.readBack_ok hkept.readable
      hkept.sound.allDistinct hwith⟩
  let part : RegionPriority → Part := fun p =>
    ⟨.assignPriority p.region (draft.key byUuid) p.priority, false⟩
  have hmirrors : ∀ row, ∀ p ∈ draft.priorities, (part p).Mirrors store now
      (¬(addController draft byUuid).HasReadableDocuments) (holds row) (holds row)
      (Controllers.link row.id p) := fun _ p hp =>
    Controllers.link_mirrors hready (hregions p hp) hkey _
  have hfails : ∀ row, ∀ p ∈ draft.priorities, (part p).FailsLike store now (holds row)
      (Operation.addController draft).plan (Controllers.link row.id p) := fun _ p hp =>
    Controllers.link_failsLike hready (hregions p hp) hkey _
  have hsubject : (Operation.addController { draft with priorities := [] }).plan.subject =
      (Operation.addController draft).plan.subject := rfl
  have hwhole := Controllers.script_add draft
  have hplain := Controllers.script_add { draft with priorities := [] }
  refine ⟨fun reply after hperform => ?_, fun e after hperform => ?_⟩
  · have hadds : (Operation.addController draft).Adds store.settings.defaultAccess draft.entry :=
      ⟨draft, rfl, rfl⟩
    have hdocuments : (addController draft byUuid).HasReadableDocuments :=
      Store.isReadable_of_adds hsound hreadable hadds (congrArg Prod.fst hperform)
    obtain ⟨row, controller, last, rfl, rfl, hkept, hlast, hattempt⟩ :=
      Store.attempt_of_assemble_ok hready hvalid hsubject hwhole hplain hcreate hread hmirrors
        (not_not_intro hdocuments) hperform
    obtain ⟨-, hshown⟩ :=
      Controllers.entity?_of_withId hkept.sound.distinct hkept.row (of_decoded_eq_ok hlast).1
    exact ⟨hattempt, .controller controller, rfl,
      Key.perform_retrieval_ok hready hkept.storable hkey hshown now⟩
  · exact Store.attempt_of_assemble_error hready hvalid hsubject hwhole hplain hcreate hread
      hmirrors hfails hperform

/-! ## Credentials -/

theorem reconcileCredential_refines {snapshot : Credential.Snapshot}
    (hnamed : "" ∉ (reconcileCredential snapshot).keyTexts) :
    (reconcileCredential snapshot).Refines store now db := by
  intro reply after hwhole
  obtain ⟨-, -, last, hscript, hafter⟩ := Store.of_perform_eq_ok (congrArg Prod.fst hwhole)
  rw [hwhole] at hafter
  have hdistinct : last.database.contents.Distinct :=
    ((evolution_of_ok (Operation.within _ _) hscript).sound hsound).distinct
  obtain ⟨merged, hrun, hreply⟩ := of_map_eq_ok hscript
  obtain ⟨outcome, grants, row, first, second, hprepare, hcredential, -, hrow, hgrants, hread⟩ :=
    Credentials.of_reconcile_eq_ok hrun
  subst hreply hafter
  obtain ⟨⟨kept, hkept⟩, -⟩ := of_insertNew_eq_ok hcredential
  obtain ⟨answer, hperform, haccepted⟩ :=
    Credentials.perform_add_of_insertNew hready hnamed hsound hprepare hcredential
  let object : GrantObject := .credential snapshot.credential.origin
  have hstorable : object.key.IsStorable := Storable.stored?_origin hkept
  have hobject : object.row? second.database.contents = some row := hrow
  have hkey : "" ∉ object.key.parts := hnamed
  obtain ⟨hfind, hgrants⟩ := object.attempt_of_mergeReports hready hstorable hkey hobject hgrants
  obtain ⟨-, hshown⟩ := Credentials.entity?_of_withId hdistinct hfind hread
  refine ⟨?_, .credential merged.entity, rfl,
    Key.perform_retrieval_ok hready hstorable hkey hshown now⟩
  rw [parts, Store.attempt_cons_of_accepted hperform haccepted]
  exact hgrants

/-! ## All composites -/

variable (hreadable : db.contents.IsReadable) {composite : Composite}
  (hnamed : "" ∉ composite.keyTexts)

include hreadable hnamed

theorem refines : composite.Refines store now db := by
  cases composite with
  | addCloud draft => exact (addCloud_refines hready hsound hreadable hnamed).1
  | addController draft byUuid => exact (addController_refines hready hsound hreadable hnamed).1
  | reconcileCloud snapshot => exact reconcileCloud_refines hready hsound hreadable hnamed
  | reconcileCredential snapshot => exact reconcileCredential_refines hready hsound hnamed

theorem failsAlike (haddition : composite.IsAddition) : composite.FailsAlike store now db := by
  cases composite with
  | addCloud draft => exact (addCloud_refines hready hsound hreadable hnamed).2
  | addController draft byUuid => exact (addController_refines hready hsound hreadable hnamed).2
  | reconcileCloud snapshot => exact haddition.elim
  | reconcileCredential snapshot => exact haddition.elim

end

end Composite

/-! ## Sessions -/

namespace Deployment

end Deployment
end ControlPlane
