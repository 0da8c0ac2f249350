/-
Deleting an entity and adding it again.

What is deleted leaves nothing behind under its key, and what is added under a key is new: its
number had not been drawn, and no row that was there before depends on it
(`Inserted.not_dependsOn`).  So the grants and the links of an entity end with it, whatever is added
under its key later (`Deployment.Reachable.delete_removes`).
-/
import ControlPlane.Proofs.Addition
import ControlPlane.Proofs.Creation
import ControlPlane.Proofs.Deletion
import ControlPlane.Proofs.Documents

namespace ControlPlane

open Script
open Statement (InsertsOnly)
open IdentityName (sanitise)

/-! ## What depends on a new row -/

namespace Inserted

variable {r : Relation} {before after : Database} {e : Entry r} {new : Row r}
  (h : Inserted before after e new) (hsound : before.Sound)

include h

theorem origin_ne (hkeyed : r.IsKeyed) :
    ∀ old ∈ before.contents.get r, old.origin ≠ new.origin := by
  intro old hold hsame
  obtain ⟨u, hu⟩ := List.exists_mem_of_ne_nil _ hkeyed.1
  have hfree := h.absent u hu old hold
  rw [(hkeyed.2 u hu new.toEntry old.toEntry).2 hsame.symm] at hfree
  cases hfree

include hsound

theorem id_ne : ∀ old ∈ before.contents.get r, old.id ≠ new.id := by
  intro old hold hid
  have hdrawn := (hsound.numbered r old hold).2
  have hundrawn := h.undrawn
  omega

theorem region_not_dependsOn {region : Row .region}
    (hdepends : DependsOn after.contents new .region region) :
    ∀ old ∈ before.contents.get .region, old.origin ≠ region.origin := by
  intro old hold hsame
  cases r with
  | cloud =>
    obtain ⟨cloud, hcloud, hname⟩ := (Database.consistent_of_sound hsound).cloudOfRegion old hold
    exact h.origin_ne Relation.cloud_isKeyed cloud hcloud (by rw [hname, hsame, hdepends])
  | _ => exact False.elim hdepends

theorem link_not_dependsOn (hfollows : after.Follows before) {link : Row .link}
    (hdepends : DependsOn after.contents new .link link) :
    ∀ old ∈ before.contents.get .link, old.origin ≠ link.origin := by
  intro old hold hsame
  have hconsistent := Database.consistent_of_sound hsound
  obtain ⟨region, hregion, hregionId⟩ := hconsistent.regionOfLink old hold
  obtain ⟨controller, hcontroller, hcontrollerId⟩ := hconsistent.controllerOfLink old hold
  cases r with
  | cloud =>
    obtain ⟨other, hother, hlink, hcloud⟩ := hdepends
    have hdrawn := (hsound.numbered .region region hregion).2
    rw [hregionId, hsame, hlink] at hdrawn
    -- The region of the link has an old number, so it is an old region, and its cloud is old.
    obtain ⟨same, hmem, -, horigin, -⟩ := hfollows.same .region other hother hdrawn
    obtain ⟨cloud, hcloudMem, hname⟩ := hconsistent.cloudOfRegion same hmem
    exact h.origin_ne Relation.cloud_isKeyed cloud hcloudMem (by rw [hname, horigin, hcloud])
  | region => exact h.id_ne hsound region hregion (by rw [hregionId, hsame, hdepends])
  | controller =>
    exact h.id_ne hsound controller hcontroller (by rw [hcontrollerId, hsame, hdepends])
  | _ => exact False.elim hdepends

theorem grant_not_dependsOn {on : Grantable} {grant : Row (.grant on)}
    (hdepends : DependsOn after.contents new (.grant on) grant) :
    ∀ old ∈ before.contents.get (.grant on), old.origin ≠ grant.origin := by
  intro old hold hsame
  have hconsistent := Database.consistent_of_sound hsound
  obtain ⟨object, hobject, hid⟩ := hconsistent.objectOfGrant on old hold
  obtain ⟨identity, hidentity, hname⟩ := hconsistent.identityOfGrant on old hold
  cases r with
  | identity =>
    exact h.origin_ne Relation.identity_isKeyed identity hidentity
      (by rw [hname, hsame, hdepends])
  | cloud =>
    cases on with
    | cloud => exact h.id_ne hsound object hobject (by rw [hid, hsame, hdepends])
    | _ => exact False.elim hdepends
  | model =>
    cases on with
    | model => exact h.id_ne hsound object hobject (by rw [hid, hsame, hdepends])
    | _ => exact False.elim hdepends
  | credential =>
    cases on with
    | credential => exact h.id_ne hsound object hobject (by rw [hid, hsame, hdepends])
    | _ => exact False.elim hdepends
  | _ => exact False.elim hdepends

/-- Nothing that was there before depends on a new row. -/
theorem not_dependsOn (hfollows : after.Follows before) {q : Relation} {row : Row q}
    (hdepends : DependsOn after.contents new q row) :
    ∀ old ∈ before.contents.get q, old.origin ≠ row.origin := by
  cases q with
  | region => exact h.region_not_dependsOn hsound hdepends
  | link => exact h.link_not_dependsOn hsound hfollows hdepends
  | grant on => exact h.grant_not_dependsOn hsound hdepends
  | _ => cases r <;> exact False.elim hdepends

end Inserted

/-! ## What comes with an add -/

namespace Operation

/-- What an add may bring with it: the regions of a cloud, the links of a controller that it asks
for, and an owner, but no grants. -/
def Brings (op : Operation) : (q : Relation) → Origin q → Prop
  | .link, _ => op.priorities ≠ []
  | .grant _, _ => False
  | q, origin => op.Creates q origin

theorem brings_within {op : Operation} {access : Access} {r : Relation} {e : Entry r}
    (hadds : op.Adds access e) (env : Environment) :
    Within env (InsertsOnly op.Brings) op.plan.script := by
  cases r with
  | cloud =>
    obtain ⟨draft, rfl, rfl⟩ := hadds
    refine within_map _ (Clouds.add_within (allowsInsert_of_origin List.mem_cons_self) ?_)
    intro region hregion
    exact allowsInsert_of_origin (List.mem_map_of_mem hregion)
  | region =>
    rcases hadds with rfl | rfl
    · exact within_map _ (Regions.add_within (allowsInsert_of_origin List.mem_cons_self))
    · exact within_map _ (Regions.add_within (allowsInsert_of_origin List.mem_cons_self))
  | controller =>
    obtain ⟨draft, rfl, rfl⟩ := hadds
    refine within_map _ (Controllers.add_within (allowsInsert_of_origin List.mem_cons_self) ?_
      (allowsUpdates_insertsOnly _))
    intro region controller p hp
    exact allowsInsert_of_origin (List.ne_nil_of_mem hp)
  | model =>
    obtain ⟨given, rfl, rfl⟩ := hadds
    exact within_map _ (Models.add_within (allowsInsert_of_origin List.mem_cons_self)
      (allowsInsert_of_origin List.mem_cons_self))
  | credential =>
    obtain ⟨given, rfl, rfl⟩ := hadds
    exact within_map _ (Credentials.add_within (allowsInsert_of_origin List.mem_cons_self)
      (allowsInsert_of_origin List.mem_cons_self))
  | identity =>
    obtain ⟨draft, rfl, rfl⟩ := hadds
    exact within_map _ (Identities.add_within (allowsInsert_of_origin List.mem_cons_self))
  | link => exact hadds.elim
  | grant on => exact hadds.elim

/-- An add addresses its entity by the key that the entity gets. -/
theorem isValid_iff_of_adds {op : Operation} {access : Access} {r : Relation} {e : Entry r}
    (hadds : op.Adds access e) : op.plan.subject.isValid = true ↔ "" ∉ keyParts r e.origin := by
  cases r with
  | cloud =>
    obtain ⟨draft, rfl, rfl⟩ := hadds
    exact Subject.isValid_ofKey
  | region => rcases hadds with rfl | rfl <;> exact Subject.isValid_ofParts
  | controller =>
    obtain ⟨draft, rfl, rfl⟩ := hadds
    exact Subject.isValid_ofKey
  | model =>
    obtain ⟨given, rfl, rfl⟩ := hadds
    exact Subject.isValid_ofParts
  | credential =>
    obtain ⟨given, rfl, rfl⟩ := hadds
    exact Subject.isValid_ofParts
  | identity =>
    obtain ⟨draft, rfl, rfl⟩ := hadds
    exact Subject.isValid_ofKey
  | link => exact hadds.elim
  | grant on => exact hadds.elim

/-- What depends on the row that an add inserts came with it. -/
theorem brings_of_adds {env : Environment} {before after : Progress}
    (hsound : before.database.Sound) {op : Operation} {r : Relation} {e : Entry r}
    (hadds : op.Adds env.defaultAccess e) {reply : Reply}
    (h : op.plan.script env before = .ok reply after) {new : Row r}
    (hinserted : Inserted before.database after.database e new) {q : Relation} {row : Row q}
    (hrow : row ∈ after.database.contents.get q)
    (hdepends : DependsOn after.database.contents new q row) : op.Brings q row.origin := by
  have hfollows : after.database.Follows before.database :=
    (evolution_of_ok (op.within _) h).follows
  rcases (evolution_of_ok (op.brings_within hadds _) h).stemsFrom q row hrow with
    ⟨old, hold, -, horigin⟩ | ⟨hbrings, -⟩
  · exact absurd horigin (hinserted.not_dependsOn hsound hfollows hdepends old hold)
  · exact hbrings

end Operation

/-- The row that an add answers with is new, and what depends on it came with it. -/
theorem Store.perform_adds {store : Store} {db : Database} (hsound : db.Sound) {now : Timestamp}
    {course : Course} {op : Operation} {r : Relation} {e : Entry r}
    (hadds : op.Adds store.settings.defaultAccess e) {reply : Reply}
    (h : (store.perform now course op db).1 = .ok reply) :
    ∃ new : Row r, reply.row? = some ⟨r, new⟩ ∧
      Inserted db (store.perform now course op db).2 e new ∧
      ∀ q, ∀ row ∈ (store.perform now course op db).2.contents.get q,
        DependsOn (store.perform now course op db).2.contents new q row →
          op.Brings q row.origin := by
  obtain ⟨-, -, after, hrun, hafter⟩ := of_perform_eq_ok h
  rw [hafter]
  have hbefore : (Progress.mk db false).database.Sound := hsound
  obtain ⟨new, hreply, hinserted⟩ := Operation.inserted_of_adds hbefore hadds hrun
  exact ⟨new, hreply, hinserted, fun q row hrow hdepends =>
    Operation.brings_of_adds hbefore hadds hrun hinserted hrow hdepends⟩

/-! ## What may take the place of a row -/

namespace Contents

variable {r : Relation} {c after : Contents} {root : Row r} {e : Entry r}

/-- Whether an entry could stand in the place of a row: it conflicts with no other row, and refers
to rows that are there. -/
structure CanReplace (c : Contents) (root : Row r) (e : Entry r) : Prop where
  unique : ∀ u ∈ uniquenesses r, ∀ other ∈ c.get r, other.id ≠ root.id →
    u.conflicts e other.toEntry = false
  resolves : ∀ ref ∈ references r, c.resolves ref e = true

/-- What a row refers to does not depend on it. -/
theorem not_dependsOn_target {ref : Reference r} (href : ref ∈ references r)
    (target : Row ref.target) : ¬DependsOn c root ref.target target := by
  cases r <;> simp only [references, List.mem_cons, List.not_mem_nil, or_false] at href
  case region => subst href; exact id
  case controller => subst href; exact id
  case link => rcases href with rfl | rfl <;> exact id
  case credential => rcases href with rfl | rfl <;> exact id
  case model => rcases href with rfl | rfl | rfl | rfl <;> exact id
  case grant on =>
    rcases href with rfl | rfl
    · cases on <;> exact id
    · exact id

/-- Once a row is released, the constraints do not refuse what could stand in its place. -/
theorem CanReplace.refusal?_eq_none (h : c.CanReplace root e) (hreleased : Released root c after) :
    after.refusal? (after.get r) e = none := by
  refine Contents.refusal?_eq_none.2 ⟨fun u hu other hother => ?_, fun ref href => ?_⟩
  · have hold := (hreleased r).sublist.subset hother
    refine h.unique u hu other hold fun hid => ?_
    exact ((hreleased r).mem_iff other hold).1 hother (.inl ⟨rfl, hid⟩)
  · obtain ⟨target, htarget, hrefers⟩ := resolves_iff.1 (h.resolves ref href)
    refine resolves_iff.2 ⟨target, ((hreleased _).mem_iff target htarget).2 ?_, hrefers⟩
    rintro (⟨heq, -⟩ | hdepends)
    · exact target_ne href heq
    · exact not_dependsOn_target href target hdepends

/-- Apart from models, which may have an identifier among their settings, the origins of two
entries say whether they conflict. -/
theorem conflicts_congr {u : Uniqueness r} (hu : u ∈ uniquenesses r) (hr : r ≠ .model)
    {a b : Entry r} (horigin : a.origin = b.origin) (other : Entry r) :
    u.conflicts a other = u.conflicts b other := by
  have hvalues : u.values a = u.values b := by
    cases r <;> simp only [uniquenesses, List.mem_cons, List.not_mem_nil, or_false] at hu
    case model => exact absurd rfl hr
    case controller => rcases hu with rfl | rfl <;> simp only [horigin]
    all_goals subst hu; simp only [horigin]
  rw [Uniqueness.conflicts, Uniqueness.conflicts, hvalues]

/-- Apart from models, an entry of the same origin can always stand in the place of a row. -/
theorem canReplace_of_origin (hunique : c.Unique) (hclosed : c.Closed) (hroot : root ∈ c.get r)
    (hr : r ≠ .model) (horigin : e.origin = root.origin) : c.CanReplace root e where
  unique u hu other hother hne := by
    rw [conflicts_congr hu hr horigin, Bool.eq_false_iff]
    intro hconflicts
    exact hne (congrArg Row.id (hunique.eq_of_conflicts hu hroot hother hconflicts).symm)
  resolves ref href := by
    rw [resolves_congr href hr horigin]
    exact hclosed r root hroot ref href

end Contents

/-! ## Sessions -/

namespace Deployment

/-- Whether a plain add whose entry could have stood in the place of a row succeeds, unless its
document is not read back. -/
def HasRoomFor (dep : Deployment) {r : Relation} (before : Contents) (root : Row r) : Prop :=
  ∀ now op, ∀ e kept : Entry r, op.Adds dep.store.settings.defaultAccess e → op.IsPlain →
    "" ∉ keyParts r e.origin → stored? e = some kept →
    (r ≠ .model ∧ e.origin = root.origin ∨ before.CanReplace root kept) →
    ((∃ reply, (dep.perform now .undisturbed op).1 = .ok reply) ↔ e.isReadable = true)

/-- Whether everything that is added under a key from now on is new, however late and under whatever
interruptions: it gets a number that has not been drawn by now, and what depends on it came with
it. -/
def Renews (dep : Deployment) (key : Key) : Prop :=
  ∀ steps, dep.NeverResets steps → ∀ now course op, ∀ e : Entry key.relation, ∀ reply,
    let later := dep.run steps
    let call := later.perform now course op
    op.Adds later.store.settings.defaultAccess e → key.Names e → call.1 = .ok reply →
    ∃ new ∈ call.2.server.database.contents.get key.relation,
      reply.row? = some ⟨key.relation, new⟩ ∧ key.Names new.toEntry ∧
      dep.server.database.sequences.get key.relation ≤ new.id ∧
      ∀ q, ∀ row ∈ call.2.server.database.contents.get q,
        DependsOn call.2.server.database.contents new q row → op.Brings q row.origin

theorem Reachable.renews {dep : Deployment} (h : dep.Reachable) (key : Key) : dep.Renews key := by
  intro steps hresets now course op e reply later call hadds hnames hok
  have hdatabase := database_perform later now course op
  obtain ⟨new, hreply, hinserted, hdependants⟩ :=
    Store.perform_adds (h.run steps).sound hadds hok
  rw [← hdatabase] at hinserted hdependants
  refine ⟨new, hinserted.mem, hreply, Key.names_of_stored? hinserted.stored hnames, ?_,
    hdependants⟩
  exact Int.le_trans ((follows_run hresets).drawn key.relation) hinserted.undrawn

theorem hasRoomFor_of_released {dep : Deployment} (hreachable : dep.Reachable)
    (hready : dep.store.lifecycle = .ready) {r : Relation} {before : Contents} {root : Row r}
    (hunique : before.Unique) (hclosed : before.Closed) (hroot : root ∈ before.get r)
    (hreleased : Contents.Released root before dep.server.database.contents) :
    dep.HasRoomFor before root := by
  intro now op e kept hadds hplain hparts hkept hfits
  have hreplace : before.CanReplace root kept := by
    rcases hfits with ⟨hr, horigin⟩ | hreplace
    · exact Contents.canReplace_of_origin hunique hclosed hroot hr
        ((Storable.origin_of_stored? hkept).trans horigin)
    · exact hreplace
  constructor
  · rintro ⟨reply, hok⟩
    exact Store.isReadable_of_adds hreachable.sound hreachable.isReadable hadds hok
  · intro he
    have hcalm : (dep.store.environment now .undisturbed).disturbance = none := rfl
    have hsound : (Progress.mk dep.server.database false).database.Sound := hreachable.sound
    obtain ⟨reply, after, hrun⟩ := Operation.adds_ok hcalm hsound hreachable.isReadable hplain hadds
      he hkept (hreplace.refusal?_eq_none hreleased)
    refine ⟨reply, ?_⟩
    rw [perform, Store.perform_ok hready ((Operation.isValid_iff_of_adds hadds).2 hparts) hrun]

/-- The delete of an entity that nothing restricts takes away its row with those that depend on it,
and no others.  Then it is not found any more, it can be added again, and what is added under its
key is new and has no grants.  The delete of an entity that something restricts changes nothing. -/
theorem Reachable.delete_removes {dep : Deployment} (hreachable : dep.Reachable)
    (hready : dep.store.lifecycle = .ready) {key : Key} {root : Row key.relation}
    (hroot : root ∈ dep.server.database.contents.get key.relation)
    (hnames : key.Names root.toEntry) (hparts : "" ∉ key.parts) (now : Timestamp) :
    let before := dep.server.database.contents
    let call := dep.perform now .undisturbed key.deletion
    let after := call.2.server.database.contents
    ((∃ q, ∃ row ∈ before.get q, Restricts before root q row) →
      call.1 = .error ⟨key.deletion.plan.name, .internal⟩ ∧ after = before) ∧
    ((¬∃ q, ∃ row ∈ before.get q, Restricts before root q row) →
      call.1 = .ok .done ∧ Contents.Released root before after ∧
      (∀ later, (call.2.perform later .undisturbed key.retrieval).1 =
        .error (.notFound key.retrieval.plan.name key.subject)) ∧
      call.2.HasRoomFor before root ∧
      root.id < call.2.server.database.sequences.get key.relation ∧ call.2.Renews key) := by
  intro before call after
  have hsound := hreachable.sound
  have hstorable : key.IsStorable := by
    obtain ⟨settings, steps, rfl⟩ := hreachable
    obtain ⟨-, -, -, -, -, -, hstored⟩ := exists_creation hroot
    exact Key.isStorable_of_names hstored hnames
  have hdatabase : call.2.server.database =
      (dep.store.perform now .undisturbed key.deletion dep.server.database).2 :=
    database_perform dep now .undisturbed key.deletion
  have hstore : call.2.store = dep.store := store_perform dep now .undisturbed key.deletion
  have hafterReachable : call.2.Reachable :=
    hreachable.run [.perform now .undisturbed key.deletion]
  constructor
  · intro hrestricted
    have hperform := Key.perform_deletion_error hready hsound hroot hnames hstorable hparts
      hrestricted now
    refine ⟨congrArg Prod.fst hperform, ?_⟩
    show call.2.server.database.contents = before
    rw [hdatabase, hperform]
  · intro hfree
    obtain ⟨contents, hperform, hreleased⟩ := Key.perform_deletion_ok hready hsound hroot hnames
      hstorable hparts hfree now
    rw [hperform] at hdatabase
    have hreadyAfter : call.2.store.lifecycle = .ready := hstore ▸ hready
    have hreleasedAfter : Contents.Released root before after := by
      show Contents.Released root before call.2.server.database.contents
      rw [hdatabase]
      exact hreleased
    have hnone := Key.not_names_of_released hsound hroot hnames hreleasedAfter
    refine ⟨congrArg Prod.fst hperform, hreleasedAfter, fun later => ?_, ?_, ?_,
      hafterReachable.renews key⟩
    · exact congrArg Prod.fst (Key.perform_retrieval hreadyAfter hstorable hparts hnone later)
    · exact hasRoomFor_of_released hafterReachable hreadyAfter hsound.unique hsound.closed hroot
        hreleasedAfter
    · rw [hdatabase]
      exact (hsound.numbered key.relation root hroot).2

/-- A credential keeps its cloud from being deleted.  It goes itself where no model uses it, and the
grant on it goes too. -/
theorem delete_removes_aws :
    let dep := (initial .default).run
      [.migrate .undisturbed false,
        .perform ⟨0, 0⟩ .undisturbed (.addCloud ⟨"aws", ⟨"ec2", "", [], .none, [], .empty⟩, []⟩),
        .perform ⟨60, 0⟩ .undisturbed (.reconcileCredential
          ⟨⟨⟨"aws", "ann", "main"⟩, ⟨"", "", false, .empty, none⟩⟩, [⟨"bob", .admin⟩]⟩)]
    let kept := dep.perform ⟨120, 0⟩ .undisturbed (.deleteCloud "aws")
    let freed := dep.perform ⟨120, 0⟩ .undisturbed (.deleteCredential ⟨"aws", "ann", "main"⟩)
    kept.1 = .error ⟨"clouds.delete", .internal⟩ ∧
    dep.server.database.contents.credentialGrant.length = 1 ∧
    freed.1 = .ok .done ∧ freed.2.server.database.contents.credentialGrant.length = 0 ∧
    freed.2.server.database.contents.cloud.length = 1 ∧
    (freed.2.perform ⟨180, 0⟩ .undisturbed (.getCredential ⟨"aws", "ann", "main"⟩)).1 =
      .error (.notFound "cloud_credentials.get" (.ofCredential ⟨"aws", "ann", "main"⟩)) ∧
    freed.2.Renews (.credential ⟨"aws", "ann", "main"⟩) := by
  intro dep kept freed
  have hreachable : dep.Reachable := ⟨.default, _, rfl⟩
  have hready : dep.store.lifecycle = .ready := by decide +kernel
  have hclouds : dep.server.database.contents.cloud.any
      (fun row => row.origin = "aws") = true := by decide +kernel
  have hcredentials : dep.server.database.contents.credential.any
      (fun row => row.origin = ⟨"aws", "ann", "main"⟩) = true := by decide +kernel
  have hmodels : dep.server.database.contents.model.length = 0 := by decide +kernel
  obtain ⟨cloud, hcloud, hcloudName⟩ := List.any_eq_true.1 hclouds
  obtain ⟨credential, hcredential, hcredentialName⟩ := List.any_eq_true.1 hcredentials
  have hcloudMem : cloud ∈ dep.server.database.contents.get (Key.cloud "aws").relation := hcloud
  have hcredentialMem : credential ∈ dep.server.database.contents.get
      (Key.credential ⟨"aws", "ann", "main"⟩).relation := hcredential
  have hcloudName : cloud.origin = "aws" := of_decide_eq_true hcloudName
  have hcredentialName : credential.origin = ⟨"aws", "ann", "main"⟩ :=
    of_decide_eq_true hcredentialName
  have hrestricted : ∃ q, ∃ row ∈ dep.server.database.contents.get q,
      Restricts dep.server.database.contents cloud q row := by
    refine ⟨.credential, credential, hcredential, ?_⟩
    show credential.origin.cloud = cloud.origin
    rw [hcredentialName, hcloudName]
  have hfree : ¬∃ q, ∃ row ∈ dep.server.database.contents.get q,
      Restricts dep.server.database.contents credential q row := by
    rintro ⟨q, row, hrow, hrestricts⟩
    cases q with
    | model =>
      have hrow : row ∈ dep.server.database.contents.model := hrow
      rw [List.length_eq_zero_iff.1 hmodels] at hrow
      cases hrow
    | _ => exact False.elim hrestricts
  have hcloudCall :=
    hreachable.delete_removes hready hcloudMem hcloudName (by decide) ⟨120, 0⟩
  have hcredentialCall :=
    hreachable.delete_removes hready hcredentialMem hcredentialName (by decide) ⟨120, 0⟩
  obtain ⟨hdone, -, hgone, -, -, hrenews⟩ := hcredentialCall.2 hfree
  exact ⟨(hcloudCall.1 hrestricted).1, by decide +kernel, hdone, by decide +kernel,
    by decide +kernel, hgone ⟨180, 0⟩, hrenews⟩

end Deployment
end ControlPlane
