/-
Calls are all or nothing.

A call that answers an error leaves every row as it was.  Transactions see to this themselves.  What
runs outside of a transaction writes at most once: what comes before the write only reads, and what
comes after it either cannot fail or fails only where nothing was found to write.  Numbers that were
drawn stay drawn.
-/
import ControlPlane.Proofs.Footprint
import ControlPlane.Proofs.Session

namespace ControlPlane

/-! ## Statements that do nothing to the rows -/

theorem Database.contents_of_insert_error {r : Relation} {db after : Database} {now : Timestamp}
    {e : Entry r} {failure : Failure} (h : db.insert now e = (.error failure, after)) :
    after.contents = db.contents := by
  rcases (insert_cases h).2 with ⟨why, -, -, hcontents⟩ | ⟨row, houtcome, -⟩
  · exact hcontents
  · cases houtcome

theorem Contents.eq_of_update_none {r : Relation} {c after : Contents} {now : Timestamp}
    {which : Row r → Bool} {change : Settings r → Settings r}
    (h : c.update now which change = .ok (none, after)) : after = c := by
  rcases update_cases h with ⟨-, hafter⟩ | ⟨row, new, -, hwritten, -⟩
  · exact hafter
  · cases hwritten

theorem Contents.eq_of_delete_false {r : Relation} {c after : Contents} {which : Row r → Bool}
    (h : c.delete which = .ok (false, after)) : after = c := by
  rcases delete_cases h with ⟨-, hafter⟩ | ⟨hfound, -⟩
  · exact hafter
  · cases hfound

namespace Script

variable {α β : Type} {r : Relation} {env : Environment}

/-- Whether a script leaves the rows as they are, however it ends. -/
def Keeps (env : Environment) (body : Script α) : Prop :=
  ∀ before, (final (body env before)).database.contents = before.database.contents

/-- Whether a script ends with a value, always. -/
def Succeeds (env : Environment) (body : Script α) : Prop :=
  ∀ before, ∃ a after, body env before = .ok a after

/-- Whether a script that ends without a value leaves the rows as they are. -/
def Atomic (env : Environment) (body : Script α) : Prop :=
  ∀ before stop after, body env before = .error stop after →
    after.database.contents = before.database.contents

theorem succeeds_pure (a : α) : Succeeds env (pure a) := fun before => ⟨a, before, rfl⟩

theorem keeps_fail (failure : Failure) : Keeps env (fail failure : Script α) := fun _ => rfl

theorem keeps_query [Storable α] (params : α) (f : α → Contents → β) :
    Keeps env (query params f) := by
  intro before
  rcases query_cases params f env before with ⟨stop, h⟩ | ⟨kept, -, h⟩ <;> rw [h] <;> rfl

theorem keeps_queryOne [Storable α] (params : α) (f : α → Contents → Option β) :
    Keeps env (queryOne params f) := by
  intro before
  rcases queryOne_cases params f env before with ⟨stop, h⟩ | ⟨kept, found, -, -, h⟩ <;>
    rw [h] <;> rfl

theorem keeps_about {body : Script α} (subject : Subject) (h : Keeps env body) :
    Keeps env (about subject body) := by
  intro before
  have hbody := h before
  rw [about]
  cases hrun : body env before with
  | ok a after =>
    rw [hrun] at hbody
    exact hbody
  | error stop after =>
    rw [hrun] at hbody
    exact hbody

/-! ## Scripts that are all or nothing -/

theorem Keeps.atomic {body : Script α} (h : Keeps env body) : Atomic env body := by
  intro before stop after hrun
  have hbody := h before
  rw [hrun] at hbody
  exact hbody

theorem atomic_transaction (body : Script α) : Atomic env (transaction body) := by
  intro before stop after hrun
  rw [transaction] at hrun
  cases hbody : body env before with
  | ok a later =>
    rw [hbody] at hrun
    cases hrun
  | error why later =>
    rw [hbody] at hrun
    cases hrun
    rfl

theorem atomic_map {body : Script α} (f : α → β) (h : Atomic env body) :
    Atomic env (f <$> body) := by
  intro before stop after hrun
  cases hbody : body env before with
  | ok a later =>
    rw [map_ok hbody] at hrun
    cases hrun
  | error why later =>
    rw [map_error hbody] at hrun
    cases hrun
    exact h before _ _ hbody

/-- What only reads may come first. -/
theorem atomic_bind_of_keeps {body : Script α} {next : α → Script β} (hbody : Keeps env body)
    (hnext : ∀ a, Atomic env (next a)) : Atomic env (body >>= next) := by
  intro before stop after hrun
  have hkept := hbody before
  cases hfirst : body env before with
  | ok a middle =>
    rw [hfirst] at hkept
    rw [bind_ok hfirst] at hrun
    rw [hnext a middle stop after hrun]
    exact hkept
  | error why middle =>
    rw [hfirst] at hkept
    rw [bind_error hfirst] at hrun
    cases hrun
    exact hkept

/-- What cannot fail may come last. -/
theorem atomic_bind_of_succeeds {body : Script α} {next : α → Script β} (hbody : Atomic env body)
    (hnext : ∀ a, Succeeds env (next a)) : Atomic env (body >>= next) := by
  intro before stop after hrun
  cases hfirst : body env before with
  | ok a middle =>
    rw [bind_ok hfirst] at hrun
    obtain ⟨b, later, hlast⟩ := hnext a middle
    rw [hlast] at hrun
    cases hrun
  | error why middle =>
    rw [bind_error hfirst] at hrun
    cases hrun
    exact hbody before _ _ hfirst

theorem atomic_insert (e : Entry r) : Atomic env (insert e) := by
  intro before stop after hrun
  rcases insert_cases e env before with
    ⟨-, h⟩ | ⟨kept, outcome, drawn, -, hinsert, ⟨why, h⟩ | ⟨row, -, h⟩ | ⟨failure, hout, h⟩⟩ <;>
    rw [h] at hrun <;> cases hrun
  · rfl
  · rfl
  · subst hout
    exact Database.contents_of_insert_error hinsert

theorem atomic_update [Storable α] (params : α) (which : α → Row r → Bool)
    (change : α → Settings r → Settings r) : Atomic env (update params which change) := by
  intro before stop after hrun
  rcases update_cases params which change env before with
    ⟨why, h⟩ | ⟨kept, written, contents, -, -, h⟩ <;> rw [h] at hrun <;> cases hrun
  rfl

theorem atomic_delete [Storable α] (params : α) (which : α → Row r → Bool) :
    Atomic env (delete params which) := by
  intro before stop after hrun
  rcases delete_cases params which env before with
    ⟨why, h⟩ | ⟨kept, found, contents, -, -, h⟩ <;> rw [h] at hrun <;> cases hrun
  rfl

/-- After an update, only the lack of a row may fail. -/
theorem atomic_update_bind [Storable α] (params : α) (which : α → Row r → Bool)
    (change : α → Settings r → Settings r) {next : Option (Row r) → Script β}
    (hnone : Atomic env (next none)) (hsome : ∀ row, Succeeds env (next (some row))) :
    Atomic env (update params which change >>= next) := by
  intro before stop after hrun
  rcases update_cases params which change env before with
    ⟨why, h⟩ | ⟨kept, written, contents, -, hupdate, h⟩
  · rw [bind_error h] at hrun
    cases hrun
    rfl
  rw [bind_ok h] at hrun
  cases written with
  | some row =>
    obtain ⟨b, later, hlast⟩ := hsome row _
    rw [hlast] at hrun
    cases hrun
  | none =>
    rw [hnone _ stop after hrun]
    exact Contents.eq_of_update_none hupdate

/-- After a delete, only the lack of rows may fail. -/
theorem atomic_delete_bind [Storable α] (params : α) (which : α → Row r → Bool)
    {next : Bool → Script β} (hfalse : Atomic env (next false))
    (htrue : Succeeds env (next true)) : Atomic env (delete params which >>= next) := by
  intro before stop after hrun
  rcases delete_cases params which env before with
    ⟨why, h⟩ | ⟨kept, found, contents, -, hdelete, h⟩
  · rw [bind_error h] at hrun
    cases hrun
    rfl
  rw [bind_ok h] at hrun
  cases found with
  | true =>
    obtain ⟨b, later, hlast⟩ := htrue ⟨{ before.database with contents := contents }, true⟩
    rw [hlast] at hrun
    cases hrun
  | false =>
    rw [hfalse _ stop after hrun]
    exact Contents.eq_of_delete_false hdelete

/-- A refused insert leaves the rows to what is done instead. -/
theorem atomic_insertOr {e : Entry r} {onConflict : Script Merge} (h : Atomic env onConflict) :
    Atomic env (insertOr e onConflict) := by
  intro before stop after hrun
  rw [insertOr] at hrun
  cases hinsert : insert e env before with
  | ok row middle =>
    rw [hinsert] at hrun
    cases hrun
  | error why middle =>
    have hkept := atomic_insert e before why middle hinsert
    rw [hinsert] at hrun
    rcases why with ⟨_ | _ | _, subject⟩ | why
    · cases hrun
      exact hkept
    · rw [h middle stop after hrun]
      exact hkept
    · cases hrun
      exact hkept
    · cases hrun
      exact hkept

theorem atomic_insertOrChange [Storable α] {e : Entry r} {params : α} {which : α → Row r → Bool}
    {change : α → Settings r → Settings r} :
    Atomic env (insertOrChange e params which change) := by
  refine atomic_insertOr (atomic_bind_of_succeeds (atomic_update _ _ _) fun written => ?_)
  cases written <;> exact succeeds_pure _

end Script

open Script

variable {env : Environment}

/-! ## What the store does outside of transactions -/

theorem Regions.referredId_keeps (key : RegionKey) : Keeps env (Regions.referredId key) :=
  keeps_about _ (keeps_queryOne _ _)

theorem Controllers.referredId_keeps (key : ControllerKey) :
    Keeps env (Controllers.referredId key) :=
  keeps_about _ (keeps_queryOne _ _)

theorem Clouds.remove_atomic (name : String) : Atomic env (Clouds.remove name) :=
  atomic_delete_bind _ _ (keeps_fail _).atomic (succeeds_pure _)

theorem Regions.remove_atomic (key : RegionKey) : Atomic env (Regions.remove key) :=
  atomic_delete_bind _ _ (keeps_fail _).atomic (succeeds_pure _)

theorem Links.assign_atomic (region : RegionKey) (controller : ControllerKey) (priority : Int) :
    Atomic env (Links.assign region controller priority) := by
  refine atomic_bind_of_keeps (Regions.referredId_keeps region) fun region => ?_
  refine atomic_bind_of_keeps (Controllers.referredId_keeps controller) fun controller => ?_
  exact atomic_insertOrChange

theorem Links.remove_atomic (region : RegionKey) (controller : ControllerKey) :
    Atomic env (Links.remove region controller) := by
  refine atomic_bind_of_keeps (Regions.referredId_keeps region) fun region => ?_
  refine atomic_bind_of_keeps (Controllers.referredId_keeps controller) fun controller => ?_
  exact atomic_delete_bind _ _ (keeps_fail _).atomic (succeeds_pure _)

theorem Controllers.remove_atomic (key : ControllerKey) : Atomic env (Controllers.remove key) := by
  refine atomic_bind_of_keeps (keeps_queryOne _ _) fun id => ?_
  exact atomic_bind_of_succeeds (atomic_delete _ _) fun _ => succeeds_pure _

theorem Models.remove_atomic (key : ModelKey) : Atomic env (Models.remove key) := by
  refine atomic_bind_of_keeps (keeps_queryOne _ _) fun id => ?_
  exact atomic_bind_of_succeeds (atomic_delete _ _) fun _ => succeeds_pure _

theorem Models.recordConnection_atomic (key : ModelKey) (identity : String) (time : Timestamp) :
    Atomic env (Models.recordConnection key identity time) := by
  refine atomic_bind_of_keeps (keeps_queryOne _ _) fun id => ?_
  exact atomic_update_bind _ _ _ (keeps_fail _).atomic fun _ => succeeds_pure _

theorem Identities.add_atomic (draft : Identity.Draft) : Atomic env (Identities.add draft) := by
  intro before stop after hrun
  rw [Identities.add, bind_ok (read_ok env before)] at hrun
  exact atomic_bind_of_succeeds (atomic_insert _) (fun _ => succeeds_pure _) before stop after hrun

theorem Identities.overwrite_atomic (name : String) (settings : Identity.Settings) :
    Atomic env (Identities.overwrite name settings) :=
  atomic_update_bind _ _ _ (keeps_fail _).atomic fun _ => succeeds_pure _

theorem Identities.remove_atomic (name : String) : Atomic env (Identities.remove name) :=
  atomic_delete_bind _ _ (keeps_fail _).atomic (succeeds_pure _)

theorem Credentials.remove_atomic (key : CredentialKey) : Atomic env (Credentials.remove key) :=
  atomic_delete_bind _ _ (keeps_fail _).atomic (succeeds_pure _)

/-! ## Operations -/

theorem Operation.atomic (op : Operation) (env : Environment) : Atomic env op.plan.script := by
  cases op with
  | listClouds => exact atomic_map _ (keeps_query _ _).atomic
  | addCloud draft => exact atomic_map _ (atomic_transaction _)
  | getCloud name => exact atomic_map _ (keeps_queryOne _ _).atomic
  | updateCloud name settings => exact atomic_map _ (atomic_transaction _)
  | deleteCloud name => exact atomic_map _ (Clouds.remove_atomic name)
  | reconcileCloud snapshot => exact atomic_map _ (atomic_transaction _)
  | addRegionToCloud entry => exact atomic_map _ (atomic_transaction _)
  | assignCloudGrant cloud identity access => exact atomic_map _ (atomic_transaction _)
  | addRegion entry => exact atomic_map _ (atomic_transaction _)
  | getRegion key => exact atomic_map _ (keeps_queryOne _ _).atomic
  | updateRegion key settings => exact atomic_map _ (atomic_transaction _)
  | deleteRegion key => exact atomic_map _ (Regions.remove_atomic key)
  | findRegion provider region => exact atomic_map _ (keeps_queryOne _ _).atomic
  | assignPriority region controller priority =>
    exact atomic_map _ (Links.assign_atomic region controller priority)
  | removePriority region controller => exact atomic_map _ (Links.remove_atomic region controller)
  | addController draft => exact atomic_map _ (atomic_transaction _)
  | getController key => exact atomic_map _ (keeps_queryOne _ _).atomic
  | updateController key settings => exact atomic_map _ (atomic_transaction _)
  | deleteController key => exact atomic_map _ (Controllers.remove_atomic key)
  | addModel entry => exact atomic_map _ (atomic_transaction _)
  | getModel key => exact atomic_map _ (keeps_queryOne _ _).atomic
  | updateModel key settings => exact atomic_map _ (atomic_transaction _)
  | deleteModel key => exact atomic_map _ (Models.remove_atomic key.sanitise)
  | modelsWithUuids uuids => exact atomic_map _ (keeps_query _ _).atomic
  | modelsUsingCredential credential => exact atomic_map _ (keeps_query _ _).atomic
  | assignModelGrant key identity access => exact atomic_map _ (atomic_transaction _)
  | recordConnection key identity time =>
    exact atomic_map _ (Models.recordConnection_atomic key.sanitise _ time)
  | getOrCreateIdentity name => exact atomic_map _ (atomic_transaction _)
  | addIdentity draft => exact atomic_map _ (Identities.add_atomic _)
  | getIdentity name => exact atomic_map _ (keeps_queryOne _ _).atomic
  | updateIdentity name settings => exact atomic_map _ (Identities.overwrite_atomic _ settings)
  | deleteIdentity name => exact atomic_map _ (Identities.remove_atomic _)
  | cloudsOfIdentity name => exact atomic_map _ (keeps_query _ _).atomic
  | modelsOfIdentity name => exact atomic_map _ (keeps_query _ _).atomic
  | credentialsOfIdentity name cloud => exact atomic_map _ (keeps_query _ _).atomic
  | addCredential entry => exact atomic_map _ (atomic_transaction _)
  | getCredential key => exact atomic_map _ (keeps_queryOne _ _).atomic
  | updateCredential key settings => exact atomic_map _ (atomic_transaction _)
  | deleteCredential key => exact atomic_map _ (Credentials.remove_atomic key.sanitise)
  | reconcileCredential snapshot => exact atomic_map _ (atomic_transaction _)
  | assignCredentialGrant key identity access => exact atomic_map _ (atomic_transaction _)

namespace Store

theorem isValid_of_gate? {store : Store} {course : Course} {plan : Plan}
    (h : store.gate? course plan = none) : plan.subject.isValid = true := by
  cases hvalid : plan.subject.isValid with
  | true => rfl
  | false =>
    unfold gate? at h
    rw [hvalid] at h
    split at h <;> cases h

/-- What the script of an operation keeps to, the operation keeps to; it runs for a key that could
exist or not at all. -/
theorem perform_evolution_of_within {allowed : Statement → Prop} {store : Store} {now : Timestamp}
    {course : Course} {op : Operation}
    (hwithin : op.plan.subject.isValid = true →
      Within (store.environment now course) allowed op.plan.script) (db : Database) :
    Database.Evolution now allowed db (store.perform now course op db).2 := by
  rw [perform]
  cases hgate : store.gate? course op.plan with
  | some e => exact .refl db
  | none =>
    have hrun := hwithin (isValid_of_gate? hgate) ⟨db, false⟩
    dsimp only [execute]
    cases hscript : op.plan.script (store.environment now course) ⟨db, false⟩ with
    | ok reply after =>
      rw [hscript] at hrun
      exact hrun
    | error stop after =>
      rw [hscript] at hrun
      exact hrun

theorem perform_evolution (store : Store) (now : Timestamp) (course : Course) (op : Operation)
    (db : Database) :
    Database.Evolution now (fun _ => True) db (store.perform now course op db).2 :=
  perform_evolution_of_within (fun _ => op.within _) db

theorem contents_of_perform_error {store : Store} {now : Timestamp} {course : Course}
    {op : Operation} {db : Database} {e : StoreError}
    (h : (store.perform now course op db).1 = .error e) :
    (store.perform now course op db).2.contents = db.contents := by
  rw [perform] at h ⊢
  cases hgate : store.gate? course op.plan with
  | some why => rfl
  | none =>
    rw [hgate] at h
    dsimp only [execute] at h ⊢
    cases hrun : op.plan.script (store.environment now course) ⟨db, false⟩ with
    | ok reply after =>
      rw [hrun] at h
      cases h
    | error stop after => exact op.atomic _ _ stop after hrun

end Store

namespace Deployment

/-- A call of an operation that answers an error leaves every row of every relation as it was, and
so does an iteration, whatever it comes to.  Sequences may go ahead and never go back. -/
theorem rows_of_error (dep : Deployment) :
    (∀ now course op,
      (∀ e, (dep.perform now course op).1 = .error e →
        ∀ r, (dep.perform now course op).2.server.database.contents.get r =
          dep.server.database.contents.get r) ∧
      ∀ r, dep.server.database.sequences.get r ≤
        (dep.perform now course op).2.server.database.sequences.get r) ∧
    ∀ course it visitor, (dep.iterate course it visitor).2.2.server = dep.server := by
  refine ⟨fun now course op => ⟨fun e he r => ?_, fun r => ?_⟩, dep.server_iterate⟩
  · rw [database_perform, Store.contents_of_perform_error he]
  · rw [database_perform]
    exact (dep.store.perform_evolution now course op _).sequence_le r

/-- A cloud whose only fault is that two of its regions have one name. -/
def twinRegions : Cloud.Draft :=
  let region : Region.Draft := ⟨"west", ⟨.none, ⟨[], .nil⟩⟩⟩
  ⟨"aws", ⟨"ec2", "", [], .none, [], ⟨[], .nil⟩⟩, [region, region]⟩

/-- The second region is refused after the cloud and the first one were inserted, and neither
stays. -/
theorem rows_of_twinRegions :
    let dep := (initial .default).run
      [.migrate .undisturbed false, .perform ⟨0, 0⟩ .undisturbed (.getOrCreateIdentity "ann")]
    let call := dep.perform ⟨60, 0⟩ .undisturbed (.addCloud twinRegions)
    call.1 = .error ⟨"clouds.add",
      .alreadyExists .region "aws, west" (some "cloud_regions_cloud_name_name_key")⟩ ∧
    (∀ r, call.2.server.database.contents.get r = dep.server.database.contents.get r) ∧
    dep.server.database.sequences.get .region < call.2.server.database.sequences.get .region :=
  ⟨rfl, ((rows_of_error _).1 _ _ _).1 _ rfl, by decide +kernel⟩

end Deployment
end ControlPlane
