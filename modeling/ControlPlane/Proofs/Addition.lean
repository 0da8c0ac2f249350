/-
Adding an entity.

Each operation that adds an entity inserts one entry (`Operation.Adds`).  Before that it only looks
rows up and sees to the owner; after that it writes to other relations or to none.  So an add that
answers has inserted a row for the entry, which has a number of its own and is what the answer shows
(`Operation.inserted_of_adds`).  Where the database takes the entry, its documents are read back
and the constraints do not refuse it, a plain add succeeds (`Operation.adds_ok`).
-/
import ControlPlane.Proofs.Absorption
import ControlPlane.Proofs.Inversion
import ControlPlane.Proofs.Keys

namespace ControlPlane

open Script
open Database (Evolution)
open Statement (AllowsInsert AllowsUpdates)
open IdentityName (sanitise)

/-! ## Other relations -/

/-- Whether a statement leaves the rows of a relation alone: it writes to another and deletes
nothing. -/
def Statement.Spares (q : Relation) : Statement → Prop
  | .insert (r := r) _ => r ≠ q
  | .update (r := r) _ _ => r ≠ q
  | .delete _ => False

namespace Database

variable {now : Timestamp} {q : Relation} {db after : Database}

theorem Write.get_eq {statement : Statement} (hspares : statement.Spares q)
    (hwrite : Write now statement db after) : after.contents.get q = db.contents.get q := by
  cases hwrite with
  | insert _ e =>
    obtain ⟨-, hcases⟩ := insert_cases (Prod.eta (db.insert now e)).symm
    rcases hcases with ⟨failure, -, -, hcontents⟩ | ⟨row, -, -, -, hcontents⟩
    · rw [hcontents]
    · rw [hcontents, PerRelation.get_set_of_ne _ _ (Ne.symm hspares)]
  | lose => rfl
  | update hupdate =>
    rcases Contents.update_cases hupdate with ⟨-, rfl⟩ | ⟨row, new, -, -, -, -, rfl⟩
    · rfl
    · exact PerRelation.get_set_of_ne _ _ (Ne.symm hspares)
  | delete => exact hspares.elim

theorem Evolution.get_eq (h : Evolution now (Statement.Spares q) db after) :
    after.contents.get q = db.contents.get q := by
  induction h with
  | refl => rfl
  | write hallowed hwrite => exact hwrite.get_eq hallowed
  | trans _ _ ihfirst ihsecond => exact ihsecond.trans ihfirst
  | undo => rfl

end Database

/-! ## New rows -/

/-- Whether a row was inserted for an entry between two states of the database: it has a number that
had not been drawn, and conflicts with no row that was there. -/
structure Inserted {r : Relation} (before after : Database) (e : Entry r) (new : Row r) : Prop where
  mem : new ∈ after.contents.get r
  stored : stored? e = some new.toEntry
  undrawn : before.sequences.get r ≤ new.id
  absent : ∀ u ∈ uniquenesses r, ∀ old ∈ before.contents.get r,
    u.conflicts new.toEntry old.toEntry = false

namespace Script

variable {r : Relation} {env : Environment} {before after : Progress}

/-- An insert among statements that leave the rows of its relation alone. -/
theorem inserted_of_insert {first last : Database} {e : Entry r} {row : Row r}
    (hfirst : Evolution env.now (Statement.Spares r) first before.database)
    (hinsert : insert e env before = .ok row after)
    (hlast : Evolution env.now (Statement.Spares r) after.database last) :
    Inserted first last e row := by
  obtain ⟨hkept, hid, hfree, hcontents⟩ := appends_of_insert hinsert
  refine ⟨?_, hkept, ?_, fun u hu old hold => ?_⟩
  · rw [hlast.get_eq, hcontents, PerRelation.get_set_self]
    exact List.mem_append_right _ List.mem_cons_self
  · rw [hid]
    exact hfirst.sequence_le r
  · rw [← hfirst.get_eq] at hold
    exact (Contents.refusal?_eq_none.1 hfree).1 u hu old hold

theorem insert_ok (hcalm : env.disturbance = none) {e kept : Entry r}
    (hkept : stored? e = some kept)
    (hfree : before.database.contents.refusal? (before.database.contents.get r) kept = none) :
    ∃ row after, insert e env before = .ok row after ∧ row.toEntry = kept ∧
      row ∈ after.database.contents.get r ∧
      after.database.contents =
        before.database.contents.set r (before.database.contents.get r ++ [row]) := by
  have hinsert := Database.insert_of_refusal? hfree env.now
  refine ⟨_, _, insert_of_ok hcalm hkept hinsert, rfl, ?_, rfl⟩
  rw [PerRelation.get_set_self]
  exact List.mem_append_right _ List.mem_cons_self

/-- Where an entry is inserted whose documents are readable, all documents stay so. -/
theorem isReadable_of_insert (hsound : before.database.Sound)
    (hreadable : before.database.contents.IsReadable) {e : Entry r} (he : e.isReadable = true)
    {row : Row r} (h : insert e env before = .ok row after) :
    after.database.contents.IsReadable ∧ after.database.contents.AllDistinct := by
  obtain ⟨hkept, -, -, hcontents⟩ := appends_of_insert h
  have hsound : after.database.Sound :=
    sound_of_ok (within_insert e fun _ _ => trivial) h hsound
  refine ⟨?_, hsound.allDistinct⟩
  rw [hcontents]
  refine hreadable.append fun other hother => ?_
  rw [List.mem_singleton.1 hother]
  exact (Entry.isReadable_of_stored? hkept).trans he

section

variable {ε : Type} {rowOf : ε → Row r} {hydrate : Contents → List (Row r) → List ε}
  (hrows : ∀ c, Contents.ShowsRows rowOf (hydrate c))

include hrows

/-- An entity that is read by its number shows the row with that number. -/
theorem of_withId_eq_ok {id : Int} {entity : ε}
    (h : queryOne id (fun id c => (c.rowWithId? r id).bind fun row => (hydrate c [row]).head?)
      env before = .ok entity after) :
    after = before ∧ rowOf entity ∈ before.database.contents.get r ∧ (rowOf entity).id = id := by
  obtain ⟨kept, hkept, hfound, rfl⟩ := of_queryOne_eq_ok h
  obtain rfl := Option.some.inj hkept
  obtain ⟨row, hrow, hentity⟩ := Option.bind_eq_some_iff.1 hfound
  obtain ⟨shown, hshown, hshows⟩ := (hrows after.database.contents).head?_hydrate row
  rw [hshown] at hentity
  obtain rfl := Option.some.inj hentity
  rw [hshows]
  exact ⟨rfl, List.mem_of_find?_eq_some hrow, by simpa using List.find?_some hrow⟩

theorem withId_ok (hcalm : env.disturbance = none) {row : Row r}
    (hrow : row ∈ before.database.contents.get r) :
    ∃ entity, queryOne row.id
      (fun id c => (c.rowWithId? r id).bind fun row => (hydrate c [row]).head?) env before =
        .ok entity before := by
  cases hfind : before.database.contents.rowWithId? r row.id with
  | none => exact absurd (decide_eq_true rfl) (List.find?_eq_none.1 hfind row hrow)
  | some found =>
    obtain ⟨entity, hentity, -⟩ := (hrows before.database.contents).head?_hydrate found
    refine ⟨entity, queryOne_ok hcalm rfl ?_⟩
    rw [hfind]
    exact hentity

end

end Script

/-! ## Adds that succeed -/

variable {env : Environment} {before after : Progress}

theorem allowsInsert_spares {q r : Relation} (h : r ≠ q) {e : Entry r} :
    AllowsInsert (Statement.Spares q) e := fun _ _ => h

theorem allowsUpdates_spares {q r : Relation} (h : r ≠ q) :
    AllowsUpdates (Statement.Spares q) r := fun _ _ => h

namespace Regions

theorem insertUnder_inserts {e : Entry .region} {id : Int}
    (h : insertUnder e env before = .ok id after) :
    ∃ row, row.id = id ∧ Inserted before.database after.database e row := by
  obtain ⟨_, start, hreferred, h⟩ := of_bind_eq_ok h
  obtain ⟨row, done, hinsert, h⟩ := of_bind_eq_ok h
  cases h
  exact ⟨row, rfl, inserted_of_insert (evolution_of_ok (Clouds.referredId_within _) hreferred)
    (of_about_eq_ok hinsert) (.refl _)⟩

theorem add_inserts (hdistinct : after.database.contents.Distinct) {e : Entry .region}
    {region : Region} (h : add e env before = .ok region after) :
    Inserted before.database after.database e region.row := by
  obtain ⟨id, middle, hunder, hread⟩ := of_bind_eq_ok (of_transaction_eq_ok h)
  obtain ⟨row, rfl, hinserted⟩ := insertUnder_inserts hunder
  obtain ⟨rfl, hmem, hid⟩ := of_withId_eq_ok (fun c => c.showsRows_regions _)
    (of_decoded_eq_ok hread).1
  rwa [hdistinct.eq hmem hinserted.mem hid]

end Regions

namespace Clouds

theorem add_inserts (hunique : after.database.contents.Unique) {draft : Cloud.Draft} {cloud : Cloud}
    (h : add draft env before = .ok cloud after) :
    Inserted before.database after.database draft.entry cloud.row := by
  obtain ⟨row, inserted, hinsert, h⟩ := of_bind_eq_ok (of_transaction_eq_ok h)
  obtain ⟨_, middle, hregions, hread⟩ := of_bind_eq_ok h
  obtain ⟨name, hname, hfound, rfl⟩ := of_queryOne_eq_ok (of_decoded_eq_ok hread).1
  have hspares : Within env (Statement.Spares .cloud)
      (each (fun region : Region.Draft => Regions.insertUnder (region.entry draft.name))
        draft.regions) :=
    within_each fun region _ => Regions.insertUnder_within (allowsInsert_spares (by decide))
  have hinserted := inserted_of_insert (.refl _) hinsert (evolution_of_ok hspares hregions)
  obtain ⟨found, hfind, hcloud⟩ := Option.bind_eq_some_iff.1 hfound
  obtain ⟨shown, hshown, hshows⟩ :=
    (after.database.contents.showsRows_clouds (Preload.cloud "")).head?_hydrate found
  have hsame : shown = cloud := Option.some.inj (hshown.symm.trans hcloud)
  have hfoundOrigin : found.origin = name := by simpa using List.find?_some hfind
  have horigin : row.origin = draft.name := Storable.origin_of_stored? hinserted.stored
  have heq : found.origin = row.origin := by
    rw [hfoundOrigin, horigin, Storable.isExact_text _ _ hname]
  rw [← hsame, hshows, hunique.eq_of_origin Relation.cloud_isKeyed
    (List.mem_of_find?_eq_some hfind) hinserted.mem heq]
  exact hinserted

end Clouds

namespace Controllers

theorem add_inserts (hdistinct : after.database.contents.Distinct) {draft : Controller.Draft}
    {controller : Controller} (h : add draft env before = .ok controller after) :
    Inserted before.database after.database draft.entry controller.row := by
  obtain ⟨_, start, hreferred, h⟩ := of_bind_eq_ok (of_transaction_eq_ok h)
  obtain ⟨row, inserted, hinsert, h⟩ := of_bind_eq_ok h
  obtain ⟨_, middle, hlinks, hread⟩ := of_bind_eq_ok h
  have hspares : Within env (Statement.Spares .controller)
      (each (fun p : RegionPriority => do
        let region ← Regions.referredId p.region
        Links.merge region row.id p.priority) draft.priorities) :=
    within_each fun p _ => within_bind (Regions.referredId_within _) fun region =>
      Links.merge_within (allowsInsert_spares (by decide)) (allowsUpdates_spares (by decide))
  have hinserted := inserted_of_insert (evolution_of_ok (Regions.referredId_within _) hreferred)
    hinsert (evolution_of_ok hspares hlinks)
  obtain ⟨rfl, hmem, hid⟩ := of_withId_eq_ok (fun c => c.showsRows_controllers _)
    (of_decoded_eq_ok hread).1
  rwa [hdistinct.eq hmem hinserted.mem hid]

end Controllers

namespace Models

theorem add_inserts (hdistinct : after.database.contents.Distinct) {e : Entry .model}
    {model : Model} (h : add e env before = .ok model after) :
    Inserted before.database after.database e model.row := by
  obtain ⟨_, start, hensure, h⟩ := of_bind_eq_ok (of_transaction_eq_ok h)
  obtain ⟨row, inserted, hinsert, hread⟩ := of_bind_eq_ok h
  have hspares : Within env (Statement.Spares .model) (Identities.ensure e.origin.owner) :=
    Identities.ensure_within (allowsInsert_spares (by decide))
  have hinserted := inserted_of_insert (evolution_of_ok hspares hensure) hinsert (.refl _)
  obtain ⟨rfl, hmem, hid⟩ := of_withId_eq_ok (fun c => c.showsRows_models _) hread
  rwa [hdistinct.eq hmem hinserted.mem hid]

end Models

namespace Credentials

theorem add_inserts (hdistinct : after.database.contents.Distinct) {e : Entry .credential}
    {credential : Credential} (h : add e env before = .ok credential after) :
    Inserted before.database after.database e credential.row := by
  obtain ⟨_, start, hprepare, h⟩ := of_bind_eq_ok (of_transaction_eq_ok h)
  obtain ⟨row, inserted, hinsert, hread⟩ := of_bind_eq_ok h
  have hspares : Within env (Statement.Spares .credential) (prepare e.origin) :=
    prepare_within (allowsInsert_spares (by decide))
  have hinserted := inserted_of_insert (evolution_of_ok hspares hprepare) hinsert (.refl _)
  obtain ⟨rfl, hmem, hid⟩ := of_withId_eq_ok (fun c => c.showsRows_credentials _) hread
  rwa [hdistinct.eq hmem hinserted.mem hid]

end Credentials

namespace Identities

theorem add_inserts {draft : Identity.Draft} {identity : Identity}
    (h : add draft env before = .ok identity after) :
    Inserted before.database after.database (draftEntry draft env.defaultAccess) identity.row := by
  rw [add, bind_ok (read_ok env before)] at h
  obtain ⟨row, inserted, hinsert, h⟩ := of_bind_eq_ok h
  cases h
  exact inserted_of_insert (.refl _) hinsert (.refl _)

end Identities

/-- The row that an answer shows. -/
def Reply.row? : Reply → Option ((r : Relation) × Row r)
  | .entity (.cloud cloud) => some ⟨.cloud, cloud.row⟩
  | .entity (.region region) => some ⟨.region, region.row⟩
  | .entity (.controller controller) => some ⟨.controller, controller.row⟩
  | .entity (.model model) => some ⟨.model, model.row⟩
  | .entity (.identity identity) => some ⟨.identity, identity.row⟩
  | .entity (.credential credential) => some ⟨.credential, credential.row⟩
  | _ => none

namespace Operation

/-- Whether an operation adds the entity of an entry, where `access` is what identities have by
default. -/
def Adds (op : Operation) (access : Access) : {r : Relation} → Entry r → Prop
  | .cloud, e => ∃ draft, op = .addCloud draft ∧ draft.entry = e
  | .region, e => op = .addRegion e ∨ op = .addRegionToCloud e
  | .controller, e => ∃ draft, op = .addController draft ∧ draft.entry = e
  | .model, e => ∃ given, op = .addModel given ∧ Model.sanitiseOwner given = e
  | .credential, e => ∃ given, op = .addCredential given ∧ Credential.sanitiseOwner given = e
  | .identity, e => ∃ draft, op = .addIdentity draft ∧
    Identities.draftEntry { draft with name := sanitise draft.name } access = e
  | _, _ => False

/-- An add that answers has inserted the row that it shows. -/
theorem inserted_of_adds (hsound : before.database.Sound) {op : Operation} {r : Relation}
    {e : Entry r} (hadds : op.Adds env.defaultAccess e) {reply : Reply}
    (h : op.plan.script env before = .ok reply after) :
    ∃ new : Row r, reply.row? = some ⟨r, new⟩ ∧
      Inserted before.database after.database e new := by
  have hsound : after.database.Sound := (evolution_of_ok (op.within env) h).sound hsound
  cases r with
  | cloud =>
    obtain ⟨draft, rfl, rfl⟩ := hadds
    obtain ⟨cloud, hrun, rfl⟩ := of_map_eq_ok h
    exact ⟨cloud.row, rfl, Clouds.add_inserts hsound.unique hrun⟩
  | region =>
    rcases hadds with rfl | rfl
    · obtain ⟨region, hrun, rfl⟩ := of_map_eq_ok h
      exact ⟨region.row, rfl, Regions.add_inserts hsound.distinct hrun⟩
    · obtain ⟨region, hrun, rfl⟩ := of_map_eq_ok h
      exact ⟨region.row, rfl, Regions.add_inserts hsound.distinct hrun⟩
  | controller =>
    obtain ⟨draft, rfl, rfl⟩ := hadds
    obtain ⟨controller, hrun, rfl⟩ := of_map_eq_ok h
    exact ⟨controller.row, rfl, Controllers.add_inserts hsound.distinct hrun⟩
  | model =>
    obtain ⟨given, rfl, rfl⟩ := hadds
    obtain ⟨model, hrun, rfl⟩ := of_map_eq_ok h
    exact ⟨model.row, rfl, Models.add_inserts hsound.distinct hrun⟩
  | credential =>
    obtain ⟨given, rfl, rfl⟩ := hadds
    obtain ⟨credential, hrun, rfl⟩ := of_map_eq_ok h
    exact ⟨credential.row, rfl, Credentials.add_inserts hsound.distinct hrun⟩
  | identity =>
    obtain ⟨draft, rfl, rfl⟩ := hadds
    obtain ⟨identity, hrun, rfl⟩ := of_map_eq_ok h
    exact ⟨identity.row, rfl, Identities.add_inserts hrun⟩
  | link => exact hadds.elim
  | grant on => exact hadds.elim

end Operation

/-! ## Adds that have to succeed -/

/-- The rows of one relation may grow without refusing an entry of another. -/
theorem Contents.refusal?_of_append {r q : Relation} {c after : Contents} {e : Entry r}
    {added : List (Row q)} (hafter : after = c.set q (c.get q ++ added)) (hq : r ≠ q)
    (hfree : c.refusal? (c.get r) e = none) : after.refusal? (after.get r) e = none := by
  obtain ⟨hunique, hresolves⟩ := refusal?_eq_none.1 hfree
  rw [hafter, PerRelation.get_set_of_ne _ _ hq]
  refine refusal?_eq_none.2 ⟨hunique, fun ref href => ?_⟩
  refine resolves_of_doubles href (fun row hrow => ⟨row, ?_, rfl, rfl⟩) (hresolves ref href)
  exact PerRelation.get_set_cases
    (P := fun p (rows : List (Row p)) => ∀ row ∈ c.get p, row ∈ rows)
    (fun _ h => List.mem_append_left _ h) (fun _ _ _ h => h) ref.target row hrow

section

variable (hcalm : env.disturbance = none)

include hcalm

/-- A region to which something refers is found. -/
theorem Regions.referredId_ok {key : RegionKey} (hkey : stored? key = some key)
    (hregion : ∃ row ∈ before.database.contents.get .region, row.origin = key) :
    ∃ id, referredId key env before = .ok id before := by
  obtain ⟨region, hfind, -⟩ := Contents.find?_origin_eq_some hregion
  exact ⟨region.id, about_ok _ (queryOne_ok hcalm hkey
    (congrArg (Option.map fun row : Row .region => row.id) hfind))⟩

theorem Regions.add_ok (hsound : before.database.Sound)
    (hreadable : before.database.contents.IsReadable) {e kept : Entry .region}
    (he : e.isReadable = true) (hkept : stored? e = some kept)
    (hfree : before.database.contents.refusal? (before.database.contents.get .region) kept = none) :
    ∃ region after, add e env before = .ok region after := by
  have hname := (Storable.isNulFree_of_regionKey (Storable.stored?_origin hkept)).1
  obtain ⟨cloud, hcloud, hrefers⟩ :=
    Contents.resolves_iff.1 ((Contents.refusal?_eq_none.1 hfree).2 _ List.mem_cons_self)
  have hcloud' : cloud.origin = e.origin.cloud := by
    rw [← Storable.origin_of_stored? hkept]
    exact (of_decide_eq_true hrefers).symm
  obtain ⟨_, hreferred⟩ := Clouds.referredId_ok hcalm hname ⟨cloud, hcloud, hcloud'⟩
  obtain ⟨row, after, hinsert, -, hrow, -⟩ := insert_ok hcalm hkept hfree
  obtain ⟨hafter, hdistinct⟩ := isReadable_of_insert hsound hreadable he hinsert
  obtain ⟨region, hread⟩ :=
    withId_ok (fun c => c.showsRows_regions (Preload.region "")) hcalm hrow
  have hunder : insertUnder e env before = .ok row.id after := by
    rw [insertUnder, bind_ok hreferred, bind_ok (about_ok _ hinsert)]
    rfl
  exact ⟨region, after, transaction_ok
    ((bind_ok hunder _).trans (readBack_ok hafter hdistinct hread))⟩

theorem Clouds.add_ok (hsound : before.database.Sound)
    (hreadable : before.database.contents.IsReadable) {draft : Cloud.Draft}
    (hplain : draft.regions = []) (he : draft.entry.isReadable = true) {kept : Entry .cloud}
    (hkept : stored? draft.entry = some kept)
    (hfree : before.database.contents.refusal? (before.database.contents.get .cloud) kept = none) :
    ∃ cloud after, add draft env before = .ok cloud after := by
  obtain ⟨row, after, hinsert, hentry, hrow, -⟩ := insert_ok hcalm hkept hfree
  obtain ⟨hafter, hdistinct⟩ := isReadable_of_insert hsound hreadable he hinsert
  have horigin : row.origin = draft.name := by
    rw [hentry]
    exact Storable.origin_of_stored? hkept
  obtain ⟨found, hfind, -⟩ := Contents.find?_origin_eq_some ⟨row, hrow, horigin⟩
  obtain ⟨cloud, hread, -⟩ := get_eq_ok hcalm (Storable.stored?_origin hkept) hfind
  refine ⟨cloud, after, transaction_ok ?_⟩
  rw [bind_ok hinsert, hplain]
  exact readBack_ok hafter hdistinct hread

theorem Controllers.add_ok (hsound : before.database.Sound)
    (hreadable : before.database.contents.IsReadable) {draft : Controller.Draft}
    (hplain : draft.priorities = []) (he : draft.entry.isReadable = true)
    {kept : Entry .controller} (hkept : stored? draft.entry = some kept)
    (hfree : before.database.contents.refusal? (before.database.contents.get .controller) kept =
      none) : ∃ controller after, add draft env before = .ok controller after := by
  have hstored : stored? draft.origin = some draft.origin := Storable.stored?_origin hkept
  obtain ⟨region, hregion, hrefers⟩ :=
    Contents.resolves_iff.1 ((Contents.refusal?_eq_none.1 hfree).2 _ List.mem_cons_self)
  have hregion' : region.origin = draft.origin.hosting := by
    rw [← of_decide_eq_true hrefers, Storable.origin_of_stored? hkept]
    rfl
  obtain ⟨_, hreferred⟩ :=
    Regions.referredId_ok hcalm (Storable.stored?_hosting hstored) ⟨region, hregion, hregion'⟩
  obtain ⟨row, after, hinsert, -, hrow, -⟩ := insert_ok hcalm hkept hfree
  obtain ⟨hafter, hdistinct⟩ := isReadable_of_insert hsound hreadable he hinsert
  obtain ⟨controller, hread⟩ :=
    withId_ok (fun c => c.showsRows_controllers (Preload.controller "")) hcalm hrow
  refine ⟨controller, after, transaction_ok ?_⟩
  rw [bind_ok hreferred, bind_ok hinsert, hplain]
  exact readBack_ok hafter hdistinct hread

theorem Models.add_ok (hsound : before.database.Sound) {e kept : Entry .model}
    (hkept : stored? e = some kept)
    (hfree : before.database.contents.refusal? (before.database.contents.get .model) kept = none) :
    ∃ model after, add e env before = .ok model after := by
  have howner := (Storable.isNulFree_of_modelOrigin (Storable.stored?_origin hkept)).1
  obtain ⟨outcome, middle, owners, hensure, -, hmiddle, -⟩ :=
    Identities.ensure_ok hcalm hsound howner
  obtain ⟨row, after, hinsert, -, hrow, -⟩ :=
    insert_ok hcalm hkept (Contents.refusal?_of_append hmiddle (by decide) hfree)
  obtain ⟨model, hread⟩ := withId_ok (fun c => c.showsRows_models (Preload.model "")) hcalm hrow
  refine ⟨model, after, transaction_ok ?_⟩
  rw [bind_ok hensure, bind_ok hinsert]
  exact hread

theorem Credentials.add_ok (hsound : before.database.Sound) {e kept : Entry .credential}
    (hkept : stored? e = some kept)
    (hfree : before.database.contents.refusal? (before.database.contents.get .credential) kept =
      none) : ∃ credential after, add e env before = .ok credential after := by
  obtain ⟨cloud, hcloud, hrefers⟩ :=
    Contents.resolves_iff.1 ((Contents.refusal?_eq_none.1 hfree).2 _ List.mem_cons_self)
  have hcloud' : cloud.origin = e.origin.cloud := by
    rw [← Storable.origin_of_stored? hkept]
    exact (of_decide_eq_true hrefers).symm
  obtain ⟨middle, owners, hprepare, -, hmiddle, -⟩ :=
    prepare_ok hcalm hsound (Storable.stored?_origin hkept) ⟨cloud, hcloud, hcloud'⟩
  obtain ⟨row, after, hinsert, -, hrow, -⟩ :=
    insert_ok hcalm hkept (Contents.refusal?_of_append hmiddle (by decide) hfree)
  obtain ⟨credential, hread⟩ :=
    Script.withId_ok (fun c => c.showsRows_credentials (Preload.credential "")) hcalm hrow
  refine ⟨credential, after, transaction_ok ?_⟩
  rw [bind_ok hprepare, bind_ok hinsert]
  exact hread

theorem Identities.add_ok {draft : Identity.Draft} {kept : Entry .identity}
    (hkept : stored? (draftEntry draft env.defaultAccess) = some kept)
    (hfree : before.database.contents.refusal? (before.database.contents.get .identity) kept =
      none) : ∃ identity after, add draft env before = .ok identity after := by
  obtain ⟨row, after, hinsert, -⟩ := insert_ok hcalm hkept hfree
  refine ⟨⟨row⟩, after, ?_⟩
  rw [add, bind_ok (read_ok env before)]
  exact bind_ok hinsert _

end

namespace Operation

/-- The regions with which a controller is added. -/
def priorities : Operation → List RegionPriority
  | .addController draft => draft.priorities
  | _ => []

/-- Whether an add adds its entity alone. -/
def IsPlain (op : Operation) : Prop := op.regionDrafts = [] ∧ op.priorities = []

/-- A plain add succeeds where the database takes the entry, its documents are read back and the
constraints do not refuse it. -/
theorem adds_ok (hcalm : env.disturbance = none) (hsound : before.database.Sound)
    (hreadable : before.database.contents.IsReadable) {op : Operation} (hplain : op.IsPlain)
    {r : Relation} {e kept : Entry r} (hadds : op.Adds env.defaultAccess e)
    (he : e.isReadable = true)
    (hkept : stored? e = some kept)
    (hfree : before.database.contents.refusal? (before.database.contents.get r) kept = none) :
    ∃ reply after, op.plan.script env before = .ok reply after := by
  cases r with
  | cloud =>
    obtain ⟨draft, rfl, rfl⟩ := hadds
    obtain ⟨cloud, after, hrun⟩ := Clouds.add_ok hcalm hsound hreadable hplain.1 he hkept hfree
    exact ⟨_, after, map_ok hrun _⟩
  | region =>
    obtain ⟨region, after, hrun⟩ := Regions.add_ok hcalm hsound hreadable he hkept hfree
    rcases hadds with rfl | rfl
    · exact ⟨_, after, map_ok hrun _⟩
    · exact ⟨_, after, map_ok hrun _⟩
  | controller =>
    obtain ⟨draft, rfl, rfl⟩ := hadds
    obtain ⟨controller, after, hrun⟩ :=
      Controllers.add_ok hcalm hsound hreadable hplain.2 he hkept hfree
    exact ⟨_, after, map_ok hrun _⟩
  | model =>
    obtain ⟨given, rfl, rfl⟩ := hadds
    obtain ⟨model, after, hrun⟩ := Models.add_ok hcalm hsound hkept hfree
    exact ⟨_, after, map_ok hrun _⟩
  | credential =>
    obtain ⟨given, rfl, rfl⟩ := hadds
    obtain ⟨credential, after, hrun⟩ := Credentials.add_ok hcalm hsound hkept hfree
    exact ⟨_, after, map_ok hrun _⟩
  | identity =>
    obtain ⟨draft, rfl, rfl⟩ := hadds
    obtain ⟨identity, after, hrun⟩ := Identities.add_ok hcalm hkept hfree
    exact ⟨_, after, map_ok hrun _⟩
  | link => exact hadds.elim
  | grant on => exact hadds.elim

end Operation
end ControlPlane
