/-
Adding an entity and reading it again.

What an add answers is read within its own transaction, after everything that it brings with it, so
it is what any key of the new entity reads afterwards (`Deployment.Puts`).  The entity carries what
was asked for (`Entity.Carries`): a cloud has the regions that were appended for it, a controller
serves each region with the priority that was asked last.  Since the row is new, no grants depend on
it.
-/
import ControlPlane.Proofs.Duplicates
import ControlPlane.Proofs.Priorities

namespace ControlPlane

open Script
open IdentityName (sanitise)

variable {env : Environment} {before after : Progress}

/-! ## What an add answers -/

namespace Script

/-- What is read by its number is the entity of the row with that number. -/
theorem entityOf?_of_withId {r : Relation} {ε : Type} {hydrate : Contents → Row r → Option ε}
    {wrap : ε → Entity}
    (hhydrate : ∀ row, (hydrate after.database.contents row).map wrap =
      after.database.contents.entityOf? row)
    {id : Int} {entity : ε}
    (h : queryOne id (fun id c => (c.rowWithId? r id).bind (hydrate c)) env before =
      .ok entity after) :
    ∃ row ∈ after.database.contents.get r,
      after.database.contents.entityOf? row = some (wrap entity) := by
  obtain ⟨kept, -, hfound, rfl⟩ := of_queryOne_eq_ok h
  obtain ⟨row, hrow, hentity⟩ := Option.bind_eq_some_iff.1 hfound
  refine ⟨row, List.mem_of_find?_eq_some hrow, ?_⟩
  rw [← hhydrate, hentity]
  rfl

end Script

namespace Operation

/-- An add answers the entity of a row that is stored. -/
theorem entityOf?_of_adds (hc : after.database.contents.AllDistinct) {op : Operation}
    {r : Relation} {e : Entry r} (hadds : op.Adds env.defaultAccess e) {reply : Reply}
    (h : op.plan.script env before = .ok reply after) :
    ∃ entity, reply = .entity entity ∧ ∃ row ∈ after.database.contents.get r,
      after.database.contents.entityOf? row = some entity := by
  cases r with
  | cloud =>
    obtain ⟨draft, rfl, rfl⟩ := hadds
    obtain ⟨cloud, hrun, rfl⟩ := of_map_eq_ok h
    obtain ⟨_, _, -, hrest⟩ := of_bind_eq_ok (of_transaction_eq_ok hrun)
    obtain ⟨_, _, -, hread⟩ := of_bind_eq_ok hrest
    obtain ⟨name, -, hfound, rfl⟩ := of_queryOne_eq_ok (of_decoded_eq_ok hread).1
    obtain ⟨row, hrow, hentity⟩ := Option.bind_eq_some_iff.1 hfound
    rw [hc.cloudOfRow?_eq] at hentity
    exact ⟨_, rfl, row, List.mem_of_find?_eq_some hrow, congrArg (Option.map Entity.cloud) hentity⟩
  | region =>
    have hregion {region : Region} {e : Entry .region}
        (hrun : Regions.add e env before = .ok region after) :
        ∃ row ∈ after.database.contents.get .region,
          after.database.contents.entityOf? row = some (.region region) := by
      obtain ⟨_, _, -, hread⟩ := of_bind_eq_ok (of_transaction_eq_ok hrun)
      exact entityOf?_of_withId (fun row => congrArg _ (hc.regionOfRow?_eq row))
        (of_decoded_eq_ok hread).1
    rcases hadds with rfl | rfl
    · obtain ⟨region, hrun, rfl⟩ := of_map_eq_ok h
      exact ⟨_, rfl, hregion hrun⟩
    · obtain ⟨region, hrun, rfl⟩ := of_map_eq_ok h
      exact ⟨_, rfl, hregion hrun⟩
  | controller =>
    obtain ⟨draft, rfl, rfl⟩ := hadds
    obtain ⟨controller, hrun, rfl⟩ := of_map_eq_ok h
    obtain ⟨_, _, -, hrest⟩ := of_bind_eq_ok (of_transaction_eq_ok hrun)
    obtain ⟨_, _, -, hrest⟩ := of_bind_eq_ok hrest
    obtain ⟨_, _, -, hread⟩ := of_bind_eq_ok hrest
    exact ⟨_, rfl, entityOf?_of_withId (fun row => congrArg _ (hc.controllerOfRow?_eq row))
      (of_decoded_eq_ok hread).1⟩
  | model =>
    obtain ⟨given, rfl, rfl⟩ := hadds
    obtain ⟨model, hrun, rfl⟩ := of_map_eq_ok h
    obtain ⟨_, _, -, hrest⟩ := of_bind_eq_ok (of_transaction_eq_ok hrun)
    obtain ⟨_, _, -, hread⟩ := of_bind_eq_ok hrest
    exact ⟨_, rfl, entityOf?_of_withId (fun row => congrArg _ (hc.modelOfRow?_eq row)) hread⟩
  | credential =>
    obtain ⟨given, rfl, rfl⟩ := hadds
    obtain ⟨credential, hrun, rfl⟩ := of_map_eq_ok h
    obtain ⟨_, _, -, hrest⟩ := of_bind_eq_ok (of_transaction_eq_ok hrun)
    obtain ⟨_, _, -, hread⟩ := of_bind_eq_ok hrest
    exact ⟨_, rfl,
      entityOf?_of_withId (fun row => congrArg _ (hc.credentialOfRow?_eq row)) hread⟩
  | identity =>
    obtain ⟨draft, rfl, rfl⟩ := hadds
    obtain ⟨identity, hrun, rfl⟩ := of_map_eq_ok h
    exact ⟨_, rfl, identity.row, (Identities.add_inserts hrun).mem, rfl⟩
  | link => exact hadds.elim
  | grant on => exact hadds.elim

/-- The row that an add inserts is the one whose entity it answers. -/
theorem exists_entity_of_adds (hsound : before.database.Sound) {op : Operation} {r : Relation}
    {e : Entry r} (hadds : op.Adds env.defaultAccess e) {reply : Reply}
    (h : op.plan.script env before = .ok reply after) :
    ∃ entity, reply = .entity entity ∧ ∃ new, Inserted before.database after.database e new ∧
      after.database.contents.entityOf? new = some entity := by
  have hafter : after.database.Sound := (evolution_of_ok (op.within env) h).sound hsound
  obtain ⟨entity, rfl, row, hrow, hentity⟩ := entityOf?_of_adds hafter.allDistinct hadds h
  obtain ⟨new, hnew, hinserted⟩ := inserted_of_adds hsound hadds h
  have hshows := Contents.shows_of_entityOf? hentity
  have hsame : (⟨r, row⟩ : (r : Relation) × Row r) = ⟨r, new⟩ :=
    Option.some.inj (hshows.row?_eq.symm.trans hnew)
  cases hsame
  exact ⟨entity, rfl, row, hinserted, hentity⟩

end Operation

/-! ## What comes with a cloud -/

namespace Regions

theorem appends_of_insertUnder {e : Entry .region} {id : Int}
    (h : insertUnder e env before = .ok id after) :
    ∃ row, stored? e = some row.toEntry ∧
      after.database.contents.region = before.database.contents.region ++ [row] := by
  obtain ⟨_, start, hreferred, hrest⟩ := of_bind_eq_ok h
  obtain ⟨_, -, -, rfl⟩ := of_queryOne_eq_ok (of_about_eq_ok hreferred)
  obtain ⟨row, done, hinsert, hrest⟩ := of_bind_eq_ok hrest
  cases hrest
  obtain ⟨hkept, -, -, hcontents⟩ := appends_of_insert (of_about_eq_ok hinsert)
  exact ⟨row, hkept, congrArg (fun c => c.get .region) hcontents⟩

/-- Regions that are inserted one after another are appended in that order. -/
theorem appends_of_each {name : String} {drafts : List Region.Draft} {ids : List Int}
    (h : each (fun draft => insertUnder (draft.entry name)) drafts env before = .ok ids after) :
    ∃ rows, drafts.map (fun draft => stored? (draft.entry name)) =
        rows.map (fun row => some row.toEntry) ∧
      after.database.contents.region = before.database.contents.region ++ rows := by
  induction drafts generalizing before ids with
  | nil =>
    cases h
    exact ⟨[], rfl, (List.append_nil _).symm⟩
  | cons draft rest ih =>
    obtain ⟨_, middle, hfirst, hrest⟩ := of_bind_eq_ok h
    obtain ⟨_, done, hrest, hdone⟩ := of_bind_eq_ok hrest
    cases hdone
    obtain ⟨row, hkept, hregions⟩ := appends_of_insertUnder hfirst
    obtain ⟨rows, hrows, hall⟩ := ih hrest
    refine ⟨row :: rows, ?_, ?_⟩
    · rw [List.map_cons, List.map_cons, hkept, hrows]
    · rw [hall, hregions, List.append_assoc]
      rfl

end Regions

/-- The regions that a cloud shows are those with its name. -/
theorem Contents.regions_cloudAlone (c : Contents) (row : Row .cloud) :
    (c.cloudAlone (Preload.cloud "") row).regions.map Region.row =
      c.regionsOfClouds [row.origin] := by
  rw [cloudAlone, if_pos (by decide), c.showsRows_regions]

/-- If all regions of a cloud were appended, they are those that were. -/
theorem Contents.regionsOfClouds_append {c : Contents} {name : String}
    {before appended : List (Row .region)} (hall : c.region = before ++ appended)
    (hbefore : ∀ region ∈ before, region.origin.cloud ≠ name)
    (happended : ∀ region ∈ appended, region.origin.cloud = name) :
    (c.regionsOfClouds [name]).Perm appended := by
  have hnone : (before.filter fun region => [name].contains region.origin.cloud) = [] :=
    List.filter_eq_nil_iff.2 fun region hregion => by simpa using hbefore region hregion
  have hevery : (appended.filter fun region => [name].contains region.origin.cloud) = appended :=
    List.filter_eq_self.2 fun region hregion => by simpa using happended region hregion
  refine (sortBy_perm _ _).trans (List.Perm.of_eq ?_)
  show c.region.filter _ = appended
  rw [hall, List.filter_append, hnone, hevery, List.nil_append]

/-- The regions of a new cloud are those that came with it. -/
theorem Clouds.regionsOfClouds_of_add (hsound : before.database.Sound) {draft : Cloud.Draft}
    {cloud : Cloud} (h : add draft env before = .ok cloud after) {new : Row .cloud}
    (hinserted : Inserted before.database after.database draft.entry new) :
    ((after.database.contents.regionsOfClouds [new.origin]).map fun row => some row.toEntry).Perm
      (draft.regions.map fun region => stored? (region.entry draft.name)) := by
  obtain ⟨row, start, hinsert, hrest⟩ := of_bind_eq_ok (of_transaction_eq_ok h)
  obtain ⟨_, _, heach, hread⟩ := of_bind_eq_ok hrest
  obtain ⟨_, -, -, rfl⟩ := of_queryOne_eq_ok (of_decoded_eq_ok hread).1
  obtain ⟨-, -, -, hcontents⟩ := appends_of_insert hinsert
  obtain ⟨rows, hrows, hregions⟩ := Regions.appends_of_each heach
  have hname : new.origin = draft.name := Storable.origin_of_stored? hinserted.stored
  have hold : ∀ region ∈ before.database.contents.region, region.origin.cloud ≠ draft.name := by
    intro region hregion hcloud
    obtain ⟨cloud, hmem, horigin⟩ :=
      (Database.consistent_of_sound hsound).cloudOfRegion region hregion
    exact hinserted.origin_ne Relation.cloud_isKeyed cloud hmem (by rw [horigin, hcloud, hname])
  have hnew : ∀ region ∈ rows, region.origin.cloud = draft.name := by
    intro region hregion
    have hmem := List.mem_map_of_mem (f := fun row : Row .region => some row.toEntry) hregion
    rw [← hrows] at hmem
    obtain ⟨asked, -, hkept⟩ := List.mem_map.1 hmem
    exact congrArg RegionKey.cloud (Storable.origin_of_stored? hkept)
  have hall : after.database.contents.region = before.database.contents.region ++ rows := by
    rw [hregions, hcontents]
    rfl
  rw [hrows, hname]
  exact (Contents.regionsOfClouds_append hall hold hnew).map _

/-! ## What a new entity shows -/

/-- An entity on whose row no grant depends shows none. -/
theorem Contents.grants_eq_nil {db : Database} (h : db.Sound) {r : Relation} {row : Row r}
    {entity : Entity} (hentity : db.contents.entityOf? row = some entity)
    (hnone : ∀ on, ∀ grant ∈ db.contents.get (.grant on),
      ¬DependsOn db.contents row (.grant on) grant) : entity.grants = [] := by
  have hnil : ∀ (on : Grantable) {object : Row on.relation},
      db.contents.entityOf? object = some entity →
      (∀ grant ∈ db.contents.get (.grant on), grant.origin.object ≠ object.id) →
        entity.grants = [] := by
    intro on object hshown hfree
    refine List.eq_nil_iff_forall_not_mem.2 fun grant hgrant => ?_
    have hentry := ((isShownBy_entityOf? h on hshown).entries _ _).2 ⟨grant, hgrant, rfl, rfl⟩
    obtain ⟨stored, hstored, horigin, -⟩ := (grantMap_eq_some h.unique).1 hentry
    exact hfree stored hstored (congrArg Grant.Origin.object horigin)
  cases r with
  | cloud => exact hnil .cloud hentity (hnone .cloud)
  | model => exact hnil .model hentity (hnone .model)
  | credential => exact hnil .credential hentity (hnone .credential)
  | region =>
    cases hentity
    rfl
  | controller =>
    cases hentity
    rfl
  | identity =>
    cases hentity
    rfl
  | link => cases hentity
  | grant on => cases hentity

/-- An empty display name stands for the default, as one that is left out does. -/
theorem Identities.displayNameOr_getD (name : String) (given : Option String) :
    displayNameOr name (given.getD "") =
      (given.filter (· ≠ "")).getD (IdentityName.displayName name) := by
  cases given with
  | none => rfl
  | some text =>
    by_cases hempty : text = ""
    · subst hempty
      rfl
    · simp [displayNameOr, Option.filter, hempty]

/-- The settings of an identity that never logged in are stored as they are. -/
theorem Storable.isExact_of_noLogin {displayName : String} {access : Access} {isDisabled : Bool}
    {kept : Identity.Settings}
    (h : stored? (⟨displayName, access, none, isDisabled⟩ : Identity.Settings) = some kept) :
    kept = ⟨displayName, access, none, isDisabled⟩ := by
  obtain ⟨⟨keptName, keptAccess, lastLogin, keptFlag⟩, hparts, rfl⟩ := Option.map_eq_some_iff.1 h
  obtain ⟨hname, hrest⟩ := stored?_pair_eq_some.1 hparts
  obtain ⟨haccess, hrest⟩ := stored?_pair_eq_some.1 hrest
  obtain ⟨hlogin, hdisabled⟩ := stored?_pair_eq_some.1 hrest
  obtain rfl : keptName = displayName := isExact_text _ _ hname
  cases haccess
  cases hlogin
  cases hdisabled
  rfl

/-- Whether an entity shows what an add asks for, where `access` is what identities have by default.
Owners and the names of identities are in their safe form, and settings are as the database keeps
them. -/
def Entity.Carries (access : Access) : Operation → Entity → Prop
  | .addCloud draft, .cloud shown =>
    shown.row.origin = draft.name ∧ stored? draft.settings = some shown.row.settings ∧
      (shown.regions.map fun region => some region.row.toEntry).Perm
        (draft.regions.map fun region => stored? (region.entry draft.name))
  | .addRegion e, .region shown | .addRegionToCloud e, .region shown =>
    shown.row.origin = e.origin ∧ stored? e.settings = some shown.row.settings
  | .addController draft, .controller shown =>
    shown.row.origin = draft.origin ∧ stored? draft.settings = some shown.row.settings ∧
      shown.Serves draft.priorities
  | .addModel given, .model shown =>
    shown.row.origin = { given.origin with owner := sanitise given.origin.owner } ∧
      stored? given.settings = some shown.row.settings
  | .addCredential given, .credential shown =>
    shown.row.origin = { given.origin with owner := sanitise given.origin.owner } ∧
      stored? given.settings = some shown.row.settings
  | .addIdentity draft, .identity shown =>
    shown.row.origin = sanitise draft.name ∧
      shown.row.settings =
        { displayName := (draft.displayName.filter (· ≠ "")).getD
            (IdentityName.displayName (sanitise draft.name))
          access := draft.access.getD access
          lastLogin := none
          isDisabled := draft.isDisabled }
  | _, _ => False

/-- What an add answers shows what was asked for. -/
theorem Operation.carries_of_adds (hsound : before.database.Sound) {op : Operation} {r : Relation}
    {e : Entry r} (hadds : op.Adds env.defaultAccess e) {entity : Entity}
    (h : op.plan.script env before = .ok (.entity entity) after) {new : Row r}
    (hinserted : Inserted before.database after.database e new)
    (hentity : after.database.contents.entityOf? new = some entity) :
    entity.Carries env.defaultAccess op := by
  have hafter : after.database.Sound := (evolution_of_ok (op.within env) h).sound hsound
  have horigin := Storable.origin_of_stored? hinserted.stored
  have hsettings := (Storable.stored?_entry_eq_some.1 hinserted.stored).2
  cases r with
  | cloud =>
    obtain ⟨draft, rfl, rfl⟩ := hadds
    obtain ⟨cloud, hrun, hcloud⟩ := of_map_eq_ok h
    cases hentity
    refine ⟨horigin, hsettings, ?_⟩
    have hregions := Clouds.regionsOfClouds_of_add hsound hrun hinserted
    rw [← Contents.regions_cloudAlone, List.map_map] at hregions
    exact hregions
  | region =>
    cases hentity
    rcases hadds with rfl | rfl <;> exact ⟨horigin, hsettings⟩
  | controller =>
    obtain ⟨draft, rfl, rfl⟩ := hadds
    obtain ⟨controller, hrun, hcontroller⟩ := of_map_eq_ok h
    cases hentity
    cases hcontroller
    obtain ⟨hexist, hsets⟩ := Controllers.settings?_of_add hsound hrun
    exact ⟨horigin, hsettings,
      Database.serves_controllerAlone hafter hinserted.mem hexist hsets⟩
  | model =>
    obtain ⟨given, rfl, rfl⟩ := hadds
    cases hentity
    exact ⟨horigin, hsettings⟩
  | credential =>
    obtain ⟨given, rfl, rfl⟩ := hadds
    cases hentity
    exact ⟨horigin, hsettings⟩
  | identity =>
    obtain ⟨draft, rfl, rfl⟩ := hadds
    cases hentity
    refine ⟨horigin, ?_⟩
    rw [← Identities.displayNameOr_getD]
    exact Storable.isExact_of_noLogin hsettings
  | link => exact hadds.elim
  | grant on => exact hadds.elim

/-- What an add answers has no grants. -/
theorem Operation.grants_of_adds (hsound : before.database.Sound) {op : Operation} {r : Relation}
    {e : Entry r} (hadds : op.Adds env.defaultAccess e) {entity : Entity}
    (h : op.plan.script env before = .ok (.entity entity) after) {new : Row r}
    (hinserted : Inserted before.database after.database e new)
    (hentity : after.database.contents.entityOf? new = some entity) : entity.grants = [] := by
  have hafter : after.database.Sound := (evolution_of_ok (op.within env) h).sound hsound
  exact Contents.grants_eq_nil hafter hentity fun on grant hgrant hdepends =>
    brings_of_adds hsound hadds h hinserted hgrant hdepends

/-! ## Sessions -/

namespace Deployment

/-- Whether an entity has been put under a key between two states: nothing was stored there before,
the entity is read there now, and nothing else can be added there, as long as it is taken. -/
structure Puts (dep after : Deployment) (key : Key) (entity : Entity) : Prop where
  absent : ∀ old ∈ dep.server.database.contents.get key.relation, ¬key.Names old.toEntry
  read : ∀ now, (after.perform now .undisturbed key.retrieval).1 = .ok (.entity entity)
  refuses : after.RefusesAdds key
  refusesLater : ∀ steps, (after.run steps).store.lifecycle = .ready →
    (∃ row ∈ (after.run steps).server.database.contents.get key.relation,
      key.Names row.toEntry) → (after.run steps).RefusesAdds key

/-- An add that succeeds answers an entity that carries what was asked for and has no grants, and
puts it under each of its keys. -/
theorem Reachable.added_reread {dep : Deployment} (hreachable : dep.Reachable) {now : Timestamp}
    {course : Course} {op : Operation} {r : Relation} {e : Entry r}
    (hadds : op.Adds dep.store.settings.defaultAccess e) {reply : Reply}
    (hok : (dep.perform now course op).1 = .ok reply) :
    let call := dep.perform now course op
    ∃ entity, reply = .entity entity ∧ entity.Carries dep.store.settings.defaultAccess op ∧
      entity.grants = [] ∧
      ∀ (key : Key) (row : Row key.relation), entity.Shows row → key.Names row.toEntry →
        dep.Puts call.2 key entity := by
  intro call
  have hdatabase : call.2.server.database = _ := database_perform dep now course op
  have hstore : call.2.store = dep.store := store_perform dep now course op
  have hlater : call.2.Reachable := hreachable.run [.perform now course op]
  obtain ⟨hready, hvalid, after, hrun, hafter⟩ := Store.of_perform_eq_ok hok
  have hbefore : (Progress.mk dep.server.database false).database.Sound := hreachable.sound
  obtain ⟨entity, rfl, new, hinserted, hentity⟩ :=
    Operation.exists_entity_of_adds hbefore hadds hrun
  have hcarries := Operation.carries_of_adds hbefore hadds hrun hinserted hentity
  have hparts : "" ∉ keyParts r new.origin := by
    rw [Storable.origin_of_stored? hinserted.stored]
    exact (Operation.isValid_iff_of_adds hadds).1 hvalid
  have hgrants := Operation.grants_of_adds hbefore hadds hrun hinserted hentity
  rw [← hafter, ← hdatabase] at hinserted hentity
  refine ⟨entity, rfl, hcarries, hgrants, fun key row hshows hnames => ?_⟩
  -- The row that the entity shows is the one that was inserted.
  cases (Contents.shows_of_entityOf? hentity).eq hshows
  have hnow : call.2.store.lifecycle = .ready := hstore ▸ hready
  exact
    { absent := fun old hold hnamed => by
        obtain ⟨u, hu, hconflicts⟩ := Key.exists_conflicts hnames hnamed
        rw [hinserted.absent u hu old hold] at hconflicts
        cases hconflicts
      read := hlater.perform_retrieval key hnow hinserted.mem hnames hparts hentity
      refuses := hlater.refusesAdds hnow hinserted.mem hnames
      refusesLater := fun steps hready' ⟨kept, hkept, hnamed⟩ =>
        (hlater.run steps).refusesAdds hready' hkept hnamed }

/-- A controller that asks for one of its regions twice, under its name and under its identifier. -/
theorem Reachable.added_reread_one :
    let dep := (initial .default).run
      [.migrate .undisturbed false,
        .perform ⟨0, 0⟩ .undisturbed (.addCloud ⟨"aws", ⟨"ec2", "", [], .none, [], .empty⟩,
          [⟨"west", .none, .empty⟩, ⟨"east", .none, .empty⟩]⟩)]
    let call := dep.perform ⟨60, 0⟩ .undisturbed (.addController
      ⟨⟨"one", ⟨1⟩, ⟨"aws", "west"⟩⟩, ⟨"", "", "", "", false, "", [], none, .empty⟩,
        [⟨⟨"aws", "west"⟩, 7⟩, ⟨⟨"aws", "east"⟩, 8⟩, ⟨⟨"aws", "west"⟩, 9⟩]⟩)
    ∃ shown : Controller, call.1 = .ok (.entity (.controller shown)) ∧
      (∃ link ∈ shown.links, link.row.settings = 9 ∧
        ∃ region, link.region.map Region.row = some region ∧ region.origin = ⟨"aws", "west"⟩) ∧
      dep.Puts call.2 (.controller (.name "one")) (.controller shown) ∧
      dep.Puts call.2 (.controller (.uuid ⟨1⟩)) (.controller shown) := by
  intro dep call
  have hreachable : dep.Reachable := ⟨.default, _, rfl⟩
  have hok : call.1.isOk = true := by decide +kernel
  cases hanswer : call.1 with
  | error e =>
    rw [hanswer] at hok
    cases hok
  | ok reply =>
    obtain ⟨entity, rfl, hcarries, -, hputs⟩ :=
      added_reread hreachable (r := .controller) ⟨_, rfl, rfl⟩ hanswer
    cases entity with
    | controller shown =>
      obtain ⟨horigin, -, hserves⟩ := hcarries
      have hlast := (hserves.priority ⟨"aws", "west"⟩ 9).2 (by decide)
      exact ⟨shown, rfl, hlast, hputs (.controller (.name "one")) shown.row rfl
        (congrArg Controller.Origin.name horigin), hputs (.controller (.uuid ⟨1⟩)) shown.row rfl
          (congrArg Controller.Origin.uuid horigin)⟩
    | _ => exact hcarries.elim

end Deployment

end ControlPlane
