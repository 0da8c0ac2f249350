/-
Merges of different clouds in any order.

A merge draws numbers that depend on what was merged before it, and creates identities that another
snapshot names too.  By natural keys neither shows: a successful merge makes of the inventory what
`Inventory.after` says, and leaves the rest of the database alone (`Reachable.merge`).  So runs of
the same merges in two orders leave one inventory, and databases that match
(`Database.matches_of_inventory`); and each merge gets the tally that it would get alone, since the
others leave its cloud alone (`Reachable.tallies_eq`).  The theorem of this file is
`Deployment.Reachable.merges_interchange`.
-/
import ControlPlane.Proofs.Answers
import ControlPlane.Proofs.Inventories
import ControlPlane.Proofs.NaturalKeys

namespace ControlPlane

/-! ## Databases with one inventory -/

/-- Whether a database is an earlier one apart from its inventory, and has lost no region. -/
structure Contents.Grows (before after : Contents) : Prop where
  others : ∀ r, r ≠ .identity → r ≠ .cloud → r ≠ .region → r ≠ .grant .cloud →
    after.get r = before.get r
  regions : before.get .region ⊆ after.get .region

namespace Contents

variable {c c' c'' : Contents}

theorem Grows.refl (c : Contents) : Grows c c := ⟨fun _ _ _ _ _ => rfl, fun _ h => h⟩

theorem Grows.trans (h : Grows c c') (h' : Grows c' c'') : Grows c c'' where
  others r hidentity hcloud hregion hgrant :=
    (h'.others r hidentity hcloud hregion hgrant).trans (h.others r hidentity hcloud hregion hgrant)
  regions := List.Subset.trans h.regions h'.regions

theorem keyWithId?_congr {κ : Type} {r : Relation} (h : c.get r = c'.get r) (key : Row r → κ) :
    c.keyWithId? r key = c'.keyWithId? r key := by
  funext id
  rw [keyWithId?, keyWithId?, rowWithId?, rowWithId?, h]

end Contents

namespace Database

open Contents

variable {start db db' : Database}

/-- A keyed relation tells the same facts if the same is stored under each origin. -/
theorem perm_entries {r : Relation} [DecidableEq (Origin r)] (hkeyed : r.IsKeyed) (h : db.Sound)
    (h' : db'.Sound) (hsettings : db.contents.settings? r = db'.contents.settings? r) :
    ((db.contents.get r).map Row.toEntry).Perm ((db'.contents.get r).map Row.toEntry) := by
  have hnodup : ∀ {d : Database}, d.Sound → ((d.contents.get r).map Row.toEntry).Nodup := by
    intro d hd
    refine List.Nodup.map_on (fun a ha b hb heq => ?_) ((consistent_of_sound hd).nodup r)
    exact hd.unique.eq_of_origin hkeyed ha hb (congrArg Entry.origin heq)
  have hmem : ∀ {d : Database}, d.Sound → ∀ e : Entry r, e ∈ (d.contents.get r).map Row.toEntry ↔
      d.contents.settings? r e.origin = some e.settings := by
    intro d hd e
    rw [settings?_eq_some hd.unique hkeyed, List.mem_map]
    refine exists_congr fun row => and_congr_right fun _ => ⟨?_, ?_⟩
    · rintro rfl
      exact ⟨rfl, rfl⟩
    · rintro ⟨horigin, hsame⟩
      exact congrArg₂ Entry.mk horigin hsame
  refine (List.perm_ext_iff_of_nodup (hnodup h) (hnodup h')).2 fun e => ?_
  rw [hmem h, hmem h', hsettings]

theorem mem_cloudGrants (h : db.Sound) {fact : Grant.Fact String} :
    fact ∈ (db.contents.get (.grant .cloud)).map (db.contents.fact (.grant .cloud)) ↔
      ∃ name, fact.object = some name ∧
        db.contents.inventory.grant name fact.identity = some fact.settings := by
  have hconsistent := consistent_of_sound h
  rw [List.mem_map]
  constructor
  · rintro ⟨grant, hgrant, rfl⟩
    obtain ⟨cloud, hcloud, hid⟩ := hconsistent.objectOfGrant .cloud grant hgrant
    have hfind : db.contents.cloudRow? cloud.origin = some cloud :=
      (find?_key_eq_some hconsistent.cloudNames).2 ⟨hcloud, rfl⟩
    refine ⟨cloud.origin, (hconsistent.object_fact hcloud grant).1 hid.symm, ?_⟩
    simp only [inventory, hfind, Option.bind_some, hid]
    exact grantMap_of_mem h.unique hgrant
  · rintro ⟨name, hobject, hsettings⟩
    obtain ⟨cloud, hfind, hgrantMap⟩ := Option.bind_eq_some_iff.1 hsettings
    obtain ⟨hcloud, hname⟩ := (find?_key_eq_some hconsistent.cloudNames).1 hfind
    obtain ⟨grant, hgrant, horigin, hsame⟩ := (grantMap_eq_some h.unique).1 hgrantMap
    have hfact : (db.contents.fact (.grant .cloud) grant).object = some cloud.origin :=
      (hconsistent.object_fact hcloud grant).1 (by rw [horigin])
    have hidentity : grant.origin.identity = fact.identity := by rw [horigin]
    obtain ⟨object, identity, settings⟩ := fact
    dsimp only at hobject hsame hidentity
    subst hobject hsame hname hidentity
    exact ⟨grant, hgrant, congrArg (Grant.Fact.mk · grant.origin.identity grant.settings) hfact⟩

theorem nodup_cloudGrants (h : db.Sound) :
    ((db.contents.get (.grant .cloud)).map (db.contents.fact (.grant .cloud))).Nodup := by
  have hconsistent := consistent_of_sound h
  refine List.Nodup.map_on (fun a ha b hb heq => ?_) (hconsistent.nodup (.grant .cloud))
  obtain ⟨cloud, hcloud, hid⟩ := hconsistent.objectOfGrant .cloud a ha
  have hobject : (db.contents.fact (.grant .cloud) a).object = some cloud.origin :=
    (hconsistent.object_fact hcloud a).1 hid.symm
  rw [heq] at hobject
  have hsame : b.origin.object = cloud.id := (hconsistent.object_fact hcloud b).2 hobject
  refine h.unique.eq_of_origin (Relation.grant_isKeyed .cloud) ha hb ?_
  exact congrArg₂ Grant.Origin.mk (hid.symm.trans hsame.symm) (congrArg Grant.Fact.identity heq)

section

variable (h : db.Sound) (h' : db'.Sound) (hgrows : Grows start.contents db.contents)
  (hgrows' : Grows start.contents db'.contents)
include h h' hgrows hgrows'

/-- Regions that were there have one key for good. -/
theorem keyWithId?_region {id : Int} (hid : ∃ region ∈ start.contents.region, region.id = id) :
    db.contents.keyWithId? .region (fun region => region.origin) id =
      db'.contents.keyWithId? .region (fun region => region.origin) id := by
  obtain ⟨region, hregion, rfl⟩ := hid
  have hkey : ∀ {d : Database}, d.Sound → Grows start.contents d.contents →
      d.contents.keyWithId? .region (fun region => region.origin) region.id =
        some region.origin := by
    intro d hd hgrown
    have hconsistent := consistent_of_sound hd
    exact (keyWithId?_eq_some (hconsistent.ids .region) hconsistent.nodup_regions
      (hgrown.regions hregion)).2 rfl
  rw [hkey h hgrows, hkey h' hgrows']

/-- Databases that have come from one with the same inventory match. -/
theorem matches_of_inventory (hstart : start.Consistent)
    (hinventory : db.contents.inventory = db'.contents.inventory) :
    db.contents.Matches db'.contents := by
  have hsame : ∀ r, r ≠ .identity → r ≠ .cloud → r ≠ .region → r ≠ .grant .cloud →
      db'.contents.get r = db.contents.get r := fun r hidentity hcloud hregion hgrant =>
    (hgrows'.others r hidentity hcloud hregion hgrant).trans
      (hgrows.others r hidentity hcloud hregion hgrant).symm
  have hcontroller := hsame .controller nofun nofun nofun nofun
  have hcredential := hsame .credential nofun nofun nofun nofun
  have hmodel := hsame .model nofun nofun nofun nofun
  intro r
  cases r with
  | identity =>
    exact perm_entries Relation.identity_isKeyed h h' (congrArg Inventory.identity hinventory)
  | cloud => exact perm_entries Relation.cloud_isKeyed h h' (congrArg Inventory.cloud hinventory)
  | region => exact perm_entries Relation.region_isKeyed h h' (congrArg Inventory.region hinventory)
  | controller =>
    rw [hcontroller]
    exact .refl _
  | credential =>
    rw [hcredential]
    exact .refl _
  | link =>
    rw [hsame .link nofun nofun nofun nofun]
    refine .of_eq (List.map_congr_left fun link hlink => ?_)
    rw [hgrows.others .link nofun nofun nofun nofun] at hlink
    simp only [fact, keyWithId?_congr hcontroller,
      keyWithId?_region h h' hgrows hgrows' (hstart.regionOfLink link hlink)]
  | model =>
    rw [hmodel]
    refine .of_eq (List.map_congr_left fun model hmem => ?_)
    rw [hgrows.others .model nofun nofun nofun nofun] at hmem
    simp only [fact, keyWithId?_congr hcontroller, keyWithId?_congr hcredential,
      keyWithId?_region h h' hgrows hgrows' (hstart.regionOfModel model hmem)]
  | grant on =>
    cases on with
    | cloud =>
      refine (List.perm_ext_iff_of_nodup (nodup_cloudGrants h) (nodup_cloudGrants h')).2
        fun fact => ?_
      rw [mem_cloudGrants h, mem_cloudGrants h', hinventory]
    | model =>
      rw [hsame (.grant .model) nofun nofun nofun nofun]
      refine .of_eq (List.map_congr_left fun grant _ => ?_)
      simp only [fact, keyWithId?_congr (r := Grantable.model.relation) hmodel]
    | credential =>
      rw [hsame (.grant .credential) nofun nofun nofun nofun]
      refine .of_eq (List.map_congr_left fun grant _ => ?_)
      simp only [fact, keyWithId?_congr (r := Grantable.credential.relation) hcredential]

end

end Database

/-! ## One merge -/

/-- A context that is interrupted before it starts lets nothing pass. -/
theorem Store.gate?_interrupted (store : Store) (why : Interruption) (plan : Plan) :
    store.gate? (.interrupted why) plan ≠ none := by
  unfold gate?
  cases store.refusal? with
  | some cause => exact nofun
  | none =>
    dsimp only
    split <;> exact nofun

/-- A call that merges a snapshot of a cloud. -/
structure CloudMerge where
  now : Timestamp
  course : Course
  snapshot : Cloud.Snapshot

namespace CloudMerge

def operation (m : CloudMerge) : Operation := .reconcileCloud m.snapshot

def step (m : CloudMerge) : Deployment.Step := .perform m.now m.course m.operation

/-- The call apart from its time. -/
def request (m : CloudMerge) : Course × Cloud.Snapshot := (m.course, m.snapshot)

/-- Whether the call succeeds. -/
structure Succeeds (dep : Deployment) (m : CloudMerge) : Prop where
  ready : dep.store.lifecycle = .ready
  valid : m.operation.plan.subject.isValid = true
  undisturbed : m.course = .undisturbed
  taken : m.snapshot.IsTaken
  readBack : m.snapshot.IsReadBack dep.server.database.contents

namespace Succeeds

variable {dep dep' : Deployment} {m n : CloudMerge} (h : m.Succeeds dep)

include h

theorem of_request (hrequest : m.request = n.request) : n.Succeeds dep := by
  obtain ⟨hcourse, hsnapshot⟩ := Prod.mk.inj hrequest
  refine ⟨h.ready, ?_, hcourse ▸ h.undisturbed, hsnapshot ▸ h.taken, hsnapshot ▸ h.readBack⟩
  rw [operation, ← hsnapshot]
  exact h.valid

/-- Whatever else is stored, the call succeeds where there is the same of its cloud. -/
theorem of_agreeOn (hstore : dep'.store = dep.store)
    (hagree : Inventory.AgreeOn m.snapshot.cloud.name dep.server.database.contents.inventory
      dep'.server.database.contents.inventory) : m.Succeeds dep' :=
  ⟨hstore ▸ h.ready, h.valid, h.undisturbed, h.taken, hagree.isReadBack h.readBack⟩

end Succeeds

end CloudMerge

namespace Deployment

/-- The tally that a merge gets, if it succeeds. -/
def tally? (dep : Deployment) (m : CloudMerge) : Option Tally :=
  (dep.perform m.now m.course m.operation).1.toOption.bind Reply.tally?

/-- The tallies that merges get one after another, each with its snapshot. -/
def tallies (dep : Deployment) : List CloudMerge → List (Cloud.Snapshot × Option Tally)
  | [] => []
  | m :: rest => (m.snapshot, dep.tally? m) :: (dep.after m.step).tallies rest

def merged (dep : Deployment) (ms : List CloudMerge) : Deployment :=
  dep.run (ms.map CloudMerge.step)

variable {dep dep' : Deployment} {m m' : CloudMerge}

theorem store_step (dep : Deployment) (m : CloudMerge) : (dep.after m.step).store = dep.store :=
  store_perform ..

theorem succeeds_of_tally? (hreachable : dep.Reachable) (h : (dep.tally? m).isSome = true) :
    m.Succeeds dep := by
  cases hanswer : (dep.perform m.now m.course m.operation).1 with
  | error e =>
    rw [tally?, hanswer] at h
    cases h
  | ok reply =>
    have hperform : (dep.store.perform m.now m.course m.operation dep.server.database).1 =
        .ok reply := by rw [← reply_perform, hanswer]
    obtain ⟨hready, hvalid, after, hscript, -⟩ := Store.of_perform_eq_ok hperform
    obtain ⟨merged, hrun, -⟩ := Script.of_map_eq_ok hscript
    obtain ⟨hcalm, htaken⟩ := Clouds.isTaken_of_reconcile_eq_ok hrun
    have hsound : (Progress.mk dep.server.database false).database.Sound := hreachable.sound
    have hback := Clouds.isReadBack_of_reconcile_eq_ok hsound hreachable.isReadable hrun
    refine ⟨hready, hvalid, ?_, htaken, hback⟩
    cases hcourse : m.course with
    | undisturbed => rfl
    | interrupted why =>
      rw [hcourse, Store.perform] at hperform
      cases hgate : dep.store.gate? (.interrupted why) m.operation.plan with
      | none => exact absurd hgate (dep.store.gate?_interrupted why _)
      | some e =>
        rw [hgate] at hperform
        cases hperform
    | disturbed moment why =>
      rw [hcourse] at hcalm
      cases hcalm

namespace Reachable

variable (h : dep.Reachable) (hm : m.Succeeds dep)
include h hm

/-- What a merge answers, and what it makes of the rows and of the grants. -/
theorem merge_absorbs : ∃ outcomes cloud middle added identities grants,
    dep.tally? m = some (Tally.ofList outcomes) ∧
    (dep.after m.step).server.database.contents.cloudRow? m.snapshot.cloud.name = some cloud ∧
    Absorbed (.cloud m.snapshot) cloud.id m.now dep.store.settings.defaultAccess
      dep.server.database.contents middle (dep.after m.step).server.database.contents added
      identities grants outcomes ∧
    (dep.after m.step).server.database.contents.grantMap =
      (m.snapshot.grants.map fun report => GrantEvent.assigned ⟨.cloud, cloud.id, report.identity⟩
        (some report.access)).foldl GrantMap.after dep.server.database.contents.grantMap := by
  have hcalm : (dep.store.environment m.now .undisturbed).disturbance = none := rfl
  have hsound : (Progress.mk dep.server.database false).database.Sound := h.sound
  obtain ⟨entity, cloud, outcomes, after, middle, added, identities, grants, hrun, hfound, -, -,
    habsorbed⟩ := Clouds.reconcile_absorbs hcalm hsound h.isReadable hm.taken hm.readBack
  have hperform := Store.perform_ok hm.ready hm.valid (Script.map_ok hrun _)
  have hdatabase : (dep.after m.step).server.database = after.database := by
    rw [CloudMerge.step, Deployment.after, database_perform, hm.undisturbed, hperform]
  refine ⟨outcomes, cloud, middle, added, identities, grants, ?_, ?_, ?_, ?_⟩
  · rw [tally?, reply_perform, hm.undisturbed, hperform]
    rfl
  · rw [hdatabase]
    exact hfound
  · rw [hdatabase]
    exact habsorbed
  · have hrow : (GrantObject.cloud m.snapshot.cloud.name).row? after.database.contents =
        some cloud := hfound
    rw [hdatabase, Clouds.grantMap_of_reconcile hsound hrun]
    exact GrantObject.foldl_assigned hrow _ _

/-- What a merge makes of the database. -/
theorem merge : (dep.after m.step).server.database.contents.inventory =
      dep.server.database.contents.inventory.after dep.store.settings.defaultAccess m.snapshot ∧
    Contents.Grows dep.server.database.contents (dep.after m.step).server.database.contents := by
  obtain ⟨outcomes, cloud, middle, added, identities, grants, -, hfound, habsorbed, hgrants⟩ :=
    h.merge_absorbs hm
  have hafter : (dep.after m.step).Reachable := h.run [m.step]
  refine ⟨habsorbed.inventory_eq hfound hafter.sound.distinct h.sound.closed hgrants,
    fun r hidentity hcloud hregion hgrant => ?_, ?_⟩
  · refine (habsorbed.reported.others r hidentity hgrant).trans (habsorbed.get_eq ?_)
    cases r with
    | cloud => exact absurd rfl hcloud
    | region => exact absurd rfl hregion
    | grant on => cases on <;> rfl
    | _ => rfl
  · rw [habsorbed.get_region]
    exact List.subset_append_left _ _

omit h hm in
/-- A merge gets the tally that it gets wherever there is the same of its cloud. -/
theorem tally?_eq (h : dep.Reachable) (hm : m.Succeeds dep) (h' : dep'.Reachable)
    (hm' : m'.Succeeds dep') (hsnapshot : m.snapshot = m'.snapshot)
    (hagree : Inventory.AgreeOn m.snapshot.cloud.name dep.server.database.contents.inventory
      dep'.server.database.contents.inventory) : dep.tally? m = dep'.tally? m' := by
  obtain ⟨outcomes, cloud, middle, added, identities, grants, htally, hfound, habsorbed, -⟩ :=
    h.merge_absorbs hm
  obtain ⟨outcomes', cloud', middle', added', identities', grants', htally', hfound', habsorbed',
    -⟩ := h'.merge_absorbs hm'
  have hafter : (dep.after m.step).Reachable := h.run [m.step]
  have hafter' : (dep'.after m'.step).Reachable := h'.run [m'.step]
  rw [← hsnapshot] at habsorbed' hfound'
  have hlevels := habsorbed.levelOn?_eq_inventory hfound hafter.sound.distinct h.sound.closed
  rw [hagree.grant, ← habsorbed'.levelOn?_eq_inventory hfound' hafter'.sound.distinct
    h'.sound.closed] at hlevels
  rw [htally, htally', habsorbed.tally_eq habsorbed' hlevels hagree]

omit h hm in
/-- A merge of one cloud leaves alone what there is of another. -/
theorem agreeOn_merge (h : dep.Reachable) (hm : m.Succeeds dep) {name : String}
    (hname : m.snapshot.cloud.name ≠ name) :
    Inventory.AgreeOn name (dep.after m.step).server.database.contents.inventory
      dep.server.database.contents.inventory := by
  rw [(h.merge hm).1]
  exact Inventory.agreeOn_after hname

end Reachable

/-! ## Runs of merges -/

theorem store_merged (dep : Deployment) (ms : List CloudMerge) :
    (dep.merged ms).store = dep.store := by
  induction ms generalizing dep with
  | nil => rfl
  | cons first rest ih => exact (ih (dep.after first.step)).trans (store_step dep first)

namespace Reachable

/-- If merges of different clouds all get tallies, each would succeed alone. -/
theorem succeeds_of_tallies (h : dep.Reachable) {ms : List CloudMerge}
    (hnames : ms.Pairwise fun m n => m.snapshot.cloud.name ≠ n.snapshot.cloud.name)
    (hok : ∀ answer ∈ dep.tallies ms, answer.2.isSome = true) : ∀ m ∈ ms, m.Succeeds dep := by
  induction ms generalizing dep with
  | nil => exact nofun
  | cons first rest ih =>
    obtain ⟨hfirst, hrest⟩ := List.forall_mem_cons.1 hok
    obtain ⟨hothers, hnames⟩ := List.pairwise_cons.1 hnames
    have hsucceeds := succeeds_of_tally? h hfirst
    intro m hm
    rcases List.mem_cons.1 hm with rfl | hm
    · exact hsucceeds
    · exact (ih (h.run [first.step]) hnames hrest m hm).of_agreeOn (store_step dep first).symm
        (h.agreeOn_merge hsucceeds (hothers m hm))

/-- Merges of other clouds succeed after a merge as they did before it. -/
theorem succeeds_after (h : dep.Reachable) {first : CloudMerge} (hfirst : first.Succeeds dep)
    {rest : List CloudMerge} (hrest : ∀ m ∈ rest, m.Succeeds dep)
    (hothers : ∀ m ∈ rest, first.snapshot.cloud.name ≠ m.snapshot.cloud.name) :
    ∀ m ∈ rest, m.Succeeds (dep.after first.step) := fun m hm =>
  (hrest m hm).of_agreeOn (store_step dep first) (h.agreeOn_merge hfirst (hothers m hm)).symm

/-- What a run of merges makes of the database. -/
theorem run_merges (h : dep.Reachable) {ms : List CloudMerge}
    (hms : ∀ m ∈ ms, m.Succeeds dep)
    (hnames : ms.Pairwise fun m n => m.snapshot.cloud.name ≠ n.snapshot.cloud.name) :
    (dep.merged ms).server.database.contents.inventory =
      (ms.map CloudMerge.snapshot).foldl (Inventory.after dep.store.settings.defaultAccess)
        dep.server.database.contents.inventory ∧
    Contents.Grows dep.server.database.contents (dep.merged ms).server.database.contents := by
  induction ms generalizing dep with
  | nil => exact ⟨rfl, .refl _⟩
  | cons first rest ih =>
    obtain ⟨hfirst, hrest⟩ := List.forall_mem_cons.1 hms
    obtain ⟨hothers, hnames⟩ := List.pairwise_cons.1 hnames
    obtain ⟨hinventory, hgrows⟩ := h.merge hfirst
    have hafter : (dep.after first.step).Reachable := h.run [first.step]
    obtain ⟨hlater, hgrown⟩ := ih hafter (h.succeeds_after hfirst hrest hothers) hnames
    rw [hinventory, store_step] at hlater
    exact ⟨hlater, hgrows.trans hgrown⟩

/-- Merges of different clouds get the tallies that each would get alone. -/
theorem tallies_eq (h : dep.Reachable) {ms : List CloudMerge}
    (hms : ∀ m ∈ ms, m.Succeeds dep)
    (hnames : ms.Pairwise fun m n => m.snapshot.cloud.name ≠ n.snapshot.cloud.name) :
    dep.tallies ms = ms.map fun m => (m.snapshot, dep.tally? m) := by
  induction ms generalizing dep with
  | nil => rfl
  | cons first rest ih =>
    obtain ⟨hfirst, hrest⟩ := List.forall_mem_cons.1 hms
    obtain ⟨hothers, hnames⟩ := List.pairwise_cons.1 hnames
    have hafter : (dep.after first.step).Reachable := h.run [first.step]
    have hlater := h.succeeds_after hfirst hrest hothers
    rw [tallies, ih hafter hlater hnames, List.map_cons]
    refine congrArg _ (List.map_congr_left fun m hm => ?_)
    have hagree := h.agreeOn_merge hfirst (hothers m hm)
    rw [hafter.tally?_eq (hlater m hm) h (hrest m hm) rfl hagree]

/-- What a merge gets depends on its course and its snapshot, and not on its time. -/
theorem map_tally?_eq (h : dep.Reachable) {ms : List CloudMerge}
    (hms : ∀ m ∈ ms, m.Succeeds dep) (now : Timestamp) :
    (ms.map fun m => (m.snapshot, dep.tally? m)) =
      (ms.map CloudMerge.request).map fun request =>
        (request.2, dep.tally? ⟨now, request.1, request.2⟩) := by
  rw [List.map_map]
  refine List.map_congr_left fun m hm => ?_
  have hsame : CloudMerge.Succeeds dep ⟨now, m.course, m.snapshot⟩ :=
    (hms m hm).of_request rfl
  exact congrArg _ (h.tally?_eq (hms m hm) h hsame rfl (.refl _ _))

/-- Snapshots of clouds with different names may be merged in any order, at any times.  If all the
merges of a session succeed in one order, they succeed in every other, and each gets the same tally;
the databases that they leave match, and so do the answers about every cloud. -/
theorem merges_interchange (h : dep.Reachable) {ms ms' : List CloudMerge}
    (hnames : ms.Pairwise fun m n => m.snapshot.cloud.name ≠ n.snapshot.cloud.name)
    (hperm : (ms.map CloudMerge.request).Perm (ms'.map CloudMerge.request))
    (hok : ∀ answer ∈ dep.tallies ms, answer.2.isSome = true) :
    (∀ answer ∈ dep.tallies ms', answer.2.isSome = true) ∧
    (dep.tallies ms).Perm (dep.tallies ms') ∧
    (dep.merged ms).server.database.contents.Matches
      (dep.merged ms').server.database.contents ∧
    ∀ name now course, AnswersAlike
      (fun a b => ∃ x y, a = .ofCloud x ∧ b = .ofCloud y ∧ Cloud.Matches x y)
      ((dep.merged ms).perform now course (.getCloud name)).1
      ((dep.merged ms').perform now course (.getCloud name)).1 := by
  have hms := h.succeeds_of_tallies hnames hok
  have hms' : ∀ m ∈ ms', m.Succeeds dep := by
    intro m hm
    obtain ⟨n, hn, hrequest⟩ := List.mem_map.1 (hperm.symm.subset (List.mem_map_of_mem hm))
    exact (hms n hn).of_request hrequest
  have hsnapshots : (ms.map CloudMerge.snapshot).Perm (ms'.map CloudMerge.snapshot) := by
    have := hperm.map Prod.snd
    rwa [List.map_map, List.map_map] at this
  have hsnapshotNames : (ms.map CloudMerge.snapshot).Pairwise
      fun s t => s.cloud.name ≠ t.cloud.name := List.pairwise_map.2 hnames
  have hnames' : ms'.Pairwise fun m n => m.snapshot.cloud.name ≠ n.snapshot.cloud.name := by
    have := hsnapshots.pairwise hsnapshotNames fun hne => hne.symm
    rwa [List.pairwise_map] at this
  have htallies : (dep.tallies ms).Perm (dep.tallies ms') := by
    rw [h.tallies_eq hms hnames, h.tallies_eq hms' hnames', h.map_tally?_eq hms ⟨0, 0⟩,
      h.map_tally?_eq hms' ⟨0, 0⟩]
    exact hperm.map _
  obtain ⟨hinventory, hgrows⟩ := h.run_merges hms hnames
  obtain ⟨hinventory', hgrows'⟩ := h.run_merges hms' hnames'
  have hleft : (dep.merged ms).Reachable := h.run _
  have hright : (dep.merged ms').Reachable := h.run _
  have hsame : (dep.merged ms).server.database.contents.inventory =
      (dep.merged ms').server.database.contents.inventory := by
    rw [hinventory, hinventory']
    exact Inventory.foldl_after_perm hsnapshots hsnapshotNames
  have hmatches := Database.matches_of_inventory hleft.sound hright.sound hgrows hgrows'
    (Database.consistent_of_sound h.sound) hsame
  refine ⟨fun answer hanswer => hok answer (htallies.symm.subset hanswer), htallies, hmatches,
    fun name => getCloud_alike ?_ ?_⟩
  · rw [store_merged, store_merged]
  · exact Database.cloud?_matches (Database.consistent_of_sound hleft.sound)
      (Database.consistent_of_sound hright.sound) hmatches name

/-- Two clouds report one identity and one more each.  The numbers that identities draw depend on
which cloud comes first. -/
theorem merges_interchange_shared_identity :
    let merge (now : Timestamp) (cloud identity : String) : CloudMerge :=
      ⟨now, .undisturbed, ⟨⟨cloud, ⟨"", "", [], .none, [], .empty⟩, [⟨"west", .none, .empty⟩]⟩,
        [⟨"ann", .read⟩, ⟨identity, .admin⟩]⟩⟩
    let dep := (initial .default).run
      [.migrate .undisturbed false,
        .perform ⟨0, 0⟩ .undisturbed (.addCloud ⟨"gcp", ⟨"", "", [], .none, [], .empty⟩, []⟩)]
    let ms := [merge ⟨60, 0⟩ "aws" "bob", merge ⟨120, 0⟩ "gcp" "carl"]
    let ms' := [merge ⟨60, 0⟩ "gcp" "carl", merge ⟨180, 0⟩ "aws" "bob"]
    let left := (dep.merged ms).server.database.contents
    let right := (dep.merged ms').server.database.contents
    (dep.tallies ms).map Prod.snd = [some ⟨4, 0, 0⟩, some ⟨3, 0, 1⟩] ∧
      (dep.tallies ms').map Prod.snd = [some ⟨3, 0, 1⟩, some ⟨4, 0, 0⟩] ∧
      left.identity.map (fun row => row.origin) = ["ann", "bob", "carl"] ∧
      right.identity.map (fun row => row.origin) = ["ann", "carl", "bob"] ∧
      left.Matches right := by
  intro merge dep ms ms' left right
  have hreachable : dep.Reachable := ⟨.default, _, rfl⟩
  have hnames : ms.Pairwise fun m n => m.snapshot.cloud.name ≠ n.snapshot.cloud.name :=
    List.pairwise_pair.2 (show "aws" ≠ "gcp" by decide)
  have hperm : (ms.map CloudMerge.request).Perm (ms'.map CloudMerge.request) := .swap _ _ _
  have hok : ∀ answer ∈ dep.tallies ms, answer.2.isSome = true := by decide +kernel
  obtain ⟨-, -, hmatches, -⟩ := hreachable.merges_interchange hnames hperm hok
  exact ⟨by decide +kernel, by decide +kernel, by decide +kernel, by decide +kernel, hmatches⟩

end Reachable

end Deployment
end ControlPlane
