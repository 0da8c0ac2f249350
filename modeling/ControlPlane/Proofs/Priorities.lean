/-
What a new controller serves.

The priorities that are asked for a controller are merged one after another, and each overwrites
what was asked before for the same region.  The links stand for a map from regions and controllers
to priorities (`Contents.settings?`), and a merge is an update of this map.  So a controller that
had no links has, for each region that is asked for, one link with the last priority
(`Controllers.settings?_of_links`), and shows it with its region.
-/
import ControlPlane.Proofs.Directions
import ControlPlane.Proofs.Mirrors
import ControlPlane.Proofs.Overwriting

namespace ControlPlane

open Script

/-- The priority that is asked last for a region. -/
def lastRequested? (priorities : List RegionPriority) (region : RegionKey) : Option Int :=
  (priorities.reverse.find? fun p => p.region = region).map fun p => p.priority

theorem lastRequested?_cons (p : RegionPriority) (rest : List RegionPriority)
    (region : RegionKey) :
    lastRequested? (p :: rest) region =
      (lastRequested? rest region).or (if p.region = region then some p.priority else none) := by
  rw [lastRequested?, map_find?_reverse_cons]
  simp only [decide_eq_true_eq]
  rfl

theorem exists_of_lastRequested? {priorities : List RegionPriority} {region : RegionKey}
    {priority : Int} (h : lastRequested? priorities region = some priority) :
    ∃ p ∈ priorities, p.region = region := by
  obtain ⟨p, hfind, -⟩ := Option.map_eq_some_iff.1 h
  exact ⟨p, List.mem_reverse.1 (List.mem_of_find?_eq_some hfind), by
    simpa using List.find?_some hfind⟩

variable {env : Environment} {before after : Progress}

/-! ## Merges -/

/-- A link that is merged has the priority that is asked for. -/
theorem Links.settings?_of_merge (hsound : before.database.Sound) {region controller priority : Int}
    {outcome : Merge} (h : merge region controller priority env before = .ok outcome after) :
    after.database.contents.settings? .link =
      Function.update (before.database.contents.settings? .link) ⟨region, controller⟩
        (some priority) := by
  obtain ⟨kept, hkept, ⟨hfree, -, rfl⟩ | ⟨name, detail, hrefusal, hrest⟩⟩ := of_insertOr_eq_ok h
  · cases hkept
    refine Contents.settings?_append fun old hold horigin => ?_
    obtain ⟨name, detail, hrefused⟩ := Contents.refusal?_of_mem (c := before.database.contents)
      Relation.link_isKeyed hold horigin
    exact nomatch hfree.symm.trans hrefused
  · cases hkept
    obtain ⟨old, hold, horigin⟩ := Contents.exists_origin_of_refusal? Relation.link_isKeyed hrefusal
    obtain ⟨written, middle, hwrite, hrest⟩ := of_bind_eq_ok hrest
    obtain ⟨params, contents, hparams, hupdate, rfl⟩ := of_update_eq_ok hwrite
    have hcontents : after.database.contents = contents := by
      cases written <;> cases hrest <;> rfl
    cases hparams
    rw [hcontents]
    rcases Contents.settings?_of_update hsound.unique Relation.link_isKeyed hsound.closed
      hsound.distinct nofun hupdate with
      ⟨-, rfl, hnone⟩ | ⟨row, -, hwhich, -, -, hsettings⟩
    · -- The link has the priority already.
      have hpriority : old.settings = priority := by simpa [horigin] using hnone old hold
      have hstored := Contents.settings?_of_mem hsound.unique Relation.link_isKeyed hold
      rw [horigin, hpriority] at hstored
      exact (Function.update_eq_self_iff.2 hstored.symm).symm
    · have horigin : row.origin = ⟨region, controller⟩ :=
        of_decide_eq_true (Bool.and_eq_true_iff.1 hwhich).1
      rw [hsettings, horigin]

/-! ## Runs -/

namespace Controllers

theorem link_within {controller : Int} {p : RegionPriority} {q : Relation} (hq : .link ≠ q) :
    Within env (Statement.Spares q) (link controller p) :=
  within_bind (Regions.referredId_within _) fun _ =>
    Links.merge_within (allowsInsert_spares hq) (allowsUpdates_spares hq)

/-- One priority: the region is there, and its link has the priority afterwards. -/
theorem settings?_of_link (hsound : before.database.Sound) {controller : Int} {p : RegionPriority}
    {outcome : Merge} (h : link controller p env before = .ok outcome after) :
    (∃ row ∈ before.database.contents.get .region, row.origin = p.region) ∧
    ∀ region ∈ before.database.contents.get .region,
      after.database.contents.settings? .link ⟨region.id, controller⟩ =
        (if p.region = region.origin then some p.priority else none).or
          (before.database.contents.settings? .link ⟨region.id, controller⟩) := by
  obtain ⟨id, middle, hreferred, hmerge⟩ := of_bind_eq_ok h
  obtain ⟨found, hfound, rfl, rfl⟩ :=
    of_number_eq_ok Storable.isExact_regionKey (of_about_eq_ok hreferred)
  have hmem := List.mem_of_find?_eq_some hfound
  have horigin : found.origin = p.region := by simpa using List.find?_some hfound
  refine ⟨⟨found, hmem, horigin⟩, fun region hregion => ?_⟩
  rw [Links.settings?_of_merge hsound hmerge]
  by_cases hsame : p.region = region.origin
  · obtain rfl : found = region :=
      hsound.unique.eq_of_origin Relation.region_isKeyed hmem hregion (horigin.trans hsame)
    rw [Function.update_self, if_pos hsame]
    rfl
  · have hne : region.id ≠ found.id := fun hid =>
      hsame (by rw [hsound.distinct.eq hregion hmem hid, horigin])
    rw [Function.update_of_ne (by simp [hne]), if_neg hsame]
    rfl

/-- All priorities: the regions are there, and the last priority of each counts. -/
theorem settings?_of_links (hsound : before.database.Sound) {controller : Int}
    {priorities : List RegionPriority} {outcomes : List Merge}
    (h : each (link controller) priorities env before = .ok outcomes after) :
    (∀ p ∈ priorities, ∃ row ∈ before.database.contents.get .region, row.origin = p.region) ∧
    ∀ region ∈ before.database.contents.get .region,
      after.database.contents.settings? .link ⟨region.id, controller⟩ =
        (lastRequested? priorities region.origin).or
          (before.database.contents.settings? .link ⟨region.id, controller⟩) := by
  induction priorities generalizing before outcomes with
  | nil =>
    cases h
    exact ⟨nofun, fun _ _ => rfl⟩
  | cons p rest ih =>
    obtain ⟨outcome, middle, hfirst, h⟩ := of_bind_eq_ok h
    obtain ⟨later, done, hrest, hdone⟩ := of_bind_eq_ok h
    cases hdone
    obtain ⟨hexists, hset⟩ := settings?_of_link hsound hfirst
    have hevolution := evolution_of_ok (link_within (q := .region) (by decide)) hfirst
    have hregions := hevolution.get_eq
    have hmiddle : middle.database.Sound := (hevolution.mono fun _ _ => trivial).sound hsound
    obtain ⟨hexist, hsets⟩ := ih hmiddle hrest
    rw [hregions] at hexist hsets
    refine ⟨fun q hq => ?_, fun region hregion => ?_⟩
    · rcases List.mem_cons.1 hq with rfl | hq
      · exact hexists
      · exact hexist q hq
    · rw [hsets region hregion, hset region hregion, lastRequested?_cons, Option.or_assoc]

/-- A new controller has, for each region that is asked for, a link with the last priority. -/
theorem settings?_of_add (hsound : before.database.Sound) {draft : Controller.Draft}
    {controller : Controller} (h : add draft env before = .ok controller after) :
    (∀ p ∈ draft.priorities,
      ∃ row ∈ after.database.contents.get .region, row.origin = p.region) ∧
    ∀ region ∈ after.database.contents.get .region,
      after.database.contents.settings? .link ⟨region.id, controller.row.id⟩ =
        lastRequested? draft.priorities region.origin := by
  obtain ⟨_, start, hreferred, hrest⟩ := of_bind_eq_ok (of_transaction_eq_ok h)
  obtain ⟨_, -, -, rfl⟩ := of_queryOne_eq_ok (of_about_eq_ok hreferred)
  obtain ⟨row, inserted, hinsert, hrest⟩ := of_bind_eq_ok hrest
  obtain ⟨_, middle, hlinks, hread⟩ := of_bind_eq_ok hrest
  obtain ⟨hread, -⟩ := of_decoded_eq_ok hread
  obtain ⟨rfl, -, hid⟩ := of_withId_eq_ok (fun c => c.showsRows_controllers _) hread
  have hinserts : Within env (fun _ => True) (insert draft.entry) :=
    within_insert draft.entry fun _ _ => trivial
  have hinsertedSound := (evolution_of_ok hinserts hinsert).sound hsound
  have hspared : Within env (Statement.Spares .link) (insert draft.entry) :=
    within_insert draft.entry (allowsInsert_spares (by decide))
  have hlink := (evolution_of_ok hspared hinsert).get_eq
  have hregions := (evolution_of_ok (within_each fun p _ => link_within (by decide)) hlinks).get_eq
    (q := .region)
  obtain ⟨hexist, hsets⟩ := settings?_of_links hinsertedSound hlinks
  rw [← hregions] at hexist hsets
  refine ⟨hexist, fun region hregion => ?_⟩
  have hnone : inserted.database.contents.settings? .link ⟨region.id, row.id⟩ = none := by
    refine Contents.settings?_eq_none.2 fun old hold horigin => ?_
    rw [hlink] at hold
    obtain ⟨host, hhost, hhostId⟩ :=
      (Database.consistent_of_sound hsound).controllerOfLink old hold
    have hnew := (inserted_of_insert (.refl _) hinsert (.refl _)).id_ne hsound host hhost
    rw [horigin] at hhostId
    exact hnew hhostId
  rw [hid, hsets region hregion, hnone, Option.or_none]

end Controllers

/-! ## What a controller shows -/

/-- Whether a controller shows the regions that are asked for, each once and with the priority that
is asked last. -/
structure Controller.Serves (shown : Controller) (priorities : List RegionPriority) : Prop where
  priority : ∀ region priority,
    (∃ link ∈ shown.links, link.row.settings = priority ∧
      ∃ other, link.region.map Region.row = some other ∧ other.origin = region) ↔
    lastRequested? priorities region = some priority
  once : (shown.links.map fun link => link.region.map fun region => region.row.origin).Nodup

/-- No two links of a side have partners of the same origin. -/
theorem Contents.IsSide.nodup_origins {q : Relation} {c : Contents}
    {root partner : Row .link → Int} {id : Int} {partnerOf : Link → Option (Row q)}
    {links : List Link} (h : c.IsSide root partner id partnerOf links) (hunique : c.Unique)
    (hkeyed : q.IsKeyed) :
    (links.map fun link => (partnerOf link).map fun row => row.origin).Nodup := by
  refine List.Nodup.map_on ?_ (List.Nodup.of_map _ h.distinct)
  intro a ha b hb hsame
  obtain ⟨first, hfirst, hfirstOf, -⟩ := h.partner a ha
  obtain ⟨second, hsecond, hsecondOf, -⟩ := h.partner b hb
  rw [hfirstOf, hsecondOf] at hsame
  obtain rfl := hunique.eq_of_origin hkeyed hfirst hsecond (Option.some.inj hsame)
  exact List.inj_on_of_nodup_map h.distinct ha hb (hfirstOf.trans hsecondOf.symm)

/-- A controller whose links have the priorities that are asked for shows these. -/
theorem Database.serves_controllerAlone {db : Database} (h : db.Sound) {row : Row .controller}
    (hrow : row ∈ db.contents.controller) {priorities : List RegionPriority}
    (hexist : ∀ p ∈ priorities, ∃ region ∈ db.contents.region, region.origin = p.region)
    (hsets : ∀ region ∈ db.contents.region,
      db.contents.settings? .link ⟨region.id, row.id⟩ = lastRequested? priorities region.origin) :
    (db.contents.controllerAlone (Preload.controller "") row).Serves priorities := by
  have hside := Contents.isSide_controllerAlone h hrow
  have hset {region : Row .region} (hregion : region ∈ db.contents.region) {priority : Int} :
      lastRequested? priorities region.origin = some priority ↔
        ∃ link ∈ db.contents.link,
          link.origin = ⟨region.id, row.id⟩ ∧ link.settings = priority := by
    rw [← hsets region hregion]
    exact Contents.settings?_eq_some h.unique Relation.link_isKeyed
  constructor
  · intro region priority
    constructor
    · rintro ⟨link, hlink, rfl, other, hother, rfl⟩
      obtain ⟨hmem, hroot, found, hfound, hid, rfl⟩ :=
        (hside.exists_link_iff h.distinct (P := fun found => found = other)).1
          ⟨link, hlink, rfl, other, hother, rfl⟩
      refine (hset hfound).2 ⟨link.row, hmem, ?_, rfl⟩
      rw [hid, ← hroot]
    · intro hlast
      obtain ⟨p, hp, rfl⟩ := exists_of_lastRequested? hlast
      obtain ⟨other, hother, horigin⟩ := hexist p hp
      rw [← horigin] at hlast
      obtain ⟨found, hfound, hkey, hpriority⟩ := (hset hother).1 hlast
      obtain ⟨link, hlink, rfl, partner, hpartner, heq⟩ :=
        (hside.exists_link_iff h.distinct (P := fun found => found = other)).2
          ⟨hfound, congrArg Link.Origin.controller hkey, other, hother,
            (congrArg Link.Origin.region hkey).symm, rfl⟩
      exact ⟨link, hlink, hpriority, partner, hpartner, heq ▸ horigin⟩
  · have horigins (link : Link) : (link.region.map fun region => region.row.origin) =
        (link.region.map Region.row).map fun row => row.origin := by
      rw [Option.map_map]
      rfl
    rw [funext horigins]
    exact hside.nodup_origins h.unique Relation.region_isKeyed

end ControlPlane
