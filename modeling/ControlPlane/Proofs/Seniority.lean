/-
Which region of a provider is found.

Of the regions with a name on clouds of a provider (`Contents.Offers`), the one is found that was
created before the others that are stored (`Deployment.CreatedBefore`).  Numbers are drawn in the
order of creation and never given again, so that is the one with the smallest number.  It stays the
one unless it goes or a cloud changes its provider: a region that is stored keeps its cloud
(`Database.KeepsClouds`), so whatever is offered later and was there before was offered before.
-/
import ControlPlane.Proofs.Provisioning
import ControlPlane.Proofs.Timestamps

namespace ControlPlane

open Script
open Database (Evolution)

/-! ## Rows in the order of their creation -/

namespace Deployment

theorem run_concat (dep : Deployment) (steps : List Step) (step : Step) :
    dep.run (steps ++ [step]) = (dep.run steps).after step := by
  rw [run_append]
  rfl

theorem NeverResets.append {dep : Deployment} {first second : List Step}
    (h : dep.NeverResets first) (h' : (dep.run first).NeverResets second) :
    dep.NeverResets (first ++ second) := by
  induction first generalizing dep with
  | nil => exact h'
  | cons step first ih => exact ⟨h.1, ih h.2 h'⟩

/-- Whether a row was created before another: at some time, with no reset since then, it was stored
and the other was not yet. -/
def CreatedBefore (start : Deployment) (steps : List Step) {r : Relation} (a b : Row r) : Prop :=
  ∃ first second, steps = first ++ second ∧ (start.run first).NeverResets second ∧
    (∃ row ∈ (start.run first).rows r, row.id = a.id) ∧
    ∀ row ∈ (start.run first).rows r, row.id ≠ b.id

variable {start : Deployment} {steps : List Step} {r : Relation} {a b : Row r}

/-- What was created before has the smaller number. -/
theorem CreatedBefore.id_lt (h : CreatedBefore start steps a b) (hstart : start.Reachable)
    (hb : b ∈ (start.run steps).rows r) : a.id < b.id := by
  obtain ⟨first, second, rfl, hstays, ⟨row, hrow, hid⟩, hnew⟩ := h
  rw [run_append] at hb
  have hdrawn := ((hstart.run first).sound.numbered r row hrow).2
  by_contra hle
  obtain ⟨old, hold, hsame, -⟩ := (follows_run hstays).same r b hb (by omega)
  exact hnew old hold hsame

theorem CreatedBefore.append {step : Step} {a' b' : Row r} (h : CreatedBefore start steps a b)
    (hstays : ¬(start.run steps).IsReset step) (ha : a.id = a'.id) (hb : b.id = b'.id) :
    CreatedBefore start (steps ++ [step]) a' b' := by
  obtain ⟨first, second, rfl, hsecond, hstored, hnew⟩ := h
  rw [run_append] at hstays
  refine ⟨first, second ++ [step], List.append_assoc .., hsecond.append ⟨hstays, trivial⟩, ?_, ?_⟩
  · rwa [← ha]
  · rwa [← hb]

/-- A row with a number that had not been drawn was created in this step. -/
theorem creates_of_undrawn {dep : Deployment} (hsound : dep.server.database.Sound) {step : Step}
    (hstays : ¬dep.IsReset step) {row : Row r} (hrow : row ∈ (dep.after step).rows r)
    (hundrawn : dep.server.database.sequences.get r ≤ row.id) :
    ∃ now course op, step = .perform now course op ∧ op.Creates r row.origin := by
  have hnew : ∀ old ∈ dep.rows r, old.id ≠ row.id := fun old hold heq => by
    have hdrawn := (hsound.numbered r old hold).2
    omega
  unfold rows at hrow hnew
  rcases database_after dep step with heq | ⟨hreset, -⟩ | ⟨now, course, op, hstep, heq⟩
  · rw [heq] at hrow
    exact absurd rfl (hnew row hrow)
  · exact absurd hreset hstays
  · rw [heq] at hrow
    rcases dep.store.perform_stemsFrom now course op _ r row hrow with
      ⟨old, hold, hid, -⟩ | ⟨⟨-, hcreates⟩, -⟩
    · exact absurd hid (hnew old hold)
    · exact ⟨now, course, op, hstep, hcreates⟩

/-- Of two rows that no operation creates at once, the one with the smaller number was created
before. -/
theorem createdBefore_of_lt {settings : StoreSettings}
    (ha : a ∈ ((initial settings).run steps).rows r)
    (hb : b ∈ ((initial settings).run steps).rows r) (hlt : a.id < b.id)
    (halone : ∀ op : Operation, op.Creates r a.origin → ¬op.Creates r b.origin) :
    CreatedBefore (initial settings) steps a b := by
  induction steps using List.reverseRecOn generalizing a b with
  | nil =>
    have hnone : ((initial settings).run []).rows r = [] := Database.get_empty r
    rw [hnone] at ha
    cases ha
  | append_singleton steps step ih =>
    have hreachable : ((initial settings).run steps).Reachable := ⟨settings, steps, rfl⟩
    rw [run_concat] at ha hb
    generalize hdep : (initial settings).run steps = dep at ha hb ih hreachable
    have hsound := hreachable.sound
    have hstays : ¬dep.IsReset step := by
      intro hreset
      rw [rows, database_of_isReset hreset, Database.get_empty] at ha
      cases ha
    have hfollows := follows_after hstays
    rcases lt_or_ge b.id (dep.server.database.sequences.get r) with hb' | hb'
    · obtain ⟨olda, holda, hida, horigina, -⟩ := hfollows.same r a ha (by omega)
      obtain ⟨oldb, holdb, hidb, horiginb, -⟩ := hfollows.same r b hb hb'
      have hbefore := ih holda holdb (by omega) (by rwa [horigina, horiginb])
      exact hbefore.append (hdep ▸ hstays) hida hidb
    rcases lt_or_ge a.id (dep.server.database.sequences.get r) with ha' | ha'
    · -- The step creates the later row, and the earlier one was there.
      obtain ⟨olda, holda, hida, -⟩ := hfollows.same r a ha ha'
      subst hdep
      refine ⟨steps, [step], rfl, ⟨hstays, trivial⟩, ⟨olda, holda, hida⟩, fun row hrow => ?_⟩
      have hdrawn := (hsound.numbered r row hrow).2
      omega
    · obtain ⟨now, course, op, rfl, hcreates⟩ := creates_of_undrawn hsound hstays ha ha'
      obtain ⟨_, _, _, heq, hcreates'⟩ := creates_of_undrawn hsound hstays hb hb'
      cases heq
      exact absurd hcreates' (halone op hcreates)

end Deployment

/-! ## Regions of a provider -/

/-- Whether a region is stored under a name, on a cloud of a provider. -/
def Contents.Offers (c : Contents) (provider name : String) (row : Row .region) : Prop :=
  row ∈ c.get .region ∧ row.origin.region = name ∧
    ∃ cloud ∈ c.get .cloud, cloud.origin = row.origin.cloud ∧ cloud.settings.provider = provider

/-- No operation creates two regions of one name. -/
theorem Operation.eq_of_creates_region {op : Operation} {a b : RegionKey}
    (ha : op.Creates .region a) (hb : op.Creates .region b) (hname : a.region = b.region) :
    a = b := by
  have hsame : ∀ {cloud : String} {drafts : List Region.Draft},
      a ∈ drafts.map (fun region => ⟨cloud, region.name⟩) →
      b ∈ drafts.map (fun region => ⟨cloud, region.name⟩) → a = b := by
    intro cloud drafts ha hb
    obtain ⟨one, -, rfl⟩ := List.mem_map.1 ha
    obtain ⟨other, -, rfl⟩ := List.mem_map.1 hb
    exact congrArg (RegionKey.mk cloud) hname
  cases op with
  | addCloud draft => exact hsame ha hb
  | reconcileCloud snapshot => exact hsame ha hb
  | addRegionToCloud entry => exact (List.mem_singleton.1 ha).trans (List.mem_singleton.1 hb).symm
  | addRegion entry => exact (List.mem_singleton.1 ha).trans (List.mem_singleton.1 hb).symm
  | _ => cases ha

namespace Contents

variable {c : Contents} {provider name : String}

/-- The rows of which the first one is found. -/
def offered (c : Contents) (provider name : String) : List (Row .region) :=
  sortBy Row.byId ((c.get .region).filter fun row =>
    row.origin.region = name && ((c.get .cloud).filter fun cloud =>
      cloud.settings.provider = provider).any fun cloud => cloud.origin = row.origin.cloud)

theorem mem_offered {row : Row .region} :
    row ∈ c.offered provider name ↔ c.Offers provider name row := by
  rw [offered, mem_sortBy, List.mem_filter, Offers, Bool.and_eq_true_iff, decide_eq_true_iff,
    List.any_eq_true]
  simp only [List.mem_filter, decide_eq_true_iff]
  refine and_congr_right fun _ => and_congr_right fun _ => exists_congr fun cloud => ?_
  exact and_assoc.trans (and_congr_right fun _ => and_comm)

section

variable (hc : c.AllDistinct)

include hc

theorem regionAtProvider?_eq : c.regionAtProvider? provider name =
    (c.offered provider name).head?.map (c.regionAlone (Preload.region "")) := by
  rw [Option.map_eq_bind]
  exact congrArg (Option.bind (c.offered provider name).head?) (funext hc.regionOfRow?_eq)

/-- The region that is found has the smallest number of all that are offered. -/
theorem regionAtProvider?_eq_some {region : Region}
    (h : c.regionAtProvider? provider name = some region) :
    c.Offers provider name region.row ∧ c.entityOf? region.row = some (.region region) ∧
      ∀ other, c.Offers provider name other → region.row.id ≤ other.id := by
  rw [regionAtProvider?_eq hc, Option.map_eq_some_iff] at h
  obtain ⟨row, hhead, rfl⟩ := h
  refine ⟨mem_offered.1 (List.mem_of_head? hhead), rfl, fun other hother => ?_⟩
  show row.id ≤ other.id
  obtain ⟨rest, hrest⟩ := List.head?_eq_some_iff.1 hhead
  have hmem := mem_offered.2 hother
  have hsorted : (c.offered provider name).Pairwise fun a b => (Row.byId a b).isLE = true :=
    sortBy_pairwise Row.byId _
  rw [hrest] at hmem hsorted
  rcases List.mem_cons.1 hmem with rfl | hlater
  · exact Int.le_refl _
  · exact Int.isLE_compare.1 ((List.pairwise_cons.1 hsorted).1 other hlater)

theorem regionAtProvider?_eq_none :
    c.regionAtProvider? provider name = none ↔ ∀ row, ¬c.Offers provider name row := by
  rw [regionAtProvider?_eq hc, Option.map_eq_none_iff, List.head?_eq_none_iff,
    List.eq_nil_iff_forall_not_mem]
  exact forall_congr' fun row => not_congr mem_offered

end

end Contents

/-! ## Rows that stay -/

namespace Database

variable {now : Timestamp} {db middle after : Database}

/-- A row stays, with its number and its origin, unless it goes with what a delete means. -/
theorem Write.exists_same {r : Relation} {row : Row r} {statement : Statement} (hsound : db.Sound)
    (hwrite : Write now statement db after) (hrow : row ∈ db.contents.get r)
    (hstays : ∀ q (which : Row q → Bool), statement = .delete which →
      ¬Contents.Goes db.contents (Contents.Meant which) r row) :
    ∃ same ∈ after.contents.get r, same.id = row.id ∧ same.origin = row.origin := by
  cases statement with
  | insert e =>
    have hretains : (Statement.insert e).Retains r := trivial
    exact ⟨row, hwrite.mem hretains hrow, rfl, rfl⟩
  | update which change =>
    cases hwrite with
    | update hupdate =>
      rcases Contents.update_cases hupdate with ⟨-, rfl⟩ | ⟨found, new, hfind, -, hnew, -, rfl⟩
      · exact ⟨row, hrow, rfl, rfl⟩
      refine PerRelation.get_set_cases (P := fun q (rows : List (Row q)) =>
        ∀ row ∈ db.contents.get q, ∃ same ∈ rows, same.id = row.id ∧ same.origin = row.origin)
        (fun row hrow => ?_) (fun _ _ row hrow => ⟨row, hrow, rfl, rfl⟩) r row hrow
      refine ⟨_, List.mem_map_of_mem hrow, ?_⟩
      split
      next hid =>
        have hfound : row = found := hsound.distinct.eq hrow (List.mem_of_find?_eq_some hfind)
          (by rw [hid, hnew])
        rw [hnew, hfound]
        exact ⟨rfl, rfl⟩
      next => exact ⟨rfl, rfl⟩
  | @delete q which =>
    cases hwrite with
    | delete hdelete =>
      have hleft :=
        Contents.without_of_delete hsound.unique hsound.closed hsound.distinct hdelete r
      exact ⟨row, (hleft.mem_iff row hrow).2 (hstays q which rfl), rfl, rfl⟩

/-- Whether the regions that stay keep their clouds, and these are as they were. -/
def KeepsClouds (before after : Database) : Prop :=
  ∀ region ∈ before.contents.get .region, ∀ same ∈ after.contents.get .region,
    same.id = region.id → ∀ cloud ∈ after.contents.get .cloud,
      cloud.origin = region.origin.cloud → cloud ∈ before.contents.get .cloud

theorem KeepsClouds.of_subset
    (h : after.contents.get .cloud ⊆ db.contents.get .cloud) : KeepsClouds db after :=
  fun _ _ _ _ _ _ hcloud _ => h hcloud

theorem KeepsClouds.trans (h : KeepsClouds db middle) (h' : KeepsClouds middle after)
    (hsound : db.Sound) (hfollows : middle.Follows db) (hfollows' : after.Follows middle) :
    KeepsClouds db after := by
  intro region hregion same hsame hid cloud hcloud horigin
  have hdrawn := (hsound.numbered _ region hregion).2
  have hgone := hfollows.drawn .region
  obtain ⟨between, hbetween, hid', -⟩ := hfollows'.same _ same hsame (by omega)
  have hkept := hfollows.kept hsound hregion hbetween (hid'.trans hid)
  have hmiddle := h' between hbetween same hsame hid'.symm cloud hcloud
    (horigin.trans (by rw [hkept.1]))
  exact h region hregion between hbetween (hid'.trans hid) cloud hmiddle horigin

/-- Whether the region under a key is left, if there is one, and all regions that are left keep
their clouds. -/
structure Keeps (key : RegionKey) (before after : Database) : Prop where
  follows : after.Follows before
  region : ∀ row ∈ before.contents.get .region, row.origin = key →
    ∃ same ∈ after.contents.get .region, same.id = row.id ∧ same.origin = row.origin
  clouds : KeepsClouds before after

variable {op : Operation} {access : Access} {key : RegionKey} {statement : Statement}

theorem Keeps.of_contents_eq (hfollows : after.Follows db) (h : after.contents = db.contents) :
    Keeps key db after where
  follows := hfollows
  region row hrow _ := ⟨row, by rwa [h], rfl, rfl⟩
  clouds := .of_subset (by rw [h]; exact List.Subset.refl _)

theorem Keeps.trans (hsound : db.Sound) (h : Keeps key db middle) (h' : Keeps key middle after) :
    Keeps key db after where
  follows := h'.follows.trans h.follows
  region row hrow horigin := by
    obtain ⟨between, hbetween, hid, hsame⟩ := h.region row hrow horigin
    obtain ⟨same, hmem, hid', hsame'⟩ := h'.region between hbetween (hsame.trans horigin)
    exact ⟨same, hmem, hid'.trans hid, hsame'.trans hsame⟩
  clouds := h.clouds.trans h'.clouds hsound h.follows h'.follows

/-- A region stays unless it is deleted, or its cloud is. -/
theorem Write.exists_region (hsound : db.Sound) (hwrites : op.Writes access statement)
    (hwrite : Write now statement db after) (hregion : op ≠ .deleteRegion key)
    (hcloud : op ≠ .deleteCloud key.cloud) {row : Row .region}
    (hrow : row ∈ db.contents.get .region) (horigin : row.origin = key) :
    ∃ same ∈ after.contents.get .region, same.id = row.id ∧ same.origin = row.origin := by
  refine hwrite.exists_same hsound hrow fun q which hstatement hgoes => ?_
  subst hstatement
  have hremoves : op.Removes q which := hwrites
  rcases Contents.goes_region.1 hgoes with hmeant | ⟨cloud, -, hname, hmeant⟩
  · cases hmeant with
    | intro hwhich =>
      obtain ⟨other, rfl, rfl⟩ := hremoves
      exact hregion (by rw [← horigin, of_decide_eq_true hwhich])
  · cases hmeant with
    | intro hwhich =>
      obtain ⟨name, rfl, rfl⟩ := hremoves
      exact hcloud (by rw [← horigin, hname, of_decide_eq_true hwhich])

/-- A region refers to the cloud that it had, which no other can replace while the region is
there. -/
theorem Write.keepsClouds (hsound : db.Sound) (hwrites : op.Writes access statement)
    (hwrite : Write now statement db after)
    (hupdate : ∀ name settings, op ≠ .updateCloud name settings) : KeepsClouds db after := by
  have hretained : statement.Retains .cloud → KeepsClouds db after := by
    intro hretains region hregion same hsame hid cloud hcloud horigin
    obtain ⟨own, hown, hname⟩ := (consistent_of_sound hsound).cloudOfRegion region hregion
    have heq := (hwrite.sound hsound).unique.eq_of_origin Relation.cloud_isKeyed hcloud
      (hwrite.mem hretains hown) (horigin.trans hname.symm)
    exact heq ▸ hown
  cases statement with
  | insert e => exact hretained trivial
  | update which change =>
    refine hretained ?_
    rintro rfl
    obtain ⟨name, settings, rfl⟩ := hwrites
    exact hupdate name settings rfl
  | delete which =>
    cases hwrite with
    | delete hdelete =>
      rcases Contents.delete_cases hdelete with ⟨-, rfl⟩ | ⟨-, hsublist, -⟩
      · exact .of_subset (List.Subset.refl _)
      · exact .of_subset (hsublist _).subset

theorem Evolution.keeps (h : Evolution now (op.Writes access) db after) (hsound : db.Sound)
    (hregion : op ≠ .deleteRegion key) (hcloud : op ≠ .deleteCloud key.cloud)
    (hupdate : ∀ name settings, op ≠ .updateCloud name settings) : Keeps key db after := by
  induction h with
  | refl db => exact .of_contents_eq (follows_refl db) rfl
  | write hwrites hwrite =>
    exact ⟨(Evolution.write hwrites hwrite).follows,
      fun _ hrow horigin => hwrite.exists_region hsound hwrites hregion hcloud hrow horigin,
      hwrite.keepsClouds hsound hwrites hupdate⟩
  | trans first _ ihfirst ihsecond =>
    exact (ihfirst hsound).trans hsound (ihsecond (first.sound hsound))
  | undo body => exact .of_contents_eq body.undo.follows rfl

end Database

/-! ## What stays the one that is found -/

namespace Database.Keeps

variable {key : RegionKey} {before after : Database} {provider name : String}

/-- What was offered under the key is still offered. -/
theorem offers (h : Keeps key before after) (hbefore : before.Sound) (hafter : after.Sound)
    {row : Row .region} (hoffers : before.contents.Offers provider name row)
    (horigin : row.origin = key) :
    ∃ same, after.contents.Offers provider name same ∧ same.id = row.id := by
  obtain ⟨hrow, hname, cloud, hcloud, hhosts, hprovider⟩ := hoffers
  obtain ⟨same, hsame, hid, hkey⟩ := h.region row hrow horigin
  obtain ⟨own, hown, hhosts'⟩ := (consistent_of_sound hafter).cloudOfRegion same hsame
  rw [hkey] at hhosts'
  have hcloud' := h.clouds row hrow same hsame hid own hown hhosts'
  have heq := hbefore.unique.eq_of_origin Relation.cloud_isKeyed hcloud' hcloud
    (hhosts'.trans hhosts.symm)
  exact ⟨same, ⟨hsame, by rw [hkey, hname], own, hown, by rw [hkey, hhosts'], by rwa [heq]⟩, hid⟩

/-- What is offered and was there before was offered before. -/
theorem offered (h : Keeps key before after) {row : Row .region}
    (hoffers : after.contents.Offers provider name row)
    (hdrawn : row.id < before.sequences.get .region) :
    ∃ old, before.contents.Offers provider name old ∧ old.id = row.id ∧
      old.origin = row.origin := by
  obtain ⟨hrow, hname, cloud, hcloud, hhosts, hprovider⟩ := hoffers
  obtain ⟨old, hold, hid, hkey, -⟩ := h.follows.same _ row hrow hdrawn
  rw [← hkey] at hname hhosts
  exact ⟨old, ⟨hold, hname, cloud, h.clouds old hold row hrow hid.symm cloud hcloud hhosts, hhosts,
    hprovider⟩, hid, hkey⟩

/-- The region that is found stays the one. -/
theorem regionAtProvider? {region : Region} (hbefore : before.Sound) (hafter : after.Sound)
    (hfound : before.contents.regionAtProvider? provider name = some region)
    (h : Keeps region.row.origin before after) :
    ∃ same, after.contents.regionAtProvider? provider name = some same ∧
      same.row.id = region.row.id ∧ same.row.origin = region.row.origin := by
  obtain ⟨hoffers, -, hleast⟩ := Contents.regionAtProvider?_eq_some hbefore.allDistinct hfound
  obtain ⟨kept, hkept, hid⟩ := h.offers hbefore hafter hoffers rfl
  cases hsame : after.contents.regionAtProvider? provider name with
  | none =>
    exact absurd hkept ((Contents.regionAtProvider?_eq_none hafter.allDistinct).1 hsame kept)
  | some same =>
    obtain ⟨hoffers', -, hleast'⟩ :=
      Contents.regionAtProvider?_eq_some hafter.allDistinct hsame
    have hdrawn := (hbefore.numbered _ region.row hoffers.1).2
    have hle := hleast' kept hkept
    obtain ⟨old, hold, hid', horigin⟩ := h.offered hoffers' (by omega)
    have hle' := hleast old hold
    have heq : old = region.row := hbefore.distinct.eq hold.1 hoffers.1 (by omega)
    exact ⟨same, rfl, by rw [← heq, hid'], by rw [← heq, horigin]⟩

end Database.Keeps

namespace Deployment

/-- Whether a step drops everything, deletes a region or its cloud, or updates any cloud. -/
def Unsettles (dep : Deployment) (key : RegionKey) (step : Step) : Prop :=
  dep.IsReset step ∨ ∃ now course op reply, step = .perform now course op ∧
    (dep.perform now course op).1 = .ok reply ∧
      (op = .deleteRegion key ∨ op = .deleteCloud key.cloud ∨
        ∃ name settings, op = .updateCloud name settings)

/-- Whether none of several steps does so. -/
def NeverUnsettles (dep : Deployment) (key : RegionKey) : List Step → Prop
  | [] => True
  | step :: steps => ¬dep.Unsettles key step ∧ (dep.after step).NeverUnsettles key steps

variable {dep : Deployment} {key : RegionKey}

theorem keeps_after (hsound : dep.server.database.Sound) {step : Step}
    (h : ¬dep.Unsettles key step) :
    dep.server.database.Keeps key (dep.after step).server.database := by
  have hstays : ¬dep.IsReset step := fun hreset => h (.inl hreset)
  have hfollows := follows_after hstays
  rcases database_after dep step with heq | ⟨hreset, -⟩ | ⟨now, course, op, rfl, heq⟩
  · exact .of_contents_eq hfollows (by rw [heq])
  · exact absurd hreset hstays
  cases hanswer : (dep.store.perform now course op dep.server.database).1 with
  | error e => exact .of_contents_eq hfollows (by rw [heq, Store.contents_of_perform_error hanswer])
  | ok reply =>
    have hspares : ¬(op = .deleteRegion key ∨ op = .deleteCloud key.cloud ∨
        ∃ name settings, op = .updateCloud name settings) :=
      fun hop => h (.inr ⟨now, course, op, reply, rfl, hanswer, hop⟩)
    simp only [not_or, not_exists] at hspares
    obtain ⟨hregion, hcloud, hupdate⟩ := hspares
    have hwithin : Within (dep.store.environment now course)
        (op.Writes dep.store.settings.defaultAccess) op.plan.script := op.within_writes _
    rw [heq]
    exact (Store.perform_evolution_of_within (fun _ => hwithin) dep.server.database).keeps hsound
      hregion hcloud hupdate

theorem Reachable.keeps_run (hreachable : dep.Reachable) {steps : List Step}
    (h : dep.NeverUnsettles key steps) :
    dep.server.database.Keeps key (dep.run steps).server.database := by
  induction steps generalizing dep with
  | nil => exact .of_contents_eq (Database.follows_refl _) rfl
  | cons step steps ih =>
    exact (keeps_after hreachable.sound h.1).trans hreachable.sound (ih (hreachable.run [step]) h.2)

/-! ## What is found -/

section

variable (hready : dep.store.lifecycle = .ready) {provider name : String}
  (hprovider : provider ≠ "") (hname : name ≠ "") (hnul : Text.IsNulFree provider)
  (hnul' : Text.IsNulFree name)

include hready hprovider hname hnul hnul'

/-- What a ready store answers is what is found in its database. -/
theorem reply_findRegion (now : Timestamp) :
    (dep.perform now .undisturbed (.findRegion provider name)).1 =
      match dep.server.database.contents.regionAtProvider? provider name with
      | some region => .ok (.ofRegion region)
      | none =>
        .error ⟨"cloud_regions.find_region", .notFound .region (joinKey [provider, name])⟩ := by
  have hvalid : (Operation.findRegion provider name).plan.subject.isValid = true := by
    refine Subject.isValid_ofParts.2 fun hempty => ?_
    rcases List.mem_pair.1 hempty with hempty | hempty
    · exact hprovider hempty.symm
    · exact hname hempty.symm
  have hkept := Storable.stored?_pair (Storable.stored?_text hnul) (Storable.stored?_text hnul')
  rw [reply_perform]
  cases hfound : dep.server.database.contents.regionAtProvider? provider name with
  | some region =>
    exact congrArg Prod.fst
      (Store.perform_ok hready hvalid (map_ok (queryOne_ok rfl hkept hfound) _))
  | none =>
    exact congrArg Prod.fst
      (Store.perform_of_error hready hvalid (map_error (queryOne_of_none rfl hkept hfound) _))

theorem findRegion_eq_ok {now : Timestamp} {region : Region} :
    (dep.perform now .undisturbed (.findRegion provider name)).1 = .ok (.ofRegion region) ↔
      dep.server.database.contents.regionAtProvider? provider name = some region := by
  rw [reply_findRegion hready hprovider hname hnul hnul']
  cases dep.server.database.contents.regionAtProvider? provider name with
  | some found =>
    constructor
    · rintro ⟨⟩
      rfl
    · rintro ⟨⟩
      rfl
  | none => exact iff_of_false nofun nofun

theorem findRegion_eq_notFound (hc : dep.server.database.contents.AllDistinct)
    {now : Timestamp} :
    (dep.perform now .undisturbed (.findRegion provider name)).1 =
        .error ⟨"cloud_regions.find_region", .notFound .region (joinKey [provider, name])⟩ ↔
      ∀ row, ¬dep.server.database.contents.Offers provider name row := by
  rw [reply_findRegion hready hprovider hname hnul hnul', ← Contents.regionAtProvider?_eq_none hc]
  cases dep.server.database.contents.regionAtProvider? provider name with
  | some region => exact iff_of_false nofun nofun
  | none => exact iff_of_true rfl rfl

end

/-- Of two regions of one name and one provider, the one with the smaller number was created
before. -/
theorem createdBefore_of_offers {settings : StoreSettings} {steps : List Step}
    {provider name : String} {a b : Row .region}
    (ha : ((initial settings).run steps).server.database.contents.Offers provider name a)
    (hb : ((initial settings).run steps).server.database.contents.Offers provider name b)
    (hle : a.id ≤ b.id) (hne : b ≠ a) :
    CreatedBefore (initial settings) steps a b ∧ ¬CreatedBefore (initial settings) steps b a := by
  have hstart : (initial settings).Reachable := ⟨settings, [], rfl⟩
  have hsound := (hstart.run steps).sound
  have hlt : a.id < b.id :=
    lt_of_le_of_ne hle fun hid => hne (hsound.distinct.eq hb.1 ha.1 hid.symm)
  refine ⟨createdBefore_of_lt ha.1 hb.1 hlt fun op hcreates hcreates' => hne ?_, fun hafter => ?_⟩
  · have hkey := Operation.eq_of_creates_region hcreates hcreates' (ha.2.1.trans hb.2.1.symm)
    exact hsound.unique.eq_of_origin Relation.region_isKeyed hb.1 ha.1 hkey.symm
  · exact lt_asymm hlt (hafter.id_lt hstart ha.1)

/-- A region that is offered is read under its key. -/
theorem Reachable.reply_getRegion (hreachable : dep.Reachable)
    (hready : dep.store.lifecycle = .ready) {provider name : String} (hname : name ≠ "")
    {region : Region}
    (hoffers : dep.server.database.contents.Offers provider name region.row)
    (hentity : dep.server.database.contents.entityOf? region.row = some (.region region))
    (now : Timestamp) :
    (dep.perform now .undisturbed (.getRegion region.row.origin)).1 = .ok (.ofRegion region) := by
  obtain ⟨hrow, hnamed, cloud, hcloud, hhosts, -⟩ := hoffers
  have hcloudName : "" ∉ keyParts .cloud cloud.origin :=
    hreachable.keyParts_nonempty_of_ne (r := .cloud) nofun nofun hcloud
  have hparts : "" ∉ keyParts .region region.row.origin := by
    intro hempty
    rcases List.mem_pair.1 hempty with hempty | hempty
    · rw [hempty, ← hhosts] at hcloudName
      exact hcloudName List.mem_cons_self
    · exact hname (hnamed.symm.trans hempty.symm)
  exact hreachable.perform_retrieval (.region region.row.origin) hready hrow rfl hparts hentity now

/-- A ready store answers that there is no region of a name on clouds of a provider exactly if none
is stored.  If there are some, it answers the one that was created before all the others, as it is
read under its key.  That stays the one whatever happens, until everything is dropped, the region or
its cloud is deleted, or a cloud is updated. -/
theorem findRegion_oldest {settings : StoreSettings} {steps : List Step}
    (hready : ((initial settings).run steps).store.lifecycle = .ready) {provider name : String}
    (hprovider : provider ≠ "") (hname : name ≠ "") (hnul : Text.IsNulFree provider)
    (hnul' : Text.IsNulFree name) :
    let dep := (initial settings).run steps
    let offers := dep.server.database.contents.Offers provider name
    let find (dep : Deployment) (now : Timestamp) : Except StoreError Reply :=
      (dep.perform now .undisturbed (.findRegion provider name)).1
    (∀ now, find dep now =
        .error ⟨"cloud_regions.find_region", .notFound .region (joinKey [provider, name])⟩ ↔
      ∀ row, ¬offers row) ∧
    ((∃ row, offers row) → ∃ region : Region, offers region.row ∧
      (∀ other, offers other → other ≠ region.row →
        CreatedBefore (initial settings) steps region.row other ∧
          ¬CreatedBefore (initial settings) steps other region.row) ∧
      ∀ now, find dep now = .ok (.ofRegion region) ∧
        (dep.perform now .undisturbed (.getRegion region.row.origin)).1 = .ok (.ofRegion region)) ∧
    ∀ now region, find dep now = .ok (.ofRegion region) →
      ∀ later, dep.NeverUnsettles region.row.origin later →
        (dep.run later).store.lifecycle = .ready →
        ∀ now', ∃ same : Region, find (dep.run later) now' = .ok (.ofRegion same) ∧
          same.row.id = region.row.id ∧ same.row.origin = region.row.origin := by
  intro dep offers find
  have hreachable : dep.Reachable := ⟨settings, steps, rfl⟩
  have hc := hreachable.sound.allDistinct
  refine ⟨fun now => findRegion_eq_notFound hready hprovider hname hnul hnul' hc, ?_,
    fun now region hanswer later hsettled hready' now' => ?_⟩
  · rintro ⟨row, hrow⟩
    cases hfound : dep.server.database.contents.regionAtProvider? provider name with
    | none => exact absurd hrow ((Contents.regionAtProvider?_eq_none hc).1 hfound row)
    | some region =>
      obtain ⟨hoffers, hentity, hleast⟩ := Contents.regionAtProvider?_eq_some hc hfound
      refine ⟨region, hoffers, fun other hother hne => ?_, fun now => ⟨?_, ?_⟩⟩
      · exact createdBefore_of_offers hoffers hother (hleast other hother) hne
      · exact (findRegion_eq_ok hready hprovider hname hnul hnul').2 hfound
      · exact hreachable.reply_getRegion hready hname hoffers hentity now
  · have hfound := (findRegion_eq_ok hready hprovider hname hnul hnul').1 hanswer
    obtain ⟨same, hsame, hid, horigin⟩ := (hreachable.keeps_run hsettled).regionAtProvider?
      hreachable.sound (hreachable.run later).sound hfound
    exact ⟨same, (findRegion_eq_ok hready' hprovider hname hnul hnul').2 hsame, hid, horigin⟩

/-- A cloud with a region "west", on a provider. -/
def westernCloud (name provider : String) : Operation :=
  .addCloud ⟨name, ⟨provider, "", [], .none, [], .empty⟩, [⟨"west", .none, .empty⟩]⟩

/-- The region of the first cloud is older than that of the second, though it came to the provider
later; and it stays the one when a third cloud is added. -/
theorem findRegion_oldest_west :
    let dep := (initial .default).run
      [.migrate .undisturbed false,
        .perform ⟨0, 0⟩ .undisturbed (westernCloud "one" "gce"),
        .perform ⟨1, 0⟩ .undisturbed (westernCloud "two" "ec2"),
        .perform ⟨2, 0⟩ .undisturbed
          (.updateCloud "one" ⟨"ec2", "", [], .none, [], .empty⟩)]
    let later := dep.run [.perform ⟨3, 0⟩ .undisturbed (westernCloud "three" "ec2")]
    let finds (dep : Deployment) (key : RegionKey) : Prop := ∃ region : Region,
      (dep.perform ⟨9, 0⟩ .undisturbed (.findRegion "ec2" "west")).1 = .ok (.ofRegion region) ∧
        region.row.origin = key
    finds dep ⟨"one", "west"⟩ ∧ finds later ⟨"one", "west"⟩ ∧
      (dep.perform ⟨9, 0⟩ .undisturbed (.findRegion "gce" "west")).1 =
        .error ⟨"cloud_regions.find_region", .notFound .region "gce/west"⟩ := by
  intro dep later finds
  have hready : dep.store.lifecycle = .ready := by decide +kernel
  have hready' : later.store.lifecycle = .ready := by decide +kernel
  have hsound : dep.server.database.Sound := Reachable.sound ⟨.default, _, rfl⟩
  have hname : Text.IsNulFree "west" := by simp [Text.IsNulFree]
  have hnul : Text.IsNulFree "ec2" := by simp [Text.IsNulFree]
  have hnul' : Text.IsNulFree "gce" := by simp [Text.IsNulFree]
  obtain ⟨-, hfinds, hstays⟩ := findRegion_oldest hready (by decide) (by decide) hnul hname
  obtain ⟨hnone, -, -⟩ := findRegion_oldest hready (by decide) (by decide) hnul' hname
  obtain ⟨one, hone, hkey, hid, hcloud⟩ : ∃ one ∈ dep.server.database.contents.get .region,
      one.origin = ⟨"one", "west"⟩ ∧ one.id = 1 ∧
        ∃ cloud ∈ dep.server.database.contents.get .cloud,
          cloud.origin = "one" ∧ cloud.settings.provider = "ec2" := by decide +kernel
  have hoffers : dep.server.database.contents.Offers "ec2" "west" one :=
    ⟨hone, by rw [hkey], by rwa [hkey]⟩
  obtain ⟨region, hregion, hfirst, hanswers⟩ := hfinds ⟨one, hoffers⟩
  have heq : one = region.row := by
    by_contra hne
    have hlt := (hfirst one hoffers hne).1.id_lt ⟨.default, [], rfl⟩ hone
    have hdrawn := (hsound.numbered .region region.row hregion.1).1
    omega
  have horigin : region.row.origin = ⟨"one", "west"⟩ := by rw [← heq, hkey]
  refine ⟨⟨region, (hanswers ⟨9, 0⟩).1, horigin⟩, ?_, ?_⟩
  · have hsettled : dep.NeverUnsettles region.row.origin
        [.perform ⟨3, 0⟩ .undisturbed (westernCloud "three" "ec2")] := by
      refine ⟨?_, trivial⟩
      rintro (hreset | ⟨_, _, _, _, hstep, -, hop⟩)
      · nomatch hreset
      · cases hstep
        nomatch hop
    obtain ⟨same, hsame, -, hsame'⟩ :=
      hstays ⟨9, 0⟩ region (hanswers ⟨9, 0⟩).1 _ hsettled hready' ⟨9, 0⟩
    exact ⟨same, hsame, hsame'.trans horigin⟩
  · refine (hnone ⟨9, 0⟩).2 ?_
    rintro row ⟨-, -, cloud, hcloud, -, hprovider⟩
    have hothers : ∀ cloud ∈ dep.server.database.contents.get .cloud,
        cloud.settings.provider ≠ "gce" := by decide +kernel
    exact hothers cloud hcloud hprovider

end Deployment
end ControlPlane
