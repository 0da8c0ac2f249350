/-
What merging snapshots of clouds makes of an inventory.

An inventory is what is stored of identities and clouds, by natural keys (`Contents.inventory`).  A
merge adds to it what its snapshot offers where nothing is stored, and grants what it reports
(`Inventory.after`, `Absorbed.inventory_eq`); its tally depends on no more than the part of the
inventory that belongs to the cloud (`Absorbed.tally_eq`).  Snapshots of different clouds change
different parts, but for the identities, of which each offers the same; so their order does not
matter (`Inventory.foldl_after_perm`).
-/
import ControlPlane.Proofs.GrantRuns
import Mathlib.Data.List.Perm.Basic

namespace ControlPlane

/-- What is stored of identities and clouds. -/
@[ext]
structure Inventory where
  identity : String → Option Identity.Settings
  cloud : String → Option Cloud.Settings
  region : RegionKey → Option Region.Settings
  /-- By the cloud and the identity. -/
  grant : String → String → Option Grant.Settings

def Contents.inventory (c : Contents) : Inventory where
  identity := c.settings? .identity
  cloud := c.settings? .cloud
  region := c.settings? .region
  grant cloud identity := (c.cloudRow? cloud).bind fun row => c.grantMap ⟨.cloud, row.id, identity⟩

/-- The settings that are stored where entries are added one after another: those of the first with
an origin. -/
def offered? {r : Relation} [DecidableEq (Origin r)] (entries : List (Entry r))
    (origin : Origin r) : Option (Settings r) :=
  ((entries.find? fun e => e.origin = origin).bind stored?).map Entry.settings

/-- The grants on a cloud after a report. -/
def grantsAfter (grants : String → Option Grant.Settings) (report : GrantReport) :
    String → Option Grant.Settings :=
  Function.update grants report.identity
    (some ⟨report.access, (grants report.identity).bind fun settings => settings.lastConnection⟩)

namespace Inventory

/-- An inventory after a merge, where new identities get this access to all controllers. -/
def after (access : Access) (inv : Inventory) (snapshot : Cloud.Snapshot) : Inventory where
  identity name := (inv.identity name).or (offered? (snapshot.identityEntries access) name)
  cloud name := (inv.cloud name).or (offered? [snapshot.cloud.entry] name)
  region key := (inv.region key).or (offered? snapshot.cloud.regionEntries key)
  grant := Function.update inv.grant snapshot.cloud.name
    (snapshot.grants.foldl grantsAfter (inv.grant snapshot.cloud.name))

/-- Whether two inventories have the same of a cloud. -/
structure AgreeOn (name : String) (inv inv' : Inventory) : Prop where
  cloud : inv.cloud name = inv'.cloud name
  region : ∀ region, inv.region ⟨name, region⟩ = inv'.region ⟨name, region⟩
  grant : inv.grant name = inv'.grant name

end Inventory

/-! ## What is offered -/

section

variable {r : Relation} [DecidableEq (Origin r)] {entries : List (Entry r)} {origin : Origin r}

theorem offered?_eq_none (h : ∀ e ∈ entries, e.origin ≠ origin) :
    offered? entries origin = none := by
  have hfind : entries.find? (fun e => e.origin = origin) = none :=
    List.find?_eq_none.2 fun e he heq => h e he (of_decide_eq_true heq)
  rw [offered?, hfind]
  rfl

end

namespace Cloud.Snapshot

variable {snapshot : Cloud.Snapshot} {access : Access} {name : String}

theorem offered?_cloud (hname : snapshot.cloud.name ≠ name) :
    offered? [snapshot.cloud.entry] name = none :=
  offered?_eq_none (r := .cloud) fun e he => by
    rw [List.mem_singleton.1 he]
    exact hname

theorem offered?_region (key : RegionKey) (hname : snapshot.cloud.name ≠ key.cloud) :
    offered? snapshot.cloud.regionEntries key = none := by
  refine offered?_eq_none (r := .region) fun e he heq => hname ?_
  obtain ⟨region, -, rfl⟩ := List.mem_map.1 he
  exact congrArg RegionKey.cloud heq

/-- What a snapshot offers of an identity depends on the name alone. -/
theorem offered?_identity (snapshot : Cloud.Snapshot) (access : Access) (name : String) :
    offered? (snapshot.identityEntries access) name = none ∨
      offered? (snapshot.identityEntries access) name =
        (stored? (Identities.firstEntry name access)).map Entry.settings := by
  rw [offered?]
  cases hfind : (snapshot.identityEntries access).find? fun e => e.origin = name with
  | none => exact .inl rfl
  | some e =>
    obtain ⟨report, -, rfl⟩ := List.mem_map.1 (List.mem_of_find?_eq_some hfind)
    have hname : (Identities.firstEntry report.identity access).origin = name := by
      simpa using List.find?_some hfind
    obtain rfl : report.identity = name := hname
    exact .inr rfl

end Cloud.Snapshot

/-! ## Merges of different clouds -/

theorem or_right_comm {α : Type} {a b d : Option α} (h : b = none ∨ d = none ∨ b = d) :
    (a.or b).or d = (a.or d).or b := by
  cases a with
  | some a => rfl
  | none => rcases h with rfl | rfl | rfl <;> simp

namespace Inventory

variable {access : Access} {inv : Inventory} {s t : Cloud.Snapshot}

theorem after_comm (h : s.cloud.name ≠ t.cloud.name) :
    (inv.after access s).after access t = (inv.after access t).after access s := by
  have hidentity : ∀ name, offered? (s.identityEntries access) name = none ∨
      offered? (t.identityEntries access) name = none ∨
      offered? (s.identityEntries access) name = offered? (t.identityEntries access) name := by
    intro name
    rcases s.offered?_identity access name with hs | hs
    · exact .inl hs
    · rcases t.offered?_identity access name with ht | ht
      · exact .inr (.inl ht)
      · exact .inr (.inr (hs.trans ht.symm))
  have hcloud : ∀ name, offered? [s.cloud.entry] name = none ∨
      offered? [t.cloud.entry] name = none := by
    intro name
    by_cases hname : s.cloud.name = name
    · exact .inr (Cloud.Snapshot.offered?_cloud fun heq => h (hname.trans heq.symm))
    · exact .inl (Cloud.Snapshot.offered?_cloud hname)
  have hregion : ∀ key, offered? s.cloud.regionEntries key = none ∨
      offered? t.cloud.regionEntries key = none := by
    intro key
    by_cases hname : s.cloud.name = key.cloud
    · exact .inr (Cloud.Snapshot.offered?_region key fun heq => h (hname.trans heq.symm))
    · exact .inl (Cloud.Snapshot.offered?_region key hname)
  have hgrant : ((inv.after access s).after access t).grant =
      ((inv.after access t).after access s).grant := by
    simp only [after, Function.update_of_ne h, Function.update_of_ne h.symm]
    exact Function.update_comm h _ _ _
  exact Inventory.ext (funext fun name => or_right_comm (hidentity name))
    (funext fun name => or_right_comm ((hcloud name).imp_right .inl))
    (funext fun key => or_right_comm ((hregion key).imp_right .inl)) hgrant

/-- Merges of different clouds come to the same in every order. -/
theorem foldl_after_perm {ss ts : List Cloud.Snapshot} (hperm : ss.Perm ts)
    (hnames : ss.Pairwise fun s t => s.cloud.name ≠ t.cloud.name) :
    ss.foldl (after access) inv = ts.foldl (after access) inv := by
  have hsymm : Std.Symm fun s t : Cloud.Snapshot => s.cloud.name ≠ t.cloud.name :=
    ⟨fun _ _ hne => hne.symm⟩
  refine hperm.foldl_eq' (fun s hs t ht z => ?_) inv
  by_cases hsame : s = t
  · rw [hsame]
  · exact after_comm (hnames.forall hs ht hsame)

namespace AgreeOn

theorem refl (name : String) (inv : Inventory) : AgreeOn name inv inv :=
  ⟨rfl, fun _ => rfl, rfl⟩

theorem symm {name : String} {inv' : Inventory} (h : AgreeOn name inv inv') :
    AgreeOn name inv' inv :=
  ⟨h.cloud.symm, fun region => (h.region region).symm, h.grant.symm⟩

variable {c c' : Contents}

theorem lacksCloud_iff {name : String} (h : AgreeOn name c.inventory c'.inventory) :
    (∀ row ∈ c.get .cloud, row.origin ≠ name) ↔ ∀ row ∈ c'.get .cloud, row.origin ≠ name := by
  rw [← Contents.settings?_eq_none (r := .cloud), ← Contents.settings?_eq_none (r := .cloud)]
  exact Eq.congr_left h.cloud

theorem lacksRegion_iff (key : RegionKey) (h : AgreeOn key.cloud c.inventory c'.inventory) :
    (∀ row ∈ c.get .region, row.origin ≠ key) ↔ ∀ row ∈ c'.get .region, row.origin ≠ key := by
  rw [← Contents.settings?_eq_none (r := .region), ← Contents.settings?_eq_none (r := .region)]
  exact Eq.congr_left (h.region key.region)

/-- Where the same is stored of a cloud, a snapshot of it adds the same documents. -/
theorem isReadBack (h : AgreeOn s.cloud.name c.inventory c'.inventory) (hback : s.IsReadBack c) :
    s.IsReadBack c' where
  cloud e hfirst hlacks := by
    refine hback.cloud e hfirst ?_
    rw [List.mem_singleton.1 hfirst.mem] at hlacks ⊢
    exact h.lacksCloud_iff.2 hlacks
  regions e hfirst hlacks := by
    refine hback.regions e hfirst ?_
    obtain ⟨region, -, rfl⟩ := List.mem_map.1 hfirst.mem
    exact (lacksRegion_iff ⟨s.cloud.name, region.name⟩ h).2 hlacks

end AgreeOn

/-- A merge of one cloud leaves alone what there is of another. -/
theorem agreeOn_after {name : String} (h : s.cloud.name ≠ name) :
    AgreeOn name (inv.after access s) inv where
  cloud := by simp only [after, Cloud.Snapshot.offered?_cloud h, Option.or_none]
  region region := by
    have hnone := Cloud.Snapshot.offered?_region ⟨name, region⟩ h
    simp only [after, hnone, Option.or_none]
  grant := Function.update_of_ne h.symm _ _

end Inventory

/-! ## Rows that are added -/

namespace Admitted

variable {r : Relation} {now now' : Timestamp} {entries : List (Entry r)}
  {rows rows' added added' : List (Row r)}

/-- What is stored under an origin once rows are added for entries. -/
theorem settings_find? [DecidableEq (Origin r)] (h : Admitted now entries rows added)
    (origin : Origin r) :
    ((rows ++ added).find? fun row => row.origin = origin).map (fun row => row.settings) =
      ((rows.find? fun row => row.origin = origin).map fun row => row.settings).or
        (offered? entries origin) := by
  rw [List.find?_append]
  cases hrows : rows.find? fun row => row.origin = origin with
  | some row => rfl
  | none =>
    rw [Option.none_or, Option.map_none, Option.none_or]
    cases hadded : added.find? fun row => row.origin = origin with
    | some row =>
      have horigin : row.origin = origin := by simpa using List.find?_some hadded
      obtain ⟨e, ⟨earlier, later, rfl, hearlier⟩, he, hstored⟩ :=
        h.stores row (List.mem_of_find?_eq_some hadded)
      have hfirst : (earlier ++ e :: later).find? (fun e => e.origin = origin) = some e := by
        refine List.find?_eq_some_iff_append.2 ⟨decide_eq_true (he.trans horigin), earlier, later,
          rfl, fun other hother => ?_⟩
        rw [← horigin, ← he]
        simpa using hearlier other hother
      rw [offered?, hfirst, Option.bind_some, hstored]
      rfl
    | none =>
      -- An entry with the origin would have left a row, old or new.
      refine (offered?_eq_none fun e he heq => ?_).symm
      obtain ⟨row, hrow, horigin⟩ := h.covers e he
      have hfound : decide (row.origin = origin) = true := decide_eq_true (horigin.trans heq)
      rcases List.mem_append.1 hrow with hrow | hrow
      · exact List.find?_eq_none.1 hrows row hrow hfound
      · exact List.find?_eq_none.1 hadded row hrow hfound

theorem mem_origins (h : Admitted now entries rows added) {origin : Origin r} :
    origin ∈ added.map (fun row => row.origin) ↔
      (∃ e ∈ entries, e.origin = origin) ∧ ∀ row ∈ rows, row.origin ≠ origin := by
  constructor
  · intro horigin
    obtain ⟨row, hrow, rfl⟩ := List.mem_map.1 horigin
    obtain ⟨e, hfirst, he, -⟩ := h.stores row hrow
    exact ⟨⟨e, hfirst.mem, he⟩, fun old hold => h.absent row hrow old hold⟩
  · rintro ⟨⟨e, he, rfl⟩, habsent⟩
    obtain ⟨row, hrow, horigin⟩ := h.covers e he
    rcases List.mem_append.1 hrow with hrow | hrow
    · exact absurd horigin (habsent row hrow)
    · exact List.mem_map.2 ⟨row, hrow, horigin⟩

/-- How many rows are added depends on which origins are stored already. -/
theorem length_eq (h : Admitted now entries rows added) (h' : Admitted now' entries rows' added')
    (hstored : ∀ e ∈ entries, (∀ row ∈ rows, row.origin ≠ e.origin) ↔
      ∀ row ∈ rows', row.origin ≠ e.origin) : added.length = added'.length := by
  have hperm : (added.map fun row => row.origin).Perm (added'.map fun row => row.origin) := by
    refine (List.perm_ext_iff_of_nodup (List.pairwise_map.2 h.distinct)
      (List.pairwise_map.2 h'.distinct)).2 fun origin => ?_
    rw [h.mem_origins, h'.mem_origins]
    refine and_congr_right ?_
    rintro ⟨e, he, rfl⟩
    exact hstored e he
  simpa using hperm.length_eq

end Admitted

theorem Contents.levelOn?_eq_grantMap (c : Contents) (on : Grantable) (object : Int)
    (identity : String) : c.levelOn? on object identity =
      (c.grantMap ⟨on, object, identity⟩).map fun settings => settings.access := by
  rw [levelOn?, grantMap, Option.map_map]
  rfl

namespace Reported

variable {on : Grantable} {object object' : Int} {now now' : Timestamp} {access access' : Access}
  {reports : List GrantReport} {before before' after after' : Contents}
  {identities identities' : List (Row .identity)} {grants grants' : List (Row (.grant on))}

theorem mem_holders (h : Reported object now access reports before after identities grants)
    {identity : String} :
    identity ∈ grants.map (fun row => row.origin.identity) ↔
      (∃ report ∈ reports, report.identity = identity) ∧
        before.levelOn? on object identity = none := by
  rw [Contents.levelOn?_eq_grantMap, Option.map_eq_none_iff, Contents.grantMap_eq_none]
  constructor
  · intro hidentity
    obtain ⟨row, hrow, rfl⟩ := List.mem_map.1 hidentity
    have hgranted := h.granted row hrow
    obtain ⟨report, hreport, heq, -⟩ := mem_of_lastReported? hgranted.level
    refine ⟨⟨report, hreport, heq⟩, fun old hold horigin => h.absent row hrow old hold ?_⟩
    rw [horigin, ← hgranted.object]
  · rintro ⟨⟨report, hreport, rfl⟩, habsent⟩
    obtain ⟨row, hrow, horigin⟩ := h.covers report hreport
    rw [h.grant] at hrow
    rcases List.mem_append.1 hrow with hrow | hrow
    · obtain ⟨old, hold, rfl⟩ := List.mem_map.1 hrow
      rw [Row.origin_foldl_reported] at horigin
      exact absurd horigin (habsent old hold)
    · exact List.mem_map.2 ⟨row, hrow, by rw [horigin]⟩

theorem nodup_holders (h : Reported object now access reports before after identities grants) :
    (grants.map fun row => row.origin.identity).Nodup := by
  refine List.pairwise_map.2 (h.distinct.imp_of_mem ?_)
  intro a b ha hb hne heq
  refine hne ?_
  have hobject : a.origin.object = b.origin.object :=
    (h.granted a ha).object.trans (h.granted b hb).object.symm
  exact congrArg₂ Grant.Origin.mk hobject heq

/-- How many grants are added depends on which levels are in force. -/
theorem length_eq (h : Reported object now access reports before after identities grants)
    (h' : Reported object' now' access' reports before' after' identities' grants')
    (hlevels : before.levelOn? on object = before'.levelOn? on object') :
    grants.length = grants'.length := by
  have hperm : (grants.map fun row => row.origin.identity).Perm
      (grants'.map fun row => row.origin.identity) := by
    refine (List.perm_ext_iff_of_nodup h.nodup_holders h'.nodup_holders).2 fun identity => ?_
    rw [h.mem_holders, h'.mem_holders, hlevels]
  simpa using hperm.length_eq

end Reported

/-! ## Events on one object -/

section

variable {object : Int}

/-- Access that is assigned on a cloud, seen from the cloud. -/
theorem grantMap_after_assigned (m : GrantMap) (object : Int) (report : GrantReport) :
    (fun identity => m.after (.assigned ⟨.cloud, object, report.identity⟩ (some report.access))
      ⟨.cloud, object, identity⟩) =
      grantsAfter (fun identity => m ⟨.cloud, object, identity⟩) report := by
  funext identity
  rw [GrantMap.after, grantsAfter]
  by_cases hidentity : identity = report.identity
  · rw [hidentity, Function.update_self, Function.update_self]
  · rw [Function.update_of_ne hidentity, Function.update_of_ne (by simp [hidentity])]

theorem grantMap_foldl_assigned (reports : List GrantReport) (m : GrantMap) :
    (fun identity => (reports.map fun report => GrantEvent.assigned
        ⟨.cloud, object, report.identity⟩ (some report.access)).foldl GrantMap.after m
      ⟨.cloud, object, identity⟩) =
      reports.foldl grantsAfter fun identity => m ⟨.cloud, object, identity⟩ := by
  induction reports generalizing m with
  | nil => rfl
  | cons report rest ih =>
    rw [List.map_cons, List.foldl_cons, List.foldl_cons, ih, grantMap_after_assigned]

theorem grantMap_foldl_assigned_of_ne (reports : List GrantReport) (m : GrantMap)
    {key : Grant.Key} (hobject : key.origin.object ≠ object) :
    (reports.map fun report => GrantEvent.assigned ⟨.cloud, object, report.identity⟩
      (some report.access)).foldl GrantMap.after m key = m key := by
  induction reports generalizing m with
  | nil => rfl
  | cons report rest ih =>
    rw [List.map_cons, List.foldl_cons, ih, GrantMap.after, Function.update_of_ne]
    rintro rfl
    exact hobject rfl

end

/-! ## Merges -/

theorem Tally.eq_of_amountTo {outcomes outcomes' : List Merge} {total inserted updated : Nat}
    (h : Merge.AmountTo outcomes total inserted updated)
    (h' : Merge.AmountTo outcomes' total inserted updated) :
    Tally.ofList outcomes = Tally.ofList outcomes' := by
  have hcounts := of_amountTo h
  have hcounts' := of_amountTo h'
  generalize ofList outcomes = tally at hcounts ⊢
  generalize ofList outcomes' = tally' at hcounts' ⊢
  obtain ⟨i, u, n⟩ := tally
  obtain ⟨i', u', n'⟩ := tally'
  simp only [mk.injEq] at *
  omega

namespace Absorbed

variable {snapshot : Cloud.Snapshot} {now now' : Timestamp} {access access' : Access}
  {before before' middle middle' after after' : Contents}
  {added added' : PerRelation fun r => List (Row r)} {identities identities' : List (Row .identity)}
  {grants grants' : List (Row (.grant .cloud))} {outcomes outcomes' : List Merge}
  {cloud cloud' : Row .cloud}

section

variable (h : Absorbed (.cloud snapshot) cloud.id now access before middle after added identities
  grants outcomes)
include h

theorem get_cloud : after.get .cloud = before.get .cloud ++ added.get .cloud :=
  (h.reported.others .cloud nofun nofun).trans (h.rows .cloud)

theorem get_region : after.get .region = before.get .region ++ added.get .region :=
  (h.reported.others .region nofun nofun).trans (h.rows .region)

theorem get_identity : after.get .identity = before.get .identity ++ identities :=
  h.reported.identity.trans (congrArg (· ++ identities) (h.get_eq (r := .identity) rfl))

theorem admitted_identities :
    Admitted now (snapshot.identityEntries access) (before.get .identity) identities := by
  have hnamed := h.reported.named
  rw [h.get_eq (r := .identity) rfl] at hnamed
  exact hnamed

theorem cloudRow?_of_ne {name : String} (hne : snapshot.cloud.name ≠ name) :
    after.cloudRow? name = before.cloudRow? name := by
  have hnone : (added.get .cloud).find? (fun row => row.origin = name) = none := by
    refine List.find?_eq_none.2 fun row hrow heq => hne ?_
    obtain ⟨e, hfirst, he, -⟩ := (h.admitted .cloud).stores row hrow
    obtain rfl : e = snapshot.cloud.entry := List.mem_singleton.1 hfirst.mem
    exact he.trans (of_decide_eq_true heq)
  rw [Contents.cloudRow?, h.get_cloud, List.find?_append, hnone, Option.or_none]
  rfl

variable (hfound : after.cloudRow? snapshot.cloud.name = some cloud) (hdistinct : after.Distinct)
include hfound hdistinct

/-- No two clouds have one number. -/
theorem id_ne {name : String} (hname : snapshot.cloud.name ≠ name) {row : Row .cloud}
    (hrow : before.cloudRow? name = some row) : row.id ≠ cloud.id := by
  intro heq
  have hmem : row ∈ after.get .cloud :=
    List.mem_of_find?_eq_some ((h.cloudRow?_of_ne hname).trans hrow)
  have hsame : row = cloud := hdistinct.eq hmem (List.mem_of_find?_eq_some hfound) heq
  have hcloudName : cloud.origin = snapshot.cloud.name := by simpa using List.find?_some hfound
  have hrowName : row.origin = name := by simpa using List.find?_some hrow
  exact hname (by rw [← hcloudName, ← hrowName, hsame])

variable (hclosed : before.Closed)
include hclosed

/-- The grants that there were under the number of the cloud: none if the cloud is new. -/
theorem grantMap_eq (identity : String) : before.grantMap ⟨.cloud, cloud.id, identity⟩ =
    before.inventory.grant snapshot.cloud.name identity := by
  have hcloud : cloud ∈ after.get .cloud := List.mem_of_find?_eq_some hfound
  have hname : cloud.origin = snapshot.cloud.name := by simpa using List.find?_some hfound
  cases hbefore : before.cloudRow? snapshot.cloud.name with
  | some row =>
    have hsame : after.cloudRow? snapshot.cloud.name = some row := by
      rw [Contents.cloudRow?] at hbefore ⊢
      rw [h.get_cloud, List.find?_append, hbefore, Option.some_or]
    rw [hfound, Option.some_inj] at hsame
    simp only [Contents.inventory, hbefore, Option.bind_some, hsame]
  | none =>
    have hnone : before.grantMap ⟨.cloud, cloud.id, identity⟩ = none := by
      refine Contents.grantMap_eq_none.2 fun grant hgrant horigin => ?_
      obtain ⟨object, hobject, hid⟩ := hclosed.exists_row (r := .grant .cloud)
        (P := fun object : Row .cloud => object.id = cloud.id) hgrant (.head _)
        fun object hrefers => by rw [← of_decide_eq_true hrefers, horigin]
      have hmem : object ∈ after.get .cloud := h.get_cloud ▸ List.mem_append_left _ hobject
      have hsame : object = cloud := hdistinct.eq hmem hcloud hid
      refine List.find?_eq_none.1 hbefore object hobject (decide_eq_true ?_)
      rw [hsame, hname]
    rw [hnone]
    simp only [Contents.inventory, hbefore, Option.bind_none]

theorem levelOn?_eq_inventory : before.levelOn? .cloud cloud.id = fun identity =>
    (before.inventory.grant snapshot.cloud.name identity).map fun settings => settings.access := by
  funext identity
  rw [Contents.levelOn?_eq_grantMap, h.grantMap_eq hfound hdistinct hclosed]

variable (hgrants : after.grantMap = (snapshot.grants.map fun report =>
  GrantEvent.assigned ⟨.cloud, cloud.id, report.identity⟩ (some report.access)).foldl
    GrantMap.after before.grantMap)
include hgrants

theorem grant_eq (name : String) : after.inventory.grant name =
    (before.inventory.after access snapshot).grant name := by
  by_cases hname : snapshot.cloud.name = name
  · subst hname
    have hheld : (fun identity => before.grantMap ⟨.cloud, cloud.id, identity⟩) =
        before.inventory.grant snapshot.cloud.name :=
      funext (h.grantMap_eq hfound hdistinct hclosed)
    simp only [Inventory.after, Function.update_self]
    rw [← hheld, ← grantMap_foldl_assigned, ← hgrants]
    simp only [Contents.inventory, hfound, Option.bind_some]
  · simp only [Inventory.after, Function.update_of_ne (Ne.symm hname)]
    funext identity
    simp only [Contents.inventory]
    rw [h.cloudRow?_of_ne hname]
    cases hrow : before.cloudRow? name with
    | none => rfl
    | some row =>
      rw [Option.bind_some, Option.bind_some, hgrants]
      exact grantMap_foldl_assigned_of_ne _ _ (h.id_ne hfound hdistinct hname hrow)

/-- What a merge makes of an inventory. -/
theorem inventory_eq : after.inventory = before.inventory.after access snapshot := by
  refine Inventory.ext (funext fun name => ?_) (funext fun name => ?_) (funext fun key => ?_)
    (funext (h.grant_eq hfound hdistinct hclosed hgrants))
  · show ((after.get .identity).find? _).map _ = _
    rw [h.get_identity]
    exact h.admitted_identities.settings_find? name
  · show ((after.get .cloud).find? _).map _ = _
    rw [h.get_cloud]
    exact (h.admitted .cloud).settings_find? name
  · show ((after.get .region).find? _).map _ = _
    rw [h.get_region]
    exact (h.admitted .region).settings_find? key

end

/-- The tally of a merge depends on what there is of the cloud alone, by natural keys. -/
theorem tally_eq (h : Absorbed (.cloud snapshot) cloud.id now access before middle after added
      identities grants outcomes)
    (h' : Absorbed (.cloud snapshot) cloud'.id now' access' before' middle' after' added'
      identities' grants' outcomes')
    (hlevels : before.levelOn? .cloud cloud.id = before'.levelOn? .cloud cloud'.id)
    (hagree : Inventory.AgreeOn snapshot.cloud.name before.inventory before'.inventory) :
    Tally.ofList outcomes = Tally.ofList outcomes' := by
  have hclouds : (added.get .cloud).length = (added'.get .cloud).length := by
    refine (h.admitted .cloud).length_eq (h'.admitted .cloud) fun e he => ?_
    obtain rfl : e = snapshot.cloud.entry := List.mem_singleton.1 he
    exact hagree.lacksCloud_iff
  have hregions : (added.get .region).length = (added'.get .region).length := by
    refine (h.admitted .region).length_eq (h'.admitted .region) fun e he => ?_
    obtain ⟨region, -, rfl⟩ := List.mem_map.1 he
    exact Inventory.AgreeOn.lacksRegion_iff ⟨snapshot.cloud.name, region.name⟩ hagree
  have hlevels' : middle.levelOn? .cloud cloud.id = middle'.levelOn? .cloud cloud'.id := by
    funext identity
    have hsame := congrFun hlevels identity
    rwa [Contents.levelOn?, Contents.levelOn?, ← h.get_grant .cloud, ← h'.get_grant .cloud] at hsame
  have hgrants : grants.length = grants'.length := h.reported.length_eq h'.reported hlevels'
  have hamount : Merge.AmountTo outcomes (Snapshot.cloud snapshot).size
      ((added.get .cloud).length + (added.get .region).length + grants.length)
      (differing (before.levelOn? .cloud cloud.id) snapshot.grants).length := h.amount
  rw [hclouds, hregions, hgrants, hlevels] at hamount
  exact Tally.eq_of_amountTo hamount h'.amount

end Absorbed
end ControlPlane
