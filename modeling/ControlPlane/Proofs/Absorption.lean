/-
What merging a snapshot makes of the rows.

A snapshot of a cloud and one of a credential are merged alike: first entries, each of which is
added where no row of its origin is stored, and then the grants on the object.  `Absorbed` says this
once for both, with the rows that are added.  A merge that nothing interrupts comes to it whatever
is stored, as long as the database takes what the snapshot says and the documents that it adds are
read back.
-/
import ControlPlane.Proofs.Granting
import ControlPlane.Proofs.Readability

namespace ControlPlane

def Cloud.Draft.regionEntries (draft : Cloud.Draft) : List (Entry .region) :=
  draft.regions.map fun region => region.entry draft.name

/-- The entries of the identities that a snapshot names, with their access to all controllers. -/
def Cloud.Snapshot.identityEntries (snapshot : Cloud.Snapshot) (access : Access) :
    List (Entry .identity) :=
  snapshot.grants.map fun report => Identities.firstEntry report.identity access

/-- The entry of the credential of a snapshot, as it is stored. -/
def Credential.Snapshot.entry (snapshot : Credential.Snapshot) : Entry .credential :=
  Credential.sanitiseOwner snapshot.credential

/-- A snapshot of either kind. -/
inductive Snapshot
  | cloud (snapshot : Cloud.Snapshot)
  | credential (snapshot : Credential.Snapshot)

namespace Snapshot

def operation : Snapshot → Operation
  | cloud s => .reconcileCloud s
  | credential s => .reconcileCredential s

/-- What the snapshot reports grants on. -/
def on : Snapshot → Grantable
  | cloud _ => .cloud
  | credential _ => .credential

def reports : Snapshot → List GrantReport
  | cloud s => s.grants
  | credential s => s.grants

/-- The entries that are added where they are missing, before the grants are merged. -/
def entries (access : Access) : Snapshot → PerRelation fun r => List (Entry r)
  | cloud s =>
    { PerRelation.tabulate fun _ => [] with
      cloud := [s.cloud.entry]
      region := s.cloud.regionEntries }
  | credential s =>
    { PerRelation.tabulate fun _ => [] with
      identity := [Identities.firstEntry s.entry.origin.owner access]
      credential := [s.entry] }

/-- How many rows the snapshot reports. -/
def size : Snapshot → Nat
  | cloud s => 1 + s.cloud.regions.length + s.grants.length
  | credential s => 1 + s.grants.length

/-- The number of the object that the snapshot is about. -/
def object? (c : Contents) : Snapshot → Option Int
  | cloud s => (c.cloudRow? s.cloud.name).map fun row => row.id
  | credential s => (c.credentialRow? s.entry.origin).map fun row => row.id

def entity? (c : Contents) : Snapshot → Option Entity
  | cloud s => (c.cloud? s.cloud.name).map .cloud
  | credential s => (c.credential? s.entry.origin).map .credential

end Snapshot

def Reply.tally? : Reply → Option Tally
  | .merged m => some m.tally
  | _ => none

/-- Whether the database takes all that a snapshot of a cloud says. -/
structure Cloud.Snapshot.IsTaken (snapshot : Cloud.Snapshot) : Prop where
  cloud : ∃ kept, stored? snapshot.cloud.entry = some kept
  regions : ∀ region ∈ snapshot.cloud.regions,
    ∃ kept, stored? (region.entry snapshot.cloud.name) = some kept
  grants : ∀ report ∈ snapshot.grants, Text.IsNulFree report.identity

/-- Whether the documents of those entries are readable that are added beside rows: of the first
entry with each origin that no row has. -/
def Entry.AreReadBack {r : Relation} (entries : List (Entry r)) (rows : List (Row r)) : Prop :=
  ∀ e : Entry r, e.IsFirstOf entries → (∀ row ∈ rows, row.origin ≠ e.origin) → e.isReadable = true

/-- Whether the documents that a snapshot adds are read back: that of the cloud if it is missing,
and that of each missing region as it first occurs. -/
structure Cloud.Snapshot.IsReadBack (snapshot : Cloud.Snapshot) (c : Contents) : Prop where
  cloud : Entry.AreReadBack [snapshot.cloud.entry] (c.get .cloud)
  regions : Entry.AreReadBack snapshot.cloud.regionEntries (c.get .region)

/-- Whether the database takes all that a snapshot of a credential says, on a cloud that is
there. -/
structure Credential.Snapshot.IsTaken (snapshot : Credential.Snapshot) (c : Contents) : Prop where
  cloud : ∃ row ∈ c.get .cloud, row.origin = snapshot.entry.origin.cloud
  credential : ∃ kept, stored? snapshot.entry = some kept
  grants : ∀ report ∈ snapshot.grants, Text.IsNulFree report.identity

/-- Whether the database takes all that a snapshot says and gives it back. -/
def Snapshot.IsTaken (c : Contents) : Snapshot → Prop
  | .cloud s => s.IsTaken ∧ s.IsReadBack c
  | .credential s => s.IsTaken c

theorem Cloud.Snapshot.IsNulFree.isTaken {snapshot : Cloud.Snapshot} (h : snapshot.IsNulFree) :
    snapshot.IsTaken where
  cloud := by
    obtain ⟨config, -, hkept⟩ := Storable.stored?_cloud h.name h.settings
    exact ⟨_, hkept⟩
  regions region hregion := by
    obtain ⟨hname, hsettings⟩ := h.regions region hregion
    obtain ⟨config, -, hkept⟩ := Storable.stored?_region h.name hname hsettings
    exact ⟨_, hkept⟩
  grants report hreport := IdentityName.isNulFree_sanitise (h.grants report hreport)

/-- What merging a snapshot makes of the rows: first, for each relation, the entries that are
missing, and then what the reports make of that. -/
structure Absorbed (snapshot : Snapshot) (object : Int) (now : Timestamp) (access : Access)
    (before middle after : Contents) (added : PerRelation fun r => List (Row r))
    (identities : List (Row .identity)) (grants : List (Row (.grant snapshot.on)))
    (outcomes : List Merge) : Prop where
  rows : ∀ r, middle.get r = before.get r ++ added.get r
  admitted : ∀ r, Admitted now ((snapshot.entries access).get r) (before.get r) (added.get r)
  reported : Reported object now access snapshot.reports middle after identities grants
  amount : Merge.AmountTo outcomes snapshot.size
    ((added.get snapshot.on.relation).length + (added.get .region).length + grants.length)
    (differing (before.levelOn? snapshot.on object) snapshot.reports).length

/-- Where no entry has an origin of its own, nothing is added. -/
theorem Admitted.eq_nil {r : Relation} {now : Timestamp} {entries : List (Entry r)}
    {rows added : List (Row r)} (h : Admitted now entries rows added)
    (hstored : ∀ e ∈ entries, ∃ row ∈ rows, row.origin = e.origin) : added = [] := by
  refine List.eq_nil_iff_forall_not_mem.2 fun row hrow => ?_
  obtain ⟨e, hfirst, horigin, -⟩ := h.stores row hrow
  obtain ⟨old, hold, hsame⟩ := hstored e hfirst.mem
  exact h.absent row hrow old hold (hsame.trans horigin)

/-- The rows that are added are readable if the entries are that come first where no row is. -/
theorem Admitted.isReadable_iff {r : Relation} {now : Timestamp} {entries : List (Entry r)}
    {rows added : List (Row r)} (h : Admitted now entries rows added) :
    (∀ row ∈ added, row.isReadable = true) ↔ Entry.AreReadBack entries rows := by
  constructor
  · intro hadded e hfirst habsent
    obtain ⟨row, hrow, horigin⟩ := h.covers e hfirst.mem
    rcases List.mem_append.1 hrow with hold | hnew
    · exact absurd horigin (habsent row hold)
    · obtain ⟨stored, hstored, hsame, hkept⟩ := h.stores row hnew
      obtain rfl := hfirst.eq hstored (horigin.symm.trans hsame.symm)
      rw [← Entry.isReadable_of_stored? hkept]
      exact hadded row hnew
  · intro hentries row hrow
    obtain ⟨e, hfirst, horigin, hkept⟩ := h.stores row hrow
    rw [Entry.isReadable_of_stored? hkept]
    refine hentries e hfirst fun old hold => ?_
    rw [horigin]
    exact h.absent row hrow old hold

/-- Once they are added, no document of the entries is missing. -/
theorem Admitted.areReadBack {r : Relation} {now : Timestamp} {entries : List (Entry r)}
    {rows added : List (Row r)} (h : Admitted now entries rows added) :
    Entry.AreReadBack entries (rows ++ added) := by
  intro e hfirst habsent
  obtain ⟨row, hrow, horigin⟩ := h.covers e hfirst.mem
  exact absurd horigin (habsent row hrow)

/-- Once an entry is stored, it is enough to look at those that come after it. -/
theorem Entry.AreReadBack.tail {r : Relation} {e : Entry r} {entries : List (Entry r)}
    {rows after : List (Row r)} (h : AreReadBack (e :: entries) rows) (hsubset : rows ⊆ after)
    (hstored : ∃ row ∈ after, row.origin = e.origin) : AreReadBack entries after := by
  intro other hfirst habsent
  have hne : e.origin ≠ other.origin := by
    obtain ⟨row, hrow, horigin⟩ := hstored
    exact fun heq => habsent row hrow (horigin.trans heq)
  refine h other ?_ fun row hrow => habsent row (hsubset hrow)
  obtain ⟨earlier, later, rfl, hearlier⟩ := hfirst
  exact ⟨e :: earlier, later, rfl, List.forall_mem_cons.2 ⟨hne, hearlier⟩⟩

namespace Absorbed

variable {snapshot : Snapshot} {object : Int} {now : Timestamp} {access : Access}
  {before middle after : Contents} {added : PerRelation fun r => List (Row r)}
  {identities : List (Row .identity)} {grants : List (Row (.grant snapshot.on))}
  {outcomes : List Merge}

/-- A relation of which the snapshot has no entries is as it was when the reports come. -/
theorem get_eq (h : Absorbed snapshot object now access before middle after added identities grants
    outcomes) {r : Relation} (hnone : (snapshot.entries access).get r = []) :
    middle.get r = before.get r := by
  have hadded : added.get r = [] := (h.admitted r).eq_nil (by rw [hnone]; exact nofun)
  rw [h.rows, hadded, List.append_nil]

theorem get_grant (h : Absorbed snapshot object now access before middle after added identities
    grants outcomes) (on : Grantable) : middle.get (.grant on) = before.get (.grant on) := by
  refine h.get_eq ?_
  cases snapshot <;> cases on <;> rfl

end Absorbed

namespace Contents

variable {c : Contents}

theorem ShowsRows.head?_hydrate {r : Relation} {ε : Type} {rowOf : ε → Row r}
    {hydrate : List (Row r) → List ε} (h : ShowsRows rowOf hydrate) (row : Row r) :
    ∃ entity, (hydrate [row]).head? = some entity ∧ rowOf entity = row := by
  have hhead := congrArg List.head? (h [row])
  rw [List.head?_map] at hhead
  exact Option.map_eq_some_iff.1 hhead

theorem cloud?_of_row {name : String} {row : Row .cloud} (h : c.cloudRow? name = some row) :
    ∃ cloud, c.cloud? name = some cloud ∧ cloud.row = row := by
  obtain ⟨cloud, hcloud, hrow⟩ := (c.showsRows_clouds (Preload.cloud "")).head?_hydrate row
  exact ⟨cloud, by rw [cloud?, h]; exact hcloud, hrow⟩

theorem credential?_of_row {key : CredentialKey} {row : Row .credential}
    (h : c.credentialRow? key = some row) :
    ∃ credential, c.credential? key = some credential ∧ c.credentialOfRow? row = some credential ∧
      credential.row = row := by
  obtain ⟨credential, hcredential, hrow⟩ :=
    (c.showsRows_credentials (Preload.credential "")).head?_hydrate row
  exact ⟨credential, by rw [credential?, h]; exact hcredential, hcredential, hrow⟩

/-- A key that some row has finds a row that has it. -/
theorem find?_origin_eq_some {r : Relation} [DecidableEq (Origin r)] {rows : List (Row r)}
    {origin : Origin r} (h : ∃ row ∈ rows, row.origin = origin) :
    ∃ row, rows.find? (fun row => row.origin = origin) = some row ∧ row ∈ rows ∧
      row.origin = origin := by
  obtain ⟨row, hrow, horigin⟩ := h
  cases hfind : rows.find? fun row => row.origin = origin with
  | none => exact absurd (decide_eq_true horigin) (List.find?_eq_none.1 hfind row hrow)
  | some found =>
    exact ⟨found, rfl, List.mem_of_find?_eq_some hfind, by simpa using List.find?_some hfind⟩

theorem admits_cloud {draft : Cloud.Draft} (h : ∃ kept, stored? draft.entry = some kept) :
    c.Admits draft.entry := by
  obtain ⟨kept, hkept⟩ := h
  exact ⟨kept, hkept, Storable.origin_of_stored? hkept, nofun⟩

theorem admits_region {draft : Region.Draft} {name : String}
    (h : ∃ kept, stored? (draft.entry name) = some kept)
    (hcloud : ∃ row ∈ c.get .cloud, row.origin = name) : c.Admits (draft.entry name) := by
  obtain ⟨kept, hkept⟩ := h
  have horigin := Storable.origin_of_stored? hkept
  refine ⟨kept, hkept, horigin, fun ref href => ?_⟩
  obtain rfl := List.mem_singleton.1 href
  obtain ⟨row, hrow, hname⟩ := hcloud
  refine resolves_iff.2 ⟨row, hrow, decide_eq_true ?_⟩
  rw [horigin, hname]
  rfl

theorem admits_credential {e : Entry .credential} (h : ∃ kept, stored? e = some kept)
    (hcloud : ∃ row ∈ c.get .cloud, row.origin = e.origin.cloud)
    (howner : ∃ row ∈ c.get .identity, row.origin = e.origin.owner) : c.Admits e := by
  obtain ⟨kept, hkept⟩ := h
  have horigin := Storable.origin_of_stored? hkept
  refine ⟨kept, hkept, horigin, fun ref href => ?_⟩
  simp only [references, List.mem_cons, List.not_mem_nil, or_false] at href
  rcases href with rfl | rfl
  · obtain ⟨row, hrow, hname⟩ := hcloud
    exact resolves_iff.2 ⟨row, hrow, decide_eq_true (by rw [horigin, hname])⟩
  · obtain ⟨row, hrow, hname⟩ := howner
    exact resolves_iff.2 ⟨row, hrow, decide_eq_true (by rw [horigin, hname])⟩

end Contents

open Script

variable {env : Environment} {before : Progress}

/-- The row of an entry is found once the entry is merged. -/
theorem Script.insertNew_finds {r : Relation} [DecidableEq (Origin r)] (hkeyed : r.IsKeyed)
    (hcalm : env.disturbance = none) {e : Entry r} (hadmits : before.database.contents.Admits e) :
    ∃ outcome after added row, insertNew e env before = .ok outcome after ∧
      after.database.contents =
        before.database.contents.set r (before.database.contents.get r ++ added) ∧
      Admitted env.now [e] (before.database.contents.get r) added ∧
      Merge.AmountTo [outcome] 1 added.length 0 ∧
      (after.database.contents.get r).find? (fun row => row.origin = e.origin) = some row ∧
      row ∈ after.database.contents.get r ∧ row.origin = e.origin := by
  obtain ⟨outcome, after, added, hrun, hafter, hadmitted, hamount⟩ :=
    insertNew_ok hkeyed hcalm hadmits
  have hcovers : ∃ row ∈ after.database.contents.get r, row.origin = e.origin := by
    rw [hafter, PerRelation.get_set_self]
    exact hadmitted.covers e List.mem_cons_self
  obtain ⟨row, hfound⟩ := Contents.find?_origin_eq_some hcovers
  exact ⟨outcome, after, added, row, hrun, hafter, hadmitted, hamount, hfound⟩

namespace Clouds

theorem get_eq_ok (hcalm : env.disturbance = none) {name : String}
    (hname : stored? name = some name) {row : Row .cloud}
    (h : before.database.contents.cloudRow? name = some row) :
    ∃ entity, get name env before = .ok entity before ∧
      before.database.contents.cloud? name = some entity ∧ entity.row = row := by
  obtain ⟨entity, hentity, hrow⟩ := Contents.cloud?_of_row h
  exact ⟨entity, queryOne_ok hcalm hname hentity, hentity, hrow⟩

/-- What comes of a reconciliation is decided when the cloud is read back. -/
theorem reconcile_of_get {snapshot : Cloud.Snapshot} {id : Int} {outcome : Merge}
    {regions grants : List Merge} {second third after : Progress} {entity : Cloud}
    (hcloud : insertNew snapshot.cloud.entry env before = .ok outcome second)
    (hid : idOf snapshot.cloud.name env second = .ok id second)
    (hregions : each (fun region => insertNew (region.entry snapshot.cloud.name))
      snapshot.cloud.regions env second = .ok regions third)
    (hgrants : Grants.mergeReports .cloud id snapshot.grants env third = .ok grants after)
    (hget : get snapshot.cloud.name env after = .ok entity after) :
    reconcile snapshot env before =
      (if entity.isReadable = true then
        .ok ⟨entity, Tally.ofList (outcome :: regions ++ grants)⟩ after
      else .error (.failed .other none)
        { after with
          database := { after.database with contents := before.database.contents } }) := by
  have hread := decoded_of_ok hget Cloud.isReadable
  rw [reconcile, transaction, bind_ok hcloud, bind_ok hid, bind_ok hregions, bind_ok hgrants]
  split at hread
  next hreadable =>
    rw [readBack, bind_ok hread, if_pos hreadable]
    rfl
  next hunreadable => rw [readBack, bind_error hread, if_neg hunreadable]

/-- The steps of a reconciliation: the cloud, its regions, and the grants on it. -/
theorem reconcile_steps (hcalm : env.disturbance = none) (hsound : before.database.Sound)
    {snapshot : Cloud.Snapshot} (htaken : snapshot.IsTaken) :
    ∃ entity cloud outcomes after middle added identities grants,
      reconcile snapshot env before =
          (if entity.isReadable = true then .ok ⟨entity, Tally.ofList outcomes⟩ after
          else .error (.failed .other none)
            { after with database :=
              { after.database with contents := before.database.contents } }) ∧
        after.database.Sound ∧
        after.database.contents.cloudRow? snapshot.cloud.name = some cloud ∧
        after.database.contents.cloud? snapshot.cloud.name = some entity ∧ entity.row = cloud ∧
        Absorbed (.cloud snapshot) cloud.id env.now env.defaultAccess before.database.contents
          middle after.database.contents added identities grants outcomes := by
  obtain ⟨kept, hkept⟩ := htaken.cloud
  have hname : stored? snapshot.cloud.name = some snapshot.cloud.name :=
    Storable.stored?_origin hkept
  obtain ⟨first, second, clouds, cloud, hrun, hsecond, hclouds, hamount, hfind, hmem, horigin⟩ :=
    insertNew_finds Relation.cloud_isKeyed hcalm
      (Contents.admits_cloud (c := before.database.contents) htaken.cloud)
  have hfind : second.database.contents.cloudRow? snapshot.cloud.name = some cloud := hfind
  have hid : idOf snapshot.cloud.name env second = .ok cloud.id second :=
    queryOne_ok hcalm hname (by rw [hfind]; rfl)
  have hadmits : ∀ region ∈ snapshot.cloud.regions,
      second.database.contents.Admits (region.entry snapshot.cloud.name) := fun region hregion =>
    Contents.admits_region (htaken.regions region hregion) ⟨cloud, hmem, horigin⟩
  obtain ⟨regionOutcomes, third, regions, hruns, hthirdSound, hthird, hregions, hamounts⟩ :=
    each_insertNew_ok Relation.region_isKeyed hcalm (sound_of_insertNew hrun hsound) hadmits
  have hobject : ∃ row ∈ third.database.contents.get Grantable.cloud.relation,
      row.id = cloud.id := by
    refine ⟨cloud, ?_, rfl⟩
    rw [hthird]
    exact hmem
  obtain ⟨grantOutcomes, after, identities, grants, hmerged, hafterSound, hreported, hamounts'⟩ :=
    Grants.mergeReports_ok hcalm hthirdSound htaken.grants hobject
  have hfindAfter : after.database.contents.cloudRow? snapshot.cloud.name = some cloud := by
    rw [Contents.cloudRow?, hreported.others .cloud nofun nofun, hthird]
    exact hfind
  obtain ⟨entity, hget, hentity, hrow⟩ := get_eq_ok hcalm hname hfindAfter
  have hrunAll := reconcile_of_get hrun hid hruns hmerged hget
  let added : PerRelation fun r => List (Row r) :=
    { PerRelation.tabulate fun _ => [] with cloud := clouds, region := regions }
  rw [hsecond] at hthird hregions
  -- The rows have grown by a cloud and regions, and the grants are still those from before.
  have hlevels : third.database.contents.levelOn? .cloud cloud.id =
      before.database.contents.levelOn? .cloud cloud.id := by
    rw [hthird]
    rfl
  have hall := (hamount.append hamounts).append hamounts'
  rw [Nat.add_zero, Nat.zero_add, hlevels] at hall
  refine ⟨entity, cloud, _, after, third.database.contents, added, identities, grants, hrunAll,
    hafterSound, hfindAfter, hentity, hrow, ⟨fun r => ?_, fun r => ?_, hreported, hall⟩⟩
  · rw [hthird]
    cases r with
    | cloud | region => rfl
    | grant on => cases on <;> exact (List.append_nil _).symm
    | _ => exact (List.append_nil _).symm
  · cases r with
    | cloud => exact hclouds
    | region => exact hregions
    | grant on => cases on <;> exact .nil _
    | _ => exact .nil _

/-- The cloud of a reconciliation is read back if what the snapshot adds is. -/
theorem isReadable_iff_isReadBack (hreadable : before.database.contents.IsReadable)
    {snapshot : Cloud.Snapshot} {after : Progress} (hsound : after.database.Sound) {entity : Cloud}
    (hentity : after.database.contents.cloud? snapshot.cloud.name = some entity) {object : Int}
    {middle : Contents} {added : PerRelation fun r => List (Row r)}
    {identities : List (Row .identity)} {grants : List (Row (.grant .cloud))}
    {outcomes : List Merge}
    (h : Absorbed (.cloud snapshot) object env.now env.defaultAccess before.database.contents
      middle after.database.contents added identities grants outcomes) :
    entity.isReadable = true ↔ snapshot.IsReadBack before.database.contents := by
  have hdistinct := hsound.allDistinct
  have hrows : ∀ r, r ≠ .identity → r ≠ .grant .cloud →
      after.database.contents.get r = before.database.contents.get r ++ added.get r :=
    fun r hidentity hgrant => (h.reported.others r hidentity hgrant).trans (h.rows r)
  have hclouds : (∀ row ∈ added.get .cloud, row.isReadable = true) ↔
      Entry.AreReadBack [snapshot.cloud.entry] (before.database.contents.get .cloud) :=
    (h.admitted .cloud).isReadable_iff
  have hregions : (∀ row ∈ added.get .region, row.isReadable = true) ↔
      Entry.AreReadBack snapshot.cloud.regionEntries (before.database.contents.get .region) :=
    (h.admitted .region).isReadable_iff
  constructor
  · intro hentityReadable
    obtain ⟨hcloud, hregion⟩ := Contents.isReadable_of_cloud? hdistinct hentity hentityReadable
    refine ⟨hclouds.1 fun row hrow => hcloud row ?_ ?_,
      hregions.1 fun row hrow => hregion row ?_ ?_⟩
    · rw [hrows .cloud nofun nofun]
      exact List.mem_append_right _ hrow
    · obtain ⟨e, hfirst, horigin, -⟩ := (h.admitted .cloud).stores row hrow
      rw [← horigin, List.mem_singleton.1 hfirst.mem]
      rfl
    · rw [hrows .region nofun nofun]
      exact List.mem_append_right _ hrow
    · obtain ⟨e, hfirst, horigin, -⟩ := (h.admitted .region).stores row hrow
      obtain ⟨draft, -, rfl⟩ := List.mem_map.1 hfirst.mem
      rw [← horigin]
      rfl
  · intro hback
    have hcontroller : added.get .controller = [] := (h.admitted .controller).eq_nil nofun
    refine Contents.IsReadable.of_cloud? (fun r row hrow => ?_) hdistinct hentity
    cases r with
    | cloud =>
      rw [hrows .cloud nofun nofun] at hrow
      exact (List.mem_append.1 hrow).elim (hreadable .cloud row) (hclouds.2 hback.cloud row)
    | region =>
      rw [hrows .region nofun nofun] at hrow
      exact (List.mem_append.1 hrow).elim (hreadable .region row) (hregions.2 hback.regions row)
    | controller =>
      rw [hrows .controller nofun nofun, hcontroller, List.append_nil] at hrow
      exact hreadable .controller row hrow
    | _ => rfl

theorem reconcile_absorbs (hcalm : env.disturbance = none) (hsound : before.database.Sound)
    (hreadable : before.database.contents.IsReadable) {snapshot : Cloud.Snapshot}
    (htaken : snapshot.IsTaken) (hback : snapshot.IsReadBack before.database.contents) :
    ∃ entity cloud outcomes after middle added identities grants,
      reconcile snapshot env before = .ok ⟨entity, Tally.ofList outcomes⟩ after ∧
        after.database.contents.cloudRow? snapshot.cloud.name = some cloud ∧
        after.database.contents.cloud? snapshot.cloud.name = some entity ∧ entity.row = cloud ∧
        Absorbed (.cloud snapshot) cloud.id env.now env.defaultAccess before.database.contents
          middle after.database.contents added identities grants outcomes := by
  obtain ⟨entity, cloud, outcomes, after, middle, added, identities, grants, hrun, hafterSound,
    hfound, hentity, hrow, habsorbed⟩ := reconcile_steps hcalm hsound htaken
  rw [if_pos ((isReadable_iff_isReadBack hreadable hafterSound hentity habsorbed).2 hback)] at hrun
  exact ⟨entity, cloud, outcomes, after, middle, added, identities, grants, hrun, hfound, hentity,
    hrow, habsorbed⟩

end Clouds

/-- A cloud to which something refers is found. -/
theorem Clouds.referredId_ok (hcalm : env.disturbance = none) {name : String}
    (hname : Text.IsNulFree name)
    (hcloud : ∃ row ∈ before.database.contents.get .cloud, row.origin = name) :
    ∃ id, referredId name env before = .ok id before := by
  obtain ⟨cloud, hfind, -⟩ := Contents.find?_origin_eq_some hcloud
  exact ⟨cloud.id, about_ok _ (queryOne_ok hcalm (Storable.stored?_text hname)
    (congrArg (Option.map fun row : Row .cloud => row.id) hfind))⟩

namespace Credentials

/-- The cloud of a credential is looked at, and its owner is there afterwards. -/
theorem prepare_ok (hcalm : env.disturbance = none) (hsound : before.database.Sound)
    {key : CredentialKey} (hkey : stored? key = some key)
    (hcloud : ∃ row ∈ before.database.contents.get .cloud, row.origin = key.cloud) :
    ∃ after owners, prepare key env before = .ok () after ∧ after.database.Sound ∧
      after.database.contents = before.database.contents.set .identity
        (before.database.contents.get .identity ++ owners) ∧
      Admitted env.now [Identities.firstEntry key.owner env.defaultAccess]
        (before.database.contents.get .identity) owners := by
  obtain ⟨hname, howner, -⟩ := Storable.isNulFree_of_credentialKey hkey
  obtain ⟨_, hreferred⟩ := Clouds.referredId_ok hcalm hname hcloud
  obtain ⟨outcome, after, owners, hensure, hafterSound, hafter, howners⟩ :=
    Identities.ensure_ok hcalm hsound howner
  refine ⟨after, owners, ?_, hafterSound, hafter, howners⟩
  rw [prepare, bind_ok hreferred, bind_ok hensure]
  rfl

theorem withId_ok (hcalm : env.disturbance = none) (hsound : before.database.Sound)
    {key : CredentialKey} {row : Row .credential}
    (h : before.database.contents.credentialRow? key = some row) :
    ∃ entity, withId row.id env before = .ok entity before ∧
      before.database.contents.credential? key = some entity ∧ entity.row = row := by
  obtain ⟨entity, hentity, hhydrated, hrow⟩ := Contents.credential?_of_row h
  refine ⟨entity, queryOne_ok hcalm rfl ?_, hentity, hrow⟩
  rw [Contents.rowWithId?_of_mem hsound.distinct (List.mem_of_find?_eq_some h)]
  exact hhydrated

/-- The steps of a reconciliation: the owner, the credential, and the grants on it. -/
theorem reconcile_absorbs (hcalm : env.disturbance = none) (hsound : before.database.Sound)
    {snapshot : Credential.Snapshot} (htaken : snapshot.IsTaken before.database.contents) :
    ∃ entity row outcomes after middle added identities grants,
      reconcile snapshot.entry snapshot.grants env before =
          .ok ⟨entity, Tally.ofList outcomes⟩ after ∧
        after.database.contents.credentialRow? snapshot.entry.origin = some row ∧
        after.database.contents.credential? snapshot.entry.origin = some entity ∧
        entity.row = row ∧
        Absorbed (.credential snapshot) row.id env.now env.defaultAccess before.database.contents
          middle after.database.contents added identities grants outcomes := by
  obtain ⟨kept, hkept⟩ := htaken.credential
  have hkey : stored? snapshot.entry.origin = some snapshot.entry.origin :=
    Storable.stored?_origin hkept
  obtain ⟨second, owners, hprepare, hsecondSound, hsecond, howners⟩ :=
    prepare_ok hcalm hsound hkey htaken.cloud
  have hcloud : ∃ row ∈ second.database.contents.get .cloud,
      row.origin = snapshot.entry.origin.cloud := by
    rw [hsecond]
    exact htaken.cloud
  have howner : ∃ row ∈ second.database.contents.get .identity,
      row.origin = snapshot.entry.origin.owner := by
    rw [hsecond, PerRelation.get_set_self]
    exact howners.covers _ List.mem_cons_self
  obtain ⟨first, third, credentials, row, hrun, hthird, hcredentials, hamount, hfind, hmem, -⟩ :=
    insertNew_finds Relation.credential_isKeyed hcalm
      (Contents.admits_credential htaken.credential hcloud howner)
  have hfind : third.database.contents.credentialRow? snapshot.entry.origin = some row := hfind
  have hid : idOf snapshot.entry.origin env third = .ok row.id third :=
    queryOne_ok hcalm hkey (by rw [hfind]; rfl)
  have hobject : ∃ other ∈ third.database.contents.get Grantable.credential.relation,
      other.id = row.id := ⟨row, hmem, rfl⟩
  obtain ⟨grantOutcomes, after, identities, grants, hmerged, hafterSound, hreported, hamounts⟩ :=
    Grants.mergeReports_ok hcalm (sound_of_insertNew hrun hsecondSound) htaken.grants hobject
  have hfindAfter : after.database.contents.credentialRow? snapshot.entry.origin = some row := by
    rw [Contents.credentialRow?, hreported.others .credential nofun nofun]
    exact hfind
  obtain ⟨entity, hwith, hentity, hrow⟩ := withId_ok hcalm hafterSound hfindAfter
  have hrunAll : reconcile snapshot.entry snapshot.grants env before =
      .ok ⟨entity, Tally.ofList (first :: grantOutcomes)⟩ after := by
    refine transaction_ok ?_
    rw [bind_ok hprepare, bind_ok hrun, bind_ok hid, bind_ok hmerged, bind_ok hwith]
    rfl
  let added : PerRelation fun r => List (Row r) :=
    { PerRelation.tabulate fun _ => [] with identity := owners, credential := credentials }
  rw [hsecond] at hthird hcredentials
  have hlevels : third.database.contents.levelOn? .credential row.id =
      before.database.contents.levelOn? .credential row.id := by
    rw [hthird]
    rfl
  have hall := hamount.append hamounts
  rw [Nat.zero_add, hlevels] at hall
  refine ⟨entity, row, _, after, third.database.contents, added, identities, grants, hrunAll,
    hfindAfter, hentity, hrow, ⟨fun r => ?_, fun r => ?_, hreported, hall⟩⟩
  · rw [hthird]
    cases r with
    | identity | credential => rfl
    | grant on => cases on <;> exact (List.append_nil _).symm
    | _ => exact (List.append_nil _).symm
  · cases r with
    | identity => exact howners
    | credential => exact hcredentials
    | grant on => cases on <;> exact .nil _
    | _ => exact .nil _

end Credentials

/-- A merge that nothing interrupts succeeds whatever is stored, if the database takes what the
snapshot says and gives it back. -/
theorem Snapshot.absorbs (hcalm : env.disturbance = none) (hsound : before.database.Sound)
    (hreadable : before.database.contents.IsReadable) {snapshot : Snapshot}
    (htaken : snapshot.IsTaken before.database.contents) :
    ∃ entity object outcomes after middle added identities grants,
      snapshot.operation.plan.script env before =
          .ok (.merged ⟨entity, Tally.ofList outcomes⟩) after ∧
        snapshot.object? after.database.contents = some object ∧
        snapshot.entity? after.database.contents = some entity ∧
        Absorbed snapshot object env.now env.defaultAccess before.database.contents middle
          after.database.contents added identities grants outcomes := by
  cases snapshot with
  | cloud s =>
    obtain ⟨entity, row, outcomes, after, middle, added, identities, grants, hrun, hrow, hentity,
      -, habsorbed⟩ := Clouds.reconcile_absorbs hcalm hsound hreadable htaken.1 htaken.2
    exact ⟨.cloud entity, row.id, outcomes, after, middle, added, identities, grants,
      map_ok hrun _, congrArg (Option.map _) hrow, congrArg (Option.map _) hentity, habsorbed⟩
  | credential s =>
    obtain ⟨entity, row, outcomes, after, middle, added, identities, grants, hrun, hrow, hentity,
      -, habsorbed⟩ := Credentials.reconcile_absorbs hcalm hsound htaken
    exact ⟨.credential entity, row.id, outcomes, after, middle, added, identities, grants,
      map_ok hrun _, congrArg (Option.map _) hrow, congrArg (Option.map _) hentity, habsorbed⟩

/-! ## Merges that succeed -/

section

variable {after : Progress}

theorem Grants.isNulFree_of_merge_eq_ok {on : Grantable} {object : Int} {identity : String}
    {access : Access} {outcome : Merge}
    (h : Grants.merge on object identity access env before = .ok outcome after) :
    Text.IsNulFree identity := by
  obtain ⟨_, _, hensure, -⟩ := of_bind_eq_ok h
  rw [Identities.ensure, bind_ok (read_ok env before)] at hensure
  obtain ⟨⟨kept, hkept⟩, -⟩ := of_insertNew_eq_ok hensure
  exact Storable.isNulFree_of_stored? (Storable.stored?_entry_eq_some.1 hkept).1

theorem Grants.isNulFree_of_mergeReports_eq_ok {on : Grantable} {object : Int}
    {reports : List GrantReport} {outcomes : List Merge}
    (h : Grants.mergeReports on object reports env before = .ok outcomes after) :
    ∀ report ∈ reports, Text.IsNulFree report.identity := by
  intro report hreport
  obtain ⟨_, _, _, hmerge⟩ := of_each_eq_ok h report hreport
  exact isNulFree_of_merge_eq_ok hmerge

theorem Clouds.isTaken_of_reconcile_eq_ok {snapshot : Cloud.Snapshot} {merged : Merged Cloud}
    (h : Clouds.reconcile snapshot env before = .ok merged after) :
    env.disturbance = none ∧ snapshot.IsTaken := by
  obtain ⟨_, _, _, _, _, _, hcloud, hid, -, hregions, hgrants, -⟩ := of_reconcile_eq_ok h
  obtain ⟨hstored, hwritten⟩ := of_insertNew_eq_ok hcloud
  refine ⟨calm_of_queryOne_eq_ok hwritten hid, hstored, fun region hregion => ?_,
    Grants.isNulFree_of_mergeReports_eq_ok hgrants⟩
  obtain ⟨_, _, _, hrun⟩ := of_each_eq_ok hregions region hregion
  exact (of_insertNew_eq_ok hrun).1

/-- A reconciliation that succeeds has read back what it added. -/
theorem Clouds.isReadBack_of_reconcile_eq_ok (hsound : before.database.Sound)
    (hreadable : before.database.contents.IsReadable) {snapshot : Cloud.Snapshot}
    {merged : Merged Cloud} (h : Clouds.reconcile snapshot env before = .ok merged after) :
    snapshot.IsReadBack before.database.contents := by
  obtain ⟨hcalm, htaken⟩ := isTaken_of_reconcile_eq_ok h
  obtain ⟨entity, cloud, outcomes, last, middle, added, identities, grants, hrun, hlast, -, hentity,
    -, habsorbed⟩ := reconcile_steps hcalm hsound htaken
  rw [h] at hrun
  split at hrun
  next hread => exact (isReadable_iff_isReadBack hreadable hlast hentity habsorbed).1 hread
  next => cases hrun

theorem Credentials.isTaken_of_reconcile_eq_ok {snapshot : Credential.Snapshot}
    {merged : Merged Credential}
    (h : Credentials.reconcile snapshot.entry snapshot.grants env before = .ok merged after) :
    env.disturbance = none ∧ snapshot.IsTaken before.database.contents := by
  obtain ⟨_, _, _, _, _, hprepare, hcredential, hid, -, hgrants, -⟩ := of_reconcile_eq_ok h
  obtain ⟨id, _, hcloud, -⟩ := of_bind_eq_ok hprepare
  obtain ⟨name, hname, hfound, -⟩ := of_queryOne_eq_ok (of_about_eq_ok hcloud)
  obtain ⟨hstored, hwritten⟩ := of_insertNew_eq_ok hcredential
  refine ⟨calm_of_queryOne_eq_ok hwritten hid, ?_, hstored,
    Grants.isNulFree_of_mergeReports_eq_ok hgrants⟩
  obtain ⟨row, hrow, -⟩ := Option.map_eq_some_iff.1 hfound
  refine ⟨row, List.mem_of_find?_eq_some hrow, ?_⟩
  rw [← Storable.isExact_text _ _ hname]
  simpa using List.find?_some hrow

theorem Snapshot.isTaken_of_script_eq_ok (hsound : before.database.Sound)
    (hreadable : before.database.contents.IsReadable) {snapshot : Snapshot} {reply : Reply}
    (h : snapshot.operation.plan.script env before = .ok reply after) :
    env.disturbance = none ∧ snapshot.IsTaken before.database.contents := by
  cases snapshot with
  | cloud s =>
    obtain ⟨merged, hrun, -⟩ := of_map_eq_ok h
    obtain ⟨hcalm, htaken⟩ := Clouds.isTaken_of_reconcile_eq_ok hrun
    exact ⟨hcalm, htaken, Clouds.isReadBack_of_reconcile_eq_ok hsound hreadable hrun⟩
  | credential s =>
    obtain ⟨merged, hrun, -⟩ := of_map_eq_ok h
    exact Credentials.isTaken_of_reconcile_eq_ok hrun

end

end ControlPlane
