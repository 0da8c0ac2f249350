/-
Overwriting the settings of an entity.

A revision is one update of the row that its key addresses, and then that row is read.  So one row
gets other settings and the time, and every other row of every relation stays
(`Contents.Revised`).  The settings are those that were asked for, in stored form, and the
constraints are asked about the new row beside the others.  What a revision does is read back from a
run that succeeded (`Key.of_revision_eq_ok`); where nothing interrupts it, it succeeds whenever the
constraints have nothing against the new row and its documents are readable (`Key.revision_ok`).
-/
import ControlPlane.Proofs.Documents
import ControlPlane.Proofs.Rereading
import ControlPlane.Proofs.StoredForm

namespace ControlPlane

open IdentityName (sanitise)
open Script

/-! ## Rows with other settings -/

/-- A row whose settings were overwritten. -/
def Row.revised {r : Relation} (row : Row r) (settings : Settings r) (now : Timestamp) : Row r :=
  { row with settings := settings, updatedAt := now }

namespace Contents

variable {r : Relation} {before middle after : Contents} {row : Row r}
  {settings first second : Settings r} {now : Timestamp}

/-- Whether one row, and no other of any relation, got other settings. -/
structure Revised (before after : Contents) (row : Row r) (settings : Settings r)
    (now : Timestamp) : Prop where
  mem : row ∈ before.get r
  rows : after.get r = rewritten (before.get r) (row.revised settings now)
  others : ∀ q, q ≠ r → after.get q = before.get q

theorem rewritten_rewritten (rows : List (Row r)) {one other : Row r} (hid : one.id = other.id) :
    rewritten (rewritten rows one) other = rewritten rows other := by
  rw [rewritten, rewritten, List.map_map]
  refine List.map_congr_left fun old _ => ?_
  by_cases hold : old.id = one.id
  · rw [Function.comp, if_pos hold, if_pos hid, if_pos (hold.trans hid)]
  · rw [Function.comp, if_neg hold]

theorem mem_rewritten {rows : List (Row r)} {old new : Row r} (hold : old ∈ rows)
    (hid : old.id = new.id) : new ∈ rewritten rows new :=
  List.mem_map.2 ⟨old, hold, if_pos hid⟩

namespace Revised

theorem mem_after (h : Revised before after row settings now) :
    row.revised settings now ∈ after.get r := by
  rw [h.rows]
  exact mem_rewritten h.mem rfl

/-- Where a row gets readable settings, all documents stay readable. -/
theorem isReadable (h : Revised before after row settings now) (hbefore : before.IsReadable)
    (hnew : (row.revised settings now).isReadable = true) : after.IsReadable := by
  intro q other hother
  by_cases hq : q = r
  · subst hq
    rw [h.rows] at hother
    obtain ⟨old, hold, rfl⟩ := List.mem_map.1 hother
    split
    · exact hnew
    · exact hbefore q old hold
  · rw [h.others q hq] at hother
    exact hbefore q other hother

/-- Of two revisions of a row the last one stays. -/
theorem trans {later : Timestamp} (h : Revised before middle row first now)
    (h' : Revised middle after (row.revised first now) second later) :
    Revised before after row second later where
  mem := h.mem
  rows := by
    rw [h'.rows, h.rows]
    exact rewritten_rewritten _ rfl
  others q hq := (h'.others q hq).trans (h.others q hq)

end Revised

/-! ## Updates -/

theorem canReplace_iff {c : Contents} {e : Entry r} :
    c.refusal? ((c.get r).filter fun other => other.id != row.id) e = none ↔
      c.CanReplace row e := by
  rw [refusal?_eq_none]
  constructor
  · rintro ⟨hunique, hresolves⟩
    refine ⟨fun u hu other hother hne => ?_, hresolves⟩
    exact hunique u hu other (List.mem_filter.2 ⟨hother, bne_iff_ne.2 hne⟩)
  · rintro ⟨hunique, hresolves⟩
    refine ⟨fun u hu other hother => ?_, hresolves⟩
    obtain ⟨hmem, hne⟩ := List.mem_filter.1 hother
    exact hunique u hu other hmem (bne_iff_ne.1 hne)

/-- A row can stand where it stands. -/
theorem canReplace_self {c : Contents} (hunique : c.Unique) (hclosed : c.Closed)
    (hrow : row ∈ c.get r) : c.CanReplace row row.toEntry where
  unique u hu other hother hne := by
    rw [Bool.eq_false_iff]
    intro hconflicts
    exact hne (congrArg Row.id (hunique.eq_of_conflicts hu hrow hother hconflicts).symm)
  resolves ref href := hclosed r row hrow ref href

/-- What can stand in the place of a row is not for its settings to say. -/
theorem Revised.canReplace (h : Revised before middle row first now) {e : Entry r}
    (hreplace : middle.CanReplace (row.revised first now) e) : before.CanReplace row e where
  unique u hu other hother hne := by
    refine hreplace.unique u hu other ?_ hne
    rw [h.rows]
    exact List.mem_map.2 ⟨other, hother, if_neg hne⟩
  resolves ref href := by
    obtain ⟨target, htarget, hrefers⟩ := resolves_iff.1 (hreplace.resolves ref href)
    rw [h.others _ (target_ne href)] at htarget
    exact resolves_iff.2 ⟨target, htarget, hrefers⟩

theorem revised_of_update {which : Row r → Bool} {change : Settings r → Settings r}
    (hfind : (before.get r).find? which = some row) {written : Option (Row r)}
    (h : before.update now which change = .ok (written, after)) :
    written = some (row.revised (change row.settings) now) ∧
      before.CanReplace row (row.revised (change row.settings) now).toEntry ∧
      Revised before after row (change row.settings) now := by
  unfold update at h
  rw [hfind] at h
  dsimp only at h
  split at h
  next => cases h
  next hrefusal =>
    cases h
    refine ⟨rfl, canReplace_iff.1 hrefusal, List.mem_of_find?_eq_some hfind, ?_, ?_⟩
    · rw [PerRelation.get_set_self]
      rfl
    · exact fun q hq => PerRelation.get_set_of_ne _ _ hq

theorem update_revises {which : Row r → Bool} {change : Settings r → Settings r}
    (hfind : (before.get r).find? which = some row)
    (hreplace : before.CanReplace row (row.revised (change row.settings) now).toEntry) :
    ∃ after, before.update now which change =
      .ok (some (row.revised (change row.settings) now), after) := by
  have hrefusal := canReplace_iff.2 hreplace
  unfold Row.revised at hrefusal
  unfold update
  rw [hfind]
  dsimp only
  rw [hrefusal]
  exact ⟨_, rfl⟩

end Contents

/-! ## Statements -/

namespace Script

variable {α : Type} {r : Relation} {env : Environment} {before after : Progress}

/-- The row under a key is overwritten. -/
theorem of_update_keyed [Storable α] (hexact : Storable.IsExact α) {key : α}
    {settings : Settings r} (which : α → Row r → Bool) {new : Row r}
    (h : update (key, settings) (fun p row => which p.1 row) (fun p _ => p.2) env before =
      .ok (some new) after) :
    ∃ kept row, stored? settings = some kept ∧
      (before.database.contents.get r).find? (which key) = some row ∧
      new = row.revised kept env.now ∧
      before.database.contents.CanReplace row new.toEntry ∧
      Contents.Revised before.database.contents after.database.contents row kept env.now := by
  obtain ⟨kept, contents, hkept, hupdate, rfl⟩ := of_update_eq_ok h
  obtain ⟨hkey, hsettings⟩ := Storable.stored?_pair_eq_some.1 hkept
  rw [hexact _ _ hkey] at hupdate
  cases hfind : (before.database.contents.get r).find? (which key) with
  | none =>
    rw [Contents.update_of_none hfind] at hupdate
    cases hupdate
  | some row =>
    obtain ⟨hwritten, hreplace, hrevised⟩ := Contents.revised_of_update hfind hupdate
    obtain rfl := Option.some.inj hwritten
    exact ⟨kept.2, row, hsettings, rfl, rfl, hreplace, hrevised⟩

theorem update_revises [Storable α] (hcalm : env.disturbance = none)
    (hsound : before.database.Sound) (hreadable : before.database.contents.IsReadable) {key : α}
    (hkey : stored? key = some key) {settings kept : Settings r}
    (hkept : stored? settings = some kept) (which : α → Row r → Bool) {row : Row r}
    (hfind : (before.database.contents.get r).find? (which key) = some row)
    (hfits : before.database.contents.CanReplace row (row.revised kept env.now).toEntry)
    (hnew : (row.revised kept env.now).isReadable = true) :
    ∃ after, update (key, settings) (fun p row => which p.1 row) (fun p _ => p.2) env before =
        .ok (some (row.revised kept env.now)) after ∧
      row.revised kept env.now ∈ after.database.contents.get r ∧
        after.database.contents.IsReadable ∧ after.database.contents.AllDistinct := by
  let change : Settings r → Settings r := fun _ => kept
  have hfits : before.database.contents.CanReplace row
      (row.revised (change row.settings) env.now).toEntry := hfits
  obtain ⟨contents, hupdate⟩ := Contents.update_revises hfind hfits
  obtain ⟨-, -, hrevised⟩ := Contents.revised_of_update hfind hupdate
  have hrun : update (key, settings) (fun p row => which p.1 row) (fun p _ => p.2) env before =
      .ok (some (row.revised kept env.now)) ⟨{ before.database with contents := contents }, true⟩ :=
    update_ok hcalm (Storable.stored?_pair hkey hkept) hupdate
  have hafter := sound_of_ok (within_update _ _ _ fun _ _ => trivial) hrun hsound
  exact ⟨_, hrun, hrevised.mem_after, hrevised.isReadable hreadable hnew, hafter.allDistinct⟩

/-- The row whose number was found before is overwritten. -/
theorem of_update_numbered (hdistinct : before.database.contents.Distinct) {row : Row r}
    (hrow : row ∈ before.database.contents.get r) {settings : Settings r}
    {written : Option (Row r)}
    (h : update (row.id, settings) (fun p (row : Row r) => row.id = p.1) (fun p _ => p.2) env
      before = .ok written after) :
    ∃ kept, stored? settings = some kept ∧
      before.database.contents.CanReplace row (row.revised kept env.now).toEntry ∧
      Contents.Revised before.database.contents after.database.contents row kept env.now := by
  obtain ⟨kept, contents, hkept, hupdate, rfl⟩ := of_update_eq_ok h
  obtain ⟨hid, hsettings⟩ := Storable.stored?_pair_eq_some.1 hkept
  rw [← Option.some.inj hid] at hupdate
  obtain ⟨-, hreplace, hrevised⟩ :=
    Contents.revised_of_update (Contents.rowWithId?_of_mem hdistinct hrow) hupdate
  exact ⟨kept.2, hsettings, hreplace, hrevised⟩

/-- What is read by the number of a row is the entity that shows it. -/
theorem entityOf?_of_numbered {ε : Type} {hydrate : Contents → Row r → Option ε}
    {wrap : ε → Entity}
    (hhydrate : ∀ row, (hydrate after.database.contents row).map wrap =
      after.database.contents.entityOf? row)
    (hdistinct : after.database.contents.Distinct) {row : Row r}
    (hrow : row ∈ before.database.contents.get r) {entity : ε}
    (h : queryOne row.id (fun id c => (c.rowWithId? r id).bind (hydrate c)) env before =
      .ok entity after) :
    after = before ∧ before.database.contents.entityOf? row = some (wrap entity) := by
  obtain ⟨id, hid, hfound, rfl⟩ := of_queryOne_eq_ok h
  rw [← Option.some.inj hid, Contents.rowWithId?_of_mem hdistinct hrow, Option.bind_some] at hfound
  refine ⟨rfl, ?_⟩
  rw [← hhydrate, hfound]
  rfl

end Script

/-! ## Revisions -/

namespace Key

/-- The operation that overwrites the settings of what a key addresses. -/
def revision : (key : Key) → Settings key.relation → Operation
  | cloud name, settings => .updateCloud name settings
  | region key, settings => .updateRegion key settings
  | controller key, settings => .updateController key settings
  | model key, settings => .updateModel key settings
  | credential key, settings => .updateCredential key settings
  | identity name, settings => .updateIdentity name settings

/-- The settings that a revision asks for: an empty display name stands for the default. -/
def asked : (key : Key) → Settings key.relation → Settings key.relation
  | identity name, settings =>
    { settings with
      displayName := Identities.displayNameOr (sanitise name) settings.displayName }
  | _, settings => settings

theorem subject_revision (key : Key) (settings : Settings key.relation) :
    (key.revision settings).plan.subject = key.subject := by
  cases key <;> rfl

variable {key : Key} {settings : Settings key.relation} {env : Environment}
  {before after : Progress}

/-- What a revision that succeeds has come to. -/
structure Overwrites (key : Key) (settings : Settings key.relation) (now : Timestamp)
    (before after : Contents) (row : Row key.relation) (kept : Settings key.relation)
    (entity : Entity) : Prop where
  found : key.row? before = some row
  stored : stored? (key.asked settings) = some kept
  fits : before.CanReplace row (row.revised kept now).toEntry
  revised : Contents.Revised before after row kept now
  shown : after.entityOf? (row.revised kept now) = some entity

/-- A revision that succeeds has overwritten the row that its key names, and shows it. -/
theorem of_revision_eq_ok (hsound : before.database.Sound) {reply : Reply}
    (h : (key.revision settings).plan.script env before = .ok reply after) :
    ∃ row kept entity, reply = .entity entity ∧ key.Overwrites settings env.now
      before.database.contents after.database.contents row kept entity := by
  have hafter := (evolution_of_ok ((key.revision settings).within env) h).sound hsound
  have hc := hafter.allDistinct
  cases key with
  | cloud name =>
    obtain ⟨cloud, hrun, rfl⟩ := of_map_eq_ok h
    obtain ⟨written, middle, hupdate, hread⟩ := of_bind_eq_ok (of_transaction_eq_ok hrun)
    cases written with
    | none => cases hread
    | some new =>
      obtain ⟨kept, row, hsettings, hfind, rfl, hreplace, hrevised⟩ := of_update_keyed
        Storable.isExact_text (fun name (row : Row .cloud) => row.origin = name) hupdate
      obtain ⟨rfl, -, hshown⟩ := Clouds.entity?_of_get (of_decoded_eq_ok hread).1
      have hfound : (Key.cloud name).row? before.database.contents = some row := hfind
      have hnames : (Key.cloud name).Names (row.revised kept env.now).toEntry :=
        (names_of_row? hfound).2
      rw [entity?_eq _ hc, row?_eq_some hafter.unique hrevised.mem_after hnames] at hshown
      exact ⟨row, kept, _, rfl, hfind, hsettings, hreplace, hrevised, hshown⟩
  | region key =>
    obtain ⟨region, hrun, rfl⟩ := of_map_eq_ok h
    obtain ⟨written, middle, hupdate, hread⟩ := of_bind_eq_ok (of_transaction_eq_ok hrun)
    cases written with
    | none => cases hread
    | some new =>
      obtain ⟨kept, row, hsettings, hfind, rfl, hreplace, hrevised⟩ := of_update_keyed
        Storable.isExact_regionKey (fun key (row : Row .region) => row.origin = key) hupdate
      obtain ⟨rfl, hshown⟩ := entityOf?_of_numbered
        (fun row => congrArg _ (hc.regionOfRow?_eq row)) hafter.distinct hrevised.mem_after
        (of_decoded_eq_ok hread).1
      exact ⟨row, kept, _, rfl, hfind, hsettings, hreplace, hrevised, hshown⟩
  | controller key =>
    obtain ⟨controller, hrun, rfl⟩ := of_map_eq_ok h
    obtain ⟨id, middle, hid, hrest⟩ := of_bind_eq_ok (of_transaction_eq_ok hrun)
    obtain ⟨row, hrow, rfl, rfl⟩ := of_number_eq_ok Storable.isExact_controllerKey hid
    rw [← row?_controller] at hrow
    obtain ⟨written, last, hupdate, hread⟩ := of_bind_eq_ok hrest
    obtain ⟨kept, hsettings, hreplace, hrevised⟩ :=
      of_update_numbered hsound.distinct (names_of_row? hrow).1 hupdate
    obtain ⟨rfl, hshown⟩ := entityOf?_of_numbered
      (fun row => congrArg _ (hc.controllerOfRow?_eq row)) hafter.distinct hrevised.mem_after
      (of_decoded_eq_ok hread).1
    exact ⟨row, kept, _, rfl, hrow, hsettings, hreplace, hrevised, hshown⟩
  | model key =>
    obtain ⟨model, hrun, rfl⟩ := of_map_eq_ok h
    obtain ⟨id, middle, hid, hrest⟩ := of_bind_eq_ok (of_transaction_eq_ok hrun)
    obtain ⟨row, hrow, rfl, rfl⟩ := of_number_eq_ok Storable.isExact_modelKey hid
    rw [← row?_model] at hrow
    obtain ⟨written, last, hupdate, hread⟩ := of_bind_eq_ok hrest
    obtain ⟨kept, hsettings, hreplace, hrevised⟩ :=
      of_update_numbered hsound.distinct (names_of_row? hrow).1 hupdate
    obtain ⟨rfl, hshown⟩ := entityOf?_of_numbered
      (fun row => congrArg _ (hc.modelOfRow?_eq row)) hafter.distinct hrevised.mem_after hread
    exact ⟨row, kept, _, rfl, hrow, hsettings, hreplace, hrevised, hshown⟩
  | credential key =>
    obtain ⟨credential, hrun, rfl⟩ := of_map_eq_ok h
    obtain ⟨written, middle, hupdate, hread⟩ := of_bind_eq_ok (of_transaction_eq_ok hrun)
    cases written with
    | none => cases hread
    | some new =>
      obtain ⟨kept, row, hsettings, hfind, rfl, hreplace, hrevised⟩ := of_update_keyed
        Storable.isExact_credentialKey (fun key (row : Row .credential) => row.origin = key) hupdate
      obtain ⟨rfl, hshown⟩ := entityOf?_of_numbered
        (fun row => congrArg _ (hc.credentialOfRow?_eq row)) hafter.distinct hrevised.mem_after
        hread
      exact ⟨row, kept, _, rfl, hfind, hsettings, hreplace, hrevised, hshown⟩
  | identity name =>
    obtain ⟨identity, hrun, rfl⟩ := of_map_eq_ok h
    obtain ⟨written, middle, hupdate, hrest⟩ := of_bind_eq_ok hrun
    cases written with
    | none => cases hrest
    | some new =>
      cases hrest
      obtain ⟨kept, row, hsettings, hfind, rfl, hreplace, hrevised⟩ := of_update_keyed
        Storable.isExact_text (fun name (row : Row .identity) => row.origin = name) hupdate
      exact ⟨row, kept, _, rfl, hfind, hsettings, hreplace, hrevised, rfl⟩

/-- A revision that nothing interrupts succeeds if the constraints have nothing against the new
row and its documents are readable. -/
theorem revision_ok (hcalm : env.disturbance = none) (hsound : before.database.Sound)
    (hreadable : before.database.contents.IsReadable) (hstorable : key.IsStorable)
    {row : Row key.relation} (hrow : key.row? before.database.contents = some row)
    {kept : Settings key.relation} (hkept : stored? (key.asked settings) = some kept)
    (hfits : before.database.contents.CanReplace row (row.revised kept env.now).toEntry)
    (hnew : (row.revised kept env.now).isReadable = true) :
    ∃ reply after, (key.revision settings).plan.script env before = .ok reply after := by
  have hmem := (names_of_row? hrow).1
  have hdistinct := hsound.distinct
  cases key with
  | cloud name =>
    obtain ⟨middle, hupdate, hmem', hreadable', hc⟩ := update_revises hcalm hsound hreadable
      hstorable hkept (fun name (row : Row .cloud) => row.origin = name) hrow hfits hnew
    have hname : row.origin = name := (names_of_row? hrow).2
    obtain ⟨found, hfound, -⟩ := Contents.find?_origin_eq_some ⟨_, hmem', hname⟩
    obtain ⟨cloud, hget, -⟩ := Clouds.get_eq_ok hcalm hstorable hfound
    have hread := Clouds.readBack_ok hreadable' hc hget
    exact ⟨_, middle, map_ok (transaction_ok ((bind_ok hupdate _).trans hread)) Reply.ofCloud⟩
  | region key =>
    obtain ⟨middle, hupdate, hmem', hreadable', hc⟩ := update_revises hcalm hsound hreadable
      hstorable hkept (fun key (row : Row .region) => row.origin = key) hrow hfits hnew
    obtain ⟨region, hfound⟩ := withId_ok (fun c => c.showsRows_regions _) hcalm hmem'
    have hread := Regions.readBack_ok hreadable' hc hfound
    exact ⟨_, middle, map_ok (transaction_ok ((bind_ok hupdate _).trans hread)) Reply.ofRegion⟩
  | controller key =>
    have hid : Controllers.idOf key env before = .ok row.id before :=
      queryOne_ok hcalm hstorable (by rw [← row?_controller, hrow]; rfl)
    have hnumber : stored? row.id = some row.id := rfl
    obtain ⟨middle, hupdate, hmem', hreadable', hc⟩ := update_revises hcalm hsound hreadable
      hnumber hkept (fun id (row : Row .controller) => row.id = id)
      (Contents.rowWithId?_of_mem hdistinct hmem) hfits hnew
    obtain ⟨controller, hfound⟩ := withId_ok (fun c => c.showsRows_controllers _) hcalm hmem'
    have hread := Controllers.readBack_ok hreadable' hc hfound
    have hrun : Controllers.overwrite key settings env before = .ok controller middle :=
      transaction_ok ((bind_ok hid _).trans ((bind_ok hupdate _).trans hread))
    exact ⟨_, middle, map_ok hrun Reply.ofController⟩
  | model key =>
    have hid : Models.idOf key.sanitise env before = .ok row.id before :=
      queryOne_ok hcalm hstorable (by rw [← row?_model, hrow]; rfl)
    have hnumber : stored? row.id = some row.id := rfl
    obtain ⟨middle, hupdate, hmem', -⟩ := update_revises hcalm hsound hreadable hnumber hkept
      (fun id (row : Row .model) => row.id = id)
      (Contents.rowWithId?_of_mem hdistinct hmem) hfits hnew
    obtain ⟨model, hread⟩ := withId_ok (fun c => c.showsRows_models _) hcalm hmem'
    have hrun : Models.overwrite key.sanitise settings env before = .ok model middle :=
      transaction_ok ((bind_ok hid _).trans ((bind_ok hupdate _).trans hread))
    exact ⟨_, middle, map_ok hrun Reply.ofModel⟩
  | credential key =>
    obtain ⟨middle, hupdate, hmem', -⟩ := update_revises hcalm hsound hreadable hstorable hkept
      (fun key (row : Row .credential) => row.origin = key) hrow hfits hnew
    obtain ⟨credential, hread⟩ := withId_ok (fun c => c.showsRows_credentials _) hcalm hmem'
    have hrun : Credentials.overwrite key.sanitise settings env before = .ok credential middle :=
      transaction_ok ((bind_ok hupdate _).trans hread)
    exact ⟨_, middle, map_ok hrun Reply.ofCredential⟩
  | identity name =>
    obtain ⟨middle, hupdate, -⟩ := update_revises hcalm hsound hreadable hstorable hkept
      (fun name (row : Row .identity) => row.origin = name) hrow hfits hnew
    exact ⟨_, middle, map_ok ((bind_ok hupdate _).trans rfl) Reply.ofIdentity⟩

end Key
end ControlPlane
