/-
What a sound database has, relation by relation.

`Database.Sound` speaks of all constraints at once.  Here they are spelled out: the keys that no two
rows share, the row to which each reference leads, and the numbers that rows may have.  Every
session comes to a consistent database only.
-/
import ControlPlane.Proofs.Integrity

namespace ControlPlane

/-- Where no two rows have the same key, the row that is found by a key is the only one with it. -/
theorem find?_key_eq_some {α κ : Type} [DecidableEq κ] {key : α → κ} {rows : List α}
    (h : (rows.map key).Nodup) {k : κ} {row : α} :
    rows.find? (fun row => key row = k) = some row ↔ row ∈ rows ∧ key row = k := by
  constructor
  · intro hfind
    exact ⟨List.mem_of_find?_eq_some hfind, by simpa using List.find?_some hfind⟩
  · rintro ⟨hrow, hkey⟩
    cases hfind : rows.find? (fun row => key row = k) with
    | none => exact absurd (decide_eq_true hkey) (List.find?_eq_none.1 hfind row hrow)
    | some other =>
      have hother : key other = k := by simpa using List.find?_some hfind
      exact congrArg some (List.inj_on_of_nodup_map h (List.mem_of_find?_eq_some hfind) hrow
        (hother.trans hkey.symm))

namespace Database

/-- The constraints of all relations. -/
structure Consistent (db : Database) : Prop where
  cloudNames : (db.contents.cloud.map fun row => row.origin).Nodup
  regionKeys : (db.contents.region.map fun row => (row.origin.cloud, row.origin.region)).Nodup
  controllerNames : (db.contents.controller.map fun row => row.origin.name).Nodup
  controllerUuids : (db.contents.controller.map fun row => row.origin.uuid).Nodup
  /-- Any number of models may have no identifier yet. -/
  modelUuids : (db.contents.model.filterMap fun row => row.settings.uuid).Nodup
  modelNames : (db.contents.model.map fun row => (row.origin.owner, row.origin.name)).Nodup
  identityNames : (db.contents.identity.map fun row => row.origin).Nodup
  credentialKeys : (db.contents.credential.map fun row =>
    (row.origin.cloud, row.origin.owner, row.origin.name)).Nodup
  grants : ∀ on, ((db.contents.get (.grant on)).map fun row =>
    (row.origin.object, row.origin.identity)).Nodup
  links : (db.contents.link.map fun row => (row.origin.region, row.origin.controller)).Nodup
  cloudOfRegion : ∀ region ∈ db.contents.region,
    ∃ cloud ∈ db.contents.cloud, cloud.origin = region.origin.cloud
  regionOfController : ∀ controller ∈ db.contents.controller,
    ∃ region ∈ db.contents.region, region.origin = controller.origin.hosting
  regionOfLink : ∀ link ∈ db.contents.link,
    ∃ region ∈ db.contents.region, region.id = link.origin.region
  controllerOfLink : ∀ link ∈ db.contents.link,
    ∃ controller ∈ db.contents.controller, controller.id = link.origin.controller
  cloudOfCredential : ∀ credential ∈ db.contents.credential,
    ∃ cloud ∈ db.contents.cloud, cloud.origin = credential.origin.cloud
  ownerOfCredential : ∀ credential ∈ db.contents.credential,
    ∃ owner ∈ db.contents.identity, owner.origin = credential.origin.owner
  ownerOfModel : ∀ model ∈ db.contents.model,
    ∃ owner ∈ db.contents.identity, owner.origin = model.origin.owner
  controllerOfModel : ∀ model ∈ db.contents.model,
    ∃ controller ∈ db.contents.controller, controller.id = model.settings.controller
  regionOfModel : ∀ model ∈ db.contents.model,
    ∃ region ∈ db.contents.region, region.id = model.origin.region
  credentialOfModel : ∀ model ∈ db.contents.model,
    ∃ credential ∈ db.contents.credential, credential.id = model.settings.credential
  objectOfGrant : ∀ on, ∀ grant ∈ db.contents.get (.grant on),
    ∃ object ∈ db.contents.get on.relation, object.id = grant.origin.object
  identityOfGrant : ∀ on, ∀ grant ∈ db.contents.get (.grant on),
    ∃ identity ∈ db.contents.identity, identity.origin = grant.origin.identity
  ids : ∀ r, ((db.contents.get r).map fun row => row.id).Nodup
  numbers : ∀ r, ∀ row ∈ db.contents.get r, row.id < db.sequences.get r

end Database

namespace Contents

variable {r : Relation} {c : Contents}

/-- A row is found by its number. -/
theorem rowWithId?_of_mem (hdistinct : c.Distinct) {row : Row r} (hrow : row ∈ c.get r) :
    c.rowWithId? r row.id = some row :=
  (find?_key_eq_some (List.pairwise_map.2 (hdistinct r))).2 ⟨hrow, rfl⟩

theorem Unique.nodup_map {κ : Type} {key : Row r → κ} {u : Uniqueness r} (h : c.Unique)
    (hu : u ∈ uniquenesses r)
    (hkey : ∀ a b, key a = key b → u.conflicts a.toEntry b.toEntry = true) :
    ((c.get r).map key).Nodup := by
  refine List.pairwise_map.2 ((h r u hu).imp ?_)
  intro a b hconflicts heq
  rw [hkey a b heq] at hconflicts
  cases hconflicts

theorem Unique.nodup_filterMap {κ : Type} {key : Row r → Option κ} {u : Uniqueness r}
    (h : c.Unique) (hu : u ∈ uniquenesses r)
    (hkey : ∀ a b k, key a = some k → key b = some k →
      u.conflicts a.toEntry b.toEntry = true) :
    ((c.get r).filterMap key).Nodup := by
  refine List.pairwise_filterMap.2 ((h r u hu).imp ?_)
  rintro a b hconflicts k hk _ hk' rfl
  rw [hkey a b k hk hk'] at hconflicts
  cases hconflicts

theorem Closed.exists_row {row : Row r} {ref : Reference r} {P : Row ref.target → Prop}
    (h : c.Closed) (hrow : row ∈ c.get r) (href : ref ∈ references r)
    (hrefers : ∀ target, ref.refersTo row.toEntry target = true → P target) :
    ∃ target ∈ c.get ref.target, P target := by
  obtain ⟨target, htarget, hleads⟩ := resolves_iff.1 (h r row hrow ref href)
  exact ⟨target, htarget, hrefers target hleads⟩

end Contents

namespace Database

theorem consistent_of_sound {db : Database} (h : db.Sound) : db.Consistent where
  cloudNames := h.unique.nodup_map (r := .cloud) List.mem_cons_self fun a b heq => by
    simp [Uniqueness.conflicts, heq]
  regionKeys := h.unique.nodup_map (r := .region) List.mem_cons_self fun a b heq => by
    simp_all [Uniqueness.conflicts]
  controllerNames := h.unique.nodup_map (r := .controller) List.mem_cons_self fun a b heq => by
    simp [Uniqueness.conflicts, heq]
  controllerUuids :=
    h.unique.nodup_map (r := .controller) (List.mem_cons_of_mem _ List.mem_cons_self)
      fun a b heq => by simp [Uniqueness.conflicts, heq]
  modelUuids := h.unique.nodup_filterMap (r := .model) List.mem_cons_self fun a b k ha hb => by
    simp [Uniqueness.conflicts, ha, hb]
  modelNames := h.unique.nodup_map (r := .model) (List.mem_cons_of_mem _ List.mem_cons_self)
    fun a b heq => by simp_all [Uniqueness.conflicts]
  identityNames := h.unique.nodup_map (r := .identity) List.mem_cons_self fun a b heq => by
    simp [Uniqueness.conflicts, heq]
  credentialKeys := h.unique.nodup_map (r := .credential) List.mem_cons_self fun a b heq => by
    simp_all [Uniqueness.conflicts]
  grants on := h.unique.nodup_map (r := .grant on) List.mem_cons_self fun a b heq => by
    simp_all [Uniqueness.conflicts]
  links := h.unique.nodup_map (r := .link) List.mem_cons_self fun a b heq => by
    simp_all [Uniqueness.conflicts]
  cloudOfRegion _ hrow :=
    h.closed.exists_row (r := .region) hrow (.head _) fun _ h => (of_decide_eq_true h).symm
  regionOfController _ hrow :=
    h.closed.exists_row (r := .controller) hrow (.head _) fun _ h => (of_decide_eq_true h).symm
  regionOfLink _ hrow :=
    h.closed.exists_row (r := .link) hrow (.head _) fun _ h => (of_decide_eq_true h).symm
  controllerOfLink _ hrow :=
    h.closed.exists_row (r := .link) hrow (.tail _ (.head _)) fun _ h => (of_decide_eq_true h).symm
  cloudOfCredential _ hrow :=
    h.closed.exists_row (r := .credential) hrow (.head _) fun _ h => (of_decide_eq_true h).symm
  ownerOfCredential _ hrow :=
    h.closed.exists_row (r := .credential) hrow (.tail _ (.head _))
      fun _ h => (of_decide_eq_true h).symm
  ownerOfModel _ hrow :=
    h.closed.exists_row (r := .model) hrow (.head _) fun _ h => (of_decide_eq_true h).symm
  controllerOfModel _ hrow :=
    h.closed.exists_row (r := .model) hrow (.tail _ (.head _)) fun _ h => (of_decide_eq_true h).symm
  regionOfModel _ hrow :=
    h.closed.exists_row (r := .model) hrow (.tail _ (.tail _ (.head _)))
      fun _ h => (of_decide_eq_true h).symm
  credentialOfModel _ hrow :=
    h.closed.exists_row (r := .model) hrow (.tail _ (.tail _ (.tail _ (.head _))))
      fun _ h => (of_decide_eq_true h).symm
  objectOfGrant _ _ hrow :=
    h.closed.exists_row (r := .grant _) hrow (.head _) fun _ h => (of_decide_eq_true h).symm
  identityOfGrant _ _ hrow :=
    h.closed.exists_row (r := .grant _) hrow (.tail _ (.head _))
      fun _ h => (of_decide_eq_true h).symm
  ids r := List.pairwise_map.2 (h.distinct r)
  numbers r row hrow := (h.numbered r row hrow).2

end Database

namespace Deployment

/-- Whatever a session did, failing and interrupted calls included, it leaves a consistent database.
From there on, until a reset, no number that was drawn so far goes to another row. -/
theorem Reachable.consistent {dep : Deployment} (h : dep.Reachable) :
    dep.server.database.Consistent ∧
      ∀ steps, dep.NeverResets steps →
        (dep.run steps).server.database.Follows dep.server.database :=
  ⟨Database.consistent_of_sound h.sound, fun _ => follows_run⟩

/-- An identity that is created again after its deletion gets another number. -/
theorem consistent_after_deletion :
    let dep := (initial .default).run
      [.migrate .undisturbed false,
        .perform ⟨0, 0⟩ .undisturbed (.getOrCreateIdentity "ann"),
        .perform ⟨60, 0⟩ .undisturbed (.deleteIdentity "ann")]
    let later := dep.run [.perform ⟨120, 0⟩ .undisturbed (.getOrCreateIdentity "ann")]
    dep.server.database.Consistent ∧ later.server.database.Follows dep.server.database ∧
      later.server.database.contents.identity.map (fun row => (row.id, row.origin)) =
        [(2, "ann")] :=
  have hreachable : Reachable _ := ⟨.default, _, rfl⟩
  ⟨(Reachable.consistent hreachable).1,
    (Reachable.consistent hreachable).2 _ ⟨id, trivial⟩,
    by decide +kernel⟩

end Deployment
end ControlPlane
