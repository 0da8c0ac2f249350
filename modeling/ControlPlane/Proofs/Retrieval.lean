/-
What an entity is read as.

A row is shown as one entity, whichever way it is reached: with the associations of its kind, loaded
for it alone (`Contents.entityOf?`).  A key reads the entity of the row that it names, and nothing
else (`Key.entity?_eq`).  So a retrieval that answers shows a row that is stored under the key, and
a row whose key has no empty parts is shown by every key that names it.
-/
import ControlPlane.Proofs.Refinement
import ControlPlane.Proofs.Renewal
import ControlPlane.Proofs.Unfolding

namespace ControlPlane

open Script

/-! ## Rows and the entities that show them -/

namespace Contents

/-- The entity that shows a row with the associations of its kind.  Links and grants have none. -/
def entityOf? (c : Contents) : {r : Relation} → Row r → Option Entity
  | .cloud, row => some (.cloud (c.cloudAlone (Preload.cloud "") row))
  | .region, row => some (.region (c.regionAlone (Preload.region "") row))
  | .controller, row => some (.controller (c.controllerAlone (Preload.controller "") row))
  | .model, row => some (.model (c.modelAlone (Preload.model "") row))
  | .credential, row => some (.credential (c.credentialAlone (Preload.credential "") row))
  | .identity, row => some (.identity ⟨row⟩)
  | .link, _ => none
  | .grant _, _ => none

variable {c : Contents}

theorem shows_of_entityOf? {r : Relation} {row : Row r} {entity : Entity}
    (h : c.entityOf? row = some entity) : entity.Shows row := by
  cases r <;> cases h <;> exact rfl

namespace AllDistinct

variable (hc : c.AllDistinct)

include hc

theorem cloudOfRow?_eq (row : Row .cloud) :
    c.cloudOfRow? row = some (c.cloudAlone (Preload.cloud "") row) := by
  rw [cloudOfRow?, (hc.hydratesGraph _).clouds.eq_map (.singleton row)]
  rfl

theorem regionOfRow?_eq (row : Row .region) :
    c.regionOfRow? row = some (c.regionAlone (Preload.region "") row) := by
  rw [regionOfRow?, (hc.hydratesGraph _).regions.eq_map (.singleton row)]
  rfl

theorem controllerOfRow?_eq (row : Row .controller) :
    c.controllerOfRow? row = some (c.controllerAlone (Preload.controller "") row) := by
  rw [controllerOfRow?, (hc.hydratesGraph _).controllers.eq_map (.singleton row)]
  rfl

theorem credentialOfRow?_eq (row : Row .credential) :
    c.credentialOfRow? row = some (c.credentialAlone (Preload.credential "") row) := by
  rw [credentialOfRow?, (hc.hydratesBy_credentials _).eq_map (.singleton row)]
  rfl

theorem modelOfRow?_eq (row : Row .model) :
    c.modelOfRow? row = some (c.modelAlone (Preload.model "") row) := by
  rw [modelOfRow?, (hc.hydratesBy_models _).eq_map (.singleton row)]
  rfl

end AllDistinct

end Contents

namespace Entity

/-- The number of the row that an entity shows. -/
def id : Entity → Int
  | .cloud shown => shown.row.id
  | .region shown => shown.row.id
  | .controller shown => shown.row.id
  | .model shown => shown.row.id
  | .identity shown => shown.row.id
  | .credential shown => shown.row.id

theorem Shows.id_eq {r : Relation} {row : Row r} {entity : Entity} (h : entity.Shows row) :
    entity.id = row.id := by
  cases r <;> cases entity <;> first | exact h.elim | (cases h; rfl)

theorem Shows.row?_eq {r : Relation} {row : Row r} {entity : Entity} (h : entity.Shows row) :
    (Reply.entity entity).row? = some ⟨r, row⟩ := by
  cases r <;> cases entity <;> first | exact h.elim | (cases h; rfl)

/-- An entity shows no more than one row. -/
theorem Shows.eq {r q : Relation} {row : Row r} {other : Row q} {entity : Entity}
    (h : entity.Shows row) (h' : entity.Shows other) :
    (⟨r, row⟩ : (r : Relation) × Row r) = ⟨q, other⟩ :=
  Option.some.inj (h.row?_eq.symm.trans h'.row?_eq)

end Entity

/-- An entity that shows a row shows no other that is stored. -/
theorem Contents.mem_of_shows {c : Contents} {r q : Relation} {row : Row r} {found : Row q}
    {entity : Entity} (hfound : found ∈ c.get q) (hentity : c.entityOf? found = some entity)
    (hshows : entity.Shows row) : row ∈ c.get r ∧ c.entityOf? row = some entity := by
  cases hshows.eq (shows_of_entityOf? hentity)
  exact ⟨hfound, hentity⟩

namespace Key

variable {key : Key} {c : Contents}

theorem exists_entityOf? (c : Contents) (row : Row key.relation) :
    ∃ entity, c.entityOf? row = some entity := by
  cases key <;> exact ⟨_, rfl⟩

/-- A key reads the entity of the row that it names. -/
theorem entity?_eq (key : Key) (hc : c.AllDistinct) :
    key.entity? c = (key.row? c).bind c.entityOf? := by
  cases key with
  | cloud name =>
    rw [entity?, Contents.cloud?, Option.map_bind, row?_cloud]
    exact congrArg _ (funext fun row => congrArg _ (hc.cloudOfRow?_eq row))
  | region key =>
    rw [entity?, Contents.region?, Option.map_bind, row?_region]
    exact congrArg _ (funext fun row => congrArg _ (hc.regionOfRow?_eq row))
  | controller key =>
    rw [entity?, Contents.controller?, Option.map_bind, row?_controller]
    exact congrArg _ (funext fun row => congrArg _ (hc.controllerOfRow?_eq row))
  | model key =>
    rw [entity?, Contents.model?, Option.map_bind, row?_model]
    exact congrArg _ (funext fun row => congrArg _ (hc.modelOfRow?_eq row))
  | credential key =>
    rw [entity?, Contents.credential?, Option.map_bind, row?_credential]
    exact congrArg _ (funext fun row => congrArg _ (hc.credentialOfRow?_eq row))
  | identity name =>
    rw [entity?, Contents.identity?, Option.map_map, row?_identity]
    exact Option.map_eq_bind

theorem entity?_eq_some (hunique : c.Unique) (hc : c.AllDistinct) {entity : Entity} :
    key.entity? c = some entity ↔
      ∃ row ∈ c.get key.relation, key.Names row.toEntry ∧ c.entityOf? row = some entity := by
  rw [entity?_eq key hc, Option.bind_eq_some_iff]
  constructor
  · rintro ⟨row, hrow, hentity⟩
    exact ⟨row, (names_of_row? hrow).1, (names_of_row? hrow).2, hentity⟩
  · rintro ⟨row, hrow, hnames, hentity⟩
    exact ⟨row, row?_eq_some hunique hrow hnames, hentity⟩

/-- What a query for one entity answers is what it finds. -/
theorem of_queried_eq_ok {α β : Type} [Storable α] (hexact : Storable.IsExact α) {params : α}
    {find : α → Contents → Option β} {wrap : β → Entity} {env : Environment}
    {before after : Progress} {reply : Reply}
    (h : ((fun found => Reply.entity (wrap found)) <$> queryOne params find) env before =
      .ok reply after) :
    ∃ entity, reply = .entity entity ∧
      (find params before.database.contents).map wrap = some entity := by
  obtain ⟨found, hquery, rfl⟩ := of_map_eq_ok h
  obtain ⟨kept, hkept, hfound, -⟩ := of_queryOne_eq_ok hquery
  rw [hexact _ _ hkept] at hfound
  exact ⟨wrap found, rfl, congrArg (Option.map wrap) hfound⟩

/-- What a key reads is the entity that has it. -/
theorem of_retrieval_eq_ok {env : Environment} {before after : Progress} {reply : Reply}
    (h : key.retrieval.plan.script env before = .ok reply after) :
    ∃ entity, reply = .entity entity ∧ key.entity? before.database.contents = some entity := by
  cases key with
  | cloud name => exact of_queried_eq_ok Storable.isExact_text h
  | region key => exact of_queried_eq_ok Storable.isExact_regionKey h
  | controller key => exact of_queried_eq_ok Storable.isExact_controllerKey h
  | model key => exact of_queried_eq_ok Storable.isExact_modelKey h
  | credential key => exact of_queried_eq_ok Storable.isExact_credentialKey h
  | identity name => exact of_queried_eq_ok Storable.isExact_text h

end Key

/-! ## Operations -/

namespace Deployment

theorem reply_perform (dep : Deployment) (now : Timestamp) (course : Course) (op : Operation) :
    (dep.perform now course op).1 = (dep.store.perform now course op dep.server.database).1 := rfl

namespace Reachable

variable {dep : Deployment} (hreachable : dep.Reachable)

include hreachable

/-- What a session has stored, the database takes as it is. -/
theorem stored?_origin {r : Relation} {row : Row r}
    (hrow : row ∈ dep.server.database.contents.get r) : stored? row.origin = some row.origin := by
  obtain ⟨settings, steps, rfl⟩ := hreachable
  obtain ⟨-, -, -, -, -, -, hstored⟩ := exists_creation hrow
  exact hstored

/-- Apart from regions and identities, nothing is stored under a key with an empty part. -/
theorem keyParts_nonempty_of_ne {r : Relation} (hregion : r ≠ .region) (hidentity : r ≠ .identity)
    {row : Row r} (hrow : row ∈ dep.server.database.contents.get r) :
    "" ∉ keyParts r row.origin := by
  obtain ⟨settings, steps, rfl⟩ := hreachable
  obtain ⟨-, -, op, -, hvalid, hcreates, -⟩ := exists_creation hrow
  intro hempty
  have hnameless := Operation.leavesNameless_of_creates hvalid hcreates hempty
  cases r with
  | region => exact hregion rfl
  | identity => exact hidentity rfl
  | _ => exact hnameless

/-- A row is shown by every key that names it, unless a part of its own key is empty. -/
theorem perform_retrieval (key : Key) (hready : dep.store.lifecycle = .ready)
    {row : Row key.relation}
    (hrow : row ∈ dep.server.database.contents.get key.relation) (hnames : key.Names row.toEntry)
    (hparts : "" ∉ keyParts key.relation row.origin) {entity : Entity}
    (hentity : dep.server.database.contents.entityOf? row = some entity) (now : Timestamp) :
    (dep.perform now .undisturbed key.retrieval).1 = .ok (.entity entity) := by
  have hstorable : key.IsStorable :=
    Key.isStorable_of_names (hreachable.stored?_origin hrow) hnames
  have hvalid : key.retrieval.plan.subject.isValid = true := by
    rw [Key.subject_retrieval]
    exact Key.isValid_subject_of_names hnames hparts
  have hfound : key.entity? dep.server.database.contents = some entity :=
    (Key.entity?_eq_some hreachable.sound.unique hreachable.sound.allDistinct).2
       ⟨row, hrow, hnames, hentity⟩
  rw [reply_perform]
  exact congrArg Prod.fst
    (Store.perform_ok hready hvalid (Key.retrieval_ok rfl hstorable hfound))

/-- A retrieval that answers shows a row that the key names. -/
theorem of_perform_retrieval (key : Key) {now : Timestamp} {course : Course} {reply : Reply}
    (h : (dep.perform now course key.retrieval).1 = .ok reply) :
    dep.store.lifecycle = .ready ∧ ∃ row ∈ dep.server.database.contents.get key.relation,
      key.Names row.toEntry ∧ ∃ entity, reply = .entity entity ∧
        dep.server.database.contents.entityOf? row = some entity := by
  obtain ⟨hready, -, after, hrun, -⟩ := Store.of_perform_eq_ok h
  obtain ⟨entity, hreply, hfound⟩ := Key.of_retrieval_eq_ok hrun
  obtain ⟨row, hrow, hnames, hentity⟩ :=
    (Key.entity?_eq_some hreachable.sound.unique hreachable.sound.allDistinct).1 hfound
  exact ⟨hready, row, hrow, hnames, entity, hreply, hentity⟩

end Reachable
end Deployment
end ControlPlane
