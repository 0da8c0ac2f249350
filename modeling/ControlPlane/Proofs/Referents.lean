/-
What operations refer to, and whether it is there.

An operation is about one thing (`Operation.own?`) and needs others that are looked up on the way,
one after another (`Operation.needs`).  Each has a kind and a key (`Referent`), and a lookup that
finds nothing is told under them.  So whatever a script misses is one of the things that the
operation refers to, and was not stored (`Script.Blames`).
-/
import ControlPlane.Proofs.Failures
import ControlPlane.Proofs.Provisioning

namespace ControlPlane

open Script
open IdentityName (sanitise)

/-- Something to which an operation refers: an entity, or the link between two. -/
inductive Referent
  | entity (key : Key)
  | link (region : RegionKey) (controller : ControllerKey)

namespace Referent

def kind : Referent → EntityKind
  | entity (.cloud _) => .cloud
  | entity (.region _) => .region
  | entity (.controller _) => .controller
  | entity (.model _) => .model
  | entity (.credential _) => .credential
  | entity (.identity _) => .identity
  | link _ _ => .link

/-- What its key is made of.  Identities have the safe form of their names. -/
def components : Referent → List String
  | entity (.cloud name) => [name]
  | entity (.region key) => key.parts
  | entity (.controller key) => [key.render]
  | entity (.model (.uuid u)) => [u.render]
  | entity (.model (.ownerName owner name)) => [sanitise owner, name]
  | entity (.credential key) => key.sanitise.parts
  | entity (.identity name) => [sanitise name]
  | link region controller => [region.cloud, region.region, controller.render]

def subject (referent : Referent) : Subject := .ofParts referent.kind referent.components

theorem isValid_subject {referent : Referent} :
    referent.subject.isValid = true ↔ "" ∉ referent.components := Subject.isValid_ofParts

theorem joinKey_singleton (part : String) : joinKey [part] = part := by
  rw [joinKey, String.intercalate_singleton]

theorem ofParts_singleton (kind : EntityKind) (part : String) :
    Subject.ofParts kind [part] = .ofKey kind part := by
  rw [Subject.ofParts, Subject.ofKey, joinKey_singleton, List.all_cons, List.all_nil, Bool.and_true]

/-- The subject under which an entity is addressed is made of its key. -/
theorem subject_entity (key : Key) : (entity key).subject = key.subject := by
  cases key with
  | cloud name => exact ofParts_singleton _ _
  | region key => rfl
  | controller key => exact ofParts_singleton _ _
  | model key =>
    cases key with
    | uuid u => exact ofParts_singleton _ _
    | ownerName owner name => rfl
  | credential key => rfl
  | identity name => exact ofParts_singleton _ _

/-- Whether it is there. -/
def IsStored (c : Contents) : Referent → Prop
  | entity key => ∃ row ∈ c.get key.relation, key.Names row.toEntry
  | link region controller =>
    ∃ served ∈ c.get .region, (Key.region region).Names served.toEntry ∧
      ∃ serving ∈ c.get .controller, (Key.controller controller).Names serving.toEntry ∧
        ∃ row ∈ c.get .link, row.origin = ⟨served.id, serving.id⟩

instance (c : Contents) : (referent : Referent) → Decidable (referent.IsStored c)
  | entity key => inferInstanceAs (Decidable (∃ row ∈ c.get key.relation, key.Names row.toEntry))
  | link region controller => inferInstanceAs (Decidable
      (∃ served ∈ c.get .region, (Key.region region).Names served.toEntry ∧
        ∃ serving ∈ c.get .controller, (Key.controller controller).Names serving.toEntry ∧
          ∃ row ∈ c.get .link, row.origin = ⟨served.id, serving.id⟩))

theorem not_isStored_entity {key : Key} {c : Contents} :
    ¬(entity key).IsStored c ↔ key.row? c = none := by
  rw [Key.row?_eq_none]
  simp only [IsStored, not_exists, not_and]

theorem exists_row?_of_isStored {key : Key} {c : Contents} (h : (entity key).IsStored c) :
    ∃ row, key.row? c = some row := by
  cases hrow : key.row? c with
  | none => exact absurd h (not_isStored_entity.2 hrow)
  | some row => exact ⟨row, rfl⟩

end Referent

/-- The database takes a key whose parts are free of U+0000. -/
theorem Key.isStorable_of_isNulFree {key : Key} (h : ∀ part ∈ key.parts, Text.IsNulFree part) :
    key.IsStorable := by
  cases key with
  | cloud name => exact Storable.stored?_text (h name List.mem_cons_self)
  | region key =>
    have hcloud := Storable.stored?_text (h key.cloud List.mem_cons_self)
    have hregion := Storable.stored?_text (h key.region (List.mem_cons_of_mem _ List.mem_cons_self))
    exact congrArg (Option.map _) (Storable.stored?_pair hcloud hregion)
  | controller key =>
    cases key with
    | uuid u => rfl
    | name name =>
      exact congrArg (Option.map _) (Storable.stored?_text (h name List.mem_cons_self))
  | model key => exact isStorable_model h
  | credential key =>
    obtain ⟨cloud, owner, name⟩ := key
    have hcloud := Storable.stored?_text (h cloud List.mem_cons_self)
    have howner := Storable.stored?_text
      (IdentityName.isNulFree_sanitise (h owner (List.mem_cons_of_mem _ List.mem_cons_self)))
    have hname := Storable.stored?_text
      (h name (List.mem_cons_of_mem _ (List.mem_cons_of_mem _ List.mem_cons_self)))
    exact congrArg (Option.map _)
      (Storable.stored?_pair hcloud (Storable.stored?_pair howner hname))
  | identity name =>
    exact Storable.stored?_text
      (IdentityName.isNulFree_sanitise (h name List.mem_cons_self))

theorem Key.row?_congr {key : Key} {c c' : Contents}
    (h : c.get key.relation = c'.get key.relation) : key.row? c = key.row? c' := by
  rw [row?, row?, h]

theorem Key.row?_eq_none_of_entity? {key : Key} {c : Contents} (h : key.entity? c = none) :
    key.row? c = none := by
  have hlift : ∀ {r : Relation} {ε : Type} {rowOf : ε → Row r} {hydrate : List (Row r) → List ε}
      {row? : Option (Row r)}, Contents.ShowsRows rowOf hydrate →
      (row?.bind fun row => (hydrate [row]).head?) = none → row? = none := by
    intro r ε rowOf hydrate row? hshows hnone
    cases row? with
    | none => rfl
    | some row =>
      obtain ⟨entity, hentity, -⟩ := hshows.head?_hydrate row
      rw [Option.bind_some, hentity] at hnone
      cases hnone
  cases key with
  | cloud name => exact hlift (c.showsRows_clouds _) (Option.map_eq_none_iff.1 h)
  | region key => exact hlift (c.showsRows_regions _) (Option.map_eq_none_iff.1 h)
  | controller key =>
    rw [row?_controller]
    exact hlift (c.showsRows_controllers _) (Option.map_eq_none_iff.1 h)
  | model key =>
    rw [row?_model]
    exact hlift (c.showsRows_models _) (Option.map_eq_none_iff.1 h)
  | credential key => exact hlift (c.showsRows_credentials _) (Option.map_eq_none_iff.1 h)
  | identity name => exact Option.map_eq_none_iff.1 (Option.map_eq_none_iff.1 h)

/-! ## Statements that find nothing -/

namespace Contents

variable {r : Relation} {c after : Contents} {which : Row r → Bool}

theorem delete_of_none (h : (c.get r).find? which = none) : c.delete which = .ok (false, c) := by
  have hany : ¬(c.get r).any which = true := by
    rw [List.any_eq_true]
    rintro ⟨row, hrow, hwhich⟩
    exact List.find?_eq_none.1 h row hrow hwhich
  rw [delete, if_neg hany]

theorem find?_of_delete_false (h : c.delete which = .ok (false, after)) :
    (c.get r).find? which = none := by
  rw [List.find?_eq_none]
  intro row hrow hwhich
  rcases delete_cases h with ⟨-, rfl⟩ | ⟨hfound, -⟩
  · unfold delete at h
    rw [if_pos (List.any_eq_true.2 ⟨row, hrow, hwhich⟩)] at h
    dsimp only at h
    split at h <;> cases h
  · cases hfound

theorem find?_of_update_none {now : Timestamp} {change : Settings r → Settings r}
    (h : c.update now which change = .ok (none, after)) : (c.get r).find? which = none := by
  rcases update_cases h with ⟨-, -⟩ | ⟨row, new, -, hwritten, -⟩
  · cases hfind : (c.get r).find? which with
    | none => rfl
    | some row =>
      unfold update at h
      rw [hfind] at h
      dsimp only at h
      split at h <;> cases h
  · cases hwritten

end Contents

namespace Script

variable {α β : Type} {r : Relation} {env : Environment} {before after : Progress}
  {subject : Option Subject}

/-- Whether a script never misses a row. -/
@[reducible] def MissesNothing (env : Environment) (body : Script α) : Prop :=
  FailsOnly env (· ≠ .noRow) body

theorem missesNothing_insert (e : Entry r) : MissesNothing env (insert e) := by
  refine failsOnly_insert ?_ e
  rintro failure ⟨name, detail, rfl⟩
  nofun

theorem missesNothing_update [Storable α] (params : α) (which : α → Row r → Bool)
    (change : α → Settings r → Settings r) : MissesNothing env (update params which change) := by
  refine failsOnly_update (.inr ?_) params which change
  rintro failure ⟨name, detail, rfl⟩
  nofun

/-- A read that finds nothing by its parameters. -/
theorem of_queryOne_eq_noRow [Storable α] (hexact : Storable.IsExact α) {params : α}
    {f : α → Contents → Option β}
    (h : queryOne params f env before = .error (.failed .noRow subject) after) :
    subject = none ∧ f params before.database.contents = none := by
  rcases of_queryOne_eq_error h with hblameless | ⟨hstop, kept, hkept, hnone⟩
  · cases hblameless.failure_eq
  · cases hstop
    rw [hexact _ _ hkept] at hnone
    exact ⟨rfl, hnone⟩

/-! ## Blame -/

/-- Whether what a script misses, as part of an operation that is about `own`, is told to be one of
some referents, and one that is not stored. -/
def Blames (env : Environment) (own : Subject) (referents : List Referent) (c : Contents)
    (before : Progress) (body : Script α) : Prop :=
  ∀ subject after, body env before = .error (.failed .noRow subject) after →
    ∃ referent ∈ referents, subject.getD own = referent.subject ∧ ¬referent.IsStored c

variable {own : Subject} {referents : List Referent} {c : Contents}

theorem Blames.map {body : Script α} (h : Blames env own referents c before body) (f : α → β) :
    Blames env own referents c before (f <$> body) :=
  fun subject after hstop => h subject after (of_map_eq_error hstop)

theorem Blames.transaction {body : Script α} (h : Blames env own referents c before body) :
    Blames env own referents c before (transaction body) := by
  intro subject after hstop
  obtain ⟨last, hrun, -⟩ := of_transaction_eq_error hstop
  exact h subject last hrun

theorem Blames.bind {body : Script α} {next : α → Script β}
    (h : Blames env own referents c before body)
    (hnext : ∀ a middle, body env before = .ok a middle →
      Blames env own referents c middle (next a)) :
    Blames env own referents c before (body >>= next) := by
  intro subject after hstop
  rcases of_bind_eq_error hstop with hstop | ⟨a, middle, hrun, hstop⟩
  · exact h subject after hstop
  · exact hnext a middle hrun subject after hstop

theorem blames_of_ne_error {body : Script α}
    (h : ∀ subject after, body env before ≠ .error (.failed .noRow subject) after) :
    Blames env own referents c before body :=
  fun subject after hstop => absurd hstop (h subject after)

theorem blames_of_missesNothing (hsound : before.database.Sound) {body : Script α}
    (h : MissesNothing env body) : Blames env own referents c before body :=
  blames_of_ne_error fun _ _ => h.ne_error hsound nofun fun hne => hne rfl

theorem blames_pure (a : α) : Blames env own referents c before (pure a) :=
  blames_of_ne_error fun _ _ => nofun

/-- What is not read back is not missing. -/
theorem Blames.decoded {body : Script α} (h : Blames env own referents c before body)
    (isReadable : α → Bool) : Blames env own referents c before (decoded isReadable body) := by
  refine h.bind fun found _ _ => ?_
  split
  · exact blames_pure _
  · exact blames_of_ne_error fun _ _ => nofun

/-- What is read by the number of a row that is stored is there. -/
theorem blames_withId {ε : Type} {rowOf : ε → Row r} {hydrate : Contents → List (Row r) → List ε}
    (hrows : ∀ c, Contents.ShowsRows rowOf (hydrate c)) {row : Row r}
    (hrow : row ∈ before.database.contents.get r) :
    Blames env own referents c before (queryOne row.id fun id c =>
      (c.rowWithId? r id).bind fun row => (hydrate c [row]).head?) := by
  refine blames_of_ne_error fun subject after h => ?_
  obtain ⟨-, hnone⟩ := of_queryOne_eq_noRow Storable.isExact_int h
  have hcalm : ({ env with disturbance := none } : Environment).disturbance = none := rfl
  obtain ⟨entity, hread⟩ := withId_ok hrows hcalm hrow
  obtain ⟨kept, hkept, hfound, -⟩ := of_queryOne_eq_ok hread
  rw [Storable.isExact_int _ _ hkept, hnone] at hfound
  cases hfound

/-- A script that blames nothing but what is stored misses nothing. -/
theorem Blames.ne_error {body : Script α} {referent : Referent}
    (h : Blames env own [referent] c before body) (hstored : referent.IsStored c) :
    body env before ≠ .error (.failed .noRow subject) after := by
  intro hstop
  obtain ⟨missing, hmem, -, habsent⟩ := h subject after hstop
  rw [List.mem_singleton.1 hmem] at habsent
  exact habsent hstored

/-- What follows a script that misses nothing. -/
theorem blames_bind (hsound : before.database.Sound) {body : Script α} {next : α → Script β}
    (hbody : MissesNothing env body)
    (hnext : ∀ a middle, body env before = .ok a middle → middle.database.Sound →
      Blames env own referents c middle (next a)) :
    Blames env own referents c before (body >>= next) :=
  (blames_of_missesNothing hsound hbody).bind fun a middle hrun =>
    hnext a middle hrun (sound_of_ok hbody.within hrun hsound)

/-- What misses nothing may follow. -/
theorem Blames.bind_missesNothing {body : Script α} {next : α → Script β}
    (h : Blames env own referents c before body) (hwithin : Within env (fun _ => True) body)
    (hsound : before.database.Sound) (hnext : ∀ a, MissesNothing env (next a)) :
    Blames env own referents c before (body >>= next) :=
  h.bind fun a _ hrun => blames_of_missesNothing (sound_of_ok hwithin hrun hsound) (hnext a)

/-- A run over items misses something at one of them, once those before it are done. -/
theorem blames_each {f : α → Script β} {items : List α}
    (hf : ∀ a ∈ items, ∀ first bs middle, each f first env before = .ok bs middle →
      Blames env own referents c middle (f a)) :
    Blames env own referents c before (each f items) := by
  intro subject after hstop
  obtain ⟨first, a, rest, bs, middle, rfl, hdone, hstop⟩ := of_each_eq_error hstop
  exact hf a (List.mem_append_right _ List.mem_cons_self) first bs middle hdone subject after hstop

section

variable {key : Key} (hmem : .entity key ∈ referents)
  (hrows : before.database.contents.get key.relation = c.get key.relation)

include hmem hrows

/-- A read by a key that misses its row is about the entity with the key. -/
theorem blames_lookup (hown : own = key.subject) [Storable α] (hexact : Storable.IsExact α)
    {params : α} {f : α → Contents → Option β}
    (hfind : ∀ c, f params c = none → key.row? c = none) :
    Blames env own referents c before (queryOne params f) := by
  intro subject after hstop
  obtain ⟨rfl, hnone⟩ := of_queryOne_eq_noRow hexact hstop
  refine ⟨_, hmem, ?_, Referent.not_isStored_entity.2 ?_⟩
  · rw [Referent.subject_entity]
    exact hown
  · rw [← Key.row?_congr hrows]
    exact hfind _ hnone

/-- A reference to an entity names it, whatever the operation is about. -/
theorem blames_reference [Storable α] (hexact : Storable.IsExact α) {params : α}
    {f : α → Contents → Option β} (hfind : ∀ c, f params c = none → key.row? c = none) :
    Blames env own referents c before (about key.subject (queryOne params f)) := by
  intro subject after hstop
  obtain ⟨inner, hrun, heq⟩ := of_about_eq_error hstop
  cases inner with
  | interrupted why => cases heq
  | failed failure label =>
    cases label with
    | none =>
      cases heq
      exact blames_lookup hmem hrows rfl hexact hfind none after hrun
    | some label =>
      cases heq
      cases (of_queryOne_eq_noRow hexact hrun).1

end

/-- Settings are overwritten under a key, and then something is read. -/
theorem blames_update {key : Key} (hmem : .entity key ∈ referents) (hown : own = key.subject)
    (hsound : before.database.Sound) [Storable α] (hexact : Storable.IsExact α) {params : α}
    {settings : Settings key.relation} (which : α → Row key.relation → Bool)
    (hwhich : ∀ c, ((c : Contents).get key.relation).find? (which params) = key.row? c)
    {next : Option (Row key.relation) → Script β} (hnone : next none = fail .noRow)
    (hsome : ∀ (row : Row key.relation) kept (middle : Progress),
      key.row? before.database.contents = some row →
        row.revised kept env.now ∈ middle.database.contents.get key.relation →
          Blames env own referents before.database.contents middle
            (next (some (row.revised kept env.now)))) :
    Blames env own referents before.database.contents before
      (update (params, settings) (fun p row => which p.1 row) (fun p _ => p.2) >>= next) := by
  refine blames_bind hsound (missesNothing_update _ _ _) fun written middle hupdate _ => ?_
  cases written with
  | none =>
    intro subject after hstop
    obtain ⟨kept, contents, hkept, hnothing, -⟩ := of_update_eq_ok hupdate
    have hfind := Contents.find?_of_update_none hnothing
    rw [hexact _ _ (Storable.stored?_pair_eq_some.1 hkept).1, hwhich] at hfind
    rw [hnone] at hstop
    cases hstop
    refine ⟨_, hmem, ?_, Referent.not_isStored_entity.2 hfind⟩
    rw [Referent.subject_entity]
    exact hown
  | some new =>
    obtain ⟨kept, row, -, hfind, rfl, -, hrevised⟩ := of_update_keyed hexact which hupdate
    rw [hwhich] at hfind
    exact hsome row kept middle hfind hrevised.mem_after

/-- Settings are overwritten in a row whose number was found, and then something is read. -/
theorem blames_updateNumbered (hsound : before.database.Sound) {row : Row r}
    (hrow : row ∈ before.database.contents.get r) {settings : Settings r} {next : Script β}
    (hnext : ∀ (new : Row r) (middle : Progress), new.id = row.id →
      new ∈ middle.database.contents.get r → Blames env own referents c middle next) :
    Blames env own referents c before (do
      let _ ← update (row.id, settings) (fun p (row : Row r) => row.id = p.1) (fun p _ => p.2)
      next) := by
  refine blames_bind hsound (missesNothing_update _ _ _) fun written middle hupdate _ => ?_
  obtain ⟨kept, -, -, hrevised⟩ := of_update_numbered hsound.distinct hrow hupdate
  exact hnext (row.revised kept env.now) middle rfl hrevised.mem_after

/-- Rows are deleted under a key, and there have to be some. -/
theorem blames_deleteFound {key : Key} (hmem : .entity key ∈ referents) (hown : own = key.subject)
    (hsound : before.database.Sound) [Storable α] (hexact : Storable.IsExact α) {params : α}
    {which : α → Row key.relation → Bool}
    (hwhich : ∀ c, ((c : Contents).get key.relation).find? (which params) = key.row? c) :
    Blames env own referents before.database.contents before (do
      let found ← delete params which
      unless found do fail .noRow : Script Unit) := by
  refine blames_bind hsound (failsOnly_delete _ _) fun found middle hdelete _ => ?_
  cases found with
  | true => exact blames_pure _
  | false =>
    intro subject after hstop
    obtain ⟨kept, contents, hkept, hnothing, -⟩ := of_delete_eq_ok hdelete
    have hfind := Contents.find?_of_delete_false hnothing
    rw [hexact _ _ hkept, hwhich] at hfind
    cases hstop
    refine ⟨_, hmem, ?_, Referent.not_isStored_entity.2 hfind⟩
    rw [Referent.subject_entity]
    exact hown

end Script

/-! ## What the store blames -/

section

variable {env : Environment} {before : Progress} {own : Subject} {referents : List Referent}
  {c : Contents}

namespace Clouds

theorem referredId_blames {name : String} (hmem : .entity (.cloud name) ∈ referents)
    (hrows : before.database.contents.get .cloud = c.get .cloud) :
    Blames env own referents c before (referredId name) :=
  blames_reference hmem hrows Storable.isExact_text fun _ hnone => Option.map_eq_none_iff.1 hnone

theorem idOf_blames {name : String} (hmem : .entity (.cloud name) ∈ referents) :
    Blames env (Key.cloud name).subject referents before.database.contents before (idOf name) :=
  blames_lookup hmem rfl rfl Storable.isExact_text fun _ hnone => Option.map_eq_none_iff.1 hnone

theorem get_blames {name : String} (hmem : .entity (.cloud name) ∈ referents) :
    Blames env (Key.cloud name).subject referents before.database.contents before (get name) :=
  blames_lookup hmem rfl rfl Storable.isExact_text fun _ hnone =>
    Key.row?_eq_none_of_entity? (congrArg (Option.map Entity.cloud) hnone)

/-- A cloud that is there is read back. -/
theorem blames_readBack {name : String}
    (hcloud : ∃ row ∈ before.database.contents.get .cloud, row.origin = name) :
    Blames env own referents c before (readBack name) :=
  Blames.decoded (blames_of_ne_error fun _ _ =>
    (get_blames List.mem_cons_self).ne_error hcloud) _

end Clouds

namespace Regions

theorem referredId_blames {key : RegionKey} (hmem : .entity (.region key) ∈ referents)
    (hrows : before.database.contents.get .region = c.get .region) :
    Blames env own referents c before (referredId key) :=
  blames_reference hmem hrows Storable.isExact_regionKey fun _ hnone =>
    Option.map_eq_none_iff.1 hnone

theorem insertUnder_blames (hsound : before.database.Sound) {e : Entry .region}
    (hmem : .entity (.cloud e.origin.cloud) ∈ referents)
    (hrows : before.database.contents.get .cloud = c.get .cloud) :
    Blames env own referents c before (insertUnder e) :=
  (Clouds.referredId_blames hmem hrows).bind_missesNothing (Clouds.referredId_within _) hsound
    fun _ => failsOnly_bind (failsOnly_about _ (missesNothing_insert e)) fun _ => failsOnly_pure _

theorem add_blames (hsound : before.database.Sound) {e : Entry .region}
    (hmem : .entity (.cloud e.origin.cloud) ∈ referents) :
    Blames env own referents before.database.contents before (add e) := by
  refine ((insertUnder_blames hsound hmem rfl).bind fun id middle hunder => ?_).transaction
  obtain ⟨row, rfl, hinserted⟩ := insertUnder_inserts hunder
  exact (blames_withId (fun c => c.showsRows_regions _) hinserted.mem).decoded _

end Regions

theorem Controllers.idOf_blames {key : ControllerKey}
    (hmem : .entity (.controller key) ∈ referents) :
    Blames env (Key.controller key).subject referents before.database.contents before (idOf key) :=
  blames_lookup hmem rfl rfl Storable.isExact_controllerKey fun _ hnone =>
    (Key.row?_controller key _).trans (Option.map_eq_none_iff.1 hnone)

theorem Models.idOf_blames {key : ModelKey} (hmem : .entity (.model key) ∈ referents) :
    Blames env (Key.model key).subject referents before.database.contents before
      (idOf key.sanitise) :=
  blames_lookup hmem rfl rfl Storable.isExact_modelKey fun _ hnone =>
    (Key.row?_model key _).trans (Option.map_eq_none_iff.1 hnone)

theorem Credentials.idOf_blames {key : CredentialKey}
    (hmem : .entity (.credential key) ∈ referents) :
    Blames env (Key.credential key).subject referents before.database.contents before
      (idOf key.sanitise) :=
  blames_lookup hmem rfl rfl Storable.isExact_credentialKey fun _ hnone =>
    Option.map_eq_none_iff.1 hnone

theorem Controllers.referredId_blames {key : ControllerKey}
    (hmem : .entity (.controller key) ∈ referents)
    (hrows : before.database.contents.get .controller = c.get .controller) :
    Blames env own referents c before (referredId key) :=
  blames_reference hmem hrows Storable.isExact_controllerKey fun _ hnone =>
    (Key.row?_controller key _).trans (Option.map_eq_none_iff.1 hnone)

namespace Clouds

/-- The regions of a new cloud find it. -/
theorem add_blames (hsound : before.database.Sound) (draft : Cloud.Draft) :
    Blames env own referents c before (add draft) := by
  refine Blames.transaction
    (blames_bind hsound (missesNothing_insert _) fun row start hinsert hstart => ?_)
  have hinserted := inserted_of_insert (.refl _) hinsert (.refl _)
  have hcloud : ∃ row ∈ start.database.contents.get .cloud, row.origin = draft.name :=
    ⟨row, hinserted.mem, Storable.origin_of_stored? hinserted.stored⟩
  have hspares : ∀ regions : List Region.Draft, Within env (Statement.Spares .cloud)
      (each (fun region => Regions.insertUnder (region.entry draft.name)) regions) := fun _ =>
    within_each fun _ _ => Regions.insertUnder_within (allowsInsert_spares (by decide))
  refine Blames.bind ?_ fun _ middle hregions => blames_readBack ?_
  · refine blames_each fun region _ first ids middle hdone => blames_of_ne_error fun _ _ => ?_
    have hevolution := evolution_of_ok (hspares first) hdone
    have hblames : Blames env own [.entity (.cloud draft.name)] start.database.contents middle
        (Regions.insertUnder (region.entry draft.name)) := Regions.insertUnder_blames
      ((hevolution.mono fun _ _ => trivial).sound hstart) List.mem_cons_self hevolution.get_eq
    exact hblames.ne_error hcloud
  · rw [(evolution_of_ok (hspares _) hregions).get_eq]
    exact hcloud

/-- A cloud that is reconciled is there, from before or as it has just been inserted. -/
theorem reconcile_blames (hsound : before.database.Sound) (snapshot : Cloud.Snapshot) :
    Blames env own referents c before (reconcile snapshot) := by
  refine (blames_bind hsound (failsOnly_insertNew _) fun _ start hinsert hstart => ?_).transaction
  have hcloud := exists_origin_of_insertNew Relation.cloud_isKeyed hinsert
  refine Blames.bind (blames_of_ne_error fun _ _ =>
    (idOf_blames List.mem_cons_self).ne_error hcloud) fun id found hid => ?_
  obtain ⟨_, -, -, rfl⟩ := of_queryOne_eq_ok hid
  refine blames_bind hstart (failsOnly_each (fun _ => failsOnly_insertNew _) _)
    fun _ middle hregions hmiddle => ?_
  refine blames_bind hmiddle (Grants.mergeReports_failsOnly _ _ _) fun _ last hgrants _ => ?_
  refine (blames_readBack ?_).bind fun _ _ _ => blames_pure _
  have hmiddleRows : middle.database.contents.get .cloud = found.database.contents.get .cloud :=
    (evolution_of_ok (within_each fun _ _ =>
      within_insertNew (allowsInsert_spares (by decide))) hregions).get_eq
  have hlastRows : last.database.contents.get .cloud = middle.database.contents.get .cloud :=
    (evolution_of_ok (Grants.mergeReports_spares (by decide) (by decide)) hgrants).get_eq
  rw [hlastRows, hmiddleRows]
  exact hcloud

end Clouds

namespace Credentials

theorem prepare_blames (hsound : before.database.Sound) {key : CredentialKey}
    (hmem : .entity (.cloud key.cloud) ∈ referents) :
    Blames env own referents before.database.contents before (prepare key) :=
  (Clouds.referredId_blames hmem rfl).bind_missesNothing (Clouds.referredId_within _) hsound
    fun _ => failsOnly_bind (Identities.ensure_failsOnly _) fun _ => failsOnly_pure _

theorem add_blames (hsound : before.database.Sound) {e : Entry .credential}
    (hmem : .entity (.cloud e.origin.cloud) ∈ referents) :
    Blames env own referents before.database.contents before (add e) := by
  refine ((prepare_blames hsound hmem).bind fun _ middle hprepare => ?_).transaction
  have hmiddle := sound_of_ok (prepare_within fun _ _ => trivial) hprepare hsound
  refine blames_bind hmiddle (missesNothing_insert e) fun row last hinsert _ => ?_
  exact blames_withId (fun c => c.showsRows_credentials _)
    (inserted_of_insert (.refl _) hinsert (.refl _)).mem

/-- The number of a credential that is there is found. -/
theorem idOf_ne_noRow {key : CredentialKey} {subject : Option Subject} {after : Progress}
    (h : ∃ row ∈ before.database.contents.get .credential, row.origin = key) :
    idOf key env before ≠ .error (.failed .noRow subject) after := by
  intro hstop
  obtain ⟨-, hnone⟩ := of_queryOne_eq_noRow Storable.isExact_credentialKey hstop
  obtain ⟨row, hrow, horigin⟩ := h
  have hfind := List.find?_eq_none.1 (Option.map_eq_none_iff.1 hnone) row hrow
  exact hfind (decide_eq_true horigin)

theorem reconcile_blames (hsound : before.database.Sound) {e : Entry .credential}
    (hmem : .entity (.cloud e.origin.cloud) ∈ referents) (reports : List GrantReport) :
    Blames env own referents before.database.contents before (reconcile e reports) := by
  refine ((prepare_blames hsound hmem).bind fun _ middle hprepare => ?_).transaction
  have hmiddle := sound_of_ok (prepare_within fun _ _ => trivial) hprepare hsound
  refine blames_bind hmiddle (failsOnly_insertNew e) fun _ start hinsert hstart => ?_
  have hstored := exists_origin_of_insertNew Relation.credential_isKeyed hinsert
  refine Blames.bind (blames_of_ne_error fun _ _ => idOf_ne_noRow hstored) fun id found hid => ?_
  obtain ⟨row, hrow, rfl, rfl⟩ := of_number_eq_ok Storable.isExact_credentialKey hid
  refine blames_bind hstart (Grants.mergeReports_failsOnly _ _ _) fun _ last hgrants _ => ?_
  refine Blames.bind (blames_withId (fun c => c.showsRows_credentials _) ?_) fun _ _ _ =>
    blames_pure _
  rw [(evolution_of_ok (Grants.mergeReports_spares (by decide) (by decide)) hgrants).get_eq]
  exact List.mem_of_find?_eq_some hrow

end Credentials

theorem Models.add_blames (hsound : before.database.Sound) (e : Entry .model) :
    Blames env own referents c before (Models.add e) := by
  refine Blames.transaction
    (blames_bind hsound (Identities.ensure_failsOnly _) fun _ middle _ hmiddle => ?_)
  refine blames_bind hmiddle (missesNothing_insert e) fun row last hinsert _ => ?_
  exact blames_withId (fun c => c.showsRows_models _)
    (inserted_of_insert (.refl _) hinsert (.refl _)).mem

/-- A new controller finds the region that hosts it and the regions that it serves, or blames
them. -/
theorem Controllers.add_blames (hsound : before.database.Sound) {draft : Controller.Draft}
    (hhosting : .entity (.region draft.origin.hosting) ∈ referents)
    (hserved : ∀ p ∈ draft.priorities, .entity (.region p.region) ∈ referents) :
    Blames env own referents before.database.contents before (Controllers.add draft) := by
  refine ((Regions.referredId_blames hhosting rfl).bind fun _ found hfound => ?_).transaction
  obtain ⟨_, -, -, rfl⟩ := of_queryOne_eq_ok (of_about_eq_ok hfound)
  refine blames_bind hsound (missesNothing_insert _) fun row start hinsert hstart => ?_
  have hregions : start.database.contents.get .region = found.database.contents.get .region :=
    (evolution_of_ok (within_insert _ (allowsInsert_spares (by decide))) hinsert).get_eq
  have hspares : ∀ {q : Relation}, .link ≠ q → ∀ priorities : List RegionPriority,
      Within env (Statement.Spares q) (each (link row.id) priorities) := fun hq _ =>
    within_each fun _ _ => link_within hq
  refine Blames.bind (blames_each fun p hp first _ middle hdone => ?_) fun _ last hlinks => ?_
  · have hevolution := evolution_of_ok (hspares (q := .region) (by decide) first) hdone
    have hrows := hevolution.get_eq.trans hregions
    exact (Regions.referredId_blames (hserved p hp) hrows).bind_missesNothing
      (Regions.referredId_within _) ((hevolution.mono fun _ _ => trivial).sound hstart)
      fun _ => Links.merge_failsOnly _ _ _
  · refine (blames_withId (fun c => c.showsRows_controllers _) ?_).decoded _
    rw [(evolution_of_ok (hspares (by decide) draft.priorities) hlinks).get_eq]
    exact (inserted_of_insert (.refl _) hinsert (.refl _)).mem

namespace Links

theorem assign_blames (hsound : before.database.Sound) {region : RegionKey}
    {controller : ControllerKey} (hregion : .entity (.region region) ∈ referents)
    (hcontroller : .entity (.controller controller) ∈ referents) (priority : Int) :
    Blames env own referents before.database.contents before
      (assign region controller priority) := by
  refine (Regions.referredId_blames hregion rfl).bind fun _ found hfound => ?_
  obtain ⟨_, -, -, rfl⟩ := of_queryOne_eq_ok (of_about_eq_ok hfound)
  exact (Controllers.referredId_blames hcontroller rfl).bind_missesNothing
    (Controllers.referredId_within _) hsound fun _ => merge_failsOnly _ _ _

/-- Where both ends of a link are found, it is the link that is missing. -/
theorem remove_blames (hsound : before.database.Sound) {region : RegionKey}
    {controller : ControllerKey} (hregion : .entity (.region region) ∈ referents)
    (hcontroller : .entity (.controller controller) ∈ referents)
    (hlink : .link region controller ∈ referents) :
    Blames env (.ofLink region controller) referents before.database.contents before
      (remove region controller) := by
  refine (Regions.referredId_blames hregion rfl).bind fun _ found hfound => ?_
  obtain ⟨served, hserved, rfl, rfl⟩ :=
    of_number_eq_ok Storable.isExact_regionKey (of_about_eq_ok hfound)
  refine (Controllers.referredId_blames hcontroller rfl).bind fun _ other hother => ?_
  obtain ⟨serving, hserving, rfl, rfl⟩ :=
    of_number_eq_ok Storable.isExact_controllerKey (of_about_eq_ok hother)
  refine blames_bind hsound (failsOnly_delete _ _) fun any middle hdelete _ => ?_
  cases any with
  | true => exact blames_pure _
  | false =>
    intro subject after hstop
    cases hstop
    obtain ⟨kept, contents, hkept, hnothing, -⟩ := of_delete_eq_ok hdelete
    cases hkept
    refine ⟨_, hlink, rfl, ?_⟩
    rintro ⟨served', hmem, hnames, serving', hmem', hnames', row, hrow, horigin⟩
    have hregion := Key.names_of_row? ((Key.row?_region region _).trans hserved)
    have hcontroller := Key.names_of_row? ((Key.row?_controller controller _).trans hserving)
    obtain rfl := Key.eq_of_names hsound.unique hmem hregion.1 hnames hregion.2
    obtain rfl := Key.eq_of_names hsound.unique hmem' hcontroller.1 hnames' hcontroller.2
    exact List.find?_eq_none.1 (Contents.find?_of_delete_false hnothing) row hrow
      (decide_eq_true horigin)

end Links

namespace Identities

theorem getOrCreate_blames (hsound : before.database.Sound) (name : String) :
    Blames env own referents c before (getOrCreate name) := by
  refine (blames_bind hsound (ensure_failsOnly name) fun _ middle hensure _ => ?_).transaction
  obtain ⟨row, hrow, hname⟩ := ensure_secures name before _ middle hensure
  refine blames_of_ne_error fun subject after hstop => ?_
  obtain ⟨-, hnone⟩ := of_queryOne_eq_noRow Storable.isExact_text hstop
  exact List.find?_eq_none.1 (Option.map_eq_none_iff.1 hnone) row hrow (decide_eq_true hname)

theorem add_blames (hsound : before.database.Sound) (draft : Identity.Draft) :
    Blames env own referents c before (add draft) := by
  intro subject after hstop
  have hstop := (bind_ok (read_ok env before) _).symm.trans hstop
  exact blames_bind hsound (missesNothing_insert _) (fun _ _ _ _ => blames_pure _) subject after
    hstop

end Identities

end
end ControlPlane
