/-
Grants over sessions.

A session makes a map of grants: each call that succeeds does to it what the operation does, a call
that fails leaves it alone, and a reset empties it (`Deployment.grantsAlong`).  By induction on the
session the rows stand for that map, and what clouds, models and credentials show of their grants is
what the map has for them.  Taking access away and recording a connection are the two events that
may find no entry; what they answer is said by the map too.  The theorem of this file is
`Deployment.grants_form_map`.
-/
import ControlPlane.Proofs.GrantRuns
import ControlPlane.Proofs.Unfolding

namespace ControlPlane

open Script
open IdentityName (sanitise)

/-! ## What objects show -/

/-- Whether grants are the entries that a map has for an object, one for each identity, in the order
of their names. -/
structure GrantMap.IsShownBy (m : GrantMap) (on : Grantable) (object : Int) (grants : List Grant) :
    Prop where
  entries : ∀ identity settings, m ⟨on, object, identity⟩ = some settings ↔
    ∃ grant ∈ grants, grant.identityName = identity ∧ grant.settings = settings
  ordered : grants.Pairwise fun a b => Text.IsBefore a.identityName b.identityName

/-- Whether all objects, on whatever pages they are read, show what a map has for them, and it has
nothing but that. -/
structure Contents.Shows (c : Contents) (m : GrantMap) : Prop where
  clouds : ∀ rows, Row.AreDistinct rows → ∀ cloud ∈ c.hydrateClouds (Preload.cloud "") rows,
    m.IsShownBy .cloud cloud.row.id cloud.grants
  models : ∀ rows, Row.AreDistinct rows → ∀ model ∈ c.hydrateModels (Preload.model "") rows,
    m.IsShownBy .model model.row.id model.grants
  credentials : ∀ rows, Row.AreDistinct rows →
    ∀ credential ∈ c.hydrateCredentials (Preload.credential "") rows,
      m.IsShownBy .credential credential.row.id credential.grants
  objects : ∀ key settings, m key = some settings →
    ∃ object ∈ c.get key.on.relation, object.id = key.origin.object

namespace Contents

variable {c : Contents}

/-- Grants that unfold a graph which asks for them are the entries of the map. -/
theorem isShownBy_of_unfold (hunique : c.Unique) {g : Preload} {above : String} {on : Grantable}
    {object : Int} {grants : List Grant} (h : Grants.Unfold c g above on object grants)
    (hasked : g.contains (Preload.join above "grants") = true) :
    c.grantMap.IsShownBy on object grants := by
  obtain ⟨rows, hrows, hgrants⟩ := h
  have hlists := hrows.loaded hasked
  have hmap : rows.map (fun row => (row.origin.identity, row.settings)) =
      grants.map fun grant => (grant.identityName, grant.settings) := by
    rw [← List.forall₂_eq_eq_eq, List.forall₂_map_left_iff, List.forall₂_map_right_iff]
    refine hgrants.imp fun row grant hgrant => ?_
    rw [hgrant.identityName, hgrant.settings]
  constructor
  · intro identity settings
    have hmem : (identity, settings) ∈
          grants.map (fun grant => (grant.identityName, grant.settings)) ↔
        (identity, settings) ∈ rows.map fun row => (row.origin.identity, row.settings) := by
      rw [hmap]
    simp only [List.mem_map, Prod.mk.injEq] at hmem
    rw [grantMap_eq_some hunique, hmem]
    constructor
    · rintro ⟨row, hrow, horigin, hsettings⟩
      exact ⟨row, (hlists.mem_iff row).2 ⟨hrow, congrArg Grant.Origin.object horigin⟩,
        congrArg Grant.Origin.identity horigin, hsettings⟩
    · rintro ⟨row, hrow, hidentity, hsettings⟩
      obtain ⟨hstored, hobject⟩ := (hlists.mem_iff row).1 hrow
      refine ⟨row, hstored, ?_, hsettings⟩
      rw [← hobject, ← hidentity]
  · have hnames : grants.map (fun grant => grant.identityName) =
        rows.map fun row => row.origin.identity := by
      have hfirst := congrArg (List.map Prod.fst) hmap
      rw [List.map_map, List.map_map] at hfirst
      exact hfirst.symm
    rw [← List.pairwise_map, hnames, List.pairwise_map]
    exact hlists.ordered

end Contents

/-- What is stored shows the map of its rows. -/
theorem Database.shows_grantMap {db : Database} (h : db.Sound) :
    db.contents.Shows db.contents.grantMap where
  clouds rows hrows cloud hcloud := by
    rw [(h.allDistinct.hydratesGraph _).clouds.eq_map hrows] at hcloud
    obtain ⟨row, -, rfl⟩ := List.mem_map.1 hcloud
    have hgrants := unfold_grants (consistent_of_sound h) (Preload.cloud "").isBelow_self .cloud
      row.id
    exact Contents.isShownBy_of_unfold h.unique hgrants (by decide)
  models rows hrows model hmodel := by
    rw [(h.allDistinct.hydratesBy_models _).eq_map hrows] at hmodel
    obtain ⟨row, -, rfl⟩ := List.mem_map.1 hmodel
    have hgrants := unfold_grants (consistent_of_sound h) (Preload.model "").isBelow_self .model
      row.id
    exact Contents.isShownBy_of_unfold h.unique hgrants (by decide)
  credentials rows hrows credential hcredential := by
    rw [(h.allDistinct.hydratesBy_credentials _).eq_map hrows] at hcredential
    obtain ⟨row, -, rfl⟩ := List.mem_map.1 hcredential
    have hgrants := unfold_grants (consistent_of_sound h) (Preload.credential "").isBelow_self
      .credential row.id
    exact Contents.isShownBy_of_unfold h.unique hgrants (by decide)
  objects key settings hentry := by
    obtain ⟨row, hrow, horigin, -⟩ := (Contents.grantMap_eq_some h.unique).1 hentry
    obtain ⟨object, hobject, hrefers⟩ :=
      Contents.resolves_iff.1 (h.closed _ row hrow _ List.mem_cons_self)
    have heq : row.origin.object = object.id := of_decide_eq_true hrefers
    exact ⟨object, hobject, by rw [← horigin, heq]⟩

/-! ## Histories -/

namespace Deployment

instance (dep : Deployment) : (step : Step) → Decidable (dep.IsReset step)
  | .migrate .. | .finishMigration .. => inferInstanceAs (Decidable (_ ∧ _ ∧ _))
  | .perform .. | .iterate .. | .reopen .. | .beginMigration .. | .tamper .. =>
    inferInstanceAs (Decidable False)

/-- A map of grants after a step: what a call that succeeds does to it, nothing where a call fails,
and no entries after a reset. -/
def grantsAfter (dep : Deployment) (m : GrantMap) (step : Step) : GrantMap :=
  match step with
  | .perform now course op =>
    match (dep.perform now course op).1 with
    | .ok _ =>
      (op.grantEvents dep.server.database.contents
        (dep.after step).server.database.contents).foldl GrantMap.after m
    | .error _ => m
  | step => if dep.IsReset step then GrantMap.empty else m

/-- A map of grants after several steps. -/
def grantsAlong (dep : Deployment) (m : GrantMap) : List Step → GrantMap
  | [] => m
  | step :: steps => (dep.after step).grantsAlong (dep.grantsAfter m step) steps

/-- What is no call empties the map or leaves it alone. -/
theorem grantMap_of_no_call {dep : Deployment} {step : Step}
    (h : ∀ now course op, step ≠ .perform now course op) :
    (dep.after step).server.database.contents.grantMap =
      if dep.IsReset step then GrantMap.empty else dep.server.database.contents.grantMap := by
  by_cases hreset : dep.IsReset step
  · rw [if_pos hreset, database_of_isReset hreset, Contents.grantMap_empty]
  · rw [if_neg hreset]
    rcases database_after dep step with heq | ⟨hreset', -⟩ | ⟨now, course, op, heq, -⟩
    · rw [heq]
    · exact absurd hreset' hreset
    · exact absurd heq (h now course op)

/-- The rows after a step stand for the map after it. -/
theorem grantMap_after {dep : Deployment} (hsound : dep.server.database.Sound) (step : Step) :
    (dep.after step).server.database.contents.grantMap =
      dep.grantsAfter dep.server.database.contents.grantMap step := by
  cases step with
  | perform now course op =>
    have hafter : (dep.after (.perform now course op)).server.database =
        (dep.store.perform now course op dep.server.database).2 := database_perform ..
    have hresult : (dep.perform now course op).1 =
        (dep.store.perform now course op dep.server.database).1 := rfl
    cases hanswer : (dep.perform now course op).1 with
    | ok reply =>
      obtain ⟨-, -, last, hrun, hlast⟩ := Store.of_perform_eq_ok (hresult.symm.trans hanswer)
      have hsound' : (Progress.mk dep.server.database false).database.Sound := hsound
      rw [grantsAfter, hanswer]
      dsimp only
      rw [hafter, hlast]
      exact op.grantMap_of_ok hsound' hrun
    | error e =>
      rw [grantsAfter, hanswer]
      dsimp only
      rw [hafter, Store.contents_of_perform_error (hresult.symm.trans hanswer)]
  | _ =>
    refine grantMap_of_no_call ?_
    intro now course op heq
    cases heq

/-- The rows after a session stand for the map that it makes. -/
theorem Reachable.grantMap_run {dep : Deployment} (h : dep.Reachable) (steps : List Step) :
    (dep.run steps).server.database.contents.grantMap =
      dep.grantsAlong dep.server.database.contents.grantMap steps := by
  induction steps generalizing dep with
  | nil => rfl
  | cons step rest ih =>
    have hafter : (dep.after step).Reachable := h.run [step]
    rw [grantsAlong, ← grantMap_after h.sound step]
    exact ih hafter

end Deployment

/-! ## Access that is taken away -/

namespace GrantObject

variable {env : Environment} {before : Progress}

/-- An object that a session has stored is addressed by its key. -/
theorem isStorable_of_row? {dep : Deployment} (h : dep.Reachable) {object : GrantObject}
    {row : Row object.on.relation} (hrow : object.row? dep.server.database.contents = some row) :
    object.key.IsStorable ∧ object.key.subject.isValid = true := by
  have haddressed : ∀ {key : Key} {root : Row key.relation}, key.relation ≠ .region →
      key.relation ≠ .identity → key.row? dep.server.database.contents = some root →
        key.IsStorable ∧ key.subject.isValid = true := by
    intro key root hregion hidentity hroot
    obtain ⟨hmem, hnames⟩ := Key.names_of_row? hroot
    obtain ⟨settings, steps, rfl⟩ := h
    obtain ⟨now, course, op, -, hvalid, hcreates, hstored⟩ := Deployment.exists_creation hmem
    refine ⟨Key.isStorable_of_names hstored hnames, Key.isValid_subject_of_names hnames ?_⟩
    intro hempty
    have hnameless := Operation.leavesNameless_of_creates hvalid hcreates hempty
    revert hregion hidentity hnameless
    cases key.relation <;> simp [Operation.LeavesNameless]
  cases object with
  | cloud name =>
    have hroot : (Key.cloud name).row? dep.server.database.contents = some row := hrow
    exact haddressed nofun nofun hroot
  | model key =>
    have hroot : (Key.model key).row? dep.server.database.contents = some row :=
      (Key.row?_model key _).trans hrow
    exact haddressed nofun nofun hroot
  | credential key =>
    have hroot : (Key.credential key).row? dep.server.database.contents = some row := hrow
    exact haddressed nofun nofun hroot

variable (hcalm : env.disturbance = none)

include hcalm

/-- Taking access away from an object that is there succeeds, and creates no identity. -/
theorem assign_none_ok (hsound : before.database.Sound) {object : GrantObject}
    (hstorable : object.key.IsStorable) {row : Row object.on.relation}
    (hrow : object.row? before.database.contents = some row) {identity : String}
    (hnul : Text.IsNulFree identity) :
    ∃ contents, (object.assign identity none).plan.script env before =
        .ok .done ⟨{ before.database with contents := contents }, true⟩ ∧
      contents.get .identity = before.database.contents.get .identity := by
  have hid : stored? row.id = some row.id := rfl
  have hparams := Storable.stored?_pair hid
    (Storable.stored?_text (IdentityName.isNulFree_sanitise hnul))
  obtain ⟨found, contents, hdelete, hidentities⟩ := Contents.delete_grant_ok hsound.unique
    hsound.closed hsound.distinct fun grant : Row (.grant object.on) =>
      decide (grant.origin = ⟨row.id, sanitise identity⟩)
  refine ⟨contents, ?_, hidentities⟩
  have hrevoke : Grants.revoke object.on row.id (sanitise identity) env before =
      .ok () ⟨{ before.database with contents := contents }, true⟩ :=
    bind_ok (delete_of_ok hcalm hparams hdelete) _
  rw [script_assign]
  have hnumber := number_ok hcalm object hstorable hrow
  exact map_ok (transaction_ok ((bind_ok hnumber _).trans hrevoke)) _

end GrantObject

/-! ## Connections that are recorded -/

namespace Models

variable {env : Environment} {before : Progress} {key : ModelKey} {identity : String}
  {time kept : Timestamp} (hcalm : env.disturbance = none) (hkey : (Key.model key).IsStorable)
  (hnul : Text.IsNulFree identity) (htime : time.stored? = some kept)

include hcalm hkey hnul htime

/-- On a model that is there, what is answered depends on whether a grant was written. -/
theorem recordConnection_of_update {row : Row .model}
    (hrow : (GrantObject.model key).row? before.database.contents = some row)
    {written : Option (Row (.grant .model))} {contents : Contents}
    (hupdate : before.database.contents.update env.now
      (fun grant : Row (.grant .model) => grant.origin = ⟨row.id, identity⟩)
      (fun settings => { settings with lastConnection := some kept }) = .ok (written, contents)) :
    recordConnection key.sanitise identity time env before =
      let after : Progress := ⟨{ before.database with contents := contents }, true⟩
      if written.isSome then .ok () after else .error (.failed .noRow none) after := by
  have hid : stored? row.id = some row.id := rfl
  have hparams : stored? (row.id, identity, time) = some (row.id, identity, kept) :=
    Storable.stored?_pair hid (Storable.stored?_pair (Storable.stored?_text hnul) htime)
  have hnumber : idOf key.sanitise env before = .ok row.id before :=
    GrantObject.number_ok hcalm (.model key) hkey hrow
  rw [recordConnection, bind_ok hnumber]
  refine (bind_ok (update_ok hcalm hparams hupdate) _).trans ?_
  cases written <;> rfl

/-- Where the identity holds a grant on the model, the connection is recorded. -/
theorem recordConnection_ok (hsound : before.database.Sound) {row : Row .model}
    (hrow : (GrantObject.model key).row? before.database.contents = some row)
    {settings : Grant.Settings}
    (hentry : before.database.contents.grantMap ⟨.model, row.id, identity⟩ = some settings) :
    ∃ after, recordConnection key.sanitise identity time env before = .ok () after := by
  obtain ⟨grant, hgrant, -⟩ := Option.map_eq_some_iff.1 hentry
  have hupdate := Contents.update_ok hsound.unique hsound.closed (Relation.grant_isKeyed .model)
    nofun hgrant env.now fun settings => { settings with lastConnection := some kept }
  exact ⟨_, recordConnection_of_update hcalm hkey hnul htime hrow hupdate⟩

/-- Where there is no model or no grant, nothing is recorded. -/
theorem recordConnection_error
    (hnone : ∀ row, (GrantObject.model key).row? before.database.contents = some row →
      before.database.contents.grantMap ⟨.model, row.id, identity⟩ = none) :
    ∃ after, recordConnection key.sanitise identity time env before =
      .error (.failed .noRow none) after := by
  cases hrow : (GrantObject.model key).row? before.database.contents with
  | none =>
    have hnumber : idOf key.sanitise env before = .error (.failed .noRow none) before :=
      GrantObject.number_error hcalm (.model key) hkey hrow
    exact ⟨before, bind_error hnumber _⟩
  | some row =>
    have hupdate := Contents.update_of_none (Option.map_eq_none_iff.1 (hnone row hrow)) env.now
      fun settings => { settings with lastConnection := some kept }
    exact ⟨_, recordConnection_of_update hcalm hkey hnul htime hrow hupdate⟩

end Models

/-! ## Sessions -/

namespace Deployment

/-- Whether taking away the access of an identity to an object that is there succeeds undisturbed,
with a grant or without.  It drops the entry and creates no identity. -/
def TakesAccessAway (dep : Deployment) (m : GrantMap) : Prop :=
  ∀ (object : GrantObject) (row : Row object.on.relation) (identity : String) (now : Timestamp),
    object.row? dep.server.database.contents = some row → Text.IsNulFree identity →
      let op := object.assign identity none
      let later := dep.after (.perform now .undisturbed op)
      (dep.perform now .undisturbed op).1 = .ok .done ∧
        dep.grantsAfter m (.perform now .undisturbed op) =
          m.drop (fun key => key = ⟨object.on, row.id, sanitise identity⟩) ∧
        later.server.database.contents.get .identity =
          dep.server.database.contents.get .identity ∧
        later.server.database.sequences = dep.server.database.sequences

/-- Whether a connection at an instant that the database takes is recorded undisturbed in the entry
of the identity on the model, to the microsecond, and reported as not found only if there is no such
model or no such entry. -/
def RecordsConnections (dep : Deployment) (m : GrantMap) : Prop :=
  ∀ (key : ModelKey) (identity : String) (time now : Timestamp),
    (∀ part ∈ (Key.model key).parts, Text.IsNulFree part) → Text.IsNulFree identity →
      time.stored? ≠ none →
      let c := dep.server.database.contents
      let op : Operation := .recordConnection key identity time
      let answer := (dep.perform now .undisturbed op).1
      (answer = .error (.notFound "models.touch_grant_connection" (.ofModel key.sanitise)) ↔
        ∀ row, (GrantObject.model key).row? c = some row →
          m ⟨.model, row.id, sanitise identity⟩ = none) ∧
        ∀ row settings, (GrantObject.model key).row? c = some row →
          m ⟨.model, row.id, sanitise identity⟩ = some settings →
          answer = .ok .done ∧
            dep.grantsAfter m (.perform now .undisturbed op) =
              Function.update m ⟨.model, row.id, sanitise identity⟩ (some { settings with
                lastConnection := some (Timestamp.ofStoredMicros time.storedMicros) })

variable {dep : Deployment} (hreachable : dep.Reachable) (hready : dep.store.lifecycle = .ready)

include hreachable hready

theorem Reachable.takesAccessAway :
    dep.TakesAccessAway dep.server.database.contents.grantMap := by
  intro object row identity now hrow hnul op later
  obtain ⟨hstorable, hvalid⟩ := GrantObject.isStorable_of_row? hreachable hrow
  have hsound : (Progress.mk dep.server.database false).database.Sound := hreachable.sound
  have hcalm : (dep.store.environment now .undisturbed).disturbance = none := rfl
  obtain ⟨contents, hrun, hidentities⟩ :=
    GrantObject.assign_none_ok hcalm hsound hstorable hrow hnul
  have hperform := Store.perform_ok hready (object.subject_assign identity none ▸ hvalid) hrun
  have hanswer : (dep.perform now .undisturbed op).1 = .ok .done := congrArg Prod.fst hperform
  have hlater : later.server.database = { dep.server.database with contents := contents } :=
    (database_perform ..).trans (congrArg Prod.snd hperform)
  refine ⟨hanswer, ?_, ?_, ?_⟩
  · have hevents : op.grantEvents dep.server.database.contents later.server.database.contents =
        [.assigned ⟨object.on, row.id, sanitise identity⟩ none] := by
      have hassigned : op.grantEvents dep.server.database.contents later.server.database.contents =
          object.assigned dep.server.database.contents [(sanitise identity, none)] := by
        cases object <;> rfl
      rw [hassigned, GrantObject.assigned, hrow]
      rfl
    rw [grantsAfter, hanswer]
    dsimp only
    rw [hevents]
    rfl
  · rw [hlater]
    exact hidentities
  · rw [hlater]

theorem Reachable.recordsConnections :
    dep.RecordsConnections dep.server.database.contents.grantMap := by
  intro key identity time now hparts hnul htime c op answer
  have hkey := Key.isStorable_model hparts
  have hnul := IdentityName.isNulFree_sanitise hnul
  obtain ⟨kept, hkept⟩ := Option.ne_none_iff_exists'.1 htime
  have hsound : (Progress.mk dep.server.database false).database.Sound := hreachable.sound
  let env := dep.store.environment now .undisturbed
  have hcalm : env.disturbance = none := rfl
  have hfound : ∀ row settings, (GrantObject.model key).row? c = some row →
      c.grantMap ⟨.model, row.id, sanitise identity⟩ = some settings → answer = .ok .done := by
    intro row settings hrow hentry
    have hvalid : op.plan.subject.isValid = true :=
      (GrantObject.isStorable_of_row? hreachable hrow).2
    obtain ⟨after, hrun⟩ :=
      Models.recordConnection_ok hcalm hkey hnul hkept hsound hrow hentry
    have hscript : op.plan.script env ⟨dep.server.database, false⟩ = .ok .done after :=
      map_ok hrun Reply.ofUnit
    exact congrArg Prod.fst (Store.perform_ok hready hvalid hscript)
  refine ⟨⟨fun herror row hrow => ?_, fun hnone => ?_⟩, fun row settings hrow hentry => ?_⟩
  · cases hentry : c.grantMap ⟨.model, row.id, sanitise identity⟩ with
    | none => rfl
    | some settings =>
      rw [hfound row settings hrow hentry] at herror
      cases herror
  · cases hvalid : op.plan.subject.isValid with
    | false => exact congrArg Prod.fst (Store.perform_of_invalid hready hvalid now _ _)
    | true =>
      let start : Progress := ⟨dep.server.database, false⟩
      have hmissing : ∀ row, (GrantObject.model key).row? start.database.contents = some row →
          start.database.contents.grantMap ⟨.model, row.id, sanitise identity⟩ = none := hnone
      obtain ⟨after, hrun⟩ :=
        Models.recordConnection_error hcalm hkey hnul hkept hmissing
      have hscript : op.plan.script env ⟨dep.server.database, false⟩ =
          .error (.failed .noRow none) after := map_error hrun Reply.ofUnit
      exact congrArg Prod.fst (Store.perform_of_error hready hvalid hscript)
  · have hanswer : (dep.perform now .undisturbed op).1 = .ok .done :=
      hfound row settings hrow hentry
    refine ⟨hanswer, ?_⟩
    rw [grantsAfter, hanswer]
    dsimp only
    rw [Operation.grantEvents, GrantObject.connected, hrow, List.foldl_cons, List.foldl_nil,
      GrantMap.after, hentry]
    rfl

omit hreachable hready

/-- What a session shows of grants is the map that it makes: a level that is assigned is that of the
entry and keeps its last connection, access that is taken away leaves no entry, and nor do an object
and an identity that are deleted; what fails changes nothing, and nor does anything else. -/
theorem grants_form_map (settings : StoreSettings) (steps : List Step) :
    let dep := (initial settings).run steps
    let m := (initial settings).grantsAlong GrantMap.empty steps
    dep.server.database.contents.Shows m ∧
      (dep.store.lifecycle = .ready → dep.TakesAccessAway m ∧ dep.RecordsConnections m) := by
  intro dep m
  have hinitial : (initial settings).Reachable := ⟨settings, [], rfl⟩
  have hreachable : dep.Reachable := hinitial.run steps
  have hm : dep.server.database.contents.grantMap = m := by
    have hempty : (initial settings).server.database.contents.grantMap = GrantMap.empty :=
      Contents.grantMap_empty
    have hrun := hinitial.grantMap_run steps
    rwa [hempty] at hrun
  rw [← hm]
  exact ⟨Database.shows_grantMap hreachable.sound,
    fun hready => ⟨hreachable.takesAccessAway hready, hreachable.recordsConnections hready⟩⟩

/-- The grant of an identity on a model, after a connection and another level, and the same grant
once it was taken away and given again. -/
def reconnectionSteps : List Step :=
  let bob (access : Option Access) : Operation :=
    .assignModelGrant (.ownerName "ann" "web") "bob" access
  [.migrate .undisturbed false,
    .perform ⟨0, 0⟩ .undisturbed
      (.addCloud ⟨"aws", ⟨"ec2", "", [], .none, [], .empty⟩, [⟨"west", .none, .empty⟩]⟩),
    .perform ⟨1, 0⟩ .undisturbed (.addController
      ⟨⟨"one", ⟨1⟩, ⟨"aws", "west"⟩⟩, ⟨"", "", "", "", false, "", [], none, .empty⟩, []⟩),
    .perform ⟨2, 0⟩ .undisturbed
      (.addCredential ⟨⟨"aws", "ann", "main"⟩, ⟨"", "", false, .empty, none⟩⟩),
    .perform ⟨3, 0⟩ .undisturbed (.addModel ⟨⟨"ann", "web", 1⟩,
      ⟨none, 1, 1, "", false, "", .alive, ⟨"", "", none, ""⟩, ⟨"", ""⟩, 0, 0, 0⟩⟩),
    .perform ⟨4, 0⟩ .undisturbed (bob (some .read)),
    .perform ⟨5, 0⟩ .undisturbed
      (.recordConnection (.ownerName "ann" "web") "bob" ⟨1000000000, 1234567⟩),
    .perform ⟨6, 0⟩ .undisturbed (bob (some .write)),
    .perform ⟨7, 0⟩ .undisturbed (bob none),
    .perform ⟨8, 0⟩ .undisturbed (bob (some .admin))]

theorem grants_form_map_reconnection :
    let bob : Grant.Key := ⟨.model, 1, "bob"⟩
    let entryAfter (n : Nat) : Option Grant.Settings :=
      (initial .default).grantsAlong GrantMap.empty (reconnectionSteps.take n) bob
    let dep := (initial .default).run reconnectionSteps
    let m := (initial .default).grantsAlong GrantMap.empty reconnectionSteps
    (List.range 11).map entryAfter =
      [none, none, none, none, none, none, some ⟨.read, none⟩,
        some ⟨.read, some ⟨1000000000, 1234000⟩⟩, some ⟨.write, some ⟨1000000000, 1234000⟩⟩, none,
        some ⟨.admin, none⟩] ∧
    dep.store.lifecycle = .ready ∧ dep.server.database.contents.Shows m ∧
      dep.TakesAccessAway m ∧ dep.RecordsConnections m := by
  intro bob entryAfter dep m
  have hready : dep.store.lifecycle = .ready := by decide +kernel
  obtain ⟨hshows, hevents⟩ := grants_form_map .default reconnectionSteps
  exact ⟨by decide +kernel, hready, hshows, hevents hready⟩

end Deployment
end ControlPlane
