/-
Identities that are created on the way.

An operation that names an identity creates it if there is none, with what identities have by
default, and otherwise leaves it alone.  `Provisions` is what an operation does to the identities
there are: each stays as it is unless the operation is about that very identity, and each new one is
named by the operation (`Evolution.provisions`).  And where such an operation succeeds, all that it
names are there (`Operation.secures`).
-/
import ControlPlane.Proofs.Cascade
import ControlPlane.Proofs.Consistency
import ControlPlane.Proofs.Inversion

namespace ControlPlane

open Script
open IdentityName (sanitise)

/-! ## What becomes of identities -/

/-- Whether an operation is about an identity itself: it overwrites or deletes it. -/
def Operation.Administers (op : Operation) (name : String) : Prop :=
  ∃ raw, sanitise raw = name ∧
    ((∃ settings, op = .updateIdentity raw settings) ∨ op = .deleteIdentity raw)

theorem Operation.identities_of_administers {op : Operation} {name : String}
    (h : op.Administers name) : op.identities = [] := by
  obtain ⟨raw, -, ⟨settings, rfl⟩ | rfl⟩ := h
  · rfl
  · rfl

/-- Whether an operation may create an identity as it stands. -/
structure Operation.Provides (op : Operation) (access : Access) (row : Row .identity) : Prop where
  named : row.origin ∈ op.identities
  furnished : op.Furnishes access row.toEntry

/-- What an operation may do to identities: those that are there stay as they are, but for the one
that it is about, and each new one is one that it may create. -/
structure Provisions (op : Operation) (access : Access) (before after : Database) : Prop where
  kept : ∀ row ∈ before.contents.get .identity,
    row ∈ after.contents.get .identity ∨ op.Administers row.origin
  new : ∀ row ∈ after.contents.get .identity,
    (∃ old ∈ before.contents.get .identity, old.id = row.id) ∨ op.Provides access row

namespace Provisions

variable {op : Operation} {access : Access} {before middle after : Database}

theorem of_get_eq (h : after.contents.get .identity = before.contents.get .identity) :
    Provisions op access before after where
  kept _ hrow := .inl (h ▸ hrow)
  new row hrow := .inl ⟨row, h ▸ hrow, rfl⟩

theorem trans (hsound : after.Sound) (h : Provisions op access before middle)
    (h' : Provisions op access middle after) : Provisions op access before after where
  kept row hrow := by
    rcases h.kept row hrow with hmiddle | hadministers
    · exact h'.kept row hmiddle
    · exact .inr hadministers
  new row hrow := by
    rcases h'.new row hrow with ⟨between, hbetween, hid⟩ | hprovides
    · rcases h.new between hbetween with ⟨old, hold, hid'⟩ | hprovides
      · exact .inl ⟨old, hold, hid'.trans hid⟩
      · -- An operation that creates identities is about none, so the new row stays.
        have hstays : between ∈ after.contents.get .identity := by
          refine (h'.kept between hbetween).resolve_right fun hadministers => ?_
          have hnamed := hprovides.named
          rw [Operation.identities_of_administers hadministers] at hnamed
          cases hnamed
        rw [← hsound.distinct.eq hstays hrow hid]
        exact .inr hprovides
    · exact .inr hprovides

end Provisions

namespace Database

variable {op : Operation} {access : Access} {now : Timestamp} {db after : Database}

theorem Write.provisions (hsound : db.Sound) {statement : Statement}
    (hwrites : op.Writes access statement) (hwrite : Write now statement db after) :
    Provisions op access db after := by
  cases hwrite with
  | @insert r _ e =>
    obtain ⟨-, hcases⟩ := insert_cases (Prod.eta (db.insert now e)).symm
    rcases hcases with ⟨failure, -, -, hcontents⟩ | ⟨row, -, hrow, -, hcontents⟩
    · exact .of_get_eq (by rw [hcontents])
    by_cases hr : r = .identity
    · subst hr
      have hentry : row.toEntry = e := by rw [hrow]
      constructor
      · intro old hold
        rw [hcontents, PerRelation.get_set_self]
        exact .inl (List.mem_append_left _ hold)
      · intro new hnew
        rw [hcontents, PerRelation.get_set_self] at hnew
        rcases List.mem_append.1 hnew with hold | hnew
        · exact .inl ⟨new, hold, rfl⟩
        · obtain rfl := List.mem_singleton.1 hnew
          refine .inr ⟨?_, ?_⟩
          · rw [hentry]
            exact hwrites.1
          · rw [hentry]
            exact hwrites.2.2
    · exact .of_get_eq (by rw [hcontents, PerRelation.get_set_of_ne _ _ (Ne.symm hr)])
  | lose => exact .of_get_eq rfl
  | @update r which _ _ _ _ hupdate =>
    rcases Contents.update_cases hupdate with ⟨-, rfl⟩ | ⟨row, new, hfind, -, hnew, -, rfl⟩
    · exact .of_get_eq rfl
    by_cases hr : r = .identity
    · subst hr
      obtain ⟨name, settings, rfl, rfl⟩ := hwrites
      have hfound : row.origin = sanitise name := by simpa using List.find?_some hfind
      have hid : new.id = row.id := by rw [hnew]
      constructor
      · intro old hold
        by_cases hsame : old.id = new.id
        · obtain rfl := hsound.distinct.eq hold (List.mem_of_find?_eq_some hfind) (hsame.trans hid)
          exact .inr ⟨name, hfound.symm, .inl ⟨settings, rfl⟩⟩
        · left
          rw [PerRelation.get_set_self]
          exact List.mem_map.2 ⟨old, hold, if_neg hsame⟩
      · intro other hother
        rw [PerRelation.get_set_self] at hother
        obtain ⟨old, hold, rfl⟩ := List.mem_map.1 hother
        refine .inl ⟨old, hold, ?_⟩
        split
        next hsame => exact hsame
        next => rfl
    · exact .of_get_eq (PerRelation.get_set_of_ne _ _ (Ne.symm hr))
  | @delete r which _ _ _ hdelete =>
    have hleft :=
      Contents.without_of_delete hsound.unique hsound.closed hsound.distinct hdelete .identity
    constructor
    · intro row hrow
      by_cases hgoes : Contents.Goes db.contents (Contents.Meant which) .identity row
      · rcases (Contents.goes_iff_meant (by decide)).1 hgoes with ⟨hmeant⟩
        obtain ⟨name, rfl, rfl⟩ := hwrites
        exact .inr ⟨name, (of_decide_eq_true hmeant).symm, .inr rfl⟩
      · exact .inl ((hleft.mem_iff row hrow).2 hgoes)
    · exact fun row hrow => .inl ⟨row, hleft.sublist.subset hrow, rfl⟩

theorem Evolution.provisions (h : Evolution now (op.Writes access) db after) (hsound : db.Sound) :
    Provisions op access db after := by
  induction h with
  | refl => exact .of_get_eq rfl
  | write hwrites hwrite => exact hwrite.provisions hsound hwrites
  | trans first second ihfirst ihsecond =>
    have hmiddle := first.sound hsound
    exact (ihfirst hsound).trans (second.sound hmiddle) (ihsecond hmiddle)
  | undo => exact .of_get_eq rfl

end Database

/-! ## What is there afterwards -/

/-- Whether a statement leaves the rows of a relation as they are, and may add to them. -/
def Statement.Retains (q : Relation) : Statement → Prop
  | .insert _ => True
  | .update (r := r) _ _ => r ≠ q
  | .delete _ => False

namespace Database

variable {now : Timestamp} {q : Relation} {db after : Database} {row : Row q}

theorem Write.mem {statement : Statement} (hretains : statement.Retains q)
    (hwrite : Write now statement db after) (hrow : row ∈ db.contents.get q) :
    row ∈ after.contents.get q := by
  cases hwrite with
  | insert _ e =>
    obtain ⟨-, ⟨failure, -, -, hcontents⟩ | ⟨inserted, -, -, -, hcontents⟩⟩ :=
      insert_cases (Prod.eta (db.insert now e)).symm
    · rwa [hcontents]
    · rw [hcontents]
      exact PerRelation.get_set_cases
        (P := fun q (rows : List (Row q)) => ∀ row ∈ db.contents.get q, row ∈ rows)
        (fun _ hrow => List.mem_append_left _ hrow) (fun _ _ _ hrow => hrow) q row hrow
  | lose => exact hrow
  | update hupdate =>
    rcases Contents.update_cases hupdate with ⟨-, rfl⟩ | ⟨found, new, -, -, -, -, rfl⟩
    · exact hrow
    · have hsame := PerRelation.get_set_of_ne db.contents
        (Contents.rewritten (db.contents.get _) new) (Ne.symm hretains)
      exact hsame.symm ▸ hrow
  | delete => exact hretains.elim

theorem Evolution.mem (h : Evolution now (Statement.Retains q) db after)
    (hrow : row ∈ db.contents.get q) : row ∈ after.contents.get q := by
  induction h with
  | refl => exact hrow
  | write hretains hwrite => exact hwrite.mem hretains hrow
  | trans _ _ ihfirst ihsecond => exact ihsecond (ihfirst hrow)
  | undo => exact hrow

end Database

namespace Script

variable {α β : Type} {env : Environment} {name : String}

/-- Whether an identity is there wherever a script has succeeded. -/
def Secures (env : Environment) (name : String) (body : Script α) : Prop :=
  ∀ before a after, body env before = .ok a after →
    ∃ row ∈ after.database.contents.get .identity, row.origin = name

theorem Secures.map {body : Script α} (h : Secures env name body) (f : α → β) :
    Secures env name (f <$> body) := by
  intro before b after hrun
  obtain ⟨a, hbody, -⟩ := of_map_eq_ok hrun
  exact h before a after hbody

theorem Secures.transaction {body : Script α} (h : Secures env name body) :
    Secures env name (transaction body) :=
  fun before a after hrun => h before a after (of_transaction_eq_ok hrun)

/-- What comes first secures an identity, and what comes then leaves it there. -/
theorem Secures.bind {body : Script α} {next : α → Script β} (h : Secures env name body)
    (hnext : ∀ a, Within env (Statement.Retains .identity) (next a)) :
    Secures env name (body >>= next) := by
  intro before b after hrun
  obtain ⟨a, middle, hbody, hrest⟩ := of_bind_eq_ok hrun
  obtain ⟨row, hrow, horigin⟩ := h before a middle hbody
  exact ⟨row, (evolution_of_ok (hnext a) hrest).mem hrow, horigin⟩

/-- What comes last secures an identity. -/
theorem secures_bind {body : Script α} {next : α → Script β}
    (h : ∀ a, Secures env name (next a)) : Secures env name (body >>= next) := by
  intro before b after hrun
  obtain ⟨a, middle, -, hrest⟩ := of_bind_eq_ok hrun
  exact h a middle b after hrest

theorem secures_each {f : α → Script β} {items : List α} {item : α} (hitem : item ∈ items)
    (h : Secures env name (f item))
    (hothers : ∀ a, Within env (Statement.Retains .identity) (f a)) :
    Secures env name (each f items) := by
  induction items with
  | nil => cases hitem
  | cons first rest ih =>
    rw [each]
    rcases List.mem_cons.1 hitem with rfl | hrest
    · refine h.bind fun b => within_bind (within_each fun a _ => hothers a) fun _ => ?_
      exact within_pure _
    · exact secures_bind fun b => (ih hrest).bind fun _ => within_pure _

/-- An insert that is merged leaves a row with its origin, old or new. -/
theorem exists_origin_of_insertNew {r : Relation} (hkeyed : r.IsKeyed) {e : Entry r}
    {outcome : Merge} {before after : Progress} (h : insertNew e env before = .ok outcome after) :
    ∃ row ∈ after.database.contents.get r, row.origin = e.origin := by
  obtain ⟨kept, hkept, ⟨-, -, rfl⟩ | ⟨name, detail, hrefusal, hrest⟩⟩ := of_insertOr_eq_ok h
  · refine ⟨before.database.nextRow env.now kept, ?_, Storable.origin_of_stored? hkept⟩
    rw [PerRelation.get_set_self]
    exact List.mem_append_right _ List.mem_cons_self
  · -- Only a row with the same unique values, and so with the same origin, lets the merge go on.
    cases hrest
    obtain ⟨row, hrow, hsame⟩ := Contents.exists_origin_of_refusal? hkeyed hrefusal
    exact ⟨row, hrow, hsame.trans (Storable.origin_of_stored? hkept)⟩

end Script

/-! ## What operations secure -/

section

variable {env : Environment}

theorem retains_insert {r : Relation} (e : Entry r) :
    Statement.AllowsInsert (Statement.Retains .identity) e := fun _ _ => trivial

theorem retains_grants (on : Grantable) :
    Statement.AllowsUpdates (Statement.Retains .identity) (.grant on) :=
  fun _ _ => Relation.grant_ne_identity on

theorem Identities.ensure_secures (name : String) : Secures env name (ensure name) := by
  intro before outcome after hrun
  rw [ensure, bind_ok (read_ok env before)] at hrun
  exact exists_origin_of_insertNew Relation.identity_isKeyed hrun

theorem Identities.getOrCreate_secures (name : String) : Secures env name (getOrCreate name) :=
  ((ensure_secures name).bind fun _ => within_queryOne _ _).transaction

theorem Identities.add_secures (draft : Identity.Draft) :
    Secures env draft.name (add draft) := by
  intro before identity after hrun
  rw [add, bind_ok (read_ok env before)] at hrun
  obtain ⟨row, middle, hinsert, hrest⟩ := of_bind_eq_ok hrun
  cases hrest
  obtain ⟨hkept, -, -, hcontents⟩ := appends_of_insert hinsert
  refine ⟨row, ?_, Storable.origin_of_stored? hkept⟩
  rw [hcontents, PerRelation.get_set_self]
  exact List.mem_append_right _ List.mem_cons_self

namespace Grants

variable {on : Grantable} {object : Int}

theorem merge_secures (identity : String) (access : Access) :
    Secures env identity (merge on object identity access) :=
  (Identities.ensure_secures identity).bind fun _ =>
    within_insertOrChange (retains_insert _) fun _ _ => retains_grants on _ _

theorem assign_secures (identity : String) (level : Access) :
    Secures env identity (assign on object identity (some level)) :=
  (merge_secures identity level).bind fun _ => within_pure _

theorem mergeReports_secures {reports : List GrantReport} {report : GrantReport}
    (hreport : report ∈ reports) :
    Secures env (sanitise report.identityName) (mergeReports on object reports) :=
  secures_each hreport (merge_secures _ _) fun _ =>
    merge_within (retains_insert _) (retains_insert _) (retains_grants on)

theorem mergeReports_retains (reports : List GrantReport) :
    Within env (Statement.Retains .identity) (mergeReports on object reports) :=
  mergeReports_within (fun _ _ => retains_insert _) (fun _ _ => retains_insert _)
    (retains_grants on)

end Grants

theorem Credentials.prepare_secures (key : CredentialKey) :
    Secures env key.owner (prepare key) :=
  secures_bind fun _ => (Identities.ensure_secures key.owner).bind fun _ => within_pure _

end

open Grants in
/-- Where an operation succeeds, the identities that it may create are there. -/
theorem Operation.secures {op : Operation} {name : String} (hname : name ∈ op.identities)
    (env : Environment) : Secures env name op.plan.script := by
  cases op with
  | reconcileCloud snapshot =>
    obtain ⟨report, hreport, rfl⟩ := List.mem_map.1 hname
    refine Secures.map (Secures.transaction ?_) _
    refine secures_bind fun _ => secures_bind fun _ => secures_bind fun _ => ?_
    exact (mergeReports_secures hreport).bind fun _ =>
      within_bind (Clouds.readBack_within _) fun _ => within_pure _
  | assignCloudGrant cloud identity access =>
    cases access with
    | none => cases hname
    | some level =>
      obtain rfl := List.mem_singleton.1 hname
      exact (secures_bind fun _ => assign_secures _ level).transaction.map _
  | addModel entry =>
    obtain rfl := List.mem_singleton.1 hname
    refine Secures.map (Secures.transaction ?_) _
    exact (Identities.ensure_secures _).bind fun _ =>
      within_bind (within_insert _ (retains_insert _)) fun _ => within_queryOne _ _
  | assignModelGrant key identity access =>
    cases access with
    | none => cases hname
    | some level =>
      obtain rfl := List.mem_singleton.1 hname
      exact (secures_bind fun _ => assign_secures _ level).transaction.map _
  | getOrCreateIdentity given =>
    obtain rfl := List.mem_singleton.1 hname
    exact (Identities.getOrCreate_secures _).map _
  | addIdentity draft =>
    obtain rfl := List.mem_singleton.1 hname
    exact (Identities.add_secures _).map _
  | addCredential entry =>
    obtain rfl := List.mem_singleton.1 hname
    refine Secures.map (Secures.transaction ?_) _
    exact (Credentials.prepare_secures _).bind fun _ =>
      within_bind (within_insert _ (retains_insert _)) fun _ => within_queryOne _ _
  | reconcileCredential snapshot =>
    refine Secures.map (Secures.transaction ?_) _
    rcases List.mem_cons.1 hname with rfl | hname
    · refine (Credentials.prepare_secures _).bind fun _ => ?_
      refine within_bind (within_insertNew (retains_insert _)) fun _ => ?_
      refine within_bind (Credentials.idOf_within _) fun _ => ?_
      refine within_bind (mergeReports_retains _) fun _ => ?_
      exact within_bind (within_queryOne _ _) fun _ => within_pure _
    · obtain ⟨report, hreport, rfl⟩ := List.mem_map.1 hname
      refine secures_bind fun _ => secures_bind fun _ => secures_bind fun _ => ?_
      exact (mergeReports_secures hreport).bind fun _ =>
        within_bind (within_queryOne _ _) fun _ => within_pure _
  | assignCredentialGrant key identity access =>
    cases access with
    | none => cases hname
    | some level =>
      obtain rfl := List.mem_singleton.1 hname
      exact (secures_bind fun _ => assign_secures _ level).transaction.map _
  | _ => cases hname

/-! ## Owners in keys -/

/-- The owner in the key of an object on which an operation grants access. -/
def Operation.keyOwners : Operation → List String
  | .assignModelGrant (.ownerName owner _) _ (some _) => [sanitise owner]
  | .assignCredentialGrant key _ (some _) => [sanitise key.owner]
  | _ => []

/-- An object that is found by its key has an owner. -/
theorem Operation.exists_keyOwner {op : Operation} {name : String} (hname : name ∈ op.keyOwners)
    {env : Environment} {before after : Progress} {reply : Reply}
    (hconsistent : before.database.Consistent)
    (h : op.plan.script env before = .ok reply after) :
    ∃ row ∈ before.database.contents.get .identity, row.origin = name := by
  unfold keyOwners at hname
  split at hname
  next owner model identity level =>
    obtain rfl := List.mem_singleton.1 hname
    obtain ⟨_, hrun, -⟩ := of_map_eq_ok h
    obtain ⟨id, _, hid, -⟩ := of_bind_eq_ok (of_transaction_eq_ok hrun)
    obtain ⟨key, hkey, hfound, -⟩ := of_queryOne_eq_ok hid
    obtain rfl := Storable.isExact_modelKey _ _ hkey
    obtain ⟨row, hrow, -⟩ := Option.map_eq_some_iff.1 hfound
    have hnames := List.find?_some hrow
    rw [Bool.and_eq_true_iff, decide_eq_true_iff] at hnames
    rw [← hnames.1]
    exact hconsistent.ownerOfModel row (List.mem_of_find?_eq_some hrow)
  next given identity level =>
    obtain rfl := List.mem_singleton.1 hname
    obtain ⟨_, hrun, -⟩ := of_map_eq_ok h
    obtain ⟨id, _, hid, -⟩ := of_bind_eq_ok (of_transaction_eq_ok hrun)
    obtain ⟨key, hkey, hfound, -⟩ := of_queryOne_eq_ok hid
    obtain rfl := Storable.isExact_credentialKey _ _ hkey
    obtain ⟨row, hrow, -⟩ := Option.map_eq_some_iff.1 hfound
    have horigin : row.origin = given.sanitise := by simpa using List.find?_some hrow
    obtain ⟨owner, howner, hsame⟩ :=
      hconsistent.ownerOfCredential row (List.mem_of_find?_eq_some hrow)
    exact ⟨owner, howner, hsame.trans (by rw [horigin]; rfl)⟩
  next => cases hname

/-! ## Calls -/

theorem Store.perform_provisions (store : Store) (now : Timestamp) (course : Course)
    (op : Operation) {db : Database} (hsound : db.Sound) :
    Provisions op store.settings.defaultAccess db (store.perform now course op db).2 :=
  have hwithin : Within (store.environment now course) (op.Writes store.settings.defaultAccess)
      op.plan.script := op.within_writes _
  (perform_evolution_of_within (fun _ => hwithin) db).provisions hsound

namespace Deployment

/-- Unless everything is dropped, an identity that is there stays as it is, but for the one that is
overwritten or deleted itself.  Apart from those that are added, a new identity comes of an
operation that names it and succeeds, and has what identities have by default.  All that such an
operation names are there afterwards. -/
theorem Reachable.identities_provisioned {dep : Deployment} (h : dep.Reachable) :
    (∀ step, ¬dep.IsReset step →
      (∀ row ∈ dep.server.database.contents.identity,
        row ∈ (dep.after step).server.database.contents.identity ∨
          ∃ now course op, step = .perform now course op ∧ op.Administers row.origin) ∧
      ∀ row ∈ (dep.after step).server.database.contents.identity,
        (∀ old ∈ dep.server.database.contents.identity, old.id ≠ row.id) →
        ∃ now course op reply, step = .perform now course op ∧
          (dep.perform now course op).1 = .ok reply ∧ row.origin ∈ op.identities ∧
          ((∃ draft, op = .addIdentity draft) ∨
            row.settings = ⟨IdentityName.displayName row.origin,
              dep.store.settings.defaultAccess, none, false⟩)) ∧
    ∀ now course op reply, (dep.perform now course op).1 = .ok reply →
      ∀ name ∈ op.identities ++ op.keyOwners,
        ∃ row ∈ (dep.perform now course op).2.server.database.contents.identity,
          row.origin = name := by
  refine ⟨fun step hreset => ?_, fun now course op reply hreply name hname => ?_⟩
  · rcases database_after dep step with heq | ⟨hdropped, -⟩ | ⟨now, course, op, rfl, heq⟩
    · rw [heq]
      exact ⟨fun row hrow => .inl hrow, fun row hrow hnew => absurd rfl (hnew row hrow)⟩
    · exact absurd hdropped hreset
    have hprovisions := dep.store.perform_provisions now course op h.sound
    rw [heq]
    refine ⟨fun row hrow => ?_, fun row hrow hnew => ?_⟩
    · exact (hprovisions.kept row hrow).imp_right fun hadministers =>
        ⟨now, course, op, rfl, hadministers⟩
    · rcases hprovisions.new row hrow with ⟨old, hold, hid⟩ | hprovides
      · exact absurd hid (hnew old hold)
      -- An operation that does not succeed leaves no row behind, so this one did.
      cases hresult : (dep.store.perform now course op dep.server.database).1 with
      | error e =>
        rw [Store.contents_of_perform_error hresult] at hrow
        exact absurd rfl (hnew row hrow)
      | ok reply =>
        refine ⟨now, course, op, reply, rfl, hresult, hprovides.named, ?_⟩
        exact hprovides.furnished.imp_right fun hentry => congrArg Entry.settings hentry
  · obtain ⟨-, -, after, hscript, hafter⟩ := Store.of_perform_eq_ok hreply
    rw [database_perform]
    rcases List.mem_append.1 hname with hidentity | howner
    · rw [hafter]
      exact Operation.secures hidentity _ _ _ _ hscript
    · have hconsistent := Database.consistent_of_sound h.sound
      obtain ⟨row, hrow, horigin⟩ := Operation.exists_keyOwner howner hconsistent hscript
      have hprovisions := dep.store.perform_provisions now course op h.sound
      refine ⟨row, (hprovisions.kept row hrow).resolve_right fun hadministers => ?_, horigin⟩
      obtain ⟨raw, -, ⟨settings, rfl⟩ | rfl⟩ := hadministers
      · cases howner
      · cases howner

/-- A snapshot that grants access to an administrator and to someone who is not known yet, in a
store that was opened with another default than before. -/
theorem identities_provisioned_bob :
    let admin : Identity.Settings := ⟨"Ann", .superuser, some ⟨30, 0⟩, false⟩
    let dep := (initial .default).run
      [.migrate .undisturbed false,
        .perform ⟨0, 0⟩ .undisturbed (.getOrCreateIdentity "ann"),
        .perform ⟨60, 0⟩ .undisturbed (.updateIdentity "ann" admin),
        .reopen true ⟨.login, 100⟩, .migrate .undisturbed false]
    let step : Step := .perform ⟨120, 0⟩ .undisturbed
      (.reconcileCloud ⟨⟨"aws", ⟨"ec2", "", [], .none, [], .empty⟩, []⟩,
        [⟨"ann", .admin⟩, ⟨"bob@corp", .admin⟩]⟩)
    dep.server.database.contents.identity.map (fun row => (row.origin, row.settings)) =
      [("ann", admin)] ∧
    (∀ row ∈ dep.server.database.contents.identity,
      row ∈ (dep.after step).server.database.contents.identity) ∧
    (∃ row ∈ (dep.after step).server.database.contents.identity, row.origin = "bob@corp") ∧
    ∀ row ∈ (dep.after step).server.database.contents.identity, row.origin = "bob@corp" →
      row.settings = ⟨"bob", .login, none, false⟩ := by
  intro admin dep step
  have hreachable : dep.Reachable := ⟨.default, _, rfl⟩
  have hstep := (Reachable.identities_provisioned hreachable).1 step id
  have hidentities : dep.server.database.contents.identity.map
      (fun row => (row.origin, row.settings)) = [("ann", admin)] := by decide +kernel
  have hids : dep.server.database.contents.identity.map (fun row => row.id) = [1] := by
    decide +kernel
  have hlater : (dep.after step).server.database.contents.identity.map
      (fun row => (row.id, row.origin)) = [(1, "ann"), (3, "bob@corp")] := by decide +kernel
  refine ⟨hidentities, fun row hrow => ?_, ?_, fun row hrow hbob => ?_⟩
  · refine (hstep.1 row hrow).resolve_right ?_
    rintro ⟨now, course, _, heq, raw, -, ⟨settings, rfl⟩ | rfl⟩ <;> simp [step] at heq
  · obtain ⟨row, hrow, hbob⟩ := List.mem_map.1 (hlater ▸ List.mem_cons_of_mem _ List.mem_cons_self)
    exact ⟨row, hrow, congrArg Prod.snd hbob⟩
  · have hnew : ∀ old ∈ dep.server.database.contents.identity, old.id ≠ row.id := by
      intro old hold heq
      have hone : old.id ∈ [1] := hids ▸ List.mem_map_of_mem hold
      have hrow' : (row.id, row.origin) ∈ [(1, "ann"), (3, "bob@corp")] :=
        hlater ▸ List.mem_map_of_mem hrow
      simp [hbob, ← heq, List.mem_singleton.1 hone] at hrow'
    obtain ⟨now, course, _, reply, heq, -, -, ⟨draft, rfl⟩ | hsettings⟩ := hstep.2 row hrow hnew
    · simp [step] at heq
    · rw [hsettings, hbob]
      decide +kernel

end Deployment
end ControlPlane
