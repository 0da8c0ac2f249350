/-
What scripts that succeed have gone through.

A script that ends with a value has run every statement on the way there.  So the database took the
parameters of each of them, the rows that had to be there were there, and no interruption came.  The
laws below read a run backwards from its value, one law for each statement and each combination.
-/
import ControlPlane.Proofs.Admission

namespace ControlPlane

open Script

namespace Script

variable {α β : Type} {r : Relation} {env : Environment} {before after : Progress}

/-! ## Combinations -/

theorem of_bind_eq_ok {body : Script α} {next : α → Script β} {b : β}
    (h : (body >>= next) env before = .ok b after) :
    ∃ a middle, body env before = .ok a middle ∧ next a env middle = .ok b after := by
  cases hbody : body env before with
  | ok a middle =>
    rw [bind_ok hbody] at h
    exact ⟨a, middle, rfl, h⟩
  | error stop middle =>
    rw [bind_error hbody] at h
    cases h

theorem of_map_eq_ok {body : Script α} {f : α → β} {b : β}
    (h : (f <$> body) env before = .ok b after) : ∃ a, body env before = .ok a after ∧ f a = b := by
  cases hbody : body env before with
  | ok a middle =>
    rw [map_ok hbody] at h
    cases h
    exact ⟨a, rfl, rfl⟩
  | error stop middle =>
    rw [map_error hbody] at h
    cases h

theorem of_transaction_eq_ok {body : Script α} {a : α}
    (h : transaction body env before = .ok a after) : body env before = .ok a after := by
  rw [transaction] at h
  cases hbody : body env before with
  | ok b middle =>
    rw [hbody] at h
    exact h
  | error stop middle =>
    rw [hbody] at h
    cases h

theorem of_about_eq_ok {subject : Subject} {body : Script α} {a : α}
    (h : about subject body env before = .ok a after) : body env before = .ok a after := by
  rw [about] at h
  cases hbody : body env before with
  | ok b middle =>
    rw [hbody] at h
    exact h
  | error stop middle =>
    rw [hbody] at h
    cases h

theorem of_each_eq_ok {f : α → Script β} {items : List α} {bs : List β}
    (h : each f items env before = .ok bs after) :
    ∀ a ∈ items, ∃ b start done, f a env start = .ok b done := by
  induction items generalizing before after bs with
  | nil => exact nofun
  | cons first rest ih =>
    obtain ⟨b, middle, hfirst, h⟩ := of_bind_eq_ok h
    obtain ⟨later, done, hrest, -⟩ := of_bind_eq_ok h
    intro a ha
    rcases List.mem_cons.1 ha with rfl | ha
    · exact ⟨b, before, middle, hfirst⟩
    · exact ih hrest a ha

/-! ## Statements -/

/-- Where a script was run for every item, each run led on to where the last one ended. -/
theorem evolution_of_each_eq_ok {allowed : Statement → Prop} {f : α → Script β} {items : List α}
    {bs : List β} (hwithin : ∀ a ∈ items, Within env allowed (f a))
    (h : each f items env before = .ok bs after) :
    ∀ a ∈ items, ∃ b start done, f a env start = .ok b done ∧
      Database.Evolution env.now allowed done.database after.database := by
  induction items generalizing before bs with
  | nil => exact nofun
  | cons first rest ih =>
    obtain ⟨b, middle, hfirst, h⟩ := of_bind_eq_ok h
    obtain ⟨later, last, hrest, hlast⟩ := of_bind_eq_ok h
    cases hlast
    have hwithinRest : ∀ a ∈ rest, Within env allowed (f a) :=
      fun a ha => hwithin a (List.mem_cons_of_mem _ ha)
    intro a ha
    rcases List.mem_cons.1 ha with rfl | ha
    · exact ⟨b, before, middle, hfirst, evolution_of_ok (within_each hwithinRest) hrest⟩
    · exact ih hwithinRest hrest a ha

theorem of_query_eq_ok [Storable α] {params : α} {f : α → Contents → β} {found : β}
    (h : query params f env before = .ok found after) :
    ∃ kept, stored? params = some kept ∧ found = f kept before.database.contents := by
  rcases query_cases params f env before with ⟨stop, hrun⟩ | ⟨kept, hkept, hrun⟩ <;>
    rw [hrun] at h <;> cases h
  exact ⟨kept, hkept, rfl⟩

theorem of_queryOne_eq_ok [Storable α] {params : α} {f : α → Contents → Option β} {found : β}
    (h : queryOne params f env before = .ok found after) :
    ∃ kept, stored? params = some kept ∧ f kept before.database.contents = some found ∧
      after = before := by
  rcases queryOne_cases params f env before with ⟨stop, hrun⟩ | ⟨kept, b, hkept, hfound, hrun⟩
  · rw [hrun] at h
    cases h
  · rw [hrun] at h
    cases h
    exact ⟨kept, hkept, hfound, rfl⟩

/-- A number that was looked up is that of a row with the key. -/
theorem of_number_eq_ok [Storable α] (hexact : Storable.IsExact α) {key : α}
    {row? : Contents → α → Option (Row r)} {id : Int}
    (h : queryOne key (fun key c => (row? c key).map fun row => row.id) env before =
      .ok id after) :
    ∃ row, row? before.database.contents key = some row ∧ row.id = id ∧ after = before := by
  obtain ⟨kept, hkept, hfound, hsame⟩ := of_queryOne_eq_ok h
  rw [hexact _ _ hkept] at hfound
  obtain ⟨row, hrow, hid⟩ := Option.map_eq_some_iff.1 hfound
  exact ⟨row, hrow, hid, hsame⟩

theorem of_checkpoint_eq_ok {moment : Moment} (h : checkpoint moment env before = .ok () after) :
    after = before ∧ ∀ why, env.disturbance ≠ some (moment, why) := by
  rw [checkpoint, bind_ok (read_ok env before)] at h
  cases hdisturbance : env.disturbance with
  | none =>
    rw [hdisturbance] at h
    cases h
    exact ⟨rfl, fun _ => (Option.some_ne_none _).symm⟩
  | some disturbance =>
    obtain ⟨m, why⟩ := disturbance
    rw [hdisturbance] at h
    dsimp only at h
    by_cases hm : m = moment
    · rw [if_pos hm] at h
      cases h
    · rw [if_neg hm] at h
      cases h
      refine ⟨rfl, fun why' heq => hm ?_⟩
      exact congrArg Prod.fst (Option.some.inj heq)

/-- A read that succeeds after a write meets every moment at which an interruption can come. -/
theorem calm_of_queryOne_eq_ok [Storable α] {params : α} {f : α → Contents → Option β} {found : β}
    (hwritten : before.hasWritten = true) (h : queryOne params f env before = .ok found after) :
    env.disturbance = none := by
  obtain ⟨_, _, hquery, -⟩ := of_bind_eq_ok h
  obtain ⟨kept, middle, hparameter, h⟩ := of_bind_eq_ok hquery
  have hmiddle : middle = before := by
    rcases parameter_cases params env before with ⟨stop, hrun⟩ | ⟨_, -, hrun⟩ <;>
      rw [hrun] at hparameter <;> cases hparameter
    rfl
  obtain ⟨_, later, hfirst, h⟩ := of_bind_eq_ok h
  obtain ⟨hlater, hcalm⟩ := of_checkpoint_eq_ok hfirst
  rw [bind_ok (get_ok env later), hlater, hmiddle, if_pos hwritten] at h
  obtain ⟨_, _, hsecond, -⟩ := of_bind_eq_ok h
  obtain ⟨-, hcalm'⟩ := of_checkpoint_eq_ok hsecond
  -- Both moments have passed, the second one because something was written before.
  cases hdisturbance : env.disturbance with
  | none => rfl
  | some disturbance =>
    obtain ⟨moment, why⟩ := disturbance
    cases moment with
    | firstStatement => exact absurd hdisturbance (hcalm why)
    | readAfterWrite => exact absurd hdisturbance (hcalm' why)

theorem of_insert_eq_ok {e : Entry r} {row : Row r} (h : insert e env before = .ok row after) :
    ∃ kept drawn, stored? e = some kept ∧
      before.database.insert env.now kept = (.ok row, drawn) ∧ after = ⟨drawn, true⟩ := by
  rcases insert_cases e env before with ⟨-, hrun⟩ | ⟨kept, outcome, drawn, hkept, hinsert, hrun⟩
  · rw [hrun] at h
    cases h
  rcases hrun with ⟨why, hrun⟩ | ⟨new, houtcome, hrun⟩ | ⟨failure, -, hrun⟩ <;>
    rw [hrun] at h <;> cases h
  exact ⟨kept, drawn, hkept, houtcome ▸ hinsert, rfl⟩

/-- What an insert appends. -/
theorem appends_of_insert {e : Entry r} {row : Row r} (h : insert e env before = .ok row after) :
    stored? e = some row.toEntry ∧ row.id = before.database.sequences.get r ∧
      before.database.contents.refusal? (before.database.contents.get r) row.toEntry = none ∧
      after.database.contents =
        before.database.contents.set r (before.database.contents.get r ++ [row]) := by
  obtain ⟨kept, drawn, hkept, hdrawn, rfl⟩ := of_insert_eq_ok h
  obtain ⟨-, ⟨failure, houtcome, -⟩ | ⟨new, houtcome, rfl, hfree, hcontents⟩⟩ :=
    Database.insert_cases hdrawn
  · cases houtcome
  cases houtcome
  exact ⟨hkept, rfl, hfree, hcontents⟩

theorem of_update_eq_ok [Storable α] {params : α} {which : α → Row r → Bool}
    {change : α → Settings r → Settings r} {written : Option (Row r)}
    (h : update params which change env before = .ok written after) :
    ∃ kept contents, stored? params = some kept ∧
      before.database.contents.update env.now (which kept) (change kept) =
        .ok (written, contents) ∧
      after = ⟨{ before.database with contents := contents }, true⟩ := by
  rcases update_cases params which change env before with
    ⟨stop, hrun⟩ | ⟨kept, new, contents, hkept, hupdate, hrun⟩ <;> rw [hrun] at h <;> cases h
  exact ⟨kept, contents, hkept, hupdate, rfl⟩

theorem of_delete_eq_ok [Storable α] {params : α} {which : α → Row r → Bool} {found : Bool}
    (h : delete params which env before = .ok found after) :
    ∃ kept contents, stored? params = some kept ∧
      before.database.contents.delete (which kept) = .ok (found, contents) ∧
      after = ⟨{ before.database with contents := contents }, true⟩ := by
  rcases delete_cases params which env before with
    ⟨stop, hrun⟩ | ⟨kept, any, contents, hkept, hdelete, hrun⟩ <;> rw [hrun] at h <;> cases h
  exact ⟨kept, contents, hkept, hdelete, rfl⟩

/-- A delete after which rows have to have been found has found some. -/
theorem of_found_eq_ok [Storable α] {params : α} {which : α → Row r → Bool}
    (h : (do let found ← delete params which
             unless found do fail .noRow : Script Unit) env before = .ok () after) :
    ∃ kept contents, stored? params = some kept ∧
      before.database.contents.delete (which kept) = .ok (true, contents) ∧
      after = ⟨{ before.database with contents := contents }, true⟩ := by
  obtain ⟨found, middle, hdelete, h⟩ := of_bind_eq_ok h
  obtain ⟨kept, contents, hkept, hdeleted, rfl⟩ := of_delete_eq_ok hdelete
  cases found <;> cases h
  exact ⟨kept, contents, hkept, hdeleted, rfl⟩

/-- What is merged is taken by the database, and then it is added or has the unique values of a row
that is there. -/
theorem of_insertOr_eq_ok {e : Entry r} {onConflict : Script Merge} {outcome : Merge}
    (h : insertOr e onConflict env before = .ok outcome after) :
    ∃ kept, stored? e = some kept ∧
      ((before.database.contents.refusal? (before.database.contents.get r) kept = none ∧
          outcome = .inserted ∧
          after = ⟨{ (before.database.draw r).2 with
            contents := before.database.contents.set r
              (before.database.contents.get r ++ [before.database.nextRow env.now kept]) }, true⟩) ∨
        ∃ name detail, before.database.contents.refusal? (before.database.contents.get r) kept =
            some (.duplicate name detail) ∧
          onConflict env ⟨(before.database.draw r).2, true⟩ = .ok outcome after) := by
  rw [insertOr] at h
  rcases insert_cases e env before with ⟨-, hrun⟩ | ⟨kept, result, drawn, hkept, hinsert, hrun⟩
  · rw [hrun] at h
    cases h
  refine ⟨kept, hkept, ?_⟩
  cases hrefusal : before.database.contents.refusal? (before.database.contents.get r) kept with
  | none =>
    left
    rw [Database.insert_of_refusal? hrefusal, Prod.mk.injEq] at hinsert
    obtain ⟨rfl, rfl⟩ := hinsert
    rcases hrun with ⟨why, hrun⟩ | ⟨row, -, hrun⟩ | ⟨failure, hresult, -⟩
    · rw [hrun] at h
      cases h
    · rw [hrun] at h
      cases h
      exact ⟨rfl, rfl, rfl⟩
    · cases hresult
  | some failure =>
    right
    rw [Database.insert_of_refusal?_eq_some hrefusal, Prod.mk.injEq] at hinsert
    obtain ⟨rfl, rfl⟩ := hinsert
    rcases hrun with ⟨why, hrun⟩ | ⟨row, hresult, -⟩ | ⟨why, hresult, hrun⟩
    · rw [hrun] at h
      cases h
    · cases hresult
    · cases hresult
      rw [hrun] at h
      cases failure with
      | duplicate name detail => exact ⟨name, detail, rfl, h⟩
      | noRow => cases h
      | other => cases h

/-- An entry that is merged is taken by the database, whether it is added or found. -/
theorem of_insertNew_eq_ok {e : Entry r} {outcome : Merge}
    (h : insertNew e env before = .ok outcome after) :
    (∃ kept, stored? e = some kept) ∧ after.hasWritten = true := by
  obtain ⟨kept, hkept, ⟨-, -, rfl⟩ | ⟨name, detail, -, hrest⟩⟩ := of_insertOr_eq_ok h
  · exact ⟨⟨kept, hkept⟩, rfl⟩
  · cases hrest
    exact ⟨⟨kept, hkept⟩, rfl⟩

end Script

/-! ## Reconciliations -/

section

variable {env : Environment} {before after : Progress}

/-- A cloud is merged and found, then its regions are merged and the grants on it, and then it is
read. -/
theorem Clouds.of_reconcile_eq_ok {snapshot : Cloud.Snapshot} {merged : Merged Cloud}
    (h : reconcile snapshot env before = .ok merged after) :
    ∃ outcome regions grants row first middle,
      insertNew snapshot.cloud.entry env before = .ok outcome first ∧
      idOf snapshot.cloud.name env first = .ok row.id first ∧
      first.database.contents.cloudRow? snapshot.cloud.name = some row ∧
      each (fun region => insertNew (region.entry snapshot.cloud.name)) snapshot.cloud.regions env
        first = .ok regions middle ∧
      Grants.mergeReports .cloud row.id snapshot.grants env middle = .ok grants after ∧
      readBack snapshot.cloud.name env after = .ok merged.entity after := by
  obtain ⟨outcome, first, hcloud, h⟩ := of_bind_eq_ok (of_transaction_eq_ok h)
  obtain ⟨id, start, hid, h⟩ := of_bind_eq_ok h
  obtain ⟨regions, middle, hregions, h⟩ := of_bind_eq_ok h
  obtain ⟨grants, last, hgrants, h⟩ := of_bind_eq_ok h
  obtain ⟨cloud, done, hread, hdone⟩ := of_bind_eq_ok h
  cases hdone
  obtain ⟨-, -, -, rfl⟩ := of_queryOne_eq_ok (of_decoded_eq_ok hread).1
  obtain ⟨row, hrow, rfl, rfl⟩ := of_number_eq_ok Storable.isExact_text hid
  exact ⟨outcome, regions, grants, row, start, middle, hcloud, hid, hrow, hregions, hgrants, hread⟩

/-- The owner of a credential is seen to, the credential is merged and found, then the grants on it
are merged, and then it is read. -/
theorem Credentials.of_reconcile_eq_ok {e : Entry .credential} {reports : List GrantReport}
    {merged : Merged Credential} (h : reconcile e reports env before = .ok merged after) :
    ∃ outcome grants row first second,
      prepare e.origin env before = .ok () first ∧
      insertNew e env first = .ok outcome second ∧
      idOf e.origin env second = .ok row.id second ∧
      second.database.contents.credentialRow? e.origin = some row ∧
      Grants.mergeReports .credential row.id reports env second = .ok grants after ∧
      withId row.id env after = .ok merged.entity after := by
  obtain ⟨_, first, hprepare, h⟩ := of_bind_eq_ok (of_transaction_eq_ok h)
  obtain ⟨outcome, second, hcredential, h⟩ := of_bind_eq_ok h
  obtain ⟨id, start, hid, h⟩ := of_bind_eq_ok h
  obtain ⟨grants, last, hgrants, h⟩ := of_bind_eq_ok h
  obtain ⟨credential, done, hread, hdone⟩ := of_bind_eq_ok h
  cases hdone
  obtain ⟨-, -, -, rfl⟩ := of_queryOne_eq_ok hread
  obtain ⟨row, hrow, rfl, rfl⟩ := of_number_eq_ok Storable.isExact_credentialKey hid
  exact ⟨outcome, grants, row, first, start, hprepare, hcredential, hid, hrow, hgrants, hread⟩

end

/-! ## Operations -/

namespace Store

theorem ready_of_refusal? {store : Store} (h : store.refusal? = none) :
    store.lifecycle = .ready := by
  unfold refusal? at h
  split at h
  next hready => exact hready
  next => cases h
  next => cases h
  next => split at h <;> cases h

/-- An operation that answers has passed the gate and run its script to the end. -/
theorem of_perform_eq_ok {store : Store} {now : Timestamp} {course : Course} {op : Operation}
    {db : Database} {reply : Reply} (h : (store.perform now course op db).1 = .ok reply) :
    store.lifecycle = .ready ∧ op.plan.subject.isValid = true ∧
      ∃ after, op.plan.script (store.environment now course) ⟨db, false⟩ = .ok reply after ∧
        (store.perform now course op db).2 = after.database := by
  rw [perform] at h ⊢
  cases hgate : store.gate? course op.plan with
  | some e =>
    rw [hgate] at h
    cases h
  | none =>
    rw [hgate] at h
    dsimp only [execute] at h ⊢
    have hready : store.lifecycle = .ready := by
      refine ready_of_refusal? ?_
      unfold gate? at hgate
      cases hrefusal : store.refusal? with
      | none => rfl
      | some cause =>
        rw [hrefusal] at hgate
        cases hgate
    refine ⟨hready, isValid_of_gate? hgate, ?_⟩
    cases hscript : op.plan.script (store.environment now course) ⟨db, false⟩ with
    | ok answer after =>
      rw [hscript] at h
      cases h
      exact ⟨after, rfl, rfl⟩
    | error stop after =>
      rw [hscript] at h
      cases h

end Store
end ControlPlane
