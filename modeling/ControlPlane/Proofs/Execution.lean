/-
What scripts come to where nothing disturbs them.

A statement whose parameters the database takes then runs, and what it comes to is what the database
says.  One law for each statement and each combination; the run of an operation is followed through
its script by the law of each of its steps.
-/
import ControlPlane.Proofs.Evolution
import ControlPlane.Store.Gate

namespace ControlPlane

namespace Script

variable {α β : Type} {r : Relation} {env : Environment} {before : Progress}

theorem parameter_ok [Storable α] {params kept : α} (h : stored? params = some kept) :
    parameter params env before = .ok kept before := by
  rw [parameter, h]
  rfl

theorem parameter_of_none [Storable α] {params : α} (h : stored? params = none) :
    parameter params env before = .error (.failed .other none) before := by
  rw [parameter, h]
  rfl

theorem checkpoint_ok (hcalm : env.disturbance = none) (moment : Moment) :
    checkpoint moment env before = .ok () before := by
  rcases checkpoint_cases moment env before with h | ⟨why, hdisturbed, -⟩
  · exact h
  · rw [hcalm] at hdisturbed
    cases hdisturbed

/-! ## Statements that read -/

theorem query_ok [Storable α] (hcalm : env.disturbance = none) {params kept : α}
    (hkept : stored? params = some kept) (f : α → Contents → β) :
    query params f env before = .ok (f kept before.database.contents) before := by
  rw [query, bind_ok (parameter_ok hkept), bind_ok (checkpoint_ok hcalm .firstStatement),
    bind_ok (get_ok env before)]
  by_cases hwritten : before.hasWritten = true
  · rw [if_pos hwritten, bind_ok (checkpoint_ok hcalm .readAfterWrite)]
    rfl
  · rw [if_neg hwritten]
    rfl

theorem queryOne_ok [Storable α] (hcalm : env.disturbance = none) {params kept : α}
    (hkept : stored? params = some kept) {f : α → Contents → Option β} {found : β}
    (hfound : f kept before.database.contents = some found) :
    queryOne params f env before = .ok found before := by
  rw [queryOne, bind_ok (query_ok hcalm hkept f), hfound]
  rfl

theorem queryOne_of_none [Storable α] (hcalm : env.disturbance = none) {params kept : α}
    (hkept : stored? params = some kept) {f : α → Contents → Option β}
    (hnone : f kept before.database.contents = none) :
    queryOne params f env before = .error (.failed .noRow none) before := by
  rw [queryOne, bind_ok (query_ok hcalm hkept f), hnone]
  rfl

/-! ## Statements that write -/

theorem insert_of_ok (hcalm : env.disturbance = none) {e kept : Entry r}
    (hkept : stored? e = some kept) {row : Row r} {drawn : Database}
    (hinsert : before.database.insert env.now kept = (.ok row, drawn)) :
    insert e env before = .ok row ⟨drawn, true⟩ := by
  rw [insert, bind_ok (parameter_ok hkept), bind_ok (read_ok env before),
    bind_ok (get_ok env before), hinsert]
  dsimp only
  rw [hcalm]
  rfl

theorem insert_of_error (hcalm : env.disturbance = none) {e kept : Entry r}
    (hkept : stored? e = some kept) {failure : Failure} {drawn : Database}
    (hinsert : before.database.insert env.now kept = (.error failure, drawn)) :
    insert e env before = .error (.failed failure none) ⟨drawn, true⟩ := by
  rw [insert, bind_ok (parameter_ok hkept), bind_ok (read_ok env before),
    bind_ok (get_ok env before), hinsert]
  dsimp only
  rw [hcalm]
  rfl

theorem update_ok [Storable α] (hcalm : env.disturbance = none) {params kept : α}
    (hkept : stored? params = some kept) {which : α → Row r → Bool}
    {change : α → Settings r → Settings r} {written : Option (Row r)} {contents : Contents}
    (hupdate : before.database.contents.update env.now (which kept) (change kept) =
      .ok (written, contents)) :
    update params which change env before =
      .ok written ⟨{ before.database with contents := contents }, true⟩ := by
  rw [update, bind_ok (parameter_ok hkept), bind_ok (checkpoint_ok hcalm .firstStatement),
    bind_ok (get_ok env before), bind_ok (read_ok env before), hupdate]
  rfl

theorem update_of_error [Storable α] (hcalm : env.disturbance = none) {params kept : α}
    (hkept : stored? params = some kept) {which : α → Row r → Bool}
    {change : α → Settings r → Settings r} {failure : Failure}
    (hupdate : before.database.contents.update env.now (which kept) (change kept) =
      .error failure) :
    update params which change env before = .error (.failed failure none) before := by
  rw [update, bind_ok (parameter_ok hkept), bind_ok (checkpoint_ok hcalm .firstStatement),
    bind_ok (get_ok env before), bind_ok (read_ok env before), hupdate]
  rfl

theorem delete_of_ok [Storable α] (hcalm : env.disturbance = none) {params kept : α}
    (hkept : stored? params = some kept) {which : α → Row r → Bool} {found : Bool}
    {contents : Contents}
    (hdelete : before.database.contents.delete (which kept) = .ok (found, contents)) :
    delete params which env before =
      .ok found ⟨{ before.database with contents := contents }, true⟩ := by
  rw [delete, bind_ok (parameter_ok hkept), bind_ok (checkpoint_ok hcalm .firstStatement),
    bind_ok (get_ok env before), hdelete]
  rfl

theorem delete_of_error [Storable α] (hcalm : env.disturbance = none) {params kept : α}
    (hkept : stored? params = some kept) {which : α → Row r → Bool} {failure : Failure}
    (hdelete : before.database.contents.delete (which kept) = .error failure) :
    delete params which env before = .error (.failed failure none) before := by
  rw [delete, bind_ok (parameter_ok hkept), bind_ok (checkpoint_ok hcalm .firstStatement),
    bind_ok (get_ok env before), hdelete]
  rfl

/-! ## Combinations -/

theorem transaction_ok {body : Script α} {a : α} {after : Progress}
    (h : body env before = .ok a after) : transaction body env before = .ok a after := by
  rw [transaction, h]

theorem about_ok {body : Script α} {a : α} {after : Progress} (subject : Subject)
    (h : body env before = .ok a after) : about subject body env before = .ok a after := by
  rw [about, h]

theorem about_error {body : Script α} {stop : Stop} {after : Progress} (subject : Subject)
    (h : body env before = .error stop after) :
    about subject body env before = .error (stop.about subject) after := by
  rw [about, h]

theorem each_cons_ok {f : α → Script β} {a : α} {rest : List α} {b : β} {bs : List β}
    {middle after : Progress} (hfirst : f a env before = .ok b middle)
    (hrest : each f rest env middle = .ok bs after) :
    each f (a :: rest) env before = .ok (b :: bs) after := by
  rw [each, bind_ok hfirst, bind_ok hrest]
  rfl

theorem insertOr_of_ok (hcalm : env.disturbance = none) {e kept : Entry r}
    (hkept : stored? e = some kept) {row : Row r} {drawn : Database}
    (hinsert : before.database.insert env.now kept = (.ok row, drawn))
    (onConflict : Script Merge) :
    insertOr e onConflict env before = .ok .inserted ⟨drawn, true⟩ := by
  rw [insertOr, insert_of_ok hcalm hkept hinsert]

theorem insertOr_of_duplicate (hcalm : env.disturbance = none) {e kept : Entry r}
    (hkept : stored? e = some kept) {name detail : Option String} {drawn : Database}
    (hinsert : before.database.insert env.now kept = (.error (.duplicate name detail), drawn))
    (onConflict : Script Merge) :
    insertOr e onConflict env before = onConflict env ⟨drawn, true⟩ := by
  rw [insertOr, insert_of_error hcalm hkept hinsert]

end Script

/-! ## Operations -/

namespace Store

theorem gate?_undisturbed {store : Store} (hready : store.lifecycle = .ready) {plan : Plan}
    (hvalid : plan.subject.isValid = true) : store.gate? .undisturbed plan = none := by
  have hrefusal : store.refusal? = none := by rw [refusal?, hready]
  unfold gate?
  rw [hrefusal]
  exact if_pos hvalid

/-- An operation of a ready store that nothing interrupts answers what its script comes to, if the
key that it addresses could exist. -/
theorem perform_ok {store : Store} (hready : store.lifecycle = .ready) {now : Timestamp}
    {op : Operation} (hvalid : op.plan.subject.isValid = true) {db : Database} {reply : Reply}
    {after : Progress}
    (h : op.plan.script (store.environment now .undisturbed) ⟨db, false⟩ = .ok reply after) :
    store.perform now .undisturbed op db = (.ok reply, after.database) := by
  rw [perform, gate?_undisturbed hready hvalid]
  simp only [execute, h]

/-- An operation of a ready store that nothing interrupts answers the error that its script ends
with. -/
theorem perform_of_error {store : Store} (hready : store.lifecycle = .ready) {now : Timestamp}
    {op : Operation} (hvalid : op.plan.subject.isValid = true) {db : Database} {stop : Stop}
    {after : Progress}
    (h : op.plan.script (store.environment now .undisturbed) ⟨db, false⟩ = .error stop after) :
    store.perform now .undisturbed op db = (.error (errorOf op.plan stop), after.database) := by
  rw [perform, gate?_undisturbed hready hvalid]
  simp only [execute, h]

/-- An operation on a key that could not exist ends before it reaches the database. -/
theorem perform_of_invalid {store : Store} (hready : store.lifecycle = .ready) {op : Operation}
    (hinvalid : op.plan.subject.isValid = false) (now : Timestamp) (course : Course)
    (db : Database) :
    store.perform now course op db = (.error (.notFound op.plan.name op.plan.subject), db) := by
  have hrefusal : store.refusal? = none := by rw [refusal?, hready]
  have hgate : store.gate? course op.plan = some (.notFound op.plan.name op.plan.subject) := by
    unfold gate?
    rw [hrefusal, hinvalid]
    rfl
  rw [perform, hgate]

end Store
end ControlPlane
