/-
What the answer of a lookup depends on.

Whether a context is interrupted, and whether the parameters can be stored, has nothing to do with
the database.  So where a lookup finds in one database what it finds in another, or something that
is related to it, the answers are the same or related.  Two runs are alike (`Script.EndAlike`) if
they end in related values, or stop for one reason.
-/
import ControlPlane.Proofs.Inversion
import ControlPlane.Proofs.Retrieval

namespace ControlPlane

/-- Whether two answers are alike: one error, or replies that are related. -/
inductive AnswersAlike (R : Reply → Reply → Prop) :
    Except StoreError Reply → Except StoreError Reply → Prop
  | ok {a b : Reply} (h : R a b) : AnswersAlike R (.ok a) (.ok b)
  | error (e : StoreError) : AnswersAlike R (.error e) (.error e)

theorem AnswersAlike.eq {R : Reply → Reply → Prop} (hR : ∀ a b, R a b → a = b)
    {a b : Except StoreError Reply} (h : AnswersAlike R a b) : a = b := by
  cases h with
  | ok h => rw [hR _ _ h]
  | error e => rfl

theorem rel_eq_of_eq {α : Type} {a b : Option α} (h : a = b) : Option.Rel Eq a b := by
  subst h
  cases a with
  | none => exact .none
  | some a => exact .some rfl

namespace Script

variable {α β : Type} {env : Environment} {db db' : Database}

/-- Whether two runs end alike: in related values, or for one reason. -/
inductive EndAlike (R : β → β → Prop) :
    EStateM.Result Stop Progress β → EStateM.Result Stop Progress β → Prop
  | ok {a b : β} {after later : Progress} (h : R a b) : EndAlike R (.ok a after) (.ok b later)
  | error (stop : Stop) (after later : Progress) :
    EndAlike R (.error stop after) (.error stop later)

theorem EndAlike.map {γ : Type} {R : β → β → Prop} {S : γ → γ → Prop} {f : β → γ}
    (hf : ∀ a b, R a b → S (f a) (f b)) {body : Script β} {before start : Progress}
    (h : EndAlike R (body env before) (body env start)) :
    EndAlike S ((f <$> body) env before) ((f <$> body) env start) := by
  generalize hleft : body env before = left at h
  generalize hright : body env start = right at h
  cases h with
  | ok h =>
    rw [map_ok hleft, map_ok hright]
    exact .ok (hf _ _ h)
  | error stop after later =>
    rw [map_error hleft, map_error hright]
    exact .error stop after later

/-- Whether a checkpoint is passed does not depend on the database. -/
theorem checkpoint_alike (moment : Moment) (env : Environment) (before start : Progress) :
    (checkpoint moment env before = .ok () before ∧ checkpoint moment env start = .ok () start) ∨
      ∃ why, checkpoint moment env before = .error (.interrupted why) before ∧
        checkpoint moment env start = .error (.interrupted why) start := by
  rcases checkpoint_cases moment env before with h | ⟨why, hdisturbance, h⟩
  · rcases checkpoint_cases moment env start with h' | ⟨why, hdisturbance, -⟩
    · exact .inl ⟨h, h'⟩
    · exact absurd hdisturbance ((of_checkpoint_eq_ok h).2 why)
  · rcases checkpoint_cases moment env start with h' | ⟨why', hdisturbance', h'⟩
    · exact absurd hdisturbance ((of_checkpoint_eq_ok h').2 why)
    · rw [hdisturbance] at hdisturbance'
      cases hdisturbance'
      exact .inr ⟨why, h, h'⟩

theorem query_of_passed [Storable α] {params kept : α} {f : α → Contents → β}
    (hkept : stored? params = some kept)
    (hpassed : checkpoint .firstStatement env ⟨db, false⟩ = .ok () ⟨db, false⟩) :
    query params f env ⟨db, false⟩ = .ok (f kept db.contents) ⟨db, false⟩ := by
  rw [query, bind_ok (parameter_ok hkept), bind_ok hpassed, bind_ok (get_ok _ _)]
  rfl

theorem query_of_interrupted [Storable α] {params kept : α} {f : α → Contents → β} {stop : Stop}
    (hkept : stored? params = some kept)
    (hinterrupted : checkpoint .firstStatement env ⟨db, false⟩ = .error stop ⟨db, false⟩) :
    query params f env ⟨db, false⟩ = .error stop ⟨db, false⟩ := by
  rw [query, bind_ok (parameter_ok hkept), bind_error hinterrupted]

/-- A first read that finds what is related ends alike. -/
theorem queryOne_alike [Storable α] (hexact : Storable.IsExact α) {R : β → β → Prop} {params : α}
    {f : α → Contents → Option β}
    (h : Option.Rel R (f params db.contents) (f params db'.contents)) :
    EndAlike R (queryOne params f env ⟨db, false⟩) (queryOne params f env ⟨db', false⟩) := by
  rw [queryOne]
  cases hkept : stored? params with
  | none =>
    rw [query, bind_error (bind_error (parameter_of_none hkept) _),
      bind_error (bind_error (parameter_of_none hkept) _)]
    exact .error _ _ _
  | some kept =>
    obtain rfl := hexact _ _ hkept
    rcases checkpoint_alike .firstStatement env ⟨db, false⟩ ⟨db', false⟩ with
      ⟨hpassed, hpassed'⟩ | ⟨why, hinterrupted, hinterrupted'⟩
    · rw [bind_ok (query_of_passed hkept hpassed), bind_ok (query_of_passed hkept hpassed')]
      generalize f kept db.contents = found at h ⊢
      generalize f kept db'.contents = found' at h ⊢
      cases h with
      | some h => exact .ok h
      | none => exact .error _ _ _
    · rw [bind_error (query_of_interrupted hkept hinterrupted),
        bind_error (query_of_interrupted hkept hinterrupted')]
      exact .error _ _ _

end Script

/-- An operation whose script ends alike answers alike. -/
theorem Store.perform_alike {store : Store} {now : Timestamp} {course : Course} {op : Operation}
    {db db' : Database} {R : Reply → Reply → Prop}
    (h : Script.EndAlike R (op.plan.script (store.environment now course) ⟨db, false⟩)
      (op.plan.script (store.environment now course) ⟨db', false⟩)) :
    AnswersAlike R (store.perform now course op db).1 (store.perform now course op db').1 := by
  rw [perform, perform]
  cases store.gate? course op.plan with
  | some e => exact .error e
  | none =>
    dsimp only [execute]
    generalize op.plan.script (store.environment now course) ⟨db, false⟩ = left at h ⊢
    generalize op.plan.script (store.environment now course) ⟨db', false⟩ = right at h ⊢
    cases h with
    | ok h => exact .ok h
    | error stop => exact .error _

namespace Deployment

variable {dep dep' : Deployment}

/-- Stores that find related clouds by a name answer alike. -/
theorem getCloud_alike (hstore : dep.store = dep'.store) {name : String} {R : Cloud → Cloud → Prop}
    (h : Option.Rel R (dep.server.database.contents.cloud? name)
      (dep'.server.database.contents.cloud? name)) (now : Timestamp) (course : Course) :
    AnswersAlike (fun a b => ∃ x y, a = .ofCloud x ∧ b = .ofCloud y ∧ R x y)
      (dep.perform now course (.getCloud name)).1 (dep'.perform now course (.getCloud name)).1 := by
  rw [reply_perform, reply_perform, hstore]
  exact Store.perform_alike (.map (fun a b hab => ⟨a, b, rfl, rfl, hab⟩)
    (Script.queryOne_alike Storable.isExact_text h))

theorem getRegion_alike (hstore : dep.store = dep'.store) {key : RegionKey}
    {R : Region → Region → Prop}
    (h : Option.Rel R (dep.server.database.contents.region? key)
      (dep'.server.database.contents.region? key)) (now : Timestamp) (course : Course) :
    AnswersAlike (fun a b => ∃ x y, a = .ofRegion x ∧ b = .ofRegion y ∧ R x y)
      (dep.perform now course (.getRegion key)).1 (dep'.perform now course (.getRegion key)).1 := by
  rw [reply_perform, reply_perform, hstore]
  exact Store.perform_alike (.map (fun a b hab => ⟨a, b, rfl, rfl, hab⟩)
    (Script.queryOne_alike Storable.isExact_regionKey h))

end Deployment
end ControlPlane
