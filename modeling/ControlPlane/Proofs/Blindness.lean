/-
What a run comes to, apart from whether something was written before it.

Only an interruption asks whether a script has written already.  So where none comes, the database
alone decides what a script comes to and what it leaves (`Script.IsBlind`), and a script that stands
late in an operation does what it does as an operation of its own.  One law for each statement and
each combination.
-/
import ControlPlane.Proofs.Execution
import ControlPlane.Store.Operation

namespace ControlPlane

namespace Script

variable {α β : Type} {r : Relation} {env : Environment}

/-- The value of a run or why it has none, and the database that it leaves. -/
def outcome : EStateM.Result Stop Progress α → Except Stop α × Database
  | .ok a after => (.ok a, after.database)
  | .error stop after => (.error stop, after.database)

/-- Whether the database alone decides what a script comes to. -/
def IsBlind (env : Environment) (body : Script α) : Prop :=
  ∀ before start : Progress, start.database = before.database →
    outcome (body env start) = outcome (body env before)

namespace IsBlind

variable {body : Script α} {before after : Progress}

theorem ok (h : IsBlind env body) {a : α} (hrun : body env before = .ok a after)
    (start : Progress) (hsame : start.database = before.database) :
    ∃ later, body env start = .ok a later ∧ later.database = after.database := by
  have houtcome := h before start hsame
  rw [hrun] at houtcome
  cases hstart : body env start with
  | ok b later =>
    simp only [hstart, outcome, Prod.mk.injEq, Except.ok.injEq] at houtcome
    obtain ⟨rfl, hdatabase⟩ := houtcome
    exact ⟨later, rfl, hdatabase⟩
  | error stop later => simp [hstart, outcome] at houtcome

theorem error (h : IsBlind env body) {stop : Stop} (hrun : body env before = .error stop after)
    (start : Progress) (hsame : start.database = before.database) :
    ∃ later, body env start = .error stop later ∧ later.database = after.database := by
  have houtcome := h before start hsame
  rw [hrun] at houtcome
  cases hstart : body env start with
  | ok b later => simp [hstart, outcome] at houtcome
  | error why later =>
    simp only [hstart, outcome, Prod.mk.injEq, Except.error.injEq] at houtcome
    obtain ⟨rfl, hdatabase⟩ := houtcome
    exact ⟨later, rfl, hdatabase⟩

end IsBlind

/-! ## Combinations -/

theorem blind_pure (a : α) : IsBlind env (pure a) := by
  intro before start hsame
  show outcome (.ok a start) = outcome (.ok a before)
  rw [outcome, outcome, hsame]

theorem blind_fail (failure : Failure) : IsBlind env (fail failure : Script α) := by
  intro before start hsame
  show outcome (.error _ start) = outcome (.error _ before)
  rw [outcome, outcome, hsame]

theorem blind_bind {body : Script α} {next : α → Script β} (hbody : IsBlind env body)
    (hnext : ∀ a, IsBlind env (next a)) : IsBlind env (body >>= next) := by
  intro before start hsame
  cases hrun : body env before with
  | ok a after =>
    obtain ⟨later, hrun', hlater⟩ := hbody.ok hrun start hsame
    rw [bind_ok hrun, bind_ok hrun']
    exact hnext a after later hlater
  | error stop after =>
    obtain ⟨later, hrun', hlater⟩ := hbody.error hrun start hsame
    rw [bind_error hrun, bind_error hrun']
    simp only [outcome, hlater]

theorem blind_about {body : Script α} (subject : Subject) (h : IsBlind env body) :
    IsBlind env (about subject body) := by
  intro before start hsame
  cases hrun : body env before with
  | ok a after =>
    obtain ⟨later, hrun', hlater⟩ := h.ok hrun start hsame
    rw [about_ok subject hrun, about_ok subject hrun']
    simp only [outcome, hlater]
  | error stop after =>
    obtain ⟨later, hrun', hlater⟩ := h.error hrun start hsame
    rw [about_error subject hrun, about_error subject hrun']
    simp only [outcome, hlater]

/-! ## Statements -/

section

variable (hcalm : env.disturbance = none)

include hcalm

theorem blind_query [Storable α] (params : α) (f : α → Contents → β) :
    IsBlind env (query params f) := by
  intro before start hsame
  cases hkept : stored? params with
  | none =>
    rw [query, bind_error (parameter_of_none hkept), bind_error (parameter_of_none hkept)]
    simp only [outcome, hsame]
  | some kept =>
    rw [query_ok hcalm hkept, query_ok hcalm hkept, hsame]
    simp only [outcome, hsame]

theorem blind_queryOne [Storable α] (params : α) (f : α → Contents → Option β) :
    IsBlind env (queryOne params f) := by
  refine blind_bind (blind_query hcalm params f) fun found => ?_
  cases found with
  | none => exact blind_fail .noRow
  | some found => exact blind_pure found

theorem blind_insert (e : Entry r) : IsBlind env (insert e) := by
  intro before start hsame
  cases hkept : stored? e with
  | none =>
    rw [insert, bind_error (parameter_of_none hkept), bind_error (parameter_of_none hkept)]
    simp only [outcome, hsame]
  | some kept =>
    rcases hinsert : before.database.insert env.now kept with ⟨result, drawn⟩
    have hinsert' : start.database.insert env.now kept = (result, drawn) := by rw [hsame, hinsert]
    cases result with
    | ok row => rw [insert_of_ok hcalm hkept hinsert, insert_of_ok hcalm hkept hinsert']
    | error failure =>
      rw [insert_of_error hcalm hkept hinsert, insert_of_error hcalm hkept hinsert']

theorem blind_update [Storable α] (params : α) (which : α → Row r → Bool)
    (change : α → Settings r → Settings r) : IsBlind env (update params which change) := by
  intro before start hsame
  cases hkept : stored? params with
  | none =>
    rw [update, bind_error (parameter_of_none hkept), bind_error (parameter_of_none hkept)]
    simp only [outcome, hsame]
  | some kept =>
    cases hupdate : before.database.contents.update env.now (which kept) (change kept) with
    | ok p =>
      obtain ⟨written, contents⟩ := p
      have hupdate' : start.database.contents.update env.now (which kept) (change kept) =
          .ok (written, contents) := by rw [hsame, hupdate]
      rw [update_ok hcalm hkept hupdate, update_ok hcalm hkept hupdate', hsame]
    | error failure =>
      have hupdate' : start.database.contents.update env.now (which kept) (change kept) =
          .error failure := by rw [hsame, hupdate]
      rw [update_of_error hcalm hkept hupdate, update_of_error hcalm hkept hupdate']
      simp only [outcome, hsame]

theorem blind_insertOr (e : Entry r) {onConflict : Script Merge}
    (h : IsBlind env onConflict) : IsBlind env (insertOr e onConflict) := by
  intro before start hsame
  rw [insertOr, insertOr]
  cases hrun : insert e env before with
  | ok row after =>
    obtain ⟨later, hrun', hlater⟩ := (blind_insert hcalm e).ok hrun start hsame
    rw [hrun']
    simp only [outcome, hlater]
  | error stop after =>
    obtain ⟨later, hrun', hlater⟩ := (blind_insert hcalm e).error hrun start hsame
    rw [hrun']
    have hstop : outcome (.error stop later : EStateM.Result Stop Progress Merge) =
        outcome (.error stop after) := by
      rw [outcome, outcome, hlater]
    cases stop with
    | interrupted why => exact hstop
    | failed failure subject =>
      cases failure with
      | duplicate name detail => exact h after later hlater
      | noRow => exact hstop
      | other => exact hstop

theorem blind_insertOrChange [Storable α] (e : Entry r) (params : α) (which : α → Row r → Bool)
    (change : α → Settings r → Settings r) :
    IsBlind env (insertOrChange e params which change) := by
  refine blind_insertOr hcalm e (blind_bind (blind_update hcalm params which change) ?_)
  intro written
  cases written with
  | none => exact blind_pure Merge.unchanged
  | some row => exact blind_pure Merge.updated

end

end Script

/-! ## The store -/

open Script

variable {env : Environment} (hcalm : env.disturbance = none)

include hcalm

theorem Regions.referredId_blind (key : RegionKey) : IsBlind env (referredId key) :=
  blind_about _ (blind_queryOne hcalm key _)

theorem Regions.insertUnder_blind (e : Entry .region) : IsBlind env (insertUnder e) := by
  refine blind_bind (blind_about _ (blind_queryOne hcalm e.origin.cloud _)) fun _ => ?_
  exact blind_bind (blind_about _ (blind_insert hcalm e)) fun row => blind_pure row.id

theorem Links.merge_blind (region controller priority : Int) :
    IsBlind env (merge region controller priority) :=
  blind_insertOrChange hcalm _ _ _ _

theorem Grants.merge_blind (on : Grantable) (object : Int) (identity : String) (access : Access) :
    IsBlind env (merge on object identity access) := by
  have hread : IsBlind env (read : Script Environment) := by
    intro before start hsame
    rw [read_ok, read_ok, outcome, outcome, hsame]
  have hensure : IsBlind env (Identities.ensure identity) := blind_bind hread fun _ =>
    blind_insertOr hcalm _ (blind_pure Merge.unchanged)
  exact blind_bind hensure fun _ => blind_insertOrChange hcalm _ _ _ _

end ControlPlane
