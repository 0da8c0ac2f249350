/-
What is refused before it starts, and why.

An operation asks three things in this order: whether the store is ready, whether the key that it
addresses could exist, and whether its context goes on.  The first that fails is the answer, and
nothing is touched (`Deployment.TurnsAway`).  The key is what the operation is called with
(`Operation.addressee?`).  An iteration addresses none, so that it asks the other two only, and
where one of them fails no visitor is ever called (`Deployment.KeepsOut`).
-/
import ControlPlane.Proofs.Absence

namespace ControlPlane

/-! ## Interruptions -/

/-- A token is cancelled by itself or by one above it. -/
theorem Tokens.isCancelled_iff {tokens : Tokens} {token : Token} :
    tokens.isCancelled token = true ↔
      token.number ∈ tokens.cancelled ∨ ∃ above ∈ token.ancestors, above ∈ tokens.cancelled := by
  rw [isCancelled, List.any_eq_true]
  simp only [List.mem_cons, exists_eq_or_imp, List.contains_iff_mem]

/-- Whether a context is interrupted, and why: by its token, by one above it, or by its deadline if
none of these is cancelled. -/
inductive Context.IsInterrupted (ctx : Context) (tokens : Tokens) (now : Int) : Interruption → Prop
  | byToken (h : ctx.token.number ∈ tokens.cancelled) : IsInterrupted ctx tokens now .cancelled
  | byAncestor (above : Nat) (habove : above ∈ ctx.token.ancestors)
    (h : above ∈ tokens.cancelled) : IsInterrupted ctx tokens now .cancelled
  | byDeadline (deadline : Int) (hdeadline : ctx.deadline = some deadline) (h : deadline ≤ now)
    (htoken : ctx.token.number ∉ tokens.cancelled)
    (habove : ∀ above ∈ ctx.token.ancestors, above ∉ tokens.cancelled) :
    IsInterrupted ctx tokens now .deadlineExceeded

/-- A context on a token below is cancelled with the one above, whenever that happens. -/
theorem Context.IsInterrupted.child {ctx : Context} {later : Tokens} {now : Int}
    (h : ctx.IsInterrupted later now .cancelled) (tokens : Tokens) :
    (ctx.child tokens).1.IsInterrupted later now .cancelled := by
  cases h with
  | byToken h => exact .byAncestor ctx.token.number List.mem_cons_self h
  | byAncestor above habove h => exact .byAncestor above (List.mem_cons_of_mem _ habove) h

theorem Context.IsInterrupted.interruption {ctx : Context} {tokens : Tokens} {now : Int}
    {why : Interruption} (h : ctx.IsInterrupted tokens now why) :
    ctx.interruption tokens now = some why := by
  rw [Context.interruption]
  cases h with
  | byToken h => exact if_pos (Tokens.isCancelled_iff.2 (.inl h))
  | byAncestor above habove h => exact if_pos (Tokens.isCancelled_iff.2 (.inr ⟨above, habove, h⟩))
  | byDeadline deadline hdeadline h htoken habove =>
    have hgoesOn : ¬tokens.isCancelled ctx.token = true := by
      rw [Tokens.isCancelled_iff]
      rintro (hself | ⟨above, hmem, hcancelled⟩)
      · exact htoken hself
      · exact habove above hmem hcancelled
    have hexpired : ctx.deadline.any (fun deadline => deadline ≤ now) = true := by
      rw [hdeadline]
      exact decide_eq_true h
    rw [if_neg hgoesOn, if_pos hexpired]

theorem Course.ofContext_of_isInterrupted {ctx : Context} {tokens : Tokens} {now : Int}
    {why : Interruption} (h : ctx.IsInterrupted tokens now why) :
    ofContext ctx tokens now = .interrupted why := by
  rw [ofContext, h.interruption]

/-! ## Keys that operations address -/

namespace Operation

/-- The kind and the parts of the key that an operation addresses, with the names of identities in
their safe form.  Listings address none. -/
def addressee? : Operation → Option (EntityKind × List String)
  | .findRegion provider region => some (.region, [provider, region])
  | .recordConnection key _ _ => some (.model, (Referent.entity (.model key)).components)
  | .credentialsOfIdentity name cloud => some (.credential, [cloud, IdentityName.sanitise name])
  | op => op.own?.map fun referent => (referent.kind, referent.components)

theorem addressee?_of_hasOwnKey {op : Operation} (h : op.hasOwnKey = true) :
    op.addressee? = op.own?.map fun referent => (referent.kind, referent.components) := by
  cases op <;> first | rfl | cases h

/-- Errors of an operation name the key that it addresses. -/
theorem subject_addressee? {op : Operation} {kind : EntityKind} {parts : List String}
    (h : op.addressee? = some (kind, parts)) : op.plan.subject = .ofParts kind parts := by
  cases hkey : op.hasOwnKey with
  | true =>
    rw [addressee?_of_hasOwnKey hkey, Option.map_eq_some_iff] at h
    obtain ⟨referent, hown, hreferent⟩ := h
    cases hreferent
    exact subject_own? hown
  | false =>
    cases op with
    | findRegion provider region => cases h; rfl
    | recordConnection key identity time =>
      cases h
      exact (Referent.subject_entity (.model key)).symm
    | credentialsOfIdentity name cloud => cases h; rfl
    | _ => cases hkey

/-- An operation addresses what could exist unless a part of its key is empty. -/
theorem isValid_of_addressee? {op : Operation}
    (h : ∀ kind parts, op.addressee? = some (kind, parts) → "" ∉ parts) :
    op.plan.subject.isValid = true := by
  cases haddressee : op.addressee? with
  | some addressee =>
    obtain ⟨kind, parts⟩ := addressee
    rw [subject_addressee? haddressee]
    exact Subject.isValid_ofParts.2 (h kind parts haddressee)
  | none =>
    cases hkey : op.hasOwnKey with
    | true =>
      rw [addressee?_of_hasOwnKey hkey, Option.map_eq_none_iff] at haddressee
      exact isValid_of_own? hkey haddressee
    | false =>
      cases op with
      | findRegion provider region => cases haddressee
      | recordConnection key identity time => cases haddressee
      | credentialsOfIdentity name cloud => cases haddressee
      | _ => cases hkey

end Operation

/-! ## The gate -/

namespace Store

variable {store : Store} {course : Course} {plan : Plan}

theorem gate?_of_unready {cause : Cause} (h : store.refusal? = some cause) (course : Course)
    (plan : Plan) : store.gate? course plan = some ⟨plan.name, cause⟩ := by
  simp only [gate?, h]

theorem gate?_of_invalid (hready : store.lifecycle = .ready)
    (hinvalid : plan.subject.isValid = false) (course : Course) :
    store.gate? course plan = some (.notFound plan.name plan.subject) := by
  simp only [gate?, refusal?, hready, hinvalid, Bool.false_eq_true, if_false]

theorem gate?_of_interrupted (hready : store.lifecycle = .ready)
    (hvalid : plan.subject.isValid = true) (why : Interruption) :
    store.gate? (.interrupted why) plan = some ⟨plan.name, .interrupted why⟩ := by
  simp only [gate?, refusal?, hready, hvalid, if_true]

/-- A store that is not ready has never been migrated, is being migrated or failed to. -/
theorem exists_refusal? (h : store.lifecycle ≠ .ready) :
    ∃ cause, store.refusal? = some cause ∧
      (cause = .upgradeInProgress ∨ ∃ why, cause = .serverConfiguration why) := by
  unfold refusal?
  cases hlifecycle : store.lifecycle with
  | unconfigured =>
    cases store.isBound with
    | true => exact ⟨_, rfl, .inr ⟨_, rfl⟩⟩
    | false => exact ⟨_, rfl, .inr ⟨_, rfl⟩⟩
  | migrating => exact ⟨_, rfl, .inl rfl⟩
  | ready => exact absurd hlifecycle h
  | failed => exact ⟨_, rfl, .inr ⟨_, rfl⟩⟩

end Store

namespace Deployment

/-- Whether an operation is answered with an error under its name, and nothing is touched. -/
structure TurnsAway (dep : Deployment) (now : Timestamp) (course : Course) (op : Operation)
    (cause : Cause) : Prop where
  answer : (dep.perform now course op).1 = .error ⟨op.plan.name, cause⟩
  server : (dep.perform now course op).2.server = dep.server

/-- Whether an iteration ends with an error under its name whoever visits; no visitor is called, and
nothing is touched. -/
structure KeepsOut (dep : Deployment) (course : Course) (it : Iteration) (cause : Cause) :
    Prop where
  visited : ∀ visitor, (dep.iterate course it visitor).1 = []
  ending : ∀ visitor, (dep.iterate course it visitor).2.1 = .failed ⟨it.name, cause⟩
  server : ∀ visitor, (dep.iterate course it visitor).2.2.server = dep.server

variable {dep : Deployment}

theorem turnsAway_of_gate? {now : Timestamp} {course : Course} {op : Operation} {cause : Cause}
    (h : dep.store.gate? course op.plan = some ⟨op.plan.name, cause⟩) :
    dep.TurnsAway now course op cause := by
  have hperform : dep.store.perform now course op dep.server.database =
      (.error ⟨op.plan.name, cause⟩, dep.server.database) := by
    simp only [Store.perform, h]
  refine ⟨?_, ?_⟩
  · rw [reply_perform, hperform]
  · simp only [perform, hperform, database_recordMerge]
    rfl

theorem keepsOut_of_iterate {course : Course} {it : Iteration} {cause : Cause}
    (h : ∀ visitor, dep.store.iterate course it visitor dep.server.database =
      .error ⟨it.name, cause⟩) : dep.KeepsOut course it cause where
  visited visitor := by simp only [iterate, h]
  ending visitor := by simp only [iterate, h]
  server visitor := rfl

/-- Operations and iterations of a store that is not ready are refused for that, whatever they
address and whatever their context.  If it is ready, an operation answers that what it addresses is
not found if a part of the key is empty, also where its context is interrupted; if no part is, it
is interrupted with its context.  In all cases nothing is touched.  An iteration is interrupted with
its context whatever its arguments, and no visitor is called; it never answers that something is not
found, and is carried out where nothing interrupts it. -/
theorem refused_in_order (dep : Deployment) :
    (dep.store.lifecycle ≠ .ready →
      ∃ cause, (cause = .upgradeInProgress ∨ ∃ why, cause = .serverConfiguration why) ∧
        (∀ now course op, dep.TurnsAway now course op cause) ∧
        ∀ course it, dep.KeepsOut course it cause) ∧
    (dep.store.lifecycle = .ready →
      (∀ now course op kind parts, op.addressee? = some (kind, parts) → "" ∈ parts →
        dep.TurnsAway now course op (.notFound kind (joinKey parts))) ∧
      ∀ ctx tokens clock why, ctx.IsInterrupted tokens clock why →
        (∀ now op, (∀ kind parts, op.addressee? = some (kind, parts) → "" ∉ parts) →
          dep.TurnsAway now (.ofContext ctx tokens clock) op (.interrupted why)) ∧
        ∀ it, dep.KeepsOut (.ofContext ctx tokens clock) it (.interrupted why)) ∧
    ∀ course it visitor e, (dep.iterate course it visitor).2.1 = .failed e →
      ∀ kind key, e.cause ≠ .notFound kind key := by
  refine ⟨fun hunready => ?_, fun hready => ⟨?_, ?_⟩, ?_⟩
  · obtain ⟨cause, hrefusal, hcause⟩ := Store.exists_refusal? hunready
    refine ⟨cause, hcause, fun now course op => ?_, fun course it => ?_⟩
    · exact turnsAway_of_gate? (Store.gate?_of_unready hrefusal course op.plan)
    · exact keepsOut_of_iterate fun visitor => by simp only [Store.iterate, hrefusal]
  · intro now course op kind parts haddressee hempty
    have hsubject := Operation.subject_addressee? haddressee
    have hinvalid : op.plan.subject.isValid = false := by
      rw [hsubject, Bool.eq_false_iff]
      exact fun hvalid => Subject.isValid_ofParts.1 hvalid hempty
    refine turnsAway_of_gate? ((Store.gate?_of_invalid hready hinvalid course).trans ?_)
    rw [hsubject]
    rfl
  · intro ctx tokens clock why hwhy
    rw [Course.ofContext_of_isInterrupted hwhy]
    refine ⟨fun now op haddressee => ?_, fun it => ?_⟩
    · have hvalid := Operation.isValid_of_addressee? haddressee
      exact turnsAway_of_gate? (Store.gate?_of_interrupted hready hvalid why)
    · exact keepsOut_of_iterate fun visitor => by
        simp only [Store.iterate, Store.refusal?, hready]
  · intro course it visitor e hfailed kind key hcause
    have hentity := entity?_of_iterate hfailed
    rw [hcause] at hentity
    cases hentity

/-- A context with a deadline, on the only token. -/
def datedContext : Context := (Context.background .empty).1.withDeadline 0

/-- The context is on a token below one that is cancelled, and its deadline has passed.  A cloud
without a name is refused for the store before the migration, and for its name after it; a cloud
with a name is refused for the context, and so is an iteration, whatever the cloud. -/
theorem refused_in_order_lapsed :
    let course := Course.ofContext (datedContext.child ⟨1, []⟩).1 ⟨2, [0]⟩ 1
    let before := initial .default
    let after := before.run [.migrate .undisturbed false]
    before.TurnsAway ⟨0, 0⟩ course (.getCloud "") (.serverConfiguration .notMigrated) ∧
      after.TurnsAway ⟨0, 0⟩ course (.getCloud "") (.notFound .cloud "") ∧
      after.TurnsAway ⟨0, 0⟩ course (.getCloud "aws") (.interrupted .cancelled) ∧
      after.KeepsOut course (.regions (some "")) (.interrupted .cancelled) := by
  intro course before after
  obtain ⟨hunready, -, -⟩ := refused_in_order before
  obtain ⟨cause, -, hrefused, -⟩ := hunready (by decide)
  obtain ⟨-, hready, -⟩ := refused_in_order after
  obtain ⟨hempty, hcontext⟩ := hready (by decide +kernel)
  have hcancelled : datedContext.IsInterrupted ⟨2, [0]⟩ 1 .cancelled := .byToken (by decide)
  obtain ⟨hinterrupted, hkept⟩ := hcontext _ _ _ _ (hcancelled.child ⟨1, []⟩)
  refine ⟨?_, hempty _ _ _ _ [""] rfl (by decide), hinterrupted _ _ ?_, hkept _⟩
  · have hturned := hrefused ⟨0, 0⟩ course (.getCloud "")
    have hcause : cause = .serverConfiguration .notMigrated :=
      (StoreError.mk.inj (Except.error.inj hturned.answer)).2.symm
    rwa [hcause] at hturned
  · intro kind parts haddressee
    cases haddressee
    decide

end Deployment
end ControlPlane
