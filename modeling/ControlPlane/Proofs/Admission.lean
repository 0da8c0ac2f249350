/-
Rows that are inserted where no row stands.

In some relations the origin of a row is what no other row may have (`Relation.IsKeyed`).  There an
insert that is merged finds the row of its origin or adds it, and a list of entries adds one row for
each origin that is not stored yet, with the settings of the first entry that has it.  `Admitted`
says this of the rows alone, and composes along the list.
-/
import ControlPlane.Proofs.Execution
import ControlPlane.Proofs.Integrity

namespace ControlPlane

/-- Whether the uniqueness of a relation is that of the origins of its rows. -/
def Relation.IsKeyed (r : Relation) : Prop :=
  uniquenesses r ≠ [] ∧ ∀ u ∈ uniquenesses r, ∀ a b : Entry r,
    u.conflicts a b = true ↔ a.origin = b.origin

namespace Relation

theorem isKeyed_of_values {r : Relation} {u : Uniqueness r} (hu : uniquenesses r = [u])
    {values : Entry r → List Value} (hvalues : ∀ e, u.values e = some (values e))
    (horigin : ∀ a b, values a = values b ↔ a.origin = b.origin) : r.IsKeyed := by
  rw [IsKeyed, hu]
  refine ⟨List.cons_ne_nil _ _, fun v hv a b => ?_⟩
  obtain rfl := List.mem_singleton.1 hv
  rw [← horigin, Uniqueness.conflicts, hvalues, hvalues, Option.isSome_some, Bool.true_and,
    decide_eq_true_iff, Option.some_inj]

theorem identity_isKeyed : IsKeyed .identity :=
  isKeyed_of_values rfl (fun _ => rfl) fun a b => by simp

theorem cloud_isKeyed : IsKeyed .cloud :=
  isKeyed_of_values rfl (fun _ => rfl) fun a b => by simp

theorem region_isKeyed : IsKeyed .region :=
  isKeyed_of_values rfl (fun _ => rfl) fun ⟨⟨_, _⟩, _⟩ ⟨⟨_, _⟩, _⟩ => by simp

theorem credential_isKeyed : IsKeyed .credential :=
  isKeyed_of_values rfl (fun _ => rfl) fun ⟨⟨_, _, _⟩, _⟩ ⟨⟨_, _, _⟩, _⟩ => by simp

theorem grant_isKeyed (on : Grantable) : IsKeyed (.grant on) :=
  isKeyed_of_values rfl (fun _ => rfl) fun ⟨⟨_, _⟩, _⟩ ⟨⟨_, _⟩, _⟩ => by simp

end Relation

/-- The objects of grants are no identities. -/
theorem Grantable.relation_ne_identity (on : Grantable) : on.relation ≠ .identity := by
  cases on <;> decide

/-- The objects of grants are no grants. -/
theorem Grantable.relation_ne_grant (on other : Grantable) : on.relation ≠ .grant other := by
  cases on <;> cases other <;> decide

/-- Objects of two kinds are stored apart. -/
theorem Grantable.relation_injective : Function.Injective Grantable.relation := by
  intro on other h
  cases on <;> cases other <;> first | rfl | cases h

theorem Relation.grant_ne_identity (on : Grantable) : Relation.grant on ≠ .identity := by
  cases on <;> decide

/-- No relation refers to itself. -/
theorem target_ne {r : Relation} {ref : Reference r} (href : ref ∈ references r) :
    ref.target ≠ r := by
  cases r <;> simp only [references, List.mem_cons, List.not_mem_nil, or_false] at href
  case region => subst href; decide
  case controller => subst href; decide
  case link => rcases href with rfl | rfl <;> decide
  case credential => rcases href with rfl | rfl <;> decide
  case model => rcases href with rfl | rfl | rfl | rfl <;> decide
  case grant on =>
    rcases href with rfl | rfl
    · exact on.relation_ne_grant on
    · exact (Relation.grant_ne_identity on).symm

namespace Contents

variable {r : Relation} {c : Contents} {others : List (Row r)} {e : Entry r}

/-- What a reference leads to does not change with the rows of the relation that it comes from. -/
theorem resolves_set {ref : Reference r} (href : ref ∈ references r) (rows : List (Row r)) :
    resolves (c.set r rows) ref e = c.resolves ref e := by
  rw [resolves, resolves, PerRelation.get_set_of_ne _ _ (target_ne href)]

theorem refusal?_of_mem (hkeyed : r.IsKeyed) {row : Row r} (hrow : row ∈ others)
    (horigin : row.origin = e.origin) :
    ∃ name detail, c.refusal? others e = some (.duplicate name detail) := by
  rw [refusal?]
  cases hduplicate : duplicate? others e with
  | some u => exact ⟨_, _, rfl⟩
  | none =>
    obtain ⟨u, hu⟩ := List.exists_mem_of_ne_nil _ hkeyed.1
    have hfree := duplicate?_eq_none.1 hduplicate u hu row hrow
    rw [(hkeyed.2 u hu e row.toEntry).2 horigin.symm] at hfree
    cases hfree

/-- A row that is refused as a duplicate has the origin of another. -/
theorem exists_origin_of_refusal? (hkeyed : r.IsKeyed) {constraint detail : Option String}
    (h : c.refusal? others e = some (.duplicate constraint detail)) :
    ∃ row ∈ others, row.origin = e.origin := by
  rw [refusal?] at h
  cases hduplicate : duplicate? others e with
  | some u =>
    unfold duplicate? at hduplicate
    have hu := List.mem_of_find?_eq_some hduplicate
    have hany := List.find?_some hduplicate
    obtain ⟨row, hrow, hconflicts⟩ := List.any_eq_true.1 hany
    exact ⟨row, hrow, ((hkeyed.2 u hu e row.toEntry).1 hconflicts).symm⟩
  | none =>
    rw [hduplicate] at h
    dsimp only at h
    split at h <;> cases h

theorem refusal?_of_notMem (hkeyed : r.IsKeyed) (hnew : ∀ row ∈ others, row.origin ≠ e.origin)
    (hrefs : ∀ ref ∈ references r, c.resolves ref e = true) : c.refusal? others e = none := by
  refine refusal?_eq_none.2 ⟨fun u hu row hrow => ?_, hrefs⟩
  rw [Bool.eq_false_iff]
  intro hconflict
  exact hnew row hrow ((hkeyed.2 u hu e row.toEntry).1 hconflict).symm

end Contents

namespace Database

variable {r : Relation} {db : Database} {now : Timestamp} {e : Entry r}

/-- The row that an entry gets if it is inserted next. -/
def nextRow (db : Database) (now : Timestamp) (e : Entry r) : Row r :=
  { e with id := db.sequences.get r, createdAt := now, updatedAt := now }

/-- An insert that the constraints refuse only draws a number. -/
theorem insert_of_refusal?_eq_some {failure : Failure}
    (h : db.contents.refusal? (db.contents.get r) e = some failure) (now : Timestamp) :
    db.insert now e = (.error failure, (db.draw r).2) := by
  unfold insert
  dsimp only [draw]
  rw [h]

/-- An insert of an origin that is stored is refused. -/
theorem insert_of_mem (hkeyed : r.IsKeyed) {row : Row r} (hrow : row ∈ db.contents.get r)
    (horigin : row.origin = e.origin) (now : Timestamp) : ∃ name detail,
      db.insert now e = (.error (.duplicate name detail), (db.draw r).2) := by
  obtain ⟨name, detail, hrefusal⟩ := Contents.refusal?_of_mem (c := db.contents) hkeyed hrow horigin
  exact ⟨name, detail, insert_of_refusal?_eq_some hrefusal now⟩

/-- An insert that the constraints do not refuse adds the row. -/
theorem insert_of_refusal? (hfree : db.contents.refusal? (db.contents.get r) e = none)
    (now : Timestamp) : db.insert now e = (.ok (db.nextRow now e),
      { (db.draw r).2 with
        contents := db.contents.set r (db.contents.get r ++ [db.nextRow now e]) }) := by
  unfold insert
  dsimp only [draw]
  rw [hfree]
  rfl

/-- An insert of an origin that is not stored adds the row, if its references lead somewhere. -/
theorem insert_of_notMem (hkeyed : r.IsKeyed)
    (hnew : ∀ row ∈ db.contents.get r, row.origin ≠ e.origin)
    (hrefs : ∀ ref ∈ references r, db.contents.resolves ref e = true) :
    db.insert now e = (.ok (db.nextRow now e),
      { (db.draw r).2 with
        contents := db.contents.set r (db.contents.get r ++ [db.nextRow now e]) }) :=
  insert_of_refusal? (Contents.refusal?_of_notMem hkeyed hnew hrefs) now

end Database

/-- Where origins are what is unique, no two rows have the same. -/
theorem Contents.Unique.eq_of_origin {r : Relation} {c : Contents} (h : c.Unique)
    (hkeyed : r.IsKeyed) {a b : Row r} (ha : a ∈ c.get r) (hb : b ∈ c.get r)
    (horigin : a.origin = b.origin) : a = b := by
  obtain ⟨u, hu⟩ := List.exists_mem_of_ne_nil _ hkeyed.1
  have hne : (c.get r).Pairwise fun a b => a.origin ≠ b.origin := by
    refine (h r u hu).imp ?_
    intro a b hfree heq
    rw [(hkeyed.2 u hu a.toEntry b.toEntry).2 heq] at hfree
    cases hfree
  exact List.inj_on_of_nodup_map (List.pairwise_map.2 hne) ha hb horigin

/-- Overwriting the settings of a row is refused for nothing, where uniqueness and references are
about origins alone. -/
theorem Contents.update_ok {r : Relation} {c : Contents} (hunique : c.Unique) (hclosed : c.Closed)
    (hkeyed : r.IsKeyed) (hr : r ≠ .model) {which : Row r → Bool} {row : Row r}
    (hfind : (c.get r).find? which = some row) (now : Timestamp)
    (change : Settings r → Settings r) :
    let new : Row r := { row with settings := change row.settings, updatedAt := now }
    c.update now which change = .ok (some new, c.set r (rewritten (c.get r) new)) := by
  intro new
  have hrow := List.mem_of_find?_eq_some hfind
  have hrefusal : c.refusal? ((c.get r).filter fun other => other.id != row.id) new.toEntry =
      none := by
    refine refusal?_of_notMem hkeyed (fun other hother hsame => ?_) fun ref href => ?_
    · obtain ⟨hmem, hid⟩ := List.mem_filter.1 hother
      have heq : other = row := hunique.eq_of_origin hkeyed hmem hrow hsame
      exact bne_iff_ne.1 hid (congrArg Row.id heq)
    · have hcongr : c.resolves ref new.toEntry = c.resolves ref row.toEntry :=
        resolves_congr href hr rfl
      rw [hcongr]
      exact hclosed _ row hrow ref href
  unfold update
  rw [hfind]
  dsimp only
  rw [hrefusal]
  rfl

/-! ## Rows for entries -/

/-- Whether an entry is the first of several with its origin. -/
def Entry.IsFirstOf {r : Relation} (e : Entry r) (entries : List (Entry r)) : Prop :=
  ∃ earlier later, entries = earlier ++ e :: later ∧ ∀ other ∈ earlier, other.origin ≠ e.origin

theorem Entry.IsFirstOf.mem {r : Relation} {e : Entry r} {entries : List (Entry r)}
    (h : e.IsFirstOf entries) : e ∈ entries := by
  obtain ⟨earlier, later, rfl, -⟩ := h
  exact List.mem_append_right _ List.mem_cons_self

/-- No two entries are the first with one origin. -/
theorem Entry.IsFirstOf.eq {r : Relation} {e other : Entry r} {entries : List (Entry r)}
    (h : e.IsFirstOf entries) (h' : other.IsFirstOf entries) (horigin : e.origin = other.origin) :
    e = other := by
  classical
  have hfind : ∀ {first : Entry r}, first.IsFirstOf entries → first.origin = other.origin →
      entries.find? (fun e => e.origin = other.origin) = some first := by
    rintro first ⟨earlier, later, rfl, hearlier⟩ hfirst
    have hnone : earlier.find? (fun e => e.origin = other.origin) = none :=
      List.find?_eq_none.2 fun e he heq =>
        hearlier e he ((of_decide_eq_true heq).trans hfirst.symm)
    rw [List.find?_append, hnone, Option.none_or]
    exact List.find?_cons_of_pos (decide_eq_true hfirst)
  exact Option.some.inj ((hfind h horigin).symm.trans (hfind h' rfl))

/-- Whether rows are what entries add to others now: one for each origin that the others lack, which
stores the first entry of that origin. -/
structure Admitted {r : Relation} (now : Timestamp) (entries : List (Entry r))
    (rows added : List (Row r)) : Prop where
  absent : ∀ row ∈ added, ∀ old ∈ rows, old.origin ≠ row.origin
  distinct : added.Pairwise fun a b => a.origin ≠ b.origin
  stores : ∀ row ∈ added, ∃ e, e.IsFirstOf entries ∧ e.origin = row.origin ∧
    stored? e = some row.toEntry
  stamped : ∀ row ∈ added, row.createdAt = now ∧ row.updatedAt = now
  covers : ∀ e ∈ entries, ∃ row ∈ rows ++ added, row.origin = e.origin

namespace Admitted

variable {r : Relation} {now : Timestamp} {entries : List (Entry r)} {rows added : List (Row r)}

theorem nil (rows : List (Row r)) : Admitted now [] rows [] where
  absent := nofun
  distinct := .nil
  stores := nofun
  stamped := nofun
  covers := nofun

/-- An entry whose origin is stored adds nothing. -/
theorem of_mem {e : Entry r} {row : Row r} (hrow : row ∈ rows) (horigin : row.origin = e.origin) :
    Admitted now [e] rows [] where
  absent := nofun
  distinct := .nil
  stores := nofun
  stamped := nofun
  covers other hother := by
    obtain rfl := List.mem_singleton.1 hother
    exact ⟨row, List.mem_append_left _ hrow, horigin⟩

theorem of_notMem {e : Entry r} {row : Row r} (hnew : ∀ old ∈ rows, old.origin ≠ row.origin)
    (horigin : row.origin = e.origin) (hstored : stored? e = some row.toEntry)
    (hcreated : row.createdAt = now) (hupdated : row.updatedAt = now) :
    Admitted now [e] rows [row] where
  absent other hother := by
    obtain rfl := List.mem_singleton.1 hother
    exact hnew
  distinct := List.pairwise_singleton _ _
  stores other hother := by
    obtain rfl := List.mem_singleton.1 hother
    exact ⟨e, ⟨[], [], rfl, nofun⟩, horigin.symm, hstored⟩
  stamped other hother := by
    obtain rfl := List.mem_singleton.1 hother
    exact ⟨hcreated, hupdated⟩
  covers other hother := by
    obtain rfl := List.mem_singleton.1 hother
    exact ⟨row, List.mem_append_right _ List.mem_cons_self, horigin⟩

/-- What entries add, and what further ones add to that. -/
theorem append {entries' : List (Entry r)} {added' : List (Row r)}
    (h : Admitted now entries rows added) (h' : Admitted now entries' (rows ++ added) added') :
    Admitted now (entries ++ entries') rows (added ++ added') where
  absent row hrow old hold := by
    rcases List.mem_append.1 hrow with hrow | hrow
    · exact h.absent row hrow old hold
    · exact h'.absent row hrow old (List.mem_append_left _ hold)
  distinct := by
    refine List.pairwise_append.2 ⟨h.distinct, h'.distinct, fun a ha b hb => ?_⟩
    exact h'.absent b hb a (List.mem_append_right _ ha)
  stores row hrow := by
    rcases List.mem_append.1 hrow with hrow | hrow
    · obtain ⟨e, ⟨earlier, later, rfl, hfirst⟩, horigin, hstored⟩ := h.stores row hrow
      refine ⟨e, ⟨earlier, later ++ entries', ?_, hfirst⟩, horigin, hstored⟩
      rw [List.append_assoc, List.cons_append]
    · obtain ⟨e, ⟨earlier, later, rfl, hfirst⟩, horigin, hstored⟩ := h'.stores row hrow
      refine ⟨e, ⟨entries ++ earlier, later, (List.append_assoc _ _ _).symm, ?_⟩, horigin, hstored⟩
      -- The earlier entries have rows by now, and this origin has not had one.
      intro other hother heq
      rcases List.mem_append.1 hother with hother | hother
      · obtain ⟨old, hold, hcovers⟩ := h.covers other hother
        exact h'.absent row hrow old hold (hcovers.trans (heq.trans horigin))
      · exact hfirst other hother heq
  stamped row hrow := by
    rcases List.mem_append.1 hrow with hrow | hrow
    · exact h.stamped row hrow
    · exact h'.stamped row hrow
  covers e he := by
    rw [← List.append_assoc]
    rcases List.mem_append.1 he with he | he
    · obtain ⟨row, hrow, horigin⟩ := h.covers e he
      exact ⟨row, List.mem_append_left _ hrow, horigin⟩
    · exact h'.covers e he

end Admitted

/-! ## Outcomes -/

namespace Merge

/-- Whether outcomes are so many, and so many of them inserts and updates. -/
structure AmountTo (outcomes : List Merge) (total inserted updated : Nat) : Prop where
  total : outcomes.length = total
  inserted : outcomes.count .inserted = inserted
  updated : outcomes.count .updated = updated

theorem AmountTo.append {first second : List Merge} {m i u m' i' u' : Nat}
    (h : AmountTo first m i u) (h' : AmountTo second m' i' u') :
    AmountTo (first ++ second) (m + m') (i + i') (u + u') where
  total := by rw [List.length_append, h.total, h'.total]
  inserted := by rw [List.count_append, h.inserted, h'.inserted]
  updated := by rw [List.count_append, h.updated, h'.updated]

end Merge

namespace Tally

theorem count_ofList (outcomes : List Merge) (outcome : Merge) :
    (ofList outcomes).count outcome = outcomes.count outcome := by
  suffices hfrom : ∀ tally : Tally,
      (outcomes.foldl record tally).count outcome = tally.count outcome + outcomes.count outcome by
    rw [ofList, hfrom]
    cases outcome <;> simp [empty, count]
  induction outcomes with
  | nil => exact fun _ => rfl
  | cons first rest ih =>
    intro tally
    rw [List.foldl_cons, ih, count_record, List.count_cons]
    by_cases h : outcome = first
    · simp only [h, if_true, beq_self_eq_true]
      omega
    · rw [if_neg h, if_neg (by simpa using Ne.symm h)]
      omega

/-- The tally of outcomes has as many rows as there are outcomes. -/
theorem of_amountTo {outcomes : List Merge} {total inserted updated : Nat}
    (h : Merge.AmountTo outcomes total inserted updated) :
    (ofList outcomes).inserted = inserted ∧ (ofList outcomes).updated = updated ∧
      (ofList outcomes).inserted + (ofList outcomes).updated + (ofList outcomes).unchanged =
        total := by
  have hinserted : (ofList outcomes).inserted = outcomes.count .inserted := count_ofList _ .inserted
  have hupdated : (ofList outcomes).updated = outcomes.count .updated := count_ofList _ .updated
  have hunchanged : (ofList outcomes).unchanged = outcomes.count .unchanged :=
    count_ofList _ .unchanged
  have hlength : outcomes.length =
      outcomes.count .inserted + outcomes.count .updated + outcomes.count .unchanged := by
    clear h hinserted hupdated hunchanged
    induction outcomes with
    | nil => rfl
    | cons first rest ih =>
      cases first <;> simp only [List.length_cons, List.count_cons, ih] <;> simp <;> omega
  rw [hinserted, hupdated, hunchanged, ← hlength]
  exact ⟨h.inserted, h.updated, h.total⟩

theorem eq_of_isNoop {tally : Tally} {total : Nat} (h : tally.isNoop = true)
    (htotal : tally.inserted + tally.updated + tally.unchanged = total) :
    tally = ⟨0, 0, total⟩ := by
  obtain ⟨inserted, updated, unchanged⟩ := tally
  simp only [isNoop, Bool.and_eq_true, decide_eq_true_eq] at h htotal
  simp only [mk.injEq]
  omega

end Tally

/-! ## Runs -/

/-- Whether the database takes an entry wherever its origin is not stored. -/
def Contents.Admits {r : Relation} (c : Contents) (e : Entry r) : Prop :=
  ∃ kept, stored? e = some kept ∧ kept.origin = e.origin ∧
    ∀ ref ∈ references r, c.resolves ref kept = true

namespace Script

variable {α : Type} {r : Relation} {env : Environment} {before : Progress}

theorem sound_of_insertNew {e : Entry r} {outcome : Merge} {after : Progress}
    (hrun : insertNew e env before = .ok outcome after) (hsound : before.database.Sound) :
    after.database.Sound := by
  have hwithin : Within env (fun _ => True) (insertNew e) := within_insertNew fun _ _ => trivial
  exact (evolution_of_ok hwithin hrun).sound hsound

/-- An entry that is merged finds the row of its origin or adds one. -/
theorem insertNew_ok (hkeyed : r.IsKeyed) (hcalm : env.disturbance = none) {e : Entry r}
    (hadmits : before.database.contents.Admits e) :
    ∃ outcome after added, insertNew e env before = .ok outcome after ∧
      after.database.contents =
        before.database.contents.set r (before.database.contents.get r ++ added) ∧
      Admitted env.now [e] (before.database.contents.get r) added ∧
      Merge.AmountTo [outcome] 1 added.length 0 := by
  obtain ⟨kept, hkept, horigin, hrefs⟩ := hadmits
  by_cases hstored : ∃ row ∈ before.database.contents.get r, row.origin = kept.origin
  · obtain ⟨row, hrow, hrowOrigin⟩ := hstored
    obtain ⟨name, detail, hinsert⟩ := Database.insert_of_mem hkeyed hrow hrowOrigin env.now
    refine ⟨.unchanged, _, [], insertOr_of_duplicate hcalm hkept hinsert _, ?_,
      .of_mem hrow (hrowOrigin.trans horigin), ⟨rfl, rfl, rfl⟩⟩
    rw [List.append_nil, PerRelation.set_get_self]
    rfl
  · have hnew : ∀ row ∈ before.database.contents.get r, row.origin ≠ kept.origin :=
      fun row hrow heq => hstored ⟨row, hrow, heq⟩
    exact ⟨.inserted, _, [before.database.nextRow env.now kept],
      insertOr_of_ok hcalm hkept (Database.insert_of_notMem hkeyed hnew hrefs) _, rfl,
      .of_notMem hnew horigin hkept rfl rfl, ⟨rfl, rfl, rfl⟩⟩

/-- Entries that are merged one after another add what they add together. -/
theorem each_insertNew_ok (hkeyed : r.IsKeyed) (hcalm : env.disturbance = none)
    (hsound : before.database.Sound) {entry : α → Entry r} {items : List α}
    (hadmits : ∀ a ∈ items, before.database.contents.Admits (entry a)) :
    ∃ outcomes after added, each (fun a => insertNew (entry a)) items env before =
        .ok outcomes after ∧
      after.database.Sound ∧
      after.database.contents =
        before.database.contents.set r (before.database.contents.get r ++ added) ∧
      Admitted env.now (items.map entry) (before.database.contents.get r) added ∧
      Merge.AmountTo outcomes items.length added.length 0 := by
  induction items generalizing before with
  | nil =>
    refine ⟨[], before, [], rfl, hsound, ?_, .nil _, ⟨rfl, rfl, rfl⟩⟩
    rw [List.append_nil, PerRelation.set_get_self]
  | cons a rest ih =>
    obtain ⟨outcome, middle, first, hrun, hmiddle, hfirst, hamount⟩ :=
      insertNew_ok hkeyed hcalm (hadmits a List.mem_cons_self)
    have hrest : ∀ b ∈ rest, middle.database.contents.Admits (entry b) := by
      intro b hb
      obtain ⟨kept, hkept, horigin, hrefs⟩ := hadmits b (List.mem_cons_of_mem _ hb)
      refine ⟨kept, hkept, horigin, fun ref href => ?_⟩
      rw [hmiddle, Contents.resolves_set href]
      exact hrefs ref href
    obtain ⟨outcomes, after, second, hruns, hafterSound, hafter, hsecond, hamounts⟩ :=
      ih (sound_of_insertNew hrun hsound) hrest
    rw [hmiddle, PerRelation.get_set_self] at hsecond hafter
    refine ⟨outcome :: outcomes, after, first ++ second, each_cons_ok hrun hruns, hafterSound, ?_,
      hfirst.append hsecond, ?_⟩
    · rw [hafter, PerRelation.set_set, List.append_assoc]
    · rw [List.length_append, List.length_cons, Nat.add_comm rest.length]
      exact hamount.append hamounts

end Script

/-- An identity that is named is there afterwards. -/
theorem Identities.ensure_ok {env : Environment} {before : Progress}
    (hcalm : env.disturbance = none) (hsound : before.database.Sound) {name : String}
    (hname : Text.IsNulFree name) :
    ∃ outcome after added, ensure name env before = .ok outcome after ∧ after.database.Sound ∧
      after.database.contents = before.database.contents.set .identity
        (before.database.contents.get .identity ++ added) ∧
      Admitted env.now [firstEntry name env.defaultAccess]
        (before.database.contents.get .identity) added := by
  have hadmits : before.database.contents.Admits (firstEntry name env.defaultAccess) :=
    ⟨_, Storable.stored?_firstEntry hname env.defaultAccess, rfl, nofun⟩
  obtain ⟨outcome, after, added, hrun, hafter, hadmitted, -⟩ :=
    Script.insertNew_ok Relation.identity_isKeyed hcalm hadmits
  refine ⟨outcome, after, added, ?_, Script.sound_of_insertNew hrun hsound, hafter, hadmitted⟩
  rw [ensure, Script.bind_ok (Script.read_ok env before), hrun]

end ControlPlane
