/-
What scripts may do to a database.

A script changes the database only through statements that write, and a transaction that does not
succeed puts the rows back.  `Evolution` is that and nothing else, for statements of which something
holds, so whatever the statements and the putting back keep is kept by the script
(`Script.Within`).  The laws below follow the combinators, one law for each; a script is within its
statements by the law of each of its steps.
-/
import ControlPlane.Proofs.Constraints
import ControlPlane.Storage.Script

namespace ControlPlane

/-- A statement that writes, with its parameters as they are stored. -/
inductive Statement
  | insert {r : Relation} (e : Entry r)
  | update {r : Relation} (which : Row r → Bool) (change : Settings r → Settings r)
  | delete {r : Relation} (which : Row r → Bool)

namespace Statement

variable {α : Type} {r : Relation}

/-- Whether the insert of an entry is allowed, where its parameters are not refused. -/
def AllowsInsert (allowed : Statement → Prop) (e : Entry r) : Prop :=
  ∀ kept, stored? e = some kept → allowed (.insert kept)

def AllowsUpdate [Storable α] (allowed : Statement → Prop) (params : α)
    (which : α → Row r → Bool) (change : α → Settings r → Settings r) : Prop :=
  ∀ kept, stored? params = some kept → allowed (.update (which kept) (change kept))

def AllowsDelete [Storable α] (allowed : Statement → Prop) (params : α)
    (which : α → Row r → Bool) : Prop :=
  ∀ kept, stored? params = some kept → allowed (.delete (which kept))

/-- Whether every update of a relation is allowed. -/
def AllowsUpdates (allowed : Statement → Prop) (r : Relation) : Prop :=
  ∀ which change, allowed (.update (r := r) which change)

/-- Whether every delete in a relation is allowed. -/
def AllowsDeletes (allowed : Statement → Prop) (r : Relation) : Prop :=
  ∀ which, allowed (.delete (r := r) which)

end Statement

namespace Database

/-- What one statement makes of a database.  An insert that is interrupted or refused still takes a
number. -/
inductive Write (now : Timestamp) : Statement → Database → Database → Prop
  | insert {r : Relation} (db : Database) (e : Entry r) :
    Write now (.insert e) db (db.insert now e).2
  | lose {r : Relation} (db : Database) (e : Entry r) :
    Write now (.insert e) db { (db.insert now e).2 with contents := db.contents }
  | update {r : Relation} {which : Row r → Bool} {change : Settings r → Settings r}
    {db : Database} {written : Option (Row r)} {contents : Contents}
    (h : db.contents.update now which change = .ok (written, contents)) :
    Write now (.update which change) db { db with contents := contents }
  | delete {r : Relation} {which : Row r → Bool} {db : Database} {found : Bool}
    {contents : Contents} (h : db.contents.delete which = .ok (found, contents)) :
    Write now (.delete which) db { db with contents := contents }

/-- What any number of allowed statements make of a database, transactions included. -/
inductive Evolution (now : Timestamp) (allowed : Statement → Prop) : Database → Database → Prop
  | refl (db : Database) : Evolution now allowed db db
  | write {statement : Statement} {db after : Database} (hallowed : allowed statement)
    (hwrite : Write now statement db after) : Evolution now allowed db after
  | trans {db middle after : Database} (first : Evolution now allowed db middle)
    (second : Evolution now allowed middle after) : Evolution now allowed db after
  /-- The rows are put back; numbers that were drawn stay drawn. -/
  | undo {db after : Database} (body : Evolution now allowed db after) :
    Evolution now allowed db { after with contents := db.contents }

theorem Evolution.mono {now : Timestamp} {allowed allowed' : Statement → Prop}
    {db after : Database} (h : Evolution now allowed db after)
    (himp : ∀ statement, allowed statement → allowed' statement) :
    Evolution now allowed' db after := by
  induction h with
  | refl db => exact .refl db
  | write hallowed hwrite => exact .write (himp _ hallowed) hwrite
  | trans _ _ ihfirst ihsecond => exact .trans ihfirst ihsecond
  | undo _ ih => exact .undo ih

/-! ## Numbers -/

theorem sequence_le_insert {r : Relation} (db : Database) (now : Timestamp) (e : Entry r)
    (other : Relation) :
    db.sequences.get other ≤ (db.insert now e).2.sequences.get other := by
  obtain ⟨hsequences, -⟩ := insert_cases (Prod.eta (db.insert now e)).symm
  rw [hsequences]
  exact PerRelation.get_set_cases (P := fun q (next : Int) => db.sequences.get q ≤ next)
    (by omega) (fun _ _ => Int.le_refl _) other

theorem Write.sequence_le {now : Timestamp} {statement : Statement} {db after : Database}
    (h : Write now statement db after) (r : Relation) :
    db.sequences.get r ≤ after.sequences.get r := by
  cases h with
  | insert => exact sequence_le_insert db now _ r
  | lose => exact sequence_le_insert db now _ r
  | update => exact Int.le_refl _
  | delete => exact Int.le_refl _

/-- Sequences never go back, not even where rows are put back. -/
theorem Evolution.sequence_le {now : Timestamp} {allowed : Statement → Prop}
    {db after : Database} (h : Evolution now allowed db after) (r : Relation) :
    db.sequences.get r ≤ after.sequences.get r := by
  induction h with
  | refl => exact Int.le_refl _
  | write _ hwrite => exact hwrite.sequence_le r
  | trans _ _ ihfirst ihsecond => exact Int.le_trans ihfirst ihsecond
  | undo _ ih => exact ih

end Database

/-! ## What holds of every row -/

/-- Whether a statement leaves something true of every entry that is stored, if it was true of
all. -/
def Statement.Keeps (P : {r : Relation} → Entry r → Prop) : Statement → Prop
  | .insert e => P e
  | .update which change =>
    ∀ row, which row = true → P row.toEntry → P ⟨row.origin, change row.settings⟩
  | .delete _ => True

namespace Database

variable {now : Timestamp} {P : {r : Relation} → Entry r → Prop} {db after : Database}

theorem Write.all_of_keeps {statement : Statement} (h : Write now statement db after)
    (hkeeps : statement.Keeps P) (hall : ∀ r, ∀ row ∈ db.contents.get r, P row.toEntry) :
    ∀ r, ∀ row ∈ after.contents.get r, P row.toEntry := by
  intro q
  cases h with
  | @insert r _ e =>
    obtain ⟨-, ⟨failure, -, -, hcontents⟩ | ⟨row, -, rfl, -, hcontents⟩⟩ :=
      insert_cases (Prod.eta (db.insert now e)).symm
    · rw [hcontents]
      exact hall q
    rw [hcontents]
    refine PerRelation.get_set_cases
      (P := fun q (rows : List (Row q)) => ∀ row ∈ rows, P row.toEntry)
      (fun row hrow => ?_) (fun q _ => hall q) q
    rcases List.mem_append.1 hrow with hrow | hrow
    · exact hall r row hrow
    · obtain rfl := List.mem_singleton.1 hrow
      exact hkeeps
  | lose => exact hall q
  | @update r which change _ written contents hupdate =>
    rcases Contents.update_cases hupdate with ⟨-, rfl⟩ | ⟨row, new, hfind, -, rfl, -, hcontents⟩
    · exact hall q
    rw [hcontents]
    refine PerRelation.get_set_cases
      (P := fun q (rows : List (Row q)) => ∀ row ∈ rows, P row.toEntry)
      (fun other hother => ?_) (fun q _ => hall q) q
    obtain ⟨old, hold, rfl⟩ := List.mem_map.1 hother
    split
    next =>
      exact hkeeps row (List.find?_some hfind) (hall r row (List.mem_of_find?_eq_some hfind))
    next => exact hall r old hold
  | delete hdelete =>
    rcases Contents.delete_cases hdelete with ⟨-, rfl⟩ | ⟨-, hsublist, -⟩
    · exact hall q
    · exact fun row hrow => hall q row ((hsublist q).subset hrow)

/-- Where every statement keeps something true of all rows, so does whatever they come to. -/
theorem Evolution.all_of_keeps (h : Evolution now (Statement.Keeps P) db after)
    (hall : ∀ r, ∀ row ∈ db.contents.get r, P row.toEntry) :
    ∀ r, ∀ row ∈ after.contents.get r, P row.toEntry := by
  induction h with
  | refl => exact hall
  | write hkeeps hwrite => exact hwrite.all_of_keeps hkeeps hall
  | trans _ _ ihfirst ihsecond => exact ihsecond (ihfirst hall)
  | undo => exact hall

end Database

open Database (Evolution)
open Statement (AllowsInsert AllowsUpdate AllowsDelete)

namespace Script

variable {α β : Type} {r : Relation}

/-- Where a run of a script ends, with a value or without. -/
def final : EStateM.Result Stop Progress α → Progress
  | .ok _ after => after
  | .error _ after => after

/-- Whether a script does nothing to the database but by allowed statements. -/
def Within (env : Environment) (allowed : Statement → Prop) (body : Script α) : Prop :=
  ∀ before, Evolution env.now allowed before.database (final (body env before)).database

theorem evolution_of_ok {body : Script α} {env : Environment} {allowed : Statement → Prop}
    {before after : Progress} {a : α} (h : Within env allowed body)
    (hrun : body env before = .ok a after) :
    Evolution env.now allowed before.database after.database := by
  have hevolution := h before
  rwa [hrun] at hevolution

/-! ## Running the combinators -/

theorem bind_ok {body : Script α} {env : Environment} {before after : Progress} {a : α}
    (h : body env before = .ok a after) (next : α → Script β) :
    (body >>= next) env before = next a env after := by
  show EStateM.bind (body env) (fun a => next a env) before = _
  rw [EStateM.bind, h]

theorem bind_error {body : Script α} {env : Environment} {before after : Progress} {stop : Stop}
    (h : body env before = .error stop after) (next : α → Script β) :
    (body >>= next) env before = .error stop after := by
  show EStateM.bind (body env) (fun a => next a env) before = _
  rw [EStateM.bind, h]

theorem map_ok {body : Script α} {env : Environment} {before after : Progress} {a : α}
    (h : body env before = .ok a after) (f : α → β) :
    (f <$> body) env before = .ok (f a) after := by
  show EStateM.map f (body env) before = _
  rw [EStateM.map, h]

theorem map_error {body : Script α} {env : Environment} {before after : Progress} {stop : Stop}
    (h : body env before = .error stop after) (f : α → β) :
    (f <$> body) env before = .error stop after := by
  show EStateM.map f (body env) before = _
  rw [EStateM.map, h]

theorem read_ok (env : Environment) (before : Progress) :
    (read : Script Environment) env before = .ok env before := rfl

theorem get_ok (env : Environment) (before : Progress) :
    (get : Script Progress) env before = .ok before before := rfl

/-- What is read back is given on if its documents are read. -/
theorem decoded_of_ok {body : Script α} {env : Environment} {before after : Progress} {a : α}
    (h : body env before = .ok a after) (isReadable : α → Bool) :
    decoded isReadable body env before =
      if isReadable a = true then .ok a after else .error (.failed .other none) after := by
  rw [decoded, bind_ok h]
  split <;> rfl

/-- What is given on was read. -/
theorem of_decoded_eq_ok {body : Script α} {env : Environment} {before after : Progress} {a : α}
    {isReadable : α → Bool} (h : decoded isReadable body env before = .ok a after) :
    body env before = .ok a after ∧ isReadable a = true := by
  cases hrun : body env before with
  | error stop later =>
    rw [decoded, bind_error hrun] at h
    cases h
  | ok found later =>
    rw [decoded_of_ok hrun] at h
    split at h
    next hreadable =>
      cases h
      exact ⟨rfl, hreadable⟩
    next => cases h

/-! ## What statements come to -/

theorem checkpoint_cases (moment : Moment) (env : Environment) (before : Progress) :
    checkpoint moment env before = .ok () before ∨
      ∃ why, env.disturbance = some (moment, why) ∧
        checkpoint moment env before = .error (.interrupted why) before := by
  rw [checkpoint, bind_ok (read_ok env before)]
  rcases hd : env.disturbance with _ | ⟨m, why⟩
  · exact .inl rfl
  · by_cases hm : m = moment
    · refine .inr ⟨why, by rw [hm], ?_⟩
      simp only [hm, if_true]
      rfl
    · left
      simp only [hm, if_false]
      rfl

theorem parameter_cases [Storable α] (value : α) (env : Environment) (before : Progress) :
    (stored? value = none ∧ parameter value env before = .error (.failed .other none) before) ∨
      ∃ kept, stored? value = some kept ∧ parameter value env before = .ok kept before := by
  rw [parameter]
  cases hkept : stored? value with
  | none => exact .inl ⟨rfl, rfl⟩
  | some kept => exact .inr ⟨kept, rfl, rfl⟩

theorem query_cases [Storable α] (params : α) (f : α → Contents → β) (env : Environment)
    (before : Progress) :
    (∃ stop, query params f env before = .error stop before) ∨
      ∃ kept, stored? params = some kept ∧
        query params f env before = .ok (f kept before.database.contents) before := by
  rw [query]
  rcases parameter_cases params env before with ⟨-, h⟩ | ⟨kept, hkept, h⟩
  · exact .inl ⟨_, bind_error h _⟩
  rw [bind_ok h]
  rcases checkpoint_cases .firstStatement env before with h | ⟨why, -, h⟩
  · rw [bind_ok h, bind_ok (get_ok env before)]
    by_cases hwritten : before.hasWritten = true
    · simp only [hwritten, if_true]
      rcases checkpoint_cases .readAfterWrite env before with h | ⟨why, -, h⟩
      · rw [bind_ok h]
        exact .inr ⟨kept, hkept, rfl⟩
      · exact .inl ⟨_, bind_error h _⟩
    · simp only [hwritten, if_false, Bool.false_eq_true]
      exact .inr ⟨kept, hkept, rfl⟩
  · exact .inl ⟨_, bind_error h _⟩

theorem queryOne_cases [Storable α] (params : α) (f : α → Contents → Option β) (env : Environment)
    (before : Progress) :
    (∃ stop, queryOne params f env before = .error stop before) ∨
      ∃ kept found, stored? params = some kept ∧ f kept before.database.contents = some found ∧
        queryOne params f env before = .ok found before := by
  rw [queryOne]
  rcases query_cases params f env before with ⟨stop, h⟩ | ⟨kept, hkept, h⟩
  · exact .inl ⟨stop, bind_error h _⟩
  rw [bind_ok h]
  cases hfound : f kept before.database.contents with
  | none => exact .inl ⟨_, rfl⟩
  | some found => exact .inr ⟨kept, found, hkept, hfound, rfl⟩

/-- An insert does not run, is lost to an interruption, succeeds, or is refused. -/
theorem insert_cases (e : Entry r) (env : Environment) (before : Progress) :
    (stored? e = none ∧ insert e env before = .error (.failed .other none) before) ∨
      ∃ kept outcome drawn, stored? e = some kept ∧
        before.database.insert env.now kept = (outcome, drawn) ∧
        ((∃ why, insert e env before = .error (.interrupted why)
            { before with database := { drawn with contents := before.database.contents } }) ∨
          (∃ row, outcome = .ok row ∧ insert e env before = .ok row ⟨drawn, true⟩) ∨
          ∃ failure, outcome = .error failure ∧
            insert e env before = .error (.failed failure none) ⟨drawn, true⟩) := by
  rw [insert]
  rcases parameter_cases e env before with ⟨hnone, h⟩ | ⟨kept, hkept, h⟩
  · exact .inl ⟨hnone, bind_error h _⟩
  rw [bind_ok h, bind_ok (read_ok env before), bind_ok (get_ok env before)]
  rcases hinsert : before.database.insert env.now kept with ⟨outcome, drawn⟩
  refine .inr ⟨kept, outcome, drawn, hkept, hinsert, ?_⟩
  rcases hd : env.disturbance with _ | ⟨_ | _, why⟩
  · cases outcome with
    | ok row => exact .inr (.inl ⟨row, rfl, rfl⟩)
    | error failure => exact .inr (.inr ⟨failure, rfl, rfl⟩)
  · exact .inl ⟨why, rfl⟩
  · cases outcome with
    | ok row => exact .inr (.inl ⟨row, rfl, rfl⟩)
    | error failure => exact .inr (.inr ⟨failure, rfl, rfl⟩)

theorem update_cases [Storable α] (params : α) (which : α → Row r → Bool)
    (change : α → Settings r → Settings r) (env : Environment) (before : Progress) :
    (∃ stop, update params which change env before = .error stop before) ∨
      ∃ kept written contents, stored? params = some kept ∧
        before.database.contents.update env.now (which kept) (change kept) =
          .ok (written, contents) ∧
        update params which change env before =
          .ok written ⟨{ before.database with contents := contents }, true⟩ := by
  rw [update]
  rcases parameter_cases params env before with ⟨-, h⟩ | ⟨kept, hkept, h⟩
  · exact .inl ⟨_, bind_error h _⟩
  rw [bind_ok h]
  rcases checkpoint_cases .firstStatement env before with h | ⟨why, -, h⟩
  · rw [bind_ok h, bind_ok (get_ok env before), bind_ok (read_ok env before)]
    rcases hupdate : before.database.contents.update env.now (which kept) (change kept) with
      failure | ⟨written, contents⟩
    · exact .inl ⟨_, rfl⟩
    · exact .inr ⟨kept, written, contents, hkept, hupdate, rfl⟩
  · exact .inl ⟨_, bind_error h _⟩

theorem delete_cases [Storable α] (params : α) (which : α → Row r → Bool) (env : Environment)
    (before : Progress) :
    (∃ stop, delete params which env before = .error stop before) ∨
      ∃ kept found contents, stored? params = some kept ∧
        before.database.contents.delete (which kept) = .ok (found, contents) ∧
        delete params which env before =
          .ok found ⟨{ before.database with contents := contents }, true⟩ := by
  rw [delete]
  rcases parameter_cases params env before with ⟨-, h⟩ | ⟨kept, hkept, h⟩
  · exact .inl ⟨_, bind_error h _⟩
  rw [bind_ok h]
  rcases checkpoint_cases .firstStatement env before with h | ⟨why, -, h⟩
  · rw [bind_ok h, bind_ok (get_ok env before)]
    rcases hdelete : before.database.contents.delete (which kept) with
      failure | ⟨found, contents⟩
    · exact .inl ⟨_, rfl⟩
    · exact .inr ⟨kept, found, contents, hkept, hdelete, rfl⟩
  · exact .inl ⟨_, bind_error h _⟩

/-! ## Staying within statements -/

variable {env : Environment} {allowed : Statement → Prop}

/-- A script that leaves the progress as it is, whatever it comes to. -/
theorem within_of_final_eq {body : Script α} (h : ∀ before, final (body env before) = before) :
    Within env allowed body := by
  intro before
  rw [h]
  exact .refl _

theorem within_pure (a : α) : Within env allowed (pure a) := within_of_final_eq fun _ => rfl

theorem within_throw (stop : Stop) : Within env allowed (throw stop : Script α) :=
  within_of_final_eq fun _ => rfl

theorem within_fail (failure : Failure) : Within env allowed (fail failure : Script α) :=
  within_throw _

theorem within_query [Storable α] (params : α) (f : α → Contents → β) :
    Within env allowed (query params f) := by
  refine within_of_final_eq fun before => ?_
  rcases query_cases params f env before with ⟨stop, h⟩ | ⟨kept, -, h⟩ <;> rw [h] <;> rfl

theorem within_queryOne [Storable α] (params : α) (f : α → Contents → Option β) :
    Within env allowed (queryOne params f) := by
  refine within_of_final_eq fun before => ?_
  rcases queryOne_cases params f env before with ⟨stop, h⟩ | ⟨kept, found, -, -, h⟩ <;>
    rw [h] <;> rfl

theorem within_insert (e : Entry r) (h : AllowsInsert allowed e) :
    Within env allowed (insert e) := by
  intro before
  rcases insert_cases e env before with ⟨-, hrun⟩ | ⟨kept, outcome, drawn, hkept, hinsert, hrun⟩
  · rw [hrun]
    exact .refl _
  have hdrawn : (before.database.insert env.now kept).2 = drawn := by rw [hinsert]
  subst hdrawn
  rcases hrun with ⟨why, hrun⟩ | ⟨row, -, hrun⟩ | ⟨failure, -, hrun⟩ <;> rw [hrun]
  · exact .write (h kept hkept) (.lose before.database kept)
  · exact .write (h kept hkept) (.insert before.database kept)
  · exact .write (h kept hkept) (.insert before.database kept)

theorem within_update [Storable α] (params : α) (which : α → Row r → Bool)
    (change : α → Settings r → Settings r)
    (h : AllowsUpdate allowed params which change) :
    Within env allowed (update params which change) := by
  intro before
  rcases update_cases params which change env before with
    ⟨stop, hrun⟩ | ⟨kept, written, contents, hkept, hupdate, hrun⟩ <;> rw [hrun]
  · exact .refl _
  · exact .write (h kept hkept) (.update hupdate)

theorem within_delete [Storable α] (params : α) (which : α → Row r → Bool)
    (h : AllowsDelete allowed params which) :
    Within env allowed (delete params which) := by
  intro before
  rcases delete_cases params which env before with
    ⟨stop, hrun⟩ | ⟨kept, found, contents, hkept, hdelete, hrun⟩ <;> rw [hrun]
  · exact .refl _
  · exact .write (h kept hkept) (.delete hdelete)

theorem within_bind {body : Script α} {next : α → Script β} (hbody : Within env allowed body)
    (hnext : ∀ a, Within env allowed (next a)) : Within env allowed (body >>= next) := by
  intro before
  have hfirst := hbody before
  cases hrun : body env before with
  | ok a after =>
    rw [hrun] at hfirst
    rw [bind_ok hrun]
    exact .trans hfirst (hnext a after)
  | error stop after =>
    rw [hrun] at hfirst
    rw [bind_error hrun]
    exact hfirst

theorem within_map {body : Script α} (f : α → β) (hbody : Within env allowed body) :
    Within env allowed (f <$> body) := by
  intro before
  have hfirst := hbody before
  cases hrun : body env before with
  | ok a after =>
    rw [hrun] at hfirst
    rw [map_ok hrun]
    exact hfirst
  | error stop after =>
    rw [hrun] at hfirst
    rw [map_error hrun]
    exact hfirst

theorem within_decoded {body : Script α} (isReadable : α → Bool)
    (hbody : Within env allowed body) : Within env allowed (decoded isReadable body) := by
  refine within_bind hbody fun found => ?_
  split
  · exact within_pure _
  · exact within_fail _

theorem within_each {f : α → Script β} {items : List α}
    (h : ∀ a ∈ items, Within env allowed (f a)) : Within env allowed (each f items) := by
  induction items with
  | nil => exact within_pure _
  | cons a rest ih =>
    rw [each]
    refine within_bind (h a List.mem_cons_self) fun b => ?_
    exact within_bind (ih fun a ha => h a (List.mem_cons_of_mem _ ha)) fun _ => within_pure _

theorem within_transaction {body : Script α} (hbody : Within env allowed body) :
    Within env allowed (transaction body) := by
  intro before
  have hfirst := hbody before
  rw [transaction]
  cases hrun : body env before with
  | ok a after =>
    rw [hrun] at hfirst
    exact hfirst
  | error stop after =>
    rw [hrun] at hfirst
    exact .undo hfirst

theorem within_about {body : Script α} (subject : Subject) (hbody : Within env allowed body) :
    Within env allowed (about subject body) := by
  intro before
  have hfirst := hbody before
  rw [about]
  cases hrun : body env before with
  | ok a after =>
    rw [hrun] at hfirst
    exact hfirst
  | error stop after =>
    rw [hrun] at hfirst
    exact hfirst

theorem within_insertOr {e : Entry r} {onConflict : Script Merge}
    (hinsert : AllowsInsert allowed e)
    (hconflict : Within env allowed onConflict) : Within env allowed (insertOr e onConflict) := by
  intro before
  have hfirst : Evolution env.now allowed before.database
      (final (insert e env before)).database := within_insert e hinsert before
  rw [insertOr]
  cases hrun : insert e env before with
  | ok row after =>
    rw [hrun] at hfirst
    exact hfirst
  | error stop after =>
    rw [hrun] at hfirst
    rcases stop with ⟨_ | _ | _, subject⟩ | why
    · exact hfirst
    · exact .trans hfirst (hconflict after)
    · exact hfirst
    · exact hfirst

theorem within_insertNew {e : Entry r} (h : AllowsInsert allowed e) :
    Within env allowed (insertNew e) :=
  within_insertOr h (within_pure _)

theorem within_insertOrChange [Storable α] {e : Entry r} {params : α}
    {which : α → Row r → Bool} {change : α → Settings r → Settings r}
    (hinsert : AllowsInsert allowed e)
    (hupdate : AllowsUpdate allowed params which change) :
    Within env allowed (insertOrChange e params which change) := by
  refine within_insertOr hinsert (within_bind (within_update params which change hupdate) ?_)
  intro written
  cases written <;> exact within_pure _

end Script
end ControlPlane
