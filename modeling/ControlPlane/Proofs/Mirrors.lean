/-
Operations that do what larger operations do on the way.

Adding a region does what a new cloud does for each of its regions, and assigning a priority what a
new controller does for each of its own.  Assigning a level does what a snapshot does for each of
its reports.  Adding an entity, where it may exist already, does what a snapshot does for each of
its entries: both draw a number, and where the entity exists neither changes a row.  But an
operation that adds an entity reads it back at once, and breaks off where it cannot
(`Part.breaks_of_unread`).
-/
import ControlPlane.Proofs.GrantRuns
import ControlPlane.Proofs.Sequencing

namespace ControlPlane

open Script

/-! ## Scripts -/

namespace Relation

theorem link_isKeyed : IsKeyed .link :=
  isKeyed_of_values rfl (fun _ => rfl) fun ⟨⟨_, _⟩, _⟩ ⟨⟨_, _⟩, _⟩ => by simp

end Relation

namespace Script

variable {α : Type} {r : Relation} {env : Environment} {before after : Progress}

/-- An entry that is merged is inserted; or a row has its origin, and the insert is refused without
a change to the rows. -/
theorem insert_of_insertNew (hcalm : env.disturbance = none) (hkeyed : r.IsKeyed) {e : Entry r}
    {outcome : Merge} (h : insertNew e env before = .ok outcome after) :
    (∃ row, insert e env before = .ok row after) ∨
      ∃ name detail, insert e env before = .error (.failed (.duplicate name detail) none) after ∧
        after.database.contents = before.database.contents ∧
        ∃ row ∈ before.database.contents.get r, row.origin = e.origin := by
  obtain ⟨kept, hkept, ⟨hrefusal, -, rfl⟩ | ⟨name, detail, hrefusal, hconflict⟩⟩ :=
    of_insertOr_eq_ok h
  · exact .inl ⟨_, insert_of_ok hcalm hkept (Database.insert_of_refusal? hrefusal env.now)⟩
  · have hinsert := insert_of_error hcalm hkept
      (Database.insert_of_refusal?_eq_some hrefusal env.now)
    obtain ⟨row, hrow, horigin⟩ := Contents.exists_origin_of_refusal? hkeyed hrefusal
    cases hconflict
    exact .inr ⟨name, detail, hinsert, rfl, row, hrow,
      horigin.trans (Storable.origin_of_stored? hkept)⟩

/-- An entry that is added where documents are read back has a readable document. -/
theorem isReadable_of_areReadBack (hkeyed : r.IsKeyed) {e : Entry r} {rest : List (Entry r)}
    (hback : Entry.AreReadBack (e :: rest) (before.database.contents.get r)) {row : Row r}
    (h : insert e env before = .ok row after) : e.isReadable = true := by
  refine hback e ⟨[], rest, rfl, nofun⟩ fun old hold horigin => ?_
  obtain ⟨hkept, -, hfree, -⟩ := appends_of_insert h
  obtain ⟨name, detail, hrefused⟩ := Contents.refusal?_of_mem (c := before.database.contents)
    hkeyed hold (horigin.trans (Storable.origin_of_stored? hkept).symm)
  rw [hrefused] at hfree
  cases hfree

/-- An entry whose origin is stored changes no rows where it is merged. -/
theorem contents_of_insertNew (hkeyed : r.IsKeyed) {e : Entry r} {outcome : Merge}
    (h : insertNew e env before = .ok outcome after)
    (hstored : ∃ row ∈ before.database.contents.get r, row.origin = e.origin) :
    after.database.contents = before.database.contents := by
  obtain ⟨kept, hkept, ⟨hrefusal, -, -⟩ | ⟨name, detail, -, hconflict⟩⟩ := of_insertOr_eq_ok h
  · obtain ⟨row, hrow, horigin⟩ := hstored
    obtain ⟨name, detail, hrefused⟩ := Contents.refusal?_of_mem (c := before.database.contents)
      hkeyed hrow (horigin.trans (Storable.origin_of_stored? hkept).symm)
    rw [hrefusal] at hrefused
    cases hrefused
  · cases hconflict
    rfl

/-- Nothing refuses an entry that is merged, once the database takes it and its references lead
somewhere. -/
theorem insertOrChange_ok [Storable α] (hcalm : env.disturbance = none)
    (hsound : before.database.Sound) (hkeyed : r.IsKeyed) (hr : r ≠ .model) {e kept : Entry r}
    (hkept : stored? e = some kept)
    (hrefs : ∀ ref ∈ references r, before.database.contents.resolves ref kept = true)
    {params given : α} (hgiven : stored? params = some given) (which : α → Row r → Bool)
    (change : α → Settings r → Settings r) :
    ∃ outcome after, insertOrChange e params which change env before = .ok outcome after := by
  by_cases hstored : ∃ row ∈ before.database.contents.get r, row.origin = kept.origin
  · obtain ⟨row, hrow, horigin⟩ := hstored
    obtain ⟨name, detail, hinsert⟩ := Database.insert_of_mem hkeyed hrow horigin env.now
    rw [insertOrChange, insertOr_of_duplicate hcalm hkept hinsert]
    obtain ⟨written, contents, hupdate⟩ : ∃ written contents,
        before.database.contents.update env.now (which given) (change given) =
          .ok (written, contents) := by
      cases hfind : (before.database.contents.get r).find? (which given) with
      | none => exact ⟨none, _, Contents.update_of_none hfind env.now (change given)⟩
      | some found =>
        exact ⟨_, _, Contents.update_ok hsound.unique hsound.closed hkeyed hr hfind env.now
          (change given)⟩
    let drawn : Progress := ⟨(before.database.draw r).2, true⟩
    have hrun : update params which change env drawn =
        .ok written ⟨{ drawn.database with contents := contents }, true⟩ :=
      update_ok hcalm hgiven hupdate
    rw [bind_ok hrun]
    cases written with
    | none => exact ⟨.unchanged, _, rfl⟩
    | some row => exact ⟨.updated, _, rfl⟩
  · have hnew : ∀ row ∈ before.database.contents.get r, row.origin ≠ kept.origin :=
      fun row hrow heq => hstored ⟨row, hrow, heq⟩
    exact ⟨.inserted, _,
      insertOr_of_ok hcalm hkept (Database.insert_of_notMem hkeyed hnew hrefs) _⟩

end Script

/-- A region and a controller that are there can be linked. -/
theorem Links.merge_ok {env : Environment} {before : Progress} (hcalm : env.disturbance = none)
    (hsound : before.database.Sound) {region : Row .region} {controller : Row .controller}
    (hregion : region ∈ before.database.contents.get .region)
    (hcontroller : controller ∈ before.database.contents.get .controller) (priority : Int) :
    ∃ outcome after, merge region.id controller.id priority env before = .ok outcome after := by
  have hkept : stored? (⟨⟨region.id, controller.id⟩, priority⟩ : Entry .link) =
      some ⟨⟨region.id, controller.id⟩, priority⟩ := rfl
  refine insertOrChange_ok hcalm hsound Relation.link_isKeyed (by decide) hkept ?_ rfl _ _
  intro ref href
  simp only [references, List.mem_cons, List.not_mem_nil, or_false] at href
  rcases href with rfl | rfl
  · exact Contents.resolves_iff.2 ⟨region, hregion, decide_eq_true rfl⟩
  · exact Contents.resolves_iff.2 ⟨controller, hcontroller, decide_eq_true rfl⟩

/-! ## Parts -/

section

variable {store : Store} {now : Timestamp}

/-- An entity that exists already is no reason to reject a part that tolerates it. -/
theorem Part.rejection?_duplicate (op : Operation) (plan : Plan) (name detail : Option String)
    (subject : Option Subject) : Part.rejection? ⟨op, true⟩
      (.error (Store.errorOf plan (.failed (.duplicate name detail) subject))) = none := by
  simp [rejection?, Store.errorOf, Failure.toError, StoreError.code]

theorem Store.disturbance_undisturbed (store : Store) (now : Timestamp) :
    (store.environment now .undisturbed).disturbance = none := rfl

variable (hready : store.lifecycle = .ready)

include hready

/-- A part that adds an entry which cannot be read breaks off where it reads the entry back. -/
theorem Part.breaks_of_unread {op : Operation} {r : Relation} {e : Entry r}
    (hadds : op.Adds store.settings.defaultAccess e) (he : e.isReadable = false)
    (hvalid : op.plan.subject.isValid = true) {db : Database} (hsound : db.Sound)
    (hreadable : db.contents.IsReadable) {α γ : Type} {body : Script α} {get : α → Script γ}
    {isReadable : γ → Bool} {reply : γ → Reply}
    (hscript : op.plan.script =
      reply <$> transaction (body >>= fun a => decoded isReadable (get a)))
    {a : α} {c : γ} {start last : Progress}
    (hbody : body (store.environment now .undisturbed) ⟨db, false⟩ = .ok a start)
    (hget : get a (store.environment now .undisturbed) start = .ok c last) :
    Part.Breaks ⟨op, false⟩ store now db := by
  cases hrun : op.plan.script (store.environment now .undisturbed) ⟨db, false⟩ with
  | ok answer done =>
    have hperform := congrArg Prod.fst (Store.perform_ok hready hvalid hrun)
    rw [Store.isReadable_of_adds hsound hreadable hadds hperform] at he
    cases he
  | error stop done =>
    have hstop : stop = .failed .other none := by
      rw [hscript] at hrun
      obtain ⟨middle, hrun, -⟩ := of_transaction_eq_error (of_map_eq_error hrun)
      rw [bind_ok hbody, decoded_of_ok hget] at hrun
      split at hrun
      next => cases hrun
      next =>
        cases hrun
        rfl
    subst hstop
    exact ⟨_, _, Store.perform_of_error hready hvalid hrun, rfl⟩

namespace Regions

/-- Whether regions may be added with these entries, one after another: something holds of the
clouds, and the documents that would be added are read back. -/
structure Awaits (P : List (Row .cloud) → Prop) (entries : List (Entry .region)) (db : Database) :
    Prop where
  clouds : P (db.contents.get .cloud)
  sound : db.Sound
  readable : db.contents.IsReadable
  readBack : Entry.AreReadBack entries (db.contents.get .region)

omit hready in
theorem areReadBack_nil (rows : List (Row .region)) : Entry.AreReadBack [] rows :=
  fun _ hfirst => absurd hfirst.mem List.not_mem_nil

variable {e : Entry .region} {env : Environment} {before after : Progress}

omit hready in
theorem Awaits.of_insertUnder {P : List (Row .cloud) → Prop} {id : Int}
    (h : Awaits P [] before.database) (he : e.isReadable = true)
    (hrun : insertUnder e env before = .ok id after) : Awaits P [] after.database := by
  have hwithin : Within env (Statement.Spares .cloud) (insertUnder e) :=
    insertUnder_within (allowsInsert_spares (by decide))
  have hevolution := evolution_of_ok hwithin hrun
  obtain ⟨_, start, hreferred, hrest⟩ := of_bind_eq_ok hrun
  obtain ⟨_, -, -, rfl⟩ := of_queryOne_eq_ok (of_about_eq_ok hreferred)
  obtain ⟨row, last, hinsert, hlast⟩ := of_bind_eq_ok hrest
  cases hlast
  refine ⟨?_, hevolution.sound h.sound, ?_, areReadBack_nil _⟩
  · rw [hevolution.get_eq]
    exact h.clouds
  · exact (isReadable_of_insert h.sound h.readable he (of_about_eq_ok hinsert)).1

omit hready in
theorem Awaits.of_insertNew {P : List (Row .cloud) → Prop} {rest : List (Entry .region)}
    (hcalm : env.disturbance = none) (h : Awaits P (e :: rest) before.database) {outcome : Merge}
    (hrun : insertNew e env before = .ok outcome after) :
    Awaits P rest after.database := by
  have hwithin : Within env (Statement.Spares .cloud) (insertNew e) :=
    within_insertNew (allowsInsert_spares (by decide))
  have hevolution := evolution_of_ok hwithin hrun
  have hclouds : P (after.database.contents.get .cloud) := by
    rw [hevolution.get_eq]
    exact h.clouds
  rcases insert_of_insertNew hcalm Relation.region_isKeyed hrun with
    ⟨row, hinsert⟩ | ⟨name, detail, -, hcontents, hstored⟩
  · obtain ⟨hkept, -, -, hcontents⟩ := appends_of_insert hinsert
    have hrows : after.database.contents.get .region =
        before.database.contents.get .region ++ [row] := by
      rw [hcontents, PerRelation.get_set_self]
    have he := isReadable_of_areReadBack Relation.region_isKeyed h.readBack hinsert
    refine ⟨hclouds, hevolution.sound h.sound,
      (isReadable_of_insert h.sound h.readable he hinsert).1, ?_⟩
    rw [hrows]
    exact h.readBack.tail (List.subset_append_left _ _)
      ⟨row, by simp, Storable.origin_of_stored? hkept⟩
  · refine ⟨hclouds, hevolution.sound h.sound, ?_, ?_⟩
    · rw [hcontents]
      exact h.readable
    · rw [hcontents]
      exact h.readBack.tail (List.Subset.refl _) hstored

variable (hparts : "" ∉ e.origin.parts)

include hparts

omit hready in
theorem isValid_addRegion : (Operation.addRegion e).plan.subject.isValid = true :=
  Subject.isValid_ofParts.2 hparts

/-- A region that is inserted on the way is added. -/
theorem perform_add_of_ok {db : Database} (hsound : db.Sound) (hreadable : db.contents.IsReadable)
    (he : e.isReadable = true) {id : Int} {after : Progress}
    (h : insertUnder e (store.environment now .undisturbed) ⟨db, false⟩ = .ok id after) :
    ∃ answer, store.perform now .undisturbed (.addRegion e) db = (.ok answer, after.database) := by
  have hcalm := store.disturbance_undisturbed now
  have hstart : Awaits (fun _ => True) [] (Progress.mk db false).database :=
    ⟨trivial, hsound, hreadable, areReadBack_nil _⟩
  have hafter := hstart.of_insertUnder he h
  obtain ⟨row, rfl, hinserted⟩ := insertUnder_inserts h
  obtain ⟨region, hread⟩ :=
    Script.withId_ok (fun c => c.showsRows_regions (Preload.region "")) hcalm hinserted.mem
  have hread := readBack_ok hafter.readable
    hafter.sound.allDistinct hread
  have hscript : (Operation.addRegion e).plan.script (store.environment now .undisturbed)
      ⟨db, false⟩ = .ok (.ofRegion region) after :=
    map_ok (transaction_ok ((bind_ok h _).trans hread)) Reply.ofRegion
  exact ⟨_, Store.perform_ok hready (isValid_addRegion hparts) hscript⟩

/-- What keeps a region from being inserted on the way keeps it from being added. -/
theorem perform_add_of_error {db : Database} {stop : Stop} {after : Progress}
    (h : insertUnder e (store.environment now .undisturbed) ⟨db, false⟩ = .error stop after) :
    store.perform now .undisturbed (.addRegion e) db =
      (.error (Store.errorOf (Operation.addRegion e).plan stop),
        { after.database with contents := db.contents }) := by
  have hscript : (Operation.addRegion e).plan.script (store.environment now .undisturbed)
      ⟨db, false⟩ = .error stop
        { after with database := { after.database with contents := db.contents } } :=
    map_error (transaction_error (bind_error h _)) Reply.ofRegion
  exact Store.perform_of_error hready (isValid_addRegion hparts) hscript

/-- A region that is inserted on the way, but cannot be read, is not added. -/
theorem breaks_of_insertUnder {db : Database} (hsound : db.Sound)
    (hreadable : db.contents.IsReadable) (he : e.isReadable = false) {id : Int} {after : Progress}
    (h : insertUnder e (store.environment now .undisturbed) ⟨db, false⟩ = .ok id after) :
    Part.Breaks ⟨.addRegion e, false⟩ store now db := by
  obtain ⟨row, rfl, hinserted⟩ := insertUnder_inserts h
  obtain ⟨region, hread⟩ := Script.withId_ok (fun c => c.showsRows_regions (Preload.region ""))
    (store.disturbance_undisturbed now) hinserted.mem
  have hadds : (Operation.addRegion e).Adds store.settings.defaultAccess e := .inl rfl
  have hscript : (Operation.addRegion e).plan.script = Reply.ofRegion <$> transaction
      (insertUnder e >>= fun id => decoded Region.isReadable (withId id)) := rfl
  exact Part.breaks_of_unread hready hadds he (isValid_addRegion hparts) hsound hreadable hscript h
    hread

theorem insertUnder_mirrors (P : List (Row .cloud) → Prop) {unread : Prop}
    (hunread : e.isReadable = false → unread) :
    Part.Mirrors ⟨.addRegion e, false⟩ store now unread (Awaits P []) (Awaits P [])
      (insertUnder e) := by
  intro before id after hawaits hrun
  obtain ⟨later, hrun', hlater⟩ :=
    (insertUnder_blind (store.disturbance_undisturbed now) e).ok hrun ⟨before.database, false⟩ rfl
  cases he : e.isReadable with
  | true =>
    obtain ⟨answer, hperform⟩ :=
      perform_add_of_ok hready hparts hawaits.sound hawaits.readable he hrun'
    exact .inl ⟨hawaits.of_insertUnder he hrun, .ok answer, hlater ▸ hperform, rfl⟩
  | false =>
    have hbreaks := breaks_of_insertUnder hready hparts hawaits.sound hawaits.readable he hrun'
    exact .inr ⟨hunread he, hbreaks⟩

theorem insertUnder_failsLike (holds : Database → Prop) (plan : Plan) :
    Part.FailsLike ⟨.addRegion e, false⟩ store now holds plan (insertUnder e) := by
  intro before stop after _ hrun
  have hlabelled : stop.IsLabelled := by
    rcases of_bind_eq_error hrun with hrun | ⟨_, _, -, hrun⟩
    · exact isLabelled_of_about_eq_error hrun
    · rcases of_bind_eq_error hrun with hrun | ⟨_, _, -, hrun⟩
      · exact isLabelled_of_about_eq_error hrun
      · cases hrun
  obtain ⟨later, hrun', hlater⟩ :=
    (insertUnder_blind (store.disturbance_undisturbed now) e).error hrun ⟨before.database, false⟩
      rfl
  refine ⟨_, _, perform_add_of_error hready hparts hrun', ?_, ?_⟩
  · exact congrArg some (Store.cause_of_isLabelled hlabelled _ _)
  · rw [hlater]

/-- A region that is merged into a cloud that is there is added, unless it exists already. -/
theorem insertNew_mirrors (P : List (Row .cloud) → Prop)
    (hcloud : ∀ clouds, P clouds → ∃ cloud ∈ clouds, cloud.origin = e.origin.cloud)
    (rest : List (Entry .region)) :
    Part.Mirrors ⟨.addRegion e, true⟩ store now False (Awaits P (e :: rest)) (Awaits P rest)
      (insertNew e) := by
  intro before outcome after hawaits hrun
  have hcalm := store.disturbance_undisturbed now
  refine .inl ⟨hawaits.of_insertNew hcalm hrun, ?_⟩
  let start : Progress := ⟨before.database, false⟩
  obtain ⟨⟨kept, hkept⟩, -⟩ := of_insertNew_eq_ok hrun
  have hname := (Storable.isNulFree_of_regionKey (Storable.stored?_origin hkept)).1
  have hreferred : ∃ id, Clouds.referredId e.origin.cloud (store.environment now .undisturbed)
      start = .ok id start := Clouds.referredId_ok hcalm hname (hcloud _ hawaits.clouds)
  obtain ⟨_, hreferred⟩ := hreferred
  rcases insert_of_insertNew hcalm Relation.region_isKeyed hrun with
    ⟨row, hinsert⟩ | ⟨name, detail, hinsert, hcontents, -⟩
  · have he := isReadable_of_areReadBack Relation.region_isKeyed hawaits.readBack hinsert
    obtain ⟨later, hinsert, hlater⟩ := (blind_insert hcalm e).ok hinsert start rfl
    have hunder : insertUnder e (store.environment now .undisturbed) start = .ok row.id later := by
      rw [insertUnder, bind_ok hreferred, bind_ok (about_ok _ hinsert)]
      rfl
    obtain ⟨answer, hperform⟩ :=
      perform_add_of_ok hready hparts hawaits.sound hawaits.readable he hunder
    exact ⟨.ok answer, hlater ▸ hperform, rfl⟩
  · obtain ⟨later, hinsert, hlater⟩ := (blind_insert hcalm e).error hinsert start rfl
    have hunder : insertUnder e (store.environment now .undisturbed) start =
        .error (.failed (.duplicate name detail) (some (.ofRegion e.origin))) later := by
      rw [insertUnder, bind_ok hreferred, bind_error (about_error _ hinsert)]
      rfl
    have hperform := perform_add_of_error hready hparts hunder
    rw [hlater, ← hcontents] at hperform
    exact ⟨_, hperform, Part.rejection?_duplicate _ _ name detail _⟩

end Regions

/-! ### Priorities -/

namespace Controllers

/-- Whether a row is that of a controller with a key, among rows that can be read. -/
structure IsKept (key : ControllerKey) (row : Row .controller) (db : Database) : Prop where
  sound : db.Sound
  readable : db.contents.IsReadable
  storable : (Key.controller key).IsStorable
  row : (Key.controller key).row? db.contents = some row

omit hready in
theorem IsKept.referredId_ok {key : ControllerKey} {row : Row .controller} {before : Progress}
    (h : IsKept key row before.database) :
    referredId key (store.environment now .undisturbed) before = .ok row.id before := by
  have hfind := (Key.row?_controller key _).symm.trans h.row
  exact about_ok _ (queryOne_ok (store.disturbance_undisturbed now) h.storable
    (congrArg (Option.map fun row : Row .controller => row.id) hfind))

/-- The script by which a new controller gets a priority. -/
def link (controller : Int) (p : RegionPriority) : Script Merge := do
  let region ← Regions.referredId p.region
  Links.merge region controller p.priority

variable {key : ControllerKey} {row : Row .controller} {p : RegionPriority}
  (hregion : "" ∉ p.region.parts) (hkey : "" ∉ (Key.controller key).parts)

include hregion hkey

omit hready in
theorem isValid_assignPriority :
    (Operation.assignPriority p.region key p.priority).plan.subject.isValid = true := by
  have hrender : key.render ≠ "" := by
    cases key with
    | uuid u => exact Key.render_ne_empty u
    | name name => exact fun hempty => hkey (List.mem_singleton.2 hempty.symm)
  refine Subject.isValid_ofParts.2 fun hmem => ?_
  simp only [List.mem_cons, List.not_mem_nil, or_false] at hmem
  rcases hmem with hempty | hempty | hempty
  · exact hregion (hempty ▸ List.mem_cons_self)
  · exact hregion (hempty ▸ List.mem_cons_of_mem _ List.mem_cons_self)
  · exact hrender hempty.symm

/-- A priority that a new controller gets on the way is assigned. -/
theorem link_mirrors (unread : Prop) :
    Part.Mirrors ⟨.assignPriority p.region key p.priority, false⟩ store now unread
      (IsKept key row) (IsKept key row) (link row.id p) := by
  intro before outcome after hkept hrun
  have hcalm := store.disturbance_undisturbed now
  obtain ⟨region, middle, hreferred, hmerge⟩ := of_bind_eq_ok hrun
  have hwithin : Within (store.environment now .undisturbed) (Statement.Spares .controller)
      (link row.id p) := within_bind (Regions.referredId_within _) fun _ =>
    Links.merge_within (allowsInsert_spares (by decide)) (allowsUpdates_spares (by decide))
  have hevolution := evolution_of_ok hwithin hrun
  -- Links have no documents.
  have hkeeps : Within (store.environment now .undisturbed)
      (Statement.Keeps fun e => e.isReadable = true) (link row.id p) :=
    within_bind (Regions.referredId_within _) fun _ =>
      Links.merge_within (fun _ _ => rfl) fun _ _ _ _ _ => rfl
  have hreadable := (evolution_of_ok hkeeps hrun).all_of_keeps hkept.readable
  refine .inl ⟨⟨hevolution.sound hkept.sound, hreadable, hkept.storable, ?_⟩, ?_⟩
  · have hrow := hkept.row
    rw [Key.row?] at hrow ⊢
    rwa [hevolution.get_eq]
  obtain ⟨start, hreferred', hstart⟩ :=
    (Regions.referredId_blind hcalm p.region).ok hreferred ⟨before.database, false⟩ rfl
  have hmiddle : middle.database = before.database := by
    obtain ⟨_, -, -, rfl⟩ := of_queryOne_eq_ok (of_about_eq_ok hreferred)
    rfl
  obtain ⟨later, hmerge', hlater⟩ :=
    (Links.merge_blind hcalm region row.id p.priority).ok hmerge start hstart
  have hcontroller : referredId key (store.environment now .undisturbed) start =
      .ok row.id start := by
    refine IsKept.referredId_ok ?_
    rw [hstart, hmiddle]
    exact hkept
  have hscript : (Operation.assignPriority p.region key p.priority).plan.script
      (store.environment now .undisturbed) ⟨before.database, false⟩ =
        .ok (.merge outcome) later := by
    refine map_ok ?_ Reply.merge
    rw [Links.assign, bind_ok hreferred', bind_ok hcontroller, hmerge']
  have hperform := Store.perform_ok hready (isValid_assignPriority hregion hkey) hscript
  exact ⟨_, hlater ▸ hperform, rfl⟩

/-- A priority that a new controller does not get on the way is of a region that is missing. -/
theorem link_failsLike (plan : Plan) :
    Part.FailsLike ⟨.assignPriority p.region key p.priority, false⟩ store now (IsKept key row) plan
      (link row.id p) := by
  intro before stop after hkept hrun
  have hcalm := store.disturbance_undisturbed now
  rcases of_bind_eq_error hrun with hreferred | ⟨region, middle, hreferred, hmerge⟩
  · obtain ⟨later, hreferred', hlater⟩ :=
      (Regions.referredId_blind hcalm p.region).error hreferred ⟨before.database, false⟩ rfl
    have hscript : (Operation.assignPriority p.region key p.priority).plan.script
        (store.environment now .undisturbed) ⟨before.database, false⟩ = .error stop later :=
      map_error (bind_error hreferred' _) Reply.merge
    have hperform := Store.perform_of_error hready (isValid_assignPriority hregion hkey) hscript
    refine ⟨_, _, hperform, congrArg some ?_, hlater ▸ rfl⟩
    exact Store.cause_of_isLabelled (isLabelled_of_about_eq_error hreferred) _ _
  · obtain ⟨found, hfound, rfl, rfl⟩ :=
      of_number_eq_ok Storable.isExact_regionKey (of_about_eq_ok hreferred)
    obtain ⟨outcome, last, hok⟩ := Links.merge_ok hcalm hkept.sound
      (List.mem_of_find?_eq_some hfound) (Key.names_of_row? hkept.row).1 p.priority
    rw [hok] at hmerge
    cases hmerge

end Controllers

/-! ### Levels -/

/-- A level that a snapshot reports is assigned. -/
theorem GrantObject.merge_mirrors {object : GrantObject} (hstorable : object.key.IsStorable)
    (hparts : "" ∉ object.key.parts) {row : Row object.on.relation} (report : GrantReport) :
    Part.Mirrors ⟨object.assign report.identityName (some report.access), false⟩ store now False
      (fun db => object.row? db.contents = some row) (fun db => object.row? db.contents = some row)
      (Grants.merge object.on row.id report.identity report.access) := by
  intro before outcome after hrow hrun
  have hcalm := store.disturbance_undisturbed now
  have hrows : after.database.contents.get object.on.relation =
      before.database.contents.get object.on.relation := by
    have hgrant := (object.on.relation_ne_grant object.on).symm
    exact (evolution_of_ok (Grants.merge_within
      (allowsInsert_spares object.on.relation_ne_identity.symm) (allowsInsert_spares hgrant)
      (allowsUpdates_spares hgrant)) hrun).get_eq
  refine .inl ⟨(object.row?_congr hrows).trans hrow, ?_⟩
  let start : Progress := ⟨before.database, false⟩
  obtain ⟨later, hrun', hlater⟩ :=
    (Grants.merge_blind hcalm object.on row.id report.identity report.access).ok hrun start rfl
  have hnumber : object.number (store.environment now .undisturbed) start = .ok row.id start :=
    object.number_ok hcalm hstorable hrow
  have hassign : Grants.assign object.on row.id report.identity (some report.access)
      (store.environment now .undisturbed) start = .ok () later := bind_ok hrun' _
  have hscript : (object.assign report.identityName (some report.access)).plan.script
      (store.environment now .undisturbed) start = .ok .done later := by
    rw [object.script_assign]
    exact map_ok (transaction_ok ((bind_ok hnumber _).trans hassign)) Reply.ofUnit
  have hvalid : (object.assign report.identityName (some report.access)).plan.subject.isValid =
      true := by
    rw [object.subject_assign]
    exact Key.isValid_subject hparts
  exact ⟨_, hlater ▸ Store.perform_ok hready hvalid hscript, rfl⟩

/-- What a snapshot reports is assigned, one level after another. -/
theorem GrantObject.attempt_of_mergeReports {object : GrantObject}
    (hstorable : object.key.IsStorable) (hparts : "" ∉ object.key.parts)
    {row : Row object.on.relation} {reports : List GrantReport} {outcomes : List Merge}
    {before after : Progress} (hrow : object.row? before.database.contents = some row)
    (h : Grants.mergeReports object.on row.id reports (store.environment now .undisturbed) before =
      .ok outcomes after) :
    object.row? after.database.contents = some row ∧
      store.attempt now (reports.map fun report =>
        ⟨object.assign report.identityName (some report.access), false⟩) before.database =
          (none, after.database) := by
  let holds : List GrantReport → Database → Prop := fun _ db => object.row? db.contents = some row
  have hholds : holds reports before.database := hrow
  exact (Store.attempt_of_each_ok
    (fun report _ _ => merge_mirrors hready hstorable hparts report) hholds h).resolve_right
      fun hbreaks => hbreaks.1

/-! ### Entities that may exist already -/

/-- A cloud that is merged is added, unless it exists already. -/
theorem Clouds.perform_add_of_insertNew {draft : Cloud.Draft} (hplain : draft.regions = [])
    (hkey : "" ∉ (Key.cloud draft.name).parts) {db : Database} (hsound : db.Sound)
    (hreadable : db.contents.IsReadable)
    (hback : Entry.AreReadBack [draft.entry] (db.contents.get .cloud)) {outcome : Merge}
    {after : Progress} (h : insertNew draft.entry (store.environment now .undisturbed) ⟨db, false⟩ =
      .ok outcome after) :
    ∃ answer, store.perform now .undisturbed (.addCloud draft) db = (answer, after.database) ∧
      Part.rejection? ⟨.addCloud draft, true⟩ answer = none := by
  have hcalm := store.disturbance_undisturbed now
  have hvalid : (Operation.addCloud draft).plan.subject.isValid = true := Key.isValid_subject hkey
  rcases insert_of_insertNew hcalm Relation.cloud_isKeyed h with
    ⟨row, hinsert⟩ | ⟨name, detail, hinsert, hcontents, -⟩
  · have hinserted := inserted_of_insert (.refl _) hinsert (.refl _)
    obtain ⟨found, hfind, -⟩ := Contents.find?_origin_eq_some
      ⟨row, hinserted.mem, Storable.origin_of_stored? hinserted.stored⟩
    obtain ⟨cloud, hget, -⟩ :=
      get_eq_ok hcalm (Storable.stored?_origin hinserted.stored) hfind
    let start : Progress := ⟨db, false⟩
    have hbefore : start.database.Sound := hsound
    have hback : Entry.AreReadBack [draft.entry] (start.database.contents.get .cloud) := hback
    have hdraft := isReadable_of_areReadBack Relation.cloud_isKeyed hback hinsert
    obtain ⟨hafter, hdistinct⟩ := isReadable_of_insert hbefore hreadable hdraft hinsert
    have hread := readBack_ok hafter hdistinct hget
    have hscript : (Operation.addCloud draft).plan.script (store.environment now .undisturbed)
        ⟨db, false⟩ = .ok (.ofCloud cloud) after := by
      refine map_ok (transaction_ok ?_) Reply.ofCloud
      rw [bind_ok hinsert, hplain]
      exact hread
    exact ⟨_, Store.perform_ok hready hvalid hscript, rfl⟩
  · have hscript : (Operation.addCloud draft).plan.script (store.environment now .undisturbed)
        ⟨db, false⟩ = .error (.failed (.duplicate name detail) none) _ :=
      map_error (transaction_error (bind_error hinsert _)) Reply.ofCloud
    have hperform := Store.perform_of_error hready hvalid hscript
    rw [← show after.database.contents = db.contents from hcontents] at hperform
    exact ⟨_, hperform, Part.rejection?_duplicate _ _ name detail _⟩

omit hready in
/-- A credential refers to its owner, so where it is stored the owner is not created. -/
theorem Credentials.contents_of_prepare {db : Database} (hsound : db.Sound) {key : CredentialKey}
    {middle : Progress}
    (hprepare : prepare key (store.environment now .undisturbed) ⟨db, false⟩ = .ok () middle)
    (hstored : ∃ row ∈ middle.database.contents.get .credential, row.origin = key) :
    middle.database.contents = db.contents := by
  obtain ⟨row, hrow, horigin⟩ := hstored
  have hcredentials : middle.database.contents.get .credential = db.contents.get .credential :=
    (evolution_of_ok (prepare_within (allowsInsert_spares (by decide))) hprepare).get_eq
  rw [hcredentials] at hrow
  obtain ⟨owner, howner, hrefers⟩ := hsound.closed.exists_row hrow
    (List.mem_cons_of_mem _ List.mem_cons_self) fun _ => of_decide_eq_true
  obtain ⟨_, start, hcloud, hrun⟩ := of_bind_eq_ok hprepare
  obtain ⟨_, -, -, rfl⟩ := of_queryOne_eq_ok (of_about_eq_ok hcloud)
  obtain ⟨_, _, hensure, hrun⟩ := of_bind_eq_ok hrun
  cases hrun
  rw [Identities.ensure, bind_ok (read_ok _ _)] at hensure
  refine contents_of_insertNew Relation.identity_isKeyed hensure ⟨owner, howner, ?_⟩
  rw [← hrefers, horigin]
  rfl

/-- A credential that is merged once its owner is there is added, unless it exists already. -/
theorem Credentials.perform_add_of_insertNew {given : Entry .credential}
    (hparts : "" ∉ given.origin.parts) {db : Database} (hsound : db.Sound) {outcome : Merge}
    {middle after : Progress}
    (hprepare : prepare (Credential.sanitiseOwner given).origin (store.environment now .undisturbed)
      ⟨db, false⟩ = .ok () middle)
    (h : insertNew (Credential.sanitiseOwner given) (store.environment now .undisturbed) middle =
      .ok outcome after) :
    ∃ answer, store.perform now .undisturbed (.addCredential given) db =
        (answer, after.database) ∧
      Part.rejection? ⟨.addCredential given, true⟩ answer = none := by
  have hcalm := store.disturbance_undisturbed now
  have hkey : "" ∉ (Key.credential given.origin).parts := hparts
  have hvalid : (Operation.addCredential given).plan.subject.isValid = true :=
    Key.isValid_subject hkey
  rcases insert_of_insertNew hcalm Relation.credential_isKeyed h with
    ⟨row, hinsert⟩ | ⟨name, detail, hinsert, hcontents, hstored⟩
  · have hinserted := inserted_of_insert (.refl _) hinsert (.refl _)
    obtain ⟨credential, hread⟩ := Script.withId_ok
      (fun c => c.showsRows_credentials (Preload.credential "")) hcalm hinserted.mem
    have hscript : (Operation.addCredential given).plan.script
        (store.environment now .undisturbed) ⟨db, false⟩ =
          .ok (.ofCredential credential) after := by
      refine map_ok (transaction_ok ?_) Reply.ofCredential
      rw [bind_ok hprepare, bind_ok hinsert]
      exact hread
    exact ⟨_, Store.perform_ok hready hvalid hscript, rfl⟩
  · have hscript : (Operation.addCredential given).plan.script
        (store.environment now .undisturbed) ⟨db, false⟩ = .error (.failed (.duplicate name detail)
          none) { after with database := { after.database with contents := db.contents } } := by
      refine map_error (transaction_error ?_) Reply.ofCredential
      rw [bind_ok hprepare]
      exact bind_error hinsert _
    have hperform := Store.perform_of_error hready hvalid hscript
    have hmiddle := contents_of_prepare hsound hprepare hstored
    rw [← hmiddle, ← hcontents] at hperform
    exact ⟨_, hperform, Part.rejection?_duplicate _ _ name detail _⟩

end

end ControlPlane
