/-
Clouds are isolated from one another.

A statement avoids a portion of the database if the row that it writes, or every row that it means,
is not shown there; new identities hold no grants yet and do not count.  Nothing that is shown goes
with a row that is not, so such a statement leaves the portion alone, and so does any run of such
statements (`Database.Evolution.shownWith_eq`).  The statements of an operation that is addressed to
one cloud avoid what is shown with any other: it names rows by the cloud or its regions, or by
numbers that it has looked up there, and no number belongs to two rows.
-/
import ControlPlane.Proofs.Addition
import ControlPlane.Proofs.Answers
import ControlPlane.Proofs.GrantRuns
import ControlPlane.Proofs.Portions

namespace ControlPlane

open Script
open Database (Evolution)
open Statement (AllowsInsert AllowsUpdate AllowsDelete AllowsUpdates AllowsDeletes)

/-! ## Rows that are not shown -/

namespace Contents

variable {c after : Contents} {name : String} {r : Relation}

theorem isLinkOf_eq_false (hdistinct : c.Distinct) {region : Row .region}
    (hregion : region ∈ c.get .region) (hother : region.origin.cloud ≠ name) {link : Row .link}
    (hlink : link.origin.region = region.id) : c.isLinkOf name link = false := by
  refine List.any_eq_false.2 fun shown hshown h => hother ?_
  obtain ⟨hname, hid⟩ := Bool.and_eq_true_iff.1 h
  have hsame : shown = region :=
    hdistinct.eq hshown hregion ((of_decide_eq_true hid).trans hlink)
  rw [← hsame]
  exact of_decide_eq_true hname

theorem isGrantOn_eq_false (hdistinct : c.Distinct) {cloud : Row .cloud}
    (hcloud : cloud ∈ c.get .cloud) (hother : cloud.origin ≠ name) {grant : Row (.grant .cloud)}
    (hgrant : grant.origin.object = cloud.id) : c.isGrantOn name grant = false := by
  refine List.any_eq_false.2 fun shown hshown h => hother ?_
  obtain ⟨hname, hid⟩ := Bool.and_eq_true_iff.1 h
  have hsame : shown = cloud :=
    hdistinct.eq hshown hcloud ((of_decide_eq_true hid).trans hgrant)
  rw [← hsame]
  exact of_decide_eq_true hname

/-- Whether a row is shown depends on its number and its origin. -/
theorem isShownWith_congr {a b : Row r} (hid : a.id = b.id) (horigin : a.origin = b.origin) :
    c.isShownWith name r a = c.isShownWith name r b := by
  cases r with
  | grant on => cases on <;> simp only [isShownWith, isGrantOn, horigin]
  | _ => simp only [isShownWith, isLinkOf, hid, horigin]

/-! ## Statements -/

theorem shownWith_insert {row : Row r} (h : c.isShownWith name r row = false) :
    shownWith (c.set r (c.get r ++ [row])) name = c.shownWith name := by
  refine shownWith_eq fun q => ?_
  refine PerRelation.get_set_cases (P := fun q (rows : List (Row q)) =>
    rows.filter (c.isShownWith name q) = (c.get q).filter (c.isShownWith name q)) ?_
    (fun _ _ => rfl) q
  rw [List.filter_append, List.filter_cons_of_neg (ne_true_of_eq_false h), List.filter_nil,
    List.append_nil]

/-- An identity that was not there holds no grants. -/
theorem isShownWith_identity_eq_false (hclosed : c.Closed) {row : Row .identity}
    (hnew : ∀ old ∈ c.get .identity, old.origin ≠ row.origin) :
    c.isShownWith name .identity row = false := by
  refine List.any_eq_false.2 fun grant hgrant h => ?_
  obtain ⟨-, hholder⟩ := Bool.and_eq_true_iff.1 h
  obtain ⟨identity, hidentity, hname⟩ :=
    hclosed.exists_row (r := .grant .cloud) (P := fun identity : Row .identity =>
        identity.origin = grant.origin.identity) hgrant
      (.tail _ (.head _)) fun _ hrefers => (of_decide_eq_true hrefers).symm
  exact hnew identity hidentity (hname.trans (of_decide_eq_true hholder))

theorem shownWith_update (hdistinct : c.Distinct) {now : Timestamp} {which : Row r → Bool}
    {change : Settings r → Settings r} {written : Option (Row r)}
    (hupdate : c.update now which change = .ok (written, after))
    (h : ∀ row, which row = true → c.isShownWith name r row = false) :
    after.shownWith name = c.shownWith name := by
  rcases update_cases hupdate with ⟨-, rfl⟩ | ⟨row, new, hfind, -, hnew, -, rfl⟩
  · rfl
  have hrow : row ∈ c.get r := List.mem_of_find?_eq_some hfind
  have hid : new.id = row.id := by rw [hnew]
  have hhidden : c.isShownWith name r row = false := h row (List.find?_some hfind)
  have hhidden' : c.isShownWith name r new = false := by
    rw [isShownWith_congr hid (by rw [hnew]), hhidden]
  refine shownWith_eq fun q => ?_
  refine PerRelation.get_set_cases (P := fun q (rows : List (Row q)) =>
    rows.filter (c.isShownWith name q) = (c.get q).filter (c.isShownWith name q)) ?_
    (fun _ _ => rfl) q
  have hother : ∀ other ∈ c.get r, c.isShownWith name r other = true → other.id ≠ new.id := by
    intro other hmem hshown heq
    rw [hdistinct.eq hmem hrow (heq.trans hid), hhidden] at hshown
    cases hshown
  have hkeeps : (c.get r).filter (c.isShownWith name r ∘
        fun other => if other.id = new.id then new else other) =
      (c.get r).filter (c.isShownWith name r) := by
    refine List.filter_congr fun other hmem => ?_
    rw [Function.comp_apply]
    split
    next heq => rw [hhidden', hdistinct.eq hmem hrow (heq.trans hid), hhidden]
    next => rfl
  rw [rewritten, List.filter_map, hkeeps]
  refine (List.map_congr_left fun other hmem => ?_).trans (List.map_id _)
  obtain ⟨hmem, hshown⟩ := List.mem_filter.1 hmem
  exact if_neg (hother other hmem hshown)

/-- Nothing that is shown goes with rows that are not. -/
theorem isShownWith_of_goes (hdistinct : c.Distinct)
    {meant : (q : Relation) → Row q → Prop}
    (hmeant : ∀ q row, meant q row → c.isShownWith name q row = false) {q : Relation} {row : Row q}
    (hgoes : Goes c meant q row) (hrow : row ∈ c.get q) : c.isShownWith name q row = false := by
  induction hgoes with
  | meant h => exact hmeant _ _ h
  | @cascade q row ref target href hcascades htarget hrefers hgoes ih =>
    have hhidden := ih htarget
    cases q <;> simp only [references, List.mem_cons, List.not_mem_nil, or_false] at href
    case region =>
      subst href
      have hcloud : row.origin.cloud = target.origin := of_decide_eq_true hrefers
      simpa [isShownWith, hcloud] using hhidden
    case controller =>
      subst href
      cases hcascades
    case link =>
      rcases href with rfl | rfl
      · have hregion : row.origin.region = target.id := of_decide_eq_true hrefers
        exact isLinkOf_eq_false hdistinct htarget (by simpa [isShownWith] using hhidden) hregion
      · have hcontroller : row.origin.controller = target.id := of_decide_eq_true hrefers
        have hnone := List.any_eq_false.1 hhidden row hrow
        simpa [isShownWith, hcontroller] using hnone
    case credential => rcases href with rfl | rfl <;> cases hcascades
    case model => rcases href with rfl | rfl | rfl | rfl <;> cases hcascades
    case grant on =>
      cases on with
      | model => rfl
      | credential => rfl
      | cloud =>
        rcases href with rfl | rfl
        · have hobject : row.origin.object = target.id := of_decide_eq_true hrefers
          exact isGrantOn_eq_false hdistinct htarget (by simpa [isShownWith] using hhidden) hobject
        · have hholder : row.origin.identity = target.origin := of_decide_eq_true hrefers
          have hnone := List.any_eq_false.1 hhidden row hrow
          simpa [isShownWith, hholder] using hnone

theorem shownWith_delete (hunique : c.Unique) (hclosed : c.Closed) (hdistinct : c.Distinct)
    {which : Row r → Bool} {found : Bool} (hdelete : c.delete which = .ok (found, after))
    (h : ∀ row, which row = true → c.isShownWith name r row = false) :
    after.shownWith name = c.shownWith name := by
  refine shownWith_eq fun q => ?_
  have hleft := without_of_delete hunique hclosed hdistinct hdelete q
  have hmeant : ∀ q row, Meant which q row → c.isShownWith name q row = false := by
    intro q row hmeant
    cases hmeant with
    | intro hwhich => exact h _ hwhich
  have hnodup : (c.get q).Nodup := (hdistinct q).imp fun hne heq => hne (congrArg Row.id heq)
  have hsubset : (c.get q).filter (c.isShownWith name q) ⊆
      (after.get q).filter (c.isShownWith name q) := by
    intro row hrow
    obtain ⟨hmem, hshown⟩ := List.mem_filter.1 hrow
    refine List.mem_filter.2 ⟨(hleft.mem_iff row hmem).2 fun hgoes => ?_, hshown⟩
    rw [isShownWith_of_goes hdistinct hmeant hgoes hmem] at hshown
    cases hshown
  exact (hleft.sublist.filter _).eq_of_length_le
    (List.subperm_of_subset (hnodup.filter _) hsubset).length_le

end Contents

/-- Whether a statement writes no row that is shown somewhere.  An identity that is inserted is new
and counts as none. -/
def Statement.Avoids (shown : (q : Relation) → Row q → Bool) : Statement → Prop
  | .insert (r := r) e =>
    r = .identity ∨ ∀ row : Row r, row.origin = e.origin → shown r row = false
  | .update (r := r) which _ => ∀ row : Row r, which row = true → shown r row = false
  | .delete (r := r) which => ∀ row : Row r, which row = true → shown r row = false

namespace Database

variable {now : Timestamp} {db after : Database} {name : String}

theorem Write.shownWith_eq {statement : Statement} (hsound : db.Sound)
    (havoids : statement.Avoids (db.contents.isShownWith name))
    (hwrite : Write now statement db after) :
    after.contents.shownWith name = db.contents.shownWith name := by
  cases hwrite with
  | @insert r _ e =>
    obtain ⟨-, ⟨failure, -, -, hcontents⟩ | ⟨row, -, hrow, hrefusal, hcontents⟩⟩ :=
      insert_cases (Prod.eta (db.insert now e)).symm
    · rw [hcontents]
    rw [hcontents]
    refine Contents.shownWith_insert ?_
    rcases havoids with rfl | hhidden
    · refine Contents.isShownWith_identity_eq_false hsound.closed fun old hold heq => ?_
      have hfree := (Contents.refusal?_eq_none.1 hrefusal).1 _ List.mem_cons_self old hold
      rw [hrow] at heq
      simp [Uniqueness.conflicts, heq] at hfree
    · exact hhidden row (by rw [hrow])
  | lose => rfl
  | update hupdate => exact Contents.shownWith_update hsound.distinct hupdate havoids
  | delete hdelete =>
    exact Contents.shownWith_delete hsound.unique hsound.closed hsound.distinct hdelete havoids

/-- Statements that avoid what is shown leave it alone, one after another. -/
theorem Evolution.shownWith_eq
    (h : Evolution now (Statement.Avoids (db.contents.isShownWith name)) db after)
    (hsound : db.Sound) : after.contents.shownWith name = db.contents.shownWith name := by
  generalize hshown : db.contents.isShownWith name = shown at h
  induction h with
  | refl => rfl
  | write havoids hwrite =>
    subst hshown
    exact hwrite.shownWith_eq hsound havoids
  | trans first _ ihfirst ihsecond =>
    have hmiddle := ihfirst hsound hshown
    have hshown' := (Contents.isShownWith_of_shownWith_eq hmiddle).trans hshown
    exact (ihsecond (first.sound hsound) hshown').trans hmiddle
  | undo => rfl

end Database

/-! ## Scripts -/

section

variable {env : Environment} {before after : Progress} {name : String} {r : Relation}
  {shown : (q : Relation) → Row q → Bool} {c : Contents}

theorem allowsInsert_avoids {e : Entry r}
    (h : ∀ row : Row r, row.origin = e.origin → shown r row = false) :
    AllowsInsert (Statement.Avoids shown) e := by
  intro kept hkept
  refine .inr fun row hrow => h row ?_
  exact hrow.trans (Storable.origin_of_stored? hkept)

theorem allowsInsert_identity (e : Entry .identity) : AllowsInsert (Statement.Avoids shown) e :=
  fun _ _ => .inl rfl

theorem allowsInsert_cloud {e : Entry .cloud} (h : e.origin ≠ name) :
    AllowsInsert (Statement.Avoids (c.isShownWith name)) e := by
  refine allowsInsert_avoids fun row hrow => decide_eq_false ?_
  rwa [hrow]

theorem allowsInsert_region {e : Entry .region} (h : e.origin.cloud ≠ name) :
    AllowsInsert (Statement.Avoids (c.isShownWith name)) e := by
  refine allowsInsert_avoids fun row hrow => decide_eq_false ?_
  rwa [hrow]

section

variable {κ σ : Type} [Storable κ] (hexact : Storable.IsExact κ)

include hexact

theorem allowsDelete_avoids {key : κ} {which : κ → Row r → Bool}
    (h : ∀ row, which key row = true → shown r row = false) :
    AllowsDelete (Statement.Avoids shown) key which := by
  intro kept hkept
  obtain rfl := hexact _ _ hkept
  exact h

/-- An update of rows that are told by the first of its parameters. -/
theorem allowsUpdate_avoids [Storable σ] {params : κ × σ} {which : κ × σ → Row r → Bool}
    {change : κ × σ → Settings r → Settings r}
    (h : ∀ kept row, kept.1 = params.1 → which kept row = true → shown r row = false) :
    AllowsUpdate (Statement.Avoids shown) params which change :=
  fun kept hkept row => h kept row (hexact _ _ (Storable.stored?_pair_eq_some.1 hkept).1)

end

/-- A deletion that fails where nothing is found. -/
theorem within_found {κ : Type} [Storable κ] {allowed : Statement → Prop} {params : κ}
    {which : κ → Row r → Bool} (h : AllowsDelete allowed params which) :
    Within env allowed (do
      let found ← delete params which
      unless found do fail .noRow : Script Unit) := by
  refine within_bind (within_delete _ _ h) fun found => ?_
  cases found with
  | false => exact within_fail _
  | true => exact within_pure _

/-- A script whose statements avoid what is shown leaves it alone. -/
theorem Script.shownWith_of_ok {α : Type} {body : Script α} {a : α}
    (hwithin : Within env (Statement.Avoids (before.database.contents.isShownWith name)) body)
    (hsound : before.database.Sound) (h : body env before = .ok a after) :
    after.database.contents.shownWith name = before.database.contents.shownWith name :=
  (evolution_of_ok hwithin h).shownWith_eq hsound

namespace Grants

variable {on : Grantable} {object : Int}
  (h : ∀ row : Row (.grant on), row.origin.object = object → shown (.grant on) row = false)

include h

theorem merge_avoids (identity : String) (access : Access) :
    Within env (Statement.Avoids shown) (merge on object identity access) := by
  refine within_bind (Identities.ensure_within (allowsInsert_identity _)) fun _ => ?_
  refine within_insertOrChange (allowsInsert_avoids fun row hrow => h row (by rw [hrow]))
    (allowsUpdate_avoids Storable.isExact_int fun kept row hobject hrow => h row ?_)
  have horigin := of_decide_eq_true (Bool.and_eq_true_iff.1 hrow).1
  rw [horigin, hobject]

theorem mergeReports_avoids (reports : List GrantReport) :
    Within env (Statement.Avoids shown) (mergeReports on object reports) :=
  within_each fun report _ => merge_avoids h _ report.access

theorem assign_avoids (identity : String) (access : Option Access) :
    Within env (Statement.Avoids shown) (assign on object identity access) := by
  cases access with
  | some level => exact within_bind (merge_avoids h identity level) fun _ => within_pure _
  | none =>
    refine within_bind (within_delete _ _ ?_) fun _ => within_pure _
    refine allowsDelete_avoids (Storable.isExact_pair Storable.isExact_int Storable.isExact_text)
      fun row hrow => h row ?_
    rw [of_decide_eq_true hrow]

end Grants

namespace Links

variable {region : Int}
  (h : ∀ row : Row .link, row.origin.region = region → shown .link row = false)

include h

theorem merge_avoids (controller priority : Int) :
    Within env (Statement.Avoids shown) (merge region controller priority) := by
  refine within_insertOrChange (allowsInsert_avoids fun row hrow => h row (by rw [hrow]))
    (allowsUpdate_avoids Storable.isExact_int fun kept row hregion hrow => h row ?_)
  have horigin := of_decide_eq_true (Bool.and_eq_true_iff.1 hrow).1
  rw [horigin, hregion]

theorem delete_avoids (controller : Int) :
    AllowsDelete (Statement.Avoids shown) (region, controller)
      fun p (row : Row .link) => row.origin = ⟨p.1, p.2⟩ := by
  refine allowsDelete_avoids (Storable.isExact_pair Storable.isExact_int Storable.isExact_int)
    fun row hrow => h row ?_
  rw [of_decide_eq_true hrow]

end Links

/-! ## Operations on clouds and regions -/

variable (hsound : before.database.Sound)

include hsound

theorem Clouds.shownWith_of_reconcile {snapshot : Cloud.Snapshot} {merged : Merged Cloud}
    (hother : snapshot.cloud.name ≠ name)
    (h : reconcile snapshot env before = .ok merged after) :
    after.database.contents.shownWith name = before.database.contents.shownWith name := by
  obtain ⟨outcome, regions, grants, row, first, middle, hcloud, -, hrow, hregions, hgrants, -⟩ :=
    of_reconcile_eq_ok h
  have hfirst : first.database.Sound :=
    sound_of_ok (within_insertNew fun _ _ => trivial) hcloud hsound
  have hmiddle : middle.database.Sound :=
    sound_of_ok (within_each fun _ _ => within_insertNew fun _ _ => trivial) hregions hfirst
  have hmem : row ∈ middle.database.contents.get .cloud := by
    rw [(evolution_of_ok (within_each fun _ _ => within_insertNew
      (allowsInsert_spares (by decide))) hregions).get_eq]
    exact List.mem_of_find?_eq_some hrow
  have hname : row.origin = snapshot.cloud.name := by simpa using List.find?_some hrow
  calc after.database.contents.shownWith name
    _ = middle.database.contents.shownWith name := by
      refine shownWith_of_ok (Grants.mergeReports_avoids (fun grant hgrant => ?_) _) hmiddle hgrants
      exact Contents.isGrantOn_eq_false hmiddle.distinct hmem (hname ▸ hother) hgrant
    _ = first.database.contents.shownWith name := by
      refine shownWith_of_ok (within_each fun region _ => ?_) hfirst hregions
      exact within_insertNew (allowsInsert_region hother)
    _ = before.database.contents.shownWith name :=
      shownWith_of_ok (within_insertNew (allowsInsert_cloud hother)) hsound hcloud

theorem Clouds.shownWith_of_assignGrant {cloud identity : String} {access : Option Access}
    (hother : cloud ≠ name) (h : assignGrant cloud identity access env before = .ok () after) :
    after.database.contents.shownWith name = before.database.contents.shownWith name := by
  obtain ⟨id, middle, hid, hassign⟩ := of_bind_eq_ok (of_transaction_eq_ok h)
  obtain ⟨row, hrow, rfl, rfl⟩ := of_number_eq_ok Storable.isExact_text hid
  have hname : row.origin = cloud := by simpa using List.find?_some hrow
  refine shownWith_of_ok (Grants.assign_avoids (fun grant hgrant => ?_) _ _) hsound hassign
  exact Contents.isGrantOn_eq_false hsound.distinct (List.mem_of_find?_eq_some hrow)
    (hname ▸ hother) hgrant

/-- A link with the number of a region that was looked up is one of that region. -/
theorem Regions.isLinkOf_eq_false {key : RegionKey} {id : Int} (hother : key.cloud ≠ name)
    (h : referredId key env before = .ok id after) :
    after = before ∧ ∀ link : Row .link, link.origin.region = id →
      before.database.contents.isLinkOf name link = false := by
  obtain ⟨row, hrow, rfl, rfl⟩ := of_number_eq_ok Storable.isExact_regionKey (of_about_eq_ok h)
  have hkey : row.origin = key := by simpa using List.find?_some hrow
  refine ⟨rfl, fun link => ?_⟩
  exact Contents.isLinkOf_eq_false hsound.distinct (List.mem_of_find?_eq_some hrow) (hkey ▸ hother)

theorem Links.shownWith_of_assign {region : RegionKey} {controller : ControllerKey}
    {priority : Int} {outcome : Merge} (hother : region.cloud ≠ name)
    (h : assign region controller priority env before = .ok outcome after) :
    after.database.contents.shownWith name = before.database.contents.shownWith name := by
  obtain ⟨id, first, hid, hrest⟩ := of_bind_eq_ok h
  obtain ⟨number, second, hnumber, hmerge⟩ := of_bind_eq_ok hrest
  obtain ⟨rfl, hhidden⟩ := Regions.isLinkOf_eq_false hsound hother hid
  obtain ⟨-, -, -, rfl⟩ := of_number_eq_ok Storable.isExact_controllerKey (of_about_eq_ok hnumber)
  exact shownWith_of_ok (merge_avoids hhidden _ _) hsound hmerge

theorem Links.shownWith_of_remove {region : RegionKey} {controller : ControllerKey}
    (hother : region.cloud ≠ name) (h : remove region controller env before = .ok () after) :
    after.database.contents.shownWith name = before.database.contents.shownWith name := by
  obtain ⟨id, first, hid, hrest⟩ := of_bind_eq_ok h
  obtain ⟨number, second, hnumber, hdelete⟩ := of_bind_eq_ok hrest
  obtain ⟨rfl, hhidden⟩ := Regions.isLinkOf_eq_false hsound hother hid
  obtain ⟨-, -, -, rfl⟩ := of_number_eq_ok Storable.isExact_controllerKey (of_about_eq_ok hnumber)
  exact shownWith_of_ok (within_found (delete_avoids hhidden _)) hsound hdelete

end

namespace Operation

/-- The cloud to which an operation is addressed, by its name or by the key of one of its
regions. -/
def cloud? : Operation → Option String
  | .addCloud draft => some draft.name
  | .getCloud name => some name
  | .updateCloud name _ => some name
  | .deleteCloud name => some name
  | .reconcileCloud snapshot => some snapshot.cloud.name
  | .addRegionToCloud entry => some entry.origin.cloud
  | .assignCloudGrant cloud _ _ => some cloud
  | .addRegion entry => some entry.origin.cloud
  | .getRegion key => some key.cloud
  | .updateRegion key _ => some key.cloud
  | .deleteRegion key => some key.cloud
  | .assignPriority region _ _ => some region.cloud
  | .removePriority region _ => some region.cloud
  | _ => none

/-- An operation that is addressed to one cloud leaves alone what is shown with another. -/
theorem shownWith_of_ok {env : Environment} {before after : Progress} {op : Operation}
    {reply : Reply} {cloud name : String} (hsound : before.database.Sound)
    (hcloud : op.cloud? = some cloud) (hother : cloud ≠ name)
    (hrun : op.plan.script env before = .ok reply after) :
    after.database.contents.shownWith name = before.database.contents.shownWith name := by
  cases op <;> cases hcloud
  case addCloud draft =>
    refine Script.shownWith_of_ok (within_map _ (Clouds.add_within ?_ fun region _ => ?_))
      hsound hrun
    · exact allowsInsert_cloud hother
    · exact allowsInsert_region hother
  case getCloud =>
    exact Script.shownWith_of_ok (within_map _ (within_queryOne _ _)) hsound hrun
  case updateCloud settings =>
    refine Script.shownWith_of_ok (within_map _ (Clouds.overwrite_within ?_)) hsound hrun
    refine allowsUpdate_avoids Storable.isExact_text fun kept row hname hrow => decide_eq_false ?_
    rwa [of_decide_eq_true hrow, hname]
  case deleteCloud =>
    refine Script.shownWith_of_ok (within_map _ (within_found ?_)) hsound hrun
    refine allowsDelete_avoids Storable.isExact_text fun row hrow => decide_eq_false ?_
    rwa [of_decide_eq_true hrow]
  case reconcileCloud snapshot =>
    obtain ⟨merged, hreconcile, -⟩ := of_map_eq_ok hrun
    exact Clouds.shownWith_of_reconcile hsound hother hreconcile
  case addRegionToCloud entry =>
    exact Script.shownWith_of_ok
      (within_map _ (Regions.add_within (allowsInsert_region hother))) hsound hrun
  case assignCloudGrant identity access =>
    obtain ⟨_, hassign, -⟩ := of_map_eq_ok hrun
    exact Clouds.shownWith_of_assignGrant hsound hother hassign
  case addRegion entry =>
    exact Script.shownWith_of_ok
      (within_map _ (Regions.add_within (allowsInsert_region hother))) hsound hrun
  case getRegion key =>
    exact Script.shownWith_of_ok (within_map _ (within_queryOne _ _)) hsound hrun
  case updateRegion key settings =>
    refine Script.shownWith_of_ok (within_map _ (Regions.overwrite_within ?_)) hsound hrun
    refine allowsUpdate_avoids Storable.isExact_regionKey fun kept row hkey hrow =>
      decide_eq_false ?_
    rwa [of_decide_eq_true hrow, hkey]
  case deleteRegion key =>
    refine Script.shownWith_of_ok (within_map _ (within_found ?_)) hsound hrun
    refine allowsDelete_avoids Storable.isExact_regionKey fun row hrow => decide_eq_false ?_
    rwa [of_decide_eq_true hrow]
  case assignPriority region controller priority =>
    obtain ⟨_, hassign, -⟩ := of_map_eq_ok hrun
    exact Links.shownWith_of_assign hsound hother hassign
  case removePriority region controller =>
    obtain ⟨_, hremove, -⟩ := of_map_eq_ok hrun
    exact Links.shownWith_of_remove hsound hother hremove

end Operation

theorem Store.shownWith_perform {store : Store} {now : Timestamp} {course : Course}
    {op : Operation} {db : Database} {cloud name : String} (hsound : db.Sound)
    (hcloud : op.cloud? = some cloud) (hother : cloud ≠ name) :
    (store.perform now course op db).2.contents.shownWith name = db.contents.shownWith name := by
  cases hresult : (store.perform now course op db).1 with
  | error e => rw [contents_of_perform_error hresult]
  | ok reply =>
    obtain ⟨-, -, after, hrun, hafter⟩ := of_perform_eq_ok hresult
    rw [hafter]
    exact Operation.shownWith_of_ok hsound hcloud hother hrun

/-! ## Answers -/

namespace Deployment

variable {dep dep' : Deployment}

theorem answer_getCloud (hdep : dep.Reachable) (hdep' : dep'.Reachable)
    (hstore : dep'.store = dep.store) {name : String}
    (h : dep'.server.database.contents.shownWith name =
      dep.server.database.contents.shownWith name) (now : Timestamp) (course : Course) :
    (dep'.perform now course (.getCloud name)).1 = (dep.perform now course (.getCloud name)).1 := by
  have hcloud : dep'.server.database.contents.cloud? name =
      dep.server.database.contents.cloud? name := by
    rw [← Contents.cloud?_shownWith hdep'.sound.allDistinct, h,
      Contents.cloud?_shownWith hdep.sound.allDistinct]
  refine (getCloud_alike hstore (rel_eq_of_eq hcloud) now course).eq ?_
  rintro a b ⟨x, y, rfl, rfl, rfl⟩
  rfl

theorem answer_getRegion (hdep : dep.Reachable) (hdep' : dep'.Reachable)
    (hstore : dep'.store = dep.store) {key : RegionKey}
    (h : dep'.server.database.contents.shownWith key.cloud =
      dep.server.database.contents.shownWith key.cloud) (now : Timestamp) (course : Course) :
    (dep'.perform now course (.getRegion key)).1 = (dep.perform now course (.getRegion key)).1 := by
  have hregion : dep'.server.database.contents.region? key =
      dep.server.database.contents.region? key := by
    rw [← Contents.region?_shownWith hdep'.sound.allDistinct, h,
      Contents.region?_shownWith hdep.sound.allDistinct]
  refine (getRegion_alike hstore (rel_eq_of_eq hregion) now course).eq ?_
  rintro a b ⟨x, y, rfl, rfl, rfl⟩
  rfl

/-- An operation that is addressed to a cloud leaves the answers about every other cloud and its
regions as they were, whatever its arguments are and whatever comes of it. -/
theorem Reachable.clouds_isolated (h : dep.Reachable) {op : Operation}
    {cloud other : String} (hcloud : op.cloud? = some cloud) (hother : cloud ≠ other)
    (now : Timestamp) (course : Course) :
    let after := (dep.perform now course op).2
    (∀ now' course', (after.perform now' course' (.getCloud other)).1 =
      (dep.perform now' course' (.getCloud other)).1) ∧
    ∀ region now' course', (after.perform now' course' (.getRegion ⟨other, region⟩)).1 =
      (dep.perform now' course' (.getRegion ⟨other, region⟩)).1 := by
  intro after
  have hstore : after.store = dep.store := store_perform ..
  have hafter : after.Reachable := h.run [.perform now course op]
  have hshown : after.server.database.contents.shownWith other =
      dep.server.database.contents.shownWith other := by
    rw [database_perform]
    exact Store.shownWith_perform h.sound hcloud hother
  exact ⟨answer_getCloud h hafter hstore hshown,
    fun region => answer_getRegion h hafter hstore hshown⟩

/-- A controller on one cloud serves a region of another, where an identity of both is granted
access. -/
theorem Reachable.clouds_isolated_gcp :
    let draft (name : String) : Cloud.Draft :=
      ⟨name, ⟨"", "", [], .none, [], .empty⟩, [⟨"west", .none, .empty⟩]⟩
    let dep := (initial .default).run
      [.migrate .undisturbed false,
        .perform ⟨0, 0⟩ .undisturbed (.addCloud (draft "aws")),
        .perform ⟨0, 0⟩ .undisturbed (.addCloud (draft "gcp")),
        .perform ⟨60, 0⟩ .undisturbed (.addController
          ⟨⟨"one", ⟨1⟩, ⟨"gcp", "west"⟩⟩, ⟨"", "", "", "", false, "", [], none, .empty⟩,
            [⟨⟨"gcp", "west"⟩, 7⟩]⟩),
        .perform ⟨60, 0⟩ .undisturbed (.assignCloudGrant "gcp" "ann" (some .admin))]
    let link : Operation := .assignPriority ⟨"aws", "west"⟩ (.name "one") 3
    let grant : Operation := .assignCloudGrant "aws" "ann" (some .read)
    let linked := dep.perform ⟨120, 0⟩ .undisturbed link
    let granted := linked.2.perform ⟨180, 0⟩ .undisturbed grant
    linked.1.toOption.isSome = true ∧ granted.1.toOption.isSome = true ∧
      (granted.2.perform ⟨240, 0⟩ .undisturbed (.getCloud "gcp")).1 =
        (dep.perform ⟨240, 0⟩ .undisturbed (.getCloud "gcp")).1 ∧
      (granted.2.perform ⟨240, 0⟩ .undisturbed (.getRegion ⟨"gcp", "west"⟩)).1 =
        (dep.perform ⟨240, 0⟩ .undisturbed (.getRegion ⟨"gcp", "west"⟩)).1 := by
  intro draft dep link grant linked granted
  have hreachable : dep.Reachable := ⟨.default, _, rfl⟩
  have hnext : linked.2.Reachable := hreachable.run [.perform ⟨120, 0⟩ .undisturbed link]
  have hlink : link.cloud? = some "aws" := rfl
  have hgrant : grant.cloud? = some "aws" := rfl
  have hother : "aws" ≠ "gcp" := by decide
  obtain ⟨hcloud, hregion⟩ := hreachable.clouds_isolated hlink hother ⟨120, 0⟩ .undisturbed
  obtain ⟨hcloudNext, hregionNext⟩ := hnext.clouds_isolated hgrant hother ⟨180, 0⟩ .undisturbed
  have hlinked : linked.1.toOption.isSome = true := by decide +kernel
  have hgranted : granted.1.toOption.isSome = true := by decide +kernel
  exact ⟨hlinked, hgranted, (hcloudNext _ _).trans (hcloud _ _),
    (hregionNext "west" _ _).trans (hregion "west" _ _)⟩

end Deployment
end ControlPlane
