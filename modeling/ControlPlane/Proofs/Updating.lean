/-
Updates of entities, among retrievals and other updates.

An update that succeeds answers the entity with the settings that were asked for, and every key of
that entity reads the same.  An update with what was read changes nothing but the time, and of two
updates one after the other only the last one stays.  A key outlives all updates of its entity, with
one exception: the identifier of a model is among its settings, so an update may take away the very
key under which it was asked for (`Key.Survives`).
-/
import ControlPlane.Proofs.Revision

namespace ControlPlane

open IdentityName (sanitise)
open Script

namespace Key

variable {key : Key} {settings kept : Settings key.relation} {row : Row key.relation}
  {now : Timestamp}

/-- Whether an entity with these settings still has the key under which they were asked for: only
the identifier of a model can be given up. -/
def Survives : (key : Key) → Settings key.relation → Prop
  | model (.uuid u), settings => settings.uuid = some u
  | _, _ => True

theorem names_revised_iff (hnames : key.Names row.toEntry)
    (hkept : stored? (key.asked settings) = some kept) :
    key.Names (row.revised kept now).toEntry ↔ key.Survives settings := by
  cases key with
  | model key =>
    cases key with
    | uuid u =>
      have huuid : kept.uuid = settings.uuid := Storable.uuid_of_stored? hkept
      show kept.uuid = some u ↔ settings.uuid = some u
      rw [huuid]
    | ownerName owner name => exact ⟨fun _ => trivial, fun _ => hnames⟩
  | controller key =>
    cases key with
    | uuid u => exact ⟨fun _ => trivial, fun _ => hnames⟩
    | name name => exact ⟨fun _ => trivial, fun _ => hnames⟩
  | cloud name => exact ⟨fun _ => trivial, fun _ => hnames⟩
  | region key => exact ⟨fun _ => trivial, fun _ => hnames⟩
  | credential key => exact ⟨fun _ => trivial, fun _ => hnames⟩
  | identity name => exact ⟨fun _ => trivial, fun _ => hnames⟩

/-- Settled settings are what is asked for with them, and what is stored of them. -/
theorem asked_of_settled (hsettled : row.toEntry.IsSettled) (hnames : key.Names row.toEntry) :
    key.asked row.settings = row.settings ∧ stored? row.settings = some row.settings := by
  cases key with
  | identity name =>
    obtain ⟨hstored, hdisplay⟩ := hsettled
    have hname : row.origin = sanitise name := hnames
    rw [hname] at hdisplay
    exact ⟨congrArg (fun d => { row.settings with displayName := d }) hdisplay, hstored⟩
  | _ => exact ⟨rfl, hsettled⟩

/-- After a revision a key names at most the row that was revised. -/
theorem eq_revised_of_names {before after : Contents} (hunique : before.Unique)
    (hrevised : Contents.Revised before after row kept now) (hnames : key.Names row.toEntry)
    {other : Row key.relation} (hother : other ∈ after.get key.relation)
    (hnames' : key.Names other.toEntry) : other = row.revised kept now := by
  rw [hrevised.rows] at hother
  obtain ⟨old, hold, rfl⟩ := List.mem_map.1 hother
  by_cases hid : old.id = (row.revised kept now).id
  · rw [if_pos hid]
  · rw [if_neg hid] at hnames'
    exact absurd (congrArg Row.id (eq_of_names hunique hold hrevised.mem hnames' hnames)) hid

/-- A key that names no row finds nothing. -/
theorem perform_retrieval_absent {store : Store} {db : Database}
    (hready : store.lifecycle = .ready) (hvalid : key.subject.isValid = true)
    (hstorable : key.IsStorable) (hnone : key.row? db.contents = none) (now : Timestamp) :
    (store.perform now .undisturbed key.retrieval db).1 =
      .error (.notFound key.retrieval.plan.name key.subject) := by
  rw [← subject_retrieval] at hvalid
  rw [Store.perform_of_error hready hvalid (retrieval_error rfl hstorable hnone),
    ← subject_retrieval]
  rfl

end Key

namespace Deployment
namespace Reachable

variable {dep : Deployment} (hreachable : dep.Reachable) {key : Key}
  {settings : Settings key.relation} {row : Row key.relation}

include hreachable

theorem perform (now : Timestamp) (course : Course) (op : Operation) :
    (dep.perform now course op).2.Reachable :=
  hreachable.run [.perform now course op]

/-- A key that could belong to something belongs to no row whose own key has an empty part. -/
theorem keyParts_nonempty_of_isValid (hvalid : key.subject.isValid = true)
    (hrow : row ∈ dep.server.database.contents.get key.relation)
    (hnames : key.Names row.toEntry) : "" ∉ keyParts key.relation row.origin := by
  have hothers (hregion : key.relation ≠ .region) (hidentity : key.relation ≠ .identity) :=
    hreachable.keyParts_nonempty_of_ne hregion hidentity hrow
  cases key with
  | region key =>
    rw [hnames]
    exact Subject.isValid_ofParts.1 hvalid
  | identity name =>
    rw [hnames]
    exact Subject.isValid_ofKey.1 hvalid
  | _ => exact hothers nofun nofun

/-- What an update that succeeds has come to. -/
theorem of_perform_revision {now : Timestamp} {course : Course} {reply : Reply}
    (h : (dep.perform now course (key.revision settings)).1 = .ok reply) :
    dep.store.lifecycle = .ready ∧ key.subject.isValid = true ∧
      ∃ row kept entity, reply = .entity entity ∧
        key.Overwrites settings now dep.server.database.contents
          (dep.perform now course (key.revision settings)).2.server.database.contents row kept
          entity := by
  obtain ⟨hready, hvalid, after, hrun, hafter⟩ := Store.of_perform_eq_ok h
  rw [Key.subject_revision] at hvalid
  rw [database_perform, hafter]
  exact ⟨hready, hvalid, Key.of_revision_eq_ok hreachable.sound hrun⟩

/-- An update that nothing interrupts succeeds if the constraints have nothing against the new
row and its documents are readable. -/
theorem perform_revision_ok (hready : dep.store.lifecycle = .ready)
    (hvalid : key.subject.isValid = true)
    (hrow : key.row? dep.server.database.contents = some row) {kept : Settings key.relation}
    (hkept : stored? (key.asked settings) = some kept) (now : Timestamp)
    (hfits : dep.server.database.contents.CanReplace row (row.revised kept now).toEntry)
    (hnew : (row.revised kept now).isReadable = true) :
    ∃ entity, (dep.perform now .undisturbed (key.revision settings)).1 = .ok (.entity entity) ∧
      key.Overwrites settings now dep.server.database.contents
        (dep.perform now .undisturbed (key.revision settings)).2.server.database.contents row kept
        entity := by
  obtain ⟨hmem, hnames⟩ := Key.names_of_row? hrow
  have hstorable := Key.isStorable_of_names (hreachable.stored?_origin hmem) hnames
  have hcalm : (dep.store.environment now .undisturbed).disturbance = none := rfl
  let start : Progress := ⟨dep.server.database, false⟩
  have hsound : start.database.Sound := hreachable.sound
  obtain ⟨reply, after, hrun⟩ := Key.revision_ok hcalm hsound hreachable.isReadable hstorable hrow
    hkept hfits hnew
  rw [← Key.subject_revision key settings] at hvalid
  have hreply : (dep.perform now .undisturbed (key.revision settings)).1 = .ok reply :=
    congrArg Prod.fst (Store.perform_ok hready hvalid hrun)
  obtain ⟨-, -, found, stored, entity, rfl, hoverwrites⟩ := hreachable.of_perform_revision hreply
  obtain rfl := Option.some.inj (hrow.symm.trans hoverwrites.found)
  obtain rfl := Option.some.inj (hkept.symm.trans hoverwrites.stored)
  exact ⟨entity, hreply, hoverwrites⟩

/-! ## An update and a retrieval -/

/-- Every key of an entity that was updated reads what the update answered. -/
theorem retrieval_of_revision {now : Timestamp} {course : Course} {reply : Reply}
    (h : (dep.perform now course (key.revision settings)).1 = .ok reply)
    {kept : Settings key.relation} {entity : Entity}
    (hoverwrites : key.Overwrites settings now dep.server.database.contents
      (dep.perform now course (key.revision settings)).2.server.database.contents row kept entity)
    (other : Key) (new : Row other.relation) (hshows : entity.Shows new)
    (hnames : other.Names new.toEntry) (moment : Timestamp) :
    ((dep.perform now course (key.revision settings)).2.perform moment .undisturbed
      other.retrieval).1 = .ok (.entity entity) := by
  obtain ⟨hready, hvalid, -⟩ := hreachable.of_perform_revision h
  obtain ⟨hmem, hnamed⟩ := Key.names_of_row? hoverwrites.found
  have hready' : (dep.perform now course (key.revision settings)).2.store.lifecycle = .ready := by
    rw [store_perform]
    exact hready
  have hparts := hreachable.keyParts_nonempty_of_isValid hvalid hmem hnamed
  -- The new row has the origin of the old one.
  have hsame : keyParts key.relation row.origin = keyParts other.relation new.origin :=
    congrArg (fun shown : (r : Relation) × Row r => keyParts shown.1 shown.2.origin)
      ((Contents.shows_of_entityOf? hoverwrites.shown).eq hshows)
  rw [hsame] at hparts
  obtain ⟨hmem', hshown⟩ :=
    Contents.mem_of_shows hoverwrites.revised.mem_after hoverwrites.shown hshows
  exact (hreachable.perform now course _).perform_retrieval other hready' hmem' hnames hparts hshown
    moment

/-- A key that its entity has given up finds nothing. -/
theorem retrieval_of_revision_absent {now : Timestamp} {course : Course} {reply : Reply}
    (h : (dep.perform now course (key.revision settings)).1 = .ok reply)
    (hgone : ¬key.Survives settings) (moment : Timestamp) :
    ((dep.perform now course (key.revision settings)).2.perform moment .undisturbed
      key.retrieval).1 = .error (.notFound key.retrieval.plan.name key.subject) := by
  obtain ⟨hready, hvalid, row, kept, entity, -, hoverwrites⟩ := hreachable.of_perform_revision h
  obtain ⟨hmem, hnames⟩ := Key.names_of_row? hoverwrites.found
  have hready' : (dep.perform now course (key.revision settings)).2.store.lifecycle = .ready := by
    rw [store_perform]
    exact hready
  refine Key.perform_retrieval_absent hready' hvalid
    (Key.isStorable_of_names (hreachable.stored?_origin hmem) hnames)
    (Key.row?_eq_none.2 fun other hother hnames' => hgone ?_) moment
  rw [Key.eq_revised_of_names hreachable.sound.unique hoverwrites.revised hnames hother hnames']
    at hnames'
  exact (Key.names_revised_iff hnames hoverwrites.stored).1 hnames'

/-- An update with what a retrieval read changes nothing but the time. -/
theorem revision_of_retrieval {now : Timestamp} {course : Course} {entity : Entity}
    (h : (dep.perform now course key.retrieval).1 = .ok (.entity entity)) :
    ∃ row ∈ dep.server.database.contents.get key.relation, key.Names row.toEntry ∧
      entity.Shows row ∧ ∀ moment,
        let call := dep.perform moment .undisturbed (key.revision row.settings)
        (∃ shown, call.1 = .ok (.entity shown) ∧
          shown.Shows (row.revised row.settings moment)) ∧
        Contents.Revised dep.server.database.contents call.2.server.database.contents row
          row.settings moment := by
  obtain ⟨hready, row, hrow, hnames, shown, hreply, hshown⟩ :=
    hreachable.of_perform_retrieval key h
  cases hreply
  obtain ⟨-, hvalid, -⟩ := Store.of_perform_eq_ok h
  rw [Key.subject_retrieval] at hvalid
  have hsound := hreachable.sound
  refine ⟨row, hrow, hnames, Contents.shows_of_entityOf? hshown, fun moment => ?_⟩
  obtain ⟨hasked, hstored⟩ :=
    Key.asked_of_settled (hreachable.settled key.relation row hrow) hnames
  have hkept : stored? (key.asked row.settings) = some row.settings := hasked.symm ▸ hstored
  obtain ⟨after, hafter, hoverwrites⟩ := hreachable.perform_revision_ok hready hvalid
    (Key.row?_eq_some hsound.unique hrow hnames) hkept moment
    (Contents.canReplace_self hsound.unique hsound.closed hrow)
    (hreachable.isReadable key.relation row hrow)
  exact ⟨⟨after, hafter, Contents.shows_of_entityOf? hoverwrites.shown⟩, hoverwrites.revised⟩

/-! ## Two updates -/

/-- Of two updates one after the other the last one stays, and it would have succeeded alone. -/
theorem revision_of_revision {now : Timestamp} {course : Course} {reply : Reply}
    (h : (dep.perform now course (key.revision settings)).1 = .ok reply)
    {kept : Settings key.relation} {entity : Entity}
    (hoverwrites : key.Overwrites settings now dep.server.database.contents
      (dep.perform now course (key.revision settings)).2.server.database.contents row kept entity)
    {again : Settings key.relation} {later : Timestamp} {course' : Course} {reply' : Reply}
    (h' : ((dep.perform now course (key.revision settings)).2.perform later course'
      (key.revision again)).1 = .ok reply') :
    ∃ last, stored? (key.asked again) = some last ∧
      Contents.Revised dep.server.database.contents
        ((dep.perform now course (key.revision settings)).2.perform later course'
          (key.revision again)).2.server.database.contents row last later ∧
      ∀ moment, ∃ shown,
        (dep.perform moment .undisturbed (key.revision again)).1 = .ok (.entity shown) ∧
          key.Overwrites again moment dep.server.database.contents
            (dep.perform moment .undisturbed (key.revision again)).2.server.database.contents row
            last shown := by
  obtain ⟨hready, hvalid, -⟩ := hreachable.of_perform_revision h
  have hupdated := hreachable.perform now course (key.revision settings)
  obtain ⟨-, -, found, last, shown, -, hagain⟩ := hupdated.of_perform_revision h'
  obtain ⟨-, hnames⟩ := Key.names_of_row? hoverwrites.found
  obtain ⟨hfound, hnames'⟩ := Key.names_of_row? hagain.found
  -- The second update has met the row that the first one left.
  obtain rfl := Key.eq_revised_of_names hreachable.sound.unique hoverwrites.revised hnames hfound
    hnames'
  have hreadable : (row.revised last later).isReadable = true :=
    (hupdated.perform later course' (key.revision again)).isReadable key.relation _
      hagain.revised.mem_after
  refine ⟨last, hagain.stored, hoverwrites.revised.trans hagain.revised, fun moment => ?_⟩
  exact hreachable.perform_revision_ok hready hvalid hoverwrites.found hagain.stored moment
    (hoverwrites.revised.canReplace hagain.fits) hreadable

/-! ## Updates as overwriting -/

/-- An update that succeeds overwrites the settings of one row and answers the entity that shows it;
every key of that entity reads it then, and so does the key of the update unless the update gave it
up.  Of two updates the last one stays, and an update with what was read changes nothing but the
time. -/
theorem update_overwrites (key : Key) :
    let before := dep.server.database.contents
    (∀ settings now course reply,
      let update := dep.perform now course (key.revision settings)
      update.1 = .ok reply →
      ∃ row kept entity, key.Names row.toEntry ∧ stored? (key.asked settings) = some kept ∧
        Contents.Revised before update.2.server.database.contents row kept now ∧
        reply = .entity entity ∧ entity.Shows (row.revised kept now) ∧
        (∀ (other : Key) (new : Row other.relation), entity.Shows new →
          other.Names new.toEntry → ∀ moment,
            (update.2.perform moment .undisturbed other.retrieval).1 = .ok reply) ∧
        (key.Survives settings → ∀ moment,
          (update.2.perform moment .undisturbed key.retrieval).1 = .ok reply) ∧
        (¬key.Survives settings → ∀ moment,
          (update.2.perform moment .undisturbed key.retrieval).1 =
            .error (.notFound key.retrieval.plan.name key.subject)) ∧
        ∀ again later course' reply',
          let second := update.2.perform later course' (key.revision again)
          second.1 = .ok reply' →
          ∃ last, stored? (key.asked again) = some last ∧
            Contents.Revised before second.2.server.database.contents row last later ∧
            ∀ moment,
              let alone := dep.perform moment .undisturbed (key.revision again)
              (∃ shown, alone.1 = .ok (.entity shown) ∧ shown.Shows (row.revised last moment)) ∧
                Contents.Revised before alone.2.server.database.contents row last moment) ∧
    ∀ now course entity, (dep.perform now course key.retrieval).1 = .ok (.entity entity) →
      ∃ row ∈ before.get key.relation, key.Names row.toEntry ∧ entity.Shows row ∧ ∀ moment,
        let call := dep.perform moment .undisturbed (key.revision row.settings)
        (∃ shown, call.1 = .ok (.entity shown) ∧
          shown.Shows (row.revised row.settings moment)) ∧
        Contents.Revised before call.2.server.database.contents row row.settings moment := by
  refine ⟨?_, fun now course entity h => hreachable.revision_of_retrieval h⟩
  intro settings now course reply update h
  obtain ⟨-, -, row, kept, entity, rfl, hoverwrites⟩ := hreachable.of_perform_revision h
  have hnames := (Key.names_of_row? hoverwrites.found).2
  have hshows := Contents.shows_of_entityOf? hoverwrites.shown
  have hread := hreachable.retrieval_of_revision h hoverwrites
  refine ⟨row, kept, entity, hnames, hoverwrites.stored, hoverwrites.revised, rfl, hshows, hread,
    fun hsurvives => ?_, hreachable.retrieval_of_revision_absent h, ?_⟩
  · exact hread key _ hshows ((Key.names_revised_iff hnames hoverwrites.stored).2 hsurvives)
  · intro again later course' reply' second h'
    obtain ⟨last, hlast, hrevised, halone⟩ := hreachable.revision_of_revision h hoverwrites h'
    refine ⟨last, hlast, hrevised, fun moment => ?_⟩
    obtain ⟨shown, hreply, hshown⟩ := halone moment
    exact ⟨⟨shown, hreply, Contents.shows_of_entityOf? hshown.shown⟩, hshown.revised⟩

end Reachable

/-- A model that is provisioned under an identifier. -/
def webSettings (uuid : Option Uuid) (cores : Int) : Model.Settings :=
  ⟨uuid, 1, 1, "iaas", false, "noble", .alive, ⟨"", "", none, ""⟩, ⟨"", ""⟩, cores, 0, 0⟩

def webSteps : List Step :=
  [.migrate .undisturbed false,
    .perform ⟨0, 0⟩ .undisturbed
      (.addCloud ⟨"aws", ⟨"ec2", "", [], .none, [], .empty⟩, [⟨"west", .none, .empty⟩]⟩),
    .perform ⟨1, 0⟩ .undisturbed (.addController
      ⟨⟨"one", ⟨1⟩, ⟨"aws", "west"⟩⟩, ⟨"", "", "", "", false, "", [], none, .empty⟩, []⟩),
    .perform ⟨2, 0⟩ .undisturbed
      (.addCredential ⟨⟨"aws", "ann", "main"⟩, ⟨"", "", false, .empty, none⟩⟩),
    .perform ⟨3, 0⟩ .undisturbed (.addModel ⟨⟨"ann", "web", 1⟩, webSettings (some ⟨7⟩) 0⟩)]

/-- An update that replaces the identifier of a model, under that identifier.  Its owner and name
still read the model then. -/
theorem Reachable.update_overwrites_web :
    let dep := (initial .default).run webSteps
    let key : Key := .model (.uuid ⟨7⟩)
    let update := dep.perform ⟨60, 0⟩ .undisturbed (key.revision (webSettings (some ⟨8⟩) 4))
    ∃ shown : Model, shown.row.settings = webSettings (some ⟨8⟩) 4 ∧ ∀ moment,
      (update.2.perform moment .undisturbed key.retrieval).1 =
          .error (.notFound "models.get" key.subject) ∧
        (update.2.perform moment .undisturbed (.getModel (.ownerName "ann" "web"))).1 =
          .ok (.entity (.model shown)) := by
  intro dep key update
  have hreachable : dep.Reachable := ⟨.default, _, rfl⟩
  have hok : update.1.isOk = true := by decide +kernel
  have horigins : ∀ row ∈ dep.server.database.contents.get .model,
      row.origin.owner = "ann" ∧ row.origin.name = "web" := by decide +kernel
  cases hanswer : update.1 with
  | error e =>
    rw [hanswer] at hok
    cases hok
  | ok reply =>
    obtain ⟨row, kept, entity, -, hstored, hrevised, rfl, hshows, hread, -, hgone, -⟩ :=
      (update_overwrites hreachable key).1 _ _ _ _ hanswer
    have hweb : stored? (webSettings (some ⟨8⟩) 4) = some (webSettings (some ⟨8⟩) 4) := by
      decide +kernel
    obtain rfl : kept = webSettings (some ⟨8⟩) 4 := Option.some.inj (hstored.symm.trans hweb)
    have hnames : (Key.model (.ownerName "ann" "web")).Names (row.revised _ ⟨60, 0⟩).toEntry :=
      horigins row hrevised.mem
    cases entity with
    | model shown =>
      refine ⟨shown, congrArg (fun row : Row .model => row.settings) hshows, fun moment => ?_⟩
      have hreplaced : ¬key.Survives (webSettings (some ⟨8⟩) 4) :=
        show some (⟨8⟩ : Uuid) ≠ some ⟨7⟩ by decide
      exact ⟨hgone hreplaced moment,
        hread (.model (.ownerName "ann" "web")) _ hshows hnames moment⟩
    | _ => exact hshows.elim

/-- An update of a model under its identifier that replaces the identifier succeeds, and after that
the model is not found under it. -/
theorem update_gives_up_identifier :
    let dep := (initial .default).run webSteps
    let update := dep.perform ⟨60, 0⟩ .undisturbed
      (.updateModel (.uuid ⟨7⟩) (webSettings (some ⟨8⟩) 0))
    let reread := update.2.perform ⟨61, 0⟩ .undisturbed (.getModel (.uuid ⟨7⟩))
    ∃ reply, update.1 = .ok reply ∧ reread.1 ≠ .ok reply ∧
      reread.1 = .error (.notFound "models.get" (.ofModel (.uuid ⟨7⟩))) := by
  intro dep update reread
  have hreachable : dep.Reachable := ⟨.default, _, rfl⟩
  have hok : update.1.isOk = true := by decide +kernel
  cases hanswer : update.1 with
  | error e =>
    rw [hanswer] at hok
    cases hok
  | ok reply =>
    have hreplaced : ¬(Key.model (.uuid ⟨7⟩)).Survives (webSettings (some ⟨8⟩) 0) :=
      show some (⟨8⟩ : Uuid) ≠ some ⟨7⟩ by decide
    have hgone : reread.1 = .error (.notFound "models.get" (.ofModel (.uuid ⟨7⟩))) :=
      hreachable.retrieval_of_revision_absent hanswer hreplaced ⟨61, 0⟩
    refine ⟨reply, rfl, ?_, hgone⟩
    rw [hgone]
    nofun

end Deployment
end ControlPlane
