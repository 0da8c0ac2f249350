/-
Values that the database takes.

The database refuses texts with the character U+0000, timestamps that are too early, and nothing
else.  So a value without either is stored, whatever its structure; the laws below follow the
structure of values.  The origins of rows are stored as they are, if they are stored at all.
-/
import ControlPlane.Store.Identities

namespace ControlPlane

/-- Whether U+0000 does not occur in a text. -/
def Text.IsNulFree (s : String) : Prop := ∀ c ∈ s.toList, c.toNat ≠ 0

namespace Json

mutual

/-- Whether U+0000 does not occur in any text of a document, the names of members included. -/
def IsNulFree : Json → Prop
  | .string s => Text.IsNulFree s
  | .array items => AreNulFree items
  | .record members => MembersAreNulFree members
  | _ => True

def AreNulFree : List Json → Prop
  | [] => True
  | item :: rest => IsNulFree item ∧ AreNulFree rest

def MembersAreNulFree : List (String × Json) → Prop
  | [] => True
  | (name, value) :: rest => Text.IsNulFree name ∧ IsNulFree value ∧ MembersAreNulFree rest

end

theorem hasNul_eq_false {s : String} : hasNul s = false ↔ Text.IsNulFree s := by
  simp [hasNul, Text.IsNulFree]

mutual

theorem isSome_stored? {doc : Json} (h : doc.IsNulFree) : doc.stored?.isSome = true := by
  cases doc with
  | null => rfl
  | bool b => rfl
  | number n => rfl
  | string s =>
    rw [stored?, hasNul_eq_false.2 h]
    rfl
  | array items =>
    rw [stored?, Option.isSome_map]
    exact isSome_storedItems? h
  | record members =>
    rw [stored?, Option.isSome_map]
    exact isSome_storedMembers? h

theorem isSome_storedItems? {items : List Json} (h : AreNulFree items) :
    (storedItems? items).isSome = true := by
  cases items with
  | nil => rfl
  | cons item rest =>
    obtain ⟨item', hitem⟩ := Option.isSome_iff_exists.1 (isSome_stored? h.1)
    obtain ⟨rest', hrest⟩ := Option.isSome_iff_exists.1 (isSome_storedItems? h.2)
    rw [storedItems?, hitem, hrest]
    rfl

theorem isSome_storedMembers? {members : List (String × Json)} (h : MembersAreNulFree members) :
    (storedMembers? members).isSome = true := by
  cases members with
  | nil => rfl
  | cons first rest =>
    obtain ⟨name, value⟩ := first
    obtain ⟨value', hvalue⟩ := Option.isSome_iff_exists.1 (isSome_stored? h.2.1)
    obtain ⟨rest', hrest⟩ := Option.isSome_iff_exists.1 (isSome_storedMembers? h.2.2)
    rw [storedMembers?, hasNul_eq_false.2 h.1, hvalue, hrest]
    rfl

end

end Json

namespace Storable

variable {α β : Type}

theorem stored?_text {s : String} (h : Text.IsNulFree s) : stored? s = some s := by
  show (if Json.hasNul s then none else some s) = some s
  rw [Json.hasNul_eq_false.2 h]
  rfl

theorem stored?_pair [Storable α] [Storable β] {a kept : α} {b kept' : β}
    (ha : stored? a = some kept) (hb : stored? b = some kept') :
    stored? (a, b) = some (kept, kept') := by
  show (do return (← stored? a, ← stored? b)) = some (kept, kept')
  rw [ha, hb]
  rfl

theorem isSome_stored?_pair [Storable α] [Storable β] {a : α} {b : β}
    (ha : (stored? a).isSome = true) (hb : (stored? b).isSome = true) :
    (stored? (a, b)).isSome = true := by
  obtain ⟨kept, hkept⟩ := Option.isSome_iff_exists.1 ha
  obtain ⟨kept', hkept'⟩ := Option.isSome_iff_exists.1 hb
  rw [stored?_pair hkept hkept']
  rfl

theorem isSome_stored?_text {s : String} (h : Text.IsNulFree s) : (stored? s).isSome = true := by
  rw [stored?_text h]
  rfl

theorem isSome_stored?_option [Storable α] {a? : Option α}
    (h : ∀ a ∈ a?, (stored? a).isSome = true) : (stored? a?).isSome = true := by
  cases a? with
  | none => rfl
  | some a =>
    show ((stored? a).map some).isSome = true
    rw [Option.isSome_map]
    exact h a rfl

theorem isSome_stored?_list [Storable α] {items : List α}
    (h : ∀ a ∈ items, (stored? a).isSome = true) : (stored? items).isSome = true := by
  induction items with
  | nil => rfl
  | cons a rest ih =>
    obtain ⟨kept, hkept⟩ := Option.isSome_iff_exists.1 (h a List.mem_cons_self)
    obtain ⟨kept', hkept'⟩ :=
      Option.isSome_iff_exists.1 (ih fun b hb => h b (List.mem_cons_of_mem _ hb))
    show (do return (← stored? a) :: (← storedItems? rest)).isSome = true
    rw [hkept, show storedItems? rest = some kept' from hkept']
    rfl

/-- A list of values that the database keeps as they are is kept as it is. -/
theorem stored?_list [Storable α] {items : List α} (h : ∀ a ∈ items, stored? a = some a) :
    stored? items = some items := by
  induction items with
  | nil => rfl
  | cons a rest ih =>
    have hrest : storedItems? rest = some rest := ih fun b hb => h b (List.mem_cons_of_mem _ hb)
    show (do return (← stored? a) :: (← storedItems? rest)) = some (a :: rest)
    rw [h a List.mem_cons_self, hrest]
    rfl

theorem isSome_stored?_dictionary [Storable α] {d : Dictionary α}
    (h : ∀ e ∈ d.entries, Text.IsNulFree e.1 ∧ (stored? e.2).isSome = true) :
    (stored? d).isSome = true := by
  have hentries : (stored? d.entries).isSome = true :=
    isSome_stored?_list fun e he => isSome_stored?_pair (isSome_stored?_text (h e he).1) (h e he).2
  obtain ⟨kept, hkept⟩ := Option.isSome_iff_exists.1 hentries
  have hstored : stored? d = some ⟨kept, ascending_of_storedItems? hkept d.ascending⟩ :=
    storedDictionary?_eq_some.2 hkept
  rw [hstored]
  rfl

theorem isSome_stored?_config {config : Dictionary Json}
    (h : ∀ e ∈ config.entries, Text.IsNulFree e.1 ∧ e.2.IsNulFree) :
    (stored? config).isSome = true :=
  isSome_stored?_dictionary fun e he => ⟨(h e he).1, Json.isSome_stored? (h e he).2⟩

end Storable

namespace IdentityName

theorem mem_markDomain {mark name : List Char} {c : Char} (h : c ∈ markDomain mark name) :
    c ∈ mark ∨ c ∈ name := by
  induction name with
  | nil => cases h
  | cons d rest ih =>
    rw [markDomain] at h
    split at h
    next => exact List.mem_append.1 h
    next =>
      rcases List.mem_cons.1 h with rfl | h
      · exact .inr List.mem_cons_self
      · exact (ih h).imp_right (List.mem_cons_of_mem _)

theorem toNat_digitChar_ne_zero : ∀ n < 16, (Nat.digitChar n).toNat ≠ 0 := by decide

/-- The safe form of a name has no U+0000 that the name has not. -/
theorem isNulFree_sanitise {name : String} (h : Text.IsNulFree name) :
    Text.IsNulFree (sanitise name) := by
  intro c hc
  rw [sanitise, String.toList_ofList, sanitiseWith] at hc
  split at hc
  next =>
    rcases mem_markDomain hc with hc | hc
    · obtain ⟨byte, -, hc⟩ := List.mem_flatMap.1 hc
      simp only [byteDigits, List.mem_cons, List.not_mem_nil, or_false] at hc
      have hbyte := byte.toNat_lt
      rcases hc with rfl | rfl <;> exact toNat_digitChar_ne_zero _ (by omega)
    · obtain ⟨d, hd, rfl⟩ := List.mem_map.1 hc
      rw [safeChar]
      split
      next => decide
      next => exact h d hd
  next => exact h c hc

end IdentityName

/-! ## Snapshots

What a snapshot says of a cloud and its regions is stored as it is, apart from the numbers in the
configuration, which the database may give back in a form of its own. -/

/-- Whether U+0000 does not occur in a configuration, the names of its entries included. -/
def Config.IsNulFree (config : Config) : Prop :=
  ∀ e ∈ config.entries, Text.IsNulFree e.1 ∧ e.2.IsNulFree

structure Endpoints.IsNulFree (endpoints : Endpoints) : Prop where
  main : Text.IsNulFree endpoints.main
  identity : Text.IsNulFree endpoints.identity
  storage : Text.IsNulFree endpoints.storage

structure Cloud.Settings.IsNulFree (s : Cloud.Settings) : Prop where
  provider : Text.IsNulFree s.provider
  hostRegion : Text.IsNulFree s.hostRegion
  authTypes : ∀ type ∈ s.authTypes, Text.IsNulFree type
  endpoints : s.endpoints.IsNulFree
  certificates : ∀ certificate ∈ s.certificates, Text.IsNulFree certificate
  config : Config.IsNulFree s.config

structure Region.Settings.IsNulFree (s : Region.Settings) : Prop where
  endpoints : s.endpoints.IsNulFree
  config : Config.IsNulFree s.config

/-- Whether U+0000 occurs in no text of a snapshot and nowhere in its configurations. -/
structure Cloud.Snapshot.IsNulFree (snapshot : Cloud.Snapshot) : Prop where
  name : Text.IsNulFree snapshot.cloud.name
  settings : snapshot.cloud.settings.IsNulFree
  regions : ∀ region ∈ snapshot.cloud.regions,
    Text.IsNulFree region.name ∧ region.settings.IsNulFree
  grants : ∀ report ∈ snapshot.grants, Text.IsNulFree report.identityName

namespace Storable

theorem stored?_entry {r : Relation} {e : Entry r} {origin : Origin r} {settings : Settings r}
    (horigin : stored? e.origin = some origin) (hsettings : stored? e.settings = some settings) :
    stored? e = some ⟨origin, settings⟩ := by
  show (stored? (e.origin, e.settings)).map _ = some _
  rw [stored?_pair horigin hsettings]
  rfl

theorem stored?_endpoints {endpoints : Endpoints} (h : endpoints.IsNulFree) :
    stored? endpoints = some endpoints := by
  show (stored? (endpoints.main, endpoints.identity, endpoints.storage)).map _ = _
  rw [stored?_pair (stored?_text h.main)
    (stored?_pair (stored?_text h.identity) (stored?_text h.storage))]
  rfl

/-- A draft of a cloud is stored but for the form of its configuration. -/
theorem stored?_cloud {draft : Cloud.Draft} (hname : Text.IsNulFree draft.name)
    (h : draft.settings.IsNulFree) : ∃ config, stored? draft.settings.config = some config ∧
      stored? draft.entry = some ⟨draft.name, { draft.settings with config := config }⟩ := by
  obtain ⟨config, hconfig⟩ := Option.isSome_iff_exists.1 (isSome_stored?_config h.config)
  have hauth : stored? draft.settings.authTypes = some draft.settings.authTypes :=
    stored?_list fun type htype => stored?_text (h.authTypes type htype)
  have hcertificates : stored? draft.settings.certificates = some draft.settings.certificates :=
    stored?_list fun certificate hmem => stored?_text (h.certificates certificate hmem)
  have hsettings : stored? draft.settings = some { draft.settings with config := config } := by
    show (stored? (draft.settings.provider, draft.settings.hostRegion, draft.settings.authTypes,
      draft.settings.endpoints, draft.settings.certificates, draft.settings.config)).map _ = _
    rw [stored?_pair (stored?_text h.provider) (stored?_pair (stored?_text h.hostRegion)
      (stored?_pair hauth (stored?_pair (stored?_endpoints h.endpoints)
        (stored?_pair hcertificates hconfig))))]
    rfl
  exact ⟨config, hconfig, stored?_entry (stored?_text hname) hsettings⟩

/-- A draft of a region is stored but for the form of its configuration. -/
theorem stored?_region {draft : Region.Draft} {cloud : String} (hcloud : Text.IsNulFree cloud)
    (hname : Text.IsNulFree draft.name) (h : draft.settings.IsNulFree) :
    ∃ config, stored? draft.settings.config = some config ∧
      stored? (draft.entry cloud) =
        some ⟨⟨cloud, draft.name⟩, { draft.settings with config := config }⟩ := by
  obtain ⟨config, hconfig⟩ := Option.isSome_iff_exists.1 (isSome_stored?_config h.config)
  have horigin : stored? (draft.entry cloud).origin = some ⟨cloud, draft.name⟩ := by
    show (stored? (cloud, draft.name)).map _ = _
    rw [stored?_pair (stored?_text hcloud) (stored?_text hname)]
    rfl
  have hsettings : stored? draft.settings = some { draft.settings with config := config } := by
    show (stored? (draft.settings.endpoints, draft.settings.config)).map _ = _
    rw [stored?_pair (stored?_endpoints h.endpoints) hconfig]
    rfl
  exact ⟨config, hconfig, stored?_entry horigin hsettings⟩

/-- An identity that is created because it is named is stored as it is. -/
theorem stored?_firstEntry {name : String} (h : Text.IsNulFree name) (access : Access) :
    stored? (Identities.firstEntry name access) = some (Identities.firstEntry name access) := by
  have hdisplay : Text.IsNulFree (IdentityName.displayName name) := by
    intro c hc
    rw [IdentityName.displayName, String.toList_ofList] at hc
    exact h c ((List.takeWhile_sublist _).subset hc)
  let rest : Access × Option Timestamp × Bool := (access, none, false)
  have hrest : stored? rest = some rest := rfl
  refine stored?_entry (stored?_text h) ?_
  show (stored? (IdentityName.displayName name, rest)).map _ = _
  rw [stored?_pair (stored?_text hdisplay) hrest]
  rfl

theorem stored?_grant {on : Grantable} {object : Int} {identity : String}
    (h : Text.IsNulFree identity) (access : Access) :
    stored? (⟨⟨object, identity⟩, ⟨access, none⟩⟩ : Entry (.grant on)) =
      some ⟨⟨object, identity⟩, ⟨access, none⟩⟩ := by
  have hobject : stored? object = some object := rfl
  refine stored?_entry ?_ rfl
  show (stored? (object, identity)).map _ = _
  rw [stored?_pair hobject (stored?_text h)]
  rfl

end Storable

/-! ## Stored forms of origins -/

namespace Storable

variable {α β : Type}

/-- Whether the values that the database takes are stored as they are. -/
def IsExact (α : Type) [Storable α] : Prop := ∀ a kept : α, stored? a = some kept → kept = a

theorem isExact_text : IsExact String := by
  intro s kept h
  by_cases hnul : Json.hasNul s = true
  · simp [stored?, hnul] at h
  · simp only [stored?, hnul, if_false, Bool.false_eq_true, Option.some.injEq] at h
    exact h.symm

/-- The database takes no text with U+0000. -/
theorem isNulFree_of_stored? {s kept : String} (h : stored? s = some kept) : Text.IsNulFree s := by
  rw [← Json.hasNul_eq_false, Bool.eq_false_iff]
  intro hnul
  have hrefused : stored? s = none := if_pos hnul
  rw [hrefused] at h
  cases h

theorem isExact_int : IsExact Int := fun _ _ h => (Option.some.inj h).symm

theorem isExact_uuid : IsExact Uuid := fun _ _ h => (Option.some.inj h).symm

theorem stored?_pair_eq_some [Storable α] [Storable β] {p kept : α × β} :
    stored? p = some kept ↔ stored? p.1 = some kept.1 ∧ stored? p.2 = some kept.2 := by
  obtain ⟨a, b⟩ := p
  obtain ⟨a', b'⟩ := kept
  show (do return (← stored? a, ← stored? b)) = some (a', b') ↔ _
  cases stored? a with
  | none => simp
  | some first => cases stored? b <;> simp

theorem isExact_pair [Storable α] [Storable β] (hα : IsExact α) (hβ : IsExact β) :
    IsExact (α × β) := by
  intro p kept h
  obtain ⟨hfst, hsnd⟩ := stored?_pair_eq_some.1 h
  exact Prod.ext (hα _ _ hfst) (hβ _ _ hsnd)

theorem isExact_option [Storable α] (h : IsExact α) : IsExact (Option α) := by
  intro a? kept hkept
  cases a? with
  | none => exact (Option.some.inj hkept).symm
  | some a =>
    obtain ⟨b, hb, rfl⟩ := Option.map_eq_some_iff.1 hkept
    rw [h _ _ hb]

/-- The identifier of a model is stored as it is. -/
theorem uuid_of_stored? {settings kept : Model.Settings} (h : stored? settings = some kept) :
    kept.uuid = settings.uuid := by
  obtain ⟨parts, hparts, rfl⟩ := Option.map_eq_some_iff.1 h
  exact isExact_option isExact_uuid _ _ (stored?_pair_eq_some.1 hparts).1

/-- What is stored field by field is exact where its fields are. -/
theorem isExact_of_parts [Storable α] [Storable β] {parts : α → β} {whole : β → α}
    (hβ : IsExact β) (hstored : ∀ a : α, stored? a = (stored? (parts a)).map whole)
    (hwhole : ∀ a, whole (parts a) = a) : IsExact α := by
  intro a kept h
  rw [hstored] at h
  obtain ⟨b, hb, rfl⟩ := Option.map_eq_some_iff.1 h
  rw [hβ _ _ hb, hwhole]

theorem isExact_regionKey : IsExact RegionKey :=
  isExact_of_parts (isExact_pair isExact_text isExact_text) (fun _ => rfl) fun _ => rfl

theorem isExact_credentialKey : IsExact CredentialKey :=
  isExact_of_parts (isExact_pair isExact_text (isExact_pair isExact_text isExact_text))
    (fun _ => rfl) fun _ => rfl

theorem isExact_modelKey : IsExact ModelKey := by
  intro key kept h
  cases key with
  | uuid u => exact (Option.some.inj h).symm
  | ownerName owner name =>
    obtain ⟨parts, hparts, rfl⟩ := Option.map_eq_some_iff.1 h
    rw [isExact_pair isExact_text isExact_text _ _ hparts]

theorem isExact_controllerKey : IsExact ControllerKey := by
  intro key kept h
  cases key with
  | uuid u => exact (Option.some.inj h).symm
  | name name =>
    obtain ⟨kept, hkept, rfl⟩ := Option.map_eq_some_iff.1 h
    rw [isExact_text _ _ hkept]

theorem isNulFree_of_regionKey {key kept : RegionKey} (h : stored? key = some kept) :
    Text.IsNulFree key.cloud ∧ Text.IsNulFree key.region := by
  obtain ⟨parts, hparts, -⟩ := Option.map_eq_some_iff.1 h
  obtain ⟨hcloud, hregion⟩ := stored?_pair_eq_some.1 hparts
  exact ⟨isNulFree_of_stored? hcloud, isNulFree_of_stored? hregion⟩

theorem isNulFree_of_credentialKey {key kept : CredentialKey} (h : stored? key = some kept) :
    Text.IsNulFree key.cloud ∧ Text.IsNulFree key.owner ∧ Text.IsNulFree key.name := by
  obtain ⟨parts, hparts, -⟩ := Option.map_eq_some_iff.1 h
  obtain ⟨hcloud, hrest⟩ := stored?_pair_eq_some.1 hparts
  obtain ⟨howner, hname⟩ := stored?_pair_eq_some.1 hrest
  exact ⟨isNulFree_of_stored? hcloud, isNulFree_of_stored? howner, isNulFree_of_stored? hname⟩

/-- The region that hosts a controller is stored as the key that it is. -/
theorem stored?_hosting {origin kept : Controller.Origin} (h : stored? origin = some kept) :
    stored? origin.hosting = some origin.hosting := by
  obtain ⟨parts, hparts, -⟩ := Option.map_eq_some_iff.1 h
  have hhosting := (stored?_pair_eq_some.1 (stored?_pair_eq_some.1 hparts).2).2
  exact hhosting.trans (congrArg some (isExact_regionKey _ _ hhosting))

theorem isNulFree_of_modelOrigin {origin kept : Model.Origin} (h : stored? origin = some kept) :
    Text.IsNulFree origin.owner ∧ Text.IsNulFree origin.name := by
  obtain ⟨parts, hparts, -⟩ := Option.map_eq_some_iff.1 h
  obtain ⟨howner, hrest⟩ := stored?_pair_eq_some.1 hparts
  exact ⟨isNulFree_of_stored? howner, isNulFree_of_stored? (stored?_pair_eq_some.1 hrest).1⟩

/-- Origins hold texts, numbers, identifiers and nothing else, and these are stored as they are. -/
theorem isExact_origin (r : Relation) : IsExact (Origin r) := by
  cases r with
  | identity => exact isExact_text
  | cloud => exact isExact_text
  | region => exact isExact_regionKey
  | controller =>
    have hparts := isExact_pair isExact_text (isExact_pair isExact_uuid isExact_regionKey)
    exact isExact_of_parts hparts (fun _ => rfl) fun _ => rfl
  | link =>
    exact isExact_of_parts (isExact_pair isExact_int isExact_int) (fun _ => rfl) fun _ => rfl
  | credential => exact isExact_credentialKey
  | model =>
    have hparts := isExact_pair isExact_text (isExact_pair isExact_text isExact_int)
    exact isExact_of_parts hparts (fun _ => rfl) fun _ => rfl
  | grant on =>
    exact isExact_of_parts (isExact_pair isExact_int isExact_text) (fun _ => rfl) fun _ => rfl

theorem stored?_entry_eq_some {r : Relation} {e kept : Entry r} :
    stored? e = some kept ↔
      stored? e.origin = some kept.origin ∧ stored? e.settings = some kept.settings := by
  show (stored? (e.origin, e.settings)).map _ = some kept ↔ _
  rw [Option.map_eq_some_iff]
  constructor
  · rintro ⟨p, hp, rfl⟩
    exact stored?_pair_eq_some.1 hp
  · intro h
    exact ⟨(kept.origin, kept.settings), stored?_pair_eq_some.2 h, rfl⟩

theorem origin_of_stored? {r : Relation} {e kept : Entry r} (h : stored? e = some kept) :
    kept.origin = e.origin :=
  isExact_origin r _ _ (stored?_entry_eq_some.1 h).1

theorem stored?_origin {r : Relation} {e kept : Entry r} (h : stored? e = some kept) :
    stored? e.origin = some e.origin := by
  have hstored := (stored?_entry_eq_some.1 h).1
  rwa [origin_of_stored? h] at hstored

end Storable

end ControlPlane
