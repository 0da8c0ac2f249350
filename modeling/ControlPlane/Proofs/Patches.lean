/-
Settings in documents, and patches that change nothing.

The fields of a structure are picked out of any object that has them (`Json.fields?_object`).  So
settings are read from what is written of them, alone and among the members of an entity, as far as
documents reach: the settings that any document gives are those whose numbers and times have a text
(`Controller.Settings.isLegible_iff`, `Model.Settings.isLegible_iff`).  A patch that is empty asks
for the settings that are there (`Patch.update?_of_empty`), and so it changes nothing but the time
(`Deployment.Reachable.update_of_empty_patch`).
-/
import ControlPlane.Document.Entity
import ControlPlane.Document.Operation
import ControlPlane.Proofs.Updating
import ControlPlane.Proofs.WrittenForm

namespace ControlPlane

/-! ## Entries in the order of their names -/

section

variable {α : Type} {entries acc : List (String × α)} {name : String} {value : α}

/-- An entry that comes after all others is put behind them. -/
theorem insertEntry_of_last (h : ∀ e ∈ entries, e.1 < name) :
    insertEntry name value entries = entries ++ [(name, value)] := by
  induction entries with
  | nil => rfl
  | cons first rest ih =>
    obtain ⟨n, v⟩ := first
    have hlt : n < name := h _ List.mem_cons_self
    have hle : ¬name < n := fun hgt => String.lt_irrefl n (String.lt_trans hlt hgt)
    have hne : name ≠ n := fun heq => String.lt_irrefl n (heq ▸ hlt)
    rw [insertEntry, if_neg hle, if_neg hne, ih fun e he => h e (List.mem_cons_of_mem _ he)]
    rfl

/-- Entries put among others, one after the other. -/
def insertEntries (entries acc : List (String × α)) : List (String × α) :=
  entries.foldl (fun acc e => insertEntry e.1 e.2 acc) acc

theorem orderedEntries_eq : orderedEntries entries = insertEntries entries [] := rfl

/-- Entries in order stay as they are. -/
theorem orderedEntries_of_ascending (h : Ascending entries) : orderedEntries entries = entries := by
  suffices hacc : ∀ acc, Ascending (acc ++ entries) →
      insertEntries entries acc = acc ++ entries from hacc [] h
  clear h
  induction entries with
  | nil => simp [insertEntries]
  | cons first rest ih =>
    intro acc h
    obtain ⟨n, v⟩ := first
    have hlast : ∀ e ∈ acc, e.1 < n := fun e he =>
      (List.pairwise_append.1 h).2.2 e he (n, v) List.mem_cons_self
    rw [List.append_cons] at h ⊢
    rw [← ih _ h, ← insertEntry_of_last hlast]
    rfl

theorem Dictionary.ofList_entries (d : Dictionary α) : ofList d.entries = d := by
  have hfold (entries : List (String × α)) (e : Dictionary α) :
      (entries.foldl (fun acc e => acc.insert e.1 e.2) e).entries =
        insertEntries entries e.entries := by
    induction entries generalizing e with
    | nil => rfl
    | cons first rest ih => exact ih _
  exact Dictionary.ext ((hfold _ _).trans (orderedEntries_of_ascending d.ascending))

/-- Entries of other names do not hide an entry. -/
theorem lookup_insertEntries (h : name ∉ entries.map Prod.fst) (acc : List (String × α)) :
    (insertEntries entries acc).lookup name = acc.lookup name := by
  induction entries generalizing acc with
  | nil => rfl
  | cons first rest ih =>
    obtain ⟨n, v⟩ := first
    rw [List.map_cons, List.mem_cons, not_or] at h
    refine (ih h.2 _).trans ?_
    rw [lookup_insertEntry, if_neg h.1]

/-- Where each name stands once, an entry is found under its name. -/
theorem lookup_orderedEntries (hnodup : (entries.map Prod.fst).Nodup)
    (h : (name, value) ∈ entries) : (orderedEntries entries).lookup name = some value := by
  obtain ⟨before, after, rfl⟩ := List.append_of_mem h
  rw [List.map_append, List.map_cons] at hnodup
  have hlater : name ∉ after.map Prod.fst :=
    (List.nodup_cons.1 (List.nodup_append.1 hnodup).2.1).1
  rw [orderedEntries_eq, insertEntries, List.foldl_append, List.foldl_cons]
  refine (lookup_insertEntries hlater _).trans ?_
  exact (lookup_insertEntry ..).trans (if_pos rfl)

end

/-! ## Objects and their fields -/

namespace Json

variable {members : List (String × Json)} {fields : List Field}

/-- Whether a document has these members. -/
def HasMembers (doc : Json) (members : List (String × Json)) : Prop :=
  ∀ m ∈ members, doc.member m.1 = m.2

theorem hasMembers_cons {doc : Json} {m : String × Json} :
    doc.HasMembers (m :: members) ↔ doc.member m.1 = m.2 ∧ doc.HasMembers members :=
  List.forall_mem_cons

theorem hasMembers_append {doc : Json} {more : List (String × Json)} :
    doc.HasMembers (members ++ more) ↔ doc.HasMembers members ∧ doc.HasMembers more :=
  List.forall_mem_append

/-- An object gives back each of its members. -/
theorem hasMembers_object (hnodup : (members.map Prod.fst).Nodup) :
    (object members).HasMembers members := by
  intro m hm
  rw [object, member, lookup_orderedEntries hnodup hm]
  rfl

/-- The fields of a structure are picked out of an object that has them among its members. -/
theorem fields?_object (hnodup : (members.map Prod.fst).Nodup) {picked : List (String × Json)}
    (hpicked : picked.Sublist members) (hnames : picked.map Prod.fst = fields.map Field.name) :
    ∃ doc, fields? fields (object members) = some doc ∧ doc.HasMembers picked := by
  let found (field : Field) : Json := (object members).member field.name
  have hfound : ∀ field ∈ fields,
      field.find? (orderedEntries members) = some (found field) := by
    intro field hfield
    have hname : field.name ∈ picked.map Prod.fst := hnames ▸ List.mem_map_of_mem hfield
    obtain ⟨m, hm, hname⟩ := List.mem_map.1 hname
    have hlookup := lookup_orderedEntries hnodup (hpicked.subset hm)
    rw [hname] at hlookup
    simp only [Field.find?, hlookup, found, object, member, Option.getD_some]
  have hread : fields? fields (object members) =
      some (object (fields.map fun field => (field.name, found field))) := by
    simp only [fields?, object, mapM_eq_some hfound, Option.map_some, List.zip_map']
  have hnodup' : ((fields.map fun field => (field.name, found field)).map Prod.fst).Nodup := by
    rw [List.map_map]
    exact hnames ▸ (hpicked.map Prod.fst).nodup hnodup
  refine ⟨_, hread, fun m hm => ?_⟩
  have hname : m.1 ∈ fields.map Field.name := hnames ▸ List.mem_map_of_mem hm
  obtain ⟨field, hfield, hsame⟩ := List.mem_map.1 hname
  calc (object (fields.map fun field => (field.name, found field))).member m.1
      = found field := by
        rw [← hsame]
        exact hasMembers_object hnodup' _ (List.mem_map_of_mem hfield)
    _ = m.2 := by
        show (object members).member field.name = m.2
        rw [hsame]
        exact hasMembers_object hnodup m (hpicked.subset hm)

/-- A structure is read from an object that has its fields. -/
theorem fields?_bind {α : Type} {read : Json → Option α} {value : α}
    (hnodup : (members.map Prod.fst).Nodup) {picked : List (String × Json)}
    (hpicked : picked.Sublist members) (hnames : picked.map Prod.fst = fields.map Field.name)
    (hread : ∀ doc : Json, doc.HasMembers picked → read doc = some value) :
    (fields? fields (object members) >>= read) = some value := by
  obtain ⟨doc, hdoc, hmembers⟩ := fields?_object hnodup hpicked hnames
  rw [hdoc]
  exact hread doc hmembers

/-- A structure is read from an object that has its fields and no others. -/
theorem fields?_bind_self {α : Type} {read : Json → Option α} {value : α}
    (hfields : (fields.map Field.name).Nodup)
    (hnames : members.map Prod.fst = fields.map Field.name)
    (hread : ∀ doc : Json, doc.HasMembers members → read doc = some value) :
    (fields? fields (object members) >>= read) = some value :=
  fields?_bind (hnames ▸ hfields) (List.Sublist.refl _) hnames hread

/-! ## Values -/

namespace Decode

variable {α : Type} {item : Decoder α} {write : α → Json}

theorem list_ofList {items : List α} (h : ∀ a ∈ items, item (write a) = some a) :
    list item (ofList write items) = some items := by
  have hread : (items.map write).mapM item = some (items.map id) := by
    rw [List.mapM_map]
    exact mapM_eq_some h
  rw [List.map_id] at hread
  exact hread

theorem texts_ofList (items : List String) : texts (ofList .string items) = some items :=
  list_ofList fun _ _ => rfl

theorem optional_ofOption {value : Option α} (h : ∀ a ∈ value, item (write a) = some a)
    (hnull : ∀ a, write a ≠ .null) : optional item (ofOption write value) = some value := by
  cases value with
  | none => rfl
  | some a =>
    simp only [ofOption]
    unfold optional
    split
    next heq => exact absurd heq (hnull a)
    next => rw [h a rfl, Option.map_some]

theorem dictionary_entries {d : Dictionary α} (h : ∀ a, item (write a) = some a) :
    dictionary item (.record (d.entries.map fun e => (e.1, write e.2))) = some d.entries := by
  have hread : (d.entries.map fun e => (e.1, write e.2)).mapM
      (fun e => (item e.2).map (e.1, ·)) = some (d.entries.map id) := by
    rw [List.mapM_map]
    refine mapM_eq_some fun entry _ => ?_
    simp only [Function.comp, h, Option.map_some, id]
  rw [List.map_id] at hread
  exact hread

theorem timestamp_ofTimestamp {t : Timestamp} (h : t.IsLegible) :
    timestamp (ofTimestamp t) = some t := by
  rw [timestamp, ofTimestamp, text, Option.bind_some, t.read?_render h]

theorem uuid_ofUuid (u : Uuid) : uuid (ofUuid u) = some u := by
  rw [uuid, ofUuid, text, Option.bind_some, u.read?_render]

theorem access_name (access : Access) : Decode.access (.string access.name) = some access :=
  access.named?_name

theorem life_name (life : Life) : Decode.life (.string life.name) = some life := life.named?_name

theorem config_ofConfig (c : Config) : config (ofConfig c) = some c := by
  have hread : freeForm (ofConfig c) = some c.entries := by
    have hentries := @dictionary_entries Json some id c fun _ => rfl
    simp only [id, Prod.mk.eta, List.map_id_fun'] at hentries
    exact hentries
  rw [config, hread, Option.map_some, Dictionary.ofList_entries]

theorem unsigned_int {bits n : Nat} (h : n < Word.size bits) :
    unsigned bits (.int n) = some n := by
  have hholds : Word.holdsUnsigned bits n = true := by
    simp only [Word.holdsUnsigned, Bool.and_eq_true, decide_eq_true_eq]
    omega
  simp only [unsigned, int, integer, if_pos hholds, Option.map_some, Int.toNat_natCast]

theorem int64_int {n : Int} (h : Word.holdsSigned 64 n = true) : int64 (.int n) = some n := by
  simp only [int64, int, integer, if_pos h]

theorem isLegible_of_timestamp {doc : Json} {t : Timestamp} (h : timestamp doc = some t) :
    t.IsLegible := by
  obtain ⟨text, -, hread⟩ := Option.bind_eq_some_iff.1 h
  exact Timestamp.isLegible_iff.2 ⟨text, hread⟩

theorem of_optional_eq_some {doc : Json} {value : Option α} (h : optional item doc = some value) :
    ∀ a ∈ value, item doc = some a := by
  intro a ha
  unfold optional at h
  split at h
  next => cases h; cases ha
  next =>
    obtain ⟨found, hfound, rfl⟩ := Option.map_eq_some_iff.1 h
    rw [hfound, Option.mem_some_iff.1 ha]

theorem of_list_eq_some {doc : Json} {items : List α} (h : list item doc = some items) :
    ∀ a ∈ items, ∃ part, item part = some a := by
  unfold list at h
  split at h
  next parts =>
    induction parts generalizing items with
    | nil => cases h; nofun
    | cons part parts ih =>
      rw [List.mapM_cons] at h
      obtain ⟨first, hfirst, h⟩ := Option.bind_eq_some_iff.1 h
      obtain ⟨rest, hrest, heq⟩ := Option.bind_eq_some_iff.1 h
      cases heq
      exact List.forall_mem_cons.2 ⟨⟨part, hfirst⟩, ih hrest⟩
  next => cases h

theorem holdsSigned_of_int64 {doc : Json} {n : Int} (h : int64 doc = some n) :
    Word.holdsSigned 64 n = true := by
  unfold int64 integer at h
  split at h
  next =>
    obtain ⟨hholds, heq⟩ := Option.ite_none_right_eq_some.1 h
    cases heq
    exact hholds
  next => cases h

theorem lt_of_unsigned {bits n : Nat} {doc : Json} (h : unsigned bits doc = some n) :
    n < Word.size bits := by
  obtain ⟨whole, hwhole, rfl⟩ := Option.map_eq_some_iff.1 h
  unfold integer at hwhole
  split at hwhole
  next =>
    obtain ⟨hholds, heq⟩ := Option.ite_none_right_eq_some.1 hwhole
    cases heq
    simp only [Word.holdsUnsigned, Bool.and_eq_true, decide_eq_true_eq] at hholds
    omega
  next => cases hwhole

end Decode
end Json

open Json

/-! ## Settings -/

variable {doc : Json}

/-- Whether the port of an address is one. -/
def Address.IsLegible (a : Address) : Prop := a.port < Word.size 16

/-- Whether the settings of a controller have a document from which they are read. -/
structure Controller.Settings.IsLegible (s : Controller.Settings) : Prop where
  addresses : ∀ a ∈ s.addresses, a.IsLegible
  unavailableSince : ∀ t ∈ s.unavailableSince, t.IsLegible

/-- Whether the settings of a model have a document from which they are read. -/
structure Model.Settings.IsLegible (s : Model.Settings) : Prop where
  numbers : ∀ n ∈ [s.controller, s.credential, s.cores, s.machines, s.units],
    Word.holdsSigned 64 n = true
  since : ∀ t ∈ s.status.since, t.IsLegible

/-- Whether settings have a document from which they are read: their numbers are in the ranges of
documents, and so are their times. -/
def Settings.IsLegible : {r : Relation} → Settings r → Prop
  | .controller, s => Controller.Settings.IsLegible s
  | .model, s => Model.Settings.IsLegible s
  | .identity, (s : Identity.Settings) => ∀ t ∈ s.lastLogin, t.IsLegible
  | _, _ => True

theorem Endpoints.ofMembers?_of_hasMembers {e : Endpoints} (h : doc.HasMembers e.members) :
    ofMembers? doc = some e := by
  simp only [members, hasMembers_cons] at h
  obtain ⟨hmain, hidentity, hstorage, -⟩ := h
  simp only [ofMembers?, hmain, hidentity, hstorage, Decode.text]
  rfl

theorem Cloud.Settings.ofMembers?_of_hasMembers {s : Cloud.Settings}
    (h : doc.HasMembers s.members) : ofMembers? doc = some s := by
  simp only [members, hasMembers_append, hasMembers_cons] at h
  obtain ⟨⟨⟨hprovider, hhost, hauth, -⟩, hendpoints⟩, hcertificates, hconfig, -⟩ := h
  simp only [ofMembers?, hprovider, hhost, hauth, hcertificates, hconfig, Decode.text,
    Decode.texts_ofList, Decode.config_ofConfig, Endpoints.ofMembers?_of_hasMembers hendpoints]
  rfl

theorem Region.Settings.ofMembers?_of_hasMembers {s : Region.Settings}
    (h : doc.HasMembers s.members) : ofMembers? doc = some s := by
  simp only [members, hasMembers_append, hasMembers_cons] at h
  obtain ⟨hendpoints, hconfig, -⟩ := h
  simp only [ofMembers?, hconfig, Decode.config_ofConfig,
    Endpoints.ofMembers?_of_hasMembers hendpoints]
  rfl

theorem Address.ofDocument?_toDocument {a : Address} (h : a.IsLegible) :
    ofDocument? a.toDocument = some a := by
  refine fields?_bind_self (by decide) rfl fun doc hmembers => ?_
  simp only [hasMembers_cons] at hmembers
  obtain ⟨hvalue, hport, hscope, -⟩ := hmembers
  simp only [hvalue, hport, hscope, Decode.text, Decode.unsigned_int h]
  rfl

theorem Controller.Settings.ofMembers?_of_hasMembers {s : Controller.Settings}
    (hlegible : s.IsLegible) (h : doc.HasMembers s.members) : ofMembers? doc = some s := by
  simp only [members, hasMembers_cons] at h
  obtain ⟨huser, hpassword, hcertificate, hpublic, hdeprecated, hversion, haddresses, hsince,
    hconfig, -⟩ := h
  have hread : Decode.list Address.ofDocument? (doc.member "addresses") = some s.addresses := by
    rw [haddresses]
    exact Decode.list_ofList fun a ha => Address.ofDocument?_toDocument (hlegible.addresses a ha)
  have hread' : Decode.optional Decode.timestamp (doc.member "unavailable_since") =
      some s.unavailableSince := by
    rw [hsince]
    exact Decode.optional_ofOption
      (fun t ht => Decode.timestamp_ofTimestamp (hlegible.unavailableSince t ht)) nofun
  simp only [ofMembers?, huser, hpassword, hcertificate, hpublic, hdeprecated, hversion, hconfig,
    hread, hread', Decode.text, Decode.boolean, Decode.config_ofConfig]
  rfl

theorem Model.Status.ofDocument?_toDocument {s : Model.Status}
    (h : ∀ t ∈ s.since, t.IsLegible) : ofDocument? s.toDocument = some s := by
  refine fields?_bind_self (by decide) rfl fun doc hmembers => ?_
  simp only [hasMembers_cons] at hmembers
  obtain ⟨htext, hinfo, hsince, hversion, -⟩ := hmembers
  have hread : Decode.optional Decode.timestamp (doc.member "since") = some s.since := by
    rw [hsince]
    exact Decode.optional_ofOption (fun t ht => Decode.timestamp_ofTimestamp (h t ht)) nofun
  simp only [htext, hinfo, hversion, hread, Decode.text]
  rfl

theorem Model.Support.ofDocument?_toDocument (s : Model.Support) :
    ofDocument? s.toDocument = some s := by
  refine fields?_bind_self (by decide) rfl fun doc hmembers => ?_
  simp only [hasMembers_cons] at hmembers
  obtain ⟨hlevel, howner, -⟩ := hmembers
  simp only [hlevel, howner, Decode.text]
  rfl

theorem Model.Settings.ofMembers?_of_hasMembers {s : Model.Settings} (hlegible : s.IsLegible)
    (h : doc.HasMembers s.members) : ofMembers? doc = some s := by
  simp only [members, hasMembers_cons] at h
  obtain ⟨huuid, hcontroller, hcredential, htype, hisController, hseries, hlife, hstatus, hsupport,
    hcores, hmachines, hunits, -⟩ := h
  have hread : Decode.optional Decode.uuid (doc.member "uuid") = some s.uuid := by
    rw [huuid]
    exact Decode.optional_ofOption (fun u _ => Decode.uuid_ofUuid u) nofun
  obtain ⟨hnumbers, hsince⟩ := hlegible
  simp only [List.forall_mem_cons] at hnumbers
  obtain ⟨hcontroller', hcredential', hcores', hmachines', hunits', -⟩ := hnumbers
  simp only [ofMembers?, hread, hcontroller, hcredential, htype, hisController, hseries, hlife,
    hstatus, hsupport, hcores, hmachines, hunits, Decode.text, Decode.boolean, Decode.life_name,
    Decode.int64_int hcontroller', Decode.int64_int hcredential', Decode.int64_int hcores',
    Decode.int64_int hmachines', Decode.int64_int hunits',
    Model.Status.ofDocument?_toDocument hsince, Model.Support.ofDocument?_toDocument]
  rfl

theorem Credential.Settings.ofMembers?_of_hasMembers {s : Credential.Settings}
    (h : doc.HasMembers s.members) : ofMembers? doc = some s := by
  simp only [members, hasMembers_cons] at h
  obtain ⟨hauth, hlabel, hvault, hattributes, hvalid, -⟩ := h
  have hread : Decode.optional Decode.boolean (doc.member "valid") = some s.isValid := by
    rw [hvalid]
    exact Decode.optional_ofOption (fun _ _ => rfl) nofun
  have hread' : Decode.dictionary Decode.text (doc.member "attributes") =
      some s.attributes.entries := by
    rw [hattributes]
    exact Decode.dictionary_entries fun _ => rfl
  simp only [ofMembers?, hauth, hlabel, hvault, hread, hread', Decode.text, Decode.boolean]
  simp only [Option.pure_def, Option.bind_eq_bind, Option.bind_some, Dictionary.ofList_entries]

theorem Identity.Settings.ofMembers?_of_hasMembers {s : Identity.Settings}
    (hlegible : ∀ t ∈ s.lastLogin, t.IsLegible) (h : doc.HasMembers s.members) :
    ofMembers? doc = some s := by
  simp only [members, hasMembers_cons] at h
  obtain ⟨hname, haccess, hlogin, hdisabled, -⟩ := h
  have hread : Decode.optional Decode.timestamp (doc.member "last_login") = some s.lastLogin := by
    rw [hlogin]
    exact Decode.optional_ofOption (fun t ht => Decode.timestamp_ofTimestamp (hlegible t ht)) nofun
  simp only [ofMembers?, hname, haccess, hdisabled, hread, Decode.text, Decode.boolean,
    Decode.access_name]
  rfl

/-! ## What settings are read from -/

theorem Address.isLegible_of_ofDocument? {a : Address} (h : ofDocument? doc = some a) :
    a.IsLegible := by
  obtain ⟨doc, -, h⟩ := Option.bind_eq_some_iff.1 h
  obtain ⟨value, -, h⟩ := Option.bind_eq_some_iff.1 h
  obtain ⟨port, hport, h⟩ := Option.bind_eq_some_iff.1 h
  obtain ⟨scope, -, heq⟩ := Option.bind_eq_some_iff.1 h
  cases heq
  exact Decode.lt_of_unsigned hport

theorem Controller.Settings.isLegible_of_ofMembers? {s : Controller.Settings}
    (h : ofMembers? doc = some s) : s.IsLegible := by
  obtain ⟨user, -, h⟩ := Option.bind_eq_some_iff.1 h
  obtain ⟨password, -, h⟩ := Option.bind_eq_some_iff.1 h
  obtain ⟨certificate, -, h⟩ := Option.bind_eq_some_iff.1 h
  obtain ⟨address, -, h⟩ := Option.bind_eq_some_iff.1 h
  obtain ⟨deprecated, -, h⟩ := Option.bind_eq_some_iff.1 h
  obtain ⟨version, -, h⟩ := Option.bind_eq_some_iff.1 h
  obtain ⟨addresses, haddresses, h⟩ := Option.bind_eq_some_iff.1 h
  obtain ⟨since, hsince, h⟩ := Option.bind_eq_some_iff.1 h
  obtain ⟨config, -, heq⟩ := Option.bind_eq_some_iff.1 h
  cases heq
  refine ⟨fun a ha => ?_, fun t ht => ?_⟩
  · obtain ⟨part, hpart⟩ := Decode.of_list_eq_some haddresses a ha
    exact Address.isLegible_of_ofDocument? hpart
  · exact Decode.isLegible_of_timestamp (Decode.of_optional_eq_some hsince t ht)

theorem Model.Status.isLegible_of_ofDocument? {s : Model.Status} (h : ofDocument? doc = some s) :
    ∀ t ∈ s.since, t.IsLegible := by
  obtain ⟨doc, -, h⟩ := Option.bind_eq_some_iff.1 h
  obtain ⟨text, -, h⟩ := Option.bind_eq_some_iff.1 h
  obtain ⟨info, -, h⟩ := Option.bind_eq_some_iff.1 h
  obtain ⟨since, hsince, h⟩ := Option.bind_eq_some_iff.1 h
  obtain ⟨version, -, heq⟩ := Option.bind_eq_some_iff.1 h
  cases heq
  exact fun t ht => Decode.isLegible_of_timestamp (Decode.of_optional_eq_some hsince t ht)

theorem Model.Settings.isLegible_of_ofMembers? {s : Model.Settings}
    (h : ofMembers? doc = some s) : s.IsLegible := by
  obtain ⟨uuid, -, h⟩ := Option.bind_eq_some_iff.1 h
  obtain ⟨controller, hcontroller, h⟩ := Option.bind_eq_some_iff.1 h
  obtain ⟨credential, hcredential, h⟩ := Option.bind_eq_some_iff.1 h
  obtain ⟨type, -, h⟩ := Option.bind_eq_some_iff.1 h
  obtain ⟨isController, -, h⟩ := Option.bind_eq_some_iff.1 h
  obtain ⟨series, -, h⟩ := Option.bind_eq_some_iff.1 h
  obtain ⟨life, -, h⟩ := Option.bind_eq_some_iff.1 h
  obtain ⟨status, hstatus, h⟩ := Option.bind_eq_some_iff.1 h
  obtain ⟨support, -, h⟩ := Option.bind_eq_some_iff.1 h
  obtain ⟨cores, hcores, h⟩ := Option.bind_eq_some_iff.1 h
  obtain ⟨machines, hmachines, h⟩ := Option.bind_eq_some_iff.1 h
  obtain ⟨units, hunits, heq⟩ := Option.bind_eq_some_iff.1 h
  cases heq
  refine ⟨?_, Model.Status.isLegible_of_ofDocument? hstatus⟩
  simp only [List.forall_mem_cons, Decode.holdsSigned_of_int64 hcontroller,
    Decode.holdsSigned_of_int64 hcredential, Decode.holdsSigned_of_int64 hcores,
    Decode.holdsSigned_of_int64 hmachines, Decode.holdsSigned_of_int64 hunits, true_and]
  nofun

theorem Identity.Settings.isLegible_of_ofMembers? {s : Identity.Settings}
    (h : ofMembers? doc = some s) : ∀ t ∈ s.lastLogin, t.IsLegible := by
  obtain ⟨name, -, h⟩ := Option.bind_eq_some_iff.1 h
  obtain ⟨access, -, h⟩ := Option.bind_eq_some_iff.1 h
  obtain ⟨login, hlogin, h⟩ := Option.bind_eq_some_iff.1 h
  obtain ⟨isDisabled, -, heq⟩ := Option.bind_eq_some_iff.1 h
  cases heq
  exact fun t ht => Decode.isLegible_of_timestamp (Decode.of_optional_eq_some hlogin t ht)

/-! ## Settings alone and among the members of entities -/

theorem sublist_among {α : Type} (front middle back rest : List α) :
    middle.Sublist (front ++ middle ++ back ++ rest) :=
  (List.sublist_append_right front middle).trans
    ((List.sublist_append_left _ back).trans (List.sublist_append_left _ rest))

namespace Cloud

theorem Settings.ofDocument?_toDocument (s : Settings) : ofDocument? s.toDocument = some s :=
  fields?_bind_self (by decide) rfl fun _ => ofMembers?_of_hasMembers

/-- What a cloud shows under the names of the fields of an update is its settings. -/
theorem settings_of_toDocument (cloud : Cloud) :
    Settings.ofDocument? cloud.toDocument = some cloud.row.settings := by
  obtain ⟨row, regions, grants⟩ := cloud
  have hnodup : ["id", "name", "provider_type", "host_cloud_region", "auth_types", "endpoint",
    "identity_endpoint", "storage_endpoint", "ca_certificates", "config", "created_at",
    "updated_at", "regions", "grants"].Nodup := by decide
  exact fields?_bind hnodup (sublist_among _ row.settings.members row.times _) rfl
    fun _ => Settings.ofMembers?_of_hasMembers

end Cloud

namespace Region

theorem Settings.ofDocument?_toDocument (s : Settings) : ofDocument? s.toDocument = some s :=
  fields?_bind_self (by decide) rfl fun _ => ofMembers?_of_hasMembers

/-- What a region shows under the names of the fields of an update is its settings. -/
theorem settings_of_toDocument (region : Region) :
    Settings.ofDocument? region.toDocument = some region.row.settings := by
  obtain ⟨row, cloud, links⟩ := region
  have hnodup : ["id", "cloud_name", "name", "endpoint", "identity_endpoint", "storage_endpoint",
    "config", "created_at", "updated_at", "cloud", "controllers"].Nodup := by decide
  exact fields?_bind hnodup (sublist_among _ row.settings.members row.times _) rfl
    fun _ => Settings.ofMembers?_of_hasMembers

end Region

namespace Controller

theorem Settings.ofDocument?_toDocument {s : Settings} (h : s.IsLegible) :
    ofDocument? s.toDocument = some s :=
  fields?_bind_self (by decide) rfl fun _ => ofMembers?_of_hasMembers h

theorem Settings.isLegible_iff {s : Settings} :
    s.IsLegible ↔ ∃ doc, ofDocument? doc = some s := by
  refine ⟨fun h => ⟨_, ofDocument?_toDocument h⟩, fun ⟨doc, h⟩ => ?_⟩
  obtain ⟨picked, -, hread⟩ := Option.bind_eq_some_iff.1 h
  exact isLegible_of_ofMembers? hread

/-- What a controller shows under the names of the fields of an update is its settings. -/
theorem settings_of_toDocument {controller : Controller}
    (h : controller.row.settings.IsLegible) :
    Settings.ofDocument? controller.toDocument = some controller.row.settings := by
  obtain ⟨row, links⟩ := controller
  have hnodup : ["id", "name", "uuid", "cloud_name", "cloud_region", "admin_user",
    "admin_password", "ca_certificate", "public_address", "deprecated", "agent_version",
    "addresses", "unavailable_since", "config", "created_at", "updated_at",
    "cloud_regions"].Nodup := by decide
  exact fields?_bind hnodup (sublist_among _ row.settings.members row.times _) rfl
    fun _ => Settings.ofMembers?_of_hasMembers h

end Controller

namespace Model

theorem Settings.ofDocument?_toDocument {s : Settings} (h : s.IsLegible) :
    ofDocument? s.toDocument = some s :=
  fields?_bind_self (by decide) rfl fun _ => ofMembers?_of_hasMembers h

theorem Settings.isLegible_iff {s : Settings} :
    s.IsLegible ↔ ∃ doc, ofDocument? doc = some s := by
  refine ⟨fun h => ⟨_, ofDocument?_toDocument h⟩, fun ⟨doc, h⟩ => ?_⟩
  obtain ⟨picked, -, hread⟩ := Option.bind_eq_some_iff.1 h
  exact isLegible_of_ofMembers? hread

/-- What a model shows under the names of the fields of an update is its settings. -/
theorem settings_of_toDocument {model : Model} (h : model.row.settings.IsLegible) :
    Settings.ofDocument? model.toDocument = some model.row.settings := by
  have hnodup : ["id", "name", "owner_identity_name", "cloud_region_id", "uuid", "controller_id",
    "cloud_credential_id", "model_type", "is_controller", "default_series", "life", "status",
    "sla", "cores", "machines", "units", "created_at", "updated_at", "owner", "controller",
    "cloud_region", "cloud_credential", "grants"].Nodup := by decide
  exact fields?_bind hnodup
    (sublist_among [("id", _), ("name", _), ("owner_identity_name", _), ("cloud_region_id", _)]
      model.row.settings.members model.row.times _) rfl
    fun _ => Settings.ofMembers?_of_hasMembers h

end Model

namespace Credential

theorem Settings.ofDocument?_toDocument (s : Settings) : ofDocument? s.toDocument = some s :=
  fields?_bind_self (by decide) rfl fun _ => ofMembers?_of_hasMembers

/-- What a credential shows under the names of the fields of an update is its settings. -/
theorem settings_of_toDocument (credential : Credential) :
    Settings.ofDocument? credential.toDocument = some credential.row.settings := by
  have hnodup : ["id", "cloud_name", "owner_identity_name", "name", "auth_type", "label",
    "attributes_in_vault", "attributes", "valid", "created_at", "updated_at", "cloud", "owner",
    "grants"].Nodup := by decide
  exact fields?_bind hnodup
    (sublist_among _ credential.row.settings.members credential.row.times _) rfl
    fun _ => Settings.ofMembers?_of_hasMembers

end Credential

namespace Identity

theorem Settings.ofDocument?_toDocument {s : Settings} (h : ∀ t ∈ s.lastLogin, t.IsLegible) :
    ofDocument? s.toDocument = some s :=
  fields?_bind_self (by decide) rfl fun _ => ofMembers?_of_hasMembers h

theorem Settings.lastLogin_isLegible_iff {s : Settings} :
    (∀ t ∈ s.lastLogin, t.IsLegible) ↔ ∃ doc, ofDocument? doc = some s := by
  refine ⟨fun h => ⟨_, ofDocument?_toDocument h⟩, fun ⟨doc, h⟩ => ?_⟩
  obtain ⟨picked, -, hread⟩ := Option.bind_eq_some_iff.1 h
  exact isLegible_of_ofMembers? hread

/-- What an identity shows under the names of the fields of an update is its settings. -/
theorem settings_of_toDocument {identity : Identity}
    (h : ∀ t ∈ identity.row.settings.lastLogin, t.IsLegible) :
    Settings.ofDocument? identity.toDocument = some identity.row.settings := by
  have hnodup : ["id", "name", "display_name", "controller_access", "last_login", "disabled",
    "created_at", "updated_at"].Nodup := by decide
  exact fields?_bind hnodup
    ((List.sublist_append_right _ identity.row.settings.members).trans
      (List.sublist_append_left _ identity.row.times)) rfl
    fun _ => Settings.ofMembers?_of_hasMembers h

end Identity

/-! ## Patches that change nothing -/

/-- What is read under an empty patch is what is read without it. -/
theorem Json.map_overlay_of_empty {α β : Type} {read : Json → Option α} {value : α}
    {members : List (String × Json)} {patch : Json} (hempty : patch = .record [])
    (hread : read (object members) = some value) (f : α → β) :
    (read ((object members).overlay patch)).map f = some (f value) := by
  have hsame : (object members).overlay patch = object members := by
    rw [hempty]
    simp only [object, overlay, overlayMembers]
  rw [hsame, hread, Option.map_some]

/-- An empty patch of an entity asks for the settings that the entity has. -/
theorem Patch.update?_of_empty {patch : Patch} (h : ofDocument? doc = some patch)
    (hempty : doc.member "patch" = .record []) :
    ∃ key : Key, patch.fetch = key.retrieval ∧
      ∀ (entity : Entity) (row : Row key.relation), entity.Shows row →
        Settings.IsLegible row.settings →
          patch.update? entity = some (key.revision row.settings) := by
  obtain ⟨op, -, h⟩ := Option.bind_eq_some_iff.1 h
  split at h
  case h_1 =>
    obtain ⟨name, -, heq⟩ := Option.bind_eq_some_iff.1 h
    cases heq
    refine ⟨.cloud name, rfl, fun entity row hshows _ => ?_⟩
    cases entity with
    | cloud cloud =>
      obtain rfl : cloud.row = row := hshows
      exact Json.map_overlay_of_empty hempty
        (Cloud.Settings.ofDocument?_toDocument cloud.row.settings) _
    | _ => exact hshows.elim
  case h_2 =>
    obtain ⟨key, -, heq⟩ := Option.bind_eq_some_iff.1 h
    cases heq
    refine ⟨.controller key, rfl, fun entity row hshows hlegible => ?_⟩
    cases entity with
    | controller controller =>
      obtain rfl : controller.row = row := hshows
      exact Json.map_overlay_of_empty hempty
        (Controller.Settings.ofDocument?_toDocument hlegible) _
    | _ => exact hshows.elim
  case h_3 =>
    obtain ⟨key, -, heq⟩ := Option.bind_eq_some_iff.1 h
    cases heq
    refine ⟨.model key, rfl, fun entity row hshows hlegible => ?_⟩
    cases entity with
    | model model =>
      obtain rfl : model.row = row := hshows
      exact Json.map_overlay_of_empty hempty
        (Model.Settings.ofDocument?_toDocument hlegible) _
    | _ => exact hshows.elim
  case h_4 =>
    obtain ⟨name, -, heq⟩ := Option.bind_eq_some_iff.1 h
    cases heq
    refine ⟨.identity name, rfl, fun entity row hshows hlegible => ?_⟩
    cases entity with
    | identity identity =>
      obtain rfl : identity.row = row := hshows
      exact Json.map_overlay_of_empty hempty
        (Identity.Settings.ofDocument?_toDocument hlegible) _
    | _ => exact hshows.elim
  case h_5 =>
    obtain ⟨key, -, heq⟩ := Option.bind_eq_some_iff.1 h
    cases heq
    refine ⟨.credential key, rfl, fun entity row hshows _ => ?_⟩
    cases entity with
    | credential credential =>
      obtain rfl : credential.row = row := hshows
      exact Json.map_overlay_of_empty hempty
        (Credential.Settings.ofDocument?_toDocument credential.row.settings) _
    | _ => exact hshows.elim
  case h_6 => cases h

namespace Deployment

variable {dep : Deployment} {patch : Patch} {now : Timestamp} {course : Course} {entity : Entity}

/-- An empty patch of what was fetched succeeds and changes nothing but the time. -/
theorem Reachable.update_of_empty_patch (hreachable : dep.Reachable)
    (hpatch : Patch.ofDocument? doc = some patch) (hempty : doc.member "patch" = .record [])
    (hfetch : (dep.perform now course patch.fetch).1 = .ok (.entity entity)) :
    ∃ key : Key, ∃ row ∈ dep.server.database.contents.get key.relation,
      patch.fetch = key.retrieval ∧ entity.Shows row ∧
        (Settings.IsLegible row.settings → ∃ op, patch.update? entity = some op ∧
          ∀ moment,
            let call := dep.perform moment .undisturbed op
            (∃ shown, call.1 = .ok (.entity shown) ∧
              shown.Shows (row.revised row.settings moment)) ∧
            Contents.Revised dep.server.database.contents call.2.server.database.contents row
              row.settings moment) := by
  obtain ⟨key, hkey, hupdate⟩ := Patch.update?_of_empty hpatch hempty
  rw [hkey] at hfetch
  obtain ⟨row, hrow, -, hshows, hrevision⟩ := hreachable.revision_of_retrieval hfetch
  exact ⟨key, row, hrow, hkey, hshows, fun hlegible =>
    ⟨_, hupdate entity row hshows hlegible, hrevision⟩⟩

end Deployment
end ControlPlane
