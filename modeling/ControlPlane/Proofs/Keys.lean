/-
Keys of entities of any kind.

An entity is addressed by its natural key, a controller and a model also by their identifiers.  A
key names at most one row (`Key.eq_of_names`), and a key without empty parts addresses something
that could exist (`Key.isValid_subject`).
-/
import ControlPlane.Proofs.Consistency
import ControlPlane.Proofs.Naming
import Mathlib.Data.List.Pairwise

namespace ControlPlane

open IdentityName (sanitise)

/-- Rows that conflict with each other are the same. -/
theorem Contents.Unique.eq_of_conflicts {r : Relation} {c : Contents} {u : Uniqueness r}
    (h : c.Unique) (hu : u ∈ uniquenesses r) {a b : Row r} (ha : a ∈ c.get r) (hb : b ∈ c.get r)
    (hconflicts : u.conflicts a.toEntry b.toEntry = true) : a = b := by
  have hsymmetric : Std.Symm fun a b : Row r => u.conflicts a.toEntry b.toEntry = false :=
    ⟨fun a b hfree => (u.conflicts_comm _ _).trans hfree⟩
  by_contra hne
  rw [(h r u hu).forall ha hb hne] at hconflicts
  cases hconflicts

inductive Key
  | cloud (name : String)
  | region (key : RegionKey)
  | controller (key : ControllerKey)
  | model (key : ModelKey)
  | credential (key : CredentialKey)
  | identity (name : String)

namespace Key

/-- Where the entity is stored. -/
@[reducible] def relation : Key → Relation
  | cloud _ => .cloud
  | region _ => .region
  | controller _ => .controller
  | model _ => .model
  | credential _ => .credential
  | identity _ => .identity

/-- The texts that make up the key, as they are given. -/
def parts : Key → List String
  | cloud name => [name]
  | region key => key.parts
  | controller (.uuid _) => []
  | controller (.name name) => [name]
  | model (.uuid _) => []
  | model (.ownerName owner name) => [owner, name]
  | credential key => key.parts
  | identity name => [name]

def subject : Key → Subject
  | cloud name => .ofKey .cloud name
  | region key => .ofRegion key
  | controller key => .ofController key
  | model key => .ofModel key.sanitise
  | credential key => .ofCredential key.sanitise
  | identity name => .ofKey .identity (sanitise name)

def deletion : Key → Operation
  | cloud name => .deleteCloud name
  | region key => .deleteRegion key
  | controller key => .deleteController key
  | model key => .deleteModel key
  | credential key => .deleteCredential key
  | identity name => .deleteIdentity name

def retrieval : Key → Operation
  | cloud name => .getCloud name
  | region key => .getRegion key
  | controller key => .getController key
  | model key => .getModel key
  | credential key => .getCredential key
  | identity name => .getIdentity name

/-- Whether an entry has the key.  Owners and identities have their names in the safe form. -/
def Names : (key : Key) → Entry key.relation → Prop
  | cloud name, e => e.origin = name
  | region key, e => e.origin = key
  | controller (.uuid u), e => e.origin.uuid = u
  | controller (.name name), e => e.origin.name = name
  | model (.uuid u), e => e.settings.uuid = some u
  | model (.ownerName owner name), e => e.origin.owner = sanitise owner ∧ e.origin.name = name
  | credential key, e => e.origin = key.sanitise
  | identity name, e => e.origin = sanitise name

instance : (key : Key) → (e : Entry key.relation) → Decidable (key.Names e)
  | cloud name, e => inferInstanceAs (Decidable (e.origin = name))
  | region key, e => inferInstanceAs (Decidable (e.origin = key))
  | controller (.uuid u), e => inferInstanceAs (Decidable (e.origin.uuid = u))
  | controller (.name name), e => inferInstanceAs (Decidable (e.origin.name = name))
  | model (.uuid u), e => inferInstanceAs (Decidable (e.settings.uuid = some u))
  | model (.ownerName owner name), e =>
    inferInstanceAs (Decidable (e.origin.owner = sanitise owner ∧ e.origin.name = name))
  | credential key, e => inferInstanceAs (Decidable (e.origin = key.sanitise))
  | identity name, e => inferInstanceAs (Decidable (e.origin = sanitise name))

/-- Whether the database takes the key as it is. -/
def IsStorable : Key → Prop
  | cloud name => stored? name = some name
  | region key => stored? key = some key
  | controller key => stored? key = some key
  | model key => stored? key.sanitise = some key.sanitise
  | credential key => stored? key.sanitise = some key.sanitise
  | identity name => stored? (sanitise name) = some (sanitise name)

theorem subject_deletion (key : Key) : key.deletion.plan.subject = key.subject := by
  cases key <;> rfl

theorem subject_retrieval (key : Key) : key.retrieval.plan.subject = key.subject := by
  cases key <;> rfl

/-! ## Parts -/

theorem render_ne_empty (u : Uuid) : u.render ≠ "" := by
  intro h
  have hlist := congrArg String.toList h
  rw [Uuid.render, String.toList_ofList, String.toList_empty] at hlist
  simp at hlist

/-- A key without empty parts could belong to something. -/
theorem isValid_subject {key : Key} (h : "" ∉ key.parts) : key.subject.isValid = true := by
  have hrender : ∀ u : Uuid, "" ∉ [u.render] := fun u hmem =>
    render_ne_empty u (List.mem_singleton.1 hmem).symm
  have hname : ∀ {name : String}, "" = sanitise name → "" = name := fun heq =>
    (IdentityName.eq_empty_of_sanitise heq.symm).symm
  cases key with
  | cloud name => exact Subject.isValid_ofKey.2 h
  | region key => exact Subject.isValid_ofParts.2 h
  | controller key =>
    cases key with
    | uuid u => exact Subject.isValid_ofKey.2 (hrender u)
    | name name => exact Subject.isValid_ofKey.2 h
  | model key =>
    cases key with
    | uuid u => exact Subject.isValid_ofKey.2 (hrender u)
    | ownerName owner name =>
      refine Subject.isValid_ofParts.2 fun hmem => h ?_
      rcases List.mem_pair.1 hmem with heq | heq
      · exact List.mem_pair.2 (.inl (hname heq))
      · exact List.mem_pair.2 (.inr heq)
  | credential key =>
    refine Subject.isValid_ofParts.2 fun hmem => h ?_
    simp only [parts, CredentialKey.parts, CredentialKey.sanitise, List.mem_cons,
      List.not_mem_nil, or_false] at hmem ⊢
    exact hmem.imp_right (Or.imp_left hname)
  | identity name =>
    refine Subject.isValid_ofKey.2 fun hmem => h ?_
    exact List.mem_singleton.2 (hname (List.mem_singleton.1 hmem))

/-- A key could belong to something if it belongs to a row whose key has no empty parts. -/
theorem isValid_subject_of_names {key : Key} {e : Entry key.relation} (hnames : key.Names e)
    (hparts : "" ∉ keyParts key.relation e.origin) : key.subject.isValid = true := by
  have hrender : ∀ u : Uuid, "" ∉ [u.render] := fun u hmem =>
    render_ne_empty u (List.mem_singleton.1 hmem).symm
  cases key with
  | cloud name =>
    rw [hnames] at hparts
    exact Subject.isValid_ofKey.2 hparts
  | region key =>
    rw [hnames] at hparts
    exact Subject.isValid_ofParts.2 hparts
  | controller key =>
    cases key with
    | uuid u => exact Subject.isValid_ofKey.2 (hrender u)
    | name name =>
      rw [keyParts, hnames] at hparts
      exact Subject.isValid_ofKey.2 hparts
  | model key =>
    cases key with
    | uuid u => exact Subject.isValid_ofKey.2 (hrender u)
    | ownerName owner name =>
      rw [keyParts, hnames.1, hnames.2] at hparts
      exact Subject.isValid_ofParts.2 hparts
  | credential key =>
    rw [hnames] at hparts
    exact Subject.isValid_ofParts.2 hparts
  | identity name =>
    rw [hnames] at hparts
    exact Subject.isValid_ofKey.2 hparts

/-! ## Rows -/

/-- Two entries with the same key conflict. -/
theorem exists_conflicts {key : Key} {a b : Entry key.relation} (h : key.Names a)
    (h' : key.Names b) : ∃ u ∈ uniquenesses key.relation, u.conflicts a b = true := by
  cases key with
  | cloud name =>
    refine ⟨_, List.mem_cons_self, ?_⟩
    simp only [Names] at h h'
    simp [Uniqueness.conflicts, h, h']
  | region key =>
    refine ⟨_, List.mem_cons_self, ?_⟩
    simp only [Names] at h h'
    simp [Uniqueness.conflicts, h, h']
  | controller key =>
    cases key with
    | uuid u =>
      refine ⟨_, List.mem_cons_of_mem _ List.mem_cons_self, ?_⟩
      simp only [Names] at h h'
      simp [Uniqueness.conflicts, h, h']
    | name name =>
      refine ⟨_, List.mem_cons_self, ?_⟩
      simp only [Names] at h h'
      simp [Uniqueness.conflicts, h, h']
  | model key =>
    cases key with
    | uuid u =>
      refine ⟨_, List.mem_cons_self, ?_⟩
      simp only [Names] at h h'
      simp [Uniqueness.conflicts, h, h']
    | ownerName owner name =>
      refine ⟨_, List.mem_cons_of_mem _ List.mem_cons_self, ?_⟩
      simp only [Names] at h h'
      simp [Uniqueness.conflicts, h, h']
  | credential key =>
    refine ⟨_, List.mem_cons_self, ?_⟩
    simp only [Names] at h h'
    simp [Uniqueness.conflicts, h, h']
  | identity name =>
    refine ⟨_, List.mem_cons_self, ?_⟩
    simp only [Names] at h h'
    simp [Uniqueness.conflicts, h, h']

/-- No two rows have the same key. -/
theorem eq_of_names {key : Key} {c : Contents} (hunique : c.Unique) {a b : Row key.relation}
    (ha : a ∈ c.get key.relation) (hb : b ∈ c.get key.relation) (hnames : key.Names a.toEntry)
    (hnames' : key.Names b.toEntry) : a = b := by
  obtain ⟨u, hu, hconflicts⟩ := exists_conflicts hnames hnames'
  exact hunique.eq_of_conflicts hu ha hb hconflicts

/-- The name of an entity or its number tells it from others. -/
theorem names_iff {key : Key} {c : Contents} (hunique : c.Unique) (hdistinct : c.Distinct)
    {root row : Row key.relation} (hroot : root ∈ c.get key.relation)
    (hnames : key.Names root.toEntry) (hrow : row ∈ c.get key.relation) :
    key.Names row.toEntry ↔ row.id = root.id := by
  constructor
  · intro hnames'
    rw [eq_of_names hunique hrow hroot hnames' hnames]
  · intro hid
    rwa [hdistinct.eq hrow hroot hid]

/-- The row with a key. -/
def row? (key : Key) (c : Contents) : Option (Row key.relation) :=
  (c.get key.relation).find? fun row => key.Names row.toEntry

theorem row?_eq_none {key : Key} {c : Contents} :
    key.row? c = none ↔ ∀ row ∈ c.get key.relation, ¬key.Names row.toEntry := by
  simp only [row?, List.find?_eq_none, decide_eq_true_eq]

theorem row?_eq_some {key : Key} {c : Contents} (hunique : c.Unique) {root : Row key.relation}
    (hroot : root ∈ c.get key.relation) (hnames : key.Names root.toEntry) :
    key.row? c = some root := by
  cases hfind : key.row? c with
  | none => exact absurd hnames (row?_eq_none.1 hfind root hroot)
  | some found =>
    have hfound : key.Names found.toEntry := by simpa using List.find?_some hfind
    exact congrArg some
      (eq_of_names hunique (List.mem_of_find?_eq_some hfind) hroot hfound hnames)

theorem names_of_row? {key : Key} {c : Contents} {root : Row key.relation}
    (h : key.row? c = some root) : root ∈ c.get key.relation ∧ key.Names root.toEntry :=
  ⟨List.mem_of_find?_eq_some h, by simpa using List.find?_some h⟩

theorem row?_cloud (name : String) (c : Contents) : (cloud name).row? c = c.cloudRow? name := rfl

theorem row?_region (key : RegionKey) (c : Contents) : (region key).row? c = c.regionRow? key :=
  rfl

theorem row?_controller (key : ControllerKey) (c : Contents) :
    (controller key).row? c = c.controllerRow? key := by
  cases key <;> rfl

theorem row?_model (key : ModelKey) (c : Contents) :
    (model key).row? c = c.modelRow? key.sanitise := by
  cases key with
  | uuid u => rfl
  | ownerName owner name =>
    rw [row?, ModelKey.sanitise, Contents.modelRow?]
    congr 1
    funext row
    exact Bool.decide_and _ _

theorem row?_credential (key : CredentialKey) (c : Contents) :
    (credential key).row? c = c.credentialRow? key.sanitise := rfl

theorem row?_identity (name : String) (c : Contents) :
    (identity name).row? c = c.identityRow? (sanitise name) := rfl

/-- The database takes the key of a row that it has taken. -/
theorem isStorable_of_names {key : Key} {e : Entry key.relation}
    (hstored : stored? e.origin = some e.origin) (hnames : key.Names e) : key.IsStorable := by
  cases key with
  | cloud name => rwa [hnames] at hstored
  | region key => rwa [hnames] at hstored
  | controller key =>
    cases key with
    | uuid u => rfl
    | name name =>
      obtain ⟨parts, hparts, -⟩ := Option.map_eq_some_iff.1 hstored
      have hname : stored? e.origin.name = some parts.1 :=
        (Storable.stored?_pair_eq_some.1 hparts).1
      rw [Storable.isExact_text _ _ hname, hnames] at hname
      exact congrArg (Option.map ControllerKey.name) hname
  | model key =>
    cases key with
    | uuid u => rfl
    | ownerName owner name =>
      obtain ⟨parts, hparts, -⟩ := Option.map_eq_some_iff.1 hstored
      obtain ⟨howner, hrest⟩ := Storable.stored?_pair_eq_some.1 hparts
      have howner : stored? e.origin.owner = some parts.1 := howner
      have hname : stored? e.origin.name = some parts.2.1 :=
        (Storable.stored?_pair_eq_some.1 hrest).1
      rw [Storable.isExact_text _ _ howner, hnames.1] at howner
      rw [Storable.isExact_text _ _ hname, hnames.2] at hname
      exact congrArg (Option.map _) (Storable.stored?_pair howner hname)
  | credential key => rwa [hnames] at hstored
  | identity name => rwa [hnames] at hstored

/-- The database takes the key of a model whose parts are free of U+0000. -/
theorem isStorable_model {key : ModelKey}
    (h : ∀ part ∈ (model key).parts, Text.IsNulFree part) : (model key).IsStorable := by
  cases key with
  | uuid u => rfl
  | ownerName owner name =>
    have howner := IdentityName.isNulFree_sanitise (h owner List.mem_cons_self)
    have hname := h name (List.mem_cons_of_mem _ List.mem_cons_self)
    exact congrArg (Option.map _)
      (Storable.stored?_pair (Storable.stored?_text howner) (Storable.stored?_text hname))

/-- An entry that is stored has the keys that it had before. -/
theorem names_of_stored? {key : Key} {e kept : Entry key.relation}
    (hkept : stored? e = some kept) (h : key.Names e) : key.Names kept := by
  have horigin := Storable.origin_of_stored? hkept
  cases key with
  | cloud name => exact horigin.trans h
  | region key => exact horigin.trans h
  | controller key =>
    cases key with
    | uuid u => exact (congrArg Controller.Origin.uuid horigin).trans h
    | name name => exact (congrArg Controller.Origin.name horigin).trans h
  | model key =>
    cases key with
    | uuid u =>
      exact (Storable.uuid_of_stored? (Storable.stored?_entry_eq_some.1 hkept).2).trans h
    | ownerName owner name =>
      exact ⟨(congrArg Model.Origin.owner horigin).trans h.1,
        (congrArg Model.Origin.name horigin).trans h.2⟩
  | credential key => exact horigin.trans h
  | identity name => exact horigin.trans h

end Key
end ControlPlane
