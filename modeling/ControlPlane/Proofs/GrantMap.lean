/-
Grants as a map.

What identities are granted is a map from objects and identities to a level and the time of the last
connection.  `GrantEvent` is what happens to such a map: access is assigned or taken away, a
connection is recorded, and an object or an identity goes.  The rows of the grants stand for a map
(`Contents.grantMap`), and what the statements of the database make of the rows is what events make
of the map: a new row and a row that is overwritten are updates at one key, and a delete takes away
the keys of the rows that go.
-/
import ControlPlane.Proofs.Addition
import ControlPlane.Proofs.Dependants
import ControlPlane.Proofs.Overwriting

namespace ControlPlane

/-! ## Maps and events -/

/-- Where a grant stands: the kind of the object, its number, and the identity. -/
structure Grant.Key where
  on : Grantable
  origin : Grant.Origin
  deriving DecidableEq, Repr

abbrev GrantMap := Grant.Key → Option Grant.Settings

namespace GrantMap

def empty : GrantMap := fun _ => none

/-- The map without the keys of which something holds. -/
def drop (m : GrantMap) (gone : Grant.Key → Prop) [DecidablePred gone] : GrantMap :=
  fun key => if gone key then none else m key

end GrantMap

/-- Something that changes who is granted what. -/
inductive GrantEvent
  /-- An identity is given a level of access, or its access is taken away. -/
  | assigned (key : Grant.Key) (access : Option Access)
  | connected (key : Grant.Key) (time : Timestamp)
  | objectDeleted (on : Grantable) (object : Int)
  | identityDeleted (identity : String)

/-- A map after an event.  A new entry has no last connection; that of an old one stays when its
level changes. -/
def GrantMap.after (m : GrantMap) : GrantEvent → GrantMap
  | .assigned key (some level) =>
    Function.update m key (some ⟨level, (m key).bind fun settings => settings.lastConnection⟩)
  | .assigned key none => m.drop fun other => other = key
  | .connected key time =>
    Function.update m key
      ((m key).map fun settings => { settings with lastConnection := some time })
  | .objectDeleted on object => m.drop fun key => key.on = on ∧ key.origin.object = object
  | .identityDeleted identity => m.drop fun key => key.origin.identity = identity

/-! ## The map of the rows -/

namespace Contents

variable {c after : Contents} {on : Grantable}

/-- The map that the rows of the grants stand for. -/
def grantMap (c : Contents) : GrantMap := fun key =>
  ((c.get (.grant key.on)).find? fun row => row.origin = key.origin).map fun row => row.settings

theorem grantMap_empty : Database.empty.contents.grantMap = GrantMap.empty := by
  funext key
  simp [grantMap, GrantMap.empty, Database.get_empty]

theorem grantMap_of_mem (hunique : c.Unique) {row : Row (.grant on)}
    (hrow : row ∈ c.get (.grant on)) : c.grantMap ⟨on, row.origin⟩ = some row.settings :=
  settings?_of_mem hunique (Relation.grant_isKeyed on) hrow

theorem grantMap_eq_none {origin : Grant.Origin} :
    c.grantMap ⟨on, origin⟩ = none ↔ ∀ row ∈ c.get (.grant on), row.origin ≠ origin :=
  settings?_eq_none (r := .grant on)

theorem grantMap_eq_some (hunique : c.Unique) {origin : Grant.Origin} {settings : Grant.Settings} :
    c.grantMap ⟨on, origin⟩ = some settings ↔
      ∃ row ∈ c.get (.grant on), row.origin = origin ∧ row.settings = settings :=
  settings?_eq_some hunique (Relation.grant_isKeyed on)

theorem grantMap_congr (h : ∀ on, after.get (.grant on) = c.get (.grant on)) :
    after.grantMap = c.grantMap := by
  funext key
  rw [grantMap, grantMap, h]

/-! ## Statements -/

/-- A change of the grants of one kind shows in the keys of that kind alone. -/
theorem grantMap_of_settings? {rows : List (Row (.grant on))} {origin : Grant.Origin}
    {settings : Grant.Settings}
    (h : settings? (c.set (.grant on) rows) (.grant on) =
      Function.update (c.settings? (.grant on)) origin (some settings)) :
    grantMap (c.set (.grant on) rows) =
      Function.update c.grantMap ⟨on, origin⟩ (some settings) := by
  funext ⟨other, found⟩
  by_cases hon : other = on
  · subst hon
    refine (congrFun h found).trans ?_
    by_cases hsame : found = origin
    · rw [hsame, Function.update_self, Function.update_self]
    · rw [Function.update_of_ne hsame, Function.update_of_ne (by simp [hsame])]
      rfl
  · have hne : Relation.grant other ≠ .grant on := fun heq => hon (Relation.grant.inj heq)
    rw [grantMap, PerRelation.get_set_of_ne _ _ hne, Function.update_of_ne (by simp [hon])]
    rfl

/-- A grant that is new. -/
theorem grantMap_append {row : Row (.grant on)}
    (hnew : ∀ old ∈ c.get (.grant on), old.origin ≠ row.origin) :
    grantMap (c.set (.grant on) (c.get (.grant on) ++ [row])) =
      Function.update c.grantMap ⟨on, row.origin⟩ (some row.settings) :=
  grantMap_of_settings? (settings?_append hnew)

/-- An update changes one entry, or none where it means no row. -/
theorem grantMap_of_update (hunique : c.Unique) (hclosed : c.Closed) (hdistinct : c.Distinct)
    {now : Timestamp} {which : Row (.grant on) → Bool}
    {change : Settings (.grant on) → Settings (.grant on)} {written : Option (Row (.grant on))}
    (h : c.update now which change = .ok (written, after)) :
    (written = none ∧ after = c ∧ ∀ row ∈ c.get (.grant on), which row = false) ∨
      ∃ row ∈ c.get (.grant on), which row = true ∧ written ≠ none ∧
        after.grantMap =
          Function.update c.grantMap ⟨on, row.origin⟩ (some (change row.settings)) := by
  rcases settings?_of_update hunique (Relation.grant_isKeyed on) hclosed hdistinct nofun h with
    hnone | ⟨row, hrow, hwhich, hwritten, ⟨rows, rfl⟩, hsettings⟩
  · exact .inl hnone
  · exact .inr ⟨row, hrow, hwhich, hwritten, grantMap_of_settings? hsettings⟩

/-! ## Deletes -/

section

variable {r : Relation} {which : Row r → Bool} {found : Bool} (hunique : c.Unique)
  (hclosed : c.Closed) (hdistinct : c.Distinct) (h : c.delete which = .ok (found, after))

include hunique hclosed hdistinct h

/-- A delete drops the keys of the grants that go. -/
theorem grantMap_of_delete {gone : Grant.Key → Prop} [DecidablePred gone]
    (hgone : ∀ on, ∀ row ∈ c.get (.grant on),
      Goes c (Meant which) (.grant on) row ↔ gone ⟨on, row.origin⟩) :
    after.grantMap = c.grantMap.drop gone := by
  have hleft := without_of_delete hunique hclosed hdistinct h
  have hunique' : after.Unique := fun q u hu => (hunique q u hu).sublist (hleft q).sublist
  funext ⟨on, origin⟩
  refine Option.ext fun settings => ?_
  rw [grantMap_eq_some hunique', GrantMap.drop]
  by_cases hkey : gone ⟨on, origin⟩
  · rw [if_pos hkey]
    refine iff_of_false ?_ (by simp)
    rintro ⟨row, hrow, rfl, -⟩
    have hold := (hleft (.grant on)).sublist.subset hrow
    exact ((hleft (.grant on)).mem_iff row hold).1 hrow ((hgone on row hold).2 hkey)
  · rw [if_neg hkey, grantMap_eq_some hunique]
    constructor
    · rintro ⟨row, hrow, horigin, hsettings⟩
      exact ⟨row, (hleft (.grant on)).sublist.subset hrow, horigin, hsettings⟩
    · rintro ⟨row, hrow, rfl, hsettings⟩
      refine ⟨row, ((hleft (.grant on)).mem_iff row hrow).2 fun hgoes => ?_, rfl, hsettings⟩
      exact hkey ((hgone on row hrow).1 hgoes)

/-- A delete elsewhere, of rows to which no grant refers, leaves the map alone. -/
theorem grantMap_of_delete_elsewhere (hgrant : ∀ on, Relation.grant on ≠ r)
    (hobject : ∀ on : Grantable, on.relation ≠ r) (hidentity : .identity ≠ r) :
    after.grantMap = c.grantMap := by
  have hnone : after.grantMap = c.grantMap.drop fun _ => False := by
    refine grantMap_of_delete hunique hclosed hdistinct h fun on row _ => ?_
    rw [goes_grant]
    simp [not_meant (hgrant on), not_meant (hobject on), not_meant hidentity]
  rw [hnone]
  funext key
  exact if_neg not_false

end

section

variable {found : Bool} (hunique : c.Unique) (hclosed : c.Closed) (hdistinct : c.Distinct)

include hunique hclosed hdistinct

/-- Nothing is in the way of taking access away, and no identity is created or lost by it. -/
theorem delete_grant_ok (which : Row (.grant on) → Bool) :
    ∃ found after, c.delete which = .ok (found, after) ∧
      after.get .identity = c.get .identity := by
  have hmeant : ∀ {q : Relation} (row : Row q), q ≠ .grant on → ¬Meant which q row :=
    fun row hq => not_meant hq row
  have hregion : ∀ row : Row .region, ¬Goes c (Meant which) .region row := by
    intro row hgoes
    rcases goes_region.1 hgoes with h | ⟨cloud, -, -, h⟩
    · exact hmeant row nofun h
    · exact hmeant cloud nofun h
  have hfree : ¬∃ q, ∃ row ∈ c.get q, Blocks c (Meant which) q row := by
    rintro ⟨q, row, -, hblocks⟩
    cases q with
    | controller =>
      obtain ⟨-, region, -, -, h⟩ := blocks_controller.1 hblocks
      exact hregion region h
    | credential =>
      rcases blocks_credential.1 hblocks with ⟨-, ⟨cloud, -, -, h⟩ | ⟨owner, -, -, h⟩⟩
      · exact hmeant cloud nofun h
      · exact hmeant owner nofun h
    | model =>
      rcases blocks_model.1 hblocks with ⟨-, ⟨owner, -, -, h⟩ | ⟨controller, -, -, h⟩ |
        ⟨region, -, -, h⟩ | ⟨credential, -, -, h⟩⟩
      · exact hmeant owner nofun h
      · exact hmeant controller nofun h
      · exact hregion region h
      · exact hmeant credential nofun h
    | _ => exact not_blocks (by simp [references]) hblocks
  by_cases hany : ∃ row ∈ c.get (.grant on), which row = true
  · obtain ⟨row, hrow, hwhich⟩ := hany
    obtain ⟨after, hdelete, hleft⟩ := delete_ok hunique hclosed hdistinct
      (fun row _ => meant_iff.symm) (fun q hq row _ => not_meant hq row)
      ⟨row, hrow, .intro hwhich⟩ hfree
    refine ⟨true, after, hdelete, (hleft .identity).get_eq hdistinct fun identity _ => ?_⟩
    rw [goes_iff_meant (by decide)]
    exact hmeant identity nofun
  · refine ⟨false, c, ?_, rfl⟩
    rw [delete, if_neg (by simpa using hany)]

/-- Taking away the access of an identity to an object drops their entry. -/
theorem grantMap_of_delete_grant {origin : Grant.Origin}
    (h : c.delete (fun row : Row (.grant on) => row.origin = origin) = .ok (found, after)) :
    after.grantMap = c.grantMap.after (.assigned ⟨on, origin⟩ none) := by
  refine grantMap_of_delete hunique hclosed hdistinct h fun other row _ => ?_
  have hobject := other.relation_ne_grant on
  have hidentity := (Relation.grant_ne_identity on).symm
  rw [goes_grant]
  simp only [not_meant hobject, not_meant hidentity, and_false, exists_false, or_false]
  by_cases hon : other = on
  · subst hon
    rw [meant_iff]
    simp
  · have hne : Relation.grant other ≠ .grant on := fun heq => hon (Relation.grant.inj heq)
    simp [not_meant hne, hon]

/-- Deleting an object drops the entries of all identities on it. -/
theorem grantMap_of_delete_object {which : Row on.relation → Bool} {root : Row on.relation}
    (hroot : root ∈ c.get on.relation)
    (hwhich : ∀ row ∈ c.get on.relation, which row = true ↔ row.id = root.id)
    (h : c.delete which = .ok (found, after)) :
    after.grantMap = c.grantMap.after (.objectDeleted on root.id) := by
  refine grantMap_of_delete hunique hclosed hdistinct h fun other row _ => ?_
  have hgrant := (on.relation_ne_grant other).symm
  have hidentity := on.relation_ne_identity.symm
  rw [goes_grant]
  simp only [not_meant hgrant, not_meant hidentity, and_false, exists_false, or_false, false_or]
  by_cases hon : other = on
  · subst hon
    simp only [meant_iff, true_and]
    constructor
    · rintro ⟨object, hobject, heq, hmeant⟩
      rw [heq, (hwhich object hobject).1 hmeant]
    · intro heq
      exact ⟨root, hroot, heq, (hwhich root hroot).2 rfl⟩
  · have hne : other.relation ≠ on.relation := fun heq => hon (Grantable.relation_injective heq)
    simp [not_meant hne, hon]

/-- Deleting an identity drops its entries on all objects. -/
theorem grantMap_of_delete_identity {name : String}
    (h : c.delete (fun row : Row .identity => row.origin = name) = .ok (found, after)) :
    after.grantMap = c.grantMap.after (.identityDeleted name) := by
  refine grantMap_of_delete hunique hclosed hdistinct h fun on row hrow => ?_
  rw [goes_grant]
  simp only [not_meant (Relation.grant_ne_identity on), not_meant on.relation_ne_identity,
    meant_iff, and_false, exists_false, false_or, decide_eq_true_eq]
  constructor
  · rintro ⟨identity, -, heq, hname⟩
    exact heq.trans hname
  · intro hname
    obtain ⟨identity, hidentity, hrefers⟩ := resolves_iff.1
      (hclosed _ row hrow _ (List.mem_cons_of_mem _ List.mem_cons_self))
    have heq : row.origin.identity = identity.origin := of_decide_eq_true hrefers
    exact ⟨identity, hidentity, heq, heq.symm.trans hname⟩

end

end Contents
end ControlPlane
