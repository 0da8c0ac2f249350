/-
Users whose safe names are distinct.

Unsafe characters all become hyphens, so what keeps two raw names apart is the hash.  It goes before
the first `@`, which is where a safe name can be taken apart again: with marks of one length, equal
results have equal marks (`mark_eq_of_markDomain`).  A name without an `@` gets no mark, and so two
names with different hashes meet if and only if both are without one and have the same letters
(`sanitiseWith_eq_iff`).  Users whose names do not meet share nothing that is stored.
-/
import ControlPlane.Proofs.Retrieval

namespace ControlPlane

namespace IdentityName

/-! ## Six digits -/

def hexDigits : List Char :=
  ['0', '1', '2', '3', '4', '5', '6', '7', '8', '9', 'a', 'b', 'c', 'd', 'e', 'f']

/-- Whether a text is six hexadecimal digits, as every short hash is. -/
structure IsSixDigits (mark : List Char) : Prop where
  length : mark.length = 6
  digits : ∀ c ∈ mark, c ∈ hexDigits

theorem digitChar_mem_hexDigits : ∀ n < 16, Nat.digitChar n ∈ hexDigits := by decide

theorem IsSixDigits.at_notMem {mark : List Char} (h : IsSixDigits mark) : '@' ∉ mark :=
  fun hmem => absurd (h.digits '@' hmem) (by decide)

theorem length_digest (message : List UInt8) : (Sha256.digest message).length = 32 := by
  simp [Sha256.digest, Sha256.bytesOf]

theorem isSixDigits_shortHash (name : List Char) : IsSixDigits (shortHash name) where
  length := by
    have hwide : ∀ byte : UInt8, (byteDigits byte).length = 2 := fun _ => rfl
    simp [shortHash, List.length_flatMap, hwide, length_digest]
  digits c hc := by
    obtain ⟨byte, -, hdigit⟩ := List.mem_flatMap.1 hc
    have hbyte := byte.toNat_lt
    rcases List.mem_pair.1 hdigit with rfl | rfl
    · exact digitChar_mem_hexDigits _ (by omega)
    · exact digitChar_mem_hexDigits _ (by omega)

/-! ## The mark of a name -/

theorem safeChar_eq_at {c : Char} : safeChar c = '@' ↔ c = '@' := by
  by_cases h : isForbidden c = true
  · rw [safeChar, if_pos h]
    refine ⟨fun hat => absurd hat (by decide), ?_⟩
    rintro rfl
    exact absurd h (by decide)
  · rw [safeChar, if_neg h]

theorem at_mem_map_safeChar (name : List Char) : '@' ∈ name.map safeChar ↔ '@' ∈ name := by
  simp [safeChar_eq_at]

theorem markDomain_of_notMem {mark name : List Char} (h : '@' ∉ name) :
    markDomain mark name = name := by
  induction name with
  | nil => rfl
  | cons c rest ih =>
    rw [List.mem_cons, not_or] at h
    rw [markDomain, if_neg fun hat => h.1 hat.symm, ih h.2]

theorem markDomain_append {mark front : List Char} (h : '@' ∉ front) (domain : List Char) :
    markDomain mark (front ++ '@' :: domain) = front ++ mark ++ '@' :: domain := by
  induction front with
  | nil => rfl
  | cons c rest ih =>
    rw [List.mem_cons, not_or] at h
    rw [List.cons_append, markDomain, if_neg fun hat => h.1 hat.symm, ih h.2]
    rfl

theorem at_mem_markDomain {mark name : List Char} (h : '@' ∉ mark) :
    '@' ∈ markDomain mark name ↔ '@' ∈ name := by
  constructor
  · exact fun hmem => (mem_markDomain hmem).resolve_left h
  · intro hmem
    obtain ⟨front, domain, rfl, hfront⟩ := List.eq_append_cons_of_mem hmem
    rw [markDomain_append hfront]
    simp

theorem takeWhile_append {front : List Char} (h : '@' ∉ front) (domain : List Char) :
    (front ++ '@' :: domain).takeWhile (fun c => c ≠ '@') = front := by
  have hkept : ∀ c ∈ front, decide (c ≠ '@') = true := fun c hc =>
    decide_eq_true fun hat => h (hat ▸ hc)
  rw [List.takeWhile_append_of_pos hkept, List.takeWhile_cons_of_neg (by decide), List.append_nil]

/-- The first `@` shows where the mark ends, and its length where it starts. -/
theorem mark_eq_of_markDomain {mark mark' name name' : List Char}
    (hlength : mark.length = mark'.length) (hmark : '@' ∉ mark) (hmark' : '@' ∉ mark')
    (hname : '@' ∈ name) (hname' : '@' ∈ name')
    (h : markDomain mark name = markDomain mark' name') : mark = mark' := by
  obtain ⟨front, domain, rfl, hfront⟩ := List.eq_append_cons_of_mem hname
  obtain ⟨front', domain', rfl, hfront'⟩ := List.eq_append_cons_of_mem hname'
  rw [markDomain_append hfront, markDomain_append hfront'] at h
  have hlocal : '@' ∉ front ++ mark := by simp [hfront, hmark]
  have hlocal' : '@' ∉ front' ++ mark' := by simp [hfront', hmark']
  have hfronts : front ++ mark = front' ++ mark' := by
    rw [← takeWhile_append hlocal domain, h, takeWhile_append hlocal' domain']
  exact (List.append_inj' hfronts hlength).2

/-- Whether two names have no domain to put a mark before, and the same letters once unsafe
characters are replaced. -/
def AreBareTwins (name name' : List Char) : Prop :=
  '@' ∉ name ∧ '@' ∉ name' ∧ name.map safeChar = name'.map safeChar

instance (name name' : List Char) : Decidable (AreBareTwins name name') :=
  inferInstanceAs (Decidable (_ ∧ _))

theorem sanitiseWith_of_raw {hash : List Char → List Char} {name : List Char}
    (h : name.any isForbidden = true) :
    sanitiseWith hash name = markDomain (hash name) (name.map safeChar) := if_pos h

/-- Unsafe names that are hashed apart have distinct safe names, unless the hash has no place in
either of them. -/
theorem sanitiseWith_eq_iff {hash : List Char → List Char} (hhash : ∀ name, IsSixDigits (hash name))
    {name name' : List Char} (hraw : name.any isForbidden = true)
    (hraw' : name'.any isForbidden = true) (hne : hash name ≠ hash name') :
    sanitiseWith hash name = sanitiseWith hash name' ↔ AreBareTwins name name' := by
  rw [sanitiseWith_of_raw hraw, sanitiseWith_of_raw hraw', AreBareTwins,
    ← at_mem_map_safeChar name, ← at_mem_map_safeChar name']
  have hmark := (hhash name).at_notMem
  have hmark' := (hhash name').at_notMem
  constructor
  · intro h
    have hboth : '@' ∈ name.map safeChar ↔ '@' ∈ name'.map safeChar := by
      rw [← at_mem_markDomain hmark, h, at_mem_markDomain hmark']
    have hbare : '@' ∉ name.map safeChar := by
      intro hmem
      have hlength := (hhash name).length.trans (hhash name').length.symm
      exact hne (mark_eq_of_markDomain hlength hmark hmark' hmem (hboth.1 hmem) h)
    have hbare' : '@' ∉ name'.map safeChar := fun hmem => hbare (hboth.2 hmem)
    rw [markDomain_of_notMem hbare, markDomain_of_notMem hbare'] at h
    exact ⟨hbare, hbare', h⟩
  · rintro ⟨hbare, hbare', hletters⟩
    rw [markDomain_of_notMem hbare, markDomain_of_notMem hbare', hletters]

/-- The same of the hash that is in use. -/
theorem sanitise_eq_iff {name name' : String} (hraw : name.toList.any isForbidden = true)
    (hraw' : name'.toList.any isForbidden = true)
    (hne : shortHash name.toList ≠ shortHash name'.toList) :
    sanitise name = sanitise name' ↔ AreBareTwins name.toList name'.toList := by
  rw [sanitise, sanitise, String.ofList_inj]
  exact sanitiseWith_eq_iff isSixDigits_shortHash hraw hraw' hne

end IdentityName

open IdentityName (sanitise sanitiseWith shortHash isForbidden IsSixDigits AreBareTwins)

/-! ## What belongs to a user -/

/-- Whether a row belongs to the user with a name: as that user's identity, as a credential or a
model that the user owns, or as a grant that the user holds. -/
def Row.BelongsTo (user : String) : {r : Relation} → Row r → Prop
  | .identity, row => row.origin = sanitise user
  | .credential, row => row.origin.owner = sanitise user
  | .model, row => row.origin.owner = sanitise user
  | .grant _, row => row.origin.identity = sanitise user
  | _, _ => False

/-- What belongs to two users is one user's. -/
theorem Row.BelongsTo.sanitise_eq {r : Relation} {row : Row r} {user user' : String}
    (h : row.BelongsTo user) (h' : row.BelongsTo user') : sanitise user = sanitise user' := by
  cases r <;> first | exact h.elim | exact h.symm.trans h'

namespace Deployment

/-- The identity that is found for a user is a row of that user. -/
theorem Reachable.of_perform_getIdentity {dep : Deployment} (h : dep.Reachable) {user : String}
    {now : Timestamp} {course : Course} {found : Identity}
    (hfound : (dep.perform now course (.getIdentity user)).1 = .ok (.entity (.identity found))) :
    found.row ∈ dep.server.database.contents.identity ∧ found.row.BelongsTo user := by
  obtain ⟨-, row, hrow, hnames, entity, hreply, hentity⟩ :=
    h.of_perform_retrieval (.identity user) hfound
  cases hreply
  cases hentity
  exact ⟨hrow, hnames⟩

/-- Whatever the hash is, two unsafe names that it tells apart have distinct safe names, unless they
are bare twins.  So users with such names have no row in common, and each finds an identity of
their own. -/
theorem Reachable.users_apart {dep : Deployment} (h : dep.Reachable) :
    (∀ hash : List Char → List Char, (∀ name, IsSixDigits (hash name)) →
      ∀ name name' : List Char, name.any isForbidden = true → name'.any isForbidden = true →
        hash name ≠ hash name' →
          (sanitiseWith hash name = sanitiseWith hash name' ↔ AreBareTwins name name')) ∧
    ∀ user user' : String,
      user.toList.any isForbidden = true → user'.toList.any isForbidden = true →
      shortHash user.toList ≠ shortHash user'.toList →
      ¬AreBareTwins user.toList user'.toList →
        (∀ (r : Relation) (row : Row r), ¬(row.BelongsTo user ∧ row.BelongsTo user')) ∧
        ∀ now course now' course' found found',
          (dep.perform now course (.getIdentity user)).1 = .ok (.entity (.identity found)) →
          (dep.perform now' course' (.getIdentity user')).1 = .ok (.entity (.identity found')) →
            found.row.id ≠ found'.row.id := by
  refine ⟨fun hash hhash name name' => IdentityName.sanitiseWith_eq_iff hhash, ?_⟩
  intro user user' hraw hraw' hne htwins
  have hapart : sanitise user ≠ sanitise user' := fun heq =>
    htwins ((IdentityName.sanitise_eq_iff hraw hraw' hne).1 heq)
  refine ⟨fun r row hboth => hapart (hboth.1.sanitise_eq hboth.2), ?_⟩
  intro now course now' course' found found' hfound hfound' hid
  obtain ⟨hstored, hmine⟩ := h.of_perform_getIdentity hfound
  obtain ⟨hstored', hyours⟩ := h.of_perform_getIdentity hfound'
  have hsame : found.row = found'.row :=
    h.sound.distinct.eq hstored hstored' hid
  rw [hsame] at hmine
  exact hapart (hmine.sanitise_eq hyours)

/-- Two users whose names have a domain hold one grant each on the same cloud. -/
theorem Reachable.users_apart_corp :
    let dep := (initial .default).run
      [.migrate .undisturbed false,
        .perform ⟨0, 0⟩ .undisturbed (.addCloud ⟨"aws", ⟨"ec2", "", [], .none, [], .empty⟩, []⟩),
        .perform ⟨60, 0⟩ .undisturbed (.assignCloudGrant "aws" "a_b@corp" (some .admin)),
        .perform ⟨120, 0⟩ .undisturbed (.assignCloudGrant "aws" "a=b@corp" (some .addModel))]
    sanitise "a_b@corp" ≠ sanitise "a=b@corp" ∧
    (dep.server.database.contents.get (.grant .cloud)).map
        (fun row => (row.origin.identity, row.settings.access)) =
      [("a-b8f2c44@corp", .admin), ("a-b5f967b@corp", .addModel)] ∧
    (∀ (r : Relation) (row : Row r), ¬(row.BelongsTo "a_b@corp" ∧ row.BelongsTo "a=b@corp")) := by
  intro dep
  have hreachable : dep.Reachable := ⟨.default, _, rfl⟩
  have hapart := Reachable.users_apart hreachable
  have hsafe := hapart.1 shortHash IdentityName.isSixDigits_shortHash "a_b@corp".toList
    "a=b@corp".toList (by decide) (by decide) (by decide +kernel)
  have hdistinct : sanitise "a_b@corp" ≠ sanitise "a=b@corp" := by
    rw [sanitise, sanitise, Ne, String.ofList_inj, hsafe]
    decide
  have hrows := hapart.2 "a_b@corp" "a=b@corp" (by decide) (by decide) (by decide +kernel)
    (by decide)
  exact ⟨hdistinct, by decide +kernel, hrows.1⟩

/-- Names without a domain: the hashes differ, the safe names do not, and what is granted to one
user the other holds. -/
theorem bare_twins_meet :
    let dep := (initial .default).run
      [.migrate .undisturbed false,
        .perform ⟨0, 0⟩ .undisturbed (.addCloud ⟨"aws", ⟨"ec2", "", [], .none, [], .empty⟩, []⟩),
        .perform ⟨60, 0⟩ .undisturbed (.assignCloudGrant "aws" "a_b" (some .admin))]
    "a_b" ≠ "a=b" ∧ "a_b".toList.any isForbidden = true ∧ "a=b".toList.any isForbidden = true ∧
    shortHash "a_b".toList ≠ shortHash "a=b".toList ∧
    sanitise "a_b" = "a-b" ∧ sanitise "a=b" = "a-b" ∧
    (∃ row ∈ dep.server.database.contents.identity,
      row.BelongsTo "a_b" ∧ row.BelongsTo "a=b") ∧
    ∃ row ∈ dep.server.database.contents.get (.grant .cloud),
      row.BelongsTo "a_b" ∧ row.BelongsTo "a=b" := by
  intro dep
  have hsafe : sanitise "a_b" = "a-b" ∧ sanitise "a=b" = "a-b" := by decide +kernel
  have hidentity : ∃ row ∈ dep.server.database.contents.identity, row.origin = "a-b" := by
    decide +kernel
  have hgrant : ∃ row ∈ dep.server.database.contents.get (.grant .cloud),
      row.origin.identity = "a-b" := by
    decide +kernel
  refine ⟨by decide, by decide, by decide, by decide +kernel, hsafe.1, hsafe.2, ?_, ?_⟩
  · obtain ⟨row, hrow, hname⟩ := hidentity
    exact ⟨row, hrow, hname.trans hsafe.1.symm, hname.trans hsafe.2.symm⟩
  · obtain ⟨row, hrow, hname⟩ := hgrant
    exact ⟨row, hrow, hname.trans hsafe.1.symm, hname.trans hsafe.2.symm⟩

end Deployment
end ControlPlane
