/-
  Who sees which credentials: the list and the single lookup agree.

  The lookup decides for one credential, by the role of the actor; the list asks the database for a
  selection that depends on the role.  `MaySee` is the rule that both follow.  The parent's list is
  put together from the lists of the children: a credential is about one child, so the lists do not
  overlap, and the removal of repeated neighbours has nothing to remove.

  The plan: `MaySee` decides the lookup (`getCredential_ok`); the selection for a role has nothing
  else in it (`listedItems_sound`) and nothing less (`listedItems_complete`); sorting keeps both.
-/
import EduStell.Credentials.Service
import EduStell.Scenario

namespace EduStell.Credentials

open Txn

/-- The rule of visibility. -/
def MaySee (actor : AuthenticatedUser) (s : CredentialDb) (c : CredentialRow) : Prop :=
  match actor.role with
  | .platformAdmin => True
  | .student => c.recipientUserId = some actor.userId
  | .schoolAdmin => c.issuedByUserId = actor.userId
  | .parent => ∃ child, s.childProfiles.find c.childProfileId = some child ∧
    child.ownerUserId = actor.userId
  | .contributor | .donor => False

/-- Later achievements first, and of those of one day the later record. -/
def LaterFirst (a b : CredentialRow) : Prop :=
  b.achievementDate < a.achievementDate ∨
  b.achievementDate = a.achievementDate ∧ b.createdAt ≤ a.createdAt

/-! ## The lookup

  `getCredential` answers with the row if `MaySee` holds of it, and with a refusal otherwise. -/

/-- A guard lets its value through. -/
theorem guarded_ok {α ε : Type} {p : Prop} [Decidable p] {a b : α} {e : ε} :
    (if p then Except.ok a else Except.error e) = .ok b ↔ a = b ∧ p := by
  split
  · rename_i hp
    exact ⟨fun h => ⟨Except.ok.inj h, hp⟩, fun h => congrArg Except.ok h.1⟩
  · rename_i hp
    exact ⟨fun h => (nomatch h), fun h => absurd h.2 hp⟩

section

variable {actor : AuthenticatedUser} {s : CredentialDb}

/-- The lookup answers with the row, to those who may see it. -/
theorem getCredential_ok {id : Uuid} {c : CredentialRow} :
    getCredential actor id s = .ok c ↔ s.credentials.find id = some c ∧ MaySee actor s c := by
  unfold getCredential MaySee
  cases hfind : s.credentials.find id with
  | none => simp
  | some credential =>
    simp only [Option.some.injEq]
    cases hrole : actor.role with
    | platformAdmin => simp
    | contributor => simp
    | donor => simp
    | student => exact guarded_ok.trans (and_congr_right fun h => by rw [h])
    | schoolAdmin => exact guarded_ok.trans (and_congr_right fun h => by rw [h])
    | parent =>
      cases hchild : s.childProfiles.find credential.childProfileId with
      | none =>
        refine ⟨fun h => (nomatch h), ?_⟩
        rintro ⟨rfl, child, hfound, -⟩
        cases hchild.symm.trans hfound
      | some child =>
        refine guarded_ok.trans (and_congr_right ?_)
        rintro rfl
        refine ⟨fun hmine => ⟨child, hchild, hmine⟩, ?_⟩
        rintro ⟨child', hfound, hmine⟩
        obtain rfl := Option.some.inj (hchild.symm.trans hfound)
        exact hmine

/-- For a row of the table. -/
theorem getCredential_row {c : CredentialRow} :
    getCredential actor c.id s = .ok c ↔ c ∈ s.credentials.rows ∧ MaySee actor s c := by
  rw [getCredential_ok]
  exact and_congr_left fun _ => ⟨fun h => (Table.find_some h).1, fun h => Table.find_key h⟩

/-! ## The lists of the database

  What each query selects, as membership; the order plays no part in who sees what. -/

/-- The credentials of a child. -/
theorem mem_listByChildProfile {id : Uuid} {c : CredentialRow} :
    c ∈ listByChildProfile id s ↔ c ∈ s.credentials.rows ∧ c.childProfileId = id := by
  rw [listByChildProfile, mem_orderByDesc, List.mem_filter, decide_eq_true_iff]

/-- The credentials of a recipient. -/
theorem mem_listByRecipient {id : Uuid} {c : CredentialRow} :
    c ∈ listByRecipient id s ↔ c ∈ s.credentials.rows ∧ c.recipientUserId = some id := by
  rw [listByRecipient, mem_orderByDesc, List.mem_filter, decide_eq_true_iff]

/-- The credentials of an issuer. -/
theorem mem_listByIssuer {id : Uuid} {c : CredentialRow} :
    c ∈ listByIssuer id s ↔ c ∈ s.credentials.rows ∧ c.issuedByUserId = id := by
  rw [listByIssuer, mem_orderByDesc, List.mem_filter, decide_eq_true_iff]

/-- The children of a guardian. -/
theorem mem_listByOwner {id : Uuid} {child : ChildProfileRow} :
    child ∈ listByOwner id s ↔ child ∈ s.childProfiles.rows ∧ child.ownerUserId = id := by
  rw [listByOwner, mem_orderByDesc, List.mem_filter, decide_eq_true_iff]

/-- Rows of the table, none of them twice. -/
theorem nodup_orderByDesc {ν : Type} [LinearOrder ν] (f : CredentialRow → ν)
    (p : CredentialRow → Bool) :
    ((orderByDesc f (s.credentials.rows.filter p)).map (·.id)).Nodup :=
  ((perm_orderByDesc f _).map _).nodup_iff.mpr (s.credentials.nodup_filter p)

/-- The credentials of all children of a parent. -/
theorem nodup_ofChildren {ownerUserId : Uuid} :
    (((listByOwner ownerUserId s).flatMap fun child => listByChildProfile child.id s).map
      (·.id)).Nodup := by
  have hchildren : ((listByOwner ownerUserId s).map (·.id)).Nodup :=
    ((perm_orderByDesc _ _).map _).nodup_iff.mpr (s.childProfiles.nodup_filter _)
  have hflat := s.credentials.nodup_flatMap (fun c => c.childProfileId) hchildren
    (fun id => listByChildProfile id s) fun id => perm_orderByDesc _ _
  rw [List.flatMap_map] at hflat
  exact hflat

/-! ## The selection for a role

  Soundness and completeness of the selection, role by role.  The list of an administrator ends
  after 200 rows, so completeness is about the other roles. -/

/-- What is listed may be seen, and is listed once. -/
theorem listedItems_sound {filter : CredentialListFilter} {items : List CredentialRow}
    (h : listedItems actor filter s = .ok items) :
    (items.map (·.id)).Nodup ∧ ∀ c ∈ items, c ∈ s.credentials.rows ∧ MaySee actor s c := by
  unfold listedItems at h
  unfold MaySee
  cases hrole : actor.role with
  | parent =>
    simp only [hrole] at h
    split at h
    · rename_i childProfileId hfilter
      split at h
      · cases h
      · rename_i child hchild
        split at h
        · cases h
        · rename_i hmine
          cases h
          refine ⟨nodup_orderByDesc _ _, fun c hc => ?_⟩
          obtain ⟨hrow, rfl⟩ := mem_listByChildProfile.mp hc
          exact ⟨hrow, child, hchild, not_not.mp hmine⟩
    · cases h
      refine ⟨nodup_ofChildren, fun c hc => ?_⟩
      -- without a filter: the lists of all children, one after the other
      obtain ⟨child, hchild, hc⟩ := List.mem_flatMap.mp hc
      obtain ⟨hmem, howner⟩ := mem_listByOwner.mp hchild
      obtain ⟨hrow, hof⟩ := mem_listByChildProfile.mp hc
      exact ⟨hrow, child, hof ▸ Table.find_key hmem, howner⟩
  | student =>
    simp only [hrole] at h
    split at h
    · cases h
    · cases h
      exact ⟨nodup_orderByDesc _ _, fun c hc => mem_listByRecipient.mp hc⟩
  | schoolAdmin =>
    simp only [hrole] at h
    split at h
    · cases h
    · cases h
      exact ⟨nodup_orderByDesc _ _, fun c hc => mem_listByIssuer.mp hc⟩
  | platformAdmin =>
    simp only [hrole] at h
    split at h
    · cases h
      exact ⟨nodup_orderByDesc _ _, fun c hc => ⟨(mem_listByIssuer.mp hc).1, trivial⟩⟩
    · split at h
      · cases h
        exact ⟨nodup_orderByDesc _ _, fun c hc => ⟨(mem_listByChildProfile.mp hc).1, trivial⟩⟩
      · cases h
        constructor
        · have hall : ((orderByDesc CredentialRow.createdAt s.credentials.rows).map (·.id)).Nodup :=
            ((perm_orderByDesc _ _).map _).nodup_iff.mpr s.credentials.nodup
          exact hall.sublist ((List.take_sublist _ _).map _)
        · exact fun c hc => ⟨mem_orderByDesc.mp (List.mem_of_mem_take hc), trivial⟩
  | contributor =>
    simp only [hrole] at h
    cases h
  | donor =>
    simp only [hrole] at h
    cases h

/-- Without a filter everything that may be seen is listed, the administrator's list apart. -/
theorem listedItems_complete
    (hrole : actor.role = .parent ∨ actor.role = .student ∨ actor.role = .schoolAdmin) :
    ∃ items, listedItems actor {} s = .ok items ∧
      ∀ c ∈ s.credentials.rows, MaySee actor s c → c ∈ items := by
  unfold listedItems MaySee
  rcases hrole with hrole | hrole | hrole
  · simp only [hrole]
    refine ⟨_, rfl, ?_⟩
    rintro c hrow ⟨child, hchild, howner⟩
    obtain ⟨hmem, hid⟩ := Table.find_some hchild
    refine List.mem_flatMap.mpr ⟨child, mem_listByOwner.mpr ⟨hmem, howner⟩, ?_⟩
    exact mem_listByChildProfile.mpr ⟨hrow, hid.symm⟩
  · simp only [hrole]
    exact ⟨_, rfl, fun c hrow hmine => mem_listByRecipient.mpr ⟨hrow, hmine⟩⟩
  · simp only [hrole]
    exact ⟨_, rfl, fun c hrow hmine => mem_listByIssuer.mpr ⟨hrow, hmine⟩⟩

/-! ## The list

  Sorting and the removal of repeated neighbours keep the set of rows, and no row comes twice. -/

/-- Sorting is all that is done to the selection. -/
theorem listCredentials_items {filter : CredentialListFilter} {items : List CredentialRow}
    (h : listedItems actor filter s = .ok items) :
    listCredentials actor filter s = .ok (orderByDesc CredentialRow.achieved items) := by
  have hnodup : ((orderByDesc CredentialRow.achieved items).map (·.id)).Nodup :=
    ((perm_orderByDesc _ _).map _).nodup_iff.mpr (listedItems_sound h).1
  rw [listCredentials, h]
  exact congrArg Except.ok (dedupByKey_of_nodup hnodup)

/-- The list begins with the latest achievement. -/
theorem laterFirst_of_achieved {a b : CredentialRow} (h : b.achieved ≤ a.achieved) :
    LaterFirst a b := by
  rw [CredentialRow.achieved, CredentialRow.achieved, Prod.Lex.toLex_le_toLex] at h
  exact h

/-- **The list and the lookup agree.**

    Three parts: without a filter the list has exactly the credentials that the actor can get, each
    once and the latest first; with a filter it has some of them; and who may not list anything may
    not get anything. -/
theorem list_agrees_with_get (actor : AuthenticatedUser) (s : CredentialDb) :
    (actor.role = .parent ∨ actor.role = .student ∨ actor.role = .schoolAdmin →
      ∃ items, listCredentials actor {} s = .ok items ∧
        (∀ c, c ∈ items ↔ getCredential actor c.id s = .ok c) ∧
        (items.map (·.id)).Nodup ∧ items.Pairwise LaterFirst) ∧
    (∀ filter items, listCredentials actor filter s = .ok items →
      ∀ c ∈ items, getCredential actor c.id s = .ok c) ∧
    (listCredentials actor {} s = .error .forbidden →
      ∀ id c, getCredential actor id s ≠ .ok c) := by
  refine ⟨fun hrole => ?_, fun filter items h c hc => ?_, fun h id c hget => ?_⟩
  · obtain ⟨selected, hselected, hall⟩ := listedItems_complete (s := s) hrole
    obtain ⟨hnodup, hsound⟩ := listedItems_sound hselected
    refine ⟨_, listCredentials_items hselected, fun c => ?_, ?_, ?_⟩
    · rw [mem_orderByDesc, getCredential_row]
      exact ⟨hsound c, fun hc => hall c hc.1 hc.2⟩
    · exact ((perm_orderByDesc _ _).map _).nodup_iff.mpr hnodup
    · exact (pairwise_orderByDesc CredentialRow.achieved selected).imp laterFirst_of_achieved
  · cases hitems : listedItems actor filter s with
    | error e =>
      rw [listCredentials, hitems] at h
      cases h
    | ok selected =>
      rw [listCredentials_items hitems] at h
      cases h
      exact getCredential_row.mpr ((listedItems_sound hitems).2 c (mem_orderByDesc.mp hc))
  · obtain ⟨-, hsee⟩ := getCredential_ok.mp hget
    unfold MaySee at hsee
    unfold listCredentials listedItems at h
    cases hrole : actor.role <;> simp only [hrole] at h hsee <;> first | exact hsee | cases h

end

namespace Scenario

open EduStell.Scenario

/-- The first three days of April 2026. -/
def first : NaiveDate := ⟨2026, 4, 1, by decide, by decide, by decide⟩

/-- A day after the first achievement. -/
def second : NaiveDate := ⟨2026, 4, 2, by decide, by decide, by decide⟩

/-- Two days after it. -/
def third : NaiveDate := ⟨2026, 4, 3, by decide, by decide, by decide⟩

/-- Credential `id` of a child, for the student with id 3. -/
def credential (id childProfileId : Uuid) (achievementDate : NaiveDate) (createdAt : DateTime) :
    CredentialRow where
  id := id
  credentialRef := id + 1000
  childProfileId := childProfileId
  recipientUserId := some 3
  schoolId := none
  achievementType := .academicExcellence
  status := .issued
  achievementDate := achievementDate
  issuedByRole := "platform_admin"
  evidenceUri := none
  attestationMethod := "sha256"
  attestationAnchor := none
  metadata := .object []
  title := "Top 1%"
  description := none
  issuedByUserId := 9
  issuanceNotes := none
  attestationHash := "0123456789abcdef0123456789abcdef"
  attestationAnchorNetwork := none
  createdAt := createdAt

/-- Two children of the parent and one of another family, with four credentials. -/
def school : CredentialDb where
  childProfiles := ⟨[⟨⟨103, 1, none⟩, 0⟩, ⟨⟨104, 1, none⟩, 5⟩, ⟨⟨105, 2, none⟩, 7⟩], by decide⟩
  schools := .empty
  userIds := [1, 2, 3, 9]
  credentials := ⟨[credential 1 103 first 10, credential 2 104 third 11,
    credential 3 105 second 12, credential 4 103 first 13], by decide⟩
  audit := []

end Scenario

/-- The parent sees the credentials of both children. -/
theorem list_agrees_with_get_parent :
    ∃ items, listCredentials EduStell.Scenario.parent {} Scenario.school = .ok items ∧
      items.map (·.id) = [2, 4, 1] ∧
      ∀ c, c ∈ items ↔ getCredential EduStell.Scenario.parent c.id Scenario.school = .ok c := by
  obtain ⟨items, hitems, hsame, -, -⟩ :=
    (list_agrees_with_get EduStell.Scenario.parent Scenario.school).1 (.inl rfl)
  refine ⟨items, hitems, ?_, hsame⟩
  obtain rfl := Except.ok.inj hitems
  decide

end EduStell.Credentials
