/-
  What is attested of a credential, and where it is anchored.

  The hash is taken of the input and the row is written from the input, each after a normalisation of
  its own.  Normalising twice changes nothing, so the payload can be built again from the row; and it
  is read back field by field, so rows with one payload agree in what it covers.

  The anchor is another matter.  `validate_input` looks at the raw strings, the CHECK of the table at
  the sanitized ones, and a blank string is something to the first and nothing to the second.

  The plan: sanitizing is idempotent, so the payload of the row is that of the request
  (`payload_issued`); the payload is injective in the fields that it covers
  (`canonicalPayload_injective`); and the two rules about the anchor agree for an exact class of
  inputs (`anchor_rules_agree_iff`).
-/
import EduStell.Credentials.Visibility
import EduStell.Integrity.Restrictions
import Mathlib.Data.List.DropRight

namespace EduStell

/-! ## Normal forms

  What is stored of a text is its normal form, and the normal form of that is itself. -/

/-- What is left when blanks are dropped at the end begins as before. -/
theorem dropWhile_rdropWhile {α : Type} (p : α → Bool) (l : List α) :
    ((l.dropWhile p).rdropWhile p).dropWhile p = (l.dropWhile p).rdropWhile p := by
  have hkept : (l.dropWhile p).rdropWhile p <+: l.dropWhile p := List.rdropWhile_prefix p _
  refine List.dropWhile_eq_self_iff.mpr fun hpos => ?_
  have hfirst := List.dropWhile_get_zero_not p l (Nat.lt_of_lt_of_le hpos hkept.length_le)
  rw [hkept.getElem hpos]
  exact hfirst

/-- Trimming on the lists of characters. -/
theorem trim_eq (s : String) :
    trim s = String.ofList ((s.toList.dropWhile isWhitespace).rdropWhile isWhitespace) := rfl

/-- Trimming a trimmed text leaves it. -/
theorem trim_trim (s : String) : trim (trim s) = trim s := by
  rw [trim_eq, trim_eq, String.toList_ofList, dropWhile_rdropWhile, List.rdropWhile_idempotent]

/-- What is stored of an input is stored as it is when it comes back. -/
theorem sanitizeOptional_idem (value : Option String) :
    sanitizeOptional (sanitizeOptional value) = sanitizeOptional value := by
  cases h : sanitizeOptional value with
  | none => rfl
  | some text =>
    obtain ⟨htrim, hne⟩ := sanitizeOptional_eq_some.mp h
    obtain ⟨raw, -, rfl⟩ := Option.map_eq_some_iff.mp htrim
    exact sanitizeOptional_eq_some.mpr ⟨congrArg some (trim_trim raw), hne⟩

namespace Credentials

open Txn

/-! ## The payload of a row

  The row holds normal forms where the input held raw texts, and otherwise the same values.
  `text` and `sha256` stay parameters; the payload itself is compared as a JSON value. -/

/-- A stored row, as if it were asked for again. -/
def CredentialRow.asInput (r : CredentialRow) : IssueCredentialInput where
  childProfileId := r.childProfileId
  recipientUserId := r.recipientUserId
  schoolId := r.schoolId
  achievementType := r.achievementType
  title := r.title
  description := r.description
  achievementDate := r.achievementDate
  issuanceNotes := r.issuanceNotes
  evidenceUri := r.evidenceUri
  attestationAnchor := r.attestationAnchor
  attestationAnchorNetwork := r.attestationAnchorNetwork
  metadata := r.metadata

/-- The payload, built from the row alone. -/
def CredentialRow.payload (r : CredentialRow) : Value :=
  canonicalPayload r.credentialRef r.asInput r.issuedByUserId

/-- Two rows agree in everything that the payload covers. -/
structure SameCovered (r r' : CredentialRow) : Prop where
  credentialRef : r.credentialRef = r'.credentialRef
  childProfileId : r.childProfileId = r'.childProfileId
  recipientUserId : r.recipientUserId = r'.recipientUserId
  schoolId : r.schoolId = r'.schoolId
  achievementType : r.achievementType = r'.achievementType
  title : r.title = r'.title
  description : r.description = r'.description
  achievementDate : r.achievementDate = r'.achievementDate
  issuedByUserId : r.issuedByUserId = r'.issuedByUserId
  issuanceNotes : r.issuanceNotes = r'.issuanceNotes
  evidenceUri : r.evidenceUri = r'.evidenceUri
  metadata : r.metadata = r'.metadata

/-- Two ids that are written alike are one. -/
theorem ofUuid_injective {u v : Uuid} (h : Value.ofUuid u = .ofUuid v) : u = v := by
  have hread := Uuid.parseStr_hyphenated u
  rw [Value.string.inj h, Uuid.parseStr_hyphenated] at hread
  exact (Option.some.inj hread).symm

/-- An option is read back where `null` is not the text of a value. -/
theorem ofOption_injective {α : Type} {f : α → Value} (hf : ∀ a b, f a = f b → a = b)
    (hnull : ∀ a, f a ≠ .null) {o o' : Option α} (h : Value.ofOption f o = .ofOption f o') :
    o = o' := by
  cases o with
  | none =>
    cases o' with
    | none => rfl
    | some b => exact absurd h.symm (hnull b)
  | some a =>
    cases o' with
    | none => exact absurd h (hnull a)
    | some b => exact congrArg some (hf a b h)

/-- Two optional ids that are written alike are one. -/
theorem ofOption_uuid_injective {o o' : Option Uuid}
    (h : Value.ofOption .ofUuid o = .ofOption .ofUuid o') : o = o' :=
  ofOption_injective (fun _ _ => ofUuid_injective) (fun _ => nofun) h

/-- Two optional texts that are written alike are one. -/
theorem ofOption_string_injective {o o' : Option String}
    (h : Value.ofOption .string o = .ofOption .string o') : o = o' :=
  ofOption_injective (fun _ _ => Value.string.inj) (fun _ => nofun) h

/-- The names of the types are different. -/
theorem achievementType_injective {a b : AchievementCredentialType} (h : a.asStr = b.asStr) :
    a = b := by
  revert h
  cases a <;> cases b <;> decide

/-- Requests with one payload agree in it field by field, in their normal forms. -/
theorem canonicalPayload_injective {ref ref' : Uuid} {input input' : IssueCredentialInput}
    {issuer issuer' : Uuid}
    (h : canonicalPayload ref input issuer = canonicalPayload ref' input' issuer') :
    ref = ref' ∧ input.childProfileId = input'.childProfileId ∧
    input.recipientUserId = input'.recipientUserId ∧ input.schoolId = input'.schoolId ∧
    input.achievementType = input'.achievementType ∧ trim input.title = trim input'.title ∧
    sanitizeOptional input.description = sanitizeOptional input'.description ∧
    input.achievementDate = input'.achievementDate ∧ issuer = issuer' ∧
    sanitizeOptional input.issuanceNotes = sanitizeOptional input'.issuanceNotes ∧
    sanitizeOptional input.evidenceUri = sanitizeOptional input'.evidenceUri ∧
    input.metadata = input'.metadata := by
  simp only [canonicalPayload, Value.object.injEq, List.cons.injEq, Prod.mk.injEq,
    Value.string.injEq, true_and, and_true] at h
  obtain ⟨href, hchild, hrecipient, hschool, htype, htitle, hdescription, hdate, hissuer, hnotes,
    hevidence, hmetadata⟩ := h
  exact ⟨ofUuid_injective href, ofUuid_injective hchild, ofOption_uuid_injective hrecipient,
    ofOption_uuid_injective hschool, achievementType_injective htype, htitle,
    ofOption_string_injective hdescription, NaiveDate.iso_injective hdate,
    ofUuid_injective hissuer, ofOption_string_injective hnotes,
    ofOption_string_injective hevidence, hmetadata⟩

/-! ## An issuance

  An issuance that is answered has stored its row, and the row is found under its id. -/

section

variable {digest : Digest} {draw : IssueDraw} {actor : AuthenticatedUser}
  {input : IssueCredentialInput} {s s' : CredentialDb} {r : CredentialRow}

/-- An insert that goes through stores the row with the time of the database. -/
theorem createWithAudit_ok {credential : CredentialRow} {now : DateTime} {auditLog : AuditLog}
    (h : createWithAudit credential now auditLog s = .ok (r, s')) :
    r = { credential with createdAt := now.toTimestamptz } ∧
    s'.credentials.find r.id = some r ∧
    anchorRequiresNetwork r.attestationAnchor r.attestationAnchorNetwork = true := by
  unfold createWithAudit at h
  simp only at h
  split at h
  · cases h
  rename_i hanchor
  split at h
  · cases h
  split at h
  · cases h
  rename_i hid
  -- the remaining constraints: references and unique keys
  repeat' split at h
  all_goals cases h
  refine ⟨rfl, ?_, by simpa using hanchor⟩
  have hfree : s.credentials.find credential.id = none := Option.not_isSome_iff_eq_none.mp hid
  exact (Table.find_insert _ _ _).trans (by simp [hfree, Keyed.key])

/-- An issuance answers with the row that it stores, created at the instant of the INSERT. -/
theorem issueCredential_ok (h : issueCredential digest draw actor input s = .ok (r, s')) :
    r = { issuedCredential digest draw actor input with
      createdAt := draw.insertedAt.toTimestamptz } ∧
    s'.credentials.find r.id = some r := by
  unfold issueCredential at h
  cases hchild : s.childProfiles.find input.childProfileId with
  | none => rw [hchild] at h; cases h
  | some child =>
    simp only [hchild] at h
    cases hissuer : validateIssuer actor input.schoolId s with
    | error e => rw [hissuer] at h; cases h
    | ok u =>
      rw [hissuer] at h
      cases hinput : validateInput input child.toChildProfile with
      | error e => rw [hinput] at h; cases h
      | ok u =>
        rw [hinput] at h
        obtain ⟨hrow, hfind, -⟩ := createWithAudit_ok (ok_of_mapError h)
        exact ⟨hrow, hfind⟩

/-- The input and the row that comes of it have one payload. -/
theorem payload_issued (digest : Digest) :
    canonicalPayload draw.credentialRef input actor.userId =
      (issuedCredential digest draw actor input).payload := by
  unfold CredentialRow.payload CredentialRow.asInput issuedCredential canonicalPayload
  simp only [trim_trim, sanitizeOptional_idem]

/-- **The stored hash can be verified again**: it is the hash of the payload that the row itself gives,
    and payloads with one text come from rows that agree in everything they cover.

    The first part is about one issuance: the row is stored, and its payload is rebuilt from the row
    alone.  The second compares two issuances, under the one assumption that is made on the text of
    JSON values: these two payloads do not have the same text unless they are equal. -/
theorem attestation_reverifies (h : issueCredential digest draw actor input s = .ok (r, s')) :
    (s'.credentials.find r.id = some r ∧
      canonicalPayload draw.credentialRef input actor.userId = r.payload ∧
      r.attestationHash = digest.sha256 (digest.text r.payload)) ∧
    ∀ draw' actor' input' t r' t', issueCredential digest draw' actor' input' t = .ok (r', t') →
      let payload := canonicalPayload draw.credentialRef input actor.userId
      let payload' := canonicalPayload draw'.credentialRef input' actor'.userId
      (digest.text payload = digest.text payload' → payload = payload') →
      digest.text payload = digest.text payload' → SameCovered r r' := by
  obtain ⟨rfl, hfind⟩ := issueCredential_ok h
  refine ⟨⟨hfind, payload_issued digest, ?_⟩, ?_⟩
  · exact congrArg (fun v => digest.sha256 (digest.text v)) (payload_issued digest)
  · intro draw' actor' input' t r' t' h' payload payload' hinj htext
    obtain ⟨rfl, -⟩ := issueCredential_ok h'
    obtain ⟨href, hchild, hrecipient, hschool, htype, htitle, hdescription, hdate, hissuer, hnotes,
      hevidence, hmetadata⟩ := canonicalPayload_injective (hinj htext)
    exact ⟨href, hchild, hrecipient, hschool, htype, htitle, hdescription, hdate, hissuer, hnotes,
      hevidence, hmetadata⟩

end

namespace Scenario

open EduStell.Scenario

/-- Two requests for one credential: the second is padded, and anchored. -/
def plain : IssueCredentialInput where
  childProfileId := 103
  recipientUserId := some 3
  schoolId := none
  achievementType := .academicExcellence
  title := "Top 1%"
  description := none
  achievementDate := first
  issuanceNotes := some "first term"
  evidenceUri := none
  attestationAnchor := none
  attestationAnchorNetwork := none
  metadata := .object []

/-- The plain input with blanks around its texts, and with an anchor. -/
def padded : IssueCredentialInput := { plain with
  title := " Top 1%\n"
  description := some "  "
  issuanceNotes := some "first term "
  attestationAnchor := some "tx-1"
  attestationAnchorNetwork := some "stellar" }

/-- The ids that the issuance draws, and its instants. -/
def draw : IssueDraw := ⟨7, 8, 0, 0⟩

/-- The text of the payload of both, and its hash. -/
def digest : Digest where
  text _ :=
    "\x7b\"achievement_date\":\"2026-04-01\",\"achievement_type\":\"academic_excellence\"," ++
    "\"child_profile_id\":\"00000000-0000-0000-0000-000000000067\"," ++
    "\"credential_ref\":\"00000000-0000-0000-0000-000000000008\",\"description\":null," ++
    "\"evidence_uri\":null,\"issuance_notes\":\"first term\"," ++
    "\"issued_by_user_id\":\"00000000-0000-0000-0000-000000000009\",\"metadata\":\x7b\x7d," ++
    "\"recipient_user_id\":\"00000000-0000-0000-0000-000000000003\",\"school_id\":null," ++
    "\"title\":\"Top 1%\"\x7d"
  sha256 _ := "d53eb449f2dbccff8fa792085a6979089e3a0a4ac7263545b81586e6ab422c34"

end Scenario

open Credentials.Scenario (plain padded draw digest school)

/-- Both inputs are issued with the same covered fields, and the hash is that of the row. -/
theorem attestation_reverifies_padded :
    ∃ r s' r' t', issueCredential digest draw EduStell.Scenario.admin plain school = .ok (r, s') ∧
      issueCredential digest draw EduStell.Scenario.admin padded school = .ok (r', t') ∧
      r.attestationHash = digest.sha256 (digest.text r.payload) ∧ SameCovered r r' := by
  obtain ⟨r, s', h⟩ : ∃ r s',
      issueCredential digest draw EduStell.Scenario.admin plain school = .ok (r, s') := ⟨_, _, rfl⟩
  obtain ⟨r', t', h'⟩ : ∃ r' t',
      issueCredential digest draw EduStell.Scenario.admin padded school = .ok (r', t') := ⟨_, _, rfl⟩
  obtain ⟨⟨-, -, hhash⟩, hsame⟩ := attestation_reverifies h
  exact ⟨r, s', r', t', h, h', hhash, hsame _ _ _ _ _ _ h' (fun _ => rfl) rfl⟩

/-! ## The anchor and its network

  Two rules for one thing: the service asks whether an anchor is given, the CHECK whether one is
  stored.  They part where what is given is blank. -/

/-- Text that is given, but leaves nothing when it is sanitized. -/
def Blank (value : Option String) : Prop := value.isSome = true ∧ sanitizeOptional value = none

/-- Whether an optional text is blank can be decided. -/
instance (value : Option String) : Decidable (Blank value) := inferInstanceAs (Decidable (_ ∧ _))

/-- The two rules about the anchor see the same. -/
def AnchorReadAlike (input : IssueCredentialInput) : Prop :=
  ¬ (Blank input.attestationAnchor ∧ input.attestationAnchorNetwork = none) ∧
  ¬ ((sanitizeOptional input.attestationAnchor).isSome = true ∧ Blank input.attestationAnchorNetwork)

/-- The input is turned down before the anchor is looked at. -/
def RefusedBefore (input : IssueCredentialInput) (child : ChildProfile) : Prop :=
  (trim input.title).isEmpty = true ∨ input.recipientUserId = some child.ownerUserId

/-- A sanitized network is never empty, so the CHECK asks for its presence. -/
theorem anchorRequiresNetwork_sanitized (anchor network : Option String) :
    anchorRequiresNetwork (sanitizeOptional anchor) (sanitizeOptional network) = true ↔
      (sanitizeOptional anchor = none ∨ (sanitizeOptional network).isSome = true) := by
  unfold anchorRequiresNetwork
  cases hanchor : sanitizeOptional anchor with
  | none => simp
  | some a =>
    cases hnetwork : sanitizeOptional network with
    | none => simp
    | some n =>
      obtain ⟨-, hne⟩ := sanitizeOptional_eq_some.mp hnetwork
      -- `length(attestation_anchor_network) > 0` is met by any text that is left
      have hpos : 0 < n.length := by
        rw [Nat.pos_iff_ne_zero]
        exact fun hzero => hne (String.length_eq_zero_iff.mp hzero)
      simp [hpos]

/-- An input that is not refused for something else is refused exactly for a missing network. -/
theorem validateInput_eq {input : IssueCredentialInput} {child : ChildProfile}
    (h : ¬ RefusedBefore input child) :
    validateInput input child =
      if input.attestationAnchor.isSome && input.attestationAnchorNetwork.isNone then
        .error networkRequired
      else .ok () := by
  rw [validateInput, if_neg fun htitle => h (.inl htitle), if_neg fun hguardian => h (.inr hguardian)]

/-- An input that passes makes a row that the CHECK lets in, and one whose row would be let in is not
    turned down for want of a network. -/
def AnchorRulesAgree (row : CredentialRow) (input : IssueCredentialInput) (child : ChildProfile) :
    Prop :=
  (validateInput input child = .ok () →
    anchorRequiresNetwork row.attestationAnchor row.attestationAnchorNetwork = true) ∧
  (anchorRequiresNetwork row.attestationAnchor row.attestationAnchorNetwork = true →
    validateInput input child ≠ .error networkRequired)

/-- An input that is refused for something else is not refused for a missing network. -/
theorem validateInput_refused {input : IssueCredentialInput} {child : ChildProfile}
    (h : RefusedBefore input child) :
    validateInput input child ≠ .ok () ∧ validateInput input child ≠ .error networkRequired := by
  unfold validateInput
  by_cases htitle : (trim input.title).isEmpty = true
  · rw [if_pos htitle]
    exact ⟨nofun, by decide⟩
  · rw [if_neg htitle, if_pos (h.resolve_left htitle)]
    exact ⟨nofun, by decide⟩

/-- **What is validated is what is checked** for exactly the inputs that do not get so far, or whose
    anchor and network both rules read alike.

    The service asks whether the anchor and the network are there at all; the row has both after
    trimming, where a blank text is none, and it is the row that the CHECK looks at.  The two
    clauses of `AnchorReadAlike` are the two ways in which this makes a difference. -/
theorem anchor_rules_agree_iff (digest : Digest) (draw : IssueDraw) (actor : AuthenticatedUser)
    (input : IssueCredentialInput) (child : ChildProfile) :
    AnchorRulesAgree (issuedCredential digest draw actor input) input child ↔
      RefusedBefore input child ∨ AnchorReadAlike input := by
  simp only [AnchorRulesAgree, issuedCredential, anchorRequiresNetwork_sanitized]
  by_cases hbefore : RefusedBefore input child
  · obtain ⟨hok, hnetwork⟩ := validateInput_refused hbefore
    exact iff_of_true ⟨fun h => absurd h hok, fun _ => hnetwork⟩ (.inl hbefore)
  · rw [validateInput_eq hbefore]
    simp only [hbefore, false_or, AnchorReadAlike, Blank]
    cases hanchor : input.attestationAnchor with
    | none => simp [sanitizeOptional]
    | some a =>
      cases hnetwork : input.attestationAnchorNetwork with
      | none => simp [sanitizeOptional]
      | some n =>
        simp only [Option.isSome_some, Option.isNone_some, Bool.and_false, Bool.false_eq_true,
          if_false, reduceCtorEq, and_false, not_false_eq_true, true_and, forall_const, ne_eq,
          implies_true, and_true]
        -- both given: only the sanitized forms decide
        cases sanitizeOptional (some a) <;> cases sanitizeOptional (some n) <;> simp

namespace Scenario

/-- Anchored in a network without a name, and in no network with an anchor that is blank. -/
def namelessNetwork : IssueCredentialInput := { plain with
  attestationAnchor := some "tx-1"
  attestationAnchorNetwork := some "  " }

/-- An anchor of blanks without a network, which would be stored as none. -/
def blankAnchor : IssueCredentialInput := { plain with
  attestationAnchor := some "  "
  attestationAnchorNetwork := none }

end Scenario

open Credentials.Scenario (namelessNetwork blankAnchor)

/-- The first passes and is refused by the CHECK; the second would be let in and is turned down.

    In the first input the network is a blank text: it is there, but nothing of it is stored.  In
    the second the anchor is blank and no network is given: the anchor would not be stored, but it
    is there. -/
theorem anchor_rules_differ :
    (validateInput namelessNetwork ⟨103, 1, none⟩ = .ok () ∧
      issueCredential digest draw EduStell.Scenario.admin namelessNetwork school =
        .error (.repository ("error returned from database: new row for relation " ++
          "\"achievement_credentials\" violates check constraint " ++
          "\"achievement_credentials_anchor_requires_network\""))) ∧
    (anchorRequiresNetwork (sanitizeOptional blankAnchor.attestationAnchor)
        (sanitizeOptional blankAnchor.attestationAnchorNetwork) = true ∧
      issueCredential digest draw EduStell.Scenario.admin blankAnchor school =
        .error networkRequired) ∧
    ¬ AnchorRulesAgree (issuedCredential digest draw EduStell.Scenario.admin namelessNetwork)
      namelessNetwork ⟨103, 1, none⟩ ∧
    ¬ AnchorRulesAgree (issuedCredential digest draw EduStell.Scenario.admin blankAnchor)
      blankAnchor ⟨103, 1, none⟩ := by
  refine ⟨⟨rfl, rfl⟩, ⟨rfl, rfl⟩, fun h => ?_, fun h => ?_⟩
  · cases h.1 rfl
  · exact h.2 rfl rfl

end Credentials
end EduStell
