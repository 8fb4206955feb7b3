/-
  A stored application meets the restrictions of its pool, field by field as they are stored.

  The check compares the raw input, trimmed, with the pool's restriction; what is stored is
  `sanitizeOptional` of the input, which drops a text of blanks.  The two agree where the restriction
  is not the empty text, and a stored restriction never is, because it was sanitized itself.  The
  level of education may come from the child's profile; it is the same value that is checked and
  stored.

  Both theorems are about every request: `restrictions_met` for serial runs, and
  `restrictions_met_interleaved` for any interleaving.
-/
import EduStell.Scenario
import EduStell.Scholarships.Books
import EduStell.Spec.Details

namespace EduStell

open Txn Scholarships

/-! ## The two normalisations

  The check trims the input, and the row holds it sanitized.  They differ in a text of blanks, and
  that does not matter against a restriction that was stored. -/

/-- What is stored of an input is its trimmed text, unless that is empty. -/
theorem sanitizeOptional_eq_some {value : Option String} {text : String} :
    sanitizeOptional value = some text ↔ value.map trim = some text ∧ text ≠ "" := by
  cases value with
  | none => simp [sanitizeOptional]
  | some item =>
    simp only [sanitizeOptional, Option.bind_some, Option.map_some, Option.some.injEq]
    by_cases hempty : (trim item).isEmpty = true
    · rw [if_pos hempty]
      have hblank : trim item = "" := String.isEmpty_iff.mp hempty
      constructor
      · intro h; cases h
      · rintro ⟨rfl, hne⟩
        exact absurd hblank hne
    · rw [if_neg hempty]
      have hfull : trim item ≠ "" := fun h => hempty (String.isEmpty_iff.mpr h)
      constructor
      · intro h
        obtain rfl := Option.some.inj h
        exact ⟨rfl, hfull⟩
      · rintro ⟨rfl, -⟩
        rfl

/-- A restriction that is not met by nothing at all. -/
def Named (restriction : Option String) : Prop := restriction ≠ some ""

/-- An empty restriction is stored as none. -/
theorem named_sanitizeOptional (value : Option String) : Named (sanitizeOptional value) :=
  fun h => (sanitizeOptional_eq_some.mp h).2 rfl

/-- What is met by the trimmed input is met by the stored value. -/
theorem stored_of_meets {restriction value : Option String} (hnamed : Named restriction)
    (h : meets restriction (value.map trim) = true) :
    ∀ text, restriction = some text → sanitizeOptional value = some text := by
  rintro text rfl
  have htrim : value.map trim = some text := of_decide_eq_true h
  exact sanitizeOptional_eq_some.mpr ⟨htrim, fun he => hnamed (congrArg some he)⟩

/-- What the check compares: the trimmed input with the restriction as it is stored. -/
theorem meets_of_validate {pool : ScholarshipPool} {geography level : Option String}
    {schoolId : Option Uuid} {category : Option String}
    (h : validatePoolRestrictions pool geography level schoolId category = .ok ()) :
    meets pool.geographyRestriction (geography.map trim) = true ∧
    meets pool.educationLevelRestriction (level.map trim) = true ∧
    meets pool.schoolIdRestriction schoolId = true ∧
    meets pool.categoryRestriction (category.map trim) = true := by
  rw [validatePoolRestrictions] at h
  split at h
  · cases h
  split at h
  · cases h
  split at h
  · cases h
  split at h
  · cases h
  simp_all

/-! ## Pools and applications

  The restrictions are never rewritten, so an application that met them once meets them always. -/

/-- The restrictions of a pool. -/
structure Restrictions where
  geography : Option String
  educationLevel : Option String
  schoolId : Option Uuid
  category : Option String

/-- What a pool restricts its applications to. -/
def ScholarshipPool.restrictions (x : ScholarshipPool) : Restrictions :=
  ⟨x.geographyRestriction, x.educationLevelRestriction, x.schoolIdRestriction, x.categoryRestriction⟩

/-- No restriction is the empty text. -/
structure Restrictions.Sanitized (r : Restrictions) : Prop where
  geography : Named r.geography
  educationLevel : Named r.educationLevel
  category : Named r.category

/-- Each restriction that is set is the stored value of the application. -/
structure Restrictions.MetBy (r : Restrictions) (a : ScholarshipApplication) : Prop where
  geography : ∀ expected, r.geography = some expected → a.studentCountry = some expected
  educationLevel : ∀ expected, r.educationLevel = some expected → a.educationLevel = some expected
  schoolId : ∀ expected, r.schoolId = some expected → a.schoolId = some expected
  category : ∀ expected, r.category = some expected → a.category = some expected

/-- Every pool has sanitized restrictions, and every application meets those of its pool. -/
structure RestrictionsMet (s : Db) : Prop where
  /-- No stored restriction is the empty text. -/
  sanitized : ∀ x ∈ s.pools.rows, x.restrictions.Sanitized
  /-- Each application is in its pool, and meets its restrictions. -/
  met : ∀ a ∈ s.applications.rows,
    ∃ x, s.pools.find a.poolId = some x ∧ x.restrictions.MetBy a

/-- A later state still has every pool with its restrictions. -/
def RestrictionsKept (s s' : Db) : Prop := Table.Keeps ScholarshipPool.restrictions s.pools s'.pools

section

variable {newId : Uuid} {actor : AuthenticatedUser} {q : Request} {l : Sess} {s : Db} {b : Response}

/-- A commit keeps the restrictions of every pool: only its funds are ever rewritten. -/
theorem RestrictionsKept.commit (h : ScholarshipEffect q l s) : RestrictionsKept s (l.view s) := by
  rw [RestrictionsKept]
  cases h.pools with
  | kept view => rw [view]; exact .refl _
  | created hx fresh view => rw [view]; exact Table.keeps_insert _ _
  | set locked view =>
    rw [view]
    exact Table.keeps_replace locked (Table.find_some locked).2 rfl

/-- A new pool has sanitized restrictions. -/
theorem PoolRecorded.sanitized {input : CreateScholarshipPoolInput} {a : ScholarshipPool}
    (h : PoolRecorded newId actor input l s a) : a.restrictions.Sanitized := by
  obtain ⟨availableFunds, rfl⟩ := h.row
  exact ⟨named_sanitizeOptional _, named_sanitizeOptional _, named_sanitizeOptional _⟩

/-- A new application meets the restrictions of its pool, on the values that are stored. -/
theorem ApplicationRecorded.met {input : CreateScholarshipApplicationInput}
    {a : ScholarshipApplication} (h : ApplicationRecorded newId actor input l s a)
    (hseen : ∀ t ∈ l.seen, RestrictionsMet t ∧ RestrictionsKept t s) :
    ∃ x, s.pools.find a.poolId = some x ∧ x.restrictions.MetBy a := by
  obtain ⟨t, ht, pool, child, hpool, hvalid, rfl⟩ := h.row
  obtain ⟨hmem, hid⟩ := Table.find_some hpool
  have hsanitized := (hseen t ht).1.sanitized pool hmem
  obtain ⟨x, hx, hsame⟩ := (hseen t ht).2 _ pool hpool
  have hpoolId : (applicationRow newId actor input pool child).poolId = input.poolId := hid
  refine ⟨x, hpoolId ▸ hx, ?_⟩
  rw [hsame]
  obtain ⟨hgeography, hlevel, hschool, hcategory⟩ := meets_of_validate hvalid
  constructor
  · exact stored_of_meets hsanitized.geography hgeography
  · exact stored_of_meets hsanitized.educationLevel hlevel
  · rintro expected hexpected
    have hset : pool.schoolIdRestriction = some expected := hexpected
    rw [hset] at hschool
    exact of_decide_eq_true hschool
  · exact stored_of_meets hsanitized.category hcategory

/-- The restrictions of a pool whose balance is set are those that it had. -/
theorem sanitized_setFunds {id : Uuid} {pool : ScholarshipPool} {funds : Int64} {nonneg : 0 ≤ funds}
    (hs : ∀ x ∈ s.pools.rows, x.restrictions.Sanitized) (hpool : s.pools.find id = some pool) :
    ∀ x ∈ (s.pools.replace (pool.setFunds funds nonneg)).rows, x.restrictions.Sanitized := by
  intro x hx
  rcases Table.mem_replace hx with rfl | ⟨hx, -⟩
  · exact hs pool (Table.find_some hpool).1
  · exact hs x hx

namespace RestrictionsMet

/-- A commit leaves every pool with sanitized restrictions. -/
theorem commit_sanitized (hs : RestrictionsMet s) (h : q.Detail l s b) :
    ∀ x ∈ (l.view s).pools.rows, x.restrictions.Sanitized := by
  rcases h.effect.scholarship with ⟨rfl, -⟩ | ⟨-, hc⟩ | ⟨-, hc⟩ | ⟨-, hc⟩ | ⟨-, hc⟩ | hc
  · obtain ⟨a, -, hc⟩ := h
    obtain ⟨log, -, hview⟩ := hc.view
    have hfresh : s.pools.find (Keyed.key a) = none := by
      rw [show Keyed.key a = _ from hc.id]
      exact hc.fresh
    intro x hx
    rw [hview] at hx
    rcases (Table.mem_insert hfresh).mp hx with hx | rfl
    · exact hs.sanitized x hx
    · exact hc.sanitized
  · obtain ⟨log, -, hview⟩ := hc.view
    rw [hview]
    exact sanitized_setFunds hs.sanitized hc.locked
  · obtain ⟨log, -, hview⟩ := hc.view
    rw [hview]
    exact hs.sanitized
  · obtain ⟨log, -, hview⟩ := hc.view
    rw [hview]
    exact sanitized_setFunds hs.sanitized hc.poolLocked
  · obtain ⟨payout, vault, log, -, hview⟩ := hc.view
    rw [hview]
    exact sanitized_setFunds hs.sanitized hc.poolLocked
  · rw [hc.pools]
    exact hs.sanitized

/-- A commit leaves every application with the restrictions of its pool met: a new one was checked
    against the pool that was read, and its restrictions have not changed since. -/
theorem commit_met (hs : RestrictionsMet s)
    (hseen : ∀ t ∈ l.seen, RestrictionsMet t ∧ RestrictionsKept t s) (h : q.Detail l s b) :
    ∀ a ∈ (l.view s).applications.rows,
      ∃ x, (l.view s).pools.find a.poolId = some x ∧ x.restrictions.MetBy a := by
  intro a ha
  have hold : ∃ x, s.pools.find a.poolId = some x ∧ x.restrictions.MetBy a := by
    rcases h.effect.scholarship with ⟨-, hc⟩ | ⟨-, hc⟩ | ⟨rfl, -⟩ | ⟨-, hc⟩ | ⟨-, hc⟩ | hc
    · obtain ⟨log, -, hview⟩ := hc.view
      rw [hview] at ha
      exact hs.met a ha
    · obtain ⟨log, -, hview⟩ := hc.view
      rw [hview] at ha
      exact hs.met a ha
    · obtain ⟨a', -, hc⟩ := h
      obtain ⟨log, -, hview⟩ := hc.view
      have hfresh : s.applications.find (Keyed.key a') = none := by
        rw [show Keyed.key a' = _ from hc.id]
        exact hc.fresh
      rw [hview] at ha
      rcases (Table.mem_insert hfresh).mp ha with ha | rfl
      · exact hs.met a ha
      · exact hc.met hseen
    · -- a decision changes the status alone
      obtain ⟨log, -, hview⟩ := hc.view
      rw [hview] at ha
      rcases Table.mem_replace ha with rfl | ⟨ha, -⟩
      · obtain ⟨x, hx, hmet⟩ := hs.met _ (Table.find_some hc.locked).1
        exact ⟨x, hx, hmet.geography, hmet.educationLevel, hmet.schoolId, hmet.category⟩
      · exact hs.met a ha
    · obtain ⟨payout, vault, log, -, hview⟩ := hc.view
      rw [hview] at ha
      exact hs.met a ha
    · rw [hc.applications] at ha
      exact hs.met a ha
  obtain ⟨x, hx, hmet⟩ := hold
  obtain ⟨x', hx', hsame⟩ := RestrictionsKept.commit h.effect.scholarship _ x hx
  exact ⟨x', hx', hsame ▸ hmet⟩

/-- **Every commit keeps the restrictions met.** -/
theorem commit (hs : RestrictionsMet s)
    (hseen : ∀ t ∈ l.seen, RestrictionsMet t ∧ RestrictionsKept t s) (h : q.Detail l s b) :
    RestrictionsMet (l.view s) :=
  ⟨hs.commit_sanitized h, hs.commit_met hseen h⟩

end RestrictionsMet

end

/-! ## Every run

  The interleaved statement needs nothing more: the check is made on a pool that keeps its
  restrictions. -/

/-- Restrictions that are kept and met. -/
def restrictionsContract : Contract Request.program Request.Detail Request.Stops where
  outcomes := Request.detailed
  inv := RestrictionsMet
  rely := RestrictionsKept
  arrivals _ := True
  cond _ _ _ := True
  refl s := .refl s.pools
  trans hst htu := Table.Keeps.trans hst htu
  keep _ hs hseen h _ := ⟨hs.commit hseen h, RestrictionsKept.commit h.effect.scholarship⟩

/-- A start: no pool and no application. -/
structure NothingApplied (s : Db) : Prop where
  pools : s.pools.rows = []
  applications : s.applications.rows = []

/-- Without an application there is none to miss a restriction. -/
theorem RestrictionsMet.start {s : Db} (h : NothingApplied s) : RestrictionsMet s := by
  constructor
  · rw [h.pools]; exact fun _ hx => by cases hx
  · rw [h.applications]; exact fun _ ha => by cases ha

/-- **After every serial run, a stored application meets the stored restrictions of its pool.**

    What is compared is what is stored, after trimming on both sides and after the fallback to the
    child's level. -/
theorem restrictions_met {s : Db} (h : NothingApplied s) (qs : List Request) :
    ∀ a ∈ (serveAll s qs).applications.rows, ∃ x, (serveAll s qs).pools.find a.poolId = some x ∧
      x.restrictions.MetBy a := by
  have hmet : RestrictionsMet (serveAll s qs) := by
    refine serveAll_keeps (RestrictionsMet.start h) (fun s q hs => ?_) qs
    exact restrictionsContract.serve trivial (fun _ _ => trivial) hs
  exact hmet.met

/-- Neither does it matter what happens in between the reads of a request. -/
theorem restrictions_met_interleaved {s : Db} (h : NothingApplied s) (es : List Happening) :
    RestrictionsMet (Sys.after s es).db :=
  (restrictionsContract.sound (RestrictionsMet.start h)
    (System.meets_allows (fun _ => trivial) (fun _ _ _ => trivial) _ _)).inv

section

open Scenario

/-- Padded restrictions, met by an application that is padded in another way and leaves the level of
    education to the child's profile. -/
theorem restrictions_met_padded :
    let s : Db := { pupil with childProfiles := row ⟨103, 1, some " secondary\n"⟩ }
    let qs := [.createPool 3 donor ⟨"pool", none, usd, some " Kenya ", some "secondary  ", none, some "\t"⟩,
      .createApplication 4 parent ⟨3, 103, some "Kenya\n", none, none, some " ", none⟩]
    (serveAll s qs).applications.rows.map (fun a => (a.studentCountry, a.educationLevel, a.category)) =
      [(some "Kenya", some "secondary", none)] ∧
    ∀ a ∈ (serveAll s qs).applications.rows, ∃ x, (serveAll s qs).pools.find a.poolId = some x ∧
      x.restrictions.MetBy a :=
  ⟨by decide +kernel, restrictions_met ⟨rfl, rfl⟩ _⟩

end

end EduStell
