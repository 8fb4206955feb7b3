/-
  Identifiers, instants, currencies and money: what `crates/shared` and the crates for ids and time
  give to every layer.

  * `Uuid`     — 128 bits; a fresh `Uuid::new_v4()` of the source is an input of the request here,
                 so a result holds for every choice of new ids, clashing ones included;
  * `DateTime` — `DateTime<Utc>` of the `chrono` crate, with the precision of a stored column;
  * `Currency` — `USDC` or a fiat code, with the text form that the database stores;
  * `Money`    — minor units in an `i64`, never negative: the check of `Money::new` is a field of
                 the structure, so a negative amount of money cannot be built.
-/
import EduStell.Text.Digits

namespace EduStell

/-! ## Identifiers

  Ids travel as text in JSON and in URLs.  `parseStr` accepts four spellings; only the one that
  the code writes has to be read back, and `parseStr_hyphenated` does that. -/

/-- `uuid::Uuid`: 128 bits, compared and stored as such. -/
abbrev Uuid := BitVec 128

/-- The hyphenated text of an id, as `serde_json` writes it. -/
def Uuid.hyphenated (u : Uuid) : String :=
  let hex := Text.digits 16 32 u.toNat
  let group (start len : Nat) := (hex.drop start).take len
  String.ofList (group 0 8 ++ '-' :: group 8 4 ++ '-' :: group 12 4 ++ '-' :: group 16 4
    ++ '-' :: group 20 12)

/-- The 32 hexadecimal digits of a bare id; upper and lower case are read alike. -/
def Uuid.parseSimple (cs : List Char) : Option Uuid :=
  (Text.readDigits 16 0 cs).map (BitVec.ofNat 128)

/-- The hyphenated form: hyphens at 8, 13, 18 and 23, and the five groups read as one number. -/
def Uuid.parseHyphenated (cs : List Char) : Option Uuid :=
  let group (start len : Nat) := (cs.drop start).take len
  if cs[8]? = some '-' ∧ cs[13]? = some '-' ∧ cs[18]? = some '-' ∧ cs[23]? = some '-' then
    parseSimple (group 0 8 ++ group 9 4 ++ group 14 4 ++ group 19 4 ++ group 24 12)
  else none

/-- `Uuid::parse_str`: hyphenated, bare, in braces or as a URN. -/
def Uuid.parseStr (value : String) : Option Uuid :=
  let cs := value.toList
  if cs.length = 32 then parseSimple cs
  else if cs.length = 36 then parseHyphenated cs
  else if cs.length = 38 ∧ cs.head? = some '{' ∧ cs.getLast? = some '}' then
    parseHyphenated ((cs.drop 1).take 36)
  else if cs.length = 45 ∧ cs.take 9 = "urn:uuid:".toList then parseHyphenated (cs.drop 9)
  else none

/-- The bare text of an id is read back. -/
theorem Uuid.parseSimple_digits (u : Uuid) : parseSimple (Text.digits 16 32 u.toNat) = some u := by
  have hlt : u.toNat < 16 ^ 32 := u.isLt
  rw [parseSimple, Text.readDigits_digits (by decide) (by decide) 0 hlt, Nat.zero_mul, Nat.zero_add]
  simp

/-- The five groups of a hyphenated text. -/
theorem Uuid.parseHyphenated_groups {a b c d e : List Char} (ha : a.length = 8) (hb : b.length = 4)
    (hc : c.length = 4) (hd : d.length = 4) (he : e.length = 12) :
    parseHyphenated (a ++ '-' :: b ++ '-' :: c ++ '-' :: d ++ '-' :: e) =
      parseSimple (a ++ b ++ c ++ d ++ e) := by
  simp [parseHyphenated, List.drop_append, List.drop_of_length_le, List.take_of_length_le, *]

/-- The groups are the whole text. -/
theorem Uuid.append_groups {hex : List Char} (h : hex.length = 32) :
    (hex.drop 0).take 8 ++ (hex.drop 8).take 4 ++ (hex.drop 12).take 4 ++ (hex.drop 16).take 4 ++
      (hex.drop 20).take 12 = hex := by
  have hsplit (n m : Nat) : (hex.drop n).take m ++ hex.drop (n + m) = hex.drop n := by
    rw [← List.drop_drop, List.take_append_drop]
  have hlast : (hex.drop 20).take 12 = hex.drop 20 := List.take_of_length_le (by simp [h])
  rw [hlast, List.append_assoc, hsplit 16 4, List.append_assoc, hsplit 12 4, List.append_assoc,
    hsplit 8 4, hsplit 0 8, List.drop_zero]

/-- An id is read back from its text. -/
theorem Uuid.parseStr_hyphenated (u : Uuid) : parseStr u.hyphenated = some u := by
  rw [← parseSimple_digits u, hyphenated, parseStr, String.toList_ofList]
  have hlen : (Text.digits 16 32 u.toNat).length = 32 := Text.length_digits 16 32 _
  generalize Text.digits 16 32 u.toNat = hex at hlen ⊢
  have hparts : ∀ n m, n + m ≤ 32 → ((hex.drop n).take m).length = m := by
    intro n m hle
    rw [List.length_take, List.length_drop, hlen]
    omega
  have hgroups := parseHyphenated_groups (hparts 0 8 (by decide)) (hparts 8 4 (by decide))
    (hparts 12 4 (by decide)) (hparts 16 4 (by decide)) (hparts 20 12 (by decide))
  rw [append_groups hlen] at hgroups
  have htext : ((hex.drop 0).take 8 ++ '-' :: (hex.drop 8).take 4 ++ '-' :: (hex.drop 12).take 4 ++
      '-' :: (hex.drop 16).take 4 ++ '-' :: (hex.drop 20).take 12).length = 36 := by
    simp [hlen]
  simp only [htext]
  exact hgroups

/-! ## Time

  Instants are counted in nanoseconds and stored in microseconds, so a stored instant may lie
  before the one that was computed, and never after it.  The range of chrono matters where a
  lifetime is added to an instant. -/

/-- `DateTime<Utc>`, in nanoseconds since the epoch. -/
abbrev DateTime := Int

namespace DateTime

/-- `t + Duration::seconds(secs)`, not looking at the range. -/
def addSeconds (t : DateTime) (secs : Int) : DateTime := t + secs * 1000000000

/-- Whole seconds, rounded down. -/
def timestamp (t : DateTime) : Int := t / 1000000000

/-- What a `TIMESTAMPTZ` column keeps: microseconds. -/
def toTimestamptz (t : DateTime) : DateTime := t - t % 1000

/-- `DateTime::<Utc>::MIN_UTC` and `DateTime::<Utc>::MAX_UTC`: the years from -262143 to 262142. -/
def minUtc : DateTime := -8334601228800 * 1000000000

/-- The last instant that chrono can represent. -/
def maxUtc : DateTime := 8210266876799 * 1000000000 + 999999999

/-- `checked_add_signed`: a sum that chrono cannot represent is none. -/
def checkedAddSeconds (t : DateTime) (secs : Int) : Option DateTime :=
  if minUtc ≤ t.addSeconds secs ∧ t.addSeconds secs ≤ maxUtc then some (t.addSeconds secs) else none

/-- `DateTime::<Utc>::from_timestamp(secs, 0)` -/
def fromTimestamp (secs : Int) : Option DateTime :=
  if minUtc ≤ secs * 1000000000 ∧ secs * 1000000000 ≤ maxUtc then some (secs * 1000000000) else none

/-- A stored instant never lies after the one that was stored. -/
theorem toTimestamptz_le (t : DateTime) : t.toTimestamptz ≤ t :=
  Int.sub_le_self t (Int.emod_nonneg t (by decide))

/-- The Unix time of an earlier instant is not later. -/
theorem timestamp_le {t u : DateTime} (h : t ≤ u) : t.timestamp ≤ u.timestamp :=
  Int.ediv_le_ediv (by decide) h

/-- The seconds of an instant in range are an instant in range. -/
theorem fromTimestamp_timestamp {t : Int} (h : minUtc ≤ t ∧ t ≤ maxUtc) :
    fromTimestamp (timestamp t) = some (timestamp t * 1000000000) := by
  have hmin : (-8334601228800 * 1000000000 : Int) ≤ t := h.1
  have hmax : t ≤ (8210266876799 * 1000000000 + 999999999 : Int) := h.2
  refine if_pos ⟨?_, ?_⟩
  · change (-8334601228800 * 1000000000 : Int) ≤ t / 1000000000 * 1000000000
    omega
  · change t / 1000000000 * 1000000000 ≤ (8210266876799 * 1000000000 + 999999999 : Int)
    omega

/-- A sum that exists is the sum of the two, and lies in the range of chrono. -/
theorem of_checkedAddSeconds {t u : DateTime} {secs : Int} (h : t.checkedAddSeconds secs = some u) :
    u = t.addSeconds secs ∧ minUtc ≤ u ∧ u ≤ maxUtc := by
  rw [checkedAddSeconds] at h
  split at h
  · rename_i hrange
    obtain rfl := Option.some.inj h
    exact ⟨rfl, hrange⟩
  · cases h

end DateTime

/-! ## Currencies

  A currency from outside is parsed; a fiat code has three bytes.  What the code compares is the
  stored text, and `asStr_of_parse` says that parsing does not change it. -/

/-- `Currency`: the stablecoin, or a fiat currency by its code. -/
inductive Currency
  | usdc
  | fiat (code : String)
  deriving DecidableEq, Repr

namespace Currency

/-- `Currency::as_str`, the text that is stored and compared. -/
def asStr : Currency → String
  | usdc => "USDC"
  | fiat code => code

/-- `Currency::from_str`; the length of a fiat code is counted in bytes. -/
def parse (value : String) : Except String Currency :=
  if value = "USDC" then .ok usdc
  else if value.utf8ByteSize = 3 then .ok (fiat value)
  else .error "invalid currency"

/-- What parses to a currency is that currency's text. -/
theorem asStr_of_parse {value : String} {c : Currency} (h : parse value = .ok c) :
    c.asStr = value := by
  simp only [parse] at h
  split at h
  · rename_i hv
    cases h; exact hv.symm
  · split at h
    · cases h; rfl
    · cases h

end Currency

/-! ## Money

  The field `Money.nonneg` is the check of the constructor.  A row that holds a `Money` needs no
  CHECK of its own on that column, and a service that has one need not check it again. -/

/-- Minor units of a currency. -/
structure Money where
  amountMinor : Int64
  currency : Currency
  nonneg : 0 ≤ amountMinor
  deriving DecidableEq

/-- `Money::new`: a negative amount is the only thing that it refuses. -/
def Money.new (amountMinor : Int64) (currency : Currency) : Except String Money :=
  if h : amountMinor < 0 then .error "amount must be non-negative"
  else .ok ⟨amountMinor, currency, Int64.not_lt.mp h⟩

/-- An amount that is not negative is money in every currency. -/
theorem Money.new_of_nonneg {amountMinor : Int64} (h : 0 ≤ amountMinor) (currency : Currency) :
    Money.new amountMinor currency = .ok ⟨amountMinor, currency, h⟩ := by
  rw [Money.new, dif_neg (Int64.not_lt.mpr h)]

/-- The money that was made has the amount and the currency it was made of. -/
theorem Money.of_new {amountMinor : Int64} {currency : Currency} {m : Money}
    (h : Money.new amountMinor currency = .ok m) :
    ∃ nonneg, m = ⟨amountMinor, currency, nonneg⟩ := by
  rw [Money.new] at h
  split at h
  · cases h
  · cases h; exact ⟨_, rfl⟩

end EduStell
