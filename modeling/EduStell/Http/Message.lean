/-
  Requests and responses as the middleware sees them: header maps, and the values of headers.

  A header value is bytes.  It is text if its bytes are visible ASCII, and such text is a value again,
  the same one: a header that is read, kept as a string and set elsewhere arrives as it was.

  The one result is `fromStr_of_toStr`: what has been read as text can be set again.  Request ids
  depend on it, since they are read, kept and echoed.
-/
import EduStell.Api.RateLimit

namespace EduStell

/-! ## Header values

  Only visible ASCII can be read as text.  An id from a client that cannot be read counts as
  absent. -/

namespace Api.HeaderValue

/-- `HeaderValue::from_str`; a character beyond ASCII has a byte beyond it. -/
def fromStr (s : String) : Option HeaderValue :=
  if s.toList.all fun c => c.toNat < 128 && isVisibleAscii (UInt8.ofNat c.toNat) then
    some ⟨s.toList.map fun c => UInt8.ofNat c.toNat⟩
  else none

/-- `HeaderValue::from_static` -/
def fromStatic (s : String) : HeaderValue := ⟨s.toList.map fun c => UInt8.ofNat c.toNat⟩

/-- Visible characters are ASCII. -/
theorem isVisibleAscii_lt {b : UInt8} (h : isVisibleAscii b = true) : b.toNat < 128 := by
  simp only [isVisibleAscii, Bool.or_eq_true, Bool.and_eq_true, decide_eq_true_eq] at h
  rcases h with ⟨-, hlt⟩ | rfl
  · have := UInt8.lt_iff_toNat_lt.mp hlt
    exact Nat.lt_trans this (by decide)
  · decide

/-- The characters of ASCII have their own numbers. -/
theorem toNat_ofNat_ascii : ∀ n < 128, (Char.ofNat n).toNat = n := by decide

/-- The bytes of a text are those that it was read from. -/
theorem ofNat_charOfNat {b : UInt8} (h : isVisibleAscii b = true) :
    UInt8.ofNat (Char.ofNat b.toNat).toNat = b := by
  rw [toNat_ofNat_ascii _ (isVisibleAscii_lt h), UInt8.ofNat_toNat]

/-- **What is read as text is the value of that text.** -/
theorem fromStr_of_toStr {value : HeaderValue} {s : String} (h : value.toStr = some s) :
    fromStr s = some value := by
  rw [toStr] at h
  split at h
  · rename_i hall
    obtain rfl := Option.some.inj h
    rw [List.all_eq_true] at hall
    have hvisible : ((String.ofList (value.bytes.map fun b => Char.ofNat b.toNat)).toList.all
        fun c => c.toNat < 128 && isVisibleAscii (UInt8.ofNat c.toNat)) = true := by
      rw [String.toList_ofList, List.all_map, List.all_eq_true]
      intro b hb
      have hb := hall b hb
      show (decide ((Char.ofNat b.toNat).toNat < 128) &&
        isVisibleAscii (UInt8.ofNat (Char.ofNat b.toNat).toNat)) = true
      rw [ofNat_charOfNat hb, toNat_ofNat_ascii _ (isVisibleAscii_lt hb), hb, Bool.and_true]
      exact decide_eq_true (isVisibleAscii_lt hb)
    have hbytes : (value.bytes.map fun b => Char.ofNat b.toNat).map
        (fun c => UInt8.ofNat c.toNat) = value.bytes := by
      rw [List.map_map]
      exact (List.map_congr_left fun b hb => ofNat_charOfNat (hall b hb)).trans (List.map_id _)
    rw [fromStr, if_pos hvisible, String.toList_ofList, hbytes]
  · cases h

/-- The characters of an id. -/
def isIdChar (c : Char) : Bool := c.toNat < 128 && isVisibleAscii (UInt8.ofNat c.toNat)

/-- Hexadecimal digits are characters of an id. -/
theorem isIdChar_digits (w n : Nat) : ∀ c ∈ Text.digits 16 w n, isIdChar c = true := by
  have hdigit : ∀ d < 16, isIdChar d.digitChar = true := by decide
  induction w generalizing n with
  | zero => exact fun c hc => by cases hc
  | succ w ih =>
    intro c hc
    rw [Text.digits, List.mem_append, List.mem_singleton] at hc
    rcases hc with hc | rfl
    · exact ih _ c hc
    · exact hdigit _ (Nat.mod_lt _ (by decide))

/-- An id that has been drawn is the value of a header. -/
theorem fromStr_hyphenated (u : Uuid) :
    fromStr u.hyphenated = some (fromStatic u.hyphenated) := by
  have hdash : isIdChar '-' = true := by decide
  have hdigits := isIdChar_digits 32 u.toNat
  have hall : u.hyphenated.toList.all isIdChar = true := by
    rw [Uuid.hyphenated, String.toList_ofList]
    generalize Text.digits 16 32 u.toNat = hex at hdigits
    have hgroup : ∀ start len, ((hex.drop start).take len).all isIdChar = true := by
      intro start len
      rw [List.all_eq_true]
      exact fun c hc => hdigits c (List.mem_of_mem_drop (List.mem_of_mem_take hc))
    simp only [List.all_append, List.all_cons, hgroup, hdash, Bool.and_self]
  exact if_pos hall

end Api.HeaderValue

namespace Http

open Api

/-! ## Header maps

  Names are compared in lower case, and the first value of a name is the one that is found. -/

/-- Names are in lower case, as `HeaderName` keeps them; a name may occur several times. -/
abbrev HeaderMap : Type := List (String × HeaderValue)

namespace HeaderMap

/-- `HeaderMap::get`: the first value. -/
def get (headers : HeaderMap) (name : String) : Option HeaderValue :=
  (headers.find? fun h => h.1 = name).map Prod.snd

/-- `HeaderMap::insert`: the values that are there are replaced. -/
def insert (headers : HeaderMap) (name : String) (value : HeaderValue) : HeaderMap :=
  headers.filter (fun h => h.1 ≠ name) ++ [(name, value)]

variable (headers : HeaderMap) (value : HeaderValue)

/-- A header that was set is found. -/
@[simp] theorem get_insert_self (name : String) : (headers.insert name value).get name = some value := by
  have hnone : (headers.filter fun h => h.1 ≠ name).find? (fun h => h.1 = name) = none := by
    rw [List.find?_eq_none]
    intro h hmem
    have := (List.mem_filter.mp hmem).2
    simpa using this
  rw [insert, get, List.find?_append, hnone, Option.none_or, List.find?_singleton, if_pos (by simp)]
  rfl

/-- Setting a header leaves the others. -/
theorem get_insert_of_ne {name name' : String} (h : name' ≠ name) :
    (headers.insert name value).get name' = headers.get name' := by
  have hlast : List.find? (fun h : String × HeaderValue => decide (h.1 = name')) [(name, value)] =
      none := by
    rw [List.find?_singleton, if_neg (by simpa using Ne.symm h)]
  have hsame : (fun x : String × HeaderValue =>
      decide (decide (x.1 ≠ name) = true ∧ decide (x.1 = name') = true)) =
      fun x => decide (x.1 = name') := by
    funext x
    by_cases hx : x.1 = name'
    · simp [hx, h]
    · simp [hx]
  rw [insert, get, get, List.find?_append, hlast, Option.or_none, List.find?_filter, hsame]

end HeaderMap

/-- Nothing happens where the value cannot be one. -/
def setHeader (headers : HeaderMap) (name value : String) : HeaderMap :=
  match HeaderValue.fromStr value with
  | some value => headers.insert name value
  | none => headers

/-! ## Requests and responses

  The parts of a request and of a response that the middleware reads or writes. -/

/-- The ids of a request. -/
structure RequestContext where
  requestId : String
  correlationId : String
  deriving DecidableEq

/-- `context` is the extension that the middleware leaves for handlers. -/
structure Request where
  method : String
  path : String
  headers : HeaderMap
  context : Option RequestContext
  body : List UInt8

/-- A body that handlers answer with. -/
inductive Body
  | json (value : Value)
  | text (s : String)

/-- A response. -/
structure Response where
  status : Nat
  headers : HeaderMap
  body : Body

/-- `(status, headers, Json(value)).into_response()` -/
def Response.ofJson (status : Nat) (headers : List (String × String)) (value : Value) : Response where
  status := status
  headers := headers.foldl (fun m h => m.insert h.1 (HeaderValue.fromStatic h.2))
    [("content-type", HeaderValue.fromStatic "application/json")]
  body := .json value

/-- `ErrorEnvelope::internal`; a request id that is missing is left out, as are no details. -/
def internalEnvelope (requestId : Option String) : Value :=
  .object [("error", .object ([("code", .string ErrorCode.internal.asStr),
    ("message", .string "internal server error")] ++
    (requestId.map fun id => ("request_id", Value.string id)).toList))]

end Http
end EduStell
