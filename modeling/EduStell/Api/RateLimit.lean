/-
  `middleware::rate_limit`: how many requests of one client the auth routes take.

  The map of windows is one value for the whole process; a request locks it for the time of its entry,
  so requests take their turns, and the order of the turns is that of the instants.  Nothing panics
  under the lock, which is why it is never poisoned: the counter would overflow after 2^32 requests
  within a window.

  Every key has its own fixed-window counter (`EduStell.Limiter.FixedWindow`), and what the
  middleware answers under a key is what the counter says of the requests under that key.

  The plan: a key is on its own (`serve_filter`); under a key the answers are those of a counter
  (`follows_counter`); and the counter lets at most twice the limit through in an interval no
  longer than a window (`admitted_in_interval`).
-/
import EduStell.Api.Error
import EduStell.Audit
import EduStell.Domain.Scholarships
import EduStell.Limiter.FixedWindow

namespace EduStell.Api

/-! ## Requests

  The path and one header are all that decides.  A header that is no visible ASCII counts as
  absent, and everyone without one shares a key. -/

/-- The bytes of a header. -/
structure HeaderValue where
  bytes : List UInt8

/-- The characters that `to_str` accepts. -/
def isVisibleAscii (b : UInt8) : Bool := (32 ≤ b && b < 127) || b = 9

/-- `HeaderValue::to_str` -/
def HeaderValue.toStr (value : HeaderValue) : Option String :=
  if value.bytes.all isVisibleAscii then
    some (String.ofList (value.bytes.map fun b => Char.ofNat b.toNat))
  else none

/-- What the middleware reads of a request. -/
structure HttpRequest where
  path : String
  xForwardedFor : Option HeaderValue
  xRealIp : Option HeaderValue

/-- A response with a JSON body. -/
structure HttpResponse where
  status : Nat
  headers : List (String × String)
  body : Value

/-- The paths that the limiter watches. -/
def isLimitedPath (path : String) : Bool :=
  path = "/api/v1/auth/register" || path = "/api/v1/auth/login" || path = "/api/v1/auth/refresh" ||
    path = "/api/v1/auth/verify-email" || path = "/api/v1/auth/verify-email/begin"

/-- The first address of the header; everyone without one shares a key. -/
def rateLimitKey (request : HttpRequest) : String :=
  let value := (request.xForwardedFor.or request.xRealIp).bind HeaderValue.toStr
  let first := value.map fun s => trim (String.ofList (s.toList.takeWhile (· ≠ ',')))
  (first.filter fun s => !s.isEmpty).getD "local"

/-! ## The limiter

  The count is raised before it is compared, so a refused request counts as well and the window of
  a busy client stays full until it ends. -/

/-- `Instant`, in nanoseconds. -/
abbrev Instant := Nat

/-- The entry of a key: when its window has begun, and its requests since. -/
structure Window where
  startedAt : Instant
  hits : UInt32

/-- A minute, in nanoseconds. -/
def authWindow : Nat := 60 * 1000000000

/-- Twenty requests in a window. -/
def authMaxRequests : UInt32 := 20

/-- The map of windows; no entry is ever removed. -/
abbrev Windows := String → Option Window

/-- The entry of the key after the request. -/
def hit (entry : Option Window) (now : Instant) : Window :=
  let entry := entry.getD ⟨now, 0⟩
  let entry := if now - entry.startedAt > authWindow then ⟨now, 0⟩ else entry
  { entry with hits := entry.hits + 1 }

/-- The response to one request too many. -/
def tooManyRequests : HttpResponse where
  status := 429
  headers := [("retry-after", "60")]
  body := .object [("error", .object [
    ("code", .string ErrorCode.validation.asStr),
    ("message", .string "auth rate limit exceeded")])]

/-- `none` passes the request on. -/
def authRateLimit (request : HttpRequest) (now : Instant) (windows : Windows) :
    Option HttpResponse × Windows :=
  if !isLimitedPath request.path then (none, windows)
  else
    let key := rateLimitKey request
    let entry := hit (windows key) now
    (if entry.hits > authMaxRequests then some tooManyRequests else none,
      fun k => if k = key then some entry else windows k)

/-! ## Runs

  A run is a list of arrivals in the order of the lock.  What was answered is kept, to be counted.
  -/

/-- A request and the instant at which the limiter meets it. -/
structure Arrival where
  request : HttpRequest
  now : Instant

/-- The request is counted under the key. -/
def Arrival.counts (key : String) (a : Arrival) : Bool :=
  isLimitedPath a.request.path && rateLimitKey a.request = key

/-- The windows after a run, and every request with its answer. -/
structure Served where
  windows : Windows
  answers : List (Arrival × Option HttpResponse)

/-- One request more. -/
def Served.arrive (s : Served) (a : Arrival) : Served where
  windows := (authRateLimit a.request a.now s.windows).2
  answers := s.answers ++ [(a, (authRateLimit a.request a.now s.windows).1)]

/-- The requests one after another, from an empty map. -/
def serve (arrivals : List Arrival) : Served := arrivals.foldl Served.arrive ⟨fun _ => none, []⟩

/-- The last request meets the windows that the others have left. -/
theorem serve_snoc (arrivals : List Arrival) (a : Arrival) :
    serve (arrivals ++ [a]) = (serve arrivals).arrive a := by
  rw [serve, List.foldl_append]; rfl

/-- The answers under a key. -/
def Served.under (key : String) (s : Served) : List (Arrival × Option HttpResponse) :=
  s.answers.filter fun x => x.1.counts key

/-! ## One key

  A request reads and writes the window of its own key only, so a run can be filtered by key
  before anything is said about it. -/

section

variable {key : String} {s : Served} {a : Arrival}

/-- A request under the key hits its window. -/
theorem windows_of_counts (h : a.counts key = true) :
    (s.arrive a).windows key = some (hit (s.windows key) a.now) := by
  obtain ⟨hpath, hkey⟩ := Bool.and_eq_true_iff.mp h
  have hkey : rateLimitKey a.request = key := of_decide_eq_true hkey
  simp only [Served.arrive, authRateLimit, hpath, hkey, Bool.not_true, Bool.false_eq_true, if_false,
    if_true]

/-- A request under another key, or on another path, leaves the window. -/
theorem windows_of_not_counts (h : ¬ a.counts key = true) :
    (s.arrive a).windows key = s.windows key := by
  simp only [Served.arrive, authRateLimit]
  by_cases hpath : isLimitedPath a.request.path = true
  · have hkey : ¬ key = rateLimitKey a.request := by
      rintro rfl
      exact h (Bool.and_eq_true_iff.mpr ⟨hpath, decide_eq_true rfl⟩)
    simp only [hpath, Bool.not_true, Bool.false_eq_true, if_false, if_neg hkey]
  · simp only [Bool.eq_false_iff.mpr hpath, Bool.not_false, if_true]

/-- What is answered to a request under the key. -/
def answer (entry : Window) : Option HttpResponse :=
  if entry.hits > authMaxRequests then some tooManyRequests else none

/-- A request under the key is answered by its window. -/
theorem under_of_counts (h : a.counts key = true) :
    (s.arrive a).under key = s.under key ++ [(a, answer (hit (s.windows key) a.now))] := by
  obtain ⟨hpath, hkey⟩ := Bool.and_eq_true_iff.mp h
  have hkey : rateLimitKey a.request = key := of_decide_eq_true hkey
  have hanswer : (authRateLimit a.request a.now s.windows).1 =
      answer (hit (s.windows key) a.now) := by
    simp only [authRateLimit, hpath, hkey, Bool.not_true, Bool.false_eq_true, if_false, answer]
  rw [Served.under, Served.arrive, List.filter_append, hanswer]
  simp [Served.under, h]

/-- A request that does not count is answered elsewhere. -/
theorem under_of_not_counts (h : ¬ a.counts key = true) : (s.arrive a).under key = s.under key := by
  rw [Served.under, Served.arrive, List.filter_append]
  simp [Served.under, h]

end

/-- **A key is on its own**: what is answered under it, and its window, are those of the run without
    the requests under other keys. -/
theorem serve_filter (key : String) (arrivals : List Arrival) :
    (serve arrivals).under key = (serve (arrivals.filter (·.counts key))).under key ∧
    (serve arrivals).windows key = (serve (arrivals.filter (·.counts key))).windows key := by
  induction arrivals using List.reverseRecOn with
  | nil => exact ⟨rfl, rfl⟩
  | append_singleton arrivals a ih =>
    obtain ⟨hunder, hwindows⟩ := ih
    rw [serve_snoc, List.filter_append]
    by_cases hcounts : a.counts key = true
    · rw [List.filter_cons_of_pos hcounts, List.filter_nil, serve_snoc, under_of_counts hcounts,
        under_of_counts hcounts, windows_of_counts hcounts, windows_of_counts hcounts, hunder, hwindows]
      exact ⟨rfl, rfl⟩
    · rw [List.filter_cons_of_neg hcounts, List.filter_nil, List.append_nil,
        under_of_not_counts hcounts, windows_of_not_counts hcounts]
      exact ⟨hunder, hwindows⟩

/-! ## The counter behind a key

  The `u32` of the source and the natural number of the counter agree while fewer than 2^32
  requests fall into one window: the condition is on the arrivals, and named where it is needed. -/

/-- The requests that are passed on. -/
def Served.admitted (key : String) (s : Served) : List Arrival :=
  ((s.under key).filter fun x => x.2.isNone).map fun x => x.1

/-- The instants of the requests under a key. -/
def times (key : String) (arrivals : List Arrival) : List Instant :=
  (arrivals.filter (·.counts key)).map Arrival.now

/-- The entry as a window of the general counter. -/
def Window.counter (w : Window) : FixedWindow.Window := ⟨w.startedAt, w.hits.toNat⟩

/-- The entry is the counter, while the counter fits. -/
theorem counter_hit (entry : Option Window) (now : Instant)
    (h : (FixedWindow.step authWindow (entry.map Window.counter) now).hits < 2 ^ 32) :
    (hit entry now).counter = FixedWindow.step authWindow (entry.map Window.counter) now := by
  cases entry with
  | none =>
    -- a new entry starts at `now`, so it is not reset
    have hfresh : ¬ now - now > authWindow := by
      rw [Nat.sub_self]
      exact Nat.not_lt_zero _
    simp only [hit, Option.getD_none, if_neg hfresh]; rfl
  | some w =>
    simp only [Option.map_some, FixedWindow.step, Window.counter] at h ⊢
    by_cases hreset : authWindow < now - w.startedAt
    · simp only [hit, Option.getD_some, gt_iff_lt, if_pos hreset]; rfl
    · simp only [if_neg hreset] at h ⊢
      simp only [hit, Option.getD_some, gt_iff_lt, if_neg hreset]
      -- the counter is a `u32`, and its successor still fits
      rw [UInt32.toNat_add, UInt32.toNat_one, Nat.mod_eq_of_lt h]

/-- Fewer than 2^32 requests in every window that a counter can have. -/
def FewPerWindow (key : String) (arrivals : List Arrival) : Prop :=
  ∀ start, (arrivals.filter fun a =>
    a.counts key && decide (start ≤ a.now ∧ a.now ≤ start + authWindow)).length < 2 ^ 32

/-- The requests under a key come in the order of all requests. -/
theorem times_sorted (key : String) {arrivals : List Arrival}
    (h : arrivals.Pairwise fun a b => a.now ≤ b.now) : (times key arrivals).Pairwise (· ≤ ·) :=
  List.pairwise_map.mpr (h.sublist List.filter_sublist)

/-- The window of the counter holds fewer than 2^32 requests. -/
theorem hits_lt {key : String} {arrivals : List Arrival}
    (hordered : arrivals.Pairwise fun a b => a.now ≤ b.now) (hfew : FewPerWindow key arrivals)
    {w : FixedWindow.Window} {limit : Nat}
    (hw : (FixedWindow.run authWindow limit (times key arrivals)).window = some w) :
    w.hits < 2 ^ 32 := by
  obtain ⟨older, counted, htimes, hlen, -, hin⟩ :=
    FixedWindow.counted_of_window (times_sorted key hordered) hw
  have hcounted : (counted.filter fun t => w.startedAt ≤ t ∧ t ≤ w.startedAt + authWindow) =
      counted := List.filter_eq_self.mpr fun t ht => decide_eq_true (hin t ht)
  have hle : counted.length ≤ ((times key arrivals).filter fun t =>
      w.startedAt ≤ t ∧ t ≤ w.startedAt + authWindow).length := by
    rw [htimes, List.filter_append, hcounted, List.length_append]
    exact Nat.le_add_left _ _
  have hsame : ((times key arrivals).filter fun t =>
      w.startedAt ≤ t ∧ t ≤ w.startedAt + authWindow).length =
      (arrivals.filter fun a => a.counts key &&
        decide (w.startedAt ≤ a.now ∧ a.now ≤ w.startedAt + authWindow)).length := by
    rw [times, List.filter_map, List.length_map, List.filter_filter]
    exact congrArg List.length (List.filter_congr fun a _ => Bool.and_comm _ _)
  have := hfew w.startedAt
  omega

/-- What is answered under a key is what its counter says. -/
theorem follows_counter {key : String} {arrivals : List Arrival}
    (hordered : arrivals.Pairwise fun a b => a.now ≤ b.now) (hfew : FewPerWindow key arrivals) :
    ((serve arrivals).windows key).map Window.counter =
      (FixedWindow.run authWindow 20 (times key arrivals)).window ∧
    ((serve arrivals).admitted key).map Arrival.now =
      (FixedWindow.run authWindow 20 (times key arrivals)).admitted := by
  induction arrivals using List.reverseRecOn with
  | nil => exact ⟨rfl, rfl⟩
  | append_singleton arrivals a ih =>
    have hbefore : arrivals.Pairwise fun a b => a.now ≤ b.now :=
      hordered.sublist (List.sublist_append_left _ _)
    have hfewer : FewPerWindow key arrivals := fun start =>
      Nat.lt_of_le_of_lt ((List.sublist_append_left _ _).filter _).length_le (hfew start)
    obtain ⟨hwindow, hadmitted⟩ := ih hbefore hfewer
    rw [serve_snoc]
    by_cases hcounts : a.counts key = true
    · have htimes : times key (arrivals ++ [a]) = times key arrivals ++ [a.now] := by
        simp [times, hcounts]
      have hstep : (FixedWindow.run authWindow 20 (times key (arrivals ++ [a]))).window =
          some (FixedWindow.step authWindow (((serve arrivals).windows key).map Window.counter)
            a.now) := by
        rw [htimes, FixedWindow.run_snoc, hwindow]; rfl
      have hcounter := counter_hit ((serve arrivals).windows key) a.now (hits_lt hordered hfew hstep)
      refine ⟨?_, ?_⟩
      · rw [windows_of_counts hcounts, hstep, Option.map_some, hcounter]
      · have hlimit : (hit ((serve arrivals).windows key) a.now).hits > authMaxRequests ↔
            ¬ (FixedWindow.step authWindow
              (FixedWindow.run authWindow 20 (times key arrivals)).window a.now).hits ≤ 20 := by
          rw [← hwindow, ← hcounter, gt_iff_lt, UInt32.lt_iff_toNat_lt, Nat.not_le]; rfl
        rw [htimes, FixedWindow.run_snoc, FixedWindow.State.arrive, ← hadmitted, Served.admitted,
          under_of_counts hcounts, List.filter_append, List.map_append, List.map_append, answer]
        by_cases hover : (hit ((serve arrivals).windows key) a.now).hits > authMaxRequests
        · rw [if_pos hover, if_neg (hlimit.mp hover)]
          simp [Served.admitted]
        · rw [if_neg hover, if_pos (not_not.mp (mt hlimit.mpr hover))]
          simp [Served.admitted]
    · have htimes : times key (arrivals ++ [a]) = times key arrivals := by
        simp [times, hcounts]
      rw [htimes, windows_of_not_counts hcounts, Served.admitted, under_of_not_counts hcounts]
      exact ⟨hwindow, hadmitted⟩

/-! ## What the limiter guarantees

  The library's bound for the counter, read as a bound for the requests of one client. -/

section

variable {key : String} {arrivals : List Arrival}

/-- Two windows meet an interval of their own length, so at most twice the limit gets through. -/
theorem admitted_in_interval (hordered : arrivals.Pairwise fun a b => a.now ≤ b.now)
    (hfew : FewPerWindow key arrivals) {lo hi : Instant} (hinterval : hi ≤ lo + authWindow) :
    (((serve arrivals).admitted key).filter fun a => lo ≤ a.now ∧ a.now ≤ hi).length ≤ 40 := by
  have hle := FixedWindow.admitted_le 20 hinterval (times_sorted key hordered)
  rw [FixedWindow.admittedIn, ← (follows_counter hordered hfew).2, List.filter_map,
    List.length_map] at hle
  exact hle

/-- A refusal shows that the window is used up: twenty requests before it lie in the same window. -/
theorem refused_after (hordered : arrivals.Pairwise fun a b => a.now ≤ b.now)
    (hfew : FewPerWindow key arrivals) {a : Arrival} (hcounts : a.counts key = true)
    (hlast : ∀ b ∈ arrivals, b.now ≤ a.now)
    (hrefused : (authRateLimit a.request a.now (serve arrivals).windows).1.isSome = true) :
    ∃ w older counted, (serve arrivals).windows key = some w ∧ w.startedAt ≤ a.now ∧
      a.now ≤ w.startedAt + authWindow ∧ arrivals.filter (·.counts key) = older ++ counted ∧
      counted.length = w.hits.toNat ∧ 20 ≤ counted.length ∧
      ∀ b ∈ counted, w.startedAt ≤ b.now := by
  have hover : (hit ((serve arrivals).windows key) a.now).hits > authMaxRequests := by
    obtain ⟨hpath, hkey⟩ := Bool.and_eq_true_iff.mp hcounts
    have hkey : rateLimitKey a.request = key := of_decide_eq_true hkey
    simp only [authRateLimit, hpath, hkey, Bool.not_true, Bool.false_eq_true, if_false] at hrefused
    by_contra hunder
    rw [if_neg hunder] at hrefused
    cases hrefused
  have hroom : ¬ (0 + 1 : UInt32) > authMaxRequests := by decide
  cases hentry : (serve arrivals).windows key with
  | none =>
    rw [hentry, hit, Option.getD_none, if_neg (by rw [Nat.sub_self]; exact Nat.not_lt_zero _)] at hover
    exact absurd hover hroom
  | some w =>
    rw [hentry, hit, Option.getD_some] at hover
    by_cases hreset : a.now - w.startedAt > authWindow
    · -- a window that has just been opened has room
      rw [if_pos hreset] at hover
      exact absurd hover hroom
    · rw [if_neg hreset] at hover
      obtain ⟨hwindow, -⟩ := follows_counter hordered hfew
      rw [hentry] at hwindow
      obtain ⟨older, counted, htimes, hlen, hhead, hin⟩ :=
        FixedWindow.counted_of_window (times_sorted key hordered) hwindow.symm
      -- from instants back to requests
      obtain ⟨older', counted', hsplit, rfl, rfl⟩ := List.map_eq_append_iff.mp htimes
      have hfirst : w.startedAt ∈ counted'.map Arrival.now := List.mem_of_head? hhead
      obtain ⟨b, hb, hbnow⟩ := List.mem_map.mp hfirst
      have hmem : b ∈ arrivals :=
        List.mem_of_mem_filter (hsplit ▸ List.mem_append_right older' hb)
      have hstarted : w.startedAt ≤ a.now := hbnow ▸ hlast b hmem
      have hcount : counted'.length = w.hits.toNat := by
        rw [← List.length_map (f := Arrival.now), hlen]; rfl
      have htwenty : 20 ≤ w.hits.toNat := by
        have hmore : (20 : UInt32).toNat < (w.hits + 1).toNat := UInt32.lt_iff_toNat_lt.mp hover
        rw [UInt32.toNat_add, UInt32.toNat_one, show (20 : UInt32).toNat = 20 from rfl] at hmore
        omega
      have hwithin : a.now ≤ w.startedAt + authWindow :=
        Nat.sub_le_iff_le_add'.mp (Nat.le_of_not_lt hreset)
      refine ⟨w, older', counted', rfl, hstarted, hwithin, hsplit, hcount, hcount ▸ htwenty, ?_⟩
      exact fun b hb => (hin b.now (List.mem_map_of_mem hb)).1

/-- **The limiter, key by key**: an interval that is not longer than a window sees at most twice the
    limit pass; who is refused comes after twenty others in a window that began at most a minute ago;
    and what is answered does not depend on other keys.

    Arrivals are in the order in which they are counted, and `FewPerWindow` keeps the 32-bit counter
    from wrapping.  The third part compares two runs with the same arrivals of the key and any
    others. -/
theorem auth_rate_limit (hordered : arrivals.Pairwise fun a b => a.now ≤ b.now)
    (hfew : FewPerWindow key arrivals) :
    (∀ lo hi, hi ≤ lo + authWindow →
      (((serve arrivals).admitted key).filter fun a => lo ≤ a.now ∧ a.now ≤ hi).length ≤ 40) ∧
    (∀ pre a post, arrivals = pre ++ a :: post → a.counts key = true →
      (authRateLimit a.request a.now (serve pre).windows).1.isSome = true →
      ∃ w older counted, (serve pre).windows key = some w ∧ w.startedAt ≤ a.now ∧
        a.now ≤ w.startedAt + authWindow ∧ pre.filter (·.counts key) = older ++ counted ∧
        counted.length = w.hits.toNat ∧ 20 ≤ counted.length ∧
        ∀ b ∈ counted, w.startedAt ≤ b.now) ∧
    (∀ arrivals', arrivals'.filter (·.counts key) = arrivals.filter (·.counts key) →
      (serve arrivals').under key = (serve arrivals).under key) := by
  refine ⟨fun lo hi => admitted_in_interval hordered hfew, ?_, fun arrivals' hsame => ?_⟩
  · rintro pre a post rfl hcounts hrefused
    obtain ⟨hpre, -, hcross⟩ := List.pairwise_append.mp hordered
    refine refused_after hpre (fun start => ?_) hcounts
      (fun b hb => hcross b hb a List.mem_cons_self) hrefused
    exact Nat.lt_of_le_of_lt ((List.sublist_append_left _ _).filter _).length_le (hfew start)
  · rw [(serve_filter key arrivals').1, (serve_filter key arrivals).1, hsame]

end

namespace Scenario

/-- A login, from a client without a forwarded address. -/
def login (now : Instant) : Arrival := ⟨⟨"/api/v1/auth/login", none, none⟩, now⟩

/-- Twenty-one logins at once, and one a second after the window. -/
def logins : List Arrival := List.replicate 21 (login 0) ++ [login (authWindow + 1000000000)]

end Scenario

open Api.Scenario (logins)

/-- The twenty-first is refused, the next window begins afresh. -/
theorem auth_rate_limit_logins :
    ((serve logins).answers.map fun x => x.2.isSome) =
      List.replicate 20 false ++ [true] ++ [false] ∧
    (((serve logins).admitted "local").filter fun a => 0 ≤ a.now ∧ a.now ≤ authWindow).length ≤ 40 := by
  refine ⟨by decide, (auth_rate_limit ?_ fun start => ?_).1 0 authWindow (by decide)⟩
  · decide
  · exact Nat.lt_of_le_of_lt (List.length_filter_le _ _) (by decide)

end EduStell.Api
