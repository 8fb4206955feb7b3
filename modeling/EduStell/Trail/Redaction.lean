/-
  What the redaction of audit metadata keeps and what it hides.

  A place in a JSON value is named by the path to it.  A path is open when it goes through no
  sensitive key; `sanitizeJsonValue` keeps the whole outline of a value along the open paths (array
  lengths, object keys and every scalar), and puts one and the same text wherever an open path meets
  a sensitive key.  So its result is determined by what the open paths see (`sanitize_eq_iff`), which
  is the noninterference statement in both directions.

  The theorem (`redaction_exact`) says four things: what a redacted value looks like
  (`RedactionOf`), that a second pass changes nothing, which values share a redaction, and that
  audit rows with two such values are written alike.
-/
import EduStell.Persistence

namespace EduStell

open Txn Persistence

namespace Value

/-- A step into an array, or into an object: the field at a position, under its key. -/
inductive Step
  | item (i : Nat)
  | field (i : Nat) (key : String)
  deriving DecidableEq, Repr

/-- A step to what a sensitive key stands for. -/
def Step.Sensitive : Step → Prop
  | item _ => False
  | field _ key => isSensitiveKey key = true

/-- Whether a step is sensitive can be decided. -/
instance (st : Step) : Decidable st.Sensitive :=
  match st with
  | .item _ => .isFalse id
  | .field _ key => inferInstanceAs (Decidable (isSensitiveKey key = true))

/-- What stands one step below a value. -/
def child : Value → Step → Option Value
  | array items, .item i => items[i]?
  | object fields, .field i key => (fields[i]?.filter fun field => field.1 = key).map (·.2)
  | _, _ => none

/-- What stands at the end of a path. -/
def at? : Value → List Step → Option Value
  | v, [] => some v
  | v, st :: path => (v.child st).bind fun x => x.at? path

/-- No step of the path goes through a sensitive key. -/
def Open (path : List Step) : Prop := ∀ st ∈ path, ¬ st.Sensitive

/-- A value without what is in it: a scalar as it is, the length of an array, the keys of an
    object. -/
def outline : Value → Value
  | array items => array (items.map fun _ => null)
  | object fields => object (fields.map fun field => (field.1, null))
  | other => other

/-- The text that takes the place of a secret. -/
def redacted : Value := string "[REDACTED]"

/-- Two values that differ only below sensitive keys: every open path meets the same outline. -/
def DifferOnlyBelow (v w : Value) : Prop :=
  ∀ path, Open path → (v.at? path).map outline = (w.at? path).map outline

/-- No sensitive key anywhere in the value. -/
def Harmless (v : Value) : Prop := ∀ path x, v.at? path = some x → Open path

end Value

open Value

/-! ## One step down

  What the redaction does is local: a step down the redacted value is the redaction of a step
  down, or the mask. -/

/-- The items of an array are redacted one by one. -/
theorem sanitizeItems_eq (items : List Value) : sanitizeItems items = items.map sanitizeJsonValue := by
  induction items with
  | nil => rfl
  | cons item items ih => rw [sanitizeItems, ih, List.map_cons]

/-- What the redaction makes of a field. -/
def sanitizeField (field : String × Value) : String × Value :=
  (field.1, if isSensitiveKey field.1 then redacted else sanitizeJsonValue field.2)

/-- The fields of an object are redacted one by one. -/
theorem sanitizeFields_eq (fields : List (String × Value)) :
    sanitizeFields fields = fields.map sanitizeField := by
  induction fields with
  | nil => rfl
  | cons field fields ih =>
    obtain ⟨key, value⟩ := field
    rw [sanitizeFields, ih, List.map_cons]; rfl

/-- A step that is not sensitive goes to what was redacted there. -/
theorem child_sanitize_open (v : Value) {st : Step} (h : ¬ st.Sensitive) :
    (sanitizeJsonValue v).child st = (v.child st).map sanitizeJsonValue := by
  cases v with
  | array items =>
    rw [sanitizeJsonValue, sanitizeItems_eq]
    cases st with
    | item i => simp [child]
    | field i key => rfl
  | object fields =>
    rw [sanitizeJsonValue, sanitizeFields_eq]
    cases st with
    | item i => rfl
    | field i key =>
      simp only [child, List.getElem?_map]
      cases hfield : fields[i]? with
      | none => rfl
      | some field =>
        obtain ⟨name, value⟩ := field
        by_cases hname : name = key
        · subst hname
          have hsafe : isSensitiveKey name = false := Bool.eq_false_iff.mpr h
          simp [Option.filter, sanitizeField, hsafe]
        · simp [Option.filter, sanitizeField, hname]
  | null => cases st <;> rfl
  | bool b => cases st <;> rfl
  | number literal => cases st <;> rfl
  | string s => cases st <;> rfl

/-- A sensitive step meets the mask, where there is anything at all. -/
theorem child_sanitize_sensitive (v : Value) {st : Step} (h : st.Sensitive) :
    (sanitizeJsonValue v).child st = (v.child st).map fun _ => redacted := by
  cases st with
  | item i => exact h.elim
  | field i key =>
    cases v with
    | object fields =>
      rw [sanitizeJsonValue, sanitizeFields_eq]
      simp only [child, List.getElem?_map]
      cases hfield : fields[i]? with
      | none => rfl
      | some field =>
        obtain ⟨name, value⟩ := field
        by_cases hname : name = key
        · subst hname
          have hsensitive : isSensitiveKey name = true := h
          simp [Option.filter, sanitizeField, hsensitive]
        · simp [Option.filter, sanitizeField, hname]
    | array items => rfl
    | null => rfl
    | bool b => rfl
    | number literal => rfl
    | string s => rfl

/-- The redaction keeps the outline of a value. -/
theorem outline_sanitize (v : Value) : (sanitizeJsonValue v).outline = v.outline := by
  cases v with
  | array items =>
    simp only [sanitizeJsonValue, sanitizeItems_eq, outline, List.map_map]; rfl
  | object fields =>
    simp only [sanitizeJsonValue, sanitizeFields_eq, outline, List.map_map]; rfl
  | _ => rfl

/-! ## Along a path

  By induction on the path, both for the paths that are open and for those that end at a sensitive
  key. -/

/-- A path that is followed in two parts. -/
theorem Value.at?_append (v : Value) (path path' : List Step) :
    v.at? (path ++ path') = (v.at? path).bind fun x => x.at? path' := by
  induction path generalizing v with
  | nil => rfl
  | cons st path ih =>
    simp only [List.cons_append, at?]
    cases v.child st with
    | none => rfl
    | some x => exact ih x

/-- **An open path meets what was there, redacted.** -/
theorem at?_sanitize {path : List Step} (h : Open path) (v : Value) :
    (sanitizeJsonValue v).at? path = (v.at? path).map sanitizeJsonValue := by
  induction path generalizing v with
  | nil => rfl
  | cons st path ih =>
    obtain ⟨hst, hpath⟩ := List.forall_mem_cons.mp h
    simp only [at?, child_sanitize_open v hst]
    cases v.child st with
    | none => rfl
    | some x => exact ih hpath x

/-- **A sensitive key at the end of an open path shows the mask.** -/
theorem at?_sanitize_sensitive {path : List Step} (h : Open path) {st : Step} (hst : st.Sensitive)
    (v : Value) : (sanitizeJsonValue v).at? (path ++ [st]) =
      (v.at? (path ++ [st])).map fun _ => redacted := by
  rw [at?_append, at?_append, at?_sanitize h]
  cases v.at? path with
  | none => rfl
  | some x =>
    simp only [Option.map_some, Option.bind_some, at?, child_sanitize_sensitive x hst]
    cases x.child st <;> rfl

/-- Along open paths nothing of the outline is lost. -/
theorem outline_at?_sanitize {path : List Step} (h : Open path) (v : Value) :
    ((sanitizeJsonValue v).at? path).map outline = (v.at? path).map outline := by
  rw [at?_sanitize h, Option.map_map]
  congr 1
  exact funext outline_sanitize

/-! ## What the open paths see determines the result

  If two values look alike along all open paths, they are redacted to the same value; and the
  other way round, since the redaction keeps what the open paths see.  The induction is over the
  nested value. -/

/-- Induction over a value and what is in it. -/
theorem Value.nested_induction {P : Value → Prop} (null : P null) (bool : ∀ b, P (bool b))
    (number : ∀ literal, P (number literal)) (string : ∀ s, P (string s))
    (array : ∀ items, (∀ x ∈ items, P x) → P (array items))
    (object : ∀ fields, (∀ field ∈ fields, P field.2) → P (object fields)) : ∀ v, P v
  | .null => null
  | .bool b => bool b
  | .number literal => number literal
  | .string s => string s
  | .array items => array items fun x hx =>
    have := List.sizeOf_lt_of_mem hx
    Value.nested_induction null bool number string array object x
  | .object fields => object fields fun field hfield =>
    have := List.sizeOf_lt_of_mem hfield
    Value.nested_induction null bool number string array object field.2
termination_by v => sizeOf v
decreasing_by
  · simp; omega
  · obtain ⟨key, x⟩ := field
    simp at this ⊢; omega

namespace Value.DifferOnlyBelow

variable {v w x y : Value}

/-- Two values that differ only below sensitive keys look alike from outside. -/
theorem outline (h : DifferOnlyBelow v w) : v.outline = w.outline :=
  Option.some.inj (h [] (by simp [Open]))

/-- A step down that is not sensitive. -/
theorem child (h : DifferOnlyBelow v w) {st : Step} (hst : ¬ st.Sensitive)
    (hx : v.child st = some x) (hy : w.child st = some y) : DifferOnlyBelow x y := by
  intro path hpath
  have hboth := h (st :: path) (List.forall_mem_cons.mpr ⟨hst, hpath⟩)
  simpa only [at?, hx, hy, Option.bind_some] using hboth

end Value.DifferOnlyBelow

/-- **Noninterference**: what differs below sensitive keys only is redacted to the same value. -/
theorem sanitize_congr {v w : Value} (h : DifferOnlyBelow v w) :
    sanitizeJsonValue v = sanitizeJsonValue w := by
  -- equal outlines: the same kind of value, of the same length and under the same keys
  induction v using Value.nested_induction generalizing w with
  | null =>
    cases w with
    | null => rfl
    | _ => cases h.outline
  | bool b =>
    cases w with
    | bool b' => cases h.outline; rfl
    | _ => cases h.outline
  | number literal =>
    cases w with
    | number literal' => cases h.outline; rfl
    | _ => cases h.outline
  | string s =>
    cases w with
    | string s' => cases h.outline; rfl
    | _ => cases h.outline
  | array items ih =>
    cases w with
    | array items' =>
      have hlength : items.length = items'.length := by
        simpa [Value.outline] using congrArg List.length (Value.array.inj h.outline)
      rw [sanitizeJsonValue, sanitizeJsonValue, sanitizeItems_eq, sanitizeItems_eq]
      refine congrArg Value.array (List.ext_getElem (by simpa using hlength) fun i hi hi' => ?_)
      rw [List.length_map] at hi hi'
      rw [List.getElem_map, List.getElem_map]
      refine ih _ (List.getElem_mem hi) (h.child (show ¬ Step.Sensitive (.item i) from id) ?_ ?_)
      · simp [Value.child, hi]
      · simp [Value.child, hi']
    | _ => cases h.outline
  | object fields ih =>
    cases w with
    | object fields' =>
      have hkeys : fields.map (·.1) = fields'.map (·.1) := by
        have hboth := congrArg (List.map (·.1)) (Value.object.inj h.outline)
        simpa [Function.comp_def] using hboth
      have hlength : fields.length = fields'.length := by
        simpa using congrArg List.length hkeys
      rw [sanitizeJsonValue, sanitizeJsonValue, sanitizeFields_eq, sanitizeFields_eq]
      refine congrArg Value.object (List.ext_getElem (by simpa using hlength) fun i hi hi' => ?_)
      rw [List.length_map] at hi hi'
      rw [List.getElem_map, List.getElem_map]
      have hkey : fields[i].1 = fields'[i].1 := by
        have hboth := congrArg (·[i]?) hkeys
        simpa [hi, hi'] using hboth
      rw [sanitizeField, sanitizeField, ← hkey]
      by_cases hsensitive : isSensitiveKey fields[i].1 = true
      · -- whatever stands there, the mask replaces it
        rw [if_pos hsensitive, if_pos hsensitive]
      · rw [if_neg hsensitive, if_neg hsensitive]
        refine congrArg (Prod.mk _) (ih _ (List.getElem_mem hi) ?_)
        have hopen : ¬ Step.Sensitive (.field i fields[i].1) := hsensitive
        refine h.child hopen ?_ ?_
        · simp [Value.child, Option.filter, hi]
        · simp [Value.child, Option.filter, hi', hkey]
    | _ => cases h.outline

/-- Two values have the same redaction if and only if they differ below sensitive keys only. -/
theorem sanitize_eq_iff {v w : Value} :
    sanitizeJsonValue v = sanitizeJsonValue w ↔ DifferOnlyBelow v w := by
  refine ⟨fun h path hpath => ?_, sanitize_congr⟩
  rw [← outline_at?_sanitize hpath, h, outline_at?_sanitize hpath]

/-- A value and its redaction differ below sensitive keys only, so a second pass changes nothing. -/
theorem sanitize_idem (v : Value) :
    sanitizeJsonValue (sanitizeJsonValue v) = sanitizeJsonValue v :=
  sanitize_congr fun _ hpath => outline_at?_sanitize hpath v

/-- What is below a harmless value is harmless. -/
theorem Value.Harmless.child {v x : Value} (h : v.Harmless) {st : Step} (hx : v.child st = some x) :
    ¬ st.Sensitive ∧ x.Harmless := by
  constructor
  · refine h [st] x ?_ st List.mem_cons_self
    simp [at?, hx]
  · intro path y hy
    have hall := h (st :: path) y (by simpa only [at?, hx, Option.bind_some] using hy)
    exact (List.forall_mem_cons.mp hall).2

/-- A value without sensitive keys is kept as it is. -/
theorem sanitize_of_harmless {v : Value} (h : v.Harmless) : sanitizeJsonValue v = v := by
  induction v using Value.nested_induction with
  | array items ih =>
    have hitems : ∀ x ∈ items, sanitizeJsonValue x = x := by
      intro x hx
      obtain ⟨i, hi, rfl⟩ := List.getElem_of_mem hx
      have hchild : (Value.array items).child (.item i) = some items[i] := by simp [Value.child, hi]
      exact ih _ hx (h.child hchild).2
    rw [sanitizeJsonValue, sanitizeItems_eq, List.map_congr_left hitems, List.map_id']
  | object fields ih =>
    have hfields : ∀ field ∈ fields, sanitizeField field = field := by
      intro field hfield
      obtain ⟨i, hi, rfl⟩ := List.getElem_of_mem hfield
      have hchild : (Value.object fields).child (.field i fields[i].1) = some fields[i].2 := by
        simp [Value.child, Option.filter, hi]
      obtain ⟨hsafe, hharmless⟩ := h.child hchild
      have hsafe : ¬ isSensitiveKey fields[i].1 = true := hsafe
      rw [sanitizeField, if_neg hsafe, ih _ hfield hharmless]
    rw [sanitizeJsonValue, sanitizeFields_eq, List.map_congr_left hfields, List.map_id']
  | _ => rfl

/-! ## The redaction as a whole

  The facts above, gathered into one statement about `sanitizeJsonValue`. -/

/-- What the redaction makes of a value. -/
structure RedactionOf (v w : Value) : Prop where
  /-- Array lengths, object keys and scalars stay, wherever no sensitive key is in the way. -/
  outline : ∀ path, Open path → (w.at? path).map Value.outline = (v.at? path).map Value.outline
  /-- Under a sensitive key, wherever it stands, there is the mask and nothing else. -/
  masked : ∀ path st, Open path → st.Sensitive →
    w.at? (path ++ [st]) = (v.at? (path ++ [st])).map fun _ => redacted
  /-- What holds no secret and is below none stays as it is. -/
  kept : ∀ path x, Open path → v.at? path = some x → x.Harmless → w.at? path = some x

/-- The redaction masks what is sensitive, and nothing else. -/
theorem sanitizeJsonValue_redacts (v : Value) : RedactionOf v (sanitizeJsonValue v) := by
  refine ⟨fun path hpath => outline_at?_sanitize hpath v,
    fun path st hpath hst => at?_sanitize_sensitive hpath hst v, fun path x hpath hx hharmless => ?_⟩
  rw [at?_sanitize hpath, hx, Option.map_some, sanitize_of_harmless hharmless]

/-- **The redaction of audit metadata**: it hides what stands under sensitive keys and nothing else,
    a second pass changes nothing, and two values have the same redaction exactly if they differ
    below sensitive keys only; so an audit row is written without regard to any secret.

    In the order of the statement: what the result looks like at every path; idempotence;
    noninterference, as an equivalence; and its consequence for the statement that writes the row.
    -/
theorem redaction_exact (v : Value) :
    RedactionOf v (sanitizeJsonValue v) ∧
    sanitizeJsonValue (sanitizeJsonValue v) = sanitizeJsonValue v ∧
    (∀ w, sanitizeJsonValue v = sanitizeJsonValue w ↔ DifferOnlyBelow v w) ∧
    ∀ w, DifferOnlyBelow v w → ∀ log : AuditLog,
      appendAuditLog { log with metadata := v } = appendAuditLog { log with metadata := w } := by
  refine ⟨sanitizeJsonValue_redacts v, sanitize_idem v, fun w => sanitize_eq_iff, ?_⟩
  intro w h log
  simp only [appendAuditLog, sanitizeAuditLog, sanitize_congr h]

/-- A secret inside an array of objects. -/
example : sanitizeJsonValue (.object [("items", .array [.object [("Auth_Token", .number "1"),
      ("amount", .number "2")]])]) =
    .object [("items", .array [.object [("Auth_Token", redacted), ("amount", .number "2")]])] := by
  have hitems : isSensitiveKey "items" = false := by decide +kernel
  have htoken : isSensitiveKey "Auth_Token" = true := by decide +kernel
  have hamount : isSensitiveKey "amount" = false := by decide +kernel
  simp [sanitizeJsonValue, sanitizeFields, sanitizeItems, hitems, htoken, hamount, redacted]

end EduStell
