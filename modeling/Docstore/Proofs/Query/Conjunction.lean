import Docstore.Proofs.Query.Entries

/-!
# Operators of one constraint

A constraint on a field is the conjunction of its operators: each contributes what it contributes alone, or
nothing where it has no content. Main statement: `operators_conjoin`.
-/

namespace Docstore.Query

open Docstore.Sql (Bindings joinFragments)

/-! ## Clauses one after the other -/

namespace Clauses

theorem concat_of_forall_none {rs : List Clauses} (h : ∀ r ∈ rs, r = none) : concat rs = none := by
  induction rs with
  | nil => rfl
  | cons r rs ih =>
      rw [concat, h r (.head _), none_append]
      exact ih fun s hs => h s (.tail _ hs)

theorem concat_ok_iff {rs : List Clauses} {cs : List Condition} :
    concat rs = .ok cs ↔ ∃ parts : List (List Condition), rs = parts.map .ok ∧ cs = parts.flatten := by
  constructor
  · intro h
    induction rs generalizing cs with
    | nil =>
        cases h
        exact ⟨[], rfl, rfl⟩
    | cons r rs ih =>
        obtain ⟨as, bs, rfl, hbs, rfl⟩ := append_ok h
        obtain ⟨parts, rfl, rfl⟩ := ih hbs
        exact ⟨as :: parts, rfl, rfl⟩
  · rintro ⟨parts, rfl, rfl⟩
    induction parts with
    | nil => rfl
    | cons as parts ih => rw [List.map_cons, concat, ih]; rfl

end Clauses

/-! ## The operators -/

namespace Operator

/-- An operator: the keys that it is written with, and its clauses by what is found under them. -/
structure Kind where
  keys : List String
  clauses : Time.Instant → Subject → (String → Option Json) → Clauses

def under (look : String → Option Json) (name inner : String) : Option Json :=
  (look name).bind (·.get? inner)

/-- All operators, in the order in which they are compiled. -/
def kinds : List Kind :=
  [⟨["$ne"], fun _ s look => notEqual s (look "$ne")⟩,
   ⟨["$eq"], fun _ s look => equal s (look "$eq")⟩,
   ⟨["$in"], fun _ s look => membership s "$in" false (look "$in")⟩,
   ⟨["$nin"], fun _ s look => membership s "$nin" true (look "$nin")⟩,
   ⟨["$all"], fun _ s look => all s (look "$all")⟩,
   ⟨["$exists"], fun _ s look => present s (look "$exists")⟩,
   ⟨["$containedBy"], fun _ s look => containedBy s (look "$containedBy")⟩,
   ⟨["$text"], fun _ s look => text s (look "$text")⟩,
   ⟨["$nearSphere", "$maxDistance"],
    fun _ s look => nearSphere s (look "$maxDistance") (look "$nearSphere")⟩,
   ⟨["$within"], fun _ s look => withinBox s (under look "$within" "$box")⟩,
   ⟨["$geoWithin"], fun _ s look =>
    Clauses.append (centerSphere s (under look "$geoWithin" "$centerSphere"))
      (withinPolygon s (under look "$geoWithin" "$polygon"))⟩,
   ⟨["$geoIntersects"], fun _ s look => intersects s (under look "$geoIntersects" "$point")⟩,
   ⟨["$regex", "$options"], fun _ s look => regex s (look "$options") (look "$regex")⟩,
   ⟨["$gt"], fun now s look => compare now s .greater (look "$gt")⟩,
   ⟨["$lt"], fun now s look => compare now s .less (look "$lt")⟩,
   ⟨["$gte"], fun now s look => compare now s .greaterOrEqual (look "$gte")⟩,
   ⟨["$lte"], fun now s look => compare now s .lessOrEqual (look "$lte")⟩]

namespace Kind

def among (k : Kind) (now : Time.Instant) (s : Subject) (ops : Document) : Clauses :=
  k.clauses now s (Fields.get? · ops)

def alone (k : Kind) (ops : Document) : Document := ops.filter fun e => k.keys.contains e.1

theorem clauses_congr {k : Kind} (hk : k ∈ kinds) {look look' : String → Option Json}
    (h : ∀ key ∈ k.keys, look key = look' key) (now : Time.Instant) (s : Subject) :
    k.clauses now s look = k.clauses now s look' := by
  revert k
  simp only [kinds, List.forall_mem_cons, List.not_mem_nil, false_implies, implies_true, and_true]
  and_intros
  all_goals
    intro h
    simp only [under, h]

theorem clauses_eq_none {k : Kind} (hk : k ∈ kinds) {look : String → Option Json}
    (h : ∀ key ∈ k.keys, look key = none) (now : Time.Instant) (s : Subject) :
    k.clauses now s look = Clauses.none := by
  rw [clauses_congr hk (h : ∀ key ∈ k.keys, look key = (fun _ => none) key)]
  revert k
  simp only [kinds, List.forall_mem_cons, List.not_mem_nil, false_implies, implies_true, and_true]
  and_intros
  all_goals
    intro _
    rfl

theorem keys_disjoint : kinds.Pairwise fun k l => ∀ key ∈ k.keys, key ∉ l.keys := by
  decide

theorem keys_eq_of_mem_ne {k : Kind} (hk : k ∈ kinds) (h : "$ne" ∈ k.keys) : k.keys = ["$ne"] := by
  revert k
  decide

theorem get?_alone (k : Kind) (key : String) (ops : Document) :
    Fields.get? key (k.alone ops) = if key ∈ k.keys then Fields.get? key ops else none := by
  induction ops with
  | nil => simp [alone, Fields.get?]
  | cons e rest ih =>
      obtain ⟨name, v⟩ := e
      rw [alone] at ih
      by_cases hname : name ∈ k.keys
      · rw [alone, List.filter_cons_of_pos (by simpa using hname), Fields.get?, Fields.get?, ih]
        split
        · rename_i heq
          rw [if_pos (heq ▸ hname)]
        · rfl
      · rw [alone, List.filter_cons_of_neg (by simpa using hname), ih, Fields.get?]
        split
        · rename_i hkey
          rw [if_neg]
          rintro rfl
          exact hname hkey
        · rfl

end Kind

variable {now : Time.Instant} {s : Subject} {ops : Document}

theorem concat_map_eq {ks : List Kind} {r : Kind → Clauses} {k : Kind} (hk : k ∈ ks)
    (hdisjoint : ks.Pairwise fun k l => ∀ key ∈ k.keys, key ∉ l.keys)
    (hr : ∀ l ∈ ks, (∀ key ∈ k.keys, key ∉ l.keys) → r l = Clauses.none) :
    Clauses.concat (ks.map r) = r k := by
  induction ks with
  | nil => cases hk
  | cons l ks ih =>
      obtain ⟨hl, hks⟩ := List.pairwise_cons.mp hdisjoint
      rw [List.map_cons, Clauses.concat]
      rcases List.mem_cons.mp hk with rfl | hk
      · rw [Clauses.concat_of_forall_none, Clauses.append_none]
        intro c hc
        obtain ⟨m, hm, rfl⟩ := List.mem_map.mp hc
        exact hr m (.tail _ hm) (hl m hm)
      · have hkl : ∀ key ∈ k.keys, key ∉ l.keys := fun key hkey hkey' => hl k hk key hkey' hkey
        rw [hr l (.head _) hkl, Clauses.none_append]
        exact ih hk hks fun m hm => hr m (.tail _ hm)

/-- Nothing stands beside a difference from null that ends its constraint. -/
def EndsAlone (s : Subject) (ops : Document) : Prop :=
  endsConstraint s (Fields.get? "$ne" ops) = true → ∀ e ∈ ops, e.1 = "$ne"

theorem dottedMembership_eq_none (hs : s.isDotted = false) (negated : Bool) (v : Option Json) :
    dottedMembership s negated v = Clauses.none := by
  unfold dottedMembership
  split
  · rw [hs]
    rfl
  · rfl

theorem get?_eq_none_of_forall {key other : String} (h : ∀ e ∈ ops, e.1 = other) (hne : key ≠ other) :
    Fields.get? key ops = none := by
  induction ops with
  | nil => rfl
  | cons e rest ih =>
      obtain ⟨name, v⟩ := e
      have hname : name = other := h (name, v) (.head _)
      rw [Fields.get?, if_neg (by rw [hname]; exact hne.symm)]
      exact ih fun e he => h e (.tail _ he)

theorem constraint_eq_concat (hs : s.isDotted = false) (hend : EndsAlone s ops) :
    constraint now s ops =
      Clauses.concat (kinds.map fun k => k.among now s ops) := by
  cases h : endsConstraint s (Fields.get? "$ne" ops) with
  | false =>
      simp only [constraint, h, dottedMembership_eq_none hs, Bool.false_eq_true, if_false,
        List.cons_append, List.nil_append, Clauses.concat, Clauses.none_append, kinds, List.map_cons,
        List.map_nil, Clauses.append_assoc, under, Kind.among]
  | true =>
      -- The difference from null is the only operator, so that none is lost behind it.
      have hne : (kinds.head (by decide)).among now s ops =
          notEqual s (Fields.get? "$ne" ops) := rfl
      rw [concat_map_eq (List.head_mem (by decide)) Kind.keys_disjoint, hne]
      · simp only [constraint, h, dottedMembership_eq_none hs, if_true, Clauses.concat,
          Clauses.none_append, Clauses.append_none]
      · intro l hl hdisjoint
        apply Kind.clauses_eq_none hl
        intro key hkey
        apply get?_eq_none_of_forall (hend h)
        rintro rfl
        exact hdisjoint "$ne" (by decide) hkey

theorem EndsAlone.alone {k : Kind} (hk : k ∈ kinds) : EndsAlone s (k.alone ops) := by
  intro h e he
  have hmem : "$ne" ∈ k.keys := by
    rw [k.get?_alone] at h
    split at h
    · assumption
    · cases h
  have hkeys := Kind.keys_eq_of_mem_ne hk hmem
  simpa [Kind.alone, hkeys] using (List.mem_filter.mp he).2

theorem constraint_alone (hs : s.isDotted = false) {k : Kind} (hk : k ∈ kinds) :
    constraint now s (k.alone ops) = k.among now s ops := by
  rw [constraint_eq_concat hs (EndsAlone.alone hk), concat_map_eq hk Kind.keys_disjoint]
  · apply Kind.clauses_congr hk
    intro key hkey
    rw [k.get?_alone, if_pos hkey]
  · intro l hl hdisjoint
    apply Kind.clauses_eq_none hl
    intro key hkey
    rw [k.get?_alone, if_neg fun hkey' => hdisjoint key hkey' hkey]

end Operator

/-! ## Constraints as queries -/

/-- The refusal of an entry that contributes no condition. -/
def unsupported (key : String) (value : Json) : Cause :=
  .operationForbidden ("this query type is not supported yet: " ++ key ++ ": " ++ value.print)

/-- The operators of a constraint, each on its own. -/
def singles (ops : Document) : List Document :=
  (Operator.kinds.map fun k => k.alone ops).filter (!·.isEmpty)

def accepts (c : Context) (f : String) (b : Bindings) (ops : Document) : Bool :=
  (predicate c [(f, .object ops)] b).1.isOk

/-- Operators without content, such as a comparison with an empty text. -/
def IsIdle (c : Context) (f : String) (ops : Document) : Prop :=
  fieldClauses c f (.object ops) = Clauses.none

def Context.subject (c : Context) (f : String) : Subject := ⟨f, c.schema.fieldType? f⟩

theorem isOk_iff {ε α β : Type} {r : Except ε α × β} : r.1.isOk = true ↔ ∃ a b, r = (.ok a, b) := by
  obtain ⟨r, b⟩ := r
  cases r <;> simp [Except.isOk, Except.toBool]

theorem required_ok_iff {key : String} {v : Json} {r : Clauses} {cs : List Condition} :
    required key v r = .ok cs ↔ r = .ok cs ∧ cs ≠ [] := by
  constructor
  · intro h
    have hcs := required_ne_nil h
    unfold required at h
    split at h
    · cases h
    · exact ⟨h, hcs⟩
  · rintro ⟨rfl, hcs⟩
    cases cs with
    | nil => exact absurd rfl hcs
    | cons c cs => rfl

section

variable {c : Context} {f : String} {ops : Document}

theorem fieldClauses_object (htag : (Json.object ops).typeTag? = none) :
    fieldClauses c f (.object ops) = Operator.constraint c.now (c.subject f) ops := by
  simp [fieldClauses, htag, Json.isString, Context.subject]

theorem typeTag?_alone {k : Operator.Kind} (hk : k ∈ Operator.kinds) :
    (Json.object (k.alone ops)).typeTag? = none := by
  have hkey : "__type" ∉ k.keys := by
    revert k
    decide
  rw [Json.typeTag?, Json.get?, k.get?_alone, if_neg hkey]
  rfl

theorem fieldClauses_alone (hdot : isDotted f = false) {k : Operator.Kind} (hk : k ∈ Operator.kinds) :
    fieldClauses c f (.object (k.alone ops)) = k.among c.now (c.subject f) ops := by
  rw [fieldClauses_object (typeTag?_alone hk), Operator.constraint_alone (s := c.subject f) hdot hk]

theorem mem_singles_or {k : Operator.Kind} (hk : k ∈ Operator.kinds) :
    k.alone ops ∈ singles ops ∨ fieldClauses c f (.object (k.alone ops)) = Clauses.none := by
  cases h : k.alone ops with
  | nil =>
      right
      rw [fieldClauses_object rfl]
      rfl
  | cons e rest =>
      left
      exact List.mem_filter.mpr ⟨List.mem_map.mpr ⟨k, hk, h⟩, rfl⟩

theorem validateQuery_object (ops ops' : Document) :
    validateQuery [(f, .object ops)] = validateQuery [(f, .object ops')] := by
  simp only [validateQuery, validateEntry]

theorem isLogical_eq_false (hv : validateQuery [(f, .object ops)] = .ok ()) : isLogical f = false := by
  cases hl : isLogical f with
  | false => rfl
  | true => simp [validateQuery, validateEntry, hl, fail] at hv

theorem compile_of_isAuthDataKey (hauth : isAuthDataKey f = true) (ops : Document) :
    compile c [(f, .object ops)] = .ok [] := by
  rw [compile, isSkipped, hauth]
  rfl

theorem predicate_of_isAuthDataKey (hauth : isAuthDataKey f = true) (ops ops' : Document)
    (b : Bindings) : predicate c [(f, .object ops)] b = predicate c [(f, .object ops')] b := by
  simp only [predicate, compileQuery, validateQuery_object ops ops', compile_of_isAuthDataKey hauth]

theorem isLogical_of_isValidKey (hkey : isValidKey f = true) : isLogical f = false := by
  rw [Bool.eq_false_iff]
  intro hl
  rcases isLogical_cases hl with rfl | rfl | rfl <;> exact absurd hkey (by decide)

theorem validateQuery_ok_iff (ops : Document) :
    validateQuery [(f, .object ops)] = .ok () ↔ isValidKey f = true := by
  constructor
  · intro hv
    have hlogical := isLogical_eq_false hv
    rw [← validateKey_ok_iff]
    simp only [validateQuery, validateEntry, hlogical, Bool.false_eq_true, if_false] at hv
    split at hv
    · cases hv
    · assumption
  · intro hkey
    simp [validateQuery, validateEntry, isLogical_of_isValidKey hkey, validateKey, hkey]

/-- A constraint of one operator becomes what the operator becomes. -/
theorem compile_operator {op : String} (hkey : isValidKey f = true) (hauth : isAuthDataKey f = false)
    (htype : op ≠ "__type") (hexists : op ≠ "$exists") (v : Json) :
    compile c [(f, .object [(op, v)])] =
      required f (.object [(op, v)]) (Operator.constraint c.now (c.subject f) [(op, v)]) := by
  have htag : (Json.object [(op, v)]).typeTag? = none := by
    simp [Json.typeTag?, Json.get?, Fields.get?, htype]
  have hskip : isSkipped c.schema f (.object [(op, v)]) = false := by
    simp [isSkipped, hauth, wantsAbsence, Json.get?, Fields.get?, hexists]
  rw [compile, hskip, compileEntry_of_not_logical c (isLogical_of_isValidKey hkey),
    fieldClauses_object htag]
  exact Clauses.append_none _

theorem predicate_eq_empty (hauth : isAuthDataKey f = true) {b b' : Bindings} {p : Predicate}
    (h : predicate c [(f, .object ops)] b = (.ok p, b')) : p.sql = [] ∧ b' = b := by
  obtain ⟨cs, -, hcs, rfl, rfl⟩ := predicate_ok h
  rw [compile_of_isAuthDataKey hauth] at hcs
  cases hcs
  refine ⟨rfl, ?_⟩
  simp [Condition.values, Condition.conjunction, Bindings.append]

end

/-! ## Accepted operators -/

/-- A field that a constraint is compiled for: its key is safe, it is declared and it is no auth data. -/
structure IsConstrainable (c : Context) (f : String) : Prop where
  declared : (c.schema.fieldType? f).isSome
  undotted : isDotted f = false
  notAuthData : isAuthDataKey f = false
  valid : ∀ ops, validateQuery [(f, .object ops)] = .ok ()

namespace IsConstrainable

variable {c : Context} {f : String} (hf : IsConstrainable c f)

include hf

theorem compile_eq (ops : Document) :
    compile c [(f, .object ops)] = required f (.object ops) (fieldClauses c f (.object ops)) := by
  have hs : isSkipped c.schema f (.object ops) = false := by
    rw [isSkipped, hf.notAuthData, Option.isNone_eq_false_iff.mpr hf.declared]
    rfl
  rw [compile, hs, compileEntry_of_not_logical c (isLogical_eq_false (hf.valid ops))]
  exact Clauses.append_none _

theorem accepts_iff (b : Bindings) (ops : Document) :
    accepts c f b ops = true ↔ ∃ cs, fieldClauses c f (.object ops) = .ok cs ∧ cs ≠ [] := by
  have hcompile (cs : List Condition) : compile c [(f, .object ops)] = .ok cs ↔
      fieldClauses c f (.object ops) = .ok cs ∧ cs ≠ [] := by
    rw [hf.compile_eq, required_ok_iff]
  rw [accepts, isOk_iff]
  constructor
  · rintro ⟨p, b', h⟩
    obtain ⟨cs, -, hcs, -, -⟩ := predicate_ok h
    exact ⟨cs, (hcompile cs).mp hcs⟩
  · rintro ⟨cs, hcs⟩
    exact ⟨_, _, predicate_of_ok (hf.valid ops) ((hcompile cs).mpr hcs) b⟩

theorem accepts_of_ok {b : Bindings} {ops : Document} {cs : List Condition}
    (h : fieldClauses c f (.object ops) = .ok cs) : accepts c f b ops = !cs.isEmpty := by
  rw [Bool.eq_iff_iff, hf.accepts_iff, h]
  cases cs <;> simp

theorem predicate_of_isIdle {ops : Document} (h : IsIdle c f ops) (b : Bindings) :
    predicate c [(f, .object ops)] b = (.error (.ofCause (unsupported f (.object ops))), b) := by
  rw [IsIdle] at h
  rw [predicate, compileQuery, hf.valid ops, hf.compile_eq, h]
  simp [required, Clauses.none, Clauses.fail, Clauses.fault, unsupported, Bindings.append]

theorem accepts_singles (b : Bindings) (ops : Document) :
    (singles ops).filter (accepts c f b) =
      (Operator.kinds.map fun k => k.alone ops).filter (accepts c f b) := by
  rw [singles, List.filter_filter]
  apply List.filter_congr
  intro o _
  cases o with
  | nil =>
      have hnone : fieldClauses c f (.object []) = .ok [] := by
        rw [fieldClauses_object rfl]
        rfl
      rw [hf.accepts_of_ok hnone]
      rfl
  | cons e o => simp

theorem compile_accepted (b : Bindings) {os : List Document} {parts : List (List Condition)}
    (h : (os.map fun o => fieldClauses c f (.object o)) = parts.map .ok) :
    ((os.filter (accepts c f b)).map fun o => compile c [(f, .object o)]) =
      (parts.filter (!·.isEmpty)).map .ok := by
  induction os generalizing parts with
  | nil =>
      cases parts with
      | nil => rfl
      | cons part parts => cases h
  | cons o os ih =>
      cases parts with
      | nil => cases h
      | cons part parts =>
          obtain ⟨hpart, hparts⟩ := List.cons.inj h
          change fieldClauses c f (.object o) = .ok part at hpart
          rw [List.filter_cons, hf.accepts_of_ok hpart, List.filter_cons]
          cases part with
          | nil => exact ih hparts
          | cons d ds =>
              have ho : compile c [(f, .object o)] = .ok (d :: ds) := by
                rw [hf.compile_eq, hpart]
                rfl
              simp [ho, ih hparts]

end IsConstrainable

/-! ## Operators conjoin -/

section

variable {α : Type} {r : α → Clauses} {xs : List α}

theorem exists_parts (h : ∀ x ∈ xs, ∃ cs, r x = .ok cs) :
    ∃ parts : List (List Condition), xs.map r = parts.map .ok := by
  induction xs with
  | nil => exact ⟨[], rfl⟩
  | cons x xs ih =>
      obtain ⟨cs, hcs⟩ := h x (.head _)
      obtain ⟨parts, hparts⟩ := ih fun y hy => h y (.tail _ hy)
      exact ⟨cs :: parts, by rw [List.map_cons, hcs, hparts]; rfl⟩

variable {parts : List (List Condition)} (h : xs.map r = parts.map .ok)

include h

theorem part_of_mem {x : α} (hx : x ∈ xs) : ∃ part ∈ parts, r x = .ok part := by
  have hmem : r x ∈ parts.map .ok := h ▸ List.mem_map_of_mem hx
  obtain ⟨part, hpart, hr⟩ := List.mem_map.mp hmem
  exact ⟨part, hpart, hr.symm⟩

theorem mem_of_part {part : List Condition} (hpart : part ∈ parts) : ∃ x ∈ xs, r x = .ok part :=
  List.mem_map.mp (h ▸ List.mem_map_of_mem hpart)

end

namespace IsConstrainable

variable {c : Context} {f : String} {ops : Document} (hf : IsConstrainable c f)

include hf

theorem fieldClauses_eq_concat (htag : (Json.object ops).typeTag? = none)
    (hend : Operator.EndsAlone (c.subject f) ops) :
    fieldClauses c f (.object ops) = Clauses.concat
      ((Operator.kinds.map fun k => k.alone ops).map fun o => fieldClauses c f (.object o)) := by
  rw [fieldClauses_object htag, Operator.constraint_eq_concat (s := c.subject f) hf.undotted hend,
    List.map_map]
  congr 1
  apply List.map_congr_left
  intro k hk
  exact (fieldClauses_alone hf.undotted hk).symm

variable (hconcat : fieldClauses c f (.object ops) = Clauses.concat
  ((Operator.kinds.map fun k => k.alone ops).map fun o => fieldClauses c f (.object o)))

include hconcat

theorem accepts_iff_singles (b : Bindings) :
    accepts c f b ops = true ↔ (∃ o ∈ singles ops, accepts c f b o = true) ∧
      ∀ o ∈ singles ops, accepts c f b o = true ∨ IsIdle c f o := by
  rw [hf.accepts_iff, hconcat]
  constructor
  · rintro ⟨cs, hcs, hne⟩
    obtain ⟨parts, hparts, rfl⟩ := Clauses.concat_ok_iff.mp hcs
    constructor
    · obtain ⟨part, hpart, hne⟩ : ∃ part ∈ parts, part ≠ [] := by
        simpa [List.flatten_eq_nil_iff] using hne
      obtain ⟨o, ho, hclauses⟩ := mem_of_part hparts hpart
      obtain ⟨k, hk, rfl⟩ := List.mem_map.mp ho
      rcases mem_singles_or hk with hsingle | hidle
      · exact ⟨_, hsingle, (hf.accepts_iff b _).mpr ⟨part, hclauses, hne⟩⟩
      · cases hclauses.symm.trans hidle
        exact absurd rfl hne
    · intro o ho
      obtain ⟨part, -, hclauses⟩ := part_of_mem hparts (List.mem_filter.mp ho).1
      cases part with
      | nil => exact .inr hclauses
      | cons d ds => exact .inl ((hf.accepts_iff b o).mpr ⟨_, hclauses, List.cons_ne_nil d ds⟩)
  · rintro ⟨⟨o, ho, haccepted⟩, hall⟩
    have hbecome : ∀ o ∈ Operator.kinds.map (fun k => k.alone ops),
        ∃ cs, fieldClauses c f (.object o) = .ok cs := by
      intro o ho
      obtain ⟨k, hk, rfl⟩ := List.mem_map.mp ho
      rcases mem_singles_or hk with hsingle | hidle
      · rcases hall _ hsingle with hok | hidle
        · obtain ⟨cs, hcs, -⟩ := (hf.accepts_iff b _).mp hok
          exact ⟨cs, hcs⟩
        · exact ⟨[], hidle⟩
      · exact ⟨[], hidle⟩
    obtain ⟨parts, hparts⟩ := exists_parts hbecome
    obtain ⟨cs, hcs, hne⟩ := (hf.accepts_iff b o).mp haccepted
    obtain ⟨part, hpart, hclauses⟩ := part_of_mem hparts (List.mem_filter.mp ho).1
    cases hcs.symm.trans hclauses
    refine ⟨parts.flatten, Clauses.concat_ok_iff.mpr ⟨parts, hparts, rfl⟩, ?_⟩
    intro hnil
    exact hne (List.flatten_eq_nil_iff.mp hnil cs hpart)

theorem predicate_eq_join {b b' : Bindings} {p : Predicate}
    (h : predicate c [(f, .object ops)] b = (.ok p, b')) :
    ∃ ps, predicates c (((singles ops).filter (accepts c f b)).map fun o => [(f, .object o)]) b =
        (.ok ps, b') ∧
      p.sql = joinFragments " AND " (ps.map (·.sql)) ∧ p.orders = ps.flatMap (·.orders) := by
  obtain ⟨cs, -, hcs, rfl, rfl⟩ := predicate_ok h
  rw [hf.compile_eq, required_ok_iff, hconcat] at hcs
  obtain ⟨parts, hparts, rfl⟩ := Clauses.concat_ok_iff.mp hcs.1
  have hcompile := hf.compile_accepted b hparts
  have hne : ∀ part ∈ parts.filter (!·.isEmpty), part ≠ [] := by simp
  have hflatten : (parts.filter (!·.isEmpty)).flatten = parts.flatten :=
    List.flatten_filter_not_isEmpty
  obtain ⟨hsql, horders⟩ := number_flatten hne b
  rw [hflatten] at hsql horders
  refine ⟨numbered b (parts.filter (!·.isEmpty)), ?_, hsql, horders⟩
  rw [← hflatten, Condition.values_flatten, hf.accepts_singles]
  apply predicates_of_ok
  · intro q hq
    obtain ⟨o, -, rfl⟩ := List.mem_map.mp hq
    exact hf.valid o
  · rw [List.map_map]
    exact hcompile

end IsConstrainable

/-- A constraint is accepted just if each of its operators is accepted alone or idle, and one is accepted.
It is then the conjunction of the accepted ones, in their order, each numbered behind the ones before; an
idle operator is refused alone. On auth data the constraint is skipped like each of its operators. -/
theorem operators_conjoin {c : Context} {f : String} {ops : Document}
    (hdeclared : (c.schema.fieldType? f).isSome) (hdot : isDotted f = false)
    (htag : (Json.object ops).typeTag? = none) (hend : Operator.EndsAlone (c.subject f) ops)
    (b : Bindings) :
    (isAuthDataKey f = true →
      (∀ o ∈ singles ops, predicate c [(f, .object o)] b = predicate c [(f, .object ops)] b) ∧
      ∀ p b', predicate c [(f, .object ops)] b = (.ok p, b') → p.sql = [] ∧ b' = b) ∧
    (isAuthDataKey f = false →
      (accepts c f b ops = true ↔ (∃ o ∈ singles ops, accepts c f b o = true) ∧
        ∀ o ∈ singles ops, accepts c f b o = true ∨ IsIdle c f o) ∧
      ∀ p b', predicate c [(f, .object ops)] b = (.ok p, b') →
        (∃ ps, predicates c (((singles ops).filter (accepts c f b)).map fun o => [(f, .object o)]) b =
            (.ok ps, b') ∧
          p.sql = joinFragments " AND " (ps.map (·.sql)) ∧ p.orders = ps.flatMap (·.orders)) ∧
        ∀ o ∈ singles ops, IsIdle c f o →
          predicate c [(f, .object o)] b = (.error (.ofCause (unsupported f (.object o))), b)) := by
  constructor
  · intro hauth
    exact ⟨fun o _ => predicate_of_isAuthDataKey hauth o ops b, fun p b' => predicate_eq_empty hauth⟩
  intro hauth
  cases hv : validateQuery [(f, .object ops)] with
  | error e =>
      have hrefused (o : Document) : predicate c [(f, .object o)] b = (.error e, b) :=
        predicate_of_validateQuery ((validateQuery_object o ops).trans hv) b
      simp [accepts, hrefused, Except.isOk, Except.toBool]
  | ok u =>
      have hf : IsConstrainable c f :=
        ⟨hdeclared, hdot, hauth, fun o => (validateQuery_object o ops).trans hv⟩
      have hconcat := hf.fieldClauses_eq_concat htag hend
      refine ⟨hf.accepts_iff_singles hconcat b, fun p b' h => ⟨hf.predicate_eq_join hconcat h, ?_⟩⟩
      intro o _ hidle
      exact hf.predicate_of_isIdle hidle b

def titleContext : Context :=
  ⟨⟨"Post", [("title", .ofType .string)], none, []⟩, false, ⟨0, 0⟩⟩

/-- A pattern and two bounds, one of them empty. -/
def titleOperators : Document :=
  [("$lt", .string "m"), ("$options", .string "i"), ("$gt", .string ""), ("$regex", .string "^a")]

theorem operators_conjoin_titles :
    ∃ p b' ps, predicate titleContext [("title", .object titleOperators)] ⟨3, []⟩ = (.ok p, b') ∧
      predicates titleContext
        [[("title", .object [("$options", .string "i"), ("$regex", .string "^a")])],
          [("title", .object [("$lt", .string "m")])]] ⟨3, []⟩ = (.ok ps, b') ∧
      p.sql = joinFragments " AND " (ps.map (·.sql)) ∧
      predicate titleContext [("title", .object [("$gt", .string "")])] ⟨3, []⟩ =
        (.error (.ofCause (unsupported "title" (.object [("$gt", .string "")]))), ⟨3, []⟩) := by
  have hend : Operator.EndsAlone (titleContext.subject "title") titleOperators := fun h => nomatch h
  obtain ⟨p, b', h⟩ : ∃ p b',
      predicate titleContext [("title", .object titleOperators)] ⟨3, []⟩ = (.ok p, b') := ⟨_, _, rfl⟩
  obtain ⟨⟨ps, hps, hsql, -⟩, hidle⟩ := ((operators_conjoin rfl rfl rfl hend ⟨3, []⟩).2 rfl).2 p b' h
  have hmem : [("$gt", .string "")] ∈ singles titleOperators := .tail _ (.head _)
  exact ⟨p, b', ps, h, hps, hsql, hidle _ hmem rfl⟩

/-- An empty bound is refused alone and passed over beside another one, and a constraint without operators
is refused though none of them is. -/
theorem operators_not_conjoined :
    (accepts titleContext "title" ⟨1, []⟩ [("$gt", .string ""), ("$lt", .string "m")] = true ∧
      accepts titleContext "title" ⟨1, []⟩ [("$gt", .string "")] = false) ∧
    singles [] = [] ∧ accepts titleContext "title" ⟨1, []⟩ [] = false :=
  ⟨⟨rfl, rfl⟩, rfl, rfl⟩

end Docstore.Query
