import Docstore.Proofs.Query.Outlines
import Docstore.Proofs.Query.Rewording

/-!
# Data and SQL

The texts that a query compares with are bound and never written: rewording them changes values that are
bound and nothing else. Main statement: `reworded_data_is_bound`.
-/

namespace Docstore.Query

open Docstore.Sql (Bindings Template)

/-! ## Results in which data does not show -/

/-- A result that always fails, or looks the same and binds the data in the same places. -/
def Hides {α β : Type} (look : α → β) (bound : α → List Value)
    (r : Rewording → Except Failure α) : Prop :=
  (∀ s, ∃ e, r s = .error e) ∨
    ∃ (shape : β) (slots : List Slot), ∀ s, ∃ a, r s = .ok a ∧ look a = shape ∧
      bound a = slots.map (Slot.fill s)

/-- Clauses whose SQL does not depend on data. -/
abbrev Blind : (Rewording → Clauses) → Prop := Hides (List.map Condition.outline) Condition.values

/-- A condition that shows nothing of its data and binds it in the given places. -/
structure Veiled (slots : List Slot) (c : Rewording → Condition) : Prop where
  outline : ∀ s, (c s).outline = (c .same).outline
  values : ∀ s, (c s).tests.flatMap (·.template.values) = slots.map (Slot.fill s)

namespace Veiled

variable {slots : List Slot} {c : Rewording → Condition}

theorem test {t : Rewording → Test} (htemplate : ∀ s, (t s).template.blank = (t .same).template.blank)
    (htrace : ∀ s, (t s).trace = (t .same).trace)
    (hvalues : ∀ s, (t s).template.values = slots.map (Slot.fill s)) :
    Veiled slots fun s => .test (t s) where
  outline s := by
    simp only [Condition.outline, Condition.template, Condition.tests_test, List.map_singleton,
      htemplate s, htrace s]
  values s := by
    rw [Condition.tests_test, List.flatMap_singleton, hvalues s]

theorem negate (h : Veiled slots c) : Veiled slots fun s => .negate (c s) where
  outline s := Condition.outline_negate (h.outline s)
  values s := h.values s

theorem notGroup (h : Veiled slots c) : Veiled slots fun s => Operator.notGroup (c s) where
  outline s := by
    apply Condition.outline_negate
    apply Condition.outline_anyOf
    simp only [List.map_singleton, h.outline s]
  values s := by
    rw [← h.values s]
    simp [Operator.notGroup]

theorem bare {t : Test} (h : t.template.values = []) : Veiled [] fun _ => .test t where
  outline _ := rfl
  values _ := by simp [h]

variable {slots' : List Slot} {d : Rewording → Condition}

theorem either (h : Veiled slots c) (h' : Veiled slots' d) :
    Veiled (slots ++ slots') fun s => .anyOf [[c s], [d s]] where
  outline s := by
    apply Condition.outline_anyOf
    simp only [List.map_cons, List.map_nil, h.outline s, h'.outline s]
  values s := by
    rw [List.map_append, ← h.values s, ← h'.values s]
    simp

theorem both (h : Veiled slots c) (h' : Veiled slots' d) :
    Veiled (slots ++ slots') fun s => .allOf [[c s], [d s]] where
  outline s := by
    apply Condition.outline_allOf
    simp only [List.map_cons, List.map_nil, h.outline s, h'.outline s]
  values s := by
    rw [List.map_append, ← h.values s, ← h'.values s]
    simp

theorem isNull (x : Operand) : Veiled [] fun _ => .test (.isNull x) :=
  bare (by simp [Test.template, Operand.values_template])

theorem isNotNull (x : Operand) : Veiled [] fun _ => .test (.isNotNull x) :=
  bare (by simp [Test.template, Operand.values_template])

variable {x : Operand}

theorem oneValue {t : Value → Test} (ht : t = .equals x ∨ t = .equalsText x ∨ t = .equalsFolded x ∨
    t = .differs x ∨ ∃ c, t = .compares x c) (slot : Slot) :
    Veiled [slot] fun s => .test (t (slot.fill s)) := by
  rcases ht with rfl | rfl | rfl | rfl | ⟨c, rfl⟩ <;> apply test <;> intro s <;>
    simp [Test.trace, Test.template, Test.near?, Test.search?, Operand.values_template]

theorem manyValues {t : List Value → Test} (ht : t = .isIn x ∨ t = .isNotIn x ∨ t = .overlaps x)
    (slots : List Slot) : Veiled slots fun s => .test (t (slots.map (Slot.fill s))) := by
  rcases ht with rfl | rfl | rfl <;> apply test <;> intro s <;>
    simp [Test.trace, Test.template, Test.near?, Test.search?, Operand.values_template]

theorem document {t : List Json → Test} (ht : t = .containsJson x ∨ t = .hasAny x ∨ t = .hasAll x ∨
    t = .isContainedBy x) {slot : Slot} {items : Rewording → List Json}
    (hfill : ∀ s, slot.fill s = .json (.array (items s))) :
    Veiled [slot] fun s => .test (t (items s)) := by
  rcases ht with rfl | rfl | rfl | rfl <;> apply test <;> intro s <;>
    simp [Test.trace, Test.template, Test.near?, Test.search?, Operand.values_template, Sql.boundList,
      hfill]

end Veiled

section

variable {α β γ δ : Type} {look : α → β} {bound : α → List Value}

theorem Hides.fixed (r : Except Failure α) : Hides look bound fun _ => r := by
  cases r with
  | error e => exact .inl fun _ => ⟨e, rfl⟩
  | ok a =>
      refine .inr ⟨look a, (bound a).map Slot.fixed, fun s => ⟨a, rfl, rfl, ?_⟩⟩
      rw [List.map_map]
      exact (List.map_id _).symm

theorem Hides.error {e : Rewording → Failure} :
    Hides look bound fun s => (.error (e s) : Except Failure α) :=
  .inl fun s => ⟨e s, rfl⟩

theorem Hides.after {look' : γ → δ} {bound' : γ → List Value} {f : α → γ → γ} {g : β → δ → δ}
    (hlook : ∀ a c, look' (f a c) = g (look a) (look' c))
    (hbound : ∀ a c, bound' (f a c) = bound a ++ bound' c)
    {r : Rewording → Except Failure α} {r' k : Rewording → Except Failure γ}
    (hok : ∀ s a, r s = .ok a → k s = Clauses.after (bound a) (r' s) (f a))
    (herror : ∀ s e, r s = .error e → k s = .error e)
    (h : Hides look bound r) (h' : Hides look' bound' r') : Hides look' bound' k := by
  rcases h with h | ⟨shape, slots, h⟩
  · refine .inl fun s => ?_
    obtain ⟨e, he⟩ := h s
    exact ⟨e, herror s e he⟩
  rcases h' with h' | ⟨shape', slots', h'⟩
  · refine .inl fun s => ?_
    obtain ⟨a, ha, -⟩ := h s
    obtain ⟨e, he⟩ := h' s
    exact ⟨{ e with bound := bound a ++ e.bound }, by rw [hok s a ha, he]; rfl⟩
  · refine .inr ⟨g shape shape', slots ++ slots', fun s => ?_⟩
    obtain ⟨a, ha, rfl, hv⟩ := h s
    obtain ⟨c, hc, rfl, hv'⟩ := h' s
    refine ⟨f a c, by rw [hok s a ha, hc]; rfl, hlook a c, ?_⟩
    rw [hbound, hv, hv', List.map_append]

end

namespace Blind

theorem append {r r' : Rewording → Clauses} (h : Blind r) (h' : Blind r') :
    Blind fun s => Clauses.append (r s) (r' s) := by
  refine Hides.after (fun _ _ => List.map_append) Condition.values_append ?_ ?_ h h'
  · intro s cs hr
    simp only [Clauses.append, hr]
  · intro s e hr
    simp only [Clauses.append, hr]

theorem one {slots : List Slot} {c : Rewording → Condition} (h : Veiled slots c) :
    Blind fun s => Clauses.one (c s) := by
  refine .inr ⟨[(c .same).outline], slots, fun s => ⟨[c s], rfl, ?_, ?_⟩⟩
  · rw [List.map_singleton, h.outline s]
  · rw [Condition.values_eq_flatMap, ← h.values s]
    simp

theorem text {r : Option Json → Clauses} (h : ∀ x, Blind fun s => r (some (.string (s.apply x))))
    (v : Option Json) : Blind fun s => r (v.map s.text) := by
  cases v with
  | none => exact .fixed (r none)
  | some v =>
      cases v with
      | string x => exact h x
      | null => exact .fixed (r (some .null))
      | bool b => exact .fixed (r (some (.bool b)))
      | number n => exact .fixed (r (some (.number n)))
      | array items => exact .fixed (r (some (.array items)))
      | object fields => exact .fixed (r (some (.object fields)))

theorem list {r : Option Json → Clauses}
    (h : ∀ items : List Json, Blind fun s => r (some (.array (items.map s.member))))
    (v : Option Json) : Blind fun s => r (v.map s.list) := by
  cases v with
  | none => exact .fixed (r none)
  | some v =>
      cases v with
      | array items => exact h items
      | null => exact .fixed (r (some .null))
      | bool b => exact .fixed (r (some (.bool b)))
      | number n => exact .fixed (r (some (.number n)))
      | string x => exact .fixed (r (some (.string x)))
      | object fields => exact .fixed (r (some (.object fields)))

end Blind

/-! ## Operators -/

namespace Operator

variable (f : Subject)

theorem comparedWith_string (x : String) : f.comparedWith (.string x) = f.operand := by
  unfold Subject.comparedWith
  cases f.isDotted <;> rfl

theorem equal_blind (v : Option Json) : Blind fun s => equal f (v.map s.text) := by
  refine .text (fun x => ?_) v
  have heq (y : String) : equal f (some (.string y)) = .test (.equals f.operand (.string y)) := by
    rw [← comparedWith_string f y]
    rfl
  simp only [heq]
  exact .one (.oneValue (.inl rfl) (.text x))

theorem notEqual_blind (v : Option Json) : Blind fun s => notEqual f (v.map s.text) := by
  refine .text (fun x => ?_) v
  cases hf : f.isArray with
  | true =>
      have heq (y : String) : notEqual f (some (.string y)) =
          .one (.negate (.test (.hasAny f.list [.string y]))) := by
        rw [notEqual, if_pos hf]
      simp only [heq]
      have h : Veiled [.texts [.string x]] fun s => .test (.hasAny f.list [.string (s.apply x)]) :=
        .document (.inr (.inl rfl)) fun _ => rfl
      exact .one h.negate
  | false =>
      have heq (y : String) :
          notEqual f (some (.string y)) = .one (differs f.operand (.string y)) := by
        rw [notEqual, hf, ← comparedWith_string f y]
        rfl
      simp only [heq]
      exact .one (.either (.oneValue (.inr (.inr (.inr (.inl rfl)))) (.text x)) (.isNull _))

theorem compare_blind (now : Time.Instant) (c : Comparison) (v : Option Json) :
    Blind fun s => compare now f c (v.map s.text) := by
  refine .text (fun x => ?_) v
  -- An empty bound is passed over; it stays empty, and no other one becomes empty.
  by_cases hx : x = ""
  · have heq (s : Rewording) : compare now f c (some (.string (s.apply x))) = .none := by
      rw [(s.apply_eq_empty x).mpr hx]
      rfl
    simp only [heq]
    exact .fixed _
  · have heq (s : Rewording) : compare now f c (some (.string (s.apply x))) =
        .test (.compares f.operand c (.string (s.apply x))) := by
      have hs : (Json.string (s.apply x)).truthy = true := by
        simpa [Json.truthy, s.apply_eq_empty] using hx
      rw [compare, hs, comparedWith_string]
      rfl
    simp only [heq]
    exact .one (.oneValue (.inr (.inr (.inr (.inr ⟨c, rfl⟩)))) (.text x))

/-! ### Lists -/

theorem containedBy_blind (v : Option Json) : Blind fun s => containedBy f (v.map s.list) := by
  refine .list (fun items => ?_) v
  have h : Veiled [.members items] fun s => .test (.isContainedBy f.list (items.map s.member)) :=
    .document (.inr (.inr (.inr rfl))) fun _ => rfl
  exact .one h

theorem dottedMembership_blind (negated : Bool) (v : Option Json) :
    Blind fun s => dottedMembership f negated (v.map s.list) := by
  refine .list (fun items => ?_) v
  cases hf : f.isDotted with
  | false =>
      simp only [dottedMembership, hf]
      exact .fixed _
  | true =>
      have hcontains : Veiled [.members items]
          fun s => .test (.containsJson (.json f.key) (items.map s.member)) :=
        .document (.inl rfl) fun _ => rfl
      simp only [dottedMembership, hf, if_true, inDocument]
      cases negated with
      | false => exact .one hcontains
      | true => exact .one (.either (.isNull _) hcontains.notGroup)

theorem veiled_valueIn (x : Operand) (native negated : Bool) (slots : List Slot) :
    Veiled slots fun s => valueIn x native negated (slots.map (Slot.fill s)) := by
  cases native with
  | true =>
      have h : Veiled slots fun s => .test (.overlaps x (slots.map (Slot.fill s))) :=
        .manyValues (.inr (.inr rfl)) slots
      cases negated with
      | true => exact h.notGroup
      | false => exact h
  | false =>
      cases negated with
      | true => exact .manyValues (.inr (.inl rfl)) slots
      | false => exact .manyValues (.inl rfl) slots

theorem columnIn_veiled (negated : Bool) (list : List Json) :
    ∃ slots, Veiled slots fun s => columnIn f negated (list.map s.member) := by
  generalize hm : flatten list = members
  let slots := (members.filter (!·.isNull)).map Slot.ofUntyped
  have hvalues (s : Rewording) :
      ((members.map s.text).filter (!·.isNull)).map Encoding.untyped = slots.map (Slot.fill s) := by
    simp [slots, List.filter_map, Function.comp_def, s.untyped_text]
  have hany (s : Rewording) : (members.map s.text).any (·.isNull) = members.any (·.isNull) := by
    simp [Function.comp_def]
  have hempty (s : Rewording) : (members.map s.text).isEmpty = members.isEmpty := List.isEmpty_map
  have hvs (s : Rewording) : (slots.map (Slot.fill s)).isEmpty = slots.isEmpty := List.isEmpty_map
  simp only [columnIn, Rewording.flatten_map_member, hm, hvalues, hany, hempty, hvs]
  split
  · exact ⟨[], .bare (by cases negated <;> rfl)⟩
  split
  · have h : Veiled [.texts members] fun s => .test (.hasAny (.column f.key) (members.map s.text)) :=
      .document (.inr (.inl rfl)) fun _ => rfl
    cases negated with
    | true => exact ⟨_, .either (.isNull _) h.negate⟩
    | false => exact ⟨_, h⟩
  split
  · cases negated with
    | true => exact ⟨_, .isNotNull _⟩
    | false => exact ⟨_, .isNull _⟩
  · have h := veiled_valueIn (.column f.key) f.isStringArray negated slots
    split
    · exact ⟨_, .either (.isNull _) h⟩
    · exact ⟨_, .both (.isNotNull _) h⟩
    · exact ⟨_, .either (.isNull _) h⟩
    · exact ⟨_, h⟩

theorem membership_blind (op : String) (negated : Bool) (v : Option Json) :
    Blind fun s => membership f op negated (v.map s.list) := by
  refine .list (fun items => ?_) v
  obtain ⟨slots, h⟩ := columnIn_veiled f negated items
  cases hf : f.isDotted with
  | true =>
      simp only [membership, hf]
      exact .fixed _
  | false =>
      simp only [membership, hf]
      exact .one h

theorem all_blind (v : Option Json) : Blind fun s => all f (v.map s.list) := by
  refine .list (fun items => ?_) v
  have hstarts (s : Rewording) (v : Json) :
      Pattern.memberStartsWith (s.member v) = Pattern.memberStartsWith v := by
    rw [Pattern.memberStartsWith, Rewording.get?_member, Pattern.memberStartsWith]
  cases hf : f.isArray with
  | true =>
      have hlike (s : Rewording) : (items.map s.member).filterMap likePattern = items.filterMap likePattern := by
        rw [List.filterMap_map]
        congr 1
        funext v
        rw [Function.comp_apply, likePattern, Rewording.get?_member, likePattern]
      have hall (s : Rewording) : Pattern.allOrNone (items.map s.member) = Pattern.allOrNone items := by
        match items with
        | [] => rfl
        | [v] => exact hstarts s v
        | v :: w :: rest => simp [Pattern.allOrNone, hstarts, Function.comp_def]
      have hany (s : Rewording) :
          (items.map s.member).any Pattern.memberStartsWith = items.any Pattern.memberStartsWith := by
        simp [Function.comp_def, hstarts]
      have hhasAll : Veiled [.members items] fun s => .test (.hasAll f.list (items.map s.member)) :=
        .document (.inr (.inr (.inl rfl))) fun _ => rfl
      simp only [all, hf, if_true, hlike, hall, hany]
      split
      · split
        · exact .fixed _
        · exact .error
      · exact .one hhasAll
  | false =>
      match items with
      | [] => exact .fixed (all f (some (.array [])))
      | [v] =>
          have heq (w : Json) : all f (some (.array [w])) =
              .test (.equals f.operand (Encoding.untyped ((w.get? "objectId").getD w))) := by
            rw [all, hf]
            rfl
          cases v with
          | string x =>
              simp only [List.map_cons, List.map_nil, heq]
              exact .one (.oneValue (.inl rfl) (.text x))
          | array inner =>
              simp only [List.map_cons, List.map_nil, heq]
              exact .one (.oneValue (.inl rfl) (.texts inner))
          | null => exact .fixed (all f (some (.array [.null])))
          | bool b => exact .fixed (all f (some (.array [.bool b])))
          | number n => exact .fixed (all f (some (.array [.number n])))
          | object fields => exact .fixed (all f (some (.array [.object fields])))
      | v :: w :: rest =>
          simp only [all, hf, List.map_cons]
          exact .fixed _

/-! ### All operators of a constraint -/

theorem endsConstraint_text (s : Rewording) (v : Option Json) :
    endsConstraint f (v.map s.text) = endsConstraint f v := by
  cases v with
  | none => rfl
  | some v => cases v <;> rfl

theorem constraint_blind (now : Time.Instant) (ops : Document) :
    Blind fun s => constraint now f (s.operands ops) := by
  simp +decide only [constraint, Rewording.get?_comparing, Rewording.get?_listing,
    Rewording.get?_other, endsConstraint_text]
  cases endsConstraint f (Fields.get? "$ne" ops) with
  | true =>
      simp only [if_true]
      refine (dottedMembership_blind f false _).append ?_
      refine (dottedMembership_blind f true _).append ?_
      refine (notEqual_blind f _).append ?_
      exact .fixed _
  | false =>
      simp only [Bool.false_eq_true, if_false, List.cons_append, List.nil_append]
      refine (dottedMembership_blind f false _).append ?_
      refine (dottedMembership_blind f true _).append ?_
      refine (notEqual_blind f _).append ?_
      refine (equal_blind f _).append ?_
      refine (membership_blind f _ _ _).append ?_
      refine (membership_blind f _ _ _).append ?_
      refine (all_blind f _).append ?_
      refine Blind.append (.fixed (present f _)) ?_
      refine (containedBy_blind f _).append ?_
      refine Blind.append (.fixed (text f _)) ?_
      refine Blind.append (.fixed (nearSphere f _ _)) ?_
      refine Blind.append (.fixed (withinBox f _)) ?_
      refine Blind.append (.fixed (centerSphere f _)) ?_
      refine Blind.append (.fixed (withinPolygon f _)) ?_
      refine Blind.append (.fixed (intersects f _)) ?_
      refine Blind.append (.fixed (regex f _ _)) ?_
      refine (compare_blind f now _ _).append ?_
      refine (compare_blind f now _ _).append ?_
      refine (compare_blind f now _ _).append ?_
      refine (compare_blind f now _ _).append ?_
      exact .fixed _

end Operator

/-! ## Entries -/

theorem literalClauses_blind (f : Subject) (x : String) :
    Blind fun s => literalClauses f (.string (s.apply x)) := by
  cases hf : f.isDotted with
  | true =>
      have heq (y : String) :
          literalClauses f (.string y) = .test (.equalsText f.operand (.string y)) := by
        simp only [literalClauses, hf, if_true]
        rfl
      simp only [heq]
      exact .one (.oneValue (.inr (.inl rfl)) (.text x))
  | false =>
      have heq (y : String) :
          literalClauses f (.string y) = .test (.equals f.operand (.string y)) := by
        simp only [literalClauses, hf]
        rfl
      simp only [heq]
      exact .one (.oneValue (.inl rfl) (.text x))

theorem fieldClauses_blind (c : Context) (key : String) (v : Json) :
    Blind fun s => fieldClauses c key (s.value v) := by
  generalize hf : Subject.mk key (c.schema.fieldType? key) = f
  cases v with
  | string x =>
      cases hfold : c.ignoreCase && (key == "username" || key == "email") with
      | true =>
          have heq (y : String) :
              fieldClauses c key (.string y) = .test (.equalsFolded f.operand (.string y)) := by
            simp only [fieldClauses, hfold, hf, Json.isString, Bool.and_self, if_true]
            rfl
          simp only [Rewording.value, Rewording.text, heq]
          exact .one (.oneValue (.inr (.inr (.inl rfl))) (.text x))
      | false =>
          have heq (y : String) : fieldClauses c key (.string y) = literalClauses f (.string y) := by
            simp [fieldClauses, hfold, hf]
          simp only [Rewording.value, Rewording.text, heq]
          exact literalClauses_blind f x
  | object ops =>
      cases htag : (Json.object ops).typeTag? with
      | some tag =>
          simp only [Rewording.value, htag, Option.isSome_some, if_true]
          exact .fixed _
      | none =>
          have heq (s : Rewording) : fieldClauses c key (.object (s.operands ops)) =
              Operator.constraint c.now f (s.operands ops) := by
            have htag' := (s.typeTag?_operands ops).trans htag
            simp [fieldClauses, hf, htag', Json.isString]
          simp only [Rewording.value, htag, Option.isSome_none, Bool.false_eq_true, if_false, heq]
          exact Operator.constraint_blind f c.now ops
  | null => exact .fixed (fieldClauses c key .null)
  | bool b => exact .fixed (fieldClauses c key (.bool b))
  | number n => exact .fixed (fieldClauses c key (.number n))
  | array items => exact .fixed (fieldClauses c key (.array items))

theorem required_blind (key : String) (v : Rewording → Json) {r : Rewording → Clauses} (h : Blind r) :
    Blind fun s => required key (v s) (r s) := by
  rcases h with h | ⟨shape, slots, h⟩
  · refine .inl fun s => ?_
    obtain ⟨e, he⟩ := h s
    exact ⟨e, by simp only [he]; rfl⟩
  · cases shape with
    | nil =>
        refine .inl fun s => ?_
        obtain ⟨cs, hcs, hshape, -⟩ := h s
        rw [List.map_eq_nil_iff] at hshape
        subst hshape
        exact ⟨_, by simp only [hcs]; rfl⟩
    | cons o os =>
        refine .inr ⟨o :: os, slots, fun s => ?_⟩
        obtain ⟨cs, hcs, hshape, hv⟩ := h s
        cases cs with
        | nil => cases hshape
        | cons d ds => exact ⟨d :: ds, by simp only [hcs]; rfl, hshape, hv⟩

theorem combined_blind {r : Rewording → Except Failure (List (List Condition))}
    (h : Hides (List.map (List.map Condition.outline)) (List.flatMap Condition.values) r)
    (op : String) {k : Rewording → Clauses}
    (hok : ∀ s css, r s = .ok css → k s = .ok [combine op css])
    (herror : ∀ s e, r s = .error e → k s = .error e) : Blind k := by
  rcases h with h | ⟨shape, slots, h⟩
  · refine .inl fun s => ?_
    obtain ⟨e, he⟩ := h s
    exact ⟨e, herror s e he⟩
  · obtain ⟨dss, -, hdss, -⟩ := h .same
    refine .inr ⟨[(combine op dss).outline], slots, fun s => ?_⟩
    obtain ⟨css, hcss, hshape, hv⟩ := h s
    refine ⟨[combine op css], hok s css hcss, ?_, ?_⟩
    · rw [List.map_singleton, Condition.outline_combine (hshape.trans hdss.symm)]
    · rw [Condition.values_combine, hv]

mutual

theorem compile_blind (c : Context) (q : List (String × Json)) :
    Blind fun s => compile c (s.query q) := by
  match q with
  | [] => exact .fixed (compile c [])
  | (key, v) :: rest =>
      simp only [Rewording.query, compile, Rewording.isSkipped_entry]
      split
      · exact compile_blind c rest
      · exact (compileEntry_blind c key v).append (compile_blind c rest)

theorem compileEntry_blind (c : Context) (key : String) (v : Json) :
    Blind fun s => compileEntry c key (s.entry key v) := by
  cases hl : isLogical key with
  | false =>
      simp only [Rewording.entry_of_not_logical _ hl, compileEntry_of_not_logical c hl]
      exact required_blind key _ (fieldClauses_blind c key v)
  | true =>
      match v with
      | .array items =>
          refine combined_blind (compileMembers_hides c key items) key ?_ ?_
          · intro s css h
            simp only [Rewording.entry, compileEntry, hl, if_true, h]
            rfl
          · intro s e h
            simp only [Rewording.entry, compileEntry, hl, if_true, h]
      | .null | .bool _ | .number _ | .string _ | .object _ =>
          simp only [Rewording.entry, hl, if_true]
          exact .fixed _

theorem compileMembers_hides (c : Context) (key : String) (items : List Json) :
    Hides (List.map (List.map Condition.outline)) (List.flatMap Condition.values)
      fun s => compileMembers c key (s.members items) := by
  match items with
  | [] => exact .fixed (.ok [])
  | .object fields :: rest =>
      refine Hides.after (g := List.cons) (f := List.cons) ?_ ?_ ?_ ?_
        (compile_blind c fields) (compileMembers_hides c key rest)
      · intro cs css
        rfl
      · intro cs css
        exact List.flatMap_cons
      · intro s cs h
        simp only [Rewording.members, compileMembers, h]
      · intro s e h
        simp only [Rewording.members, compileMembers, h]
  | .null :: rest | .bool _ :: rest | .number _ :: rest | .string _ :: rest | .array _ :: rest =>
      exact .error

end

/-! ## Data is bound -/

theorem predicate_blind (c : Context) (q : Document) (b : Bindings) :
    (∀ s : Rewording, ∃ f b', predicate c (s.query q) b = (.error f, b')) ∨
      ∃ (p : Predicate) (slots : List Slot), ∀ s : Rewording,
        predicate c (s.query q) b = (.ok p, b.append (slots.map (Slot.fill s))) := by
  cases hv : validateQuery q with
  | error f =>
      refine .inl fun s => ⟨f, b, predicate_of_validateQuery ?_ b⟩
      rw [s.validateQuery_query, hv]
  | ok =>
      have hv' (s : Rewording) : validateQuery (s.query q) = .ok () := by
        rw [s.validateQuery_query, hv]
      rcases compile_blind c q with h | ⟨shape, slots, h⟩
      · refine .inl fun s => ?_
        obtain ⟨e, he⟩ := h s
        exact ⟨e.fault, b.append e.bound, by simp only [predicate, compileQuery, hv' s, he]⟩
      · obtain ⟨ds, -, hds, -⟩ := h .same
        refine .inr ⟨Predicate.number b.next ds, slots, fun s => ?_⟩
        obtain ⟨cs, hcs, hshape, hvalues⟩ := h s
        rw [predicate_of_ok (hv' s) hcs,
          Condition.number_eq_of_outline (hshape.trans hds.symm), hvalues]

/-- Rewording the data of a query changes the data among the values that are bound, in their places, and
neither whether the query is accepted nor its predicate. -/
theorem reworded_data_is_bound (c : Context) (q : Document) (b : Bindings) :
    ∃ slots : List Slot, ∀ s : Rewording,
      match predicate c q b with
      | (.ok p, b') =>
        b' = b.append (slots.map (Slot.fill .same)) ∧
          predicate c (s.query q) b = (.ok p, b.append (slots.map (Slot.fill s)))
      | (.error _, _) => ∃ f b', predicate c (s.query q) b = (.error f, b') := by
  rcases predicate_blind c q b with h | ⟨p, slots, h⟩
  · obtain ⟨f, b', hsame⟩ := h .same
    rw [Rewording.query_same] at hsame
    refine ⟨[], fun s => ?_⟩
    rw [hsame]
    exact h s
  · have hsame := h .same
    rw [Rewording.query_same] at hsame
    refine ⟨slots, fun s => ?_⟩
    rw [hsame]
    exact ⟨rfl, h s⟩

end Docstore.Query
