import Docstore.Proofs.Json.Members
import Docstore.Proofs.Query.Flattening
import Docstore.Proofs.Query.Presence
import Docstore.Proofs.Sql.Definitions

/-!
# The columns that predicates name

A key with points is a place inside a document, and the column of that document is named by the key's first part.
Some operators look at columns only: they take such a key for the name of a column that no table has. Main statement:
`names_are_fields_iff`.
-/

namespace Docstore

/-! ## Names in SQL -/

namespace Sql

/-- What a text has between double quotes, as it is read. -/
def readNames (s : String) : Option (List String) := (read s).map (·.filterMap Lexeme.name?)

theorem Fragment.WellFormed.readNames_render {names literals : String → Prop} {f : Fragment}
    (h : Fragment.WellFormed names literals f) : readNames (render f) = some (Fragment.names f) := by
  rw [readNames, h.read_render, Option.map_some, Fragment.names_lexemes]

namespace Template

def names (t : Template) : List String :=
  t.filterMap fun
    | .name s => some s
    | _ => none

theorem names_number (next : Nat) (t : Template) : Fragment.names (t.number next) = t.names := by
  induction t generalizing next with
  | nil => rfl
  | cons part t ih =>
      cases part with
      | name s => exact congrArg (s :: ·) (ih next)
      | text _ | literal _ | again => exact ih next
      | bind _ => exact ih (next + 1)

@[simp] theorem names_append (s t : Template) : names (s ++ t) = names s ++ names t := List.filterMap_append

@[simp] theorem names_words (s : String) : names (words s) = [] := rfl

@[simp] theorem names_named (s : String) : names (named s) = [s] := rfl

@[simp] theorem names_value (v : Value) : names (value v) = [] := rfl

@[simp] theorem names_boundText (s : String) : names (boundText s) = [] := rfl

@[simp] theorem names_boundList (items : List Json) : names (boundList items) = [] := rfl

@[simp] theorem names_boundPoint (p : Point) : names (boundPoint p) = [] := rfl

@[simp] theorem names_boundDouble (x : Double) : names (boundDouble x) = [] := rfl

@[simp] theorem names_listed (vs : List Value) : names (listed vs) = [] := by
  match vs with
  | [] => rfl
  | [v] => rfl
  | v :: w :: vs => exact names_listed (w :: vs)

end Template

end Sql

namespace Query

open Docstore.Sql (Bindings Fragment Template readNames render)

/-! ## Names of tests -/

namespace Operand

/-- The column that an operand names as a whole, not as the beginning of a place. -/
def column? : Operand → Option String
  | column name | list name _ => some name
  | text _ | json _ | cast _ _ => none

/-- The name that an operand shows. -/
def name : Operand → String
  | column name | list name _ => name
  | text key | json key | cast key _ => root key

theorem names_path (last key : String) : Template.names (path last key) = [root key] := by
  have hsteps : Template.names (steps last (components key).tail) = [] :=
    filterMap_steps (fun _ => rfl) (fun _ => rfl) last _
  exact congrArg (root key :: ·) hsteps

@[simp] theorem names_template (x : Operand) : Template.names x.template = [x.name] := by
  cases x with
  | list name native => cases native <;> simp [template, Operand.name]
  | _ => simp [template, Operand.name, names_path]

theorem name_of_column? {x : Operand} {s : String} (h : x.column? = some s) : x.name = s := by
  cases x <;> cases h <;> rfl

theorem column?_or_root {keys : String → Prop} {x : Operand} (h : x.IsOver keys) :
    x.column? = some x.name ∨ ∃ key, keys key ∧ x.name = root key := by
  cases x with
  | column name | list name _ => exact .inl rfl
  | text key | json key => exact .inr ⟨key, h, rfl⟩
  | cast key _ => exact .inr ⟨key, h.1, rfl⟩

theorem keys_of_column? {keys : String → Prop} {x : Operand} (h : x.IsOver keys) {s : String}
    (hs : x.column? = some s) : keys s := by
  cases x <;> cases hs <;> exact h

end Operand

namespace Test

/-- The column that a test names as a whole. -/
def column? : Test → Option String
  | isNull x | isNotNull x | equals x _ | equalsText x _ | equalsFolded x _ | differs x _ | compares x _ _
  | matchesPattern x _ _ | isIn x _ | isNotIn x _ | overlaps x _ | containsJson x _ | hasAny x _ | hasAll x _
  | hasAllLike x _ | isContainedBy x _ | isPoint x _ | isPolygon x _ => x.column?
  | isInside field _ _ | covers field _ => some field
  | isWithin near _ _ | hasDistance near => some near.field
  | constant _ | inEmpty _ | matchesText _ => none

/-- A test for which a place inside a document is a column. -/
def NamesPlace (t : Test) : Prop := ∃ name, t.column? = some name ∧ isDotted name = true

variable {keys : String → Prop} {t : Test} {s : String}

theorem column?_or_root (h : t.IsOver keys) (hs : s ∈ Template.names t.template) :
    t.column? = some s ∨ ∃ key, keys key ∧ s = root key := by
  cases t with
  | constant b => cases b <;> simp [template] at hs
  | inEmpty b => cases b <;> simp [template] at hs
  | matchesText search =>
      refine .inr ⟨search.field, h, ?_⟩
      simpa [template, TextSearch.document, TextSearch.query, TextSearch.configuration, Operand.name] using hs
  | isInside field _ _ | covers field _ => exact .inl (by simpa [template, column?, eq_comm] using hs)
  | isWithin near _ _ | hasDistance near =>
      exact .inl (by simpa [template, Near.distance, column?, eq_comm] using hs)
  | _ =>
      obtain rfl : s = _ := by simpa [template] using hs
      exact Operand.column?_or_root h

theorem mem_names_of_column? (h : t.column? = some s) : s ∈ Template.names t.template := by
  cases t with
  | constant _ | inEmpty _ | matchesText _ => cases h
  | isInside _ _ _ | covers _ _ =>
      cases h
      simp [template]
  | isWithin _ _ _ | hasDistance _ =>
      cases h
      simp [template, Near.distance]
  | _ => simp [template, ← Operand.name_of_column? h]

theorem keys_of_column? (h : t.IsOver keys) (hs : t.column? = some s) : keys s := by
  cases t with
  | constant _ | inEmpty _ | matchesText _ => cases hs
  | isInside _ _ _ =>
      cases hs
      exact h.1
  | covers _ _ | isWithin _ _ _ | hasDistance _ =>
      cases hs
      exact h
  | _ => exact Operand.keys_of_column? h hs

theorem column?_of_near {near : Near} (h : t.near? = some near) : t.column? = some near.field := by
  cases t with
  | isWithin n m ordered =>
      cases ordered <;> cases h
      rfl
  | hasDistance n =>
      cases h
      rfl
  | _ => cases h

end Test

/-! ## Clauses that take a place for a column -/

namespace Clauses

/-- If there are clauses, then `P` says whether a place is a column for one of their tests. -/
def NamesPlace (r : Clauses) (P : Prop) : Prop :=
  ∀ cs, r = .ok cs → ((∃ t ∈ Condition.testsOfAll cs, t.NamesPlace) ↔ P)

/-- Clauses that name no column as a whole. -/
abbrev NoColumn : Clauses → Prop := Only fun t => t.column? = Option.none

variable {P Q : Prop}

theorem NoColumn.namesPlace {r : Clauses} (h : NoColumn r) (hP : ¬ P) : NamesPlace r P := by
  intro cs hcs
  refine iff_of_false ?_ hP
  rintro ⟨t, ht, name, hname, -⟩
  rw [h cs hcs t ht] at hname
  cases hname

theorem NamesPlace.test {t : Test} (h : t.NamesPlace) (hP : P) : NamesPlace (test t) P := by
  intro cs hcs
  cases hcs
  exact iff_of_true ⟨t, by simp, h⟩ hP

theorem NamesPlace.error (e : Failure) : NamesPlace (.error e) P := fun _ h => nomatch h

theorem NamesPlace.given {α : Type} {r : Result α} {k : α → Clauses} (h : ∀ a, NamesPlace (k a) P) :
    NamesPlace (given r k) P := by
  cases r with
  | ok a => exact h a
  | error f => exact NamesPlace.error _

theorem NamesPlace.congr {r : Clauses} (h : NamesPlace r P) (hPQ : P ↔ Q) : NamesPlace r Q := fun cs hcs =>
  (h cs hcs).trans hPQ

theorem NamesPlace.append {r s : Clauses} (hr : NamesPlace r P) (hs : NamesPlace s Q) :
    NamesPlace (append r s) (P ∨ Q) := by
  intro cs h
  obtain ⟨as, bs, ha, hb, rfl⟩ := append_ok h
  simp only [Condition.testsOfAll_append, List.mem_append, or_and_right, exists_or, hr as ha, hs bs hb]

theorem NamesPlace.concat {rs : List Clauses} {Ps : List Prop} (h : List.Forall₂ NamesPlace rs Ps) :
    NamesPlace (concat rs) (∃ P ∈ Ps, P) := by
  induction h with
  | nil => exact NoColumn.namesPlace Only.none (by simp)
  | cons hr _ ih =>
      rw [List.exists_mem_cons_iff]
      exact hr.append ih

end Clauses

/-- A place inside a document that the schema does not declare. -/
structure Subject.IsPlace (s : Subject) : Prop where
  dotted : s.isDotted = true
  undeclared : s.type = none

namespace Operator

open Clauses (Only NamesPlace NoColumn)

section

variable {s : Subject}

theorem column?_comparedWith (v : Json) : (s.comparedWith v).column? = none := by
  unfold Subject.comparedWith
  split <;> rfl

theorem isArray_of_isPlace (hs : s.IsPlace) : s.isArray = false := by
  simp [Subject.isArray, hs.undeclared]

theorem dottedMembership_noColumn (negated : Bool) (v : Option Json) : NoColumn (dottedMembership s negated v) := by
  unfold dottedMembership
  split
  · split
    · apply Only.one
      cases negated <;> simp [inDocument, notGroup, Test.column?, Operand.column?]
    · exact Only.none
  · exact Only.none

theorem notEqual_noColumn (hs : s.IsPlace) (v : Option Json) : NoColumn (notEqual s v) := by
  have hnone (v : Json) : (s.comparedWith v).column? = none := column?_comparedWith v
  unfold notEqual
  split
  · exact Only.none
  rw [isArray_of_isPlace hs, if_neg Bool.false_ne_true]
  split
  · exact Only.test rfl
  split
  · exact Only.given fun p _ => Only.one (by simp [notGroup, Test.column?, Subject.operand, Operand.column?])
  split
  · exact Only.fail _
  · exact Only.one (by simp [differs, Test.column?, hnone])

theorem equal_noColumn (v : Option Json) : NoColumn (equal s v) := by
  unfold equal
  split
  · exact Only.none
  split
  · exact Only.test rfl
  split
  · exact Only.fail _
  · exact Only.test (column?_comparedWith _)

theorem membership_noColumn (hs : s.IsPlace) (op : String) (negated : Bool) (v : Option Json) :
    NoColumn (membership s op negated v) := by
  unfold membership
  split
  · exact Only.none
  · rw [hs.dotted, if_pos rfl]
    exact Only.none
  · exact Only.fail _

theorem all_noColumn (hs : s.IsPlace) (v : Option Json) : NoColumn (all s v) := by
  unfold all
  split
  · rw [isArray_of_isPlace hs, if_neg Bool.false_ne_true]
    split
    · exact Only.test rfl
    · exact Only.none
  · exact Only.none

theorem present_noColumn (v : Option Json) : NoColumn (present s v) := by
  unfold present
  split
  · exact Only.none
  split
  · exact Only.fail _
  split
  · exact Only.test rfl
  · exact Only.test rfl

theorem text_noColumn (v : Option Json) : NoColumn (text s v) := by
  unfold text
  split
  · exact Only.none
  · exact Only.given fun _ _ => Only.test rfl

theorem regex_noColumn (options v : Option Json) : NoColumn (regex s options v) := by
  unfold regex
  split
  · exact Only.none
  · split
    · exact Only.none
    · exact Only.test rfl
  · exact Only.fail _

theorem compare_noColumn (now : Time.Instant) (c : Comparison) (v : Option Json) : NoColumn (compare now s c v) := by
  unfold compare
  split
  · exact Only.none
  split
  · exact Only.none
  split
  · split
    · exact Only.fail _
    · exact Only.given fun _ _ => Only.test rfl
  · exact Only.test (column?_comparedWith _)

/-! ### Operators that know columns only -/

variable (hs : s.IsPlace)
include hs

/-- A test of the key's column. -/
theorem namesPlace_of_column? {t : Test} (h : t.column? = some s.key) : t.NamesPlace := ⟨s.key, h, hs.dotted⟩

theorem containedBy_namesPlace (v : Option Json) : NamesPlace (containedBy s v) (v.isSome = true) := by
  unfold containedBy
  split
  · exact NoColumn.namesPlace Only.none (by simp)
  · exact .test (namesPlace_of_column? hs rfl) rfl
  · exact .error _

theorem nearSphere_namesPlace (maxDistance v : Option Json) :
    NamesPlace (nearSphere s maxDistance v) (v.isSome = true) := by
  unfold nearSphere
  split
  · exact NoColumn.namesPlace Only.none (by simp)
  refine .given fun p => ?_
  split
  · exact .test (namesPlace_of_column? hs rfl) rfl
  split
  · exact .test (namesPlace_of_column? hs rfl) rfl
  · exact .error _

theorem withinBox_namesPlace (v : Option Json) : NamesPlace (withinBox s v) (v.isSome = true) := by
  unfold withinBox
  split
  · exact NoColumn.namesPlace Only.none (by simp)
  · exact .given fun _ => .given fun _ => .test (namesPlace_of_column? hs rfl) rfl
  · exact .error _

theorem centerSphere_namesPlace (v : Option Json) : NamesPlace (centerSphere s v) (v.isSome = true) := by
  unfold centerSphere
  split
  · exact NoColumn.namesPlace Only.none (by simp)
  · exact .given fun _ => .given fun _ => .test (namesPlace_of_column? hs rfl) rfl
  · exact .error _

theorem withinPolygon_namesPlace (v : Option Json) : NamesPlace (withinPolygon s v) (v.isSome = true) := by
  unfold withinPolygon
  split
  · exact NoColumn.namesPlace Only.none (by simp)
  · exact .given fun _ => .test (namesPlace_of_column? hs rfl) rfl

theorem intersects_namesPlace (v : Option Json) : NamesPlace (intersects s v) (v.isSome = true) := by
  unfold intersects
  split
  · exact NoColumn.namesPlace Only.none (by simp)
  split
  · exact .given fun _ => .test (namesPlace_of_column? hs rfl) rfl
  · exact .error _

end

/-- The operators that know columns only, each by the names that lead to its operand. -/
def columnOperators : List (List String) :=
  [["$containedBy"], ["$nearSphere"], ["$within", "$box"], ["$geoWithin", "$centerSphere"], ["$geoWithin", "$polygon"],
    ["$geoIntersects", "$point"]]

/-- What names lead to in a value. -/
def operand? (v : Json) (names : List String) : Option Json := names.foldlM (fun v name => v.get? name) v

/-- Constraints with an operator that knows columns only, where nothing ends them before. -/
structure LooksAtColumn (v : Json) : Prop where
  untyped : v.typeTag? = none
  goesOn : v.get? "$ne" ≠ some .null
  operator : ∃ names ∈ columnOperators, (operand? v names).isSome = true

theorem constraint_namesPlace (now : Time.Instant) {s : Subject} (hs : s.IsPlace) (ops : Document)
    (htype : (Json.object ops).typeTag? = none) : NamesPlace (constraint now s ops) (LooksAtColumn (.object ops)) := by
  have hnone {r : Clauses} (h : NoColumn r) : NamesPlace r False := h.namesPlace id
  have hin (negated : Bool) (v : Option Json) := hnone (dottedMembership_noColumn (s := s) negated v)
  have hcompare (c : Comparison) (v : Option Json) := hnone (compare_noColumn (s := s) now c v)
  have hends : endsConstraint s (Fields.get? "$ne" ops) = true ↔ (Json.object ops).get? "$ne" = some .null := by
    rw [Json.get?]
    unfold endsConstraint
    split
    · simp [isArray_of_isPlace hs, *]
    · rename_i h
      simpa using h
  unfold constraint
  dsimp only
  split
  · rename_i h
    refine (NamesPlace.concat (.cons (hin _ _) <| .cons (hin _ _) <|
      .cons (hnone (notEqual_noColumn hs _)) .nil)).congr ?_
    exact iff_of_false (by simp) fun hlooks => hlooks.goesOn (hends.mp h)
  · rename_i h
    refine (NamesPlace.concat (.cons (hin _ _) <| .cons (hin _ _) <| .cons (hnone (notEqual_noColumn hs _)) <|
      .cons (hnone (equal_noColumn _)) <| .cons (hnone (membership_noColumn hs _ _ _)) <|
      .cons (hnone (membership_noColumn hs _ _ _)) <| .cons (hnone (all_noColumn hs _)) <|
      .cons (hnone (present_noColumn _)) <| .cons (containedBy_namesPlace hs _) <| .cons (hnone (text_noColumn _)) <|
      .cons (nearSphere_namesPlace hs _ _) <| .cons (withinBox_namesPlace hs _) <|
      .cons (centerSphere_namesPlace hs _) <| .cons (withinPolygon_namesPlace hs _) <|
      .cons (intersects_namesPlace hs _) <| .cons (hnone (regex_noColumn _ _)) <| .cons (hcompare _ _) <|
      .cons (hcompare _ _) <| .cons (hcompare _ _) <| .cons (hcompare _ _) .nil)).congr ?_
    have hgoesOn : (Json.object ops).get? "$ne" ≠ some .null := fun hnull => h (hends.mpr hnull)
    have hoperator : (∃ names ∈ columnOperators, (operand? (.object ops) names).isSome = true) ↔
        LooksAtColumn (.object ops) := ⟨fun h => ⟨htype, hgoesOn, h⟩, fun h => h.operator⟩
    have hone (name : String) : operand? (.object ops) [name] = Fields.get? name ops := by
      simp [operand?, Json.get?]
    have htwo (name inner : String) : operand? (.object ops) [name, inner] =
        (Fields.get? name ops).bind (·.get? inner) := by
      simp [operand?, Json.get?]
    rw [← hoperator]
    simp only [columnOperators, List.exists_mem_cons_iff, hone, htwo, List.not_mem_nil, false_and, exists_false,
      false_or, or_false]

end Operator

open Clauses (Only NamesPlace NoColumn)

section

variable {s : Subject}

theorem literalClauses_noColumn (v : Json) : NoColumn (literalClauses s v) := by
  unfold literalClauses
  split
  · split
    · exact Only.test rfl
    split
    · exact Only.test rfl
    · exact Only.test rfl
  · exact Only.none
  · split
    · exact Only.test rfl
    · exact Only.test rfl

theorem typedClauses_noColumn (hs : s.IsPlace) (tag : String) (v : Json) : NoColumn (typedClauses s tag v) := by
  unfold typedClauses
  rw [Operator.isArray_of_isPlace hs, if_neg Bool.false_ne_true]
  split
  · exact Only.test rfl
  split
  · exact Only.given fun _ _ => Only.test rfl
  split
  · exact Only.given fun _ _ => Only.test rfl
  split
  · exact Only.given fun _ _ => Only.test rfl
  · exact Only.none

end

theorem not_looksAtColumn_of_get? {v : Json} (h : ∀ name, v.get? name = none) : ¬ Operator.LooksAtColumn v := by
  rintro ⟨-, -, names, hnames, hoperand⟩
  have hfirst : ∀ names ∈ Operator.columnOperators, Operator.operand? v names = none := by
    simp [Operator.columnOperators, Operator.operand?, h]
  rw [hfirst names hnames] at hoperand
  cases hoperand

/-- Of the constraints on a place inside a document those look at a column that have an operator that knows nothing
else. -/
theorem fieldClauses_namesPlace {c : Context} {key : String} (hplace : (c.subject key).IsPlace) (v : Json) :
    NamesPlace (fieldClauses c key v) (Operator.LooksAtColumn v) := by
  have hnone (v : Json) (h : ∀ fields, v ≠ .object fields) : ¬ Operator.LooksAtColumn v := by
    refine not_looksAtColumn_of_get? fun name => ?_
    cases v with
    | object fields => exact absurd rfl (h fields)
    | _ => rfl
  unfold fieldClauses
  dsimp only
  split
  · rename_i h
    refine NoColumn.namesPlace (Only.test rfl) (hnone v ?_)
    rintro fields rfl
    simp [Json.isString] at h
  split
  · exact NoColumn.namesPlace (Only.test rfl) (hnone _ (by simp))
  · split
    · rename_i htag
      refine NoColumn.namesPlace (typedClauses_noColumn hplace _ _) fun h => ?_
      rw [h.untyped] at htag
      cases htag
    · rename_i htag
      exact Operator.constraint_namesPlace _ hplace _ htag
  · rename_i hobject
    exact NoColumn.namesPlace (literalClauses_noColumn _) (hnone _ hobject)

/-! ## Names of predicates -/

theorem not_mem_of_mem_splitOn {sep : Char} {cs piece : List Char} (h : piece ∈ Text.splitOn sep cs) : sep ∉ piece := by
  induction cs generalizing piece with
  | nil =>
      rw [Text.splitOn, List.mem_singleton] at h
      subst h
      exact List.not_mem_nil
  | cons c cs ih =>
      rw [Text.splitOn] at h
      split at h
      · rcases List.mem_cons.mp h with rfl | h
        · exact List.not_mem_nil
        · exact ih h
      · rename_i hsep
        split at h
        · rename_i hs
          exact absurd hs (Text.splitOn_ne_nil _ _)
        · rename_i first rest hs
          rw [hs] at ih
          rcases List.mem_cons.mp h with rfl | h
          · rw [List.mem_cons, not_or]
            exact ⟨Ne.symm hsep, ih (.head _)⟩
          · exact ih (.tail _ h)

theorem isDotted_root (key : String) : isDotted (root key) = false := by
  rw [isDotted, root]
  cases hparts : components key with
  | nil => rfl
  | cons part parts =>
      have hpart : part ∈ components key := hparts ▸ .head _
      obtain ⟨piece, hpiece, rfl⟩ := List.mem_map.mp hpart
      simpa using not_mem_of_mem_splitOn hpiece

/-- Constraints on places inside documents that take the places for columns. -/
structure IsMisplaced (schema : Schema) (key : String) (v : Json) : Prop where
  dotted : isDotted key = true
  notExempt : ¬ IsExempt schema key v
  looksAtColumn : Operator.LooksAtColumn v

section

variable {c : Context} (hschema : ∀ e ∈ c.schema.fields, isDotted e.1 = false)
include hschema

theorem fieldType?_of_dotted {key : String} (h : isDotted key = true) : c.schema.fieldType? key = none := by
  rw [Schema.fieldType?, Option.map_eq_none_iff, Fields.get?_eq_none_iff]
  intro hmem
  obtain ⟨e, he, rfl⟩ := List.mem_map.mp hmem
  rw [hschema e he] at h
  cases h

theorem entry_namesPlace {e : String × Json} (he : isSkipped c.schema e.1 e.2 = false) :
    NamesPlace (fieldClauses c e.1 e.2) (IsMisplaced c.schema e.1 e.2) := by
  have hexempt : ¬ IsExempt c.schema e.1 e.2 := by
    rw [← isSkipped_iff, he]
    exact Bool.false_ne_true
  cases hdot : isDotted e.1 with
  | true =>
      have hplace : (c.subject e.1).IsPlace := ⟨hdot, fieldType?_of_dotted hschema hdot⟩
      exact (fieldClauses_namesPlace hplace e.2).congr ⟨fun h => ⟨hdot, hexempt, h⟩, fun h => h.looksAtColumn⟩
  | false =>
      intro cs hcs
      refine iff_of_false ?_ fun h => ?_
      · rintro ⟨t, ht, name, hname, hdotted⟩
        have hover : t.IsOver (· = e.1) := fieldClauses_only c e.1 e.2 cs hcs t ht
        obtain rfl := Test.keys_of_column? hover hname
        rw [hdot] at hdotted
        cases hdotted
      · have hdotted := h.dotted
        rw [hdot] at hdotted
        cases hdotted

/-- The tests of a query name a place exactly if one of its entries does. -/
theorem exists_namesPlace_iff {q : Document} {cs : List Condition} (h : compile c q = .ok cs) :
    (∃ t ∈ Condition.testsOfAll cs, t.NamesPlace) ↔ ∃ e ∈ fieldEntries q, IsMisplaced c.schema e.1 e.2 := by
  obtain ⟨ds, hds, hsame⟩ := compile_flat c q h
  have hconstant {t : Test} (ht : t.NamesPlace) (b : Bool) : t ≠ .constant b := by
    rintro rfl
    obtain ⟨_, hname, -⟩ := ht
    cases hname
  have htests : (∃ t ∈ Condition.testsOfAll cs, t.NamesPlace) ↔ ∃ t ∈ Condition.testsOfAll ds, t.NamesPlace :=
    exists_congr fun t => and_congr_left fun ht => hsame t (hconstant ht)
  have hflat : NamesPlace (flatClauses c (fieldEntries q)) (∃ P ∈ (constraints c.schema (fieldEntries q)).map
      fun e => IsMisplaced c.schema e.1 e.2, P) := by
    refine NamesPlace.concat (List.forall₂_map_left_iff.mpr (List.forall₂_map_right_iff.mpr ?_))
    refine List.forall₂_same.mpr fun e he => entry_namesPlace hschema ?_
    simpa using (List.mem_filter.mp he).2
  rw [htests, hflat ds hds]
  constructor
  · rintro ⟨P, hP, hholds⟩
    obtain ⟨e, he, rfl⟩ := List.mem_map.mp hP
    exact ⟨e, (List.mem_filter.mp he).1, hholds⟩
  · rintro ⟨e, he, hmisplaced⟩
    have hkept : e ∈ constraints c.schema (fieldEntries q) := by
      refine List.mem_filter.mpr ⟨he, ?_⟩
      rw [Bool.not_eq_true', ← Bool.not_eq_true, isSkipped_iff]
      exact hmisplaced.notExempt
    exact ⟨_, List.mem_map.mpr ⟨e, hkept, rfl⟩, hmisplaced⟩

end

namespace Condition

variable {cs : List Condition} {keys : String → Prop}

theorem names_conjunction (cs : List Condition) :
    Template.names (conjunction cs) = (testsOfAll cs).flatMap fun t => Template.names t.template :=
  filterMap_conjunction (fun _ => rfl) cs

/-- The names in a predicate's text are those of its tests. -/
theorem mem_names_number {first : Nat} {s : String} :
    s ∈ Fragment.names (Predicate.number first cs).sql ↔ ∃ t ∈ testsOfAll cs, s ∈ Template.names t.template := by
  rw [Predicate.number, Template.names_number, names_conjunction, List.mem_flatMap]

theorem names_orderItem (next : Nat) (near : Near) : Fragment.names (orderItem next near) = [near.field] := by
  rw [orderItem, Fragment.names_append, Template.names_number]
  simp [Near.distance]

theorem mem_names_orders {first : Nat} {f : Fragment} (hf : f ∈ orders first cs) {s : String}
    (hs : s ∈ Fragment.names f) : ∃ t ∈ testsOfAll cs, t.column? = some s := by
  obtain ⟨⟨n, near⟩, hn, rfl⟩ := List.mem_map.mp hf
  obtain ⟨t, ht, hnear, -, -⟩ := mem_nears hn
  rw [names_orderItem, List.mem_singleton] at hs
  subst hs
  exact ⟨t, ht, Test.column?_of_near hnear⟩

end Condition

/-- In a schema of undotted names, all names in an accepted query's predicate and in its orders are the fields that
its keys start with, exactly if no constraint on a place inside a document looks at a column. -/
theorem names_are_fields_iff {c : Context} (hschema : ∀ e ∈ c.schema.fields, isDotted e.1 = false) {q : Document}
    {b b' : Bindings} {p : Predicate} (h : predicate c q b = (.ok p, b')) :
    (∀ f ∈ p.sql :: p.orders, ∃ names, readNames (render f) = some names ∧
        ∀ s ∈ names, isDotted s = false ∧ ∃ key ∈ fieldKeys q, s = root key) ↔
      ∀ e ∈ fieldEntries q, ¬ IsMisplaced c.schema e.1 e.2 := by
  obtain ⟨cs, -, hcs, rfl, rfl⟩ := predicate_ok h
  have hover := compile_only c q cs hcs
  have hnumber := Predicate.number_isOver hover b.next
  have hplaces := exists_namesPlace_iff hschema hcs
  have hread : ∀ f ∈ (Predicate.number b.next cs).sql :: (Predicate.number b.next cs).orders,
      readNames (render f) = some (Fragment.names f) := by
    intro f hf
    rcases List.mem_cons.mp hf with rfl | hf
    · exact hnumber.wellFormed.readNames_render
    · exact (hnumber.orders f hf).1.readNames_render
  constructor
  · intro hfields e he hmisplaced
    obtain ⟨t, ht, s, hs, hdotted⟩ := hplaces.mpr ⟨e, he, hmisplaced⟩
    obtain ⟨names, hnames, hundotted⟩ := hfields _ (.head _)
    rw [hread _ (.head _)] at hnames
    cases hnames
    have hmem : s ∈ Fragment.names (Predicate.number b.next cs).sql :=
      Condition.mem_names_number.mpr ⟨t, ht, Test.mem_names_of_column? hs⟩
    rw [(hundotted s hmem).1] at hdotted
    cases hdotted
  · intro hnone f hf
    refine ⟨_, hread f hf, fun s hs => ?_⟩
    -- Where no test names a place, a column that a test names as a whole is an undotted key.
    have hcolumn : ∀ t ∈ Condition.testsOfAll cs, t.column? = some s →
        isDotted s = false ∧ ∃ key ∈ fieldKeys q, s = root key := by
      intro t ht hs
      have hundotted : isDotted s = false := by
        rw [← Bool.not_eq_true]
        intro hdotted
        obtain ⟨e, he, hmisplaced⟩ := hplaces.mp ⟨t, ht, s, hs, hdotted⟩
        exact hnone e he hmisplaced
      exact ⟨hundotted, s, Test.keys_of_column? (hover t ht) hs, (root_of_undotted hundotted).symm⟩
    rcases List.mem_cons.mp hf with rfl | hf
    · obtain ⟨t, ht, hs⟩ := Condition.mem_names_number.mp hs
      rcases Test.column?_or_root (hover t ht) hs with hs | ⟨key, hkey, rfl⟩
      · exact hcolumn t ht hs
      · exact ⟨isDotted_root key, key, hkey, rfl⟩
    · obtain ⟨t, ht, hs⟩ := Condition.mem_names_orders hf hs
      exact hcolumn t ht hs

/-- Places inside a document under operators that know them, and a column of points. -/
def placesQuery : Document :=
  [("$or", .array [
      .object [("meta.tags", .object [("$in", .array [.string "a"])])],
      .object [("meta.rating", .object [("$gt", .int 3)])]]),
    ("location", .object [("$nearSphere", .object [("latitude", .int 1), ("longitude", .int 2)])])]

set_option maxRecDepth 10000 in
theorem names_are_fields_iff_places :
    ∃ p b', predicate variedContext placesQuery ⟨1, []⟩ = (.ok p, b') ∧
      ∀ f ∈ p.sql :: p.orders, ∃ names, readNames (render f) = some names ∧
        ∀ s ∈ names, isDotted s = false ∧ ∃ key ∈ fieldKeys placesQuery, s = root key := by
  obtain ⟨p, b', hp⟩ : ∃ p b', predicate variedContext placesQuery ⟨1, []⟩ = (.ok p, b') := ⟨_, _, rfl⟩
  refine ⟨p, b', hp, (names_are_fields_iff (by decide) hp).mpr ?_⟩
  have hentries : fieldEntries placesQuery = [
      ("meta.tags", .object [("$in", .array [.string "a"])]), ("meta.rating", .object [("$gt", .int 3)]),
      ("location", .object [("$nearSphere", .object [("latitude", .int 1), ("longitude", .int 2)])])] := rfl
  simp only [hentries, List.forall_mem_cons]
  refine ⟨fun h => ?_, fun h => ?_, fun h => ?_, by simp⟩
  · exact absurd h.looksAtColumn.operator (by decide)
  · exact absurd h.looksAtColumn.operator (by decide)
  · exact absurd h.dotted (by decide)

def containedTags : Document := [("meta.tags", .object [("$containedBy", .array [.string "a"])])]

def placeNearby : Document :=
  [("meta.place", .object [("$nearSphere", .object [("latitude", .int 1), ("longitude", .int 2)])])]

set_option maxRecDepth 10000 in
/-- Lists at a place inside a document, and the order by the distance of a point at one, name columns with points. -/
theorem places_named_as_columns :
    (∀ e ∈ variedContext.schema.fields, isDotted e.1 = false) ∧
    (∃ p b', predicate variedContext containedTags ⟨1, []⟩ = (.ok p, b') ∧
      readNames (render p.sql) = some ["meta.tags"]) ∧
    (∃ p b', predicate variedContext placeNearby ⟨1, []⟩ = (.ok p, b') ∧
      p.orders.map (fun f => readNames (render f)) = [some ["meta.place"]]) ∧
    isDotted "meta.tags" = true ∧ isDotted "meta.place" = true ∧
    ∀ key ∈ fieldKeys (containedTags ++ placeNearby), root key = "meta" :=
  ⟨by decide, ⟨_, _, rfl, by decide⟩, ⟨_, _, rfl, by decide⟩, by decide, by decide, by decide⟩

end Query

end Docstore
