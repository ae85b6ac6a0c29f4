import Docstore.Proofs.Query.Keys
import Docstore.Query.Pipeline

/-!
# What is looked up in a schema

Statements that read look up the types of fields in a schema, and its class's name, and nothing else. Schemas that
agree on these are compiled against alike.
-/

namespace Docstore

/-- The same class, whose fields have the same types, in any order and with any options. -/
structure Schema.Agrees (s t : Schema) : Prop where
  className : s.className = t.className
  fieldType? : ∀ name, s.fieldType? name = t.fieldType? name

namespace Query

variable {s t : Schema}

/-! ## Predicates -/

section

variable (h : s.Agrees t) (ignoreCase : Bool) (now : Time.Instant)
include h

theorem isSkipped_congr (key : String) (value : Json) : isSkipped s key value = isSkipped t key value := by
  rw [isSkipped, isSkipped, h.fieldType?]

theorem fieldClauses_congr (key : String) (value : Json) :
    fieldClauses ⟨s, ignoreCase, now⟩ key value = fieldClauses ⟨t, ignoreCase, now⟩ key value := by
  simp only [fieldClauses, h.fieldType?]

end

mutual

theorem compile_congr (h : s.Agrees t) (ignoreCase : Bool) (now : Time.Instant) (query : List (String × Json)) :
    compile ⟨s, ignoreCase, now⟩ query = compile ⟨t, ignoreCase, now⟩ query := by
  match query with
  | [] => rfl
  | (key, value) :: rest =>
      rw [compile, compile, isSkipped_congr h, compileEntry_congr h ignoreCase now key value,
        compile_congr h ignoreCase now rest]

theorem compileEntry_congr (h : s.Agrees t) (ignoreCase : Bool) (now : Time.Instant) (key : String) (value : Json) :
    compileEntry ⟨s, ignoreCase, now⟩ key value = compileEntry ⟨t, ignoreCase, now⟩ key value := by
  match value with
  | .array members =>
      rw [compileEntry, compileEntry, compileMembers_congr h ignoreCase now key members, fieldClauses_congr h]
  | .null | .bool _ | .number _ | .string _ | .object _ =>
      simp only [compileEntry, fieldClauses_congr h]

theorem compileMembers_congr (h : s.Agrees t) (ignoreCase : Bool) (now : Time.Instant) (key : String)
    (members : List Json) :
    compileMembers ⟨s, ignoreCase, now⟩ key members = compileMembers ⟨t, ignoreCase, now⟩ key members := by
  match members with
  | [] => rfl
  | .object fields :: rest =>
      rw [compileMembers, compileMembers, compile_congr h ignoreCase now fields,
        compileMembers_congr h ignoreCase now key rest]
  | .null :: _ | .bool _ :: _ | .number _ :: _ | .string _ :: _ | .array _ :: _ => rfl

end

section

variable (h : s.Agrees t) (now : Time.Instant) (query : Document)
include h

theorem predicate_congr (ignoreCase : Bool) (b : Sql.Bindings) :
    predicate ⟨s, ignoreCase, now⟩ query b = predicate ⟨t, ignoreCase, now⟩ query b := by
  simp only [predicate, compileQuery, compile_congr h]

/-! ## Statements -/

theorem selectColumns_congr (search : Option TextSearch) (keys : List String) :
    selectColumns s search keys = selectColumns t search keys := by
  have hcolumns : keyColumns s search = keyColumns t search := by
    funext key
    have hselectable : isSelectable s key = isSelectable t key := by
      rw [isSelectable, isSelectable, h.fieldType?]
    rw [keyColumns, keyColumns, hselectable]
  rw [selectColumns, selectColumns, hcolumns]

theorem find_congr (options : FindOptions) : find s now query options = find t now query options := by
  simp only [find, predicate_congr h, selectColumns_congr h, h.className]

theorem aroundPredicate_congr (sql : Sql.Fragment → Sql.Fragment) :
    aroundPredicate s now query sql = aroundPredicate t now query sql := by
  rw [aroundPredicate, aroundPredicate, predicate_congr h]

theorem count_congr : count s now query = count t now query := by
  rw [count, count, aroundPredicate_congr h, h.className]

theorem distinct_congr (field : String) : distinct s now field query = distinct t now field query := by
  have hoperand : distinctOperand s field = distinctOperand t field := by
    rw [distinctOperand, distinctOperand, h.fieldType?]
  simp only [distinct, hoperand, aroundPredicate_congr h, h.className]

theorem delete_congr : delete s now query = delete t now query := by
  rw [delete, delete, aroundPredicate_congr h, h.className]

end

/-! ## Pipelines -/

namespace Pipeline

variable (h : s.Agrees t)
include h

theorem constraintsOf_congr (filter : Document) : constraintsOf s filter = constraintsOf t filter := by
  induction filter with
  | nil => rfl
  | cons entry rest ih =>
      obtain ⟨key, value⟩ := entry
      have hconstraint : constraint s key value = constraint t key value := by
        simp only [constraint, h.fieldType?]
      rw [constraintsOf, constraintsOf, hconstraint, ih]

theorem filterRows_congr (p : Pipeline) (filter : Option Json) : filterRows s p filter = filterRows t p filter := by
  unfold filterRows
  simp only [constraintsOf_congr h]

theorem compile_congr (stages : List Json) : compile s stages = compile t stages := by
  have hstage : stage s = stage t := by
    funext p v
    simp only [stage, filterRows_congr h]
  rw [compile, compile, hstage]

theorem statement_congr (p : Pipeline) : p.statement s = p.statement t := by
  rw [statement, statement, h.className]

end Pipeline

end Query

end Docstore
