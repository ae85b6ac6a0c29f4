import Docstore.Proofs.Json.Order
import Docstore.Proofs.Sql.Evaluation
import Docstore.Proofs.Write.Statements

/-!
# Writing into stored objects

What the assignment that writes into a stored object makes of the object, read off its text.
-/

namespace Docstore

namespace Write

open Docstore.Sql (Bindings Datum Expression Fragment Lexeme Template Word)
open Docstore.Sql.Expression (Chain IsOperand Link)

/-! ## The text of a merge -/

def removal (n : Nat) : Link where
  operator := .minus
  words := [.placeholder n, .operator "::".toList, .word "text".toList]
  operand := .cast (.parameter n) .text
  isOperand := fun _ _ => rfl

/-- The number under a key in a stored object, zero if there is none. -/
def storedNumber (column : String) (n : Nat) : Expression :=
  .call .coalesce (.cast (.binary .fieldText (.column column) (.cast (.parameter n) .text)) .double) (.integer 0)

/-- The object of a key and a sum, which are bound one after the other. -/
def increment (column : String) (n : Nat) : Link where
  operator := .concat
  words := [.word "jsonb_build_object".toList, .mark '(', .placeholder n, .operator "::".toList, .word "text".toList,
    .mark ',', .word "COALESCE".toList, .mark '(', .mark '(', .name column, .operator "->>".toList, .placeholder n,
    .operator "::".toList, .word "text".toList, .mark ')', .operator "::".toList, .word "double".toList,
    .word "precision".toList, .mark ',', .word "0".toList, .mark ')', .operator "+".toList, .placeholder (n + 1),
    .mark ')']
  operand :=
    .call .buildObject (.cast (.parameter n) .text) (.binary .plus (storedNumber column n) (.parameter (n + 1)))
  isOperand := fun _ _ => rfl

def overlay (n : Nat) : Link where
  operator := .concat
  words := [.placeholder n, .operator "::".toList, .word "jsonb".toList]
  operand := .cast (.parameter n) .jsonb
  isOperand := fun _ _ => rfl

/-- The object in a column, the empty one where it is null. -/
def storedObject (column : String) : Expression :=
  .call .coalesce (.column column) (.cast (.literal "\x7b\x7d") .jsonb)

def storedWords (column : String) : List Word :=
  [.word "COALESCE".toList, .mark '(', .name column, .mark ',', .literal "\x7b\x7d", .operator "::".toList,
    .word "jsonb".toList, .mark ')']

theorem storedWords_isOperand (column : String) : IsOperand (storedWords column) (storedObject column) :=
  fun _ _ => rfl

/-- What is done to a stored object, with placeholders from `n` on. -/
def mergeLinks (column : String) (n removed increments : Nat) : List Link :=
  (List.range' n removed).map removal ++ (List.range' (n + removed) increments 2).map (increment column) ++
    [overlay (n + removed + 2 * increments)]

def mergeExpression (column : String) (n removed increments : Nat) : Expression :=
  (mergeLinks column n removed increments).foldl Link.apply (storedObject column)

theorem mergeLinks_chain (column : String) (n removed increments : Nat) :
    Chain (mergeLinks column n removed increments) := by
  have hconcat (op : Sql.BinaryOperator) : Sql.BinaryOperator.concat.closeness ≤ op.closeness := by
    cases op <;> decide
  refine List.pairwise_append.mpr ⟨List.pairwise_append.mpr ⟨?_, ?_, ?_⟩, List.pairwise_singleton _ _, ?_⟩
  · exact List.pairwise_map.mpr (List.pairwise_of_forall fun _ _ => Nat.le_refl _)
  · exact List.pairwise_map.mpr (List.pairwise_of_forall fun _ _ => Nat.le_refl _)
  · intro k _ k' hk'
    obtain ⟨i, -, rfl⟩ := List.mem_map.mp hk'
    exact hconcat k.operator
  · intro k _ k' hk'
    rw [List.mem_singleton.mp hk']
    exact hconcat k.operator

theorem removals_adds (keys : List String) (n : Nat) :
    Fragment.Adds (Template.number n (keys.flatMap Assignment.removeKey))
      (((List.range' n keys.length).map removal).flatMap Link.spelled) := by
  induction keys generalizing n with
  | nil => exact .nil
  | cons key keys ih =>
      have hkey : Fragment.Adds (Template.number n (Assignment.removeKey key)) (removal n).spelled :=
        .of_blank rfl rfl
      rw [List.flatMap_cons, Template.number_append]
      exact hkey.append (ih (n + 1))

theorem increments_adds (column : String) (increments : List (String × Double)) (n : Nat) :
    Fragment.Adds
      (Template.number n (increments.flatMap fun e => Assignment.incrementKey (Sql.named column) e.1 e.2))
      (((List.range' n increments.length 2).map (increment column)).flatMap Link.spelled) := by
  induction increments generalizing n with
  | nil => exact .nil
  | cons e increments ih =>
      have he : Fragment.Adds (Template.number n (Assignment.incrementKey (Sql.named column) e.1 e.2))
          (increment column n).spelled := by
        rw [Assignment.number_incrementKey]
        exact .of_blank rfl rfl
      rw [List.flatMap_cons, Template.number_append]
      exact he.append (ih (n + 2))

theorem values_removals (keys : List String) :
    Template.values (keys.flatMap Assignment.removeKey) = keys.map .string := by
  induction keys with
  | nil => rfl
  | cons key keys ih =>
      rw [List.flatMap_cons, Template.values_append, ih]
      rfl

theorem values_increments (column : String) (increments : List (String × Double)) :
    Template.values (increments.flatMap fun e => Assignment.incrementKey (Sql.named column) e.1 e.2) =
      increments.flatMap fun e => [.string e.1, .number e.2] := by
  induction increments with
  | nil => rfl
  | cons e increments ih =>
      rw [List.flatMap_cons, Template.values_append, ih]
      rfl

theorem mergeLinks_adds (column : String) (removed : List String) (increments : List (String × Double))
    (fields : Document) (n : Nat) :
    Fragment.Adds
      (Template.number n (removed.flatMap Assignment.removeKey ++
        (increments.flatMap (fun e => Assignment.incrementKey (Sql.named column) e.1 e.2) ++
          (Sql.words " || " ++ Sql.value (.json (.object fields)) ++ Sql.words "::jsonb)"))))
      ((mergeLinks column n removed.length increments.length).flatMap Link.spelled ++ [.mark ')']) := by
  have hoverlay (m : Nat) : Fragment.Adds
      (Template.number m (Sql.words " || " ++ Sql.value (.json (.object fields)) ++ Sql.words "::jsonb)"))
      ((overlay m).spelled ++ [.mark ')']) := .of_blank rfl rfl
  have hremoved : (Template.values (removed.flatMap Assignment.removeKey)).length = removed.length := by
    rw [values_removals, List.length_map]
  have hincrements : (Template.values (increments.flatMap fun e =>
      Assignment.incrementKey (Sql.named column) e.1 e.2)).length = 2 * increments.length := by
    rw [values_increments, List.length_flatMap]
    simp [Nat.mul_comm]
  rw [Template.number_append, Template.number_append, hremoved, hincrements]
  have h := (removals_adds removed n).append ((increments_adds column increments (n + removed.length)).append
    (hoverlay (n + removed.length + 2 * increments.length)))
  simpa [mergeLinks, List.flatMap_append] using h

/-- A merge up to the stored object. -/
def mergeStart (column : String) : Template :=
  Sql.named column ++ Sql.words " = " ++ (Sql.words "(" ++ Assignment.orElse (Sql.named column) Assignment.emptyObject)

theorem words_mergeStart (column : String) (n : Nat) :
    Lexeme.words (Fragment.lexemes (Template.number n (mergeStart column))) =
      .name column :: .operator ['='] :: .mark '(' :: storedWords column := rfl

theorem template_merge (column : String) (removed : List String) (increments : List (String × Double))
    (fields : Document) :
    Assignment.template ⟨column, .merge true removed increments fields⟩ =
      mergeStart column ++ (removed.flatMap Assignment.removeKey ++
        (increments.flatMap (fun e => Assignment.incrementKey (Sql.named column) e.1 e.2) ++
          (Sql.words " || " ++ Sql.value (.json (.object fields)) ++ Sql.words "::jsonb)"))) := by
  simp [mergeStart, Assignment.template, Assignment.expression]

theorem readAssignment?_merge (column : String) (removed : List String) (increments : List (String × Double))
    (fields : Document) (n : Nat) :
    Sql.readAssignment?
        (Sql.render (Template.number n (Assignment.template ⟨column, .merge true removed increments fields⟩))) =
      some (column, mergeExpression column n removed.length increments.length) := by
  let a : Assignment := ⟨column, .merge true removed increments fields⟩
  have hcast : a.action.HasCast := trivial
  have hread := ((Assignment.template_exact hcast).readable n).read_render
  have hwords : Lexeme.words (Fragment.lexemes (Template.number n a.template)) =
      .name column :: .operator ['='] :: .mark '(' :: storedWords column ++
        ((mergeLinks column n removed.length increments.length).flatMap Link.spelled ++ [.mark ')']) := by
    rw [template_merge, Template.number_append, Fragment.lexemes_append, ← words_mergeStart column n]
    exact mergeLinks_adds column removed increments fields n _
  have hexpression := Sql.Expression.read?_of_isOperand
    ((mergeLinks_chain column n removed.length increments.length).isOperand (storedWords_isOperand column))
  rw [List.append_assoc] at hexpression
  rw [Sql.readAssignment?, hread, Option.map_some, hwords]
  exact congrArg (Option.map (column, ·)) hexpression

/-! ## The value of a merge -/

section

variable {row : String → Datum} {b : Bindings} {column : String} {stored d : Document} {e : Expression} {n : Nat}

theorem eval_storedObject (h : (row column).fields? = some stored) :
    (storedObject column).eval row b = some (.json (.object stored)) := by
  have hcolumn : (Expression.column column).eval row b = some (row column) := Expression.eval_column column
  cases hrow : row column with
  | null =>
      rw [hrow] at h hcolumn
      cases h
      rw [storedObject, Expression.eval_coalesce_of_null hcolumn]
      rfl
  | json v =>
      rw [hrow] at h hcolumn
      cases v <;> cases h
      exact Expression.eval_coalesce_of_ne_null hcolumn Datum.noConfusion
  | number x | text s | shown v =>
      rw [hrow] at h
      cases h

theorem eval_keyText {key : String} (hkey : b.value? n = some (.string key)) :
    (Expression.cast (.parameter n) .text).eval row b = some (.text key) := by
  rw [Expression.eval_cast, Expression.eval_parameter, hkey]
  rfl

theorem eval_removal {key : String} (he : e.eval row b = some (.json (.object d)))
    (hkey : b.value? n = some (.string key)) :
    ((removal n).apply e).eval row b = some (.json (.object (d.filter (·.1 ≠ key)))) := by
  have hoperand : (removal n).operand.eval row b = some (.text key) := eval_keyText hkey
  exact Expression.eval_binary _ he hoperand

/-- The sum of a stored number, zero if there is none, and an amount. -/
def sumAt? (stored : Document) (key : String) (amount : Double) : Option Double :=
  match Fields.get? key stored with
  | none => Double.sum? 0 amount
  | some v => v.double?.bind (Double.sum? · amount)

theorem eval_fieldText {key : String} (hstored : (row column).fields? = some stored)
    (hkey : b.value? n = some (.string key)) :
    (Expression.binary .fieldText (.column column) (.cast (.parameter n) .text)).eval row b =
      some (.ofField (Fields.get? key stored)) := by
  rw [Expression.eval_binary _ (Expression.eval_column column) (eval_keyText hkey)]
  cases hrow : row column with
  | null =>
      rw [hrow] at hstored
      cases hstored
      rfl
  | json v =>
      rw [hrow] at hstored
      cases v <;> cases hstored
      rfl
  | number x | text s | shown v =>
      rw [hrow] at hstored
      cases hstored

theorem eval_storedNumber {key : String} {amount sum : Double} (hstored : (row column).fields? = some stored)
    (hkey : b.value? n = some (.string key)) (hsum : sumAt? stored key amount = some sum) :
    ∃ x, (storedNumber column n).eval row b = some (.number x) ∧ Double.sum? x amount = some sum := by
  have hcast : (Expression.cast (.binary .fieldText (.column column) (.cast (.parameter n) .text)) .double).eval row b =
      Datum.cast .double (.ofField (Fields.get? key stored)) := by
    rw [Expression.eval_cast, eval_fieldText hstored hkey, Option.bind_some]
  unfold sumAt? at hsum
  cases hfield : Fields.get? key stored with
  | none =>
      rw [hfield] at hsum hcast
      exact ⟨0, Expression.eval_coalesce_of_null hcast, hsum⟩
  | some v =>
      rw [hfield] at hsum hcast
      obtain ⟨x, hx, hadd⟩ := Option.bind_eq_some_iff.mp hsum
      cases v with
      | number m =>
          have hnumber : Datum.cast .double (.ofField (some (.number m))) = some (.number x) := by
            show (Json.double? (.number m)).map Datum.number = _
            rw [hx, Option.map_some]
          exact ⟨x, Expression.eval_coalesce_of_ne_null (hcast.trans hnumber) Datum.noConfusion, hadd⟩
      | null | bool b | string s | array items | object fields => cases hx

theorem eval_increment {key : String} {amount sum : Double} (hstored : (row column).fields? = some stored)
    (he : e.eval row b = some (.json (.object d))) (hkey : b.value? n = some (.string key))
    (hamount : b.value? (n + 1) = some (.number amount)) (hsum : sumAt? stored key amount = some sum) :
    ((increment column n).apply e).eval row b =
      some (.json (.object (Fields.insert key (.number (.float sum)) d))) := by
  obtain ⟨x, hx, hsum⟩ := eval_storedNumber hstored hkey hsum
  have hplus : (Expression.binary .plus (storedNumber column n) (.parameter (n + 1))).eval row b =
      some (.number sum) := by
    have hparameter : (Expression.parameter (n + 1)).eval row b = some (.number amount) := by
      rw [Expression.eval_parameter, hamount]
      rfl
    rw [Expression.eval_binary _ hx hparameter]
    show (x.sum? amount).map Datum.number = _
    rw [hsum, Option.map_some]
  have hoperand : (increment column n).operand.eval row b =
      some (.json (.object [(key, .number (.float sum))])) :=
    Expression.eval_buildObject (eval_keyText hkey) hplus
  exact Expression.eval_binary _ he hoperand

theorem eval_overlay {fields : Document} (he : e.eval row b = some (.json (.object d)))
    (hfields : b.value? n = some (.json (.object fields))) :
    ((overlay n).apply e).eval row b = some (.json (.object (Fields.insertAll d fields))) := by
  have hoperand : (overlay n).operand.eval row b = some (.json (.object fields)) := by
    rw [overlay, Expression.eval_cast, Expression.eval_parameter, hfields]
    rfl
  exact Expression.eval_binary _ he hoperand

theorem eval_removals {keys : List String} (he : e.eval row b = some (.json (.object d)))
    (hkeys : b.Holds n (keys.map .string)) :
    (((List.range' n keys.length).map removal).foldl Link.apply e).eval row b =
      some (.json (.object (d.filter (·.1 ∉ keys)))) := by
  induction keys generalizing n d e with
  | nil => simpa using he
  | cons key keys ih =>
      obtain ⟨hkey, hkeys⟩ := hkeys
      have hfilter : (d.filter (·.1 ≠ key)).filter (·.1 ∉ keys) = d.filter (·.1 ∉ key :: keys) := by
        rw [List.filter_filter]
        simp [Bool.and_comm]
      rw [← hfilter]
      exact ih (eval_removal he hkey) hkeys

def sumsOf (stored : Document) (increments : List (String × Double)) : Document :=
  increments.map fun i => (i.1, .number (.float ((sumAt? stored i.1 i.2).getD 0)))

theorem eval_increments {increments : List (String × Double)} (hstored : (row column).fields? = some stored)
    (he : e.eval row b = some (.json (.object d))) (hsums : ∀ i ∈ increments, (sumAt? stored i.1 i.2).isSome)
    (hvalues : b.Holds n (increments.flatMap fun i => [.string i.1, .number i.2])) :
    (((List.range' n increments.length 2).map (increment column)).foldl Link.apply e).eval row b =
      some (.json (.object (Fields.insertAll d (sumsOf stored increments)))) := by
  induction increments generalizing n d e with
  | nil => exact he
  | cons i increments ih =>
      obtain ⟨key, amount⟩ := i
      obtain ⟨hkey, hamount, hvalues⟩ := hvalues
      obtain ⟨hsum, hsums⟩ := List.forall_mem_cons.mp hsums
      obtain ⟨sum, hsum⟩ := Option.isSome_iff_exists.mp hsum
      have hinsert : Fields.insertAll d (sumsOf stored ((key, amount) :: increments)) =
          Fields.insertAll (Fields.insert key (.number (.float sum)) d) (sumsOf stored increments) := by
        simp [sumsOf, Fields.insertAll, hsum]
      rw [hinsert]
      exact ih (eval_increment hstored he hkey hamount hsum) hsums hvalues

def merged (stored : Document) (removed : List String) (increments : List (String × Double)) (fields : Document) :
    Document :=
  Fields.insertAll (Fields.insertAll (stored.filter (·.1 ∉ removed)) (sumsOf stored increments)) fields

theorem values_merge (column : String) (removed : List String) (increments : List (String × Double))
    (fields : Document) :
    (Assignment.template ⟨column, .merge true removed increments fields⟩).values =
      removed.map .string ++
        (increments.flatMap (fun i => [.string i.1, .number i.2]) ++ [.json (.object fields)]) := by
  rw [template_merge, Template.values_append, Template.values_append, Template.values_append, values_removals,
    values_increments]
  rfl

theorem eval_merge {removed : List String} {increments : List (String × Double)} {fields : Document}
    (hstored : (row column).fields? = some stored) (hsums : ∀ i ∈ increments, (sumAt? stored i.1 i.2).isSome)
    (hvalues : b.Holds n (Assignment.template ⟨column, .merge true removed increments fields⟩).values) :
    (mergeExpression column n removed.length increments.length).eval row b =
      some (.json (.object (merged stored removed increments fields))) := by
  have hlength : (increments.flatMap fun i => [Value.string i.1, .number i.2]).length = 2 * increments.length := by
    simp [List.length_flatMap, Nat.mul_comm]
  rw [values_merge, Bindings.holds_append, Bindings.holds_append, List.length_map, hlength] at hvalues
  obtain ⟨hremoved, hincrements, hfields, -⟩ := hvalues
  have hbase := eval_increments hstored (eval_removals (eval_storedObject hstored) hremoved) hsums hincrements
  rw [mergeExpression, mergeLinks, List.foldl_append, List.foldl_append]
  exact eval_overlay hbase hfields

/-- What a merge leaves under a key: a field that is put over the rest, else a sum, else what is not removed. -/
theorem get?_merged {removed : List String} {increments : List (String × Double)} {fields : Document}
    (hfields : (Fields.names fields).Nodup) (hincrements : (increments.map Prod.fst).Nodup) (key : String) :
    Fields.get? key (merged stored removed increments fields) =
      (Fields.get? key fields).or ((Fields.get? key (sumsOf stored increments)).or
        (if key ∈ removed then none else Fields.get? key stored)) := by
  have hsums : Fields.names (sumsOf stored increments) = increments.map Prod.fst := by
    simp [Fields.names, sumsOf]
  have hkept := Fields.get?_filter (fun k => k ∉ removed) stored key
  rw [merged, Fields.get?_insertAll hfields, Fields.get?_insertAll (hsums ▸ hincrements), hkept]
  by_cases hkey : key ∈ removed <;> simp [hkey]

end

/-! ## The assignment of a column -/

theorem assignedColumn?_template {a : Assignment} (h : a.action.HasCast) (n : Nat) :
    Sql.assignedColumn? (Sql.render (Template.number n a.template)) = some a.column := by
  have hread := ((Assignment.template_exact h).readable n).read_render
  rw [Sql.assignedColumn?, hread]
  rfl

theorem Update.holds_sets {u : Update} (h : ∀ a ∈ u.assignments, a.action.HasCast) :
    List.Forall₂
      (fun a set => Sql.assignedColumn? (Sql.render set) = some a.column ∧
        ∃ n, set = Template.number n a.template ∧ u.written.2.Holds n a.template.values)
      u.assignments u.sets := by
  have hfirst : u.written.2.first = Bindings.empty.first := by
    rw [Update.written, Bindings.writeAll_snd]
    rfl
  have hwritten : List.Forall₂ (fun t f => ∃ n, f = Template.number n t ∧ u.written.2.Holds n t.values)
      (u.assignments.map Assignment.template) u.sets :=
    Bindings.holds_writeAll _ hfirst (List.prefix_refl _)
  rw [List.forall₂_map_left_iff] at hwritten
  refine List.forall₂_iff_zip.mpr ⟨hwritten.length_eq, fun {a set} hmem => ?_⟩
  obtain ⟨n, rfl, hholds⟩ := (List.forall₂_iff_zip.mp hwritten).2 hmem
  exact ⟨assignedColumn?_template (h a (List.of_mem_zip hmem).1) n, n, rfl, hholds⟩

/-- A column that is assigned once is set once, by the assignment's text. -/
theorem Update.exists_set {u : Update} (h : ∀ a ∈ u.assignments, a.action.HasCast) {column : String} {action : Action}
    (hassigned : u.assignments.filter (·.column = column) = [⟨column, action⟩]) :
    ∃ n, u.sets.filter (fun set => Sql.assignedColumn? (Sql.render set) = some column) =
        [Template.number n (Assignment.template ⟨column, action⟩)] ∧
      u.written.2.Holds n (Assignment.template ⟨column, action⟩).values := by
  have hfilter := List.rel_filter (p := fun a : Assignment => a.column = column)
    (q := fun set => Sql.assignedColumn? (Sql.render set) = some column)
    (fun a set hset => by simp [hset.1]) (Update.holds_sets h)
  rw [hassigned] at hfilter
  obtain ⟨set, others, ⟨-, n, rfl, hholds⟩, hothers, hsets⟩ := List.forall₂_cons_left_iff.mp hfilter
  rw [List.forall₂_nil_left_iff.mp hothers] at hsets
  exact ⟨n, hsets, hholds⟩

/-- An update that merges into a column sets it once, to what is left of the stored object. -/
theorem Update.exists_merge {u : Update} (h : ∀ a ∈ u.assignments, a.action.HasCast) {column : String}
    {removed : List String} {increments : List (String × Double)} {fields : Document}
    (hmerge : u.assignments.filter (·.column = column) = [⟨column, .merge true removed increments fields⟩]) :
    ∃ set e, u.sets.filter (fun set => Sql.assignedColumn? (Sql.render set) = some column) = [set] ∧
      Sql.readAssignment? (Sql.render set) = some (column, e) ∧
      ∀ (row : String → Datum) (stored : Document), (row column).fields? = some stored →
        (∀ i ∈ increments, (sumAt? stored i.1 i.2).isSome) →
        e.eval row u.written.2 = some (.json (.object (merged stored removed increments fields))) := by
  obtain ⟨n, hsets, hholds⟩ := Update.exists_set h hmerge
  refine ⟨_, _, hsets, readAssignment?_merge column removed increments fields n, fun row stored hstored hsums => ?_⟩
  exact eval_merge hstored hsums hholds

end Write

end Docstore
