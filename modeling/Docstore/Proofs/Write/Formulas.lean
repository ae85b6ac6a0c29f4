import Docstore.Proofs.Write.Merging
import Mathlib.Data.List.Induction

/-!
# What columns are set to

Assignments as a reader takes them, with what the engine makes of them on a row. Beside expressions there are four
forms: no value, a stored list that is changed by one of the installed functions, a native list that is changed in
place, and a stored object whose keys are set one after the other. The text of an assignment is read as what its action
sets the column to (`readFormula?_template`).
-/

namespace Docstore

namespace Sql.Word

def name? : Word → Option String
  | name s => some s
  | _ => none

def placeholder? : Word → Option Nat
  | placeholder n => some n
  | _ => none

end Sql.Word

namespace Write

open Docstore.Sql (Bindings Datum Expression Fragment Lexeme Template Word)

/-! ## Forms -/

/-- A form that is no expression. A key is set to a value by their two placeholders. -/
inductive Call
  | null
  | list (op : ListOperation) (column : String) (n : Nat)
  | strings (op : ListOperation) (column : String) (n : Nat)
  | setKeys (column : String) (keys : List (Nat × Nat))
deriving DecidableEq

namespace Call

def storedStrings (column : String) : List Word :=
  [.word "COALESCE".toList, .mark '(', .name column, .mark ',', .literal "\x7b\x7d", .operator "::".toList,
    .word "text".toList, .mark '[', .mark ']', .mark ')']

def givenStrings (n : Nat) : List Word :=
  [.placeholder n, .operator "::".toList, .word "text".toList, .mark '[', .mark ']']

/-- The items of one list that are different from all of another one. -/
def difference (items others : List Word) : List Word :=
  [.word "e".toList, .word "FROM".toList, .word "unnest".toList, .mark '('] ++ items ++
    [.mark ')', .word "AS".toList, .word "e".toList, .word "WHERE".toList, .word "e".toList,
      .operator "<>".toList, .word "ALL".toList, .mark '('] ++ others ++ [.mark ')', .mark ')']

def opening : List Word :=
  [.word "json_object_set_key".toList, .mark '(', .word "COALESCE".toList, .mark '(']

def closing (k : Nat × Nat) : List Word :=
  [.mark ',', .literal "\x7b\x7d", .operator "::".toList, .word "jsonb".toList, .mark ')', .mark ',',
    .placeholder k.1, .operator "::".toList, .word "text".toList, .mark ',',
    .placeholder k.2, .operator "::".toList, .word "jsonb".toList, .mark ')', .operator "::".toList,
    .word "jsonb".toList]

/-- How a form is spelled. -/
def words : Call → List Word
  | null => [.word "NULL".toList]
  | list op column n =>
    [.word op.function.toList, .mark '(', .word "COALESCE".toList, .mark '(', .name column, .mark ',', .literal "[]",
      .operator "::".toList, .word "jsonb".toList, .mark ')', .mark ',', .placeholder n, .operator "::".toList,
      .word "jsonb".toList, .mark ')']
  | strings .add column n =>
    [.word "array_cat".toList, .mark '('] ++ storedStrings column ++ .mark ',' :: givenStrings n ++ [.mark ')']
  | strings .addUnique column n =>
    [.word "array_cat".toList, .mark '('] ++ storedStrings column ++
      [.mark ',', .word "ARRAY".toList, .mark '(', .word "SELECT".toList, .word "DISTINCT".toList] ++
      difference (givenStrings n) (storedStrings column) ++ [.mark ')']
  | strings .remove column n =>
    [.word "ARRAY".toList, .mark '(', .word "SELECT".toList] ++ difference (storedStrings column) (givenStrings n)
  | setKeys column keys => keys.foldl (fun inner k => opening ++ inner ++ closing k) [.name column]

end Call

/-! ## Reading forms -/

namespace Call

def pairs : List Nat → List (Nat × Nat)
  | k :: v :: rest => (k, v) :: pairs rest
  | _ => []

/-- The forms that a text with these names and placeholders can have. -/
def candidates (names : List String) (placeholders : List Nat) : List Call :=
  match names, placeholders with
  | column :: _, n :: _ =>
    [null, list .add column n, list .addUnique column n, list .remove column n, strings .add column n,
      strings .addUnique column n, strings .remove column n, setKeys column (pairs placeholders)]
  | _, _ => [null]

/-- The form that is spelled with some words. -/
def read? (ws : List Word) : Option Call :=
  (candidates (ws.filterMap Word.name?) (ws.filterMap Word.placeholder?)).find? fun c => c.words = ws

theorem words_setKeys_append (column : String) (keys : List (Nat × Nat)) (k : Nat × Nat) :
    words (setKeys column (keys ++ [k])) = opening ++ words (setKeys column keys) ++ closing k := by
  rw [words, words, List.foldl_append]
  rfl

theorem names_setKeys (column : String) (keys : List (Nat × Nat)) :
    (words (setKeys column keys)).filterMap Word.name? = [column] := by
  induction keys using List.reverseRecOn with
  | nil => rfl
  | append_singleton keys k ih =>
      rw [words_setKeys_append, List.filterMap_append, List.filterMap_append, ih]
      rfl

theorem placeholders_setKeys (column : String) (keys : List (Nat × Nat)) :
    (words (setKeys column keys)).filterMap Word.placeholder? = keys.flatMap fun k => [k.1, k.2] := by
  induction keys using List.reverseRecOn with
  | nil => rfl
  | append_singleton keys k ih =>
      rw [words_setKeys_append, List.filterMap_append, List.filterMap_append, ih, List.flatMap_append]
      rfl

theorem pairs_flatMap (keys : List (Nat × Nat)) : pairs (keys.flatMap fun k => [k.1, k.2]) = keys := by
  induction keys with
  | nil => rfl
  | cons k keys ih => exact congrArg (k :: ·) ih

theorem exists_words_setKeys (column : String) {keys : List (Nat × Nat)} (h : keys ≠ []) :
    ∃ rest, words (setKeys column keys) = .word "json_object_set_key".toList :: rest := by
  cases keys using List.reverseRecOn with
  | nil => exact absurd rfl h
  | append_singleton keys k =>
      rw [words_setKeys_append]
      exact ⟨_, rfl⟩

/-- The form that some words spell is found among forms that are spelled differently. -/
theorem find?_words {c : Call} {cs : List Call} (hmem : c ∈ cs) (h : ∀ c' ∈ cs, c'.words = c.words → c' = c) :
    cs.find? (fun c' => c'.words = c.words) = some c := by
  obtain ⟨c', hfind⟩ : ∃ c', cs.find? (fun c' => c'.words = c.words) = some c' :=
    Option.isSome_iff_exists.mp (List.find?_isSome.mpr ⟨c, hmem, by simp⟩)
  have hwords : c'.words = c.words := by simpa using List.find?_some hfind
  rw [hfind, h c' (List.mem_of_find?_eq_some hfind) hwords]

theorem read?_list (op : ListOperation) (column : String) (n : Nat) :
    read? (words (list op column n)) = some (list op column n) := by
  have hnames : (words (list op column n)).filterMap Word.name? = [column] := by cases op <;> rfl
  have hplaceholders : (words (list op column n)).filterMap Word.placeholder? = [n] := by cases op <;> rfl
  rw [read?, hnames, hplaceholders]
  refine find?_words (by cases op <;> simp [candidates]) ?_
  simp only [candidates, List.forall_mem_cons, pairs]
  cases op <;> simp +decide [words, ListOperation.function, storedStrings]

theorem read?_strings (op : ListOperation) (column : String) (n : Nat) :
    read? (words (strings op column n)) = some (strings op column n) := by
  have hnames : ∃ others, (words (strings op column n)).filterMap Word.name? = column :: others := by
    cases op <;> exact ⟨_, rfl⟩
  have hplaceholders : (words (strings op column n)).filterMap Word.placeholder? = [n] := by cases op <;> rfl
  obtain ⟨others, hnames⟩ := hnames
  rw [read?, hnames, hplaceholders]
  refine find?_words (by cases op <;> simp [candidates]) ?_
  simp only [candidates, List.forall_mem_cons, pairs]
  cases op <;> simp +decide [words, ListOperation.function, storedStrings, givenStrings, difference]

theorem read?_setKeys (column : String) {keys : List (Nat × Nat)} (h : keys ≠ []) :
    read? (words (setKeys column keys)) = some (setKeys column keys) := by
  obtain ⟨rest, hrest⟩ := exists_words_setKeys column h
  obtain ⟨n, others, hnumbers⟩ : ∃ n others, (keys.flatMap fun k => [k.1, k.2]) = n :: others := by
    obtain ⟨k, keys, rfl⟩ := List.exists_cons_of_ne_nil h
    exact ⟨_, _, rfl⟩
  have hpairs : pairs (n :: others) = keys := by rw [← hnumbers, pairs_flatMap]
  rw [read?, names_setKeys, placeholders_setKeys, hnumbers]
  simp only [candidates, hpairs]
  refine find?_words (by simp) ?_
  simp only [List.forall_mem_cons, hrest]
  simp +decide [words, ListOperation.function, storedStrings]

/-- A form is found again in its words, unless it is a column by itself. -/
theorem read?_words {c : Call} (h : ∀ column, c ≠ setKeys column []) : read? c.words = some c := by
  cases c with
  | null => rfl
  | list op column n => exact read?_list op column n
  | strings op column n => exact read?_strings op column n
  | setKeys column keys => exact read?_setKeys column fun hkeys => h column (hkeys ▸ rfl)

/-- The words that forms begin with begin no expression. -/
theorem expression_read?_words {c : Call} (h : ∀ column, c ≠ setKeys column []) : Expression.read? c.words = none := by
  have hwords : ∃ cs ws, c.words = .word cs :: ws ∧ cs.all Char.isDigit = false ∧ Sql.Builtin.ofName? cs = none := by
    cases c with
    | null => exact ⟨_, _, rfl, by decide, by decide⟩
    | list op column n => cases op <;> exact ⟨_, _, rfl, by decide, by decide⟩
    | strings op column n => cases op <;> exact ⟨_, _, rfl, by decide, by decide⟩
    | setKeys column keys =>
        obtain ⟨rest, hrest⟩ := exists_words_setKeys column fun hkeys => h column (hkeys ▸ rfl)
        exact ⟨_, rest, hrest, by decide, by decide⟩
  obtain ⟨cs, ws, hwords, hdigits, hname⟩ := hwords
  rw [hwords, Expression.read?_eq_none hdigits hname]

end Call

/-- What a column is set to. -/
inductive Formula
  | expression (e : Expression)
  | call (c : Call)
deriving DecidableEq

namespace Formula

def read? (ws : List Word) : Option Formula :=
  ((Expression.read? ws).map expression).or ((Call.read? ws).map call)

theorem read?_expression {ws : List Word} {e : Expression} (h : Expression.read? ws = some e) :
    read? ws = some (expression e) := by
  rw [read?, h]
  rfl

theorem read?_call {c : Call} (h : ∀ column, c ≠ .setKeys column []) : read? c.words = some (call c) := by
  rw [read?, Call.expression_read?_words h, Call.read?_words h]
  rfl

end Formula

/-- The column of an assignment and what it is set to, be it an expression or another form. -/
def readFormula? (s : String) : Option (String × Formula) :=
  match (Sql.read s).map Lexeme.words with
  | some (.name column :: .operator ['='] :: ws) => (Formula.read? ws).map (column, ·)
  | _ => none

theorem readFormula?_of_readAssignment? {s column : String} {e : Expression}
    (h : Sql.readAssignment? s = some (column, e)) : readFormula? s = some (column, .expression e) := by
  rw [Sql.readAssignment?] at h
  split at h
  next ws hwords =>
    obtain ⟨e', he, heq⟩ := Option.map_eq_some_iff.mp h
    cases heq
    rw [readFormula?, hwords]
    exact congrArg (Option.map (column, ·)) (Formula.read?_expression he)
  next => cases h

/-! ## Formulas of actions -/

namespace Assignment

theorem words_template (a : Assignment) (n : Nat) :
    Lexeme.words (Fragment.lexemes (Template.number n a.template)) =
      .name a.column :: .operator ['='] :: Lexeme.words (Fragment.lexemes (Template.number n a.expression)) := by
  have hlexemes : Fragment.lexemes (Template.number n a.template) =
      [.name a.column, .char ' ', .char '='] ++ .char ' ' :: Fragment.lexemes (Template.number n a.expression) := by
    rw [template, Template.number_append, Fragment.lexemes_append]
    rfl
  rw [hlexemes, Lexeme.words_append_blank]
  rfl

/-- What is bound for an entry of auth data. -/
def providerValue : Option Json → Value
  | some v => .json v
  | none => .null

theorem setProvider_eq (inner : Template) (provider : String × Option Json) :
    setProvider inner provider =
      [.text "json_object_set_key(", .text "COALESCE("] ++ (inner ++
        [.text ", ", .literal "\x7b\x7d", .text "::jsonb", .text ")", .text ", ", .bind (.string provider.1),
          .text "::text, ", .bind (providerValue provider.2), .text "::jsonb)::jsonb"]) := by
  obtain ⟨key, v⟩ := provider
  cases v <;> simp [setProvider, orElse, emptyObject, Sql.words, Sql.boundText, Sql.value, providerValue]

theorem words_setProvider (inner : Template) (provider : String × Option Json) (n : Nat) :
    Lexeme.words (Fragment.lexemes (Template.number n (setProvider inner provider))) =
      Call.opening ++ Lexeme.words (Fragment.lexemes (Template.number n inner)) ++
        Call.closing (n + inner.values.length, n + inner.values.length + 1) := by
  have hparen : Word.IsMark '(' := by decide
  have hcomma : Word.IsMark ',' := by decide
  obtain ⟨rest, hlexemes, hwords⟩ : ∃ rest,
      Fragment.lexemes (Template.number (n + inner.values.length)
        [.text ", ", .literal "\x7b\x7d", .text "::jsonb", .text ")", .text ", ", .bind (.string provider.1),
          .text "::text, ", .bind (providerValue provider.2), .text "::jsonb)::jsonb"]) = .char ',' :: rest ∧
      Lexeme.words (.char ',' :: rest) = Call.closing (n + inner.values.length, n + inner.values.length + 1) :=
    ⟨_, rfl, rfl⟩
  rw [setProvider_eq, Template.number_append, Template.number_append, Fragment.lexemes_append, Fragment.lexemes_append]
  show Lexeme.words ("json_object_set_key(COALESCE".toList.map .char ++ .char '(' ::
    (Fragment.lexemes (Template.number n inner) ++ Fragment.lexemes (Template.number (n + inner.values.length) _))) = _
  rw [hlexemes, Lexeme.words_append_mark hparen, Lexeme.words_cons_mark hparen (by decide),
    Lexeme.words_append_mark hcomma, hwords, List.append_cons, ← List.append_assoc]
  rfl

theorem values_setProvider (inner : Template) (provider : String × Option Json) :
    (setProvider inner provider).values = inner.values ++ [.string provider.1, providerValue provider.2] := by
  rw [setProvider_eq, Template.values_append, Template.values_append]
  rfl

theorem values_setProviders (providers : List (String × Option Json)) (inner : Template) :
    (providers.foldl setProvider inner).values =
      inner.values ++ providers.flatMap fun e => [.string e.1, providerValue e.2] := by
  induction providers generalizing inner with
  | nil => simp
  | cons provider providers ih =>
      rw [List.foldl_cons, ih, values_setProvider, List.flatMap_cons, List.append_assoc]

theorem words_setProviders (column : String) (providers : List (String × Option Json)) (n : Nat) :
    Lexeme.words (Fragment.lexemes (Template.number n (providers.foldl setProvider (Sql.named column)))) =
      Call.words (.setKeys column ((List.range' n providers.length 2).map fun k => (k, k + 1))) := by
  induction providers using List.reverseRecOn with
  | nil => rfl
  | append_singleton providers provider ih =>
      have hvalues : (Template.values (providers.foldl setProvider (Sql.named column))).length =
          2 * providers.length := by
        rw [values_setProviders]
        simp [Sql.named, List.length_flatMap, Nat.mul_comm]
      rw [List.foldl_append, List.foldl_cons, List.foldl_nil, words_setProvider, ih, hvalues, List.length_append,
        List.length_singleton, List.range'_concat, List.map_append, List.map_singleton, Call.words_setKeys_append]

end Assignment

/-- What an action sets a column to, with placeholders from `n` on. -/
def Action.formula? (column : String) (n : Nat) : Action → Option Formula
  | clear => some (.call .null)
  | increment _ =>
    some (.expression (.binary .plus (.call .coalesce (.column column) (.integer 0)) (.parameter n)))
  | changeList op _ => some (.call (.list op column n))
  | changeStrings op _ => some (.call (.strings op column n))
  | setProviders providers =>
    if providers = [] then some (.expression (.column column))
    else some (.call (.setKeys column ((List.range' n providers.length 2).map fun k => (k, k + 1))))
  | merge true removed increments _ => some (.expression (mergeExpression column n removed.length increments.length))
  | _ => none

theorem readFormula?_of_read? {a : Assignment} {n : Nat} {formula : Formula} (h : a.action.HasCast)
    (hread : Formula.read? (Lexeme.words (Fragment.lexemes (Template.number n a.expression))) = some formula) :
    readFormula? (Sql.render (Template.number n a.template)) = some (a.column, formula) := by
  have htext := ((Assignment.template_exact h).readable n).read_render
  rw [readFormula?, htext, Option.map_some, Assignment.words_template]
  exact congrArg (Option.map (a.column, ·)) hread

/-- The text of an assignment is read as what its action sets the column to. -/
theorem readFormula?_template {column : String} {action : Action} {n : Nat} {formula : Formula}
    (h : action.formula? column n = some formula) :
    readFormula? (Sql.render (Template.number n (Assignment.template ⟨column, action⟩))) = some (column, formula) := by
  cases action with
  | clear =>
      cases h
      exact readFormula?_of_read? trivial (Formula.read?_call (c := .null) (by simp))
  | increment amount =>
      cases h
      exact readFormula?_of_read? trivial (Formula.read?_expression rfl)
  | changeList op items =>
      cases h
      have hwords : Lexeme.words (Fragment.lexemes (Template.number n
          (Assignment.expression ⟨column, .changeList op items⟩))) = Call.words (.list op column n) := by
        cases op <;> rfl
      refine readFormula?_of_read? trivial ?_
      rw [hwords, Formula.read?_call (by simp)]
  | changeStrings op items =>
      cases h
      have hwords : Lexeme.words (Fragment.lexemes (Template.number n
          (Assignment.expression ⟨column, .changeStrings op items⟩))) = Call.words (.strings op column n) := by
        cases op <;> rfl
      refine readFormula?_of_read? trivial ?_
      rw [hwords, Formula.read?_call (by simp)]
  | setProviders providers =>
      refine readFormula?_of_read? trivial ?_
      rw [Assignment.expression, Assignment.words_setProviders]
      rw [Action.formula?] at h
      split at h
      next hnil =>
        cases h
        subst hnil
        exact Formula.read?_expression rfl
      next hsome =>
        cases h
        exact Formula.read?_call (by simpa using hsome)
  | merge keep removed increments fields =>
      cases keep with
      | false => cases h
      | true =>
          cases h
          exact readFormula?_of_readAssignment? (readAssignment?_merge column removed increments fields n)
  | set v cast | setPoint p => cases h

/-! ## Values of formulas -/

/--
How the engine compares what lists hold: whether a document holds another one, whether two documents are equal, and
which strings of a list are left where each is kept once.
-/
structure Comparison where
  holds : Json → Json → Bool
  same : Json → Json → Bool
  distinct : List String → List String

namespace ListOperation

/-- What the installed functions make of a stored list and a given one. -/
def apply (c : Comparison) (stored items : List Json) : ListOperation → List Json
  | add => stored ++ items
  | addUnique => stored ++ (items.filter fun x => !stored.any (c.holds · x)).eraseDupsBy c.same
  | remove => stored.filter fun x => !items.any (c.holds · x)

def applyStrings (c : Comparison) (stored items : List String) : ListOperation → List String
  | add => stored ++ items
  | addUnique => stored ++ c.distinct (items.filter (· ∉ stored))
  | remove => stored.filter (· ∉ items)

end ListOperation

/-! ## Values of forms -/

/-- The columns of a row: those of native lists, and all others. -/
structure Row where
  data : String → Datum
  strings : String → Option (List String)

inductive Outcome
  | datum (d : Datum)
  | strings (items : List String)

/-- The items of a list; nothing counts as the empty one. -/
def listOf? : Datum → Option (List Json)
  | .null => some []
  | .json (.array items) => some items
  | _ => none

/-- The items that are bound as a document. -/
def boundItems? : Value → Option (List Json)
  | .json (.array items) => some items
  | _ => none

def boundStrings? : Value → Option (List String)
  | .strings items => some items
  | _ => none

/-- What is left of an object whose key is set, or removed where there is no value. -/
def withKey (fields : Document) (key : String) : Option Json → Document
  | some v => Fields.insertAll (fields.filter (·.1 ≠ key)) [(key, v)]
  | none => fields.filter (·.1 ≠ key)

def setKey? (b : Bindings) (fields : Document) (k : Nat × Nat) : Option Document :=
  match b.value? k.1, b.value? k.2 with
  | some (.string key), some (.json v) => some (withKey fields key (some v))
  | some (.string key), some .null => some (withKey fields key none)
  | _, _ => none

def Call.eval (c : Comparison) (row : Row) (b : Bindings) : Call → Option Outcome
  | null => some (.datum .null)
  | list op column n => do
    let stored ← listOf? (row.data column)
    let items ← (b.value? n).bind boundItems?
    return .datum (.json (.array (op.apply c stored items)))
  | strings op column n => do
    let items ← (b.value? n).bind boundStrings?
    return .strings (op.applyStrings c ((row.strings column).getD []) items)
  | setKeys column keys => do
    let fields ← keys.foldlM (setKey? b) (← (row.data column).fields?)
    return .datum (.json (.object fields))

def Formula.eval (c : Comparison) (row : Row) (b : Bindings) : Formula → Option Outcome
  | expression e => (e.eval row.data b).map .datum
  | call form => form.eval c row b

/-! ## Setting keys one after the other -/

section

variable {fields stored : Document} {key : String}

theorem get?_withKey_self (fields : Document) (key : String) (v : Option Json) :
    Fields.get? key (withKey fields key v) = v := by
  have hremoved : Fields.get? key (fields.filter (·.1 ≠ key)) = none := by
    rw [Fields.get?_filter (· ≠ key), if_neg (by simp)]
  cases v with
  | none => exact hremoved
  | some v => exact Fields.get?_insert_self _ _ _

theorem get?_withKey_of_ne {other : String} (h : other ≠ key) (v : Option Json) :
    Fields.get? other (withKey fields key v) = Fields.get? other fields := by
  have hkept : Fields.get? other (fields.filter (·.1 ≠ key)) = Fields.get? other fields := by
    rw [Fields.get?_filter (· ≠ key), if_pos (by simpa using h)]
  cases v with
  | none => exact hkept
  | some v => exact (Fields.get?_insert_of_ne h _ _).trans hkept

/-- The entries of auth data, each set or removed in what is stored. -/
def withProviders (stored : Document) (providers : List (String × Option Json)) : Document :=
  providers.foldl (fun fields e => withKey fields e.1 e.2) stored

/-- Of a key that is set several times the last value stays. -/
theorem exists_get?_withProviders {providers : List (String × Option Json)} (h : key ∈ Fields.names providers)
    (stored : Document) :
    ∃ v, (key, v) ∈ providers ∧ Fields.get? key (withProviders stored providers) = v := by
  induction providers using List.reverseRecOn with
  | nil => cases h
  | append_singleton providers e ih =>
      obtain ⟨name, v⟩ := e
      have hstep :
          withProviders stored (providers ++ [(name, v)]) = withKey (withProviders stored providers) name v := by
        rw [withProviders, List.foldl_append]
        rfl
      rw [hstep]
      by_cases hname : key = name
      · subst hname
        exact ⟨v, List.mem_append_right _ (.head _), get?_withKey_self _ _ _⟩
      · have hkey : key ∈ Fields.names providers := by
          rw [Fields.names, List.map_append, List.mem_append] at h
          exact h.resolve_right fun hmem => hname (List.mem_singleton.mp hmem)
        obtain ⟨w, hw, hget⟩ := ih hkey
        exact ⟨w, List.mem_append_left _ hw, (get?_withKey_of_ne hname v).trans hget⟩

theorem foldlM_setKey? {b : Bindings} {n : Nat} {providers : List (String × Option Json)}
    (h : b.Holds n (providers.flatMap fun e => [.string e.1, Assignment.providerValue e.2])) :
    ((List.range' n providers.length 2).map fun k => (k, k + 1)).foldlM (setKey? b) stored =
      some (withProviders stored providers) := by
  induction providers generalizing n stored with
  | nil => rfl
  | cons e providers ih =>
      obtain ⟨name, v⟩ := e
      obtain ⟨hname, hvalue, hrest⟩ := h
      have hstep : setKey? b stored (n, n + 1) = some (withKey stored name v) := by
        cases v <;> simp [setKey?, hname, hvalue, Assignment.providerValue]
      rw [List.length_cons, List.range'_succ, List.map_cons, List.foldlM_cons, hstep]
      exact ih hrest

end

/-! ## Values of actions -/

section

variable {c : Comparison} {row : Row} {b : Bindings} {column : String} {n : Nat}

/-- The sum of a column's number, zero if there is none, and an amount. -/
def sumOf? (d : Datum) (amount : Double) : Option Double :=
  match d with
  | .null => Double.sum? 0 amount
  | .number x => x.sum? amount
  | _ => none

theorem eval_increment_column {amount : Double} (h : b.value? n = some (.number amount)) :
    (Expression.binary .plus (.call .coalesce (.column column) (.integer 0)) (.parameter n)).eval row.data b =
      (sumOf? (row.data column) amount).map .number := by
  have hparameter : (Expression.parameter n).eval row.data b = some (.number amount) := by
    rw [Expression.eval_parameter, h]
    rfl
  have hcolumn : (Expression.column column).eval row.data b = some (row.data column) := rfl
  cases hdata : row.data column with
  | null =>
      rw [hdata] at hcolumn
      have hzero : (Expression.call .coalesce (.column column) (.integer 0)).eval row.data b = some (.number 0) :=
        Expression.eval_coalesce_of_null hcolumn
      exact Expression.eval_binary _ hzero hparameter
  | number x | text s | json v | shown v =>
      rw [hdata] at hcolumn
      exact Expression.eval_binary _ (Expression.eval_coalesce_of_ne_null hcolumn Datum.noConfusion) hparameter

theorem eval_setProviders {providers : List (String × Option Json)} {stored : Document}
    (hstored : (row.data column).fields? = some stored)
    (h : b.Holds n (providers.flatMap fun e => [.string e.1, Assignment.providerValue e.2])) :
    (Call.setKeys column ((List.range' n providers.length 2).map fun k => (k, k + 1))).eval c row b =
      some (.datum (.json (.object (withProviders stored providers)))) := by
  rw [Call.eval, hstored]
  simp [foldlM_setKey? h]

end

end Write

end Docstore
