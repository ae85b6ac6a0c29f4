import Docstore.Proofs.Query.Selects
import Docstore.Write.Insert
import Docstore.Write.Update

/-!
# Statements that write

Inserts and updates are exact, whatever they write: every cell and every assignment uses the values that
it binds, and an update's predicate is numbered after the assignments.
-/

namespace Docstore.Write

open Docstore.Sql (Bindings Fragment Statement Template placeholders)

/-- The casts of written values. -/
def casts : List String := ["", "::text[]", "::jsonb"]

theorem castValue_fresh (v : Value) {cast : String} (h : cast ∈ casts) :
    Template.Fresh (Sql.value v ++ Sql.words cast) := by
  simp only [casts, List.mem_cons, List.not_mem_nil, or_false] at h
  refine ⟨fun next => ?_, by simp [Sql.value, Sql.words]⟩
  rcases h with rfl | rfl | rfl <;>
    simp +decide [Sql.value, Sql.words, Template.number, Fragment.Detached]

theorem boundPoint_fresh (p : Point) : Template.Fresh (Sql.boundPoint p) := by
  refine ⟨fun next => ?_, by simp [Sql.boundPoint, Sql.boundDouble, Sql.value, Sql.words]⟩
  simp +decide [Sql.boundPoint, Sql.boundDouble, Sql.value, Sql.words, Template.number]

/-! ## Cells -/

/-- A cell that writes its value with one of the casts. -/
def Cell.HasCast : Cell → Prop
  | value _ cast => cast ∈ casts
  | point _ => True

theorem Cell.template_fresh {c : Cell} (h : c.HasCast) : c.template.Fresh := by
  cases c with
  | value v cast => exact castValue_fresh v h
  | point p => exact boundPoint_fresh p

theorem listCast_mem (type : FieldType) : listCast type ∈ casts := by
  unfold listCast
  split
  · decide
  split <;> decide

theorem cellOf_hasCast {schema : Schema} {name : String} {value : Json} {c : Cell}
    (h : cellOf schema name value = .ok (some c)) : c.HasCast := by
  unfold cellOf at h
  split at h
  · cases h
  obtain ⟨type, -, h⟩ := Result.bind_ok h
  split at h
  · cases h
  split at h
  · obtain ⟨p, -, h⟩ := Result.map_ok h
    cases h
    trivial
  · obtain ⟨v, -, h⟩ := Result.map_ok h
    cases h
    exact listCast_mem type

theorem cellsOf_hasCast {schema : Schema} {object : Document} {cells : Fields Cell}
    (h : cellsOf schema object = .ok cells) : ∀ c ∈ cells, c.2.HasCast := by
  induction object generalizing cells with
  | nil =>
      cases h
      simp
  | cons entry rest ih =>
      obtain ⟨name, value⟩ := entry
      obtain ⟨cell, hcell, h⟩ := Result.bind_ok h
      obtain ⟨others, hothers, h⟩ := Result.bind_ok h
      cases h
      rw [List.forall_mem_append]
      refine ⟨?_, ih hothers⟩
      intro c hc
      obtain ⟨d, rfl, rfl⟩ := Option.map_eq_some_iff.mp (Option.mem_toList.mp hc)
      exact cellOf_hasCast hcell

namespace Insert

theorem ofCells_hasCast {cells : Fields Cell} (h : ∀ c ∈ cells, c.2.HasCast) :
    ∀ c ∈ (ofCells cells).cells, c.2.HasCast := by
  intro c hc
  rw [ofCells, List.mem_append, List.mem_filter, List.mem_filter] at hc
  rcases hc with hc | hc
  · exact h c hc.1
  · exact h c hc.1

theorem statement_exact {i : Insert} (h : ∀ c ∈ i.cells, c.2.HasCast) (className : String)
    (ignoreConflict : Bool) : (i.statement className ignoreConflict).Exact := by
  obtain ⟨ts, hw, hts⟩ : ∃ ts, i.written = Bindings.empty.writeAll ts ∧ ∀ t ∈ ts, t.Exact := by
    refine ⟨_, rfl, fun t ht => ?_⟩
    obtain ⟨c, hc, rfl⟩ := List.mem_map.mp ht
    exact (Cell.template_fresh (h c hc)).exact
  have hcs : (Sql.joinFragments ", " (i.columns.map Query.sqlName)).Readable := by
    refine Sql.readable_joinFragments (by decide) (by decide) _ fun f hf => ?_
    obtain ⟨s, -, rfl⟩ := List.mem_map.mp hf
    simp [Query.sqlName]
  have hps : (Sql.joinFragments ", " i.placeholders).Readable := by
    rw [placeholders, hw]
    exact Sql.readable_joinFragments (by decide) (by decide) _ fun f hf =>
      Bindings.readable_writeAll hts hf
  have hcn : (i.columns.map Query.sqlName).flatMap Sql.placeholders = [] := by
    rw [List.flatMap_eq_nil_iff]
    intro f hf
    obtain ⟨s, -, rfl⟩ := List.mem_map.mp hf
    rfl
  refine Fragment.Readable.exact ?_ fun k => ?_
  · refine .append ?_ ?_
    · split <;> simp +decide [hcs, hps]
    · split
      · exact .text (by decide) (by decide) trivial
      · exact .nil
  · have hk := Bindings.mem_placeholders_writeAll hts .empty k
    have hv : i.values = ts.flatMap Template.values := by
      rw [values, hw, Bindings.writeAll_snd, Bindings.values_append, Bindings.values_empty,
        List.nil_append]
    rw [Bindings.next_empty, ← hv] at hk
    have hc : ∀ f, f = (if ignoreConflict then [.text " ON CONFLICT DO NOTHING"] else [] : Fragment) →
        Sql.placeholders f = [] := by
      rintro f rfl
      split <;> rfl
    rw [Sql.placeholders_append, hc _ rfl, List.append_nil, Sql.placeholders_text, Sql.placeholders_name]
    split
    · rename_i he
      have hn : i.values = [] := by rw [values, written, List.isEmpty_iff.mp he]; rfl
      rw [hn]
      simp
      omega
    · simp only [Sql.placeholders_append, Sql.placeholders_text, Sql.placeholders_joinFragments, hcn,
        Sql.placeholders_nil, List.nil_append, List.append_nil]
      rw [placeholders, hw, hk]
      omega

end Insert

/-! ## Assignments -/

/-- An action that sets its value with one of the casts. -/
def Action.HasCast : Action → Prop
  | set _ cast => cast ∈ casts
  | _ => True

namespace Assignment

/-- One provider's entry is put around what sets the others. -/
theorem setProvider_clean {inner : Template}
    (h : Template.Fresh inner) (provider : String × Option Json) :
    Template.Fresh (setProvider inner provider) := by
  refine ⟨fun next => ?_, ?_⟩
  · simp +decide [setProvider, orElse, emptyObject, Sql.words, Sql.value, Sql.boundText,
      Template.number, Template.number_append, h.1 _]
  · simp [setProvider, orElse, emptyObject, Sql.words, Sql.value, Sql.boundText, h.2]

theorem setProviders_clean (providers : List (String × Option Json)) {inner : Template}
    (h : Template.Fresh inner) :
    Template.Fresh (providers.foldl setProvider inner) := by
  induction providers generalizing inner with
  | nil => exact h
  | cons provider rest ih => exact ih (setProvider_clean h provider)

theorem changeStrings_clean (op : ListOperation) (column : String) (items : List String) :
    Template.Fresh (changeStrings op (Sql.named column) items) := by
  refine ⟨fun next => ?_, ?_⟩
  · cases op <;> simp +decide [changeStrings, orElse, emptyStrings, Sql.words, Sql.named, Sql.value,
      Template.number]
  · cases op <;> simp [changeStrings, orElse, emptyStrings, Sql.words, Sql.named, Sql.value]

theorem removeKey_trailing (key : String) : Template.Trailing (removeKey key) where
  readable := fun next => by
    simp +decide [removeKey, Sql.words, Sql.boundText, Sql.value, Template.number, Fragment.Readable]
  mem_placeholders := fun next k => by
    simp [removeKey, Sql.words, Sql.boundText, Sql.value, Template.number]
    omega
  detached := fun next => Fragment.detached_text (by decide)

/-- The key of an increment is written twice and bound once. -/
theorem number_incrementKey (column key : String) (amount : Double) (next : Nat) :
    Template.number next (incrementKey (Sql.named column) key amount) =
      [.text " || jsonb_build_object(", .placeholder next, .text "::text, COALESCE((", .name column,
        .text "->>", .placeholder next, .text "::text)::double precision, 0) + ",
        .placeholder (next + 1), .text ")"] := by
  simp [incrementKey, Sql.words, Sql.named, Sql.boundText, Sql.boundDouble, Sql.value, Template.number]

theorem incrementKey_trailing (column key : String) (amount : Double) :
    Template.Trailing (incrementKey (Sql.named column) key amount) where
  readable := by
    intro next
    rw [number_incrementKey]
    simp +decide [Fragment.Readable]
  mem_placeholders := by
    intro next k
    have hv : Template.values (incrementKey (Sql.named column) key amount) =
        [.string key, .number amount] := rfl
    rw [number_incrementKey, hv]
    simp
    omega
  detached := by
    intro next
    rw [number_incrementKey]
    simp +decide

theorem merge_exact (column : String) (keep : Bool) (removed : List String)
    (increments : List (String × Double)) (fields : Document) :
    Template.Exact (expression ⟨column, .merge keep removed increments fields⟩) := by
  have hstart : Template.Fresh
      (Sql.words "(" ++ (if keep then orElse (Sql.named column) emptyObject else emptyObject)) := by
    refine ⟨fun next => ?_, ?_⟩
    · cases keep <;>
        simp +decide [orElse, emptyObject, Sql.words, Sql.named, Template.number]
    · cases keep <;> simp [orElse, emptyObject, Sql.words, Sql.named]
  have hend : Template.Trailing
      (Sql.words " || " ++ (Sql.value (.json (.object fields)) ++ Sql.words "::jsonb)")) := by
    have hc : Template.Fresh
        (Sql.words " || " ++ (Sql.value (.json (.object fields)) ++ Sql.words "::jsonb)")) := by
      refine ⟨fun next => ?_, by simp [Sql.words, Sql.value]⟩
      simp +decide [Sql.words, Sql.value, Template.number]
    exact .words hc.exact (by decide)
  have hremoved : Template.Trailing (removed.flatMap removeKey) := .flatMap removeKey_trailing _
  have hincrements : Template.Trailing
      (increments.flatMap fun e => incrementKey (Sql.named column) e.1 e.2) :=
    .flatMap (fun _ => incrementKey_trailing _ _ _) _
  have h := ((hstart.exact.append hremoved).append hincrements).append hend
  simp only [List.append_assoc] at h
  simp only [expression, List.append_assoc]
  exact h

theorem increment_clean (column : String) (amount : Double) :
    Template.Fresh (expression ⟨column, .increment amount⟩) := by
  refine ⟨fun next => ?_, by simp [expression, Sql.words, Sql.named, Sql.boundDouble, Sql.value]⟩
  simp +decide [expression, Sql.words, Sql.named, Sql.boundDouble, Sql.value, Template.number]

theorem changeList_clean (column : String) (op : ListOperation) (items : Json) :
    Template.Fresh (expression ⟨column, .changeList op items⟩) := by
  refine ⟨fun next => ?_, by simp [expression, orElse, emptyList, Sql.words, Sql.named, Sql.value]⟩
  cases op <;> simp +decide [expression, ListOperation.function, orElse, emptyList, Sql.words,
    Sql.named, Sql.value, Template.number]

theorem expression_exact {a : Assignment} (h : a.action.HasCast) : a.expression.Exact := by
  obtain ⟨column, action⟩ := a
  have hn : Template.Fresh (Sql.named column) :=
    ⟨fun _ => ⟨trivial, trivial, trivial⟩, by simp [Sql.named]⟩
  cases action with
  | clear =>
      have hc : Template.Fresh (Sql.words "NULL") := .words (by decide)
      exact hc.exact
  | set v cast => exact (castValue_fresh v h).exact
  | setPoint p => exact (boundPoint_fresh p).exact
  | increment amount => exact (increment_clean column amount).exact
  | changeList op items => exact (changeList_clean column op items).exact
  | changeStrings op items => exact (changeStrings_clean op column items).exact
  | setProviders providers => exact (setProviders_clean providers hn).exact
  | merge keep removed increments fields => exact merge_exact column keep removed increments fields

theorem template_exact {a : Assignment} (h : a.action.HasCast) : a.template.Exact := by
  have he := expression_exact h
  have ht : Template.Trailing (Sql.words " = " ++ a.expression) := by
    refine .words ⟨fun next => ⟨by decide, he.readable next⟩, fun next k => ?_⟩ (by decide)
    exact he.mem_placeholders next k
  have hn := (Query.named_exact a.column).append ht
  simpa only [template, List.append_assoc] using hn

end Assignment

/-! ## Updates -/

/-- A result that, if it is an action, is one with a cast. -/
def Casts (r : Result (Option Action)) : Prop := ∀ a, r = .ok (some a) → a.HasCast

namespace Casts

theorem ok {a : Action} (h : a.HasCast) : Casts (.ok (some a)) := by
  rintro b hb
  cases hb
  exact h

theorem none : Casts (.ok none) := by
  rintro b hb
  cases hb

theorem fail (c : Cause) : Casts (fail c) := by
  rintro b hb
  cases hb

theorem map {α : Type} {r : Result α} {f : α → Action} (h : ∀ x, (f x).HasCast) :
    Casts (r.map fun x => some (f x)) := by
  intro b hb
  obtain ⟨x, -, hx⟩ := Result.map_ok hb
  cases hx
  exact h x

end Casts

theorem setAction_casts (update : Document) (column : String) (type : Option FieldType)
    (value : Json) : Casts (setAction update column type value) := by
  unfold setAction
  extract_lets plain
  have hplain : Casts plain := by
    unfold plain
    split
    · split
      · exact .ok trivial
      · exact .fail _
    · split
      · exact .map fun v => by simp [Action.HasCast, casts]
      split
      · exact .ok (by simp [Action.HasCast, casts])
      · exact .fail _
    · exact .ok trivial
    · split
      · exact .map fun v => by simp [Action.HasCast, casts]
      · exact .map fun v => by simp [Action.HasCast, casts]
      · exact .ok (by simp [Action.HasCast, casts])
  split
  · exact .ok (by simp [Action.HasCast, casts])
  · exact .ok (by simp [Action.HasCast, casts])
  · exact .map fun t => by simp [Action.HasCast, casts]
  · exact .map fun p => trivial
  · exact .map fun ring => by simp [Action.HasCast, casts]
  · exact .none
  · split
    · exact .ok (by simp [Action.HasCast, casts])
    · exact hplain
  · exact hplain

theorem listAction_casts (type : Option FieldType) (column : String) (op : ListOperation)
    (value : Json) : Casts ((listAction type column op value).map some) := by
  intro a h
  obtain ⟨b, hb, h⟩ := Result.map_ok h
  cases h
  unfold listAction at hb
  dsimp only at hb
  split at hb
  · obtain ⟨items, -, rfl⟩ := Result.map_ok hb
    trivial
  · cases hb
    trivial

theorem actionOf_casts (schema : Schema) (update : Document) (column : String) (value : Json) :
    Casts (actionOf schema update column value) := by
  unfold actionOf
  dsimp only
  split
  · exact .ok trivial
  split
  · split
    · exact .ok trivial
    · exact .none
  split
  · exact setAction_casts update column _ value
  · exact .ok trivial
  · exact listAction_casts _ _ _ _
  · exact listAction_casts _ _ _ _
  · exact listAction_casts _ _ _ _
  · exact .ok trivial
  · exact .none
  · exact .none
  · exact .none
  · exact .fail _

theorem assignmentsOf_hasCast {schema : Schema} {whole entries : Document}
    {assignments : List Assignment} (h : assignmentsOf schema whole entries = .ok assignments) :
    ∀ a ∈ assignments, a.action.HasCast := by
  induction entries generalizing assignments with
  | nil =>
      cases h
      simp
  | cons entry rest ih =>
      obtain ⟨column, value⟩ := entry
      obtain ⟨action, haction, h⟩ := Result.bind_ok h
      obtain ⟨others, hothers, h⟩ := Result.bind_ok h
      cases h
      rw [List.forall_mem_append]
      refine ⟨?_, ih hothers⟩
      intro a ha
      obtain ⟨b, rfl, rfl⟩ := Option.map_eq_some_iff.mp (Option.mem_toList.mp ha)
      exact actionOf_casts schema whole column value b haction

namespace Update

theorem statement_exact {u : Update} (hu : ∀ a ∈ u.assignments, a.action.HasCast) {schema : Schema}
    {now : Time.Instant} {query : Document} {s : Statement}
    (h : u.statement schema now query = .ok s) : s.Exact := by
  have hts : ∀ t ∈ u.assignments.map Assignment.template, t.Exact := by
    intro t ht
    obtain ⟨a, ha, rfl⟩ := List.mem_map.mp ht
    exact Assignment.template_exact (hu a ha)
  have hsets : (Sql.joinFragments ", " u.sets).Readable :=
    Sql.readable_joinFragments (by decide) (by decide) _ fun f hf => Bindings.readable_writeAll hts hf
  unfold statement at h
  split at h
  · rename_i p b hr
    cases h
    obtain ⟨vs, rfl, hp⟩ := Query.predicate_isOver hr
    refine Fragment.Readable.exact ?_ fun k => ?_
    · refine .append (.append ?_ hp.whereClause_trailing) (.text (by decide) (by decide) trivial)
      simp +decide [hsets]
    · -- The assignments are numbered from one on, the predicate from behind them.
      have hk := Bindings.mem_placeholders_writeAll hts .empty k
      have hw := hp.mem_placeholders_whereClause k
      rw [written, Bindings.writeAll_snd, Bindings.next_append, Bindings.next_empty] at hw
      rw [Bindings.next_empty] at hk
      simp only [Sql.placeholders_append, Sql.placeholders_text, Sql.placeholders_name,
        Sql.placeholders_nil, List.append_nil, Sql.placeholders_joinFragments, List.mem_append, sets,
        written, hk, hw, Bindings.writeAll_snd, Bindings.values_append, Bindings.values_empty,
        List.nil_append, List.length_append]
      omega
  · cases h

end Update

theorem insert_hasCast {schema : Schema} {object : Document} {i : Insert}
    (h : insert schema object = .ok i) : ∀ c ∈ i.cells, c.2.HasCast := by
  obtain ⟨-, -, h⟩ := Result.bind_ok h
  obtain ⟨cells, hcells, h⟩ := Result.bind_ok h
  cases h
  exact Insert.ofCells_hasCast (cellsOf_hasCast hcells)

theorem update_hasCast {schema : Schema} {changes : Document} {u : Update}
    (h : update schema changes = .ok u) : ∀ a ∈ u.assignments, a.action.HasCast := by
  obtain ⟨assignments, ha, rfl⟩ := Result.map_ok h
  exact assignmentsOf_hasCast ha

/-! ## All statements -/

/-- Whatever is asked for, a statement that is accepted is exact. -/
theorem statements_exact :
    (∀ (schema : Schema) (now : Time.Instant) (query : Document) (options : Query.FindOptions)
      (s : Statement), Query.find schema now query options = .ok s → s.Exact) ∧
    (∀ (schema : Schema) (now : Time.Instant) (query : Document) (s : Statement),
      Query.count schema now query = .ok s → s.Exact) ∧
    (∀ (schema : Schema) (now : Time.Instant) (field : String) (query : Document) (s : Statement),
      Query.distinct schema now field query = .ok s → s.Exact) ∧
    (∀ (schema : Schema) (now : Time.Instant) (query : Document) (s : Statement),
      Query.delete schema now query = .ok s → s.Exact) ∧
    (∀ (schema : Schema) (object : Document) (i : Insert), insert schema object = .ok i →
      ∀ (className : String) (ignoreConflict : Bool),
        (i.statement className ignoreConflict).Exact) ∧
    ∀ (schema : Schema) (changes : Document) (u : Update), update schema changes = .ok u →
      ∀ (target : Schema) (now : Time.Instant) (query : Document) (s : Statement),
        u.statement target now query = .ok s → s.Exact := by
  refine ⟨?_, ?_, ?_, ?_, ?_, ?_⟩
  · intro schema now query options s h
    exact Query.find_exact h
  · intro schema now query s h
    exact Query.count_exact h
  · intro schema now field query s h
    exact Query.distinct_exact h
  · intro schema now query s h
    exact Query.delete_exact h
  · intro schema object i h
    exact Insert.statement_exact (insert_hasCast h)
  · intro schema changes u h target now query s hs
    exact Update.statement_exact (update_hasCast h) hs

/-- Posts with texts, a list, an object and a place, in a class whose name has to be quoted. -/
def posts : Schema :=
  ⟨"Po\"st$1", [("title", .ofType .string), ("tags", .ofType (.arrayOf .string)),
    ("meta", .ofType .object), ("spot", .ofType .geoPoint)], none, []⟩

/-- A full-text search for one post. -/
def postsQuery : Document :=
  [("title", .object [("$text", .object [("$search", .object [("$term", .string "a")])])]),
    ("objectId", .string "x")]

/-- A page of posts with their scores. -/
def postsPage : Query.FindOptions :=
  ⟨some 2, some 1, [], some ["title", "$score"], false, false⟩

def newPost : Document :=
  [("title", .string "b"), ("meta.a", .string "b"),
    ("spot", .object [("__type", .string "GeoPoint"), ("latitude", .int 1), ("longitude", .int 2)])]

/-- Changes to a list and inside an object. -/
def postChanges : Document :=
  [("meta.a", .object [("__op", .string "Increment"), ("amount", .int 1)]),
    ("meta.b", .object [("__op", .string "Delete")]),
    ("tags", .object [("__op", .string "AddUnique"), ("objects", .array [.string "x"])])]

set_option maxRecDepth 10000 in
theorem statements_exact_posts :
    (∃ s, Query.find posts ⟨0, 0⟩ postsQuery postsPage = .ok s ∧ s.values.length = 9 ∧ s.Exact) ∧
    (∃ s, Query.count posts ⟨0, 0⟩ postsQuery = .ok s ∧ s.values.length = 4 ∧ s.Exact) ∧
    (∃ s, Query.distinct posts ⟨0, 0⟩ "tags" postsQuery = .ok s ∧ s.values.length = 4 ∧ s.Exact) ∧
    (∃ s, Query.delete posts ⟨0, 0⟩ postsQuery = .ok s ∧ s.values.length = 4 ∧ s.Exact) ∧
    (∃ i, insert posts newPost = .ok i ∧ i.values.length = 4 ∧ (i.statement "Po$1" true).Exact) ∧
    ∃ u s, update posts postChanges = .ok u ∧ u.statement posts ⟨0, 0⟩ postsQuery = .ok s ∧
      s.values.length = 9 ∧ s.Exact := by
  obtain ⟨hfind, hcount, hdistinct, hdelete, hinsert, hupdate⟩ := statements_exact
  refine ⟨?_, ?_, ?_, ?_, ?_, ?_⟩
  · exact ⟨_, rfl, rfl, hfind posts ⟨0, 0⟩ postsQuery postsPage _ rfl⟩
  · exact ⟨_, rfl, rfl, hcount posts ⟨0, 0⟩ postsQuery _ rfl⟩
  · exact ⟨_, rfl, rfl, hdistinct posts ⟨0, 0⟩ "tags" postsQuery _ rfl⟩
  · exact ⟨_, rfl, rfl, hdelete posts ⟨0, 0⟩ postsQuery _ rfl⟩
  · exact ⟨_, rfl, rfl, hinsert posts newPost _ rfl _ _⟩
  · exact ⟨_, _, rfl, rfl, rfl, hupdate posts postChanges _ rfl posts ⟨0, 0⟩ postsQuery _ rfl⟩

end Docstore.Write
