import Docstore.Proofs.Query.Grouping

/-!
# Columns of projections

Which columns a pipeline with projections and a search with keys return, and when they are just those that were asked
for. Main statement: `select_requested_iff`.
-/

namespace Docstore.Query

open Docstore.Sql (Bindings Fragment Statement Template)

/-! ## Projections of pipelines -/

namespace Pipeline

variable {schema : Schema} {stages : List Json} {p q : Pipeline} {s t : Selection} {fields : List String}

/-- The fields that a projection keeps; other values are ignored. -/
def keptIn : Option Json → List String
  | some (.object fields) => Fields.names (fields.filter fun e => isKept e.2)
  | _ => []

/-- The fields that a stage keeps. -/
def keptFields (stage : Json) : List String := keptIn (stage.get? "$project")

/-- The fields of the last stage that keeps any. -/
def lastKept (stages : List Json) : List String :=
  ((stages.map keptFields).filter (!·.isEmpty)).getLast?.getD []

theorem project_outputs {v : Option Json} (h : p.project v = .ok q) :
    q.outputs = p.outputs ++ (keptIn v).map .field := by
  unfold project at h
  split at h
  next entries =>
    induction entries generalizing p with
    | nil =>
        cases h
        exact (List.append_nil _).symm
    | cons e rest ih =>
        obtain ⟨field, value⟩ := e
        obtain ⟨p', hp', h⟩ := Result.foldlM_cons_eq_ok_iff.mp h
        rw [ih h]
        dsimp only at hp'
        split at hp'
        next hkept =>
          obtain ⟨-, -, rfl⟩ := Result.map_ok hp'
          simp [keptIn, hkept, Fields.names]
        next hkept =>
          cases hp'
          simp [keptIn, hkept, Fields.names]
  next hobject =>
    cases h
    rw [keptIn, List.map_nil, List.append_nil]
    exact hobject

/-- A stage selects the columns of its group and then the fields that it keeps, behind what was selected before. -/
theorem selection_after_outputs {v : Json} (h : s.after v = .ok t) :
    ∃ os, t.outputs = s.outputs ++ (os ++ (keptFields v).map .field) ∧ (∀ o ∈ os, ∀ name, o ≠ .field name) ∧
      (os = [] ↔ ∀ e ∈ groupEntries (v.get? "$group"), selectsColumn e.1 e.2 = false) := by
  obtain ⟨p, q, hp, hq, rfl⟩ := selection_after_ok h
  obtain ⟨os, hadds, hempty⟩ := group_adds hp
  refine ⟨os, ?_, hadds.not_field, hempty⟩
  have houtputs : p.outputs = s.outputs ++ os := hadds.outputs
  show q.outputs = _
  rw [project_outputs hq, houtputs, List.append_assoc, keptFields]

/-- A column that is one of some fields. -/
def IsFieldIn (fields : List String) (o : Output) : Prop := ∃ f ∈ fields, o = .field f

/-- A stage adds nothing but some of the fields. -/
def KeepsTo (fields : List String) (stage : Json) : Prop :=
  (∀ e ∈ groupEntries (stage.get? "$group"), selectsColumn e.1 e.2 = false) ∧ keptFields stage ⊆ fields

theorem forall_isFieldIn_after {v : Json} (h : s.after v = .ok t) :
    (∀ o ∈ t.outputs, IsFieldIn fields o) ↔ (∀ o ∈ s.outputs, IsFieldIn fields o) ∧ KeepsTo fields v := by
  obtain ⟨os, houtputs, hnot, hempty⟩ := selection_after_outputs h
  have hos : (∀ o ∈ os, IsFieldIn fields o) ↔ os = [] := by
    constructor
    · intro hos
      refine List.eq_nil_iff_forall_not_mem.mpr fun o ho => ?_
      obtain ⟨f, -, rfl⟩ := hos o ho
      exact hnot _ ho f rfl
    · rintro rfl
      exact List.forall_mem_nil _
  have hkept : (∀ o ∈ (keptFields v).map .field, IsFieldIn fields o) ↔ keptFields v ⊆ fields := by
    simp [IsFieldIn, List.subset_def]
  rw [houtputs, List.forall_mem_append, List.forall_mem_append, hos, hkept, hempty, KeepsTo]

/-- A run of stages selects some fields alone just if each of its stages adds nothing else. -/
theorem forall_isFieldIn_run (h : stages.foldlM Selection.after s = .ok t) :
    (∀ o ∈ t.outputs, IsFieldIn fields o) ↔
      (∀ o ∈ s.outputs, IsFieldIn fields o) ∧ ∀ v ∈ stages, KeepsTo fields v := by
  induction stages generalizing s with
  | nil =>
      cases h
      simp
  | cons v rest ih =>
      obtain ⟨u, hu, h⟩ := Result.foldlM_cons_eq_ok_iff.mp h
      rw [ih h, forall_isFieldIn_after hu, List.forall_mem_cons, and_assoc]

theorem compile_isFieldIn (h : compile schema stages = .ok p) :
    (∀ o ∈ p.outputs, IsFieldIn fields o) ↔ ∀ v ∈ stages, KeepsTo fields v :=
  (forall_isFieldIn_run (compile_selection h)).trans (and_iff_right (List.forall_mem_nil _))

theorem number_eq_sqlName_iff {o : Output} {name : String} : o.template.number 1 = sqlName name ↔ o = .field name := by
  rcases o with _ | ⟨_ | _, _⟩ | _ | _ <;>
    simp [Output.template, GroupKey.template, Sql.words, Sql.named, Template.number, sqlName]

theorem lastKept_eq_nil (h : ∀ v ∈ stages, keptFields v = []) : lastKept stages = [] := by
  have hnone : (stages.map keptFields).filter (!·.isEmpty) = [] := by
    simpa [List.filter_eq_nil_iff] using h
  rw [lastKept, hnone]
  rfl

/-- Where fields are kept, there are columns. -/
theorem outputs_ne_nil (h : compile schema stages = .ok p) (hkept : lastKept stages ≠ []) : p.outputs ≠ [] := by
  intro hnil
  have hnone : ∀ v ∈ stages, KeepsTo [] v := (compile_isFieldIn h).mp (hnil ▸ List.forall_mem_nil _)
  exact hkept (lastKept_eq_nil fun v hv => List.subset_nil.mp (hnone v hv).2)

/-- The statement of a pipeline with a projection selects the fields that the last one keeps alone just if there are no
groups that select anything and no projection before it keeps other fields. -/
theorem selectList_iff (h : compile schema stages = .ok p) (hkept : lastKept stages ≠ []) :
    (∀ item ∈ p.selectList, ∃ f ∈ lastKept stages, item = sqlName f) ↔ ∀ v ∈ stages, KeepsTo (lastKept stages) v := by
  have hsome : p.outputs ≠ [] := outputs_ne_nil h hkept
  rw [← compile_isFieldIn h, selectList, orAll, List.isEmpty_map, if_neg (by simpa using hsome), List.forall_mem_map]
  simp only [number_eq_sqlName_iff, IsFieldIn]

end Pipeline

/-! ## Keys of searches -/

section Keys

variable {schema : Schema} {search : Option TextSearch} {key : String} {keys : List String}

/-- What a key asks for: the lists of who may read and write, how well a text matches, or a field. -/
inductive Requested (search : Option TextSearch) : String → Fragment → Prop
  | readers : Requested search "ACL" (sqlName "_rperm")
  | writers : Requested search "ACL" (sqlName "_wperm")
  | score (text : TextSearch) (h : search = some text) (next : Nat) :
      Requested search "$score" (Template.number next text.rank)
  | field (key : String) (hacl : key ≠ "ACL") (hscore : key ≠ "$score") : Requested search key (sqlName key)

/-- Whether there is anything to return for a key. -/
def isReturned (schema : Schema) (search : Option TextSearch) (key : String) : Bool :=
  if key = "ACL" then true
  else if key = "$score" then search.isSome
  else key ≠ "" && isSelectable schema key

theorem keyColumns_requested {ts : List Template} (h : keyColumns schema search key = .ok ts) :
    (∀ t ∈ ts, ∀ next, Requested search key (Template.number next t)) ∧
      (ts = [] ↔ isReturned schema search key = false) := by
  unfold keyColumns at h
  unfold isReturned
  split at h
  next hacl =>
    cases h
    subst hacl
    refine ⟨fun t ht next => ?_, by simp⟩
    rcases List.mem_pair.mp ht with rfl | rfl
    · exact .readers
    · exact .writers
  next hacl =>
    rw [if_neg hacl]
    split at h
    next hscore =>
      cases h
      subst hscore
      rw [if_pos rfl]
      refine ⟨fun t ht next => ?_, by cases search <;> simp⟩
      obtain ⟨text, htext, rfl⟩ := Option.map_eq_some_iff.mp (Option.mem_toList.mp ht)
      exact .score text htext next
    next hscore =>
      rw [if_neg hscore]
      split at h
      next hempty =>
        cases h
        exact ⟨List.forall_mem_nil _, by simp [hempty]⟩
      next hempty =>
        split at h
        next hselectable =>
          obtain ⟨-, -, rfl⟩ := Result.map_ok h
          refine ⟨fun t ht next => ?_, by simp [hempty, hselectable]⟩
          rw [List.mem_singleton.mp ht]
          exact .field key hacl hscore
        next hselectable =>
          cases h
          exact ⟨List.forall_mem_nil _, by simp [hselectable]⟩

theorem selectColumns_requested {ts : List Template} (h : selectColumns schema search keys = .ok ts) :
    (∀ t ∈ ts, ∀ next, ∃ key ∈ keys, Requested search key (Template.number next t)) ∧
      (ts = [] ↔ ∀ key ∈ keys, isReturned schema search key = false) := by
  obtain ⟨tss, htss, rfl⟩ := Result.map_ok h
  have hkeys := Result.mapM_eq_ok_iff.mp htss
  clear htss h
  induction hkeys with
  | nil => simp
  | cons hkey _ ih =>
      obtain ⟨hfirst, hfirst'⟩ := keyColumns_requested hkey
      obtain ⟨hrest, hrest'⟩ := ih
      rw [List.flatten_cons]
      constructor
      · intro t ht next
        rcases List.mem_append.mp ht with ht | ht
        · exact ⟨_, .head _, hfirst t ht next⟩
        · obtain ⟨key, hkey, hrequested⟩ := hrest t ht next
          exact ⟨key, .tail _ hkey, hrequested⟩
      · rw [List.append_eq_nil_iff, List.forall_mem_cons, hfirst', hrest']

theorem not_requested_all : ¬ Requested search key (sqlText "*") := by
  intro h
  generalize hitem : sqlText "*" = item at h
  cases h with
  | score text _ next =>
      have hhead : "*" = "ts_rank_cd(" := Sql.Token.text.inj (List.cons.inj hitem).1
      exact absurd hhead (by decide)
  | _ => simp [sqlText, sqlName] at hitem

/-- A search returns what its keys ask for alone just if there is anything to return for one of them. -/
theorem requested_orAll_iff {ts : List Template} (h : selectColumns schema search keys = .ok ts) (b : Bindings) :
    (∀ item ∈ orAll (b.writeAll ts).1, ∃ key ∈ keys, Requested search key item) ↔
      ∃ key ∈ keys, isReturned schema search key = true := by
  obtain ⟨hrequested, hempty⟩ := selectColumns_requested h
  -- Where there are no columns all of them are returned, which no key asks for.
  have hreturned : (∃ key ∈ keys, isReturned schema search key = true) ↔ ts ≠ [] := by
    rw [ne_eq, hempty]
    push Not
    simp only [ne_eq, Bool.not_eq_false]
  rw [hreturned]
  cases ts with
  | nil =>
      refine iff_of_false (fun hall => ?_) (fun hnone => hnone rfl)
      obtain ⟨key, -, hkey⟩ := hall (sqlText "*") (.head _)
      exact not_requested_all hkey
  | cons t ts =>
      refine iff_of_true (fun item hitem => ?_) (List.cons_ne_nil t ts)
      obtain ⟨u, hu, next, rfl⟩ := Bindings.mem_writeAll hitem
      exact hrequested u hu next

/-- What stands in front of the columns of a search. -/
def startOf (options : FindOptions) : String :=
  (if options.explain then "EXPLAIN (ANALYZE, FORMAT JSON) " else "") ++ "SELECT "

/-- The statement of a search: what it returns, from the columns that its keys stand for. -/
theorem find_sql {now : Time.Instant} {query : Document} {options : FindOptions} {s : Statement}
    (h : find schema now query options = .ok s) :
    ∃ p b ts rest, predicate ⟨schema, options.ignoreCase, now⟩ query .empty = (.ok p, b) ∧
      selectColumns schema p.search (options.keys.getD []) = .ok ts ∧
      s.sql = .text (startOf options) :: Sql.joinFragments ", " (orAll (b.writeAll ts).1) ++
        .text " FROM " :: .name schema.className :: rest := by
  unfold find at h
  generalize hr : predicate ⟨schema, options.ignoreCase, now⟩ query .empty = r at h
  obtain ⟨r, b⟩ := r
  obtain ⟨p, hp, h⟩ := Result.bind_ok h
  obtain ⟨ts, hts, h⟩ := Result.bind_ok h
  obtain ⟨order, -, h⟩ := Result.bind_ok h
  cases h
  subst hp
  let limit := (b.writeAll ts).2.write (countClause " LIMIT " options.limit)
  let offset := limit.2.write (countClause " OFFSET " options.skip)
  refine ⟨p, b, ts, p.whereClause ++ clauseOf " ORDER BY " order ++ limit.1 ++ offset.1, rfl, hts, ?_⟩
  simp only [sqlText, sqlName, startOf, List.cons_append, List.nil_append, List.append_assoc]
  rfl

end Keys

/-- What is returned is what was asked for: after a projection, if no stage groups and none before it keeps other fields;
for the keys of a search, if there is anything to return for one of them. Otherwise there are other columns too. -/
theorem select_requested_iff (schema : Schema) :
    (∀ {stages : List Json} {p : Pipeline}, Pipeline.compile schema stages = .ok p →
      Pipeline.lastKept stages ≠ [] →
        (p.statement schema).sql = .text "SELECT " :: Sql.joinFragments ", " p.selectList ++
          .text " FROM " :: .name schema.className :: clauseOf " WHERE " p.filter.toList ++
          clauseOf " GROUP BY " p.groupList ++ clauseOf " ORDER BY " p.order ++ p.limit ++ p.offset ∧
        ((∀ item ∈ p.selectList, ∃ f ∈ Pipeline.lastKept stages, item = sqlName f) ↔
          ∀ v ∈ stages, Pipeline.KeepsTo (Pipeline.lastKept stages) v)) ∧
    ∀ {now : Time.Instant} {query : Document} {options : FindOptions} {keys : List String} {s : Statement},
      options.keys = some keys → find schema now query options = .ok s →
        ∃ p b columns rest, predicate ⟨schema, options.ignoreCase, now⟩ query .empty = (.ok p, b) ∧
          selectColumns schema p.search keys = .ok columns ∧
          s.sql = .text (startOf options) :: Sql.joinFragments ", " (orAll (b.writeAll columns).1) ++
            .text " FROM " :: .name schema.className :: rest ∧
          ((∀ item ∈ orAll (b.writeAll columns).1, ∃ key ∈ keys, Requested p.search key item) ↔
            ∃ key ∈ keys, isReturned schema p.search key = true) := by
  constructor
  · intro stages p h hkept
    exact ⟨Pipeline.statement_sql p schema, Pipeline.selectList_iff h hkept⟩
  · intro now query options keys s hkeys h
    obtain ⟨p, b, columns, rest, hp, hcolumns, hsql⟩ := find_sql h
    rw [hkeys] at hcolumns
    exact ⟨p, b, columns, rest, hp, hcolumns, hsql, requested_orAll_iff hcolumns b⟩

/-- A projection behind an order. -/
def orderedTitles : List Json :=
  [.object [("$sort", .object [("title", .int 1)])], .object [("$project", .object [("title", .int 1)])]]

/-- A search for titles and for a field that is not there. -/
def titlesOnly : FindOptions := { FindOptions.default with keys := some ["title", "other"] }

theorem select_requested_iff_titles :
    (∃ p, Pipeline.compile Pipeline.titledPosts orderedTitles = .ok p ∧
      ∀ item ∈ p.selectList, ∃ f ∈ ["title"], item = sqlName f) ∧
    ∀ now, ∃ s, find Pipeline.titledPosts now [] titlesOnly = .ok s ∧ s.text = "SELECT \"title\" FROM \"Post\"" ∧
      ∃ columns, selectColumns Pipeline.titledPosts none ["title", "other"] = .ok columns ∧
        ∀ item ∈ orAll (Bindings.empty.writeAll columns).1, ∃ key ∈ ["title", "other"], Requested none key item := by
  constructor
  · obtain ⟨p, hp⟩ : ∃ p, Pipeline.compile Pipeline.titledPosts orderedTitles = .ok p := ⟨_, rfl⟩
    have hkept : Pipeline.lastKept orderedTitles = ["title"] := rfl
    have hiff := ((select_requested_iff Pipeline.titledPosts).1 hp (hkept ▸ List.cons_ne_nil _ _)).2
    rw [hkept] at hiff
    refine ⟨p, hp, hiff.mpr fun v hv => ?_⟩
    rcases List.mem_pair.mp hv with rfl | rfl
    · exact ⟨List.forall_mem_nil _, List.nil_subset _⟩
    · exact ⟨List.forall_mem_nil _, List.Subset.refl ["title"]⟩
  · intro now
    obtain ⟨s, hs, htext⟩ : ∃ s, find Pipeline.titledPosts now [] titlesOnly = .ok s ∧
        s.text = "SELECT \"title\" FROM \"Post\"" := ⟨_, rfl, rfl⟩
    obtain ⟨p, b, columns, rest, hp, hcolumns, -, hiff⟩ := (select_requested_iff Pipeline.titledPosts).2 rfl hs
    have hall : predicate ⟨Pipeline.titledPosts, titlesOnly.ignoreCase, now⟩ [] .empty =
        (.ok ⟨[], [], none⟩, .empty) := rfl
    cases hall.symm.trans hp
    exact ⟨s, hs, htext, columns, hcolumns, hiff.mpr ⟨"title", .head _, rfl⟩⟩

def twoProjections : List Json :=
  [.object [("$project", .object [("title", .int 1)])], .object [("$project", .object [("likes", .int 1)])]]

/-- A second projection adds to the first, and keys that nothing is returned for stand for all columns. -/
theorem select_beyond_request :
    (∃ p, Pipeline.compile Pipeline.titledPosts twoProjections = .ok p ∧
      Pipeline.lastKept twoProjections = ["likes"] ∧ p.selectList = [sqlName "title", sqlName "likes"] ∧
      (p.statement Pipeline.titledPosts).text = "SELECT \"title\", \"likes\" FROM \"Post\"") ∧
    ∀ now, ∃ s, find Pipeline.titledPosts now [] { FindOptions.default with keys := some ["other"] } = .ok s ∧
      s.text = "SELECT * FROM \"Post\"" :=
  ⟨⟨_, rfl, rfl, rfl, rfl⟩, fun _ => ⟨_, rfl, rfl⟩⟩

end Docstore.Query
