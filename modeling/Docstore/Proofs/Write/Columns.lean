import Docstore.Proofs.Write.Agreement
import Docstore.Proofs.Write.Expansion
import Docstore.Proofs.Write.Merging
import Mathlib.Data.List.Induction

/-!
# Columns of updates

Which columns an update assigns, read off the assignments' texts. Every key leads to one column, and no column is
assigned twice (`update_assigns_columns`).
-/

namespace Docstore

namespace Write

/-! ## Names of documents -/

theorem eraseDups_of_nodup {names : List String} (h : names.Nodup) : names.eraseDups = names := by
  induction names with
  | nil => rfl
  | cons name names ih =>
      obtain ⟨hname, hrest⟩ := List.nodup_cons.mp h
      have hfilter : names.filter (fun other => !other == name) = names := by
        refine List.filter_eq_self.mpr fun other hother => ?_
        have hne : other ≠ name := fun heq => hname (heq ▸ hother)
        simpa using hne
      rw [List.eraseDups_cons, hfilter, ih hrest]

theorem eraseDups_concat (names : List String) (name : String) :
    (names ++ [name]).eraseDups = if name ∈ names then names.eraseDups else names.eraseDups ++ [name] := by
  rw [List.eraseDups_append]
  by_cases hname : name ∈ names
  · simp [List.removeAll, hname]
  · simp [List.removeAll, hname, List.eraseDups_cons]

/-- The part of a key in front of its first point. -/
def firstPiece (key : String) : String := (Text.pieces '.' key).headD key

theorem firstPiece_of_undotted {key : String} (h : hasPoint key = false) : firstPiece key = key := by
  rw [firstPiece, pieces_of_undotted h]
  rfl

theorem firstPiece_of_cutKey? {key root sub : String} (h : cutKey? key = some (root, sub)) : firstPiece key = root := by
  rw [firstPiece, pieces_of_cutKey? h]
  rfl

theorem names_nest {e : String × Json} (h : hasPoint e.1 = true) (out : Document) :
    Fields.names (nest out e) =
      if firstPiece e.1 ∈ Fields.names out then Fields.names out else Fields.names out ++ [firstPiece e.1] := by
  obtain ⟨root, sub, hcut⟩ := exists_cutKey? h
  rw [nest_eq hcut, firstPiece_of_cutKey? hcut, Fields.names_insert]

/-- Entries with points add the fields that they write to, unless they are there. -/
theorem names_foldl_nest {out entries : Document} (hout : (Fields.names out).Nodup)
    (h : ∀ e ∈ entries, hasPoint e.1 = true) :
    Fields.names (entries.foldl nest out) = (Fields.names out ++ entries.map fun e => firstPiece e.1).eraseDups := by
  induction entries using List.reverseRecOn with
  | nil => rw [List.foldl_nil, List.map_nil, List.append_nil, eraseDups_of_nodup hout]
  | append_singleton entries e ih =>
      obtain ⟨hentries, he⟩ := List.forall_mem_append.mp h
      rw [List.foldl_append, List.foldl_cons, List.foldl_nil, names_nest (he e (.head _)), ih hentries,
        List.map_append, ← List.append_assoc, List.map_singleton, eraseDups_concat]
      simp only [List.mem_eraseDups]

/-- The fields that a document's entries write to: those of keys without points come first. -/
def topKeys (object : Document) : List String :=
  ((object.filter fun e => !hasPoint e.1) ++ object.filter fun e => hasPoint e.1).map
    (fun e => firstPiece e.1) |>.eraseDups

theorem mem_topKeys {object : Document} {key : String} :
    key ∈ topKeys object ↔ ∃ e ∈ object, firstPiece e.1 = key := by
  rw [topKeys, List.mem_eraseDups, List.mem_map]
  refine exists_congr fun e => and_congr_left' ?_
  cases h : hasPoint e.1 <;> simp [h]

theorem names_expandDots {object : Document} (h : (Fields.names object).Nodup) :
    Fields.names (expandDots object) = topKeys object := by
  have hplain : (object.filter fun e => !hasPoint e.1).map (fun e => firstPiece e.1) =
      Fields.names (object.filter fun e => !hasPoint e.1) := by
    refine List.map_congr_left fun e he => firstPiece_of_undotted ?_
    simpa using (List.mem_filter.mp he).2
  rw [expandDots_eq, names_foldl_nest (Fields.nodup_filter _ h) fun e he => (List.mem_filter.mp he).2, topKeys,
    List.map_append, hplain]

/-! ## Providers of auth data -/

theorem eq_of_authDataProvider? {key provider : String} (h : authDataProvider? key = some provider) :
    key = "_auth_data_" ++ provider := by
  unfold authDataProvider? at h
  split at h
  next hafter =>
    split at h
    next =>
      cases h
      exact Text.after?_eq_some_iff.mp hafter
    next => cases h
  next => cases h

theorem names_providers (object : Document) :
    Fields.names (object.filterMap fun (key, value) => (authDataProvider? key).map (·, value)) =
      (Fields.names object).filterMap authDataProvider? := by
  rw [Fields.names, List.map_filterMap, Fields.names, List.filterMap_map]
  refine List.filterMap_congr fun e _ => ?_
  dsimp only [Function.comp_apply]
  cases authDataProvider? e.1 <;> rfl

theorem providersOf_eq {object : Document} (h : (Fields.names object).Nodup) :
    providersOf object = object.filterMap fun (key, value) => (authDataProvider? key).map (·, value) := by
  refine Fields.ofPairs_of_nodup ?_
  have hnames := names_providers object
  rw [Fields.names] at hnames
  rw [hnames]
  refine h.filterMap fun key key' provider hkey hkey' => ?_
  rw [eq_of_authDataProvider? hkey, eq_of_authDataProvider? hkey']

theorem isEmpty_providersOf {object : Document} (h : (Fields.names object).Nodup) :
    (providersOf object).isEmpty = !(Fields.names object).any fun key => (authDataProvider? key).isSome := by
  have hnames := names_providers object
  rw [Fields.names] at hnames
  rw [providersOf_eq h, ← List.isEmpty_map (f := Prod.fst), hnames, Bool.eq_iff_iff]
  simp

/-! ## Columns of keys -/

/-- The columns that the fields of an expanded document are kept in: those of auth data have one, which comes first. -/
def columnsOf (keys : List String) : List String :=
  if keys.any fun key => (authDataProvider? key).isSome then
    "authData" :: keys.filter fun key => key != "authData" && (authDataProvider? key).isNone
  else keys

theorem mem_columnsOf {keys : List String} {column : String} :
    column ∈ columnsOf keys ↔
      ∃ key ∈ keys, (if (authDataProvider? key).isSome then "authData" else key) = column := by
  rw [columnsOf]
  split
  next hany =>
    obtain ⟨provided, hprovided, hprovider⟩ := List.any_eq_true.mp hany
    rw [List.mem_cons, List.mem_filter]
    constructor
    · rintro (rfl | ⟨hmem, hcolumn⟩)
      · exact ⟨provided, hprovided, if_pos hprovider⟩
      · have hnone : authDataProvider? column = none := by simpa using (Bool.and_eq_true_iff.mp hcolumn).2
        exact ⟨column, hmem, by simp [hnone]⟩
    · rintro ⟨key, hkey, rfl⟩
      by_cases hauth : (authDataProvider? key).isSome ∨ key = "authData"
      · exact .inl (by rcases hauth with h | rfl <;> simp [*])
      · rw [not_or, Bool.not_eq_true, Option.isSome_eq_false_iff] at hauth
        refine .inr ?_
        rw [Option.isNone_iff_eq_none] at hauth
        simpa [hauth.1, hauth.2] using hkey
  next hnone =>
    rw [List.any_eq_true, not_exists] at hnone
    constructor
    · exact fun hmem => ⟨column, hmem, if_neg fun hprovider => hnone column ⟨hmem, hprovider⟩⟩
    · rintro ⟨key, hkey, rfl⟩
      rwa [if_neg fun hprovider => hnone key ⟨hkey, hprovider⟩]

/-- The column that a key leads to. -/
def columnOf (key : String) : String :=
  if (authDataProvider? (firstPiece key)).isSome then "authData" else firstPiece key

theorem mem_columnsOf_topKeys {object : Document} {column : String} :
    column ∈ columnsOf (topKeys object) ↔ ∃ e ∈ object, columnOf e.1 = column := by
  rw [mem_columnsOf]
  constructor
  · rintro ⟨key, hkey, rfl⟩
    obtain ⟨e, he, rfl⟩ := mem_topKeys.mp hkey
    exact ⟨e, he, rfl⟩
  · rintro ⟨e, he, rfl⟩
    exact ⟨firstPiece e.1, mem_topKeys.mpr ⟨e, he, rfl⟩, rfl⟩

theorem names_foldAuthDataFirst {object : Document} (h : (Fields.names object).Nodup) :
    Fields.names (foldAuthDataFirst object) = columnsOf (Fields.names object) := by
  rw [foldAuthDataFirst, columnsOf]
  dsimp only
  rw [isEmpty_providersOf h]
  by_cases hprovider : ((Fields.names object).any fun key => (authDataProvider? key).isSome) = true
  · have hrest := Fields.names_filter (fun key => (authDataProvider? key).isNone) object
    have herased : Fields.names (Fields.erase "authData" (object.filter fun e => (authDataProvider? e.1).isNone)) =
        (Fields.names object).filter fun key => key != "authData" && (authDataProvider? key).isNone := by
      rw [Fields.names_erase, hrest, (h.filter _).erase_eq_filter, List.filter_filter]
    rw [hprovider, if_neg (by decide), if_pos rfl, ← herased]
    rfl
  · rw [Bool.not_eq_true] at hprovider
    rw [hprovider, if_pos (by decide), if_neg (by decide)]

/-! ## Entries that assign nothing -/

/-- Whether an entry is about another table, or no value that auth data can have. -/
def isLeftOut (column : String) (value : Json) : Bool :=
  if column = "authData" then !value.isNull && !value.isObject
  else match value.operation? with
    | some operation => operation ∈ ["AddRelation", "RemoveRelation", "Batch"]
    | none => value.typeTag? = some "Relation"

/-- A result that, if there is one, is an action just where it should be. -/
def Acts (r : Result (Option Action)) (acts : Bool) : Prop := ∀ a, r = .ok a → a.isSome = acts

namespace Acts

theorem some (a : Action) : Acts (.ok (Option.some a)) true := by
  rintro b hb
  cases hb
  rfl

theorem none : Acts (.ok Option.none) false := by
  rintro b hb
  cases hb
  rfl

theorem fail (c : Cause) (acts : Bool) : Acts (Docstore.fail c) acts := by
  rintro b hb
  cases hb

theorem map {α : Type} (r : Result α) (f : α → Action) : Acts (r.map fun x => Option.some (f x)) true := by
  intro b hb
  obtain ⟨x, -, rfl⟩ := Result.map_ok hb
  rfl

end Acts

theorem setAction_acts (update : Document) (column : String) (type : Option FieldType) (value : Json) :
    Acts (setAction update column type value) (value.typeTag? ≠ some "Relation") := by
  unfold setAction
  extract_lets plain
  have hplain : Acts plain true := by
    unfold plain
    split
    · split
      · exact .some _
      · exact .fail _ _
    · split
      · exact .map _ _
      split
      · exact .some _
      · exact .fail _ _
    · exact .some _
    · split
      · exact .map _ _
      · exact .map _ _
      · exact .some _
  split
  next htag => simpa [htag] using Acts.some _
  next htag => simpa [htag] using Acts.some _
  next htag => simpa [htag] using Acts.map _ _
  next htag => simpa [htag] using Acts.map _ _
  next htag => simpa [htag] using Acts.map _ _
  next htag => simpa [htag] using Acts.none
  next htag =>
    rw [htag]
    split
    · exact .some _
    · exact hplain
  next hrelation _ => rwa [decide_eq_true (p := value.typeTag? ≠ Option.some "Relation") hrelation]

theorem actionOf_acts (schema : Schema) (update : Document) (column : String) (value : Json) :
    Acts (actionOf schema update column value) (!isLeftOut column value) := by
  unfold actionOf isLeftOut
  dsimp only
  cases hnull : value.isNull with
  | true =>
      have hop : value.operation? = none := by cases value <;> first | rfl | cases hnull
      have htag : value.typeTag? = none := by cases value <;> first | rfl | cases hnull
      simpa [hop, htag] using Acts.some Action.clear
  | false =>
      rw [if_neg Bool.false_ne_true]
      by_cases hauth : column = "authData"
      · rw [if_pos hauth, if_pos hauth]
        split
        · exact .some _
        next hobject =>
          have hvalue : value.isObject = false := by
            cases value with
            | object fields => exact absurd rfl (hobject fields)
            | _ => rfl
          simpa [hvalue] using Acts.none
      · rw [if_neg hauth, if_neg hauth]
        split
        next hop =>
          simpa [hop] using setAction_acts update column _ value
        next hop => simpa [hop] using Acts.some _
        next hop => simpa [hop] using Acts.map (listAction _ column .add value) id
        next hop => simpa [hop] using Acts.map (listAction _ column .addUnique value) id
        next hop => simpa [hop] using Acts.map (listAction _ column .remove value) id
        next hop => simpa [hop] using Acts.some _
        next hop => simpa [hop] using Acts.none
        next hop => simpa [hop] using Acts.none
        next hop => simpa [hop] using Acts.none
        · exact .fail _ _

theorem columns_assignmentsOf {schema : Schema} {whole entries : Document} {as : List Assignment}
    (h : assignmentsOf schema whole entries = .ok as) :
    as.map (·.column) = Fields.names (entries.filter fun e => !isLeftOut e.1 e.2) := by
  induction entries generalizing as with
  | nil =>
      cases h
      rfl
  | cons e entries ih =>
      obtain ⟨action, haction, h⟩ := Result.bind_ok h
      obtain ⟨others, hothers, h⟩ := Result.bind_ok h
      cases h
      have hacts := actionOf_acts schema whole e.1 e.2 action haction
      cases action with
      | none => simpa [← hacts] using ih hothers
      | some action => simpa [← hacts, Fields.names] using ih hothers

/--
An update assigns each column once: those that its keys lead to, in the order of the expanded document with the column
of folded auth data first, but for the entries that assign nothing.
-/
theorem update_assigns_columns {schema : Schema} {changes : Document} {u : Update}
    (hnodup : (Fields.names changes).Nodup) (hu : update schema changes = .ok u) :
    ∃ columns : List String,
      u.sets.map (fun set => Sql.assignedColumn? (Sql.render set)) = columns.map some ∧ columns.Nodup ∧
      columns = Fields.names ((foldAuthDataFirst (expandDots changes)).filter fun e => !isLeftOut e.1 e.2) ∧
      Fields.names (foldAuthDataFirst (expandDots changes)) = columnsOf (topKeys changes) ∧
      ∀ column, column ∈ columnsOf (topKeys changes) ↔ ∃ e ∈ changes, columnOf e.1 = column := by
  obtain ⟨as, has, rfl⟩ := Result.map_ok hu
  have hsets : (Update.mk as).sets.map (fun set => Sql.assignedColumn? (Sql.render set)) =
      as.map fun a => some a.column := by
    have hread := (Update.holds_sets (update_hasCast hu)).imp fun a set hset => hset.1.symm
    rw [← List.forall₂_map_right_iff, ← List.forall₂_map_left_iff, List.forall₂_eq_eq_eq] at hread
    exact hread.symm
  have hdocument : (Fields.names (foldAuthDataFirst (expandDots changes))).Nodup :=
    nodup_foldAuthDataFirst (nodup_expandDots hnodup)
  refine ⟨as.map (·.column), ?_, ?_, columns_assignmentsOf has, ?_, fun _ => mem_columnsOf_topKeys⟩
  · rw [hsets, List.map_map]
    rfl
  · rw [columns_assignmentsOf has]
    exact Fields.nodup_filter _ hdocument
  · rw [names_foldAuthDataFirst (nodup_expandDots hnodup), names_expandDots hnodup]

def mixedChanges : Document :=
  [("author", .null), ("fans", .object [Json.tagged "__op" "AddRelation", ("objects", .array [])]),
    ("meta.a", .int 1), ("_auth_data_mail", .object [("id", .string "m")]), ("meta.b.c", .int 2)]

theorem update_assigns_columns_mixed :
    ∃ u, update notes mixedChanges = .ok u ∧
      u.sets.map (fun set => Sql.assignedColumn? (Sql.render set)) = [some "authData", some "author", some "meta"] := by
  obtain ⟨u, hu⟩ : ∃ u, update notes mixedChanges = .ok u := ⟨_, rfl⟩
  obtain ⟨columns, hsets, -, rfl, -⟩ := update_assigns_columns (by decide) hu
  exact ⟨u, hu, hsets⟩

end Write

end Docstore
