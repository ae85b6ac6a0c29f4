import Docstore.Proofs.Json.Order
import Docstore.Proofs.Query.Presence
import Docstore.Proofs.Results
import Docstore.Write.Update
import Mathlib.Data.List.Nodup

/-!
# Keys with points

What becomes of an update's keys with points on the way to assignments. Keys into a field make one object of its
own (`get?_expandDots`), which its one assignment gets.
-/

namespace Docstore.Write

/-! ## Keys cut at the first point -/

theorem cut?_eq_some_iff {sep : Char} {cs before after : List Char} :
    Text.cut? sep cs = some (before, after) ↔ cs = before ++ sep :: after ∧ sep ∉ before := by
  induction cs generalizing before with
  | nil => simp [Text.cut?]
  | cons c cs ih =>
      rw [Text.cut?]
      split
      next hc =>
        subst hc
        constructor
        · intro h
          cases h
          exact ⟨rfl, List.not_mem_nil⟩
        · rintro ⟨h, hbefore⟩
          cases before with
          | nil =>
              cases h
              rfl
          | cons b before =>
              cases h
              exact absurd (.head _) hbefore
      next hc =>
        rw [Option.map_eq_some_iff]
        constructor
        · rintro ⟨⟨before', after'⟩, h, heq⟩
          cases heq
          obtain ⟨rfl, hbefore⟩ := ih.mp h
          exact ⟨rfl, List.not_mem_cons_of_ne_of_not_mem (Ne.symm hc) hbefore⟩
        · rintro ⟨h, hbefore⟩
          cases before with
          | nil =>
              cases h
              exact absurd rfl hc
          | cons b before =>
              cases h
              exact ⟨(before, after), ih.mpr ⟨rfl, fun hmem => hbefore (.tail _ hmem)⟩, rfl⟩

theorem hasPoint_eq_false_iff {key : String} : hasPoint key = false ↔ '.' ∉ key.toList := by
  simp [hasPoint]

theorem cutKey?_eq_some_iff {key root sub : String} :
    cutKey? key = some (root, sub) ↔ key = root ++ "." ++ sub ∧ hasPoint root = false := by
  have htext : key = root ++ "." ++ sub ↔ key.toList = root.toList ++ '.' :: sub.toList := by
    rw [← String.toList_inj]
    simp
  rw [htext, hasPoint_eq_false_iff, ← cut?_eq_some_iff, cutKey?, Option.map_eq_some_iff]
  constructor
  · rintro ⟨⟨before, after⟩, h, heq⟩
    cases heq
    simpa using h
  · exact fun h => ⟨_, h, by simp⟩

theorem pieces_of_cutKey? {key root sub : String} (h : cutKey? key = some (root, sub)) :
    Text.pieces '.' key = root :: Text.pieces '.' sub := by
  obtain ⟨rfl, hroot⟩ := cutKey?_eq_some_iff.mp h
  have hchars : (root ++ "." ++ sub).toList = root.toList ++ '.' :: sub.toList := by simp
  rw [Text.pieces, hchars, Text.splitOn_append_cons (hasPoint_eq_false_iff.mp hroot), List.map_cons,
    String.ofList_toList, Text.pieces]

theorem pieces_of_undotted {key : String} (h : hasPoint key = false) : Text.pieces '.' key = [key] := by
  rw [Text.pieces, Text.splitOn_of_not_mem (hasPoint_eq_false_iff.mp h), List.map_singleton, String.ofList_toList]

theorem pieces_ne_nil (key : String) : Text.pieces '.' key ≠ [] := by
  simp [Text.pieces, Text.splitOn_ne_nil]

theorem exists_cutKey? {key : String} (h : hasPoint key = true) : ∃ root sub, cutKey? key = some (root, sub) := by
  obtain ⟨before, after, hkey, hbefore⟩ := List.eq_append_cons_of_mem (List.contains_iff_mem.mp h)
  refine ⟨String.ofList before, String.ofList after, ?_⟩
  rw [cutKey?, cut?_eq_some_iff.mpr ⟨hkey, hbefore⟩]
  rfl

theorem hasPoint_of_cutKey? {key : String} {cut : String × String} (h : cutKey? key = some cut) :
    hasPoint key = true := by
  by_contra hpoint
  obtain ⟨hkey, -⟩ := cutKey?_eq_some_iff.mp (show cutKey? key = some (cut.1, cut.2) from h)
  refine hasPoint_eq_false_iff.mp (Bool.not_eq_true _ ▸ hpoint) ?_
  simp [hkey]

/-! ## Entries of a field -/

/-- The entries of a document for places in a field, under what stands behind the field's name. -/
def entriesIn (f : String) (object : Document) : Document :=
  object.filterMap fun (key, value) =>
    match cutKey? key with
    | some (root, sub) => if root = f then some (sub, value) else none
    | none => none

section

variable {f : String} {object : Document}

theorem entriesIn_cons (hf : hasPoint f = false) (sub : String) (value : Json) :
    entriesIn f ((f ++ "." ++ sub, value) :: object) = (sub, value) :: entriesIn f object := by
  have hcut : cutKey? (f ++ "." ++ sub) = some (f, sub) := cutKey?_eq_some_iff.mpr ⟨rfl, hf⟩
  exact List.filterMap_cons_some (by simp [hcut])

theorem entriesIn_cons_of_ne {key : String} (h : ∀ sub, key ≠ f ++ "." ++ sub) (value : Json) :
    entriesIn f ((key, value) :: object) = entriesIn f object := by
  refine List.filterMap_cons_none ?_
  dsimp only
  cases hcut : cutKey? key with
  | none => rfl
  | some cut =>
      obtain ⟨root, sub⟩ := cut
      refine if_neg ?_
      rintro rfl
      exact h sub (cutKey?_eq_some_iff.mp hcut).1

theorem names_entriesIn_sublist (hf : hasPoint f = false) :
    ((Fields.names (entriesIn f object)).map (f ++ "." ++ ·)).Sublist (Fields.names object) := by
  induction object with
  | nil => exact .slnil
  | cons e object ih =>
      obtain ⟨key, value⟩ := e
      by_cases hkey : ∃ sub, key = f ++ "." ++ sub
      · obtain ⟨sub, rfl⟩ := hkey
        rw [entriesIn_cons hf]
        exact ih.cons_cons _
      · rw [entriesIn_cons_of_ne (not_exists.mp hkey)]
        exact ih.cons _

theorem mem_names_of_entriesIn (hf : hasPoint f = false) {key : String}
    (hkey : key ∈ Fields.names (entriesIn f object)) : f ++ "." ++ key ∈ Fields.names object :=
  (names_entriesIn_sublist hf).subset (List.mem_map_of_mem hkey)

theorem nodup_entriesIn (hf : hasPoint f = false) (h : (Fields.names object).Nodup) :
    (Fields.names (entriesIn f object)).Nodup :=
  List.Nodup.of_map _ (h.sublist (names_entriesIn_sublist hf))

theorem get?_entriesIn (hf : hasPoint f = false) (sub : String) :
    Fields.get? sub (entriesIn f object) = Fields.get? (f ++ "." ++ sub) object := by
  induction object with
  | nil => rfl
  | cons e object ih =>
      obtain ⟨key, value⟩ := e
      by_cases hkey : ∃ sub', key = f ++ "." ++ sub'
      · obtain ⟨sub', rfl⟩ := hkey
        rw [entriesIn_cons hf, Fields.get?, Fields.get?, ih]
        simp [String.append_right_inj]
      · have hne : key ≠ f ++ "." ++ sub := fun h => hkey ⟨sub, h⟩
        rw [entriesIn_cons_of_ne (not_exists.mp hkey), Fields.get?, if_neg hne, ih]

theorem get?_filter_entriesIn (hf : hasPoint f = false) (hnodup : (Fields.names object).Nodup) (keeps : Json → Bool)
    (key : String) :
    Fields.get? key ((entriesIn f object).filter fun e => keeps e.2) =
      (Fields.get? (f ++ "." ++ key) object).filter keeps := by
  rw [Fields.get?_filter_of_nodup _ (nodup_entriesIn hf hnodup), get?_entriesIn hf]

/-- The operations one step inside a field are those of its entries that go no further. -/
theorem nestedOperations_eq_filter (operation : String) :
    nestedOperations object f operation =
      (entriesIn f object).filter fun e => !hasPoint e.1 && decide (e.2.operation? = some operation) := by
  rw [entriesIn, List.filter_filterMap, nestedOperations]
  refine List.filterMap_congr fun e _ => ?_
  cases hcut : cutKey? e.1 with
  | none => simp [hcut]
  | some cut =>
      obtain ⟨root, sub⟩ := cut
      by_cases hroot : root = f
      · cases hsub : hasPoint sub <;> by_cases hoperation : e.2.operation? = some operation <;>
          simp [hcut, hroot, hsub, hoperation, Option.filter]
      · simp [hcut, hroot]

theorem nestedOperations_eq (operation : String) (h : ∀ e ∈ entriesIn f object, hasPoint e.1 = false) :
    nestedOperations object f operation = (entriesIn f object).filter (·.2.operation? = some operation) := by
  rw [nestedOperations_eq_filter]
  exact List.filter_congr fun e he => by simp [h e he]

theorem any_cutKey? (h : entriesIn f object ≠ []) : (object.any fun e => (cutKey? e.1).any (·.1 = f)) = true := by
  obtain ⟨entry, hentry⟩ := List.exists_mem_of_ne_nil _ h
  obtain ⟨e, he, hsome⟩ := List.mem_filterMap.mp hentry
  refine List.any_eq_true.mpr ⟨e, he, ?_⟩
  cases hcut : cutKey? e.1 with
  | none => simp [hcut] at hsome
  | some cut =>
      have hroot : cut.1 = f := by
        by_contra hne
        simp [hcut, hne] at hsome
      simp [hroot]

/-! ## Nesting -/

/-- Writes an entry whose key has points into a document. -/
def nest (out : Document) (e : String × Json) : Document :=
  fieldsOf (setAt (unlessDelete e.2) (Text.pieces '.' e.1) (.object out))

theorem expandDots_eq (object : Document) :
    expandDots object =
      (object.filter fun e => hasPoint e.1).foldl nest (object.filter fun e => !hasPoint e.1) := rfl

theorem setAt_cons {value : Option Json} {key : String} {path : List String} (h : path ≠ []) (v : Json) :
    setAt value (key :: path) v =
      .object (Fields.insert key (setAt value path ((Fields.get? key (fieldsOf v)).getD (.object [])))
        (fieldsOf v)) := by
  cases path with
  | nil => exact absurd rfl h
  | cons step path => rfl

theorem nest_eq {key root sub : String} (h : cutKey? key = some (root, sub)) (out : Document) (value : Json) :
    nest out (key, value) =
      Fields.insert root (setAt (unlessDelete value) (Text.pieces '.' sub) ((Fields.get? root out).getD (.object [])))
        out := by
  rw [nest, pieces_of_cutKey? h, setAt_cons (pieces_ne_nil sub)]
  rfl

def put (out : Document) (e : String × Json) : Document :=
  match unlessDelete e.2 with
  | some v => Fields.insert e.1 v out
  | none => Fields.erase e.1 out

theorem setAt_singleton (e : String × Json) (v : Json) :
    setAt (unlessDelete e.2) [e.1] v = .object (put (fieldsOf v) e) := by
  unfold put
  cases unlessDelete e.2 <;> rfl

theorem nest_of_undotted {e : String × Json} (h : hasPoint e.1 = false) (out : Document) : nest out e = put out e := by
  rw [nest, pieces_of_undotted h, setAt_singleton]
  rfl

theorem nodup_nest {out : Document} (h : (Fields.names out).Nodup) (e : String × Json) :
    (Fields.names (nest out e)).Nodup := by
  by_cases hpoint : hasPoint e.1 = true
  · obtain ⟨root, sub, hcut⟩ := exists_cutKey? hpoint
    rw [nest_eq hcut]
    exact Fields.nodup_insert h
  · rw [nest_of_undotted (Bool.not_eq_true _ ▸ hpoint), put]
    split
    · exact Fields.nodup_insert h
    · exact Fields.nodup_erase h

theorem nodup_foldl_nest {out : Document} (h : (Fields.names out).Nodup) (entries : Document) :
    (Fields.names (entries.foldl nest out)).Nodup :=
  List.foldlRecOn (motive := fun out => (Fields.names out).Nodup) _ nest h fun _ hout e _ => nodup_nest hout e

theorem nodup_expandDots (h : (Fields.names object).Nodup) : (Fields.names (expandDots object)).Nodup :=
  nodup_foldl_nest (Fields.nodup_filter _ h) _

theorem setAt_object {path : List String} (h : path ≠ []) (value : Option Json) (v : Json) :
    setAt value path v = .object (fieldsOf (setAt value path (.object (fieldsOf v)))) := by
  match path with
  | [] => exact absurd rfl h
  | [key] => cases value <;> rfl
  | key :: next :: path => rfl

/-- What an entry with points writes goes into the object under its root. -/
theorem nest_of_cutKey? {key root sub : String} (h : cutKey? key = some (root, sub)) (out : Document) (value : Json) :
    nest out (key, value) =
      Fields.insert root (.object (nest (fieldsOf ((Fields.get? root out).getD (.object []))) (sub, value))) out := by
  rw [nest_eq h, setAt_object (pieces_ne_nil sub)]
  rfl

theorem get?_nest_of_ne {e : String × Json} (hwhole : e.1 ≠ f) (hinside : ∀ sub, e.1 ≠ f ++ "." ++ sub)
    (out : Document) : Fields.get? f (nest out e) = Fields.get? f out := by
  by_cases hpoint : hasPoint e.1 = true
  · obtain ⟨root, sub, hcut⟩ := exists_cutKey? hpoint
    have hroot : f ≠ root := by
      rintro rfl
      exact hinside sub (cutKey?_eq_some_iff.mp hcut).1
    rw [nest_eq hcut, Fields.get?_insert_of_ne hroot]
  · rw [nest_of_undotted (Bool.not_eq_true _ ▸ hpoint), put]
    split
    · exact Fields.get?_insert_of_ne (Ne.symm hwhole) _ _
    · exact Fields.get?_erase_of_ne (Ne.symm hwhole)

/-- Entries inside a field are nested in the object there, as they are nested in a document. -/
theorem get?_foldl_nest (hf : hasPoint f = false) {entries : Document} (hwhole : f ∉ Fields.names entries)
    (out : Document) :
    Fields.get? f (entries.foldl nest out) =
      if entriesIn f entries = [] then Fields.get? f out
      else some (.object ((entriesIn f entries).foldl nest (fieldsOf ((Fields.get? f out).getD (.object []))))) := by
  induction entries generalizing out with
  | nil => rfl
  | cons e entries ih =>
      obtain ⟨key, value⟩ := e
      obtain ⟨hkey, hrest⟩ := List.ne_and_not_mem_of_not_mem_cons hwhole
      rw [List.foldl_cons, ih hrest]
      -- An entry of another field leaves this one's object alone; one of this field is nested in it.
      by_cases hinside : ∃ sub, key = f ++ "." ++ sub
      · obtain ⟨sub, rfl⟩ := hinside
        have hcut : cutKey? (f ++ "." ++ sub) = some (f, sub) := cutKey?_eq_some_iff.mpr ⟨rfl, hf⟩
        rw [nest_of_cutKey? hcut, Fields.get?_insert_self, entriesIn_cons hf, if_neg (List.cons_ne_nil _ _)]
        split
        next hnil =>
          rw [hnil]
          rfl
        next => rfl
      · rw [entriesIn_cons_of_ne (not_exists.mp hinside), get?_nest_of_ne (Ne.symm hkey) (not_exists.mp hinside)]

/-- Entries of different keys are put one behind the other, without those that ask for a removal. -/
theorem foldl_put {entries : Document} (before : Document) (h : (Fields.names (before ++ entries)).Nodup) :
    entries.foldl put before = before ++ entries.filter (·.2.operation? ≠ some "Delete") := by
  induction entries generalizing before with
  | nil => simp
  | cons e entries ih =>
      have hfresh : e.1 ∉ before.map Prod.fst := by
        intro hmem
        rw [Fields.names, List.map_append] at h
        exact (List.nodup_append.mp h).2.2 e.1 hmem e.1 (.head _) rfl
      rw [List.foldl_cons, put, unlessDelete]
      by_cases hdelete : e.2.operation? = some "Delete"
      · have hrest : (Fields.names (before ++ entries)).Nodup := by
          refine h.sublist ?_
          exact ((List.sublist_cons_self e entries).append_left before).map _
        rw [if_pos hdelete]
        dsimp only
        rw [Fields.erase_of_not_mem hfresh, ih before hrest, List.filter_cons_of_neg (by simpa using hdelete)]
      · have hrest : (Fields.names ((before ++ [e]) ++ entries)).Nodup := by
          simpa using h
        rw [if_neg hdelete]
        dsimp only
        rw [Fields.insert_of_not_mem hfresh, ih _ hrest, List.filter_cons_of_pos (by simpa using hdelete)]
        simp

theorem entriesIn_filter_hasPoint (f : String) (object : Document) :
    entriesIn f (object.filter fun e => hasPoint e.1) = entriesIn f object := by
  rw [entriesIn, List.filterMap_filter]
  refine List.filterMap_congr fun e _ => ?_
  cases hcut : cutKey? e.1 with
  | none => simp [hcut]
  | some cut => simp [hasPoint_of_cutKey? hcut, hcut]

/-- A field that is not written as a whole gets an object of what is written inside it. -/
theorem get?_expandDots_of_not_mem (hf : hasPoint f = false) (hwhole : f ∉ Fields.names object) :
    Fields.get? f (expandDots object) =
      if entriesIn f object = [] then none else some (.object ((entriesIn f object).foldl nest [])) := by
  have hplain : Fields.get? f (object.filter fun e => !hasPoint e.1) = none :=
    Fields.get?_eq_none_iff.mpr fun hmem => hwhole ((List.filter_sublist.map _).subset hmem)
  have hdotted : f ∉ Fields.names (object.filter fun e => hasPoint e.1) :=
    fun hmem => hwhole ((List.filter_sublist.map _).subset hmem)
  rw [expandDots_eq, get?_foldl_nest hf hdotted, entriesIn_filter_hasPoint, hplain]
  rfl

/-- An update whose entries in a field are all one step inside it writes one object there. -/
theorem get?_expandDots (hf : hasPoint f = false) (hnodup : (Fields.names object).Nodup)
    (hwhole : f ∉ Fields.names object) (hsome : entriesIn f object ≠ [])
    (h : ∀ e ∈ entriesIn f object, hasPoint e.1 = false) :
    Fields.get? f (expandDots object) =
      some (.object ((entriesIn f object).filter (·.2.operation? ≠ some "Delete"))) := by
  have hput : (entriesIn f object).foldl nest [] = (entriesIn f object).foldl put [] :=
    List.foldl_ext _ _ _ fun out e he => nest_of_undotted (h e he) out
  rw [get?_expandDots_of_not_mem hf hwhole, if_neg hsome, hput]
  exact congrArg (fun fields => some (Json.object fields)) (foldl_put [] (nodup_entriesIn hf hnodup))

/-! ## Assignments -/

theorem get?_foldAuthDataFirst (hauth : f ≠ "authData") (hprovider : authDataProvider? f = none) (object : Document) :
    Fields.get? f (foldAuthDataFirst object) = Fields.get? f object := by
  rw [foldAuthDataFirst]
  dsimp only
  split
  · rfl
  · have hfilter := Fields.get?_filter (fun key => (authDataProvider? key).isNone) object f
    rw [Fields.get?, if_neg (Ne.symm hauth), Fields.get?_erase_of_ne hauth, hfilter, hprovider]
    rfl

theorem nodup_foldAuthDataFirst (h : (Fields.names object).Nodup) :
    (Fields.names (foldAuthDataFirst object)).Nodup := by
  rw [foldAuthDataFirst]
  dsimp only
  split
  · exact h
  · have hrest : (Fields.names (object.filter fun e => (authDataProvider? e.1).isNone)).Nodup :=
      Fields.nodup_filter _ h
    exact List.nodup_cons.mpr ⟨Fields.not_mem_names_erase hrest, Fields.nodup_erase hrest⟩

variable {schema : Schema} {whole entries : Document} {as : List Assignment}

theorem column_mem_names (h : assignmentsOf schema whole entries = .ok as) :
    ∀ a ∈ as, a.column ∈ Fields.names entries := by
  induction entries generalizing as with
  | nil =>
      cases h
      exact nofun
  | cons e entries ih =>
      obtain ⟨action, -, h⟩ := Result.bind_ok h
      obtain ⟨others, hothers, h⟩ := Result.bind_ok h
      cases h
      refine List.forall_mem_append.mpr ⟨fun a ha => ?_, fun a ha => .tail _ (ih hothers a ha)⟩
      obtain ⟨b, -, rfl⟩ := Option.map_eq_some_iff.mp (Option.mem_toList.mp ha)
      exact .head _

/-- A column is assigned by its own entry alone. -/
theorem filter_assignmentsOf (h : assignmentsOf schema whole entries = .ok as) (hnodup : (Fields.names entries).Nodup)
    {value : Json} (hvalue : Fields.get? f entries = some value) :
    ∃ action, actionOf schema whole f value = .ok action ∧
      as.filter (·.column = f) = (action.map (Assignment.mk f)).toList := by
  induction entries generalizing as with
  | nil => cases hvalue
  | cons e entries ih =>
      obtain ⟨column, v⟩ := e
      obtain ⟨action, haction, h⟩ := Result.bind_ok h
      obtain ⟨others, hothers, h⟩ := Result.bind_ok h
      cases h
      obtain ⟨hcolumn, hentries⟩ := List.nodup_cons.mp hnodup
      rw [Fields.get?] at hvalue
      split at hvalue
      next hsame =>
        subst hsame
        cases hvalue
        -- No other entry has the name, so no other assignment has the column.
        have hnone : others.filter (·.column = column) = [] := by
          refine List.filter_eq_nil_iff.mpr fun a ha => ?_
          have hne : a.column ≠ column := fun heq => hcolumn (heq ▸ column_mem_names hothers a ha)
          simpa using hne
        refine ⟨action, haction, ?_⟩
        rw [List.filter_append, hnone, List.append_nil]
        cases action <;> simp
      next hother =>
        obtain ⟨action', haction', hfilter⟩ := ih hothers hentries hvalue
        refine ⟨action', haction', ?_⟩
        rw [List.filter_append, hfilter]
        cases action <;> simp [hother]

end

end Docstore.Write
