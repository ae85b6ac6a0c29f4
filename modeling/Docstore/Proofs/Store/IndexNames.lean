import Docstore.Proofs.Store.Catalog
import Docstore.Proofs.Engine.Postconditions
import Docstore.Store.Indexes
import Mathlib.Data.List.Perm.Basic
import Mathlib.Logic.Function.Basic

/-!
# Names of indexes

What the name of an index tells of its fields. The name joins their names with underscores, which may stand in names
themselves: what it tells are the pieces between the underscores (`sortedName_eq_iff`). An index that is to be created
under a name that is taken is not created, whatever the other one is over.
-/

namespace Docstore

namespace Text

variable {sep : Char}

theorem intercalate_splitOn (sep : Char) (cs : List Char) : [sep].intercalate (splitOn sep cs) = cs := by
  induction cs with
  | nil => rfl
  | cons c cs ih =>
      rw [splitOn]
      split
      next h =>
        rw [List.intercalate_cons_of_ne_nil (splitOn_ne_nil sep cs), ih, h, List.nil_append, List.singleton_append]
      next =>
        split
        next hnil => exact absurd hnil (splitOn_ne_nil sep cs)
        next piece pieces hpieces =>
          rw [hpieces] at ih
          cases pieces with
          | nil =>
              rw [List.intercalate_singleton] at ih ⊢
              rw [ih]
          | cons next pieces =>
              rw [List.intercalate_cons_cons] at ih ⊢
              rw [← ih]
              rfl

/-- A text is known by its pieces. -/
theorem splitOn_injective (sep : Char) : Function.Injective (splitOn sep) :=
  Function.LeftInverse.injective (intercalate_splitOn sep)

theorem pieces_injective (sep : Char) : Function.Injective (pieces sep) := fun _ _ h =>
  String.toList_inj.mp (splitOn_injective sep (List.map_injective_iff.mpr (fun _ _ => String.ofList_inj.mp) h))

theorem pieces_append (sep : Char) (s t : String) :
    pieces sep (s ++ String.singleton sep ++ t) = pieces sep s ++ pieces sep t := by
  rw [pieces, pieces, pieces, String.toList_append, String.toList_append, String.toList_singleton, List.append_assoc,
    List.singleton_append, splitOn_append, List.map_append]

theorem pieces_of_not_mem {s : String} (h : sep ∉ s.toList) : pieces sep s = [s] := by
  rw [pieces, splitOn_of_not_mem h, List.map_singleton, String.ofList_toList]

theorem pieces_intercalate {names : List String} (h : names ≠ []) :
    pieces sep ((String.singleton sep).intercalate names) = names.flatMap (pieces sep) := by
  induction names with
  | nil => exact absurd rfl h
  | cons name rest ih =>
      rw [List.flatMap_cons]
      by_cases hrest : rest = []
      · rw [hrest, String.intercalate_singleton, List.flatMap_nil, List.append_nil]
      · rw [String.intercalate_cons_of_ne_nil hrest, pieces_append, ih hrest]

end Text

namespace Index

open Docstore.Engine
open Docstore.Sql (IndexColumn)
open Docstore.Text (pieces)

variable {className kind : String} {xs ys : List String}

/-! ## What a name tells -/

/-- Names in the order in which the name of an index joins them. -/
def sorted (fields : List String) : List String := fields.mergeSort fun a b => decide (a ≤ b)

theorem sorted_perm (fields : List String) : (sorted fields).Perm fields := List.mergeSort_perm _ _

theorem sorted_eq_iff : sorted xs = sorted ys ↔ xs.Perm ys := by
  constructor
  · intro h
    exact (sorted_perm xs).symm.trans (h ▸ sorted_perm ys)
  · intro h
    have hsorted (fields : List String) : (sorted fields).Pairwise (· ≤ ·) := by
      refine (List.pairwise_mergeSort ?_ ?_ fields).imp of_decide_eq_true
      · simpa using fun _ _ _ => String.le_trans
      · simpa using String.le_total
    refine List.Perm.eq_of_pairwise (fun _ _ _ _ => String.le_antisymm) (hsorted xs) (hsorted ys) ?_
    exact (sorted_perm xs).trans (h.trans (sorted_perm ys).symm)

/-- What the name of an index tells of its fields: the pieces of their names, in the order of the names. -/
def fieldParts (fields : List String) : List String :=
  if fields = [] then [""] else (sorted fields).flatMap (pieces '_')

/-- What the name of an index tells: the pieces between its underscores. -/
def nameParts (className kind : String) (fields : List String) : List String :=
  pieces '_' className ++ pieces '_' kind ++ fieldParts fields

theorem pieces_sortedName (className kind : String) (fields : List String) :
    pieces '_' (sortedName className kind fields) = nameParts className kind fields := by
  have hfields : pieces '_' ("_".intercalate (sorted fields)) = fieldParts fields := by
    rw [fieldParts]
    split
    next h =>
      rw [h, sorted, List.mergeSort_nil]
      rfl
    next h => exact Text.pieces_intercalate fun hsorted => h (List.nil_perm.mp (hsorted ▸ sorted_perm fields))
  show pieces '_' (className ++ String.singleton '_' ++ kind ++ String.singleton '_' ++
    "_".intercalate (sorted fields)) = nameParts className kind fields
  rw [Text.pieces_append, Text.pieces_append, hfields, nameParts]

theorem sortedName_eq_iff {className' kind' : String} : sortedName className kind xs = sortedName className' kind' ys ↔
    nameParts className kind xs = nameParts className' kind' ys := by
  rw [← pieces_sortedName, ← pieces_sortedName, (Text.pieces_injective '_').eq_iff]

/-- A name that is not empty and has no underscores. -/
def IsPlain (name : String) : Prop := name ≠ "" ∧ '_' ∉ name.toList

instance (name : String) : Decidable (IsPlain name) := inferInstanceAs (Decidable (_ ∧ _))

theorem fieldParts_of_perm (h : xs.Perm ys) : fieldParts xs = fieldParts ys := by
  have hnil : xs = [] ↔ ys = [] := by
    constructor <;> rintro rfl
    · exact List.nil_perm.mp h
    · exact List.perm_nil.mp h
  rw [fieldParts, fieldParts, sorted_eq_iff.mpr h]
  simp only [hnil]

theorem fieldParts_of_plain (h : ∀ name ∈ xs, IsPlain name) (hxs : xs ≠ []) : fieldParts xs = sorted xs := by
  rw [fieldParts, if_neg hxs]
  calc (sorted xs).flatMap (pieces '_') = (sorted xs).flatMap fun name => [name] :=
        List.flatMap_congr fun name hname => Text.pieces_of_not_mem (h name ((sorted_perm xs).subset hname)).2
    _ = sorted xs := List.flatMap_singleton' _

/-- A list of plain names is not taken for one without names, which reads like that of an empty name. -/
theorem fieldParts_ne_nil_of_plain (h : ∀ name ∈ xs, IsPlain name) (hxs : xs ≠ []) : fieldParts xs ≠ fieldParts [] := by
  intro heq
  rw [fieldParts_of_plain h hxs] at heq
  have hmem : "" ∈ sorted xs := heq ▸ List.mem_singleton_self _
  exact (h "" ((sorted_perm xs).subset hmem)).1 rfl

theorem fieldParts_eq_iff_of_plain (hxs : ∀ name ∈ xs, IsPlain name) (hys : ∀ name ∈ ys, IsPlain name) :
    fieldParts xs = fieldParts ys ↔ xs.Perm ys := by
  refine ⟨fun h => ?_, fieldParts_of_perm⟩
  by_cases hx : xs = []
  · by_cases hy : ys = []
    · rw [hx, hy]
    · subst hx
      exact absurd h.symm (fieldParts_ne_nil_of_plain hys hy)
  · by_cases hy : ys = []
    · subst hy
      exact absurd h (fieldParts_ne_nil_of_plain hxs hx)
    · rwa [fieldParts_of_plain hxs hx, fieldParts_of_plain hys hy, sorted_eq_iff] at h

/-! ## Indexes that are there -/

/-- An index that a server has. -/
structure Built where
  className : String
  columns : List IndexColumn
  unique : Bool

/-- The indexes of a server, by their names. -/
abbrev Book := String → Option Built

namespace Book

/-- An index is created, unless there is one of its name. -/
def create (b : Book) (name : String) (index : Built) : Book :=
  if (b name).isSome then b else Function.update b name (some index)

theorem create_of_isSome {b : Book} {name : String} {index : Built} (h : (b name).isSome) : b.create name index = b :=
  if_pos h

/-- What is there stays there. -/
theorem create_apply (b : Book) (name other : String) (index : Built) :
    b.create name index other = (b other).or (if name = other then some index else none) := by
  rw [create]
  by_cases hname : name = other
  · subst hname
    cases h : b name with
    | none => simp
    | some built => simp [h]
  · split
    · simp
    · simp [Function.update_of_ne (Ne.symm hname)]

/--
A request and its reply, and the indexes after them. An index that is said to be there is there. What other definitions
do is left out.
-/
inductive Step (b : Book) : Exchange → Book → Prop
  | created {name className : String} {columns : List IndexColumn} {unique : Bool} :
      Step b (.ofSuccess (.send .pooled (.define (.createIndex name className columns unique))) ())
        (b.create name ⟨className, columns, unique⟩)
  | refused {name className : String} {columns : List IndexColumn} {unique : Bool} {f : EngineFault}
      (h : (Error.ofCause (.driver f)).isExistingIndex name = true → (b name).isSome) :
      Step b ⟨.send .pooled (.define (.createIndex name className columns unique)), .error f⟩ b
  | other {r : Request} {reply : r.Reply} (h : r.definition? = none) : Step b ⟨r, reply⟩ b

variable {b b' : Book} {name className : String} {columns : List IndexColumn} {unique : Bool} {store : Store}

theorem serves_other {es : List Exchange} (hes : ∀ e ∈ es, e.request.definition? = none)
    (h : Service.Serves Step b es b') : b' = b := by
  induction h with
  | nil b => rfl
  | cons hstep _ ih =>
      rw [ih fun e he => hes e (.tail _ he)]
      cases hstep with
      | created | refused => cases hes _ (.head _)
      | other => rfl

/-- An index of the name is there afterwards, be it another one. -/
theorem create_ensures : (Index.create name className columns unique).Ensures Step (· = b)
    (fun _ b' => b' = b.create name ⟨className, columns, unique⟩) fun _ _ => True := by
  refine Operation.Ensures.mapError (F := fun _ _ => True) ?_ (fun _ _ _ => trivial) fun _ _ => trivial
  refine Operation.Ensures.recover
    (F := fun f b' => ∀ e, f = .error e → e.isExistingIndex name = true → b' = b ∧ (b name).isSome)
    (.ask ?_ ?_) ?_ fun _ _ _ => trivial
  · rintro _ a b' rfl hstep
    cases hstep with
    | created => rfl
    | other h => cases h
  · rintro _ f b' rfl hstep e he hexists
    cases he
    cases hstep with
    | refused h => exact ⟨rfl, h hexists⟩
    | other h => cases h
  · intro e b' hexists h
    obtain ⟨rfl, hthere⟩ := h e rfl hexists
    exact (create_of_isSome hthere).symm

theorem connect_ensures : (store.connect .pooled).Ensures Step (· = b) (fun _ => (· = b)) fun _ _ => True := by
  rintro s es r t rfl hes hserves
  cases r with
  | error f => trivial
  | ok a =>
      obtain ⟨-, rfl⟩ := Store.converses_connect_ok.mp hes
      exact serves_other (List.forall_mem_singleton.mpr rfl) hserves

theorem announce_ensures {subject : Option String} :
    (store.announce subject).Ensures Step (· = b) (fun _ => (· = b)) fun _ _ => True := by
  rintro s es r t rfl hes hserves
  obtain ⟨rfl, hannounced⟩ := Store.converses_announce.mp hes
  exact serves_other hannounced.definition?_eq_none hserves

theorem ensureUnique_ensures {fields : List String} : (store.ensureUnique className fields).Ensures Step (· = b)
    (fun _ b' => b' = b.create (sortedName className "unique" fields) ⟨className, columnsOf fields false, true⟩)
    fun _ _ => True :=
  connect_ensures.bind fun _ => create_ensures.bind fun _ => announce_ensures

theorem ensureUnique_leads {fields : List String} (hclosed : store.closed = false) (hsender : store.sender = none) :
    (store.ensureUnique className fields).Leads Step b (.ok ())
      (b.create (sortedName className "unique" fields) ⟨className, columnsOf fields false, true⟩) := by
  have hconnect : (store.connect .pooled).Leads Step b (.ok ()) b :=
    ⟨_, Store.converses_connect_ok.mpr ⟨hclosed, rfl⟩, Service.serves_singleton.mpr (.other rfl)⟩
  have hannounce {b : Book} : (store.announce (some className)).Leads Step b (.ok ()) b := by
    rw [Store.announce, hsender]
    exact .pure _ _
  exact .bind hconnect (.bind (.mapError (.recover (.ask .created))) hannounce)

end Book

/-! ## Indexes that are asked for -/

/-- Fields of a class, whose values are to be unique together. -/
structure Demand where
  className : String
  fields : List String

namespace Demand

def name (d : Demand) : String := sortedName d.className "unique" d.fields

/-- What the name of the index tells. -/
def parts (d : Demand) : List String := nameParts d.className "unique" d.fields

def index (d : Demand) : Built := ⟨d.className, columnsOf d.fields false, true⟩

theorem name_eq_iff {d d' : Demand} : d.name = d'.name ↔ d.parts = d'.parts := sortedName_eq_iff

end Demand

/-- Plain names of fields tell the demands of a class apart. -/
theorem Demand.apart_of_plain {ds : List Demand} {className : String} (hclass : ∀ d ∈ ds, d.className = className)
    (hplain : ∀ d ∈ ds, ∀ name ∈ d.fields, IsPlain name) :
    ∀ d ∈ ds, ∀ d' ∈ ds, d.parts = d'.parts → d.className = d'.className ∧ d.fields.Perm d'.fields := by
  intro d hd d' hd' h
  rw [parts, parts, nameParts, nameParts, hclass d hd, hclass d' hd', List.append_cancel_left_eq] at h
  exact ⟨(hclass d hd).trans (hclass d' hd').symm, (fieldParts_eq_iff_of_plain (hplain d hd) (hplain d' hd')).mp h⟩

/-- There is a unique index of the class over the fields, in whatever order. -/
def Book.Covers (b : Book) (d : Demand) : Prop :=
  ∃ columns, b d.name = some ⟨d.className, columns, true⟩ ∧ columns.Perm (columnsOf d.fields false)

/-- Unique indexes are asked for, one after the other, with success. -/
inductive Ensured : List Demand → Book → Book → Prop
  | nil (b : Book) : Ensured [] b b
  | cons {d : Demand} {ds : List Demand} {store : Store} {es : List Exchange} {b b' b'' : Book}
      (h : (store.ensureUnique d.className d.fields).run.Converses es (.ok ()))
      (hserves : Service.Serves Book.Step b es b') (hrest : Ensured ds b' b'') : Ensured (d :: ds) b b''

namespace Ensured

variable {ds : List Demand} {b b' : Book}

theorem exists_book (ds : List Demand) (b : Book) : ∃ b', Ensured ds b b' := by
  induction ds generalizing b with
  | nil => exact ⟨b, .nil b⟩
  | cons d ds ih =>
      have hleads : ((Store.create false false none).ensureUnique d.className d.fields).Leads Book.Step b (.ok ())
          (b.create d.name d.index) := Book.ensureUnique_leads rfl rfl
      obtain ⟨es, hes, hserves⟩ := hleads
      obtain ⟨b', hrest⟩ := ih _
      exact ⟨b', .cons hes hserves hrest⟩

/-- The first index of a name stays. -/
theorem apply_eq (h : Ensured ds b b') (name : String) :
    b' name = (b name).or ((ds.find? fun d => d.name = name).map Demand.index) := by
  induction h with
  | nil b => simp
  | @cons d ds store es b b' b'' h hserves _ ih =>
      have hb' : b' = b.create d.name d.index := Book.ensureUnique_ensures _ _ _ _ rfl h hserves
      rw [ih, hb', Book.create_apply, Option.or_assoc, List.find?_cons]
      by_cases hname : d.name = name <;> simp [hname]

theorem columnsOf_perm_iff {xs ys : List String} :
    (columnsOf xs false).Perm (columnsOf ys false) ↔ xs.Perm ys := by
  refine List.map_perm_map_iff fun x y h => ?_
  injection h

/-- An index is missing just if its name was given to one over other fields. -/
theorem covers_iff (h : Ensured ds b b') (hfree : ∀ d ∈ ds, b d.name = none) :
    (∀ d ∈ ds, b'.Covers d) ↔
      ∀ d ∈ ds, ∀ d' ∈ ds, d.name = d'.name → d.className = d'.className ∧ d.fields.Perm d'.fields := by
  constructor
  · intro hcovers d hd d' hd' hname
    obtain ⟨columns, hbuilt, hcolumns⟩ := hcovers d hd
    obtain ⟨columns', hbuilt', hcolumns'⟩ := hcovers d' hd'
    rw [← hname, hbuilt] at hbuilt'
    injection hbuilt' with hbuilt'
    injection hbuilt' with hclass hsame
    subst hsame
    exact ⟨hclass, columnsOf_perm_iff.mp (hcolumns.symm.trans hcolumns')⟩
  · intro hsame d hd
    obtain ⟨first, hfirst⟩ : ∃ first, ds.find? (fun d' => d'.name = d.name) = some first :=
      Option.isSome_iff_exists.mp (List.find?_isSome.mpr ⟨d, hd, decide_eq_true rfl⟩)
    have hname : first.name = d.name := by simpa using List.find?_some hfirst
    obtain ⟨hclass, hperm⟩ := hsame first (List.mem_of_find?_eq_some hfirst) d hd hname
    refine ⟨columnsOf first.fields false, ?_, columnsOf_perm_iff.mpr hperm⟩
    rw [h.apply_eq, hfree d hd, hfirst, ← hclass]
    rfl

end Ensured

/--
The name of an index tells the pieces of its fields' names, in whatever order they were given; names without underscores
are their own pieces. Of the unique indexes that are asked for with success, all are there just if no two that are over
other fields have the same pieces.
-/
theorem sortedName_identifies_iff (className kind : String) (xs ys : List String) :
    (xs.Perm ys → sortedName className kind xs = sortedName className kind ys) ∧
      (sortedName className kind xs = sortedName className kind ys ↔ fieldParts xs = fieldParts ys) ∧
      ((∀ name ∈ xs ++ ys, IsPlain name) →
        (sortedName className kind xs = sortedName className kind ys ↔ xs.Perm ys)) ∧
      ∀ ds b b', Ensured ds b b' → (∀ d ∈ ds, b d.name = none) →
        ((∀ d ∈ ds, b'.Covers d) ↔
          ∀ d ∈ ds, ∀ d' ∈ ds, d.parts = d'.parts → d.className = d'.className ∧ d.fields.Perm d'.fields) := by
  have hparts : sortedName className kind xs = sortedName className kind ys ↔ fieldParts xs = fieldParts ys := by
    rw [sortedName_eq_iff, nameParts, nameParts, List.append_cancel_left_eq]
  refine ⟨fun h => hparts.mpr (fieldParts_of_perm h), hparts, fun hplain => ?_, fun ds b b' h hfree => ?_⟩
  · obtain ⟨hxs, hys⟩ := List.forall_mem_append.mp hplain
    rw [hparts, fieldParts_eq_iff_of_plain hxs hys]
  · simp only [h.covers_iff hfree, Demand.name_eq_iff]

/-- Two unique indexes that have names of their own. -/
theorem sortedName_identifies_iff_posts :
    (∀ name ∈ ["title", "score"] ++ ["score", "title"], IsPlain name) ∧
      sortedName "Post" "unique" ["title", "score"] = sortedName "Post" "unique" ["score", "title"] ∧
      ∃ b', Ensured [⟨"Post", ["title", "score"]⟩, ⟨"Post", ["slug"]⟩] (fun _ => none) b' ∧
        b'.Covers ⟨"Post", ["title", "score"]⟩ ∧ b'.Covers ⟨"Post", ["slug"]⟩ := by
  have hplain : ∀ name ∈ ["title", "score"] ++ ["score", "title"], IsPlain name := by decide
  obtain ⟨-, -, hperm, hindexes⟩ := sortedName_identifies_iff "Post" "unique" ["title", "score"] ["score", "title"]
  obtain ⟨b', h⟩ := Ensured.exists_book [⟨"Post", ["title", "score"]⟩, ⟨"Post", ["slug"]⟩] fun _ => none
  have hclass : ∀ d ∈ [Demand.mk "Post" ["title", "score"], ⟨"Post", ["slug"]⟩], d.className = "Post" := by decide
  have hcovers := (hindexes _ _ b' h fun _ _ => rfl).mpr (Demand.apart_of_plain hclass (by decide))
  refine ⟨hplain, (hperm hplain).mpr (.swap _ _ _), b', h, hcovers _ (.head _), hcovers _ (.tail _ (.head _))⟩

/-- One field whose name is that of two others with an underscore between them: their index is never created. -/
theorem ensureUnique_misses_index :
    sortedName "Post" "unique" ["a_b"] = sortedName "Post" "unique" ["a", "b"] ∧ ¬["a_b"].Perm ["a", "b"] ∧
      ∃ b', Ensured [⟨"Post", ["a_b"]⟩, ⟨"Post", ["a", "b"]⟩] (fun _ => none) b' ∧
        ¬b'.Covers ⟨"Post", ["a", "b"]⟩ := by
  have hsame : sortedName "Post" "unique" ["a_b"] = sortedName "Post" "unique" ["a", "b"] := by
    simp [sortedName, List.mergeSort]
  have hother : ¬["a_b"].Perm ["a", "b"] := fun h => absurd h.length_eq (by decide)
  obtain ⟨b', h⟩ := Ensured.exists_book [⟨"Post", ["a_b"]⟩, ⟨"Post", ["a", "b"]⟩] fun _ => none
  have hfirst : b' (Demand.mk "Post" ["a", "b"]).name = some (Demand.index ⟨"Post", ["a_b"]⟩) := by
    have hname : (Demand.mk "Post" ["a_b"]).name = (Demand.mk "Post" ["a", "b"]).name := hsame
    simp [h.apply_eq, hname]
  refine ⟨hsame, hother, b', h, fun ⟨columns, hbuilt, hcolumns⟩ => ?_⟩
  rw [hfirst] at hbuilt
  injection hbuilt with hbuilt
  injection hbuilt with _ hcolumns'
  rw [← hcolumns'] at hcolumns
  exact hother (Ensured.columnsOf_perm_iff.mp hcolumns)

end Index

end Docstore
