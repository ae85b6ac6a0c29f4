import Docstore.Proofs.Write.Places
import Mathlib.Algebra.Order.BigOperators.Group.List
import Mathlib.Data.List.Pairwise

/-!
# Documents from paths

The pieces of a key with points are a path: each names a field of the object that the ones before it lead to. Where no
entry's path begins with another one's, nesting the entries puts each value at the end of its path and makes nothing
else but the objects on the way, whatever the order of the entries (`expandDots_sets_paths`).
-/

namespace Docstore

namespace Write

/-! ## Paths of keys -/

def steps (key : String) : List Step := (Text.pieces '.' key).map .key

/-- Neither path begins with the other. -/
def Apart (p q : List String) : Prop := ¬ p <+: q ∧ ¬ q <+: p

instance (p q : List String) : Decidable (Apart p q) := inferInstanceAs (Decidable (_ ∧ _))

instance : Std.Symm fun e e' : String × Json => Apart (Text.pieces '.' e.1) (Text.pieces '.' e'.1) :=
  ⟨fun _ _ hapart => ⟨hapart.2, hapart.1⟩⟩

/-- No entry's path begins with another one's. -/
def PrefixFree (entries : Document) : Prop :=
  entries.Pairwise fun e e' => Apart (Text.pieces '.' e.1) (Text.pieces '.' e'.1)

instance (entries : Document) : Decidable (PrefixFree entries) :=
  inferInstanceAs (Decidable (List.Pairwise _ _))

/-- No other entry's path begins with a key's path, nor the other way round. -/
def Alone (key : String) (entries : Document) : Prop :=
  ∀ name ∈ Fields.names entries, name ≠ key → Apart (Text.pieces '.' name) (Text.pieces '.' key)

instance (key : String) (entries : Document) : Decidable (Alone key entries) :=
  inferInstanceAs (Decidable (∀ name ∈ Fields.names entries, _))

theorem steps_of_undotted {key : String} (h : hasPoint key = false) : steps key = [.key key] := by
  rw [steps, pieces_of_undotted h, List.map_singleton]

theorem steps_of_cutKey? {key root sub : String} (h : cutKey? key = some (root, sub)) :
    steps key = .key root :: steps sub := by
  rw [steps, pieces_of_cutKey? h, List.map_cons, steps]

/-- What holds of keys without points, and of a key where it holds of what stands behind its first point. -/
@[elab_as_elim]
theorem key_induction {p : String → Prop} (undotted : ∀ key, hasPoint key = false → p key)
    (cut : ∀ key root sub, cutKey? key = some (root, sub) → p sub → p key) (key : String) : p key := by
  induction hn : (Text.pieces '.' key).length generalizing key with
  | zero => exact absurd (List.length_eq_zero_iff.mp hn) (pieces_ne_nil key)
  | succ n ih =>
      cases hpoint : hasPoint key with
      | false => exact undotted key hpoint
      | true =>
          obtain ⟨root, sub, hcut⟩ := exists_cutKey? hpoint
          rw [pieces_of_cutKey? hcut, List.length_cons, Nat.add_right_cancel_iff] at hn
          exact cut key root sub hcut (ih sub hn)

theorem mem_entriesIn {f sub : String} {v : Json} {entries : Document} :
    (sub, v) ∈ entriesIn f entries ↔ ∃ key, cutKey? key = some (f, sub) ∧ (key, v) ∈ entries := by
  rw [entriesIn, List.mem_filterMap]
  constructor
  · rintro ⟨⟨key, w⟩, hmem, h⟩
    dsimp only at h
    split at h
    next root sub' hcut =>
      split at h
      next hroot =>
        cases h
        exact ⟨key, hroot ▸ hcut, hmem⟩
      next => cases h
    next => cases h
  · rintro ⟨key, hcut, hmem⟩
    exact ⟨(key, v), hmem, by simp [hcut]⟩

namespace Alone

variable {entries : Document} {key : String} (h : Alone key entries)
include h

/-- A field that is written inside is not written as a whole. -/
theorem not_mem_names {f sub : String} (hcut : cutKey? key = some (f, sub)) : f ∉ Fields.names entries := by
  intro hmem
  have hroot : hasPoint f = false := (cutKey?_eq_some_iff.mp hcut).2
  have hne : f ≠ key := by
    rintro rfl
    rw [hasPoint_of_cutKey? hcut] at hroot
    cases hroot
  have hapart := (h f hmem hne).1
  rw [pieces_of_undotted hroot, pieces_of_cutKey? hcut] at hapart
  exact hapart (List.cons_prefix_cons.mpr ⟨rfl, List.nil_prefix⟩)

/-- A field that is written as a whole is not written inside. -/
theorem entriesIn_eq_nil (hkey : hasPoint key = false) : Write.entriesIn key entries = [] := by
  refine List.eq_nil_iff_forall_not_mem.mpr fun e he => ?_
  obtain ⟨name, hcut, hname⟩ := mem_entriesIn.mp he
  have hne : name ≠ key := by
    rintro rfl
    rw [hasPoint_of_cutKey? hcut] at hkey
    cases hkey
  have hapart := (h name (List.mem_map_of_mem hname) hne).2
  rw [pieces_of_undotted hkey, pieces_of_cutKey? hcut] at hapart
  exact hapart (List.cons_prefix_cons.mpr ⟨rfl, List.nil_prefix⟩)

theorem entriesIn {f sub : String} (hcut : cutKey? key = some (f, sub)) : Alone sub (Write.entriesIn f entries) := by
  intro name hname hne
  obtain ⟨e, he, rfl⟩ := List.mem_map.mp hname
  obtain ⟨key', hcut', hmem⟩ := mem_entriesIn.mp he
  have hkey : key' ≠ key := by
    rintro rfl
    rw [hcut] at hcut'
    cases hcut'
    exact hne rfl
  have hapart := h key' (List.mem_map_of_mem hmem) hkey
  rw [pieces_of_cutKey? hcut, pieces_of_cutKey? hcut'] at hapart
  exact ⟨fun hpre => hapart.1 (List.cons_prefix_cons.mpr ⟨rfl, hpre⟩),
    fun hpre => hapart.2 (List.cons_prefix_cons.mpr ⟨rfl, hpre⟩)⟩

end Alone

namespace PrefixFree

variable {entries : Document} (h : PrefixFree entries)
include h

theorem nodup : (Fields.names entries).Nodup := by
  refine List.pairwise_map.mpr (h.imp fun {e e'} hapart (heq : e.1 = e'.1) => hapart.1 ?_)
  exact heq ▸ List.prefix_rfl

theorem apart {e e' : String × Json} (he : e ∈ entries) (he' : e' ∈ entries) (hne : e.1 ≠ e'.1) :
    Apart (Text.pieces '.' e.1) (Text.pieces '.' e'.1) :=
  List.Pairwise.forall h he he' fun heq => hne (congrArg Prod.fst heq)

theorem perm {entries' : Document} (hperm : entries.Perm entries') : PrefixFree entries' :=
  hperm.pairwise h fun hapart => ⟨hapart.2, hapart.1⟩

theorem entriesIn (f : String) : PrefixFree (entriesIn f entries) := by
  refine List.Pairwise.filterMap _ (fun e e' hapart => ?_) h
  rintro ⟨sub, v⟩ hsome ⟨sub', v'⟩ hsome'
  obtain ⟨key, hcut, hmem⟩ := mem_entriesIn.mp (List.mem_filterMap.mpr ⟨e, List.mem_singleton_self e, hsome⟩)
  obtain ⟨key', hcut', hmem'⟩ := mem_entriesIn.mp (List.mem_filterMap.mpr ⟨e', List.mem_singleton_self e', hsome'⟩)
  rw [← List.mem_singleton.mp hmem, ← List.mem_singleton.mp hmem', pieces_of_cutKey? hcut,
    pieces_of_cutKey? hcut'] at hapart
  exact ⟨fun hpre => hapart.1 (List.cons_prefix_cons.mpr ⟨rfl, hpre⟩),
    fun hpre => hapart.2 (List.cons_prefix_cons.mpr ⟨rfl, hpre⟩)⟩

theorem alone {key : String} (hkey : key ∈ Fields.names entries) : Alone key entries := by
  intro name hname hne
  obtain ⟨e, he, rfl⟩ := List.mem_map.mp hkey
  obtain ⟨e', he', rfl⟩ := List.mem_map.mp hname
  exact h.apart he' he hne

theorem not_mem_names {key f sub : String} {v : Json} (hkey : (key, v) ∈ entries) (hcut : cutKey? key = some (f, sub)) :
    f ∉ Fields.names entries :=
  (h.alone (List.mem_map_of_mem hkey)).not_mem_names hcut

end PrefixFree

/-! ## Nested entries -/

/-- A document of entries by their roots; `whole` is what an entry without points leaves under its key. -/
structure Nests (whole : Json → Option Json) (entries out : Document) : Prop where
  undotted : ∀ name ∈ Fields.names out, hasPoint name = false
  nodup : (Fields.names out).Nodup
  get?_whole : ∀ {f v}, hasPoint f = false → (f, v) ∈ entries → Fields.get? f out = whole v
  get?_inside : ∀ {f}, hasPoint f = false → f ∉ Fields.names entries → Fields.get? f out =
    if entriesIn f entries = [] then none else some (.object ((entriesIn f entries).foldl nest []))

theorem undotted_nest {out : Document} (h : ∀ name ∈ Fields.names out, hasPoint name = false) (e : String × Json) :
    ∀ name ∈ Fields.names (nest out e), hasPoint name = false := by
  intro name hname
  by_cases hpoint : hasPoint e.1 = true
  · obtain ⟨root, sub, hcut⟩ := exists_cutKey? hpoint
    rw [nest_eq hcut] at hname
    rcases Fields.mem_names_insert hname with rfl | hname
    · exact (cutKey?_eq_some_iff.mp hcut).2
    · exact h name hname
  · rw [nest_of_undotted (Bool.not_eq_true _ ▸ hpoint), put] at hname
    split at hname
    · rcases Fields.mem_names_insert hname with rfl | hname
      · exact Bool.not_eq_true _ ▸ hpoint
      · exact h name hname
    · exact h name (Fields.names_erase_sublist.subset hname)

theorem undotted_foldl_nest {out : Document} (h : ∀ name ∈ Fields.names out, hasPoint name = false)
    (entries : Document) : ∀ name ∈ Fields.names (entries.foldl nest out), hasPoint name = false :=
  List.foldlRecOn (motive := fun out => ∀ name ∈ Fields.names out, hasPoint name = false) _ nest h
    fun _ hout e _ => undotted_nest hout e

theorem nodup_nil : (Fields.names ([] : Document)).Nodup := List.nodup_nil

theorem get?_put_self {out : Document} (h : (Fields.names out).Nodup) (e : String × Json) :
    Fields.get? e.1 (put out e) = unlessDelete e.2 := by
  unfold put
  cases unlessDelete e.2 with
  | some v => exact Fields.get?_insert_self _ _ _
  | none => exact Fields.get?_eq_none_iff.mpr (Fields.not_mem_names_erase h)

namespace Alone

variable {entries : Document} {key : String} (h : Alone key entries) (hnodup : (Fields.names entries).Nodup) {v : Json}
include h hnodup

theorem get?_foldl_nest (hkey : hasPoint key = false) (hmem : (key, v) ∈ entries) :
    Fields.get? key (entries.foldl nest []) = unlessDelete v := by
  obtain ⟨before, after, rfl⟩ := List.append_of_mem hmem
  have hafter : key ∉ Fields.names after := by
    rw [Fields.names, List.map_append] at hnodup
    exact (List.nodup_cons.mp (List.nodup_append.mp hnodup).2.1).1
  have hnone : Write.entriesIn key after = [] := by
    have hall := h.entriesIn_eq_nil hkey
    rw [Write.entriesIn, List.filterMap_append, List.append_eq_nil_iff] at hall
    exact List.filterMap_eq_nil_iff.mpr fun e he => List.filterMap_eq_nil_iff.mp hall.2 e (.tail _ he)
  have hself := get?_put_self (nodup_foldl_nest nodup_nil before) (key, v)
  rwa [List.foldl_append, List.foldl_cons, Write.get?_foldl_nest hkey hafter, if_pos hnone, nest_of_undotted hkey]

theorem get?_expandDots (hkey : hasPoint key = false) (hmem : (key, v) ∈ entries) :
    Fields.get? key (expandDots entries) = some v := by
  have hdotted : key ∉ Fields.names (entries.filter fun e => hasPoint e.1) := by
    intro hname
    obtain ⟨e, he, rfl⟩ := List.mem_map.mp hname
    exact absurd (List.mem_filter.mp he).2 (by simp [hkey])
  have hnone : Write.entriesIn key (entries.filter fun e => hasPoint e.1) = [] := by
    rw [entriesIn_filter_hasPoint, h.entriesIn_eq_nil hkey]
  have hplain : (key, v) ∈ entries.filter fun e => !hasPoint e.1 := List.mem_filter.mpr ⟨hmem, by simp [hkey]⟩
  rw [expandDots_eq, Write.get?_foldl_nest hkey hdotted, if_pos hnone]
  exact (Fields.get?_eq_some_iff (Fields.nodup_filter _ hnodup) key v).mpr hplain

end Alone

namespace Alone

variable {entries : Document} {key f sub : String} (h : Alone key entries) {v : Json}
  (hcut : cutKey? key = some (f, sub)) (hmem : (key, v) ∈ entries)
include h hcut hmem

/-- A field that is written inside gets an object of what is written there. -/
theorem get?_foldl_nest_inside :
    Fields.get? f (entries.foldl nest []) = some (.object ((Write.entriesIn f entries).foldl nest [])) := by
  rw [Write.get?_foldl_nest (cutKey?_eq_some_iff.mp hcut).2 (h.not_mem_names hcut),
    if_neg (List.ne_nil_of_mem (mem_entriesIn.mpr ⟨key, hcut, hmem⟩))]
  rfl

theorem get?_expandDots_inside :
    Fields.get? f (expandDots entries) = some (.object ((Write.entriesIn f entries).foldl nest [])) := by
  rw [get?_expandDots_of_not_mem (cutKey?_eq_some_iff.mp hcut).2 (h.not_mem_names hcut),
    if_neg (List.ne_nil_of_mem (mem_entriesIn.mpr ⟨key, hcut, hmem⟩))]

end Alone

namespace PrefixFree

variable {entries : Document} (h : PrefixFree entries)
include h

/-- Inside a field entries without points are removed if they ask for it. -/
theorem foldl_nests : Nests unlessDelete entries (entries.foldl nest []) where
  undotted := undotted_foldl_nest (fun _ hname => absurd hname List.not_mem_nil) entries
  nodup := nodup_foldl_nest nodup_nil entries
  get?_whole := fun hf hmem => (h.alone (List.mem_map_of_mem hmem)).get?_foldl_nest h.nodup hf hmem
  get?_inside := fun hf hwhole => get?_foldl_nest hf hwhole []

theorem expandDots_nests : Nests some entries (expandDots entries) where
  undotted := by
    refine undotted_foldl_nest (fun name hname => ?_) _
    obtain ⟨e, he, rfl⟩ := List.mem_map.mp hname
    simpa using (List.mem_filter.mp he).2
  nodup := nodup_expandDots h.nodup
  get?_whole := fun hf hmem => (h.alone (List.mem_map_of_mem hmem)).get?_expandDots h.nodup hf hmem
  get?_inside := get?_expandDots_of_not_mem

end PrefixFree

/-! ## Places of nested entries -/

theorem at?_key (f : String) (path : List Step) (fields : Document) :
    at? (.key f :: path) (.object fields) = (Fields.get? f fields).bind (at? path) := rfl

theorem at?_singleton (f : String) (fields : Document) : at? [.key f] (.object fields) = Fields.get? f fields := by
  rw [at?_key]
  cases Fields.get? f fields <;> rfl

/-- A value stands at the end of its path if no other entry's path has to do with it. -/
theorem Alone.placed {entries : Document} {key : String} (h : Alone key entries)
    (hnodup : (Fields.names entries).Nodup) {v : Json} (hmem : (key, v) ∈ entries) :
    at? (steps key) (.object (entries.foldl nest [])) = unlessDelete v := by
  induction key using key_induction generalizing entries with
  | undotted key hpoint =>
      rw [steps_of_undotted hpoint, at?_singleton, h.get?_foldl_nest hnodup hpoint hmem]
  | cut key root sub hcut ih =>
      have hroot : hasPoint root = false := (cutKey?_eq_some_iff.mp hcut).2
      have hinside : (sub, v) ∈ Write.entriesIn root entries := mem_entriesIn.mpr ⟨key, hcut, hmem⟩
      rw [steps_of_cutKey? hcut, at?_key, h.get?_foldl_nest_inside hcut hmem]
      exact ih (h.entriesIn hcut) (nodup_entriesIn hroot hnodup) hinside

namespace Nests

variable {whole : Json → Option Json} {entries entries' out out' : Document}

/-- A field that is written inside holds what is written there. -/
theorem at?_root (h : Nests whole entries out) (hfree : PrefixFree entries) {key root sub : String} {v : Json}
    (hmem : (key, v) ∈ entries) (hcut : cutKey? key = some (root, sub)) (path : List Step) :
    at? (.key root :: path) (.object out) = at? path (.object ((entriesIn root entries).foldl nest [])) := by
  have hinside : (sub, v) ∈ entriesIn root entries := mem_entriesIn.mpr ⟨key, hcut, hmem⟩
  rw [at?_key, h.get?_inside (cutKey?_eq_some_iff.mp hcut).2 (hfree.not_mem_names hmem hcut),
    if_neg (List.ne_nil_of_mem hinside)]
  rfl

theorem placed (h : Nests whole entries out) (hfree : PrefixFree entries) {key : String} {v : Json}
    (hmem : (key, v) ∈ entries) :
    at? (steps key) (.object out) = if hasPoint key then unlessDelete v else whole v := by
  cases hpoint : hasPoint key with
  | false =>
      rw [steps_of_undotted hpoint, at?_singleton, h.get?_whole hpoint hmem, if_neg Bool.false_ne_true]
  | true =>
      obtain ⟨root, sub, hcut⟩ := exists_cutKey? hpoint
      have hinside : (sub, v) ∈ entriesIn root entries := mem_entriesIn.mpr ⟨key, hcut, hmem⟩
      have halone : Alone sub (entriesIn root entries) := (hfree.entriesIn root).alone (List.mem_map_of_mem hinside)
      rw [steps_of_cutKey? hcut, h.at?_root hfree hmem hcut, if_pos rfl]
      exact halone.placed (hfree.entriesIn root).nodup hinside

/-- On the way to a value there are objects. -/
theorem between (h : Nests whole entries out) (hfree : PrefixFree entries) {key : String} {v : Json}
    (hmem : (key, v) ∈ entries) {path : List Step} (hpath : path <+: steps key) (hne : path ≠ steps key) :
    ∃ fields, at? path (.object out) = some (.object fields) ∧ (Fields.names fields).Nodup := by
  induction key using key_induction generalizing whole entries out path with
  | undotted key hpoint =>
      cases path with
      | nil => exact ⟨out, rfl, h.nodup⟩
      | cons step path =>
          rw [steps_of_undotted hpoint] at hpath hne
          obtain ⟨rfl, hrest⟩ := List.cons_prefix_cons.mp hpath
          exact absurd (congrArg _ (List.prefix_nil.mp hrest)) hne
  | cut key root sub hcut ih =>
      cases path with
      | nil => exact ⟨out, rfl, h.nodup⟩
      | cons step path =>
          rw [steps_of_cutKey? hcut] at hpath hne
          obtain ⟨rfl, hrest⟩ := List.cons_prefix_cons.mp hpath
          have hinside : (sub, v) ∈ entriesIn root entries := mem_entriesIn.mpr ⟨key, hcut, hmem⟩
          rw [h.at?_root hfree hmem hcut]
          exact ih (hfree.entriesIn root).foldl_nests (hfree.entriesIn root) hinside hrest
            fun heq => hne (congrArg _ heq)

/-- Each place is on the way to a value or inside one. -/
theorem only (h : Nests whole entries out) (hfree : PrefixFree entries) {path : List Step} {w : Json}
    (hpath : path ≠ []) (hw : at? path (.object out) = some w) :
    ∃ e ∈ entries, path <+: steps e.1 ∨ steps e.1 <+: path := by
  induction path generalizing whole entries out with
  | nil => exact absurd rfl hpath
  | cons step path ih =>
      cases step with
      | item i => cases hw
      | key f =>
          rw [at?_key] at hw
          obtain ⟨x, hx, hw⟩ := Option.bind_eq_some_iff.mp hw
          have hf : hasPoint f = false := h.undotted f (List.mem_map_of_mem (Fields.mem_of_get?_eq_some hx))
          by_cases hwhole : f ∈ Fields.names entries
          · obtain ⟨e, he, rfl⟩ := List.mem_map.mp hwhole
            refine ⟨e, he, .inr ?_⟩
            rw [steps_of_undotted hf]
            exact List.cons_prefix_cons.mpr ⟨rfl, List.nil_prefix⟩
          · rw [h.get?_inside hf hwhole] at hx
            split at hx
            next => cases hx
            next hsome =>
              cases hx
              obtain ⟨e', he', hplace⟩ : ∃ e ∈ entriesIn f entries, path <+: steps e.1 ∨ steps e.1 <+: path := by
                cases path with
                | nil =>
                    obtain ⟨e, he⟩ := List.exists_mem_of_ne_nil _ hsome
                    exact ⟨e, he, .inl List.nil_prefix⟩
                | cons next path =>
                    exact ih (hfree.entriesIn f).foldl_nests (hfree.entriesIn f) (List.cons_ne_nil _ _) hw
              obtain ⟨key, hcut, hmem⟩ := mem_entriesIn.mp he'
              refine ⟨(key, e'.2), hmem, ?_⟩
              rw [steps_of_cutKey? hcut]
              exact hplace.imp (fun h => List.cons_prefix_cons.mpr ⟨rfl, h⟩)
                fun h => List.cons_prefix_cons.mpr ⟨rfl, h⟩

theorem get?_of_dotted (h : Nests whole entries out) {name : String} (hname : hasPoint name = true) :
    Fields.get? name out = none := by
  refine Fields.get?_eq_none_iff.mpr fun hmem => ?_
  rw [h.undotted name hmem] at hname
  cases hname

theorem same_of_inside (h : Nests whole entries out) (h' : Nests whole entries' out') (hperm : entries.Perm entries')
    (hinside : ∀ f, entriesIn f entries ≠ [] → Json.Same (.object ((entriesIn f entries).foldl nest []))
      (.object ((entriesIn f entries').foldl nest []))) :
    Json.Same (.object out) (.object out') := by
  refine .of_get? h.nodup h'.nodup fun f => ?_
  cases hf : hasPoint f with
  | true =>
      rw [h.get?_of_dotted hf, h'.get?_of_dotted hf]
      exact .none
  | false =>
      by_cases hwhole : f ∈ Fields.names entries
      · obtain ⟨⟨f, v⟩, hmem, rfl⟩ := List.mem_map.mp hwhole
        rw [h.get?_whole hf hmem, h'.get?_whole hf (hperm.mem_iff.mp hmem)]
        cases whole v with
        | none => exact .none
        | some w => exact .some (.refl w)
      · have hwhole' : f ∉ Fields.names entries' := fun hmem => hwhole ((hperm.map Prod.fst).mem_iff.mpr hmem)
        have hentries : (entriesIn f entries).Perm (entriesIn f entries') := hperm.filterMap _
        rw [h.get?_inside hf hwhole, h'.get?_inside hf hwhole']
        by_cases hnil : entriesIn f entries = []
        · rw [if_pos hnil, if_pos (List.perm_nil.mp (hnil ▸ hentries.symm))]
          exact .none
        · have hnil' : entriesIn f entries' ≠ [] := fun heq => hnil (List.perm_nil.mp (heq ▸ hentries))
          rw [if_neg hnil, if_neg hnil']
          exact .some (hinside f hnil)

/-- The order of the entries does not matter. -/
theorem same (h : Nests whole entries out) (h' : Nests whole entries' out') (hfree : PrefixFree entries)
    (hperm : entries.Perm entries') : Json.Same (.object out) (.object out') := by
  -- Inside a field paths are one piece shorter, so the induction is on a bound of their lengths.
  obtain ⟨n, hn⟩ : ∃ n, ∀ e ∈ entries, (Text.pieces '.' e.1).length ≤ n :=
    ⟨(entries.map fun e => (Text.pieces '.' e.1).length).sum,
      fun e he => List.single_le_sum (fun _ _ => Nat.zero_le _) _ (List.mem_map_of_mem he)⟩
  induction n generalizing whole entries entries' out out' with
  | zero =>
      refine h.same_of_inside h' hperm fun f hsome => ?_
      obtain ⟨⟨sub, v⟩, he⟩ := List.exists_mem_of_ne_nil _ hsome
      obtain ⟨key, -, hmem⟩ := mem_entriesIn.mp he
      exact absurd (List.length_eq_zero_iff.mp (Nat.le_zero.mp (hn _ hmem))) (pieces_ne_nil key)
  | succ n ih =>
      refine h.same_of_inside h' hperm fun f _ => ?_
      have hfree' : PrefixFree (entriesIn f entries') := (hfree.perm hperm).entriesIn f
      refine ih (hfree.entriesIn f).foldl_nests hfree'.foldl_nests (hfree.entriesIn f) (hperm.filterMap _) ?_
      intro e he
      obtain ⟨key, hcut, hmem⟩ := mem_entriesIn.mp he
      have hlength := hn _ hmem
      rw [pieces_of_cutKey? hcut, List.length_cons] at hlength
      exact Nat.le_of_succ_le_succ hlength

end Nests

/-! ## Expanded documents -/

/-- Entries without points come first, as they are. -/
theorem PrefixFree.prefix_expandDots {object : Document} (h : PrefixFree object) :
    (object.filter fun e => !hasPoint e.1) <+: expandDots object := by
  rw [expandDots_eq]
  refine List.foldlRecOn (motive := fun out => _ <+: out) _ nest List.prefix_rfl ?_
  rintro _ ⟨rest, rfl⟩ e he
  obtain ⟨hmem, hpoint⟩ := List.mem_filter.mp he
  obtain ⟨root, sub, hcut⟩ := exists_cutKey? hpoint
  have hroot : root ∉ Fields.names (object.filter fun e => !hasPoint e.1) :=
    fun hname => h.not_mem_names hmem hcut ((List.filter_sublist.map _).subset hname)
  rw [nest_eq hcut, Fields.insert_append hroot]
  exact List.prefix_append _ _

/-- Where no key's path begins with another one's, expansion puts each value at the end of its key's path, leaves out
what asks for a removal there, and makes nothing else but the objects on the way. -/
theorem expandDots_sets_paths {object : Document} (h : PrefixFree object) :
    (∀ name ∈ Fields.names (expandDots object), hasPoint name = false) ∧
    (Fields.names (expandDots object)).Nodup ∧
    (object.filter fun e => !hasPoint e.1) <+: expandDots object ∧
    (∀ e ∈ object, at? (steps e.1) (.object (expandDots object)) =
      if hasPoint e.1 ∧ e.2.operation? = some "Delete" then none else some e.2) ∧
    (∀ e ∈ object, ∀ path, path <+: steps e.1 → path ≠ steps e.1 →
      ∃ fields, at? path (.object (expandDots object)) = some (.object fields) ∧ (Fields.names fields).Nodup) ∧
    (∀ path v, path ≠ [] → at? path (.object (expandDots object)) = some v →
      ∃ e ∈ object, path <+: steps e.1 ∨ steps e.1 <+: path) ∧
    ∀ object' : Document, object.Perm object' →
      Json.Same (.object (expandDots object)) (.object (expandDots object')) := by
  have hnests := h.expandDots_nests
  refine ⟨hnests.undotted, hnests.nodup, h.prefix_expandDots, fun e he => ?_,
    fun e he path hpath hne => hnests.between h he hpath hne, fun path v hpath hv => hnests.only h hpath hv,
    fun object' hperm => hnests.same (h.perm hperm).expandDots_nests h hperm⟩
  rw [hnests.placed h he, unlessDelete]
  by_cases hpoint : hasPoint e.1 = true <;> simp [hpoint]

theorem expandDots_sets_paths_meta :
    PrefixFree [("meta.author.name", .string "ann"), ("title", .string "a"), ("meta.tags", .array []),
      ("meta.author.old", .object [("__op", .string "Delete")])] ∧
    at? [.key "meta", .key "author", .key "name"] (.object (expandDots [("meta.author.name", .string "ann"),
      ("title", .string "a"), ("meta.tags", .array []),
      ("meta.author.old", .object [("__op", .string "Delete")])])) = some (.string "ann") := by
  have hfree : PrefixFree [("meta.author.name", .string "ann"), ("title", .string "a"), ("meta.tags", .array []),
      ("meta.author.old", .object [("__op", .string "Delete")])] := by decide
  obtain ⟨-, -, -, hplaced, -⟩ := expandDots_sets_paths hfree
  exact ⟨hfree, hplaced _ (.head _)⟩

end Write

end Docstore
