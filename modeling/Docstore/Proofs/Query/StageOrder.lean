import Docstore.Proofs.Query.Demands

/-!
# The order of stages

Each part of a demand is changed by operators of its own, so a run of stages is a run for each part
(`Demand.run_eq_ok_iff`). If the stages change each part once at most, their order makes no difference. Main statement:
`Pipeline.compile_perm`.
-/

namespace Docstore.Query

namespace Demand

variable {schema : Schema} {stages stages' : List Json} {d e : Demand}

/-- Stages make one demand of another, part by part. -/
structure Becomes (schema : Schema) (stages : List Json) (d e : Demand) : Prop where
  selection : stages.foldlM Selection.after d.selection = .ok e.selection
  filter : stages.foldlM (fun filter v => filterAfter schema filter (v.get? "$match")) d.filter = .ok e.filter
  limit : stages.foldlM (fun limit v => countAfter "$limit" limit (v.get? "$limit")) d.limit = .ok e.limit
  offset : stages.foldlM (fun offset v => countAfter "$skip" offset (v.get? "$skip")) d.offset = .ok e.offset
  order : stages.foldlM (fun order v => orderAfter order (v.get? "$sort")) d.order = .ok e.order

theorem stage_eq_ok_iff {v : Json} : d.stage schema v = .ok e ↔ d.selection.after v = .ok e.selection ∧
    filterAfter schema d.filter (v.get? "$match") = .ok e.filter ∧
    countAfter "$limit" d.limit (v.get? "$limit") = .ok e.limit ∧
    countAfter "$skip" d.offset (v.get? "$skip") = .ok e.offset ∧
    orderAfter d.order (v.get? "$sort") = .ok e.order := by
  constructor
  · intro h
    obtain ⟨selection, hselection, h⟩ := Result.bind_ok h
    obtain ⟨filter, hfilter, h⟩ := Result.bind_ok h
    obtain ⟨limit, hlimit, h⟩ := Result.bind_ok h
    obtain ⟨offset, hoffset, h⟩ := Result.bind_ok h
    obtain ⟨order, horder, h⟩ := Result.bind_ok h
    cases h
    exact ⟨hselection, hfilter, hlimit, hoffset, horder⟩
  · rintro ⟨hselection, hfilter, hlimit, hoffset, horder⟩
    rw [stage, hselection, hfilter, hlimit, hoffset, horder]
    rfl

/-- A run of stages is a run for each part of a demand. -/
theorem run_eq_ok_iff : stages.foldlM (stage schema) d = .ok e ↔ Becomes schema stages d e := by
  -- On the stages: what the first makes of a demand are the parts that the runs go on with.
  induction stages generalizing d with
  | nil =>
      constructor
      · rintro ⟨⟩
        exact ⟨rfl, rfl, rfl, rfl, rfl⟩
      · rintro ⟨hselection, hfilter, hlimit, hoffset, horder⟩
        cases d
        cases e
        cases hselection
        cases hfilter
        cases hlimit
        cases hoffset
        cases horder
        rfl
  | cons v rest ih =>
      constructor
      · intro h
        obtain ⟨next, hnext, h⟩ := Result.foldlM_cons_eq_ok_iff.mp h
        obtain ⟨hselection, hfilter, hlimit, hoffset, horder⟩ := stage_eq_ok_iff.mp hnext
        have hrest := ih.mp h
        exact {
          selection := Result.foldlM_cons_eq_ok_iff.mpr ⟨_, hselection, hrest.selection⟩
          filter := Result.foldlM_cons_eq_ok_iff.mpr ⟨_, hfilter, hrest.filter⟩
          limit := Result.foldlM_cons_eq_ok_iff.mpr ⟨_, hlimit, hrest.limit⟩
          offset := Result.foldlM_cons_eq_ok_iff.mpr ⟨_, hoffset, hrest.offset⟩
          order := Result.foldlM_cons_eq_ok_iff.mpr ⟨_, horder, hrest.order⟩ }
      · intro h
        obtain ⟨selection, hselection, hselections⟩ := Result.foldlM_cons_eq_ok_iff.mp h.selection
        obtain ⟨filter, hfilter, hfilters⟩ := Result.foldlM_cons_eq_ok_iff.mp h.filter
        obtain ⟨limit, hlimit, hlimits⟩ := Result.foldlM_cons_eq_ok_iff.mp h.limit
        obtain ⟨offset, hoffset, hoffsets⟩ := Result.foldlM_cons_eq_ok_iff.mp h.offset
        obtain ⟨order, horder, horders⟩ := Result.foldlM_cons_eq_ok_iff.mp h.order
        have hnext : d.stage schema v = .ok ⟨selection, filter, order, limit, offset⟩ :=
          stage_eq_ok_iff.mpr ⟨hselection, hfilter, hlimit, hoffset, horder⟩
        exact Result.foldlM_cons_eq_ok_iff.mpr ⟨_, hnext, ih.mpr ⟨hselections, hfilters, hlimits, hoffsets, horders⟩⟩

end Demand

/-! ## Stages that change each part once -/

namespace Pipeline

variable {schema : Schema} {stages stages' : List Json} {d e : Demand}

/-- Whether a stage selects columns. -/
def isSelective (v : Json) : Bool := (v.get? "$group").isSome || (v.get? "$project").isSome

/-- Operators are used once at most, and columns are selected by one stage at most. -/
structure UsedOnce (stages : List Json) : Prop where
  filter : uses "$match" stages ≤ 1
  order : uses "$sort" stages ≤ 1
  offset : uses "$skip" stages ≤ 1
  limit : uses "$limit" stages ≤ 1
  selection : stages.countP isSelective ≤ 1

theorem after_idle (s : Selection) {v : Json} (h : isSelective v = false) : s.after v = .ok s := by
  obtain ⟨hgroup, hproject⟩ := Bool.or_eq_false_iff.mp h
  rw [Option.isSome_eq_false_iff, Option.isNone_iff_eq_none] at hgroup hproject
  rw [Selection.after, hgroup, hproject]
  rfl

/-- The order of stages makes no difference to a part that one of them changes at most. -/
theorem foldlM_operand_perm {σ : Type} (after : σ → Option Json → Result σ) (hnone : ∀ s, after s none = .ok s)
    {operator : String} (honce : uses operator stages ≤ 1) (hperm : stages.Perm stages') (s : σ) :
    stages.foldlM (fun s v => after s (v.get? operator)) s =
      stages'.foldlM (fun s v => after s (v.get? operator)) s := by
  refine Result.foldlM_perm (fun s v hunused => ?_) hperm honce s
  rw [Option.isSome_eq_false_iff, Option.isNone_iff_eq_none] at hunused
  rw [hunused, hnone]

theorem becomes_perm (honce : UsedOnce stages) (hperm : stages.Perm stages') :
    d.Becomes schema stages e ↔ d.Becomes schema stages' e := by
  have hselection := Result.foldlM_perm after_idle hperm honce.selection d.selection
  have hfilter := foldlM_operand_perm (filterAfter schema) (fun _ => rfl) honce.filter hperm d.filter
  have hlimit := foldlM_operand_perm (countAfter "$limit") (fun _ => rfl) honce.limit hperm d.limit
  have hoffset := foldlM_operand_perm (countAfter "$skip") (fun _ => rfl) honce.offset hperm d.offset
  have horder := foldlM_operand_perm orderAfter (fun _ => rfl) honce.order hperm d.order
  constructor
  · intro h
    exact ⟨hselection.symm.trans h.selection, hfilter.symm.trans h.filter, hlimit.symm.trans h.limit,
      hoffset.symm.trans h.offset, horder.symm.trans h.order⟩
  · intro h
    exact ⟨hselection.trans h.selection, hfilter.trans h.filter, hlimit.trans h.limit, hoffset.trans h.offset,
      horder.trans h.order⟩

theorem run_perm (honce : UsedOnce stages) (hperm : stages.Perm stages') :
    Demand.run schema stages = .ok d ↔ Demand.run schema stages' = .ok d := by
  rw [Demand.run, Demand.run, Demand.run_eq_ok_iff, Demand.run_eq_ok_iff, becomes_perm honce hperm]

theorem exists_run_iff : (∃ p, compile schema stages = .ok p) ↔ ∃ d, Demand.run schema stages = .ok d := by
  constructor
  · rintro ⟨p, hp⟩
    obtain ⟨d, hd, -⟩ := (compile_shows schema stages).exists_right hp
    exact ⟨d, hd⟩
  · rintro ⟨d, hd⟩
    obtain ⟨p, hp, -⟩ := (compile_shows schema stages).exists_left hd
    exact ⟨p, hp⟩

/-- If every operator is used once at most, and one stage at most selects columns, stages are accepted in any order just
if they are in one. They select the same columns, and their statements are the same once the values stand in the places
of their placeholders: that of one demand, with its clauses in the order of SQL. -/
theorem compile_perm (schema : Schema) {stages stages' : List Json} (honce : UsedOnce stages)
    (hperm : stages.Perm stages') :
    ((∃ p, compile schema stages = .ok p) ↔ ∃ q, compile schema stages' = .ok q) ∧
      ∀ p q, compile schema stages = .ok p → compile schema stages' = .ok q →
        p.countField = q.countField ∧ p.groupKeys = q.groupKeys ∧
          ∃ d, Demand.run schema stages = .ok d ∧
            (p.statement schema).filled? = some (d.template schema.className) ∧
            (q.statement schema).filled? = some (d.template schema.className) := by
  constructor
  · rw [exists_run_iff, exists_run_iff]
    exact exists_congr fun d => run_perm honce hperm
  · intro p q hp hq
    obtain ⟨d, hd, hshows⟩ := (compile_shows schema stages).exists_right hp
    obtain ⟨d', hd', hshows'⟩ := (compile_shows schema stages').exists_right hq
    obtain rfl : d = d' := Except.ok.inj (((run_perm honce hperm).mp hd).symm.trans hd')
    have hselection : p.selection = q.selection := hshows.selection.trans hshows'.selection.symm
    exact ⟨congrArg Selection.countField hselection, congrArg Selection.groupKeys hselection, d, hd,
      hshows.filled?_statement schema, hshows'.filled?_statement schema⟩

/-- A limit before a filter and a number of rows to skip. -/
def limitFirst : List Json :=
  [.object [("$limit", .int 2)], .object [("$match", .object [("title", .string "a")])], .object [("$skip", .int 1)]]

/-- The limit last takes the last placeholder, and the statement says the same. -/
theorem compile_perm_limitFirst : ∃ p q, compile titledPosts limitFirst = .ok p ∧
    compile titledPosts limitFirst.reverse = .ok q ∧
    (p.statement titledPosts).text = "SELECT * FROM \"Post\" WHERE \"title\" = $2 LIMIT $1 OFFSET $3" ∧
    (q.statement titledPosts).text = "SELECT * FROM \"Post\" WHERE \"title\" = $2 LIMIT $3 OFFSET $1" ∧
    ∃ d, Demand.run titledPosts limitFirst = .ok d ∧
      (p.statement titledPosts).filled? = some (d.template "Post") ∧
      (q.statement titledPosts).filled? = some (d.template "Post") := by
  have honce : UsedOnce limitFirst := ⟨by decide, by decide, by decide, by decide, by decide⟩
  obtain ⟨p, hp, htext⟩ : ∃ p, compile titledPosts limitFirst = .ok p ∧
      (p.statement titledPosts).text = "SELECT * FROM \"Post\" WHERE \"title\" = $2 LIMIT $1 OFFSET $3" := ⟨_, rfl, rfl⟩
  obtain ⟨q, hq, htext'⟩ : ∃ q, compile titledPosts limitFirst.reverse = .ok q ∧
      (q.statement titledPosts).text = "SELECT * FROM \"Post\" WHERE \"title\" = $2 LIMIT $3 OFFSET $1" := ⟨_, rfl, rfl⟩
  obtain ⟨-, -, hsame⟩ := (compile_perm titledPosts honce limitFirst.reverse_perm.symm).2 p q hp hq
  exact ⟨p, q, hp, hq, htext, htext', hsame⟩

end Pipeline

end Docstore.Query
