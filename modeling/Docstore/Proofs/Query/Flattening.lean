import Docstore.Proofs.Query.Conjunction

/-!
# Queries without their combinations

Combining queries adds no tests but constants: the tests of a query are those that the entries in it, at every depth,
become one after the other (`compile_flat`).
-/

namespace Docstore.Query

theorem isAuthDataKey_of_isLogical {key : String} (h : isLogical key = true) : isAuthDataKey key = false := by
  obtain rfl | rfl | rfl := isLogical_cases h <;> decide

theorem entriesIn_of_not_logical {key : String} (h : isLogical key = false) (v : Json) :
    entriesIn key v = [(key, v)] := by
  cases v <;> simp [entriesIn, h]

/-- Tests are the same but for constants, their order and repetitions. -/
def SameTests (ts us : List Test) : Prop := ∀ t, (∀ b, t ≠ .constant b) → (t ∈ ts ↔ t ∈ us)

theorem SameTests.append {ts ts' us us' : List Test} (h : SameTests ts us) (h' : SameTests ts' us') :
    SameTests (ts ++ ts') (us ++ us') := by
  intro t ht
  rw [List.mem_append, List.mem_append, h t ht, h' t ht]

theorem sameTests_combine (op : String) (css : List (List Condition)) :
    SameTests (combine op css).tests (Condition.testsOfMembers css) := by
  intro t ht
  cases css with
  | nil => simp [combine, ht]
  | cons cs css =>
      simp only [combine]
      split
      · rfl
      · split <;> rfl

/-- The clauses of the constraints among some entries, one after the other. -/
def flatClauses (c : Context) (es : Document) : Clauses :=
  Clauses.concat ((constraints c.schema es).map fun e => fieldClauses c e.1 e.2)

theorem flatClauses_append {c : Context} {es es' : Document} {cs cs' : List Condition}
    (h : flatClauses c es = .ok cs) (h' : flatClauses c es' = .ok cs') :
    flatClauses c (es ++ es') = .ok (cs ++ cs') := by
  obtain ⟨parts, hparts, rfl⟩ := Clauses.concat_ok_iff.mp h
  obtain ⟨parts', hparts', rfl⟩ := Clauses.concat_ok_iff.mp h'
  refine Clauses.concat_ok_iff.mpr ⟨parts ++ parts', ?_, List.flatten_append.symm⟩
  rw [constraints, List.filter_append, List.map_append, List.map_append, ← hparts, ← hparts']
  rfl

theorem flatClauses_of_skipped {c : Context} {key : String} {value : Json}
    (hskip : isSkipped c.schema key value = true) : flatClauses c (entriesIn key value) = .ok [] := by
  cases hlogical : isLogical key with
  | false =>
      rw [entriesIn_of_not_logical hlogical]
      simp [flatClauses, constraints, hskip, Clauses.concat, Clauses.none]
  | true =>
      cases value with
      | array items =>
          rw [isSkipped, isAuthDataKey_of_isLogical hlogical] at hskip
          simp [wantsAbsence, Json.get?] at hskip
      | _ =>
          rw [entriesIn, if_pos hlogical]
          · rfl
          · simp

mutual

/-- The tests of a query are those of the entries in it, at every depth. -/
theorem compile_flat (c : Context) (q : List (String × Json)) {cs : List Condition} (h : compile c q = .ok cs) :
    ∃ ds, flatClauses c (fieldEntries q) = .ok ds ∧ SameTests (Condition.testsOfAll cs) (Condition.testsOfAll ds) := by
  match q with
  | [] =>
      cases h
      exact ⟨[], rfl, fun _ _ => Iff.rfl⟩
  | (key, value) :: rest =>
      rw [compile] at h
      rw [fieldEntries]
      split at h
      · rename_i hskip
        obtain ⟨ds, hds, hsame⟩ := compile_flat c rest h
        exact ⟨ds, flatClauses_append (flatClauses_of_skipped hskip) hds, hsame⟩
      · rename_i hskip
        obtain ⟨as, bs, ha, hb, rfl⟩ := Clauses.append_ok h
        obtain ⟨ds, hds, hentry⟩ := compileEntry_flat c key value (Bool.not_eq_true _ ▸ hskip) ha
        obtain ⟨es, hes, hrest⟩ := compile_flat c rest hb
        refine ⟨ds ++ es, flatClauses_append hds hes, ?_⟩
        rw [Condition.testsOfAll_append, Condition.testsOfAll_append]
        exact hentry.append hrest

theorem compileEntry_flat (c : Context) (key : String) (value : Json) {cs : List Condition}
    (hskip : isSkipped c.schema key value = false) (h : compileEntry c key value = .ok cs) :
    ∃ ds, flatClauses c (entriesIn key value) = .ok ds ∧
      SameTests (Condition.testsOfAll cs) (Condition.testsOfAll ds) := by
  cases hlogical : isLogical key with
  | false =>
      rw [compileEntry_of_not_logical c hlogical, required_ok_iff] at h
      rw [entriesIn_of_not_logical hlogical]
      refine ⟨cs, ?_, fun _ _ => Iff.rfl⟩
      simp [flatClauses, constraints, hskip, Clauses.concat, h.1, Clauses.append_none]
  | true =>
      match value with
      | .array items =>
          rw [compileEntry, if_pos hlogical] at h
          rw [entriesIn, if_pos hlogical]
          split at h
          · rename_i members hmembers
            cases h
            obtain ⟨ds, hds, hsame⟩ := compileMembers_flat c key items hmembers
            refine ⟨ds, hds, fun t ht => ?_⟩
            rw [Condition.testsOfAll_cons, Condition.testsOfAll_nil, List.append_nil, ← hsame t ht]
            exact sameTests_combine key members t ht
          · cases h
      | .null | .bool _ | .number _ | .string _ | .object _ =>
          simp only [compileEntry, if_pos hlogical] at h
          cases h

theorem compileMembers_flat (c : Context) (key : String) (items : List Json) {css : List (List Condition)}
    (h : compileMembers c key items = .ok css) :
    ∃ ds, flatClauses c (memberEntries items) = .ok ds ∧
      SameTests (Condition.testsOfMembers css) (Condition.testsOfAll ds) := by
  match items with
  | [] =>
      cases h
      exact ⟨[], rfl, fun _ _ => Iff.rfl⟩
  | .object fields :: rest =>
      rw [compileMembers] at h
      split at h
      · rename_i cs hcs
        obtain ⟨dss, hdss, rfl⟩ := after_ok h
        obtain ⟨ds, hds, hfields⟩ := compile_flat c fields hcs
        obtain ⟨es, hes, hrest⟩ := compileMembers_flat c key rest hdss
        refine ⟨ds ++ es, flatClauses_append hds hes, ?_⟩
        rw [Condition.testsOfMembers_cons, Condition.testsOfAll_append]
        exact hfields.append hrest
      · cases h
  | .null :: _ | .bool _ :: _ | .number _ :: _ | .string _ :: _ | .array _ :: _ => cases h

end

end Docstore.Query
