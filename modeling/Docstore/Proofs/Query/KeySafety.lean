import Docstore.Proofs.Query.Predicates

/-!
# What keys bring into a predicate

Keys reach the text of a predicate between quotes. A key that is let through has no character that could
end them, so the quotes and the dollar signs of the text are those of its own tokens. Main statements: the
placeholders of a predicate number its values (`predicate_placeholders`), and its quoted tokens are the
query's keys and parts of them (`predicate_quotes`).
-/

namespace Docstore.Query

open Docstore.Sql (Bindings Fragment Lexeme placeholders read readPlaceholders render)

/-! ## Valid keys -/

theorem mem_of_mem_splitOn {sep c : Char} {cs piece : List Char} (h : piece ∈ Text.splitOn sep cs)
    (hc : c ∈ piece) : c ∈ cs := by
  induction cs generalizing piece with
  | nil =>
      simp only [Text.splitOn, List.mem_singleton] at h
      subst h
      cases hc
  | cons d cs ih =>
      rw [Text.splitOn] at h
      split at h
      · rcases List.mem_cons.mp h with rfl | h
        · cases hc
        · exact .tail _ (ih h hc)
      · split at h
        · rename_i hs
          exact absurd hs (Text.splitOn_ne_nil _ _)
        · rename_i first rest hs
          rw [hs] at ih
          rcases List.mem_cons.mp h with rfl | h
          · rcases List.mem_cons.mp hc with rfl | hc
            · exact .head _
            · exact .tail _ (ih (.head _) hc)
          · exact .tail _ (ih (.tail _ h) hc)

/-- The parts of a key have no characters of their own. -/
theorem mem_of_mem_components {key s : String} {c : Char} (h : s ∈ components key)
    (hc : c ∈ s.toList) : c ∈ key.toList := by
  obtain ⟨piece, hp, rfl⟩ := List.mem_map.mp h
  rw [String.toList_ofList] at hc
  exact mem_of_mem_splitOn hp hc

theorem mem_of_mem_root {key : String} {c : Char} (hc : c ∈ (root key).toList) : c ∈ key.toList := by
  unfold root at hc
  cases hk : components key with
  | nil => simp [hk] at hc
  | cons s rest =>
      have hs : s ∈ components key := by simp [hk]
      exact mem_of_mem_components hs (by simpa [hk] using hc)

/-- An empty key, one with an empty part, or one with a quote, a backslash, a dollar sign or a control
character. -/
def IsUnsafe (key : String) : Prop :=
  key = "" ∨ "" ∈ components key ∨
    ∃ c ∈ key.toList, c = '"' ∨ c = '\'' ∨ c = '\\' ∨ c = '$' ∨ Text.isControl c = true

theorem isValidKey_iff (key : String) : isValidKey key = true ↔ ¬ IsUnsafe key := by
  have he : key = "" → "" ∈ components key := by
    rintro rfl
    decide
  have hr : key.toList.any isReserved = true ↔
      ∃ c ∈ key.toList, c = '"' ∨ c = '\'' ∨ c = '\\' ∨ c = '$' ∨ Text.isControl c = true := by
    simp [isReserved, or_assoc]
  have hc : (components key).all (· ≠ "") = true ↔ "" ∉ components key := by
    simp only [ne_eq, decide_not, List.all_eq_true, Bool.not_eq_eq_eq_not, Bool.not_true,
      decide_eq_false_iff_not]
    exact ⟨fun h hm => h _ hm rfl, fun h s hs e => h (e ▸ hs)⟩
  rw [isValidKey, Bool.and_eq_true, hc, Bool.not_eq_true', IsUnsafe, ← hr]
  constructor
  · rintro ⟨h1, h2⟩ (h | h | h)
    · exact h1 (he h)
    · exact h1 h
    · simp [h2] at h
  · intro h
    exact ⟨fun h1 => h (.inr (.inl h1)), by simpa using fun h2 => h (.inr (.inr h2))⟩

variable {keys : String → Prop} {s : String}

theorem isReserved_of_mem {key : String} (h : isValidKey key = true) {c : Char} (hc : c ∈ key.toList) :
    isReserved c = false := by
  simp only [isValidKey, Bool.and_eq_true, Bool.not_eq_true', List.any_eq_false] at h
  simpa using h.2 c hc

theorem IsNameOf.isReserved (hk : ∀ key, keys key → isValidKey key = true) (h : IsNameOf keys s) :
    ∀ c ∈ s.toList, isReserved c = false := by
  intro c hc
  obtain ⟨key, hkey, rfl | rfl⟩ := h
  · exact isReserved_of_mem (hk s hkey) hc
  · exact isReserved_of_mem (hk key hkey) (mem_of_mem_root hc)

theorem IsStepOf.isReserved (hk : ∀ key, keys key → isValidKey key = true) (h : IsStepOf keys s) :
    ∀ c ∈ s.toList, isReserved c = false := by
  intro c hc
  obtain ⟨key, hkey, hs, -⟩ := h
  exact isReserved_of_mem (hk key hkey) (mem_of_mem_components (List.mem_of_mem_tail hs) hc)

/-- Over valid keys, the marks of a text are the marks of its tokens. -/
theorem count_render (hk : ∀ key, keys key → isValidKey key = true) {f : Fragment}
    (hf : Fragment.WellFormed (IsNameOf keys) (IsStepOf keys) f) {x : Char}
    (hx : x = '"' ∨ x = '\'' ∨ x = '$') :
    (render f).toList.count x = Lexeme.marksOfAll x (Fragment.lexemes f) := by
  have hr : isReserved x = true := by rcases hx with rfl | rfl | rfl <;> decide
  rw [render, String.toList_ofList]
  refine hf.count_chars hx ?_ ?_
  · intro s hs hm
    simp [hs.isReserved hk x hm] at hr
  · intro s hs hm
    simp [hs.isReserved hk x hm] at hr

/-- The dollar signs of a text are those of its placeholders. -/
theorem count_dollar (hk : ∀ key, keys key → isValidKey key = true) {f : Fragment}
    (hf : Fragment.WellFormed (IsNameOf keys) (IsStepOf keys) f) :
    (render f).toList.count '$' = (placeholders f).length := by
  rw [count_render hk hf (.inr (.inr rfl)), ← Fragment.placeholders_lexemes]
  generalize Fragment.lexemes f = ls
  induction ls with
  | nil => rfl
  | cons l ls ih =>
      cases l <;>
        simp [Lexeme.marksOfAll, List.filterMap_cons, Lexeme.marks, Lexeme.placeholder?, ih,
          Nat.add_comm 1]

/-! ## Predicates -/

/-- Two alternatives, one a path into a document and a text, one a place to be near. -/
def nearbyQuery : Document :=
  [("$or", .array [
      .object [("a.b", .object [("$exists", .bool true)]), ("t", .string "x")],
      .object [("location", .object [
        ("$nearSphere", .object [("latitude", .int 1), ("longitude", .int 2)])])]]),
    ("title", .object [("$nin", .array [.string "x", .null, .string "y"])])]

/-- A class without declared fields, at the start of time. -/
def bareContext : Context := ⟨⟨"Post", [], none, []⟩, false, ⟨0, 0⟩⟩

/-- The placeholders of a predicate number its values from the first free one on, each once and in
order; the orders use some of them again. -/
theorem predicate_placeholders {c : Context} {q : Document} {n : Nat} {b b' : Bindings} {p : Predicate}
    (hb : Bindings.startingAt? n = some b) (h : predicate c q b = (.ok p, b')) :
    readPlaceholders (render p.sql) = some (List.range' n b'.values.length) ∧
      (render p.sql).toList.count '$' = b'.values.length ∧
      ∀ f ∈ p.orders, ∃ ns, readPlaceholders (render f) = some ns ∧
        (render f).toList.count '$' = ns.length ∧ ∀ k ∈ ns, k ∈ List.range' n b'.values.length := by
  obtain ⟨cs, hv, -, -, -⟩ := predicate_ok h
  obtain ⟨vs, rfl, hp⟩ := predicate_isOver h
  have hk := validateQuery_ok q hv
  obtain rfl := Bindings.eq_of_startingAt? hb
  simp only [Bindings.append, Bindings.next, List.nil_append, List.length_nil, Nat.add_zero] at hp ⊢
  refine ⟨?_, ?_, ?_⟩
  · rw [hp.wellFormed.readPlaceholders_render, hp.placeholders]
  · rw [count_dollar hk hp.wellFormed, hp.placeholders, List.length_range']
  · intro f hf
    obtain ⟨hw, hm⟩ := hp.orders f hf
    exact ⟨placeholders f, hw.readPlaceholders_render, count_dollar hk hw, hm⟩

set_option maxRecDepth 10000 in
theorem predicate_placeholders_nearby :
    ∃ p b', predicate bareContext nearbyQuery ⟨4, []⟩ = (.ok p, b') ∧
      readPlaceholders (render p.sql) = some [4, 5, 6, 7, 8] ∧
      ∃ f ∈ p.orders, ∃ ns, readPlaceholders (render f) = some ns ∧ ns ⊆ [4, 5, 6, 7, 8] := by
  obtain ⟨p, b', h, hb, f, hf⟩ : ∃ p b', predicate bareContext nearbyQuery ⟨4, []⟩ = (.ok p, b') ∧
      b'.values.length = 5 ∧ ∃ f, p.orders = [f] := ⟨_, _, rfl, rfl, _, rfl⟩
  obtain ⟨hp, -, ho⟩ := predicate_placeholders (n := 4) rfl h
  rw [hb] at hp ho
  have hm : f ∈ p.orders := hf ▸ .head _
  obtain ⟨ns, hns, -, hsub⟩ := ho f hm
  exact ⟨p, b', h, hp, f, hm, ns, hns, hsub⟩

/-- What the quotes of a text over some keys enclose. -/
structure QuotesOnly (keys : List String) (text : String) (lexemes : List Lexeme) : Prop where
  /-- The text starts and ends outside quotes. -/
  read : Sql.read text = some lexemes
  names : ∀ s, .name s ∈ lexemes → ∃ key ∈ keys, s = key ∨ s = root key
  literals : ∀ s, .literal s ∈ lexemes →
    ∃ key ∈ keys, s ∈ (components key).tail ∧ s.toList.all Char.isDigit = false
  /-- No quote stands anywhere but around these tokens. -/
  quotes : ∀ x, x = '"' ∨ x = '\'' → text.toList.count x = Lexeme.marksOfAll x lexemes

theorem quotesOnly_render {keys : List String} (hk : ∀ key ∈ keys, isValidKey key = true)
    {f : Fragment} (hf : Fragment.WellFormed (IsNameOf (· ∈ keys)) (IsStepOf (· ∈ keys)) f) :
    QuotesOnly keys (render f) (Fragment.lexemes f) where
  read := hf.read_render
  names := fun _ hs => hf.lexemes_allowed _ hs
  literals := by
    intro s hs
    obtain ⟨key, hkey, ht, hi⟩ := hf.lexemes_allowed _ hs
    have hne : "" ∉ components key := fun he =>
      (isValidKey_iff key).mp (hk key hkey) (.inr (.inl he))
    have hs : s ≠ "" := fun he => hne (he ▸ List.mem_of_mem_tail ht)
    exact ⟨key, hkey, ht, by simpa [Operand.isIndex, hs] using hi⟩
  quotes := fun _ hx => count_render hk hf (by rcases hx with rfl | rfl <;> simp)

/-- A query that is not valid is refused as it is, and nothing is bound. -/
theorem refused_of_validateQuery {c : Context} {q : Document} (h : validateQuery q ≠ .ok ()) (b : Bindings) :
    ∃ m, predicate c q b = (.error (.ofCause (.invalidQuery m)), b) := by
  cases hv : validateQuery q with
  | ok => exact absurd hv h
  | error f =>
      obtain ⟨m, rfl⟩ := validateQuery_error q hv
      exact ⟨m, predicate_of_validateQuery hv b⟩

/-- The quotes of an accepted query's predicate enclose its keys and parts of them, and nothing else; a
query with an unsafe key is refused before a value is bound. -/
theorem predicate_quotes {c : Context} {q : Document} {b : Bindings} :
    (∀ p b', predicate c q b = (.ok p, b') →
      ∀ f ∈ p.sql :: p.orders, ∃ ls, QuotesOnly (fieldKeys q) (render f) ls) ∧
    ∀ key ∈ fieldKeys q, IsUnsafe key →
      ∃ m, predicate c q b = (.error (.ofCause (.invalidQuery m)), b) := by
  constructor
  · intro p b' h f hf
    obtain ⟨cs, hv, -, -, -⟩ := predicate_ok h
    obtain ⟨vs, rfl, hp⟩ := predicate_isOver h
    have hw : Fragment.WellFormed (IsNameOf (· ∈ fieldKeys q)) (IsStepOf (· ∈ fieldKeys q)) f := by
      rcases List.mem_cons.mp hf with rfl | hf
      · exact hp.wellFormed
      · exact (hp.orders f hf).1
    exact ⟨_, quotesOnly_render (validateQuery_ok q hv) hw⟩
  · intro key hkey hu
    refine refused_of_validateQuery (fun hv => ?_) b
    exact absurd hu ((isValidKey_iff key).mp (validateQuery_ok q hv key hkey))

set_option maxRecDepth 10000 in
theorem predicate_quotes_nearby :
    (∃ p b' ls, predicate bareContext nearbyQuery ⟨1, []⟩ = (.ok p, b') ∧
      QuotesOnly ["a.b", "t", "location", "title"] (render p.sql) ls) ∧
    ∃ m, predicate bareContext [("$or", .array [.object [("a.b'c", .null)]])] ⟨1, []⟩ =
      (.error (.ofCause (.invalidQuery m)), ⟨1, []⟩) := by
  constructor
  · obtain ⟨p, b', h⟩ : ∃ p b', predicate bareContext nearbyQuery ⟨1, []⟩ = (.ok p, b') :=
      ⟨_, _, rfl⟩
    obtain ⟨ls, hls⟩ := predicate_quotes.1 p b' h p.sql (.head _)
    exact ⟨p, b', ls, h, hls⟩
  · exact predicate_quotes.2 "a.b'c" (.head _) (.inr (.inr ⟨'\'', by decide, .inr (.inl rfl)⟩))

end Docstore.Query
