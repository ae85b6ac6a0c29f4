import Docstore.Proofs.Sql.Numbering

/-!
# Parentheses and separators

How a text nests, and how it comes apart at a separator outside quotes and parentheses. A scanner that
remembers how much of the separator it has seen goes over templates part by part; text that it lets pass
comes apart where the separator was put between such texts and nowhere else (`splitOutside_join`).
-/

namespace Docstore.Sql

/-! ## Nesting -/

namespace Lexeme

def chars : Lexeme → List Char
  | char c => [c]
  | name s => quoted '"' s
  | literal s => quoted '\'' s
  | placeholder n => '$' :: Nat.toDigits 10 n

def render (ls : List Lexeme) : String := String.ofList (ls.flatMap chars)

/-- How deep a text that starts at a depth ends; none if it closes what was never opened. -/
def depth? : Nat → List Lexeme → Option Nat
  | d, [] => some d
  | d, .char c :: ls =>
    if c = '(' then depth? (d + 1) ls
    else if c = ')' then (if d = 0 then none else depth? (d - 1) ls)
    else depth? d ls
  | d, _ :: ls => depth? d ls

def deeper (d : Nat) (l : Lexeme) : Nat :=
  if l = .char '(' then d + 1 else if l = .char ')' then d - 1 else d

def pushFront (l : Lexeme) : List (List Lexeme) → List (List Lexeme)
  | [] => [[l]]
  | p :: ps => (l :: p) :: ps

/-- The pieces between separators outside parentheses, after skipping some lexemes. -/
def splitFrom (sep : List Lexeme) : Nat → Nat → List Lexeme → List (List Lexeme)
  | _, _, [] => [[]]
  | skip + 1, d, _ :: ls => splitFrom sep skip d ls
  | 0, d, l :: ls =>
    if d = 0 ∧ sep <+: l :: ls then [] :: splitFrom sep (sep.length - 1) 0 ls
    else pushFront l (splitFrom sep 0 (deeper d l) ls)

end Lexeme

/-- Parentheses outside quotes match. -/
def IsBalanced (s : String) : Prop := ∃ ls, read s = some ls ∧ Lexeme.depth? 0 ls = some 0

/-- The pieces of a text between separators outside quotes and parentheses. -/
def splitOutside (sep s : String) : Option (List String) :=
  (read s).map fun ls => (Lexeme.splitFrom (sep.toList.map .char) 0 0 ls).map Lexeme.render

/-! ## Scanning -/

/-- Where a scanner for a separator stands. -/
inductive Spot
  /-- Outside parentheses, with what is missing of a separator that has begun; nothing if none has. -/
  | top (missing : List Char)
  /-- Inside one more pair of parentheses than the number says. -/
  | deep (d : Nat)
deriving DecidableEq

namespace Spot

def depth : Spot → Nat
  | top _ => 0
  | deep d => d + 1

/-- The spot behind something that is neither a blank nor a parenthesis and begins no separator. -/
def settle : Spot → Spot
  | top _ => top []
  | deep d => deep d

/-- What follows the first blank of a separator, a word between blanks. -/
def behindBlank (word : List Char) : List Char := word ++ [' ']

/-- Reads a character; none where a separator is complete or a parenthesis has no partner. -/
def readChar (word : List Char) (c : Char) : Spot → Option Spot
  | top missing =>
    if missing = [c] then none
    else if c = ' ' then some (top (behindBlank word))
    else if c = '(' then some (deep 0)
    else if c = ')' then none
    else if missing.head? = some c then some (top missing.tail)
    else some (top [])
  | deep d =>
    if c = '(' then some (deep (d + 1))
    else if c = ')' then some (if d = 0 then top [] else deep (d - 1))
    else some (deep d)

def step (word : List Char) (s : Spot) : Lexeme → Option Spot
  | .char c => s.readChar word c
  | _ => some s.settle

def run (word : List Char) : Spot → List Lexeme → Option Spot
  | s, [] => some s
  | s, l :: ls => (s.step word l).bind (run word · ls)

variable {word : List Char}

theorem run_append (s : Spot) (ls ms : List Lexeme) :
    run word s (ls ++ ms) = (run word s ls).bind (run word · ms) := by
  induction ls generalizing s with
  | nil => rfl
  | cons l ls ih =>
      rw [List.cons_append, run, run]
      cases s.step word l with
      | none => rfl
      | some s' => exact ih s'

def within (d : Nat) : Spot → Spot
  | top _ => deep d
  | deep e => deep (d + e + 1)

theorem readChar_within {s s' : Spot} {c : Char} (h : s.readChar word c = some s') (d : Nat) :
    (s.within d).readChar word c = some (s'.within d) := by
  cases s with
  | top missing =>
      simp only [readChar] at h
      simp only [within, readChar]
      repeat' split at h
      all_goals cases h
      all_goals simp [*]
  | deep e =>
      simp only [readChar] at h
      simp only [within, readChar]
      repeat' split at h
      all_goals cases h
      · simp [*, Nat.add_assoc]
      · simp [*]
      · simp [*]
        omega
      · simp [*]

theorem step_within {s s' : Spot} {l : Lexeme} (h : s.step word l = some s') (d : Nat) :
    (s.within d).step word l = some (s'.within d) := by
  cases l with
  | char c => exact readChar_within h d
  | _ =>
      cases h
      cases s <;> rfl

theorem run_within {s s' : Spot} {ls : List Lexeme} (h : run word s ls = some s') (d : Nat) :
    run word (s.within d) ls = some (s'.within d) := by
  induction ls generalizing s with
  | nil =>
      cases h
      rfl
  | cons l ls ih =>
      obtain ⟨u, hu, hs'⟩ := Option.bind_eq_some_iff.mp h
      rw [run, step_within hu]
      exact ih hs'

theorem step_depth {s s' : Spot} {l : Lexeme} (h : s.step word l = some s') :
    s'.depth = Lexeme.deeper s.depth l ∧ ∀ ls, Lexeme.depth? s.depth (l :: ls) = Lexeme.depth? s'.depth ls := by
  cases l with
  | char c =>
      cases s with
      | top missing =>
          simp only [step, readChar] at h
          repeat' split at h
          all_goals cases h
          all_goals simp [depth, Lexeme.depth?, Lexeme.deeper, *]
      | deep e =>
          simp only [step, readChar] at h
          repeat' split at h
          all_goals cases h
          all_goals simp [depth, Lexeme.depth?, Lexeme.deeper, *]
          have he : e - 1 + 1 = e := by omega
          simp [he]
  | _ =>
      cases h
      cases s <;> simp [settle, depth, Lexeme.depth?, Lexeme.deeper]

theorem run_depth {s s' : Spot} {ls : List Lexeme} (h : run word s ls = some s') :
    Lexeme.depth? s.depth ls = some s'.depth := by
  induction ls generalizing s with
  | nil =>
      cases h
      rfl
  | cons l ls ih =>
      obtain ⟨u, hu, hs'⟩ := Option.bind_eq_some_iff.mp h
      rw [(step_depth hu).2, ih hs']

end Spot

/-! ## Coming apart -/

/-- A word that blanks and parentheses stand apart from. -/
def IsWord (word : List Char) : Prop := ∀ c ∈ word, c ≠ ' ' ∧ c ≠ '(' ∧ c ≠ ')'

instance (word : List Char) : Decidable (IsWord word) :=
  List.decidableBAll (fun c => c ≠ ' ' ∧ c ≠ '(' ∧ c ≠ ')') word

def separator (word : List Char) : List Lexeme := (' ' :: Spot.behindBlank word).map .char

namespace Lexeme

theorem foldr_pushFront (ls p : List Lexeme) (ps : List (List Lexeme)) :
    ls.foldr pushFront (p :: ps) = (ls ++ p) :: ps := by
  induction ls with
  | nil => rfl
  | cons l ls ih => rw [List.foldr_cons, ih]; rfl

theorem splitFrom_skip (sep ls tail : List Lexeme) (d : Nat) :
    splitFrom sep ls.length d (ls ++ tail) = splitFrom sep 0 d tail := by
  induction ls with
  | nil => rfl
  | cons l ls ih => exact ih

theorem splitFrom_separator (word : List Char) (tail : List Lexeme) :
    splitFrom (separator word) 0 0 (separator word ++ tail) =
      [] :: splitFrom (separator word) 0 0 tail := by
  have hp : separator word <+: separator word ++ tail := List.prefix_append _ _
  rw [separator, List.map_cons, List.cons_append] at hp ⊢
  rw [splitFrom, if_pos ⟨rfl, hp⟩, List.length_cons, Nat.add_sub_cancel, splitFrom_skip]

variable {word : List Char}

/-- A separator that has begun is not completed by what passes. -/
theorem not_prefix_of_run {begun : List Char} (hbegun : IsWord begun) {ls : List Lexeme}
    (h : Spot.run word (.top (Spot.behindBlank begun)) ls = some (.top [])) (tail : List Lexeme) :
    ¬ (Spot.behindBlank begun).map Lexeme.char <+: ls ++ tail := by
  induction ls generalizing begun with
  | nil =>
      cases begun <;> cases h
  | cons l ls ih =>
      intro hp
      obtain ⟨u, hu, hrun⟩ := Option.bind_eq_some_iff.mp h
      cases begun with
      | nil =>
          obtain ⟨rfl, -⟩ := List.cons_prefix_cons.mp hp
          simp [Spot.step, Spot.readChar, Spot.behindBlank] at hu
      | cons c begun =>
          obtain ⟨rfl, hrest⟩ := List.cons_prefix_cons.mp hp
          obtain ⟨hc, hbegun⟩ := List.forall_mem_cons.mp hbegun
          have hne : c :: Spot.behindBlank begun ≠ [c] := by simp [Spot.behindBlank]
          have hstep : Spot.step word (.top (c :: Spot.behindBlank begun)) (.char c) =
              some (.top (Spot.behindBlank begun)) := by
            simp [Spot.step, Spot.readChar, hne, hc]
          cases hstep.symm.trans hu
          exact ih hbegun hrun hrest

theorem splitFrom_append (hword : IsWord word) {s : Spot} {ls : List Lexeme}
    (h : Spot.run word s ls = some (.top [])) (tail : List Lexeme) :
    splitFrom (separator word) 0 s.depth (ls ++ tail) =
      ls.foldr pushFront (splitFrom (separator word) 0 0 tail) := by
  induction ls generalizing s with
  | nil =>
      cases h
      rfl
  | cons l ls ih =>
      obtain ⟨u, hu, hrun⟩ := Option.bind_eq_some_iff.mp h
      -- A separator that began here would be completed by what passes.
      have hbegins : ¬ (s.depth = 0 ∧ separator word <+: l :: (ls ++ tail)) := by
        rintro ⟨hd, hp⟩
        obtain ⟨rfl, hrest⟩ := List.cons_prefix_cons.mp hp
        cases s with
        | deep d => cases hd
        | top missing =>
            have hstep : u = .top (Spot.behindBlank word) := by
              simp only [Spot.step, Spot.readChar] at hu
              split at hu
              · cases hu
              · exact (Option.some.inj hu).symm
            rw [hstep] at hrun
            exact not_prefix_of_run hword hrun tail hrest
      rw [List.cons_append, splitFrom, if_neg hbegins, ← (Spot.step_depth hu).1, ih hrun]
      rfl

end Lexeme

namespace Fragment

variable {names literals : String → Prop}

theorem lexemes_append (f g : Fragment) : lexemes (f ++ g) = lexemes f ++ lexemes g := by
  induction f with
  | nil => rfl
  | cons token f ih => cases token <;> simp [lexemes, ih]

theorem render_lexemes (f : Fragment) : Lexeme.render (lexemes f) = Sql.render f := by
  have hchars : (lexemes f).flatMap Lexeme.chars = f.flatMap Token.chars := by
    induction f with
    | nil => rfl
    | cons token f ih =>
        cases token with
        | text s =>
            have hs : (s.toList.map Lexeme.char).flatMap Lexeme.chars = s.toList := by
              rw [List.flatMap_map]
              exact List.flatMap_singleton' s.toList
            rw [lexemes, List.flatMap_append, hs, ih, List.flatMap_cons, Token.chars]
        | _ => rw [lexemes, List.flatMap_cons, ih]; rfl
  rw [Lexeme.render, hchars, Sql.render]

theorem render_append (f g : Fragment) : Sql.render (f ++ g) = Sql.render f ++ Sql.render g := by
  simp only [Sql.render, List.flatMap_append, String.ofList_append]

theorem render_joinFragments (sep : String) (fs : List Fragment) :
    Sql.render (joinFragments sep fs) = sep.intercalate (fs.map Sql.render) := by
  match fs with
  | [] => rfl
  | [f] => simp [joinFragments]
  | f :: g :: fs =>
      have ih := render_joinFragments sep (g :: fs)
      have hsep : Sql.render (.text sep :: joinFragments sep (g :: fs)) =
          sep ++ Sql.render (joinFragments sep (g :: fs)) := by
        simp [Sql.render, Token.chars]
      calc Sql.render (joinFragments sep (f :: g :: fs))
          = Sql.render f ++ Sql.render (.text sep :: joinFragments sep (g :: fs)) := render_append _ _
        _ = sep.intercalate ((f :: g :: fs).map Sql.render) := by
          rw [hsep, ih, ← String.append_assoc, List.map_cons, List.map_cons, List.map_cons,
            String.intercalate_cons_cons]

/-- Fragment that is all one piece to a scanner. -/
def Passes (word : List Char) (f : Fragment) : Prop :=
  Spot.run word (.top []) (lexemes f) = some (.top [])

variable {word : List Char}

theorem Passes.isBalanced {f : Fragment} (hf : f.WellFormed names literals) (h : f.Passes word) :
    IsBalanced (Sql.render f) :=
  ⟨lexemes f, hf.read_render, Spot.run_depth h⟩

theorem splitFrom_joinFragments (hword : IsWord word) {sep : String}
    (hsep : sep.toList = ' ' :: Spot.behindBlank word) {fs : List Fragment} (hfs : fs ≠ [])
    (h : ∀ f ∈ fs, f.Passes word) :
    Lexeme.splitFrom (separator word) 0 0 (lexemes (joinFragments sep fs)) = fs.map lexemes := by
  match fs with
  | [f] =>
      have hf := Lexeme.splitFrom_append hword (h f (.head _)) []
      rw [List.append_nil] at hf
      exact hf.trans (by simp [Lexeme.splitFrom, Lexeme.foldr_pushFront])
  | f :: g :: fs =>
      have ih := splitFrom_joinFragments hword hsep (List.cons_ne_nil g fs) fun k hk => h k (.tail _ hk)
      have hsep' : sep.toList.map Lexeme.char = separator word := by rw [hsep]; rfl
      have hf := Lexeme.splitFrom_append hword (h f (.head _))
        (separator word ++ lexemes (joinFragments sep (g :: fs)))
      have hjoin : lexemes (joinFragments sep (f :: g :: fs)) =
          lexemes f ++ (separator word ++ lexemes (joinFragments sep (g :: fs))) := by
        rw [← hsep']
        exact lexemes_append f _
      rw [Spot.depth] at hf
      rw [hjoin, hf, Lexeme.splitFrom_separator, ih, Lexeme.foldr_pushFront, List.append_nil]
      rfl

theorem splitOutside_join (hword : IsWord word) {sep : String}
    (hsep : sep.toList = ' ' :: Spot.behindBlank word) {fs : List Fragment} (hfs : fs ≠ [])
    (h : ∀ f ∈ fs, f.Passes word) (hf : (joinFragments sep fs).WellFormed names literals) :
    splitOutside sep (Sql.render (joinFragments sep fs)) = some (fs.map Sql.render) := by
  have hsep' : sep.toList.map Lexeme.char = separator word := by rw [hsep]; rfl
  rw [splitOutside, hf.read_render, Option.map_some, hsep', splitFrom_joinFragments hword hsep hfs h,
    List.map_map]
  simp only [Function.comp_def, render_lexemes]

theorem Passes.splitOutside_eq (hword : IsWord word) {sep : String}
    (hsep : sep.toList = ' ' :: Spot.behindBlank word) {f : Fragment}
    (hf : f.WellFormed names literals) (h : f.Passes word) :
    splitOutside sep (Sql.render f) = some [Sql.render f] := by
  have hpieces : ∀ g ∈ [f], g.Passes word := by
    intro g hg
    rw [List.mem_singleton.mp hg]
    exact h
  have hjoin : joinFragments sep [f] = f := rfl
  have hsplit := splitOutside_join hword hsep (List.cons_ne_nil f []) hpieces (hjoin.symm ▸ hf)
  rw [hjoin] at hsplit
  exact hsplit

end Fragment

/-! ## Scanning templates -/

namespace Template

theorem render_words (s : String) (next : Nat) : render ((words s).number next) = s := by
  simp [words, number, render, Token.chars]

theorem render_words_append (s : String) (t : Template) (next : Nat) :
    render ((words s ++ t).number next) = s ++ render (t.number next) := by
  simp [words, number, render, Token.chars]

theorem render_enclose (before after : String) (t : Template) (next : Nat) :
    render ((words before ++ t ++ words after).number next) =
      before ++ render (t.number next) ++ after := by
  simp [number_append, words, number, render, Token.chars, String.append_assoc]

def scan (word : List Char) : Spot → Template → Option Spot
  | s, [] => some s
  | s, .text str :: t => (Spot.run word s (str.toList.map .char)).bind (scan word · t)
  | s, _ :: t => scan word s.settle t

variable {word : List Char}

theorem run_number (s : Spot) (t : Template) (next : Nat) :
    Spot.run word s (Fragment.lexemes (number next t)) = scan word s t := by
  induction t generalizing s next with
  | nil => rfl
  | cons part t ih =>
      cases part with
      | text str =>
          rw [number, Fragment.lexemes, Spot.run_append, scan]
          simp only [ih]
      | _ => exact ih s.settle _

theorem scan_append (s : Spot) (t u : Template) :
    scan word s (t ++ u) = (scan word s t).bind (scan word · u) := by
  simp only [← run_number s (t ++ u) 1, number_append, Fragment.lexemes_append, Spot.run_append,
    run_number]

theorem scan_within {s s' : Spot} {t : Template} (h : scan word s t = some s') (d : Nat) :
    scan word (s.within d) t = some (s'.within d) := by
  rw [← run_number _ _ 1]
  exact Spot.run_within ((run_number _ _ 1).trans h) d

/-- A template that passes, also behind a blank that may begin a separator. -/
structure Solid (word : List Char) (t : Template) : Prop where
  clear : scan word (.top []) t = some (.top [])
  behindBlank : scan word (.top (Spot.behindBlank word)) t = some (.top [])

namespace Solid

variable {t u : Template}

theorem deep (h : Solid word t) (d : Nat) : scan word (.deep d) t = some (.deep d) :=
  scan_within h.clear d

theorem passes (h : Solid word t) (next : Nat) : (number next t).Passes word :=
  (run_number _ _ next).trans h.clear

theorem followed (h : Solid word t) (hu : scan word (.top []) u = some (.top [])) :
    Solid word (t ++ u) where
  clear := by rw [scan_append, h.clear]; exact hu
  behindBlank := by rw [scan_append, h.behindBlank]; exact hu

theorem enclose {before after : Template} {d : Nat}
    (hclear : scan word (.top []) before = some (.deep d))
    (hblank : scan word (.top (Spot.behindBlank word)) before = some (.deep d))
    (ht : scan word (.deep d) t = some (.deep d)) (hafter : scan word (.deep d) after = some (.top [])) :
    Solid word (before ++ (t ++ after)) where
  clear := by rw [scan_append, hclear, Option.bind_some, scan_append, ht]; exact hafter
  behindBlank := by rw [scan_append, hblank, Option.bind_some, scan_append, ht]; exact hafter

/-- Solid templates with another separator between them, one that ends in a blank. -/
theorem join {sep : String}
    (hsep : scan word (.top []) (words sep) = some (.top (Spot.behindBlank word))) {ts : List Template}
    (hts : ts ≠ []) (h : ∀ t ∈ ts, Solid word t) : Solid word (join sep ts) := by
  match ts with
  | [t] => exact h t (.head _)
  | t :: u :: ts =>
      have ih := Solid.join hsep (List.cons_ne_nil u ts) fun v hv => h v (.tail _ hv)
      rw [join_cons_cons, List.append_assoc]
      apply (h t (.head _)).followed
      rw [scan_append, hsep]
      exact ih.behindBlank

end Solid

end Template

end Docstore.Sql
