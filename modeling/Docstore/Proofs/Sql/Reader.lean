import Docstore.Sql.Template

/-!
# Reading SQL

What the text of a statement shows to a reader that knows the rules of quotes and of placeholders and
nothing else. A quote inside a quoted token is written twice; a placeholder is a dollar sign and the
digits behind it. Main statement: the text of a well-formed fragment is read as that fragment's tokens
(`read_render`).
-/

namespace Docstore.Sql

/-- What a reader tells apart. -/
inductive Lexeme
  /-- A character outside quotes. -/
  | char (c : Char)
  /-- What double quotes enclose. -/
  | name (s : String)
  /-- What single quotes enclose. -/
  | literal (s : String)
  | placeholder (n : Nat)
deriving DecidableEq, Repr

namespace Reader

/-- Where a reader stands. -/
inductive Position
  | outside
  /-- Inside quotes, behind the given characters of the token. -/
  | inside (q : Char) (token : List Char)
  /-- Behind a quote that ends the token unless a second one follows. -/
  | atQuote (q : Char) (token : List Char)
  /-- Behind a dollar sign and digits. -/
  | inNumber (digits : List Char)

def quotedLexeme (q : Char) (token : List Char) : Lexeme :=
  if q = '"' then .name (String.ofList token) else .literal (String.ofList token)

/-- A placeholder; a dollar sign without digits is a character like others. -/
def numberLexeme (digits : List Char) : Lexeme :=
  if digits = [] then .char '$' else .placeholder (Nat.ofDigitChars 10 digits 0)

/-- The first character of what follows a token. -/
def start (c : Char) : Position × List Lexeme :=
  if c = '"' ∨ c = '\'' then (.inside c [], [])
  else if c = '$' then (.inNumber [], [])
  else (.outside, [.char c])

/-- Reads one character and gives what is complete with it. -/
def step : Position → Char → Position × List Lexeme
  | .outside, c => start c
  | .inside q token, c => if c = q then (.atQuote q token, []) else (.inside q (token ++ [c]), [])
  | .atQuote q token, c =>
    if c = q then (.inside q (token ++ [c]), [])
    else ((start c).1, quotedLexeme q token :: (start c).2)
  | .inNumber digits, c =>
    if c.isDigit then (.inNumber (digits ++ [c]), [])
    else ((start c).1, numberLexeme digits :: (start c).2)

/-- What the end of the text completes; a text must not end inside quotes. -/
def finish : Position → Option (List Lexeme)
  | .outside => some []
  | .inside _ _ => none
  | .atQuote q token => some [quotedLexeme q token]
  | .inNumber digits => some [numberLexeme digits]

def run : Position → List Char → Option (List Lexeme)
  | p, [] => finish p
  | p, c :: cs => (run (step p c).1 cs).map ((step p c).2 ++ ·)

end Reader

/-- The lexemes of a text that starts and ends outside quotes. -/
def read (s : String) : Option (List Lexeme) := Reader.run .outside s.toList

def Lexeme.placeholder? : Lexeme → Option Nat
  | placeholder n => some n
  | _ => none

/-- A lexeme of well-formed SQL whose names and constants are of the given kinds. -/
def Lexeme.Allowed (names literals : String → Prop) : Lexeme → Prop
  | char c => c ≠ '"' ∧ c ≠ '\'' ∧ c ≠ '$'
  | name s => names s
  | literal s => literals s
  | placeholder _ => True

/-- How often a quote or a dollar sign marks a lexeme. -/
def Lexeme.marks (x : Char) : Lexeme → Nat
  | char _ => 0
  | name _ => if x = '"' then 2 else 0
  | literal _ => if x = '\'' then 2 else 0
  | placeholder _ => if x = '$' then 1 else 0

def Lexeme.marksOfAll (x : Char) : List Lexeme → Nat
  | [] => 0
  | l :: ls => l.marks x + marksOfAll x ls

/-- The placeholders outside quotes, as they are read. -/
def readPlaceholders (s : String) : Option (List Nat) :=
  (read s).map (·.filterMap Lexeme.placeholder?)

/-! ## Well-formed fragments -/

/-- Text without quotes and dollar signs. -/
def IsPlain (s : String) : Prop := ∀ c ∈ s.toList, c ≠ '"' ∧ c ≠ '\'' ∧ c ≠ '$'

/-- A character that neither a number nor a quoted token goes on with. -/
def EndsToken (c : Char) : Prop := c.isDigit = false ∧ c ≠ '"' ∧ c ≠ '\''

/-- Text that a token before it does not go on with. -/
def StartsApart (s : String) : Prop := ∃ c ∈ s.toList.head?, EndsToken c

-- Decided on the text's characters; the instance for all characters would try each there is.
instance (s : String) : Decidable (IsPlain s) :=
  List.decidableBAll (fun c => c ≠ '"' ∧ c ≠ '\'' ∧ c ≠ '$') s.toList

instance (c : Char) : Decidable (EndsToken c) :=
  inferInstanceAs (Decidable (c.isDigit = false ∧ c ≠ '"' ∧ c ≠ '\''))

instance (s : String) : Decidable (StartsApart s) :=
  s.toList.head?.decidableExistsMem

namespace Fragment

/-- What stands behind a token does not go on with it. -/
def Detached : Fragment → Prop
  | [] => True
  | .text s :: rest =>
    match s.toList with
    | [] => Detached rest
    | c :: _ => EndsToken c
  | _ :: _ => False

/-- Plain text, names and constants of the given kinds, and placeholders, each told from the next. -/
def WellFormed (names literals : String → Prop) : Fragment → Prop
  | [] => True
  | .text s :: rest => IsPlain s ∧ WellFormed names literals rest
  | .name s :: rest => names s ∧ Detached rest ∧ WellFormed names literals rest
  | .literal s :: rest => literals s ∧ Detached rest ∧ WellFormed names literals rest
  | .placeholder _ :: rest => Detached rest ∧ WellFormed names literals rest

/-- The lexemes that a fragment's tokens are read as. -/
def lexemes : Fragment → List Lexeme
  | [] => []
  | .text s :: rest => s.toList.map .char ++ lexemes rest
  | .name s :: rest => .name s :: lexemes rest
  | .literal s :: rest => .literal s :: lexemes rest
  | .placeholder n :: rest => .placeholder n :: lexemes rest

/-- A fragment's characters. -/
def chars (f : Fragment) : List Char := f.flatMap Token.chars

end Fragment

/-! ## Reading what was rendered -/

namespace Reader

theorem run_plain (cs rest : List Char) (h : ∀ c ∈ cs, c ≠ '"' ∧ c ≠ '\'' ∧ c ≠ '$') :
    run .outside (cs ++ rest) = (run .outside rest).map (cs.map .char ++ ·) := by
  induction cs with
  | nil => simp
  | cons c cs ih =>
      obtain ⟨h1, h2, h3⟩ := h c (by simp)
      have hs : start c = (.outside, [.char c]) := by simp [start, h1, h2, h3]
      rw [List.cons_append, run]
      simp only [step, hs]
      rw [ih fun d hd => h d (by simp [hd])]
      cases run .outside rest <;> rfl

/-- A quoted token is read up to its closing quote. -/
theorem run_inside (q : Char) (token cs rest : List Char) :
    run (.inside q token) (cs.flatMap (fun c => if c = q then [q, q] else [c]) ++ q :: rest) =
      run (.atQuote q (token ++ cs)) rest := by
  induction cs generalizing token with
  | nil => simp [run, step]
  | cons c cs ih =>
      by_cases hc : c = q
      · subst hc
        simp [run, step, ih]
      · simp [run, step, hc, ih]

theorem run_digits (read ds rest : List Char) (h : ∀ c ∈ ds, c.isDigit = true) :
    run (.inNumber read) (ds ++ rest) = run (.inNumber (read ++ ds)) rest := by
  induction ds generalizing read with
  | nil => simp
  | cons c ds ih =>
      have hc := h c (by simp)
      rw [List.cons_append, run]
      simp only [step, hc, ↓reduceIte]
      rw [ih _ fun d hd => h d (by simp [hd])]
      simp

/-- A quoted token ends where something else begins. -/
theorem run_atQuote {q : Char} (hq : q = '"' ∨ q = '\'') (token : List Char) {cs : List Char}
    (h : ∀ c ∈ cs.head?, EndsToken c) :
    run (.atQuote q token) cs = (run .outside cs).map (quotedLexeme q token :: ·) := by
  cases cs with
  | nil => rfl
  | cons c cs =>
      obtain ⟨-, h1, h2⟩ := h c (by simp)
      have hc : c ≠ q := by rcases hq with rfl | rfl <;> assumption
      simp only [run, step, hc, ↓reduceIte]
      cases run (start c).1 cs <;> rfl

/-- A number ends where something else begins. -/
theorem run_inNumber (digits : List Char) {cs : List Char} (h : ∀ c ∈ cs.head?, EndsToken c) :
    run (.inNumber digits) cs = (run .outside cs).map (numberLexeme digits :: ·) := by
  cases cs with
  | nil => rfl
  | cons c cs =>
      have hc : c.isDigit = false := (h c (by simp)).1
      simp only [run, step, hc, Bool.false_eq_true, ↓reduceIte]
      cases run (start c).1 cs <;> rfl

theorem run_quoted {q : Char} (hq : q = '"' ∨ q = '\'') (s : String) {rest : List Char}
    (h : ∀ c ∈ rest.head?, EndsToken c) :
    run .outside (quoted q s ++ rest) = (run .outside rest).map (quotedLexeme q s.toList :: ·) := by
  have hs : start q = (.inside q [], []) := by rcases hq with rfl | rfl <;> rfl
  calc run .outside (quoted q s ++ rest)
      = run (.inside q [])
          (s.toList.flatMap (fun c => if c = q then [q, q] else [c]) ++ q :: rest) := by
        simp [quoted, run, step, hs]
    _ = run (.atQuote q s.toList) rest := by rw [run_inside]; simp
    _ = _ := run_atQuote hq _ h

theorem run_placeholder (n : Nat) {rest : List Char} (h : ∀ c ∈ rest.head?, EndsToken c) :
    run .outside (Token.chars (.placeholder n) ++ rest) =
      (run .outside rest).map (Lexeme.placeholder n :: ·) := by
  have hd : ∀ c ∈ Nat.toDigits 10 n, c.isDigit = true := fun c hc =>
    Nat.isDigit_of_mem_toDigits (by decide) (by decide) hc
  calc run .outside (Token.chars (.placeholder n) ++ rest)
      = run (.inNumber []) (Nat.toDigits 10 n ++ rest) := by
        simp [Token.chars, run, step, start]
    _ = run (.inNumber (Nat.toDigits 10 n)) rest := by rw [run_digits _ _ _ hd]; simp
    _ = (run .outside rest).map (numberLexeme (Nat.toDigits 10 n) :: ·) := run_inNumber _ h
    _ = _ := by simp [numberLexeme, Nat.toDigits_ne_nil]

end Reader

namespace Fragment

variable {names literals : String → Prop}

theorem chars_cons (t : Token) (rest : Fragment) : chars (t :: rest) = t.chars ++ chars rest := rfl

theorem Detached.head {f : Fragment} (h : Detached f) : ∀ c ∈ (chars f).head?, EndsToken c := by
  match f with
  | [] => simp [chars]
  | .text s :: rest =>
      simp only [Detached] at h
      rw [chars_cons, Token.chars]
      split at h
      · rename_i hs
        rw [hs, List.nil_append]
        exact Detached.head h
      · rename_i c cs hs
        simpa [hs] using h

theorem WellFormed.run_chars {f : Fragment} (h : WellFormed names literals f) :
    Reader.run .outside (chars f) = some (lexemes f) := by
  match f with
  | [] => rfl
  | .text s :: rest =>
      rw [chars_cons, Token.chars, Reader.run_plain _ _ h.1, WellFormed.run_chars h.2]
      rfl
  | .name s :: rest =>
      rw [chars_cons, Token.chars, Reader.run_quoted (.inl rfl) s h.2.1.head,
        WellFormed.run_chars h.2.2]
      simp [Reader.quotedLexeme, lexemes]
  | .literal s :: rest =>
      rw [chars_cons, Token.chars, Reader.run_quoted (.inr rfl) s h.2.1.head,
        WellFormed.run_chars h.2.2]
      simp [Reader.quotedLexeme, lexemes]
  | .placeholder n :: rest =>
      rw [chars_cons, Reader.run_placeholder n h.1.head, WellFormed.run_chars h.2]
      rfl

/-- The text of a well-formed fragment is read as the fragment's tokens. -/
theorem WellFormed.read_render {f : Fragment} (h : WellFormed names literals f) :
    read (render f) = some (lexemes f) := by
  rw [read, render, String.toList_ofList]
  exact h.run_chars

theorem placeholders_lexemes (f : Fragment) :
    (lexemes f).filterMap Lexeme.placeholder? = placeholders f := by
  match f with
  | [] => rfl
  | .text s :: rest =>
      have hs : s.toList.filterMap (Lexeme.placeholder? ∘ Lexeme.char) = [] := by
        simp [Lexeme.placeholder?]
      rw [lexemes, List.filterMap_append, List.filterMap_map, hs, placeholders_lexemes rest]
      rfl
  | .name _ :: rest => exact placeholders_lexemes rest
  | .literal _ :: rest => exact placeholders_lexemes rest
  | .placeholder n :: rest => exact congrArg (n :: ·) (placeholders_lexemes rest)

theorem WellFormed.readPlaceholders_render {f : Fragment} (h : WellFormed names literals f) :
    readPlaceholders (render f) = some (placeholders f) := by
  rw [readPlaceholders, h.read_render, Option.map_some, placeholders_lexemes]

theorem WellFormed.lexemes_allowed {f : Fragment} (h : WellFormed names literals f) :
    ∀ l ∈ lexemes f, l.Allowed names literals := by
  match f with
  | [] => simp [lexemes]
  | .text s :: rest =>
      intro l hl
      rcases List.mem_append.mp hl with hl | hl
      · obtain ⟨c, hc, rfl⟩ := List.mem_map.mp hl
        exact h.1 c hc
      · exact WellFormed.lexemes_allowed h.2 l hl
  | .name s :: rest =>
      exact List.forall_mem_cons.mpr ⟨h.1, WellFormed.lexemes_allowed h.2.2⟩
  | .literal s :: rest =>
      exact List.forall_mem_cons.mpr ⟨h.1, WellFormed.lexemes_allowed h.2.2⟩
  | .placeholder n :: rest =>
      exact List.forall_mem_cons.mpr ⟨trivial, WellFormed.lexemes_allowed h.2⟩

theorem count_quoted {x : Char} (q : Char) {s : String} (h : x ∉ s.toList) :
    (quoted q s).count x = if x = q then 2 else 0 := by
  have hz : (s.toList.flatMap fun c => if c = q then [q, q] else [c]).count x = 0 := by
    rw [List.count_eq_zero]
    intro hm
    obtain ⟨c, hc, hm⟩ := List.mem_flatMap.mp hm
    split at hm <;> simp_all
  by_cases hq : x = q
  · subst hq; simp [quoted, hz]
  · simp [quoted, hz, hq, Ne.symm hq]

theorem count_placeholder {x : Char} (hx : x = '"' ∨ x = '\'' ∨ x = '$') (n : Nat) :
    (Token.chars (.placeholder n)).count x = if x = '$' then 1 else 0 := by
  have hz : (Nat.toDigits 10 n).count x = 0 := by
    rw [List.count_eq_zero]
    intro hm
    have hd := Nat.isDigit_of_mem_toDigits (by decide) (by decide) hm
    rcases hx with rfl | rfl | rfl <;> simp at hd
  by_cases hq : x = '$'
  · subst hq; simp [Token.chars, hz]
  · simp [Token.chars, hz, hq, Ne.symm hq]

theorem marksOfAll_chars (x : Char) (cs : List Char) (ls : List Lexeme) :
    Lexeme.marksOfAll x (cs.map .char ++ ls) = Lexeme.marksOfAll x ls := by
  induction cs with
  | nil => rfl
  | cons c cs ih =>
      rw [List.map_cons, List.cons_append, Lexeme.marksOfAll, ih, Lexeme.marks, Nat.zero_add]

/-- A mark that is in no name and no constant occurs in the text as often as the lexemes say. -/
theorem WellFormed.count_chars {f : Fragment} (h : WellFormed names literals f) {x : Char}
    (hx : x = '"' ∨ x = '\'' ∨ x = '$') (hn : ∀ s, names s → x ∉ s.toList)
    (hl : ∀ s, literals s → x ∉ s.toList) :
    (chars f).count x = Lexeme.marksOfAll x (lexemes f) := by
  match f with
  | [] => rfl
  | .text s :: rest =>
      have hs : s.toList.count x = 0 := by
        rw [List.count_eq_zero]
        intro hm
        obtain ⟨h1, h2, h3⟩ := h.1 x hm
        rcases hx with e | e | e <;> contradiction
      rw [chars_cons, List.count_append, Token.chars, hs, WellFormed.count_chars h.2 hx hn hl,
        lexemes, marksOfAll_chars, Nat.zero_add]
  | .name s :: rest =>
      rw [chars_cons, List.count_append, Token.chars, count_quoted _ (hn s h.1),
        WellFormed.count_chars h.2.2 hx hn hl]
      rfl
  | .literal s :: rest =>
      rw [chars_cons, List.count_append, Token.chars, count_quoted _ (hl s h.1),
        WellFormed.count_chars h.2.2 hx hn hl]
      rfl
  | .placeholder n :: rest =>
      rw [chars_cons, List.count_append, count_placeholder hx,
        WellFormed.count_chars h.2 hx hn hl]
      rfl

end Fragment

end Docstore.Sql
