import Docstore.Proofs.Sql.Nesting
import Docstore.Proofs.Sql.Statements

/-!
# Expressions

What an assignment's text says to a reader that knows how closely operators bind: casts closest, then sums and
differences, then all others, each from left to right. Main statement: operands between parentheses are taken
together from left to right where no operator binds closer than one before it (`Chain.isOperand`).
-/

namespace Docstore.Sql

/-! ## Words -/

/-- What a text is made of besides blanks. -/
inductive Word
  | name (s : String)
  | literal (s : String)
  | placeholder (n : Nat)
  /-- A run of letters and digits. -/
  | word (cs : List Char)
  /-- A run of characters that operators are written with. -/
  | operator (cs : List Char)
  /-- Any other character. -/
  | mark (c : Char)
deriving DecidableEq, Repr

namespace Word

def isWordChar (c : Char) : Bool := c.isAlphanum || c = '_'

def isOperatorChar (c : Char) : Bool := "+-*/<>=~!@#%^&|?:".toList.contains c

/-- Puts a lexeme in front of words; a character goes on with a run of its kind. -/
def cons (l : Lexeme) (ws : List Word) : List Word :=
  match l with
  | .name s => .name s :: ws
  | .literal s => .literal s :: ws
  | .placeholder n => .placeholder n :: ws
  | .char c =>
    if isWordChar c then
      match ws with
      | .word cs :: ws => .word (c :: cs) :: ws
      | ws => .word [c] :: ws
    else if isOperatorChar c then
      match ws with
      | .operator cs :: ws => .operator (c :: cs) :: ws
      | ws => .operator [c] :: ws
    else .mark c :: ws

def isBlank : Word → Bool
  | mark c => c = ' '
  | _ => false

/-- A character that no run has. -/
def IsMark (c : Char) : Prop := isWordChar c = false ∧ isOperatorChar c = false

instance (c : Char) : Decidable (IsMark c) := inferInstanceAs (Decidable (_ ∧ _))

theorem cons_append_mark (l : Lexeme) (c : Char) (ws ws' : List Word) :
    cons l (ws ++ .mark c :: ws') = cons l ws ++ .mark c :: ws' := by
  cases l with
  | char d =>
      unfold cons
      dsimp only
      split
      · cases ws with
        | nil => rfl
        | cons w ws => cases w <;> rfl
      · split
        · cases ws with
          | nil => rfl
          | cons w ws => cases w <;> rfl
        · rfl
  | name s | literal s | placeholder n => rfl

theorem cons_mark {c : Char} (h : IsMark c) (ws : List Word) : cons (.char c) ws = .mark c :: ws := by
  simp [cons, h.1, h.2]

end Word

/-- The words that lexemes are taken together to. -/
def Lexeme.words (ls : List Lexeme) : List Word := (ls.foldr Word.cons []).filter (!·.isBlank)

/-- Words end at a mark. -/
theorem Lexeme.words_append_mark {c : Char} (h : Word.IsMark c) (ls ls' : List Lexeme) :
    words (ls ++ .char c :: ls') = words ls ++ words (.char c :: ls') := by
  have hfold : (ls ++ .char c :: ls').foldr Word.cons [] =
      ls.foldr Word.cons [] ++ .mark c :: ls'.foldr Word.cons [] := by
    induction ls with
    | nil => exact Word.cons_mark h _
    | cons l ls ih => rw [List.cons_append, List.foldr_cons, ih, Word.cons_append_mark, List.foldr_cons]
  rw [words, hfold, List.filter_append, words, words, List.foldr_cons, Word.cons_mark h]

theorem Lexeme.words_cons_mark {c : Char} (h : Word.IsMark c) (hblank : c ≠ ' ') (ls : List Lexeme) :
    words (.char c :: ls) = .mark c :: words ls := by
  rw [words, List.foldr_cons, Word.cons_mark h, List.filter_cons_of_pos (by simpa [Word.isBlank] using hblank), words]

theorem Lexeme.words_append_blank (ls ls' : List Lexeme) :
    words (ls ++ .char ' ' :: ls') = words ls ++ words ls' := by
  have hblank : Word.IsMark ' ' := by decide
  rw [words_append_mark hblank, words, words, words, List.foldr_cons, Word.cons_mark hblank]
  rfl

namespace Fragment

/-- A fragment that adds the same words to whatever text it stands behind. -/
def Adds (f : Fragment) (ws : List Word) : Prop :=
  ∀ ls, Lexeme.words (ls ++ lexemes f) = Lexeme.words ls ++ ws

variable {f g : Fragment} {ws ws' : List Word}

theorem Adds.nil : Adds [] [] := fun ls => by simp [lexemes]

theorem Adds.append (hf : Adds f ws) (hg : Adds g ws') : Adds (f ++ g) (ws ++ ws') := by
  intro ls
  rw [lexemes_append, ← List.append_assoc, hg, hf, List.append_assoc]

theorem Adds.of_blank (h : (lexemes f).head? = some (.char ' ')) (hws : Lexeme.words (lexemes f) = ws) : Adds f ws := by
  intro ls
  obtain ⟨ls', hls'⟩ := List.head?_eq_some_iff.mp h
  -- The blank in front keeps the first word apart from the text before it.
  rw [hls', Lexeme.words_append_blank, ← hws, hls']
  exact congrArg (_ ++ ·) (Lexeme.words_append_blank [] ls').symm

end Fragment

/-! ## What expressions are made of -/

inductive CastType
  | text
  | jsonb
  | double
deriving DecidableEq, Repr

/-- A function of two arguments that updates of objects call. -/
inductive Builtin
  | coalesce
  | buildObject
deriving DecidableEq, Repr

namespace Builtin

def name : Builtin → String
  | coalesce => "COALESCE"
  | buildObject => "jsonb_build_object"

def ofName? (cs : List Char) : Option Builtin := [coalesce, buildObject].find? (·.name.toList = cs)

end Builtin

inductive BinaryOperator
  | minus
  | plus
  /-- Puts the right operand over the left one. -/
  | concat
  /-- The text of an object's field. -/
  | fieldText
deriving DecidableEq, Repr

namespace BinaryOperator

def sign : BinaryOperator → List Char
  | minus => "-".toList
  | plus => "+".toList
  | concat => "||".toList
  | fieldText => "->>".toList

def ofSign? (cs : List Char) : Option BinaryOperator := [minus, plus, concat, fieldText].find? (·.sign = cs)

@[simp] theorem ofSign?_sign (op : BinaryOperator) : ofSign? op.sign = some op := by
  cases op <;> rfl

def closeness : BinaryOperator → Nat
  | minus | plus => 2
  | concat | fieldText => 1

end BinaryOperator

inductive Expression
  | column (name : String)
  | parameter (n : Nat)
  /-- A constant whose type follows from its place. -/
  | literal (s : String)
  | integer (n : Nat)
  | cast (e : Expression) (type : CastType)
  | call (f : Builtin) (x y : Expression)
  | binary (op : BinaryOperator) (x y : Expression)
deriving DecidableEq, Repr

/-! ## Reading expressions -/

namespace Expression

/-- What a reader remembers of a parenthesis that is open, or of the text as a whole. -/
structure Level where
  /-- The function whose arguments stand between the parentheses. -/
  builtin : Option Builtin
  /-- The argument before the comma. -/
  first : Option Expression
  /-- Operators without their right operands yet, the last one first, each with its left one. -/
  pending : List (Expression × BinaryOperator)

/-- Hands an operand to the operators before it that bind at least so closely. -/
def reduce (closeness : Nat) (e : Expression) :
    List (Expression × BinaryOperator) → Expression × List (Expression × BinaryOperator)
  | [] => (e, [])
  | (x, op) :: pending =>
    if closeness ≤ op.closeness then reduce closeness (.binary op x e) pending else (e, (x, op) :: pending)

namespace Level

def plain : Level := ⟨none, none, []⟩

def close (l : Level) (e : Expression) : Option Expression :=
  let e := (reduce 0 e l.pending).1
  match l.builtin, l.first with
  | none, none => some e
  | some f, some x => some (.call f x e)
  | _, _ => none

end Level

/-- Where a reader stands: the levels around it, the innermost first, and what it has just read. -/
inductive State
  | wanting (ls : List Level)
  | having (e : Expression) (ls : List Level)
  | calling (f : Builtin) (ls : List Level)
  | casting (e : Expression) (ls : List Level)
  /-- Behind the first word of "double precision". -/
  | castingDouble (e : Expression) (ls : List Level)

def State.step : State → Word → Option State
  | wanting ls, .name s => some (having (.column s) ls)
  | wanting ls, .placeholder n => some (having (.parameter n) ls)
  | wanting ls, .literal s => some (having (.literal s) ls)
  | wanting ls, .mark '(' => some (wanting (.plain :: ls))
  | wanting ls, .word cs =>
    if cs.all Char.isDigit then some (having (.integer (Nat.ofDigitChars 10 cs 0)) ls)
    else (Builtin.ofName? cs).map (calling · ls)
  | calling f ls, .mark '(' => some (wanting (⟨some f, none, []⟩ :: ls))
  | having e (l :: ls), .operator cs =>
    if cs = "::".toList then some (casting e (l :: ls))
    else do
      let op ← BinaryOperator.ofSign? cs
      let (e, pending) := reduce op.closeness e l.pending
      return wanting (⟨l.builtin, l.first, (e, op) :: pending⟩ :: ls)
  | having e (⟨some f, none, pending⟩ :: ls), .mark ',' =>
    some (wanting (⟨some f, some (reduce 0 e pending).1, []⟩ :: ls))
  | having e (l :: l' :: ls), .mark ')' => (l.close e).map (having · (l' :: ls))
  | casting e ls, .word cs =>
    if cs = "text".toList then some (having (.cast e .text) ls)
    else if cs = "jsonb".toList then some (having (.cast e .jsonb) ls)
    else if cs = "double".toList then some (castingDouble e ls)
    else none
  | castingDouble e ls, .word cs => if cs = "precision".toList then some (having (.cast e .double) ls) else none
  | _, _ => none

def read? (ws : List Word) : Option Expression := do
  match ← ws.foldlM State.step (.wanting [.plain]) with
  | .having e [l] => l.close e
  | _ => none

/-! ## Chains of operands -/

/-- Words that are read as one operand wherever one is wanted. -/
def IsOperand (ws : List Word) (e : Expression) : Prop :=
  ∀ l ls, ws.foldlM State.step (.wanting (l :: ls)) = some (.having e (l :: ls))

variable {e x : Expression} {pending : List (Expression × BinaryOperator)} {c c' : Nat}

theorem reduce_mono (h : reduce c x pending = (e, [])) (hc : c' ≤ c) : reduce c' x pending = (e, []) := by
  induction pending generalizing x with
  | nil => exact h
  | cons p pending ih =>
      obtain ⟨y, op⟩ := p
      rw [reduce] at h ⊢
      split at h
      next hclose =>
        rw [if_pos (Nat.le_trans hc hclose)]
        exact ih h
      next => cases h

/-- The expression that a reader has before an operator that binds no closer than the given closeness. -/
def State.Holds (s : State) (c : Nat) (e : Expression) (l : Level) (ls : List Level) : Prop :=
  ∃ x pending, s = .having x (⟨l.builtin, l.first, pending⟩ :: ls) ∧ reduce c x pending = (e, [])

structure Link where
  operator : BinaryOperator
  words : List Word
  operand : Expression
  isOperand : IsOperand words operand

namespace Link

def spelled (k : Link) : List Word := .operator k.operator.sign :: k.words

def apply (e : Expression) (k : Link) : Expression := .binary k.operator e k.operand

end Link

variable {s : State} {l : Level} {ls : List Level}

theorem step_operator (op : BinaryOperator) (h : reduce op.closeness x pending = (e, [])) :
    State.step (.having x (⟨l.builtin, l.first, pending⟩ :: ls)) (.operator op.sign) =
      some (.wanting (⟨l.builtin, l.first, [(e, op)]⟩ :: ls)) := by
  have hcast : op.sign ≠ "::".toList := by cases op <;> decide
  rw [State.step, if_neg hcast, BinaryOperator.ofSign?_sign]
  simp [h]

theorem State.Holds.link (h : s.Holds c e l ls) {k : Link} (hc : k.operator.closeness ≤ c) :
    ∃ s', k.spelled.foldlM step s = some s' ∧ s'.Holds k.operator.closeness (k.apply e) l ls := by
  obtain ⟨x, pending, rfl, hreduce⟩ := h
  refine ⟨_, ?_, k.operand, [(e, k.operator)], rfl, ?_⟩
  · rw [Link.spelled, List.foldlM_cons, step_operator k.operator (reduce_mono hreduce hc)]
    exact k.isOperand _ _
  · rw [reduce, if_pos (Nat.le_refl _)]
    rfl

/-- Links that bind ever less closely. -/
def Chain (links : List Link) : Prop := links.Pairwise fun k k' => k'.operator.closeness ≤ k.operator.closeness

theorem State.Holds.chain {links : List Link} (h : s.Holds c e l ls) (hc : ∀ k ∈ links, k.operator.closeness ≤ c)
    (hchain : Chain links) :
    ∃ s' c', (links.flatMap Link.spelled).foldlM step s = some s' ∧ s'.Holds c' (links.foldl Link.apply e) l ls := by
  induction links generalizing s c e with
  | nil => exact ⟨s, c, rfl, h⟩
  | cons k links ih =>
      obtain ⟨hk, hlinks⟩ := List.pairwise_cons.mp hchain
      -- Behind a link the reader's closeness is that of the link's operator, which bounds those to come.
      obtain ⟨s', hs', hholds⟩ := h.link (hc k (.head _))
      obtain ⟨s'', c'', hs'', hholds'⟩ := ih hholds hk hlinks
      refine ⟨s'', c'', ?_, hholds'⟩
      rw [List.flatMap_cons, List.foldlM_append, hs']
      exact hs''

theorem Chain.isOperand {ws : List Word} {links : List Link} (hchain : Chain links) (h : IsOperand ws e) :
    IsOperand (.mark '(' :: (ws ++ links.flatMap Link.spelled ++ [.mark ')'])) (links.foldl Link.apply e) := by
  intro l ls
  have hbase : (State.having e (.plain :: l :: ls)).Holds 2 e .plain (l :: ls) := ⟨e, [], rfl, rfl⟩
  have hclose (op : BinaryOperator) : op.closeness ≤ 2 := by cases op <;> decide
  obtain ⟨s, c, hs, x, pending, rfl, hreduce⟩ := hbase.chain (fun k _ => hclose k.operator) hchain
  have hend : State.step (.having x (⟨none, none, pending⟩ :: l :: ls)) (.mark ')') =
      some (.having (links.foldl Link.apply e) (l :: ls)) := by
    rw [State.step, Level.close, reduce_mono hreduce c.zero_le]
    rfl
  rw [List.foldlM_cons]
  show (ws ++ links.flatMap Link.spelled ++ [Word.mark ')']).foldlM State.step (.wanting (.plain :: l :: ls)) = _
  rw [List.foldlM_append, List.foldlM_append, h]
  show ((links.flatMap Link.spelled).foldlM State.step (.having e (.plain :: l :: ls)) >>= _) = _
  rw [hs]
  exact hend

/-- A word that is neither a number nor a function's name begins no expression. -/
theorem read?_eq_none {cs : List Char} (hdigits : cs.all Char.isDigit = false) (hname : Builtin.ofName? cs = none)
    (ws : List Word) : read? (.word cs :: ws) = none := by
  rw [read?, List.foldlM_cons, State.step, if_neg (by simp [hdigits]), hname]
  rfl

theorem read?_of_isOperand {ws : List Word} (h : IsOperand ws e) : read? ws = some e := by
  rw [read?, h]
  rfl

end Expression

def assignedColumn? (s : String) : Option String :=
  match read s with
  | some (.name column :: _) => some column
  | _ => none

/-- The column of an assignment and what it is set to. -/
def readAssignment? (s : String) : Option (String × Expression) :=
  match (read s).map Lexeme.words with
  | some (.name column :: .operator ['='] :: ws) => (Expression.read? ws).map (column, ·)
  | _ => none

/-- A cast binds closest, a difference closer than what puts objects together. -/
example : readAssignment? "\"f\" = \"g\" || \"f\" - $1::text" =
    some ("f", .binary .concat (.column "g") (.binary .minus (.column "f") (.cast (.parameter 1) .text))) := by
  decide

end Docstore.Sql
