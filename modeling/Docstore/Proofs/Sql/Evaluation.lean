import Docstore.Json.Parser
import Docstore.Proofs.Number.Exactness
import Docstore.Proofs.Sql.Expressions
import Docstore.Proofs.Sql.Items

/-!
# Values of expressions

What the engine makes of an expression on a row. Of documents it is told what updates of objects use: a key is
removed, an object is put over another one, whose fields it keeps otherwise, and a number is taken out of an object
as text. What is beyond this, as what the engine refuses, has no value here.
-/

namespace Docstore

/--
The double nearest to the sum of two, unless it is out of range. As in documents there is one zero only.
-/
def Double.sum? (x y : Double) : Option Double :=
  let total := x.position + y.position
  let sum := ofQuotient (total < 0) total.natAbs BinaryFormat.double.one
  if x.isFinite && y.isFinite && sum.isFinite then some sum else none

namespace Double

/-- Nothing is lost where a number is added to zero, except the sign of a zero. -/
theorem sum?_zero {x : Double} (h : x.isFinite = true) : ∃ y, sum? 0 x = some y ∧ eq x y = true := by
  have hmagnitude : x.magnitude < BinaryFormat.double.infinity := by simpa [isFinite] using h
  have hbits : x.magnitude < 0x8000000000000000 := Nat.lt_trans hmagnitude (by decide)
  have hsize : x.position.natAbs = x.units := by
    rw [position]
    split <;> simp
  obtain ⟨negative, hnegative⟩ : ∃ negative : Bool, negative = decide (x.position < 0) := ⟨_, rfl⟩
  have hsum : ofQuotient (x.position < 0) x.position.natAbs BinaryFormat.double.one =
      ofMagnitude negative x.magnitude := by
    rw [ofQuotient, hsize, units, BinaryFormat.nearest_units _ hmagnitude, hnegative]
  have hfinite : (ofMagnitude negative x.magnitude).isFinite = true := by
    rw [isFinite, magnitude_ofMagnitude negative hbits]
    exact h
  have hplace : (ofMagnitude negative x.magnitude).position = x.position := by
    have hunits : (ofMagnitude negative x.magnitude).units = x.units := by
      rw [units, magnitude_ofMagnitude negative hbits, units]
    rw [position, isNegative_ofMagnitude negative hbits, hunits, hnegative, position]
    cases x.isNegative
    all_goals
      simp only [decide_eq_true_eq, if_true, Bool.false_eq_true, if_false]
      split <;> omega
  refine ⟨ofMagnitude negative x.magnitude, ?_, ?_⟩
  · have hzero : position 0 = 0 := by decide
    have hzero' : isFinite 0 = true := by decide
    simp only [sum?, hzero, Int.zero_add, hsum, hzero', h, hfinite, Bool.and_self, if_true]
  · simp [eq, isNaN_of_isFinite h, isNaN_of_isFinite hfinite, hplace]

end Double

namespace Sql

inductive Datum
  | null
  | number (x : Double)
  | text (s : String)
  | json (v : Json)
  /-- The text of a document that is no string. -/
  | shown (v : Json)

namespace Datum

def ofValue? : Value → Option Datum
  | .null => some null
  | .number x => some (number x)
  | .string s => some (text s)
  | .json v => some (json v)
  | _ => none

/-- The fields of an object; nothing counts as the empty one. -/
def fields? : Datum → Option Document
  | json (.object fields) => some fields
  | null => some []
  | _ => none

def cast : CastType → Datum → Option Datum
  | _, null => some null
  | .text, text s => some (text s)
  | .text, shown v => some (shown v)
  | .jsonb, json v => some (json v)
  | .jsonb, text s => (Json.parse? s).map json
  | .double, number x => some (number x)
  | .double, shown v => v.double?.map number
  | _, _ => none

/-- A field as text, which for a string is the string itself. -/
def ofField : Option Json → Datum
  | none | some .null => null
  | some (.string s) => text s
  | some v => shown v

def toJson? : Datum → Option Json
  | null => some .null
  | number x => some (.number (.float x))
  | text s => some (.string s)
  | json v => some v
  | shown _ => none

def buildObject : Datum → Datum → Option Datum
  | text key, x => x.toJson?.map fun v => json (.object [(key, v)])
  | _, _ => none

end Datum

/-- What an operator makes of its operands. One that is missing leaves nothing. -/
def BinaryOperator.apply : BinaryOperator → Datum → Datum → Option Datum
  | _, .null, _ | _, _, .null => some .null
  | minus, .json (.object fields), .text key => some (.json (.object (fields.filter (·.1 ≠ key))))
  | plus, .number x, .number y => (x.sum? y).map .number
  | concat, .json (.object fields), .json (.object fields') => some (.json (.object (Fields.insertAll fields fields')))
  | fieldText, .json (.object fields), .text key => some (.ofField (Fields.get? key fields))
  | _, _, _ => none

/-- The value of an expression on a row, with values for its placeholders. -/
def Expression.eval (row : String → Datum) (b : Bindings) : Expression → Option Datum
  | column name => some (row name)
  | parameter n => (b.value? n).bind Datum.ofValue?
  | literal s => some (.text s)
  | integer n => some (.number (.ofInt n))
  | cast e type => (e.eval row b).bind (Datum.cast type)
  | call .coalesce x y => do
    match ← x.eval row b with
    | .null => y.eval row b
    | d => return d
  | call .buildObject x y => do Datum.buildObject (← x.eval row b) (← y.eval row b)
  | binary op x y => do op.apply (← x.eval row b) (← y.eval row b)

namespace Expression

variable {row : String → Datum} {b : Bindings}

@[simp] theorem eval_column (name : String) : (column name).eval row b = some (row name) := rfl

@[simp] theorem eval_parameter (n : Nat) : (parameter n).eval row b = (b.value? n).bind Datum.ofValue? := rfl

@[simp] theorem eval_cast (e : Expression) (type : CastType) :
    (cast e type).eval row b = (e.eval row b).bind (Datum.cast type) := rfl

theorem eval_binary (op : BinaryOperator) {x y : Expression} {d d' : Datum} (hx : x.eval row b = some d)
    (hy : y.eval row b = some d') : (binary op x y).eval row b = op.apply d d' := by
  rw [eval, hx, hy]
  rfl

theorem eval_buildObject {x y : Expression} {d d' : Datum} (hx : x.eval row b = some d)
    (hy : y.eval row b = some d') : (call .buildObject x y).eval row b = Datum.buildObject d d' := by
  rw [eval, hx, hy]
  rfl

theorem eval_coalesce_of_null {x y : Expression} (hx : x.eval row b = some .null) :
    (call .coalesce x y).eval row b = y.eval row b := by
  rw [eval, hx]
  rfl

theorem eval_coalesce_of_ne_null {x y : Expression} {d : Datum} (hx : x.eval row b = some d) (hd : d ≠ .null) :
    (call .coalesce x y).eval row b = some d := by
  rw [eval, hx]
  cases d <;> first | rfl | exact absurd rfl hd

end Expression

end Sql

end Docstore
